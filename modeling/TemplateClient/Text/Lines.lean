/-!
# Lines of a text

How many lines a text has when a line feed ends a line: what follows the last line feed is a line
of its own only if it holds a character.
-/

namespace TemplateClient.Text

/-- The number of lines; `openLine` tells whether the current line holds a character already. -/
def countLines (openLine : Bool) : List Char → Nat
  | [] => if openLine then 1 else 0
  | '\n' :: cs => countLines false cs + 1
  | _ :: cs => countLines true cs

/-- The number of lines of a text; a line feed at the very end opens no further line. -/
def lineCount (s : String) : Nat :=
  countLines false s.toList

example : lineCount "" = 0 := by decide
example : lineCount "a\nb" = 2 := by decide
example : lineCount "a\n" = 1 := by decide
example : lineCount "\n\n" = 2 := by decide

end TemplateClient.Text
