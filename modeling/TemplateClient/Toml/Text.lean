import TemplateClient.Number.Hex

/-!
# TOML strings

The four forms of a string: between quotation marks with escapes, between apostrophes without, and
each of them between triple marks over several lines. Every reader takes the characters after the
opening mark and gives the text and what follows the closing mark.
-/

namespace TemplateClient.Toml

/-! ## 1. Characters -/

/-- White space inside a line. -/
def isSpace (c : Char) : Bool := c == ' ' || c == '\t'

/-- A character that may stand in a string or a comment: no control character but the tab. -/
def isPrintable (c : Char) : Bool := c == '\t' || (0x20 ≤ c.toNat && c.toNat != 0x7F)

/-- What follows a line end, if the text begins with one. -/
def newline? : List Char → Option (List Char)
  | '\n' :: cs => some cs
  | '\r' :: '\n' :: cs => some cs
  | _ => none

/-- The value of `count` hexadecimal digits, and what follows them. -/
def hex? (value : Nat) : Nat → List Char → Option (Nat × List Char)
  | 0, cs => some (value, cs)
  | _ + 1, [] => none
  | n + 1, c :: cs =>
    match Hex.value? c with
    | none => none
    | some d => hex? (value * 16 + d) n cs

/-- The character of a code point; a surrogate is none. -/
def scalar? (n : Nat) : Option Char :=
  if n < 0xD800 ∨ (0xDFFF < n ∧ n < 0x110000) then some (Char.ofNat n) else none

/-- The character that an escape names, given what follows the backslash. -/
def escape? : List Char → Option (Char × List Char)
  | 'b' :: cs => some ('\x08', cs)
  | 't' :: cs => some ('\t', cs)
  | 'n' :: cs => some ('\n', cs)
  | 'f' :: cs => some ('\x0c', cs)
  | 'r' :: cs => some ('\r', cs)
  | 'e' :: cs => some ('\x1b', cs)
  | '\x22' :: cs => some ('\x22', cs)
  | '\\' :: cs => some ('\\', cs)
  | 'x' :: cs => (hex? 0 2 cs).bind fun (n, cs) => (scalar? n).map (·, cs)
  | 'u' :: cs => (hex? 0 4 cs).bind fun (n, cs) => (scalar? n).map (·, cs)
  | 'U' :: cs => (hex? 0 8 cs).bind fun (n, cs) => (scalar? n).map (·, cs)
  | _ => none

/-! ## 2. Strings on one line -/

/-- The rest of a string between apostrophes. -/
def literal? (collected : List Char) : List Char → Option (List Char × List Char)
  | [] => none
  | c :: cs =>
    if c = '\x27' then some (collected.reverse, cs)
    else if isPrintable c then literal? (c :: collected) cs
    else none

/-- The rest of a string between quotation marks, in at most `n` characters and escapes. -/
def basic? (collected : List Char) : Nat → List Char → Option (List Char × List Char)
  | 0, _ => none
  | _ + 1, [] => none
  | n + 1, c :: cs =>
    if c = '\x22' then some (collected.reverse, cs)
    else if c = '\\' then
      match escape? cs with
      | some (d, cs) => basic? (d :: collected) n cs
      | none => none
    else if isPrintable c then basic? (c :: collected) n cs
    else none

/-! ## 3. Strings over several lines -/

/-- How many marks stand in front, up to `limit`, and what follows them. -/
def marks (mark : Char) : Nat → List Char → Nat × List Char
  | 0, cs => (0, cs)
  | _ + 1, [] => (0, [])
  | limit + 1, c :: cs =>
    if c = mark then
      let (n, cs) := marks mark limit cs
      (n + 1, cs)
    else (0, c :: cs)

/-- The text without the white space and line ends in front. -/
def dropBlank : List Char → List Char
  | [] => []
  | '\r' :: '\n' :: cs => dropBlank cs
  | c :: cs => if isSpace c || c == '\n' then dropBlank cs else c :: cs

/-- What follows a backslash at the end of a line: the line end, and all white space after it. -/
def continuation? (cs : List Char) : Option (List Char) :=
  (newline? (cs.dropWhile isSpace)).map dropBlank

/-- The rest of a string between triple marks, in at most `n` pieces. Up to two marks may stand
inside, also in front of the closing ones. Escapes count only if `escapes` is set. -/
def block? (mark : Char) (escapes : Bool) (collected : List Char) :
    Nat → List Char → Option (List Char × List Char)
  | 0, _ => none
  | _ + 1, [] => none
  | n + 1, c :: cs =>
    if c = mark then
      let (count, rest) := marks mark 5 (c :: cs)
      if 3 ≤ count then some (collected.reverse ++ List.replicate (count - 3) mark, rest)
      else block? mark escapes (List.replicate count mark ++ collected) n rest
    else if escapes && c == '\\' then
      match continuation? cs with
      | some cs => block? mark escapes collected n cs
      | none =>
        match escape? cs with
        | some (d, cs) => block? mark escapes (d :: collected) n cs
        | none => none
    else if c == '\n' || isPrintable c then block? mark escapes (c :: collected) n cs
    else if c == '\r' && cs.head? == some '\n' then block? mark escapes (c :: collected) n cs
    else none

/-- The string that the text begins with, on one line. -/
def lineString? : List Char → Option (List Char × List Char)
  | '\x22' :: cs => basic? [] (cs.length + 1) cs
  | '\x27' :: cs => literal? [] cs
  | _ => none

/-- The string that the text begins with, in any form. A line end right after triple marks is not
part of the string. -/
def string? : List Char → Option (List Char × List Char)
  | '\x22' :: '\x22' :: '\x22' :: cs =>
    block? '\x22' true [] (cs.length + 1) ((newline? cs).getD cs)
  | '\x27' :: '\x27' :: '\x27' :: cs =>
    block? '\x27' false [] (cs.length + 1) ((newline? cs).getD cs)
  | cs => lineString? cs

end TemplateClient.Toml
