/-!
# Tables of characters

Large tables are written as rows of text; a blank is a place without a character.

* `cells` -- the places of a table, row by row;
* `cell?` -- the character at a place.
-/

namespace TemplateClient

/-- The places of a table, row by row. A row that is short is filled up with blanks. -/
def cells (width : Nat) (rows : List String) : Array Char :=
  (rows.flatMap fun row =>
    let cs := row.toList
    cs ++ List.replicate (width - cs.length) ' ').toArray

/-- The character at a place, if there is one. -/
def cell? (table : Array Char) (place : Nat) : Option Char :=
  table[place]?.filter (· != ' ')

end TemplateClient
