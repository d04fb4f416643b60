import TemplateClient.Toml.Text
import TemplateClient.Toml.Scalar

/-!
# Reading a TOML document

* `Toml.key?`, `Toml.path?` -- keys and dotted keys;
* `Toml.value?` -- values, with arrays and inline tables inside each other;
* `Toml.Statement`, `Toml.statement?` -- a line that says something;
* `Toml.parse?` -- the table that a document describes.
-/

namespace TemplateClient.Toml

/-! ## 1. Space -/

/-- The text without the white space in front, on the same line. -/
def skipSpace (cs : List Char) : List Char := cs.dropWhile isSpace

/-- The text without the comment in front, if it begins with one; its line end stays. -/
def skipComment? : List Char → Option (List Char)
  | '#' :: cs =>
    let rest := cs.dropWhile isPrintable
    if rest.isEmpty || (newline? rest).isSome then some rest else none
  | cs => some cs

/-- The text without the white space, comments and line ends in front, in at most `n` lines. -/
def skipLines? : Nat → List Char → Option (List Char)
  | 0, cs => some cs
  | n + 1, cs =>
    match skipComment? (skipSpace cs) with
    | none => none
    | some cs =>
      match newline? cs with
      | some cs => skipLines? n cs
      | none => some cs

/-- The text without the white space, comments and line ends in front. -/
def skipAll? (cs : List Char) : Option (List Char) := skipLines? (cs.length + 1) cs

/-! ## 2. Keys -/

/-- The characters of a key that is written without marks. -/
def isBare (c : Char) : Bool := c.isAlphanum || c == '_' || c == '-'

/-- The key that the text begins with, and what follows it. -/
def key? (cs : List Char) : Option (String × List Char) :=
  match cs with
  | '\x22' :: _ | '\x27' :: _ => (lineString? cs).map fun (k, cs) => (String.ofList k, cs)
  | cs =>
    let k := cs.takeWhile isBare
    if k.isEmpty then none else some (String.ofList k, cs.dropWhile isBare)

/-- The dotted key that the text begins with, of at most `n` parts, and what follows it. -/
def keys? : Nat → List Char → Option (List String × List Char)
  | 0, _ => none
  | n + 1, cs =>
    match key? (skipSpace cs) with
    | none => none
    | some (k, cs) =>
      match skipSpace cs with
      | '.' :: cs => (keys? n cs).map fun (ks, cs) => (k :: ks, cs)
      | cs => some ([k], cs)

/-- A dotted key has at most this many parts. -/
def partsLimit : Nat := 80

/-- The dotted key that the text begins with, and what follows it. -/
def path? (cs : List Char) : Option (List String × List Char) := keys? partsLimit cs

/-! ## 3. Values -/

/-- Arrays and inline tables nest at most this deep. -/
def nestingLimit : Nat := 80

/-- What follows the equals sign of an entry in braces. Line ends may stand around the sign. -/
def equals? (cs : List Char) : Option (List Char) :=
  match skipAll? cs with
  | some ('=' :: cs) => skipAll? cs
  | _ => none

mutual

/-- The value that the text begins with, and what follows it. Further in stand at most `levels`
levels of arrays and inline tables; `n` bounds the number of parts. -/
def valueOf? (levels : Nat) : Nat → List Char → Option (Value × List Char)
  | 0, _ => none
  | n + 1, cs =>
    match cs with
    | '[' :: cs =>
      if levels = 0 then none
      else (items? (levels - 1) n [] cs).map fun (vs, cs) => (.array vs, cs)
    | '\x7b' :: cs =>
      if levels = 0 then none
      else (entries? (levels - 1) n [] cs).map fun (es, cs) => (.table .braces es, cs)
    | '\x22' :: _ | '\x27' :: _ => (string? cs).map fun (s, cs) => (.string (String.ofList s), cs)
    | cs =>
      let (word, rest) := splitWord cs
      (word? word).map (·, rest)
  termination_by structural n => n

/-- The rest of an array, after the items in `collected` (latest first). -/
def items? (levels : Nat) : Nat → List Value → List Char → Option (List Value × List Char)
  | 0, _, _ => none
  | n + 1, collected, cs =>
    match skipAll? cs with
    | none => none
    | some (']' :: cs) => some (collected.reverse, cs)
    | some cs =>
      match valueOf? levels n cs with
      | none => none
      | some (v, cs) =>
        match skipAll? cs with
        | some (']' :: cs) => some ((v :: collected).reverse, cs)
        | some (',' :: cs) => items? levels n (v :: collected) cs
        | _ => none
  termination_by structural n => n

/-- The rest of an inline table, after the entries in `collected`. -/
def entries? (levels : Nat) : Nat → Entries → List Char → Option (Entries × List Char)
  | 0, _, _ => none
  | n + 1, collected, cs =>
    match skipAll? cs with
    | none => none
    | some ('\x7d' :: cs) => some (collected, cs)
    | some cs =>
      match (path? cs).bind fun (path, cs) => (equals? cs).map (path, ·) with
      | none => none
      | some (path, cs) =>
        match valueOf? levels n cs with
        | none => none
        | some (v, cs) =>
          match insert? path v collected, skipAll? cs with
          | some es, some ('\x7d' :: cs) => some (es, cs)
          | some es, some (',' :: cs) => entries? levels n es cs
          | _, _ => none
  termination_by structural n => n

end

/-- The value that the text begins with, and what follows it. -/
def value? (cs : List Char) : Option (Value × List Char) :=
  valueOf? nestingLimit (2 * cs.length + 2) cs

/-! ## 4. Statements -/

/-- A line that says something. -/
inductive Statement where
  /-- A header: the entries below belong to this table. -/
  | table (path : List String)
  /-- A header of double brackets: the entries below belong to a new table of this list. -/
  | row (path : List String)
  /-- A key and its value. -/
  | entry (path : List String) (value : Value)

/-- The statement that the text begins with, and what follows it. -/
def statement? (cs : List Char) : Option (Statement × List Char) :=
  match cs with
  | '[' :: '[' :: cs =>
    match path? cs with
    | some (path, ']' :: ']' :: cs) => some (.row path, cs)
    | _ => none
  | '[' :: cs =>
    match path? cs with
    | some (path, ']' :: cs) => some (.table path, cs)
    | _ => none
  | cs =>
    match path? cs with
    | some (path, '=' :: cs) => (value? (skipSpace cs)).map fun (v, cs) => (.entry path v, cs)
    | _ => none

/-- What follows the end of a line that may still hold a comment. -/
def endOfLine? (cs : List Char) : Option (List Char) :=
  match skipComment? (skipSpace cs) with
  | some [] => some []
  | some cs => newline? cs
  | none => none

/-- The statements of a text, at most `n`. -/
def statements? : Nat → List Char → Option (List Statement)
  | 0, _ => none
  | n + 1, cs =>
    match skipAll? cs with
    | none => none
    | some [] => some []
    | some cs =>
      match statement? cs with
      | none => none
      | some (st, cs) => (endOfLine? cs).bind fun cs => (statements? n cs).map (st :: ·)

/-! ## 5. Documents -/

/-- A document that has been read in part: the path of the latest header, and all entries. -/
structure Document where
  opened : List String := []
  entries : Entries := []

/-- The document after one more statement. -/
def Document.add? (d : Document) : Statement → Option Document
  | .table path => (openTable? path d.entries).map fun entries => ⟨path, entries⟩
  | .row path => (openRow? path d.entries).map fun entries => ⟨path, entries⟩
  | .entry path v => (insertUnder? d.opened path v d.entries).map fun entries => { d with entries }

/-- The entries of the table that a document describes. A byte order mark in front is skipped. -/
def parse? (s : String) : Option Entries :=
  let cs := s.toList
  let cs := if cs.head? = some '\uFEFF' then cs.drop 1 else cs
  (statements? (cs.length + 1) cs).bind fun sts =>
    (sts.foldlM Document.add? {}).map Document.entries

end TemplateClient.Toml
