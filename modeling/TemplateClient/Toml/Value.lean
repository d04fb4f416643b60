/-!
# TOML values and tables

* `Toml.Value` -- a value of a TOML document;
* `Toml.Value.isReadable` -- whether every number in it can be told;
* `Toml.Entries` -- the entries of a table, in the order of writing;
* `Toml.insert?` -- a key gets a value, at the end of a path of dotted keys;
* `Toml.openTable?`, `Toml.openRow?` -- what a header does to the tables around it.

A table can be spread over a document, but not redefined. So a table remembers what made it:
a header, a dotted key, or only the mention of a table inside it. An inline table, like every other
value, is complete where it stands. A dotted key adds to a table only if dotted keys have made it.
-/

namespace TemplateClient.Toml

/-! ## 1. Values -/

/-- What made a table. -/
inductive Maker where
  /-- The path of a header that names a table further in. -/
  | mention
  /-- A dotted key. -/
  | dots
  /-- A header of its own. -/
  | header
  /-- Braces. -/
  | braces
deriving DecidableEq, Repr

/-- A value. Of a float or a date only its kind is kept. -/
inductive Value where
  | string (s : String)
  | integer (n : Int)
  | float
  /-- A number in good form that is out of range, or has no digit after the mark of its base. It may
  stand where nobody looks at it. -/
  | unreadable
  | bool (b : Bool)
  | dateTime
  | array (items : List Value)
  | table (maker : Maker) (entries : List (String × Value))
  /-- Tables under one header of double brackets, latest first. -/
  | rows (rows : List (List (String × Value)))

/-- The entries of a table. -/
abbrev Entries := List (String × Value)

mutual

/-- Every number in the value can be told. -/
def Value.isReadable : Value → Bool
  | .unreadable => false
  | .array items => itemsReadable items
  | .table _ entries => entriesReadable entries
  | .rows rows => rowsReadable rows
  | _ => true

/-- Every number in the items can be told. -/
def itemsReadable : List Value → Bool
  | [] => true
  | v :: vs => v.isReadable && itemsReadable vs

/-- Every number in the entries can be told. -/
def entriesReadable : List (String × Value) → Bool
  | [] => true
  | (_, v) :: es => v.isReadable && entriesReadable es

/-- Every number in the rows can be told. -/
def rowsReadable : List (List (String × Value)) → Bool
  | [] => true
  | row :: rows => entriesReadable row && rowsReadable rows

end

/-! ## 2. Changing one table -/

/-- The entries with another value for a key that they hold. -/
def replace (k : String) (v : Value) (es : Entries) : Entries :=
  es.map fun e => if e.1 == k then (k, v) else e

/-- Changes the table at the end of a path, given what made it. The path starts at a table that was
made by the first maker. Tables that are missing on the way are made by `maker`; dotted keys pass
through tables of rows and through tables that no header and no braces have completed. -/
def change? (maker : Maker) (f : Maker → Entries → Option Entries) :
    List String → Maker → Entries → Option Entries
  | [], m, es => f m es
  | k :: ks, _, es =>
    match es.lookup k with
    | none => (change? maker f ks maker []).map fun sub => es ++ [(k, .table maker sub)]
    | some (.table m sub) =>
      if m = .braces ∨ (maker = .dots ∧ m = .header) then none
      else (change? maker f ks m sub).map fun sub => replace k (.table m sub) es
    | some (.rows (row :: rows)) =>
      (change? maker f ks .header row).map fun row => replace k (.rows (row :: rows)) es
    | some _ => none

/-- A key gets a value; it must not have one. -/
def put? (k : String) (v : Value) (es : Entries) : Option Entries :=
  if (es.lookup k).isSome then none else some (es ++ [(k, v)])

/-- The last key of a path gets a value. The other keys, if there are any, lead to a table that
dotted keys have made. -/
def insert? (path : List String) (v : Value) (es : Entries) : Option Entries :=
  match path with
  | [] => none
  | [k] => put? k v es
  | k :: ks =>
    let last := (k :: ks).getLast (List.cons_ne_nil k ks)
    change? .dots (fun m es => if m = .dots then put? last v es else none)
      (k :: ks).dropLast .header es

/-! ## 3. Headers -/

/-- A header defines a table that has at most been mentioned before. -/
def openTable? (path : List String) (es : Entries) : Option Entries :=
  match path.getLast? with
  | none => none
  | some k =>
    change? .mention (fun _ es =>
      match es.lookup k with
      | none => some (es ++ [(k, .table .header [])])
      | some (.table .mention sub) => some (replace k (.table .header sub) es)
      | some _ => none) path.dropLast .header es

/-- A header of double brackets adds a table to the rows under its path. -/
def openRow? (path : List String) (es : Entries) : Option Entries :=
  match path.getLast? with
  | none => none
  | some k =>
    change? .mention (fun _ es =>
      match es.lookup k with
      | none => some (es ++ [(k, .rows [[]])])
      | some (.rows rows) => some (replace k (.rows ([] :: rows)) es)
      | some _ => none) path.dropLast .header es

/-- The last key of a path gets a value, in the table that the latest header has opened. -/
def insertUnder? (opened path : List String) (v : Value) (es : Entries) : Option Entries :=
  change? .mention (fun _ => insert? path v) opened .header es

end TemplateClient.Toml
