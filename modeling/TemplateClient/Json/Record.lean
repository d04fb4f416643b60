import TemplateClient.Json.Reader

/-!
# Records

A record has fields in a fixed order. It is written as an object, in which a field is a member of
that name and members of other names are skipped, or as an array of the values of its first fields.

* `Json.record?` -- the values of a record's fields, absent ones included;
* `Json.text?`, `Json.requiredText?`, `Json.optionalText?` -- fields that hold a text.
-/

namespace TemplateClient.Json

/-! ## 1. Fields -/

/-- The members with the texts that their names spell. -/
def named? : List (Name × Json) → Option (List (String × Json))
  | [] => some []
  | (k, v) :: ms =>
    match Piece.text? k, named? ms with
    | some name, some ms => some ((name, v) :: ms)
    | _, _ => none

/-- The value of a field: absent if no member has its name, an error if several have it. -/
def sole? (field : String) (members : List (String × Json)) : Option (Option Json) :=
  match members.filter (·.1 == field) with
  | [] => some none
  | [m] => some (some m.2)
  | _ => none

/-- The values of a record's fields, in the order of `fields`. -/
def record? (fields : List String) : Json → Option (List (Option Json))
  | .array items =>
    if items.length ≤ fields.length then
      some (items.map some ++ List.replicate (fields.length - items.length) none)
    else none
  | .object members => (named? members).bind fun members => fields.mapM (sole? · members)
  | _ => none

/-! ## 2. Texts -/

/-- The text of a string. -/
def text? : Json → Option String
  | .string s => Piece.text? s
  | _ => none

/-- The text of a field that has to be there. -/
def requiredText? : Option Json → Option String
  | some v => v.text?
  | none => none

/-- The text of a field that may be missing or `null`. -/
def optionalText? : Option Json → Option (Option String)
  | none => some none
  | some .null => some none
  | some v => v.text?.map some

end TemplateClient.Json
