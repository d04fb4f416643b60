import TemplateClient.Json.Record
import TemplateClient.Json.Writer

/-!
# The values of the execute form

The form has seven fields. Two of them, the syntax fields, may be absent. A request carries the
values that the form has when it is read, so both are values of one type.

* `FormField` -- the fields, with their names on the wire;
* `FormValues` -- a value for each field;
* `FormValues.toText`, `FormValues.parse?` -- a request as JSON text, and back.
-/

namespace TemplateClient

/-! ## 1. Fields -/

/-- A field of the form. -/
inductive FormField where
  | template
  | dataModel
  | outputFormat
  | locale
  | timeZone
  | tagSyntax
  | interpolationSyntax
deriving DecidableEq, Repr

namespace FormField

/-- All fields, in the order in which the form is read and a request is written. -/
def all : List FormField :=
  [.template, .dataModel, .outputFormat, .locale, .timeZone, .tagSyntax, .interpolationSyntax]

/-- The name of a field in a request and in a problem. -/
def key : FormField → String
  | .template => "template"
  | .dataModel => "dataModel"
  | .outputFormat => "outputFormat"
  | .locale => "locale"
  | .timeZone => "timeZone"
  | .tagSyntax => "tagSyntax"
  | .interpolationSyntax => "interpolationSyntax"

/-- The field of that name. -/
def ofKey? (name : String) : Option FormField :=
  all.find? fun f => f.key == name

theorem mem_all (f : FormField) : f ∈ all := by
  cases f <;> decide

theorem ofKey?_key (f : FormField) : ofKey? f.key = some f := by
  cases f <;> decide

end FormField

/-! ## 2. Values -/

/-- A value for each field of the form. -/
structure FormValues where
  template : String := ""
  dataModel : String := ""
  outputFormat : String := ""
  locale : String := ""
  timeZone : String := ""
  tagSyntax : Option String := none
  interpolationSyntax : Option String := none
deriving DecidableEq, Repr

namespace FormValues

/-- The value of a field; only a syntax field may have none. -/
def get? (v : FormValues) : FormField → Option String
  | .template => some v.template
  | .dataModel => some v.dataModel
  | .outputFormat => some v.outputFormat
  | .locale => some v.locale
  | .timeZone => some v.timeZone
  | .tagSyntax => v.tagSyntax
  | .interpolationSyntax => v.interpolationSyntax

/-- `v` with the value of the field taken from `source`. -/
def copy (v : FormValues) (f : FormField) (source : FormValues) : FormValues :=
  match f with
  | .template => { v with template := source.template }
  | .dataModel => { v with dataModel := source.dataModel }
  | .outputFormat => { v with outputFormat := source.outputFormat }
  | .locale => { v with locale := source.locale }
  | .timeZone => { v with timeZone := source.timeZone }
  | .tagSyntax => { v with tagSyntax := source.tagSyntax }
  | .interpolationSyntax => { v with interpolationSyntax := source.interpolationSyntax }

/-! ## 3. Requests as text -/

/-- The fields that have a value, under their names. -/
def members (v : FormValues) : List (String × String) :=
  FormField.all.filterMap fun f => (v.get? f).map (f.key, ·)

/-- A request as JSON text. -/
def toText (v : FormValues) : String :=
  String.ofList (Json.writeRecord v.members)

/-- The request that a value describes. -/
def ofJson? (v : Json) : Option FormValues := do
  match ← v.record? (FormField.all.map FormField.key) with
  | [template, dataModel, outputFormat, locale, timeZone, tagSyntax, interpolationSyntax] =>
    return {
      template := ← Json.requiredText? template
      dataModel := ← Json.requiredText? dataModel
      outputFormat := ← Json.requiredText? outputFormat
      locale := ← Json.requiredText? locale
      timeZone := ← Json.requiredText? timeZone
      tagSyntax := ← Json.optionalText? tagSyntax
      interpolationSyntax := ← Json.optionalText? interpolationSyntax
    }
  | _ => none

/-- The request that a text describes. -/
def parse? (s : String) : Option FormValues :=
  (Json.parse? s).bind ofJson?

end FormValues

end TemplateClient
