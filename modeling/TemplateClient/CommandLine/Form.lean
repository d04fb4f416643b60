import TemplateClient.CommandLine.Arguments
import TemplateClient.Settings.Load
import TemplateClient.Files.Path

/-!
# The form of a command line

A command line fills the form: the template and the data model come from files or from standard
input, and the other fields from flags, or from the defaults of the settings.

* `Source` -- a file, or standard input;
* `CommandLine.readForm` -- the values of the form;
* `CommandLine.applyTo` -- the settings with what the command line sets.
-/

namespace TemplateClient

/-! ## 1. Sources -/

/-- Where a text comes from. -/
inductive Source where
  | standardInput
  | file (path : String)
deriving DecidableEq, Repr

/-- The source that a path names: a path whose only part is a hyphen names standard input. -/
def Source.ofPath (path : String) : Source :=
  if path.toList.head? ≠ some '/' ∧ pathComponents path = ["-"] then .standardInput
  else .file path

/-- The text of a source, and what is left of standard input. -/
def Source.read (disk : Disk) (input : ByteArray) : Source → Except FileError String × ByteArray
  | .standardInput => (decodeText input, .empty)
  | .file path => (disk.readText path, input)

/-! ## 2. The form -/

namespace CommandLine

/-- The settings with what the command line sets. -/
def applyTo (c : CommandLine) (s : Settings) : Settings :=
  { s with apiBase := c.apiBase.getD s.apiBase }

/-- The values of the form. The template is read first, and then the data model. -/
def readForm (c : CommandLine) (defaults : FormDefaults) (disk : Disk) (input : ByteArray) :
    Except FileError FormValues := do
  let (template, input) := (Source.ofPath c.template).read disk input
  let template ← template
  let dataModel ← match c.dataModel with
    | some path => ((Source.ofPath path).read disk input).1
    | none => pure ""
  return {
    template
    dataModel
    outputFormat := c.outputFormat.getD defaults.outputFormat
    locale := c.locale.getD defaults.locale
    timeZone := c.timeZone.getD defaults.timeZone
    tagSyntax := c.tagSyntax
    interpolationSyntax := c.interpolationSyntax }

end CommandLine

end TemplateClient
