/-!
# The flags of the command line

* `Flag` -- the flags that take a value, with their names;
* `CommandLine` -- the values that were given;
* `UsageStop` -- why the arguments were not taken as a command.
-/

namespace TemplateClient

/-! ## 1. Flags -/

/-- A flag that takes a value. -/
inductive Flag where
  | template
  | dataModel
  | outputFormat
  | locale
  | timeZone
  | tagSyntax
  | interpolationSyntax
  | apiBase
  | config
deriving DecidableEq, Repr

namespace Flag

/-- All flags. -/
def all : List Flag :=
  [.template, .dataModel, .outputFormat, .locale, .timeZone, .tagSyntax, .interpolationSyntax,
    .apiBase, .config]

/-- The name of a flag, after two hyphens. -/
def long : Flag → String
  | .template => "template"
  | .dataModel => "data-model"
  | .outputFormat => "output-format"
  | .locale => "locale"
  | .timeZone => "time-zone"
  | .tagSyntax => "tag-syntax"
  | .interpolationSyntax => "interpolation-syntax"
  | .apiBase => "api-base"
  | .config => "config"

/-- The letter of a flag, after one hyphen. -/
def short? : Flag → Option Char
  | .template => some 't'
  | .dataModel => some 'd'
  | _ => none

/-- The value of the flag is a path, and so must not be empty. -/
def isPath : Flag → Bool
  | .template => true
  | .dataModel => true
  | .config => true
  | _ => false

/-- The flag of that name. -/
def ofLong? (name : String) : Option Flag := all.find? fun f => f.long == name

/-- The flag of that letter. -/
def ofShort? (letter : Char) : Option Flag := all.find? fun f => f.short? == some letter

theorem mem_all (f : Flag) : f ∈ all := by
  cases f <;> decide

theorem ofLong?_long (f : Flag) : ofLong? f.long = some f := by
  cases f <;> decide

end Flag

/-! ## 2. What was given -/

/-- The values given on a command line. -/
structure CommandLine where
  template : String
  dataModel : Option String := none
  outputFormat : Option String := none
  locale : Option String := none
  timeZone : Option String := none
  tagSyntax : Option String := none
  interpolationSyntax : Option String := none
  apiBase : Option String := none
  config : Option String := none
deriving DecidableEq, Repr

namespace CommandLine

/-- The value given for a flag. -/
def value? (c : CommandLine) : Flag → Option String
  | .template => some c.template
  | .dataModel => c.dataModel
  | .outputFormat => c.outputFormat
  | .locale => c.locale
  | .timeZone => c.timeZone
  | .tagSyntax => c.tagSyntax
  | .interpolationSyntax => c.interpolationSyntax
  | .apiBase => c.apiBase
  | .config => c.config

/-- The command line with the given values; the template has to be among them. -/
def ofValues? (value? : Flag → Option String) : Option CommandLine :=
  (value? .template).map fun template => {
    template
    dataModel := value? .dataModel
    outputFormat := value? .outputFormat
    locale := value? .locale
    timeZone := value? .timeZone
    tagSyntax := value? .tagSyntax
    interpolationSyntax := value? .interpolationSyntax
    apiBase := value? .apiBase
    config := value? .config }

theorem ofValues?_value? (c : CommandLine) : ofValues? c.value? = some c := rfl

end CommandLine

/-- Why the arguments were not taken as a command. -/
inductive UsageStop where
  | missingTemplate
  | unknownArgument
  /-- A flag stands without a value, or its value is not allowed. -/
  | invalidValue
  /-- A flag stands twice. -/
  | repeatedFlag
  /-- A flag that takes no value has one. -/
  | unexpectedValue
  /-- The help was asked for. -/
  | help
  /-- The version was asked for. -/
  | version
deriving DecidableEq, Repr

end TemplateClient
