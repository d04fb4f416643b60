import TemplateClient.CommandLine.Flag
import TemplateClient.Program.Name

/-!
# Help and version

The texts that the program prints about itself, and its banner.
-/

namespace TemplateClient

/-- The line that answers a question for the version. -/
def versionText : String := programName ++ " " ++ programVersion ++ "\n"

/-- What a flag is for; flags that speak for themselves have no text. -/
def Flag.about : Flag → String
  | .template => "Template file, or \x60-\x60 to read it from stdin"
  | .dataModel => "Data model file"
  | .apiBase => "Base URL of the service, e.g. http://127.0.0.1:8080"
  | .config => "Config file (defaults to <config dir>/online-tester/config.toml)"
  | _ => ""

/-- The name of a flag's value: the flag's name in capitals, with underscores. -/
def Flag.valueName (f : Flag) : String :=
  String.ofList (f.long.toList.map fun c => if c = '-' then '_' else c.toUpper)

/-- How an option is spelled, with its letter if it has one. -/
def spelling (letter : Option Char) (name : String) : String :=
  match letter with
  | some c => "  -" ++ String.ofList [c] ++ ", --" ++ name
  | none => "      --" ++ name

/-- The lines about an option. -/
def optionText (heading about : String) : String :=
  heading ++ "\n          " ++ about ++ "\n"

/-- The lines about a flag. -/
def Flag.helpText (f : Flag) : String :=
  optionText (spelling f.short? f.long ++ " <" ++ f.valueName ++ ">") f.about

/-- The text that answers a question for help. -/
def helpText : String :=
  "Run a template on a template execution service\n\nUsage: " ++ programName
    ++ " [OPTIONS] --template <TEMPLATE>\n\nOptions:\n"
    ++ String.join (Flag.all.map Flag.helpText)
    ++ optionText (spelling (some 'h') "help") "Print help"
    ++ optionText (spelling (some 'V') "version") "Print version"

/-- The text that the arguments ask for, if they ask for one. -/
def UsageStop.display? : UsageStop → Option String
  | .help => some helpText
  | .version => some versionText
  | _ => none

/-- What is wrong with the arguments, in words. -/
def UsageStop.message : UsageStop → String
  | .missingTemplate => "the template is missing"
  | .unknownArgument => "an argument was not expected"
  | .invalidValue => "an option has no value, or an empty one"
  | .repeatedFlag => "an option was given twice"
  | .unexpectedValue => "an option takes no value"
  | .help => "the help was asked for"
  | .version => "the version was asked for"

/-- The banner that a run begins with. -/
def banner : String :=
  "\n             _ _               _            _\n"
    ++ "  ___  _ __ | (_)_ __   ___   | |_ ___  ___| |_ ___ _ __\n"
    ++ " / _ \\| '_ \\| | | '_ \\ / _ \\  | __/ _ \\/ __| __/ _ \\ '__|\n"
    ++ "| (_) | | | | | | | | |  __/  | ||  __/\\__ \\ ||  __/ |\n"
    ++ " \\___/|_| |_|_|_|_| |_|\\___|   \\__\\___||___/\\__\\___|_|\n"
    ++ "\n    Template Execution Client\n\n"

end TemplateClient
