import TemplateClient.Session.Call
import TemplateClient.Service.Failure
import TemplateClient.Text.Blank
import TemplateClient.Toml.Reader

/-!
# Settings

The settings of the client come in layers: built-in values, then a TOML file, then variables of the
environment, then the command line. A layer changes only what it sets.

* `FormDefaults`, `Settings` -- the settings;
* `Settings.executeUrl` -- where requests go;
* `FileSettings`, `Settings.parse` -- the layer of a file;
* `parseMillis`, `Settings.applyEnv` -- the layer of the environment.
-/

namespace TemplateClient

/-! ## 1. Settings -/

/-- Values for form fields that the user leaves open. -/
structure FormDefaults where
  outputFormat : String := ""
  locale : String := ""
  timeZone : String := ""
deriving DecidableEq, Repr

/-- The settings of the client. -/
structure Settings where
  apiBase : String := "http://127.0.0.1:8080"
  overlay : OverlayTimings := {}
  defaults : FormDefaults := {}
deriving DecidableEq, Repr

namespace Settings

/-- The base of the service without the slashes at its end. -/
def normalBase (base : String) : String :=
  String.ofList (Text.dropEndWhile (· == '/') base.toList)

/-- The path below the base that requests go to. -/
def executePath : String := "/api/execute"

/-- Where requests go. -/
def executeUrl (s : Settings) : String :=
  normalBase s.apiBase ++ executePath

/-- A blank base is refused. -/
def validate (s : Settings) : Except SettingsError Unit :=
  if Text.allBlank s.apiBase then .error .emptyBase else .ok ()

end Settings

/-! ## 2. The layer of a file -/

/-- What a file may set. -/
structure FileSettings where
  apiBase : Option String := none
  fadeIn : Option Nat := none
  fadeOut : Option Nat := none
  defaults : Option FormDefaults := none
deriving DecidableEq, Repr

namespace FileSettings

/-- An entry that may be missing, read by `read?`. -/
def entry? {α : Type} (read? : Toml.Value → Option α) (key : String) (es : Toml.Entries) :
    Option (Option α) :=
  match es.lookup key with
  | none => some none
  | some v => (read? v).map some

/-- The entries under other keys can be skipped. -/
def skipsOthers (keys : List String) (es : Toml.Entries) : Bool :=
  es.all fun e => keys.contains e.1 || e.2.isReadable

/-- The text of a string. -/
def text? : Toml.Value → Option String
  | .string s => some s
  | _ => none

/-- The milliseconds of an integer that is not negative and less than `2 ^ 64`. -/
def millis? : Toml.Value → Option Nat
  | .integer n => if 0 ≤ n ∧ n < 0x10000000000000000 then some n.toNat else none
  | _ => none

/-- The keys of the table of defaults, in the order in which an array gives their values. -/
def defaultsKeys : List String := ["output_format", "locale", "time_zone"]

/-- The values of a table, or of an array in the order of the fields. Items beyond the fields may be
anything. A date counts as a table without any of the keys. -/
def defaults? : Toml.Value → Option FormDefaults
  | .table _ es => do
    guard (skipsOthers defaultsKeys es)
    return {
      outputFormat := (← entry? text? "output_format" es).getD ""
      locale := (← entry? text? "locale" es).getD ""
      timeZone := (← entry? text? "time_zone" es).getD "" }
  | .array vs => do
    let texts ← (vs.take 3).mapM text?
    return {
      outputFormat := texts[0]?.getD ""
      locale := texts[1]?.getD ""
      timeZone := texts[2]?.getD "" }
  | .dateTime => some {}
  | _ => none

/-- The keys of a document. -/
def documentKeys : List String := ["api_base", "fade_in_ms", "fade_out_ms", "defaults"]

/-- What the entries of a document set; other keys are skipped. -/
def ofEntries? (es : Toml.Entries) : Option FileSettings := do
  guard (skipsOthers documentKeys es)
  return {
    apiBase := ← entry? text? "api_base" es
    fadeIn := ← entry? millis? "fade_in_ms" es
    fadeOut := ← entry? millis? "fade_out_ms" es
    defaults := ← entry? defaults? "defaults" es }

/-- What a document sets. -/
def parse? (text : String) : Option FileSettings :=
  (Toml.parse? text).bind ofEntries?

end FileSettings

namespace Settings

/-- The settings with what a file sets. -/
def withFile (f : FileSettings) (s : Settings) : Settings where
  apiBase := f.apiBase.getD s.apiBase
  overlay := ⟨f.fadeIn.getD s.overlay.fadeIn, f.fadeOut.getD s.overlay.fadeOut⟩
  defaults := f.defaults.getD s.defaults

/-- The built-in settings with what a document sets. What is wrong with a malformed document is told
in the words of its reader. -/
def parse (words : String → String) (text : String) : Except Failure Settings :=
  match FileSettings.parse? text with
  | none => .error (.malformedToml (words text))
  | some f =>
    let s := ({} : Settings).withFile f
    match s.validate with
    | .ok () => .ok s
    | .error e => .error (.settings e)

end Settings

/-! ## 3. The layer of the environment -/

/-- The variables of an environment. -/
abbrev Environment := List (String × String)

/-- The variables that settings come from. -/
def apiBaseKey : String := "TESTER_API_BASE"

/-- The variable of the fade-in time. -/
def fadeInKey : String := "TESTER_FADE_IN_MS"

/-- The variable of the fade-out time. -/
def fadeOutKey : String := "TESTER_FADE_OUT_MS"

/-- The value of decimal digits, if there is at least one digit and nothing else. -/
def decimal? (cs : List Char) : Option Nat :=
  if cs.isEmpty || !cs.all Char.isDigit then none
  else some (cs.foldl (fun n c => n * 10 + (c.toNat - '0'.toNat)) 0)

/-- The number that digits give, with at most one plus sign in front, if it is less than
`2 ^ 64`. -/
def word? (cs : List Char) : Option Nat :=
  let digits := if cs.head? = some '+' then cs.drop 1 else cs
  (decimal? digits).filter (· < Nat.pow 2 64)

/-- The number of milliseconds that a text gives, white space around it aside. -/
def millis? (text : String) : Option Nat := word? (Text.trimChars text.toList)

/-- The number of milliseconds that a variable gives. -/
def parseMillis (key value : String) : Except SettingsError Nat :=
  match millis? value with
  | some n => .ok n
  | none => .error (.notMillis key value)

namespace Settings

/-- The fade time that a variable gives, or `old` if it is not set. -/
def fadeFrom (key : String) (env : Environment) (old : Nat) : Except SettingsError Nat :=
  match env.lookup key with
  | some value => parseMillis key value
  | none => .ok old

/-- The settings with what an environment sets, and whether they are accepted. The variables are
taken up one by one; a bad one stops the rest, but what was taken up before stays. -/
def applyEnv (env : Environment) (s : Settings) : Settings × Except SettingsError Unit :=
  let s := { s with apiBase := ((env.lookup apiBaseKey).map Text.trim).getD s.apiBase }
  match fadeFrom fadeInKey env s.overlay.fadeIn with
  | .error e => (s, .error e)
  | .ok fadeIn =>
    let s := { s with overlay := { s.overlay with fadeIn } }
    match fadeFrom fadeOutKey env s.overlay.fadeOut with
    | .error e => (s, .error e)
    | .ok fadeOut =>
      let s := { s with overlay := { s.overlay with fadeOut } }
      (s, s.validate)

end Settings

end TemplateClient
