import TemplateClient.Service.Response

/-!
# Failures

Everything that can go wrong outside the form, each with its cause and the text that reports it.

* `FileError`, `SettingsError` -- causes that have several forms;
* `Failure`, `Failure.message` -- the causes, and their texts;
* `ExecutionResult.ofAnswer` -- what the user sees of an answer or of a failure to get one.
-/

namespace TemplateClient

/-! ## 1. Causes -/

/-- Why a file could not be read. -/
inductive FileError where
  | notFound
  | notDirectory
  | isDirectory
  /-- The path, or a name in it, is longer than the system allows. -/
  | nameTooLong
  /-- The path has a zero character, which ends paths for the system. -/
  | zeroInName
  | notText
  /-- Any other cause, in the words of the system. -/
  | other (text : String)
deriving DecidableEq, Repr

/-- The words of the system. -/
def FileError.message : FileError → String
  | .notFound => "No such file or directory (os error 2)"
  | .notDirectory => "Not a directory (os error 20)"
  | .isDirectory => "Is a directory (os error 21)"
  | .nameTooLong => "File name too long (os error 36)"
  | .zeroInName => "file name contained an unexpected NUL byte"
  | .notText => "stream did not contain valid UTF-8"
  | .other text => text

/-- Why settings were refused. -/
inductive SettingsError where
  | emptyBase
  | notMillis (key value : String)
  /-- Any other cause, in words. -/
  | other (text : String)
deriving DecidableEq, Repr

/-- The reason in words. -/
def SettingsError.message : SettingsError → String
  | .emptyBase => "API base URL must not be empty"
  | .notMillis key value =>
    key ++ " must be a number of milliseconds, got '" ++ value ++ "'"
  | .other text => text

/-- What went wrong. -/
inductive Failure where
  | unreadableFile (cause : FileError)
  | malformedToml (detail : String)
  | malformedJson (detail : String)
  /-- No answer came, or its body broke off. -/
  | noAnswer (detail : String)
  /-- The service answered with a status that is no success. -/
  | refused (status : Nat) (body : String)
  | settings (cause : SettingsError)
deriving DecidableEq, Repr

/-- The text that reports the failure. -/
def Failure.message : Failure → String
  | .unreadableFile cause => "Failed to read file: " ++ cause.message
  | .malformedToml detail => "Failed to parse TOML config: " ++ detail
  | .malformedJson detail => "Failed to parse JSON: " ++ detail
  | .noAnswer detail => "HTTP request failed: " ++ detail
  | .refused status body =>
    "API request failed with status " ++ toString status ++ ": " ++ body
  | .settings cause => "Configuration error: " ++ cause.message

/-! ## 2. What the user sees -/

/-- Shown when the service failed and said nothing readable about it. -/
def serviceUnavailable : String :=
  "The service was unavailable or had returned an invalid response."

/-- Shown when the template is blank. -/
def emptyTemplate : String := "Template was empty; nothing to do."

/-- What the user sees of a failure: the code and description of a failure body, if one came. -/
def Failure.shown : Failure → String
  | .refused _ body => ((FailureBody.parse? body).map FailureBody.message).getD serviceUnavailable
  | _ => serviceUnavailable

/-- An answer of the service, or the failure to get one. -/
abbrev Answer := Except Failure ExecuteResponse

/-- The answer that the body of a successful status is. -/
def Answer.ofBody (body : String) : Answer :=
  match ExecuteResponse.parse? body with
  | some response => .ok response
  | none => .error (.malformedJson "the body is no response of the service")

/-- What the user sees of an answer. -/
def ExecutionResult.ofAnswer : Answer → ExecutionResult
  | .ok response => response.toResult
  | .error cause => .failure cause.shown

end TemplateClient
