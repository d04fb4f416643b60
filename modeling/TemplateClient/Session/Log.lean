import TemplateClient.Service.Failure

/-!
# Log records

What a session writes to its log, each record with its level and its text.
-/

namespace TemplateClient

/-- A record of the log. -/
inductive LogRecord where
  /-- A trigger came while a request was pending. -/
  | triggerIgnored
  /-- The service cut the result short. -/
  | resultTruncated
  | requestFailed (failure : Failure)
  /-- The panel was fitted to its content. -/
  | panelLines (count : Nat)
  | busyNotice
deriving DecidableEq, Repr

namespace LogRecord

/-- The level of a record. -/
def level : LogRecord → String
  | .triggerIgnored => "DEBUG"
  | .resultTruncated => "WARN"
  | .requestFailed _ => "ERROR"
  | .panelLines _ => "DEBUG"
  | .busyNotice => "INFO"

/-- The text of a record. -/
def text : LogRecord → String
  | .triggerIgnored => "Execute request already pending, trigger ignored"
  | .resultTruncated => "⚠️  Service truncated the template output"
  | .requestFailed failure => "❌ Execute request failed: " ++ failure.message
  | .panelLines count => "Result panel now " ++ toString count ++ " lines"
  | .busyNotice => "⏳ Waiting for the template service..."

/-- A record as one line. -/
def line (r : LogRecord) : String := r.level ++ " " ++ r.text

end LogRecord

/-- The records that an answer gives rise to. -/
def Answer.records : Answer → List LogRecord
  | .ok response => if response.truncated then [.resultTruncated] else []
  | .error failure => [.requestFailed failure]

end TemplateClient
