import TemplateClient.Form.Values
import TemplateClient.Json.Limits

/-!
# Answers of the service

* `Problem` -- a complaint about the request, about one of its fields where that is known;
* `ExecuteResponse` -- the body of a successful answer;
* `FailureBody` -- the body that an answer of another status may have;
* `ExecutionResult` -- what the user gets to see.

The field of a problem is read leniently: any value is accepted, and one that names no field leaves
the field unknown. So a new kind of field never costs the message.
-/

namespace TemplateClient

/-! ## 1. Problems -/

/-- The field that a value names: by its name, or by an object whose only member has that name and
the value `null`. Of members with one name the last counts. -/
def FormField.ofJson? : Json → Option FormField
  | .string s => (Json.Piece.text? s).bind ofKey?
  | .object ms =>
    match Json.named? ms with
    | some ((k, v) :: ms) =>
      if ms.all (·.1 == k) then
        match (ms.getLast?.map Prod.snd).getD v with
        | .null => ofKey? k
        | _ => none
      else none
    | _ => none
  | _ => none

/-- A complaint about the request. -/
structure Problem where
  /-- The field complained about, if it is known. -/
  field : Option FormField
  message : String
deriving DecidableEq, Repr

namespace Problem

/-- Reads the field of a problem, which stands below `outer` levels of arrays and objects. -/
def readField? (outer : Nat) : Option Json → Option (Option FormField)
  | none => some none
  | some v => if v.isReadable outer then some (FormField.ofJson? v) else none

/-- The problem that a value describes, itself below `outer` levels of arrays and objects. -/
def ofJson? (outer : Nat) (v : Json) : Option Problem := do
  match ← v.record? ["field", "message"] with
  | [field, message] =>
    return { field := ← readField? (outer + 1) field, message := ← Json.requiredText? message }
  | _ => none

/-- The problem that a text describes. -/
def parse? (s : String) : Option Problem :=
  (Json.parse? s).bind (ofJson? 0)

/-- The problems of a list, which itself stands below `outer` levels. -/
def listOfJson? (outer : Nat) : Json → Option (List Problem)
  | .array items => items.mapM (ofJson? (outer + 1))
  | _ => none

end Problem

/-! ## 2. Successful answers -/

/-- The body of a successful answer. -/
structure ExecuteResponse where
  result : Option String := none
  problems : Option (List Problem) := none
  /-- The service cut the result short. -/
  truncated : Bool := false
deriving DecidableEq, Repr

namespace ExecuteResponse

/-- Reads the list of problems, which may be missing or `null`. -/
def readProblems? : Option Json → Option (Option (List Problem))
  | none => some none
  | some .null => some none
  | some v => (Problem.listOfJson? 1 v).map some

/-- Reads a flag that is off when it is missing. -/
def readFlag? : Option Json → Option Bool
  | none => some false
  | some (.bool b) => some b
  | some _ => none

/-- The response that a value describes. -/
def ofJson? (v : Json) : Option ExecuteResponse := do
  match ← v.record? ["result", "problems", "truncatedResult"] with
  | [result, problems, truncated] =>
    return {
      result := ← Json.optionalText? result
      problems := ← readProblems? problems
      truncated := ← readFlag? truncated
    }
  | _ => none

/-- The response that a text describes. -/
def parse? (s : String) : Option ExecuteResponse :=
  (Json.parse? s).bind ofJson?

end ExecuteResponse

/-! ## 3. Failure bodies -/

/-- The body that an answer of another status may have. -/
structure FailureBody where
  code : String
  description : String
deriving DecidableEq, Repr

namespace FailureBody

/-- The failure body that a value describes; both texts have to be there. -/
def ofJson? (v : Json) : Option FailureBody := do
  match ← v.record? ["errorCode", "errorDescription"] with
  | [code, description] =>
    return { code := ← Json.requiredText? code, description := ← Json.requiredText? description }
  | _ => none

/-- The failure body that a text describes. -/
def parse? (s : String) : Option FailureBody :=
  (Json.parse? s).bind ofJson?

/-- The message for the user. -/
def message (b : FailureBody) : String :=
  b.code ++ ": " ++ b.description

end FailureBody

/-! ## 4. Results -/

/-- What the user gets to see. -/
inductive ExecutionResult where
  | success (text : String)
  | failure (message : String)
deriving DecidableEq, Repr

namespace ExecutionResult

/-- The text to show. -/
def text : ExecutionResult → String
  | .success t => t
  | .failure m => m

/-- The text is shown as an error. -/
def isError : ExecutionResult → Bool
  | .success _ => false
  | .failure _ => true

end ExecutionResult

/-- A first problem wins over the result; with neither, the result is the empty text. -/
def ExecuteResponse.toResult (r : ExecuteResponse) : ExecutionResult :=
  match r.problems with
  | some (p :: _) => .failure p.message
  | _ => .success (r.result.getD "")

end TemplateClient
