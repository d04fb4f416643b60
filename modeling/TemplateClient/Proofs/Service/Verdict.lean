import TemplateClient.Http.Exchange

/-!
# What the user sees of a reply

A reply goes through the transport, a reader of its body and the choice of a message. Whatever comes
back, one row of a table tells what the user sees of it.

* `FailureBody.Describes` -- the values that a failure body is read from;
* `Verdict` -- the table;
* `verdict_iff` -- the table has exactly one row for whatever comes back, and that is what is seen.
-/

namespace TemplateClient

/-! ## 1. Failure bodies -/

/-- A field of a record is found when one member has its name. -/
theorem Json.sole?_eq_some_some {field : String} {members : List (String × Json)} {v : Json} :
    Json.sole? field members = some (some v) ↔ members.filter (·.1 == field) = [(field, v)] := by
  unfold Json.sole?
  split
  · next h => simp [h]
  · next m h =>
    have hname : m.1 = field := by
      have hm : m ∈ members.filter (·.1 == field) := h ▸ List.mem_singleton_self m
      exact eq_of_beq (List.mem_filter.mp hm).2
    rw [h]
    constructor
    · intro hv
      rw [← hname, ← Option.some.inj (Option.some.inj hv)]
    · intro hm
      rw [(List.cons.inj hm).1]
  · next _ h =>
    constructor
    · nofun
    · intro hm
      exact absurd hm (h _)

namespace FailureBody

/-- The failure bodies that a value describes: an object in which the code and the description each
occur once, other members skipped, or an array of the two. Both have to be texts. -/
inductive Describes : Json → FailureBody → Prop where
  | object (ms : List (Json.Name × Json)) (members : List (String × Json)) (c d : Json)
      (code description : String) (names : Json.named? ms = some members)
      (hasCode : members.filter (·.1 == "errorCode") = [("errorCode", c)])
      (hasDescription : members.filter (·.1 == "errorDescription") = [("errorDescription", d)])
      (codeText : c.text? = some code) (descriptionText : d.text? = some description) :
      Describes (.object ms) ⟨code, description⟩
  | array (c d : Json) (code description : String) (codeText : c.text? = some code)
      (descriptionText : d.text? = some description) :
      Describes (.array [c, d]) ⟨code, description⟩

/-- The text of a body describes a failure. -/
def DescribedBy (text : String) (b : FailureBody) : Prop :=
  ∃ v, Json.parse? text = some v ∧ Describes v b

theorem requiredText?_eq_some {v : Option Json} {t : String} :
    Json.requiredText? v = some t ↔ ∃ w, v = some w ∧ w.text? = some t := by
  cases v with
  | none => simp [Json.requiredText?]
  | some w => simp [Json.requiredText?]

/-- The two fields of a failure body have to be there, and have to be texts. -/
theorem ofJson?_eq_some {v : Json} {b : FailureBody} :
    ofJson? v = some b ↔
      ∃ c d, v.record? ["errorCode", "errorDescription"] = some [some c, some d] ∧
        c.text? = some b.code ∧ d.text? = some b.description := by
  unfold ofJson?
  rw [Option.bind_eq_bind, Option.bind_eq_some_iff]
  constructor
  · rintro ⟨fields, hrecord, hfields⟩
    split at hfields
    · next code description =>
      simp only [Option.bind_eq_bind, Option.bind_eq_some_iff, Option.pure_def] at hfields
      obtain ⟨x, hx, y, hy, hb⟩ := hfields
      obtain ⟨c, rfl, hc⟩ := requiredText?_eq_some.mp hx
      obtain ⟨d, rfl, hd⟩ := requiredText?_eq_some.mp hy
      cases hb
      exact ⟨c, d, hrecord, hc, hd⟩
    · cases hfields
  · rintro ⟨c, d, hrecord, hc, hd⟩
    exact ⟨_, hrecord, by simp [Json.requiredText?, hc, hd]⟩

/-- A value gives a failure body exactly if it describes one. -/
theorem ofJson?_eq_some_iff {v : Json} {b : FailureBody} : ofJson? v = some b ↔ Describes v b := by
  rw [ofJson?_eq_some]
  constructor
  · rintro ⟨c, d, hrecord, hc, hd⟩
    cases v with
    | array items =>
      match items with
      | [] => simp [Json.record?] at hrecord
      | [x] => simp [Json.record?] at hrecord
      | [x, y] =>
        simp [Json.record?] at hrecord
        rw [hrecord.1, hrecord.2]
        exact .array c d b.code b.description hc hd
      | x :: y :: z :: items => simp [Json.record?] at hrecord
    | object ms =>
      unfold Json.record? at hrecord
      obtain ⟨members, names, hrecord⟩ := Option.bind_eq_some_iff.mp hrecord
      simp [Option.bind_eq_some_iff] at hrecord
      exact .object ms members c d b.code b.description names
        (Json.sole?_eq_some_some.mp hrecord.1) (Json.sole?_eq_some_some.mp hrecord.2) hc hd
    | _ => cases hrecord
  · intro h
    cases h with
    | object ms members c d code description names hasCode hasDescription hc hd =>
      refine ⟨c, d, ?_, hc, hd⟩
      unfold Json.record?
      simp [names, Json.sole?_eq_some_some.mpr hasCode, Json.sole?_eq_some_some.mpr hasDescription]
    | array c d code description hc hd => exact ⟨c, d, rfl, hc, hd⟩

theorem parse?_eq_some_iff {text : String} {b : FailureBody} :
    parse? text = some b ↔ DescribedBy text b := by
  unfold parse? DescribedBy
  simp only [Option.bind_eq_some_iff, ofJson?_eq_some_iff]

theorem parse?_empty : parse? "" = none := by decide

end FailureBody

/-! ## 2. The table -/

/-- Shown when the service failed and said nothing readable about it. -/
def unavailable : String := "The service was unavailable or had returned an invalid response."

/-- **What the user sees of whatever comes back.** A success with a readable body shows its first
problem, or else its result; any other success is an unavailable service. Another status shows the
failure that its body describes; everything else is an unavailable service. -/
inductive Verdict : Option HttpReply → ExecutionResult → Prop where
  | problem {reply : HttpReply} {text : String} {response : ExecuteResponse} {p : Problem}
      {ps : List Problem} (readable : reply.isReadable = true)
      (success : 200 ≤ reply.status ∧ reply.status ≤ 299) (whole : reply.text? = some text)
      (decodes : ExecuteResponse.parse? text = some response)
      (problems : response.problems = some (p :: ps)) :
      Verdict (some reply) (.failure p.message)
  | result {reply : HttpReply} {text : String} {response : ExecuteResponse}
      (readable : reply.isReadable = true) (success : 200 ≤ reply.status ∧ reply.status ≤ 299)
      (whole : reply.text? = some text) (decodes : ExecuteResponse.parse? text = some response)
      (problems : response.problems = none ∨ response.problems = some []) :
      Verdict (some reply) (.success (response.result.getD ""))
  | undecodable {reply : HttpReply} (readable : reply.isReadable = true)
      (success : 200 ≤ reply.status ∧ reply.status ≤ 299)
      (unread : ∀ text, reply.text? = some text → ExecuteResponse.parse? text = none) :
      Verdict (some reply) (.failure unavailable)
  | described {reply : HttpReply} {text : String} {b : FailureBody}
      (readable : reply.isReadable = true) (refused : ¬ (200 ≤ reply.status ∧ reply.status ≤ 299))
      (whole : reply.text? = some text) (describes : FailureBody.DescribedBy text b) :
      Verdict (some reply) (.failure (b.code ++ ": " ++ b.description))
  | undescribed {reply : HttpReply} (readable : reply.isReadable = true)
      (refused : ¬ (200 ≤ reply.status ∧ reply.status ≤ 299))
      (unread : ∀ text b, reply.text? = some text → ¬ FailureBody.DescribedBy text b) :
      Verdict (some reply) (.failure unavailable)
  | malformed {reply : HttpReply} (unreadable : reply.isReadable = false) :
      Verdict (some reply) (.failure unavailable)
  | unreachable : Verdict none (.failure unavailable)

namespace HttpReply

variable {r : HttpReply}

theorem isSuccess_iff : r.isSuccess = true ↔ 200 ≤ r.status ∧ r.status ≤ 299 := by
  rw [isSuccess, Bool.and_eq_true, decide_eq_true_eq, decide_eq_true_eq]
  omega

theorem answer_of_malformed (h : r.isReadable = false) :
    r.answer = .error (.noAnswer "the reply is malformed") := by
  rw [answer, h]
  rfl

theorem answer_of_success {text : String} (readable : r.isReadable = true)
    (success : 200 ≤ r.status ∧ r.status ≤ 299) (whole : r.text? = some text) :
    r.answer = Answer.ofBody text := by
  rw [answer, readable, if_neg (by decide), if_pos (isSuccess_iff.mpr success), whole]

theorem answer_of_cut (readable : r.isReadable = true)
    (success : 200 ≤ r.status ∧ r.status ≤ 299) (cut : r.text? = none) :
    r.answer = .error (.noAnswer "the reply was cut short") := by
  rw [answer, readable, if_neg (by decide), if_pos (isSuccess_iff.mpr success), cut]

theorem answer_of_refusal (readable : r.isReadable = true)
    (refused : ¬ (200 ≤ r.status ∧ r.status ≤ 299)) :
    r.answer = .error (.refused r.status (r.text?.getD "")) := by
  rw [answer, readable, if_neg (by decide), if_neg (mt isSuccess_iff.mp refused)]

end HttpReply

/-- A first problem is what is seen of a response. -/
theorem toResult_of_problem {response : ExecuteResponse} {p : Problem} {ps : List Problem}
    (h : response.problems = some (p :: ps)) : response.toResult = .failure p.message := by
  rw [ExecuteResponse.toResult, h]

theorem toResult_of_no_problem {response : ExecuteResponse}
    (h : response.problems = none ∨ response.problems = some []) :
    response.toResult = .success (response.result.getD "") := by
  rcases h with h | h <;> rw [ExecuteResponse.toResult, h]

/-- The row of the table is what is seen. The cases are the rows. -/
theorem Verdict.eq {came : Option HttpReply} {r : ExecutionResult} (h : Verdict came r) :
    r = ExecutionResult.ofAnswer (Answer.ofReply? came) := by
  cases h with
  | problem readable success whole decodes problems =>
    rw [Answer.ofReply?, HttpReply.answer_of_success readable success whole, Answer.ofBody, decodes]
    exact (toResult_of_problem problems).symm
  | result readable success whole decodes problems =>
    rw [Answer.ofReply?, HttpReply.answer_of_success readable success whole, Answer.ofBody, decodes]
    exact (toResult_of_no_problem problems).symm
  | @undecodable reply readable success unread =>
    cases hw : reply.text? with
    | some text =>
      rw [Answer.ofReply?, HttpReply.answer_of_success readable success hw, Answer.ofBody,
        unread text hw]
      rfl
    | none =>
      rw [Answer.ofReply?, HttpReply.answer_of_cut readable success hw]
      rfl
  | described readable refused whole describes =>
    rw [Answer.ofReply?, HttpReply.answer_of_refusal readable refused, whole]
    simp [ExecutionResult.ofAnswer, Failure.shown, FailureBody.parse?_eq_some_iff.mpr describes,
      FailureBody.message]
  | @undescribed reply readable refused unread =>
    have hnone : FailureBody.parse? (reply.text?.getD "") = none := by
      cases hw : reply.text? with
      | none => exact FailureBody.parse?_empty
      | some text =>
        refine Option.eq_none_iff_forall_ne_some.mpr fun b hb => ?_
        exact unread text b hw (FailureBody.parse?_eq_some_iff.mp hb)
    rw [Answer.ofReply?, HttpReply.answer_of_refusal readable refused]
    simp [ExecutionResult.ofAnswer, Failure.shown, hnone, unavailable, serviceUnavailable]
  | malformed unreadable =>
    rw [Answer.ofReply?, HttpReply.answer_of_malformed unreadable]
    rfl
  | unreachable => rfl

/-- Whatever comes back, the table has a row for it. -/
theorem Verdict.exists (came : Option HttpReply) : ∃ r, Verdict came r := by
  cases came with
  | none => exact ⟨_, .unreachable⟩
  | some reply =>
    cases hreadable : reply.isReadable with
    | false => exact ⟨_, .malformed hreadable⟩
    | true =>
      by_cases success : 200 ≤ reply.status ∧ reply.status ≤ 299
      · by_cases read : ∃ text response, reply.text? = some text ∧
            ExecuteResponse.parse? text = some response
        · obtain ⟨text, response, whole, decodes⟩ := read
          match hp : response.problems with
          | none => exact ⟨_, .result hreadable success whole decodes (.inl hp)⟩
          | some [] => exact ⟨_, .result hreadable success whole decodes (.inr hp)⟩
          | some (p :: ps) => exact ⟨_, .problem hreadable success whole decodes hp⟩
        · refine ⟨_, .undecodable hreadable success fun text whole => ?_⟩
          refine Option.eq_none_iff_forall_ne_some.mpr fun response decodes => ?_
          exact read ⟨text, response, whole, decodes⟩
      · by_cases read : ∃ text b, reply.text? = some text ∧ FailureBody.DescribedBy text b
        · obtain ⟨text, b, whole, describes⟩ := read
          exact ⟨_, .described hreadable success whole describes⟩
        · refine ⟨_, .undescribed hreadable success fun text b whole describes => ?_⟩
          exact read ⟨text, b, whole, describes⟩

/-- **The table has exactly one row for whatever comes back**, and that is what the user sees. -/
theorem verdict_iff {came : Option HttpReply} {r : ExecutionResult} :
    Verdict came r ↔ r = ExecutionResult.ofAnswer (Answer.ofReply? came) := by
  constructor
  · exact Verdict.eq
  · rintro rfl
    obtain ⟨r, h⟩ := Verdict.exists came
    exact h.eq ▸ h

end TemplateClient
