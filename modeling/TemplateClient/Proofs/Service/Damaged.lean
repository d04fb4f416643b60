import TemplateClient.Proofs.Json.Extent
import TemplateClient.Proofs.Service.Response
import TemplateClient.Proofs.Session.Answered

/-!
# Bodies that are cut or overrun

The body of a successful answer is an object or an array, so it tells by itself where it ends. A
connection that is lost, or a second value behind the first, leaves a text that is no response at
all, and never one that passes for a shorter one.

* `Damaged` -- a text cut before its end, or followed by more than white space;
* `ExecuteResponse.of_append` -- when one response begins with another;
* `ExecuteResponse.parse?_of_damaged` -- a damaged response is none;
* `Session.damaged_refused` -- which texts are responses, and what the user sees of a damaged one.
-/

namespace TemplateClient

open Json (IsBlank IsText)

/-- The text is damaged: its last character that is not white space is lost, with all that follows
it and perhaps some that stood in front, or something that is not white space follows the text. -/
inductive Damaged (text : String) : String → Prop where
  | cut {front rest : String} (whole : text = front ++ rest)
      (lost : ∃ c ∈ rest.toList, ¬ IsBlank c) : Damaged text front
  | overrun {more : String} (extra : ∃ c ∈ more.toList, ¬ IsBlank c) : Damaged text (text ++ more)

/-! ## 1. Texts of responses -/

namespace ExecuteResponse

theorem exists_value {text : String} {r : ExecuteResponse} (h : parse? text = some r) :
    ∃ v, IsText text v ∧ ofJson? v = some r := by
  obtain ⟨v, hv, hr⟩ := Option.bind_eq_some_iff.mp h
  exact ⟨v, Json.parse?_eq_some_iff.mp hv, hr⟩

theorem parse?_of_isText {text : String} {v : Json} {r : ExecuteResponse} (isText : IsText text v)
    (h : ofJson? v = some r) : parse? text = some r :=
  Option.bind_eq_some_iff.mpr ⟨v, Json.parse?_eq_some_iff.mpr isText, h⟩

/-- A value that describes a response stands in brackets. -/
theorem isBracketed_of_ofJson? {v : Json} {r : ExecuteResponse} (h : ofJson? v = some r) :
    v.IsBracketed := by
  have describes : Describes v r := ofJson?_eq_some_iff.mp h
  cases describes with
  | object => trivial
  | array => trivial

/-- **If one response begins with another**, only white space is between their ends, and they say
the same. -/
theorem of_append {text more : String} {r r' : ExecuteResponse} (h : parse? text = some r)
    (h' : parse? (text ++ more) = some r') : r' = r ∧ ∀ c ∈ more.toList, IsBlank c := by
  obtain ⟨v, isText, hr⟩ := exists_value h
  obtain ⟨w, isText', hr'⟩ := exists_value h'
  obtain ⟨rfl, blank⟩ := isText.blank_of_append (isBracketed_of_ofJson? hr) isText'
  exact ⟨Option.some.inj (hr'.symm.trans hr), blank⟩

theorem append_blank {text more : String} {r : ExecuteResponse} (h : parse? text = some r)
    (blank : ∀ c ∈ more.toList, IsBlank c) : parse? (text ++ more) = some r := by
  obtain ⟨v, isText, hr⟩ := exists_value h
  exact parse?_of_isText (isText.append_blank blank) hr

/-- **A damaged response is none.** -/
theorem parse?_of_damaged {text damaged : String} {r : ExecuteResponse}
    (h : parse? text = some r) (damage : Damaged text damaged) : parse? damaged = none := by
  refine Option.eq_none_iff_forall_ne_some.mpr fun r' h' => ?_
  cases damage with
  | cut whole lost =>
    obtain ⟨c, hc, notBlank⟩ := lost
    rw [whole] at h
    exact notBlank ((of_append h' h).2 c hc)
  | overrun extra =>
    obtain ⟨c, hc, notBlank⟩ := extra
    exact notBlank ((of_append h h').2 c hc)

end ExecuteResponse

/-! ## 2. What the user sees -/

/-- The answer of a success whose body is no response. -/
theorem HttpReply.answer_of_undecodable {reply : HttpReply} {text : String}
    (readable : reply.isReadable = true) (success : 200 ≤ reply.status ∧ reply.status ≤ 299)
    (whole : reply.text? = some text) (undecodable : ExecuteResponse.parse? text = none) :
    ∃ detail, reply.answer = .error (.malformedJson detail) := by
  rw [answer_of_success readable success whole, Answer.ofBody, undecodable]
  exact ⟨_, rfl⟩

namespace Session

/-- **No damaged body is accepted.** Of the texts that are responses, one begins with another only
if white space is between their ends. A success whose text is a damaged response is malformed JSON,
and every submission that has had such an answer ends with the message of an unavailable service,
drawn as an error. -/
theorem damaged_refused {text : String} {response : ExecuteResponse}
    (decodes : ExecuteResponse.parse? text = some response) :
    (∀ damaged, Damaged text damaged → ExecuteResponse.parse? damaged = none) ∧
    (∀ more other, ExecuteResponse.parse? (text ++ more) = some other ↔
      other = response ∧ ∀ c ∈ more.toList, IsBlank c) ∧
    ∀ (reply : HttpReply) (damaged : String), Damaged text damaged → reply.isReadable = true →
      200 ≤ reply.status ∧ reply.status ≤ 299 → reply.text? = some damaged →
        (∃ detail, reply.answer = .error (.malformedJson detail)) ∧
        ∀ (t : Trigger) (s₀ s₁ s : Session), s₀.IsFresh → s₀.Reaches .orderly s₁ →
          s₁.running = [] → t.isSubmission = true → s₁.IsReady →
          Answered .orderly t s₁ reply.answer s →
            s.fate? s₁.nextTask = ended (viaOf t) (.completed (.failure serviceUnavailable)) ∧
              s.panel = ⟨true, serviceUnavailable, true⟩ := by
  have refused : ∀ damaged, Damaged text damaged → ExecuteResponse.parse? damaged = none :=
    fun _ damage => ExecuteResponse.parse?_of_damaged decodes damage
  refine ⟨refused, fun more other => ⟨ExecuteResponse.of_append decodes, ?_⟩, ?_⟩
  · rintro ⟨rfl, blank⟩
    exact ExecuteResponse.append_blank decodes blank
  · intro reply damaged damage readable success whole
    obtain ⟨detail, hanswer⟩ :=
      HttpReply.answer_of_undecodable readable success whole (refused damaged damage)
    refine ⟨⟨detail, hanswer⟩, fun t s₀ s₁ s fresh before quiet asks ready answered => ?_⟩
    have reg : Regular .orderly s₁ := (regular_of_isFresh fresh).reaches before
    have drawn := answered.drawn Surroundings.sequential_orderly reg quiet asks ready
    have hseen : ExecutionResult.ofAnswer reply.answer = .failure serviceUnavailable := by
      rw [hanswer]
      rfl
    have hfate := drawn.fate
    have hpanel := drawn.panel
    rw [hseen] at hfate hpanel
    exact ⟨hfate, hpanel⟩

/-- A body that has lost its last bracket, in an answer whose result would have been shown. -/
theorem damaged_refused_lost_bracket :
    let body : String := "\x7b\"result\":\"y\"\x7d"
    let reply : HttpReply :=
      ⟨200, "application/json", "\x7b\"result\":\"y\"".toUTF8.toList, false, none⟩
    let s₀ : Session := { form := { template := "x" } }
    let s₁ : Session := { s₀ with replies := [.answer reply.answer] }
    let s := (s₁.start .submit).settle
    ExecuteResponse.parse? body = some { result := some "y" } ∧
      Damaged body "\x7b\"result\":\"y\"" ∧ s.panel = ⟨true, serviceUnavailable, true⟩ := by
  intro body reply s₀ s₁ s
  have decodes : ExecuteResponse.parse? body = some { result := some "y" } := by decide +kernel
  have halves : body = "\x7b\"result\":\"y\"" ++ "\x7d" := rfl
  have damage : Damaged body "\x7b\"result\":\"y\"" :=
    .cut halves ⟨'\x7d', by decide, by simp [IsBlank]⟩
  obtain ⟨-, -, seen⟩ := damaged_refused decodes
  have whole : reply.text? = some "\x7b\"result\":\"y\"" := by decide +kernel
  obtain ⟨-, shown⟩ := seen reply _ damage (by decide +kernel) (by decide) whole
  have before : s₀.Reaches .orderly s₁ := .single (.reply _ trivial)
  have ready : s₁.IsReady := ⟨rfl, by decide⟩
  have answered : Answered .orderly .submit s₁ reply.answer s := .atOnce [] rfl rfl
  exact ⟨decodes, damage, (shown .submit s₀ s₁ s rfl before rfl rfl ready answered).2⟩

end Session

end TemplateClient
