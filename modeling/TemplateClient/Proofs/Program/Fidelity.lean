import TemplateClient.Proofs.Charset.Utf8
import TemplateClient.Proofs.CommandLine.Form
import TemplateClient.Proofs.Form.Request
import TemplateClient.Proofs.Program.Contract

/-!
# Texts from end to end

What a file holds is what the service is asked with, and what the service answers is what is
printed, character for character: nothing is trimmed, no byte order mark is dropped from a file, and
a flag that is given counts even if its value is empty.

* `HttpReply.HasText`, `HttpReply.Gives` -- replies in UTF-8, and those that give a result;
* `Invocation.texts_kept` -- the texts that a process posts and prints.
-/

namespace TemplateClient

open Json (IsText)

/-! ## 1. Replies -/

namespace HttpReply

variable {reply : HttpReply} {text : String}

/-- The body is a text in UTF-8: the media type announces no other encoding, or a byte order mark
stands in front. -/
inductive HasText (reply : HttpReply) (text : String) : Prop where
  | announced (charset : MediaType.charset reply.mediaType = .utf8)
      (bytes : reply.body = text.toUTF8.data.toList) : HasText reply text
  | marked (bytes : reply.body = 0xEF :: 0xBB :: 0xBF :: text.toUTF8.data.toList) :
      HasText reply text

/-- The reply is a success, and its whole body is a response that has the text as its result, in any
spelling, and no problems. -/
structure Gives (reply : HttpReply) (result : String) : Prop where
  status : reply.status = 200
  readable : reply.isReadable = true
  whole : reply.isCut = false
  response : ∃ text value response, reply.HasText text ∧ IsText text value ∧
    ExecuteResponse.Describes value response ∧ response.result = some result ∧
    (response.problems = none ∨ response.problems = some [])

/-- A JSON text in UTF-8 is what is read from the body. -/
theorem HasText.text?_eq {value : Json} (h : reply.HasText text) (isText : IsText text value)
    (hasBody : reply.hasNoBody = false) (whole : reply.isCut = false) :
    reply.text? = some text := by
  have hdecode : (MediaType.charset reply.mediaType).decode reply.body = text := by
    cases h with
    | announced charset bytes =>
      obtain ⟨c, cs, hcs, ascii⟩ := isText.exists_ascii value.tokens_ne_nil
      rw [charset, bytes]
      exact Charset.decode_utf8 hcs ascii
    | marked bytes =>
      rw [bytes]
      exact Charset.decode_marked _ text
  rw [HttpReply.text?, hasBody, whole, hdecode]
  rfl

/-- A reply that gives a result is seen as that result. -/
theorem Gives.verdict {result : String} (h : reply.Gives result) :
    Verdict (some reply) (.success result) := by
  obtain ⟨text, value, response, hasText, isText, describes, given, clean⟩ := h.response
  have hasBody : reply.hasNoBody = false := by
    rw [hasNoBody, h.status]
    rfl
  have decodes : ExecuteResponse.parse? text = some response := by
    rw [ExecuteResponse.parse?, Json.parse?_eq_some_iff.mpr isText, Option.bind_some]
    exact ExecuteResponse.ofJson?_eq_some_iff.mpr describes
  have verdict := Verdict.result h.readable (by rw [h.status]; decide)
    (hasText.text?_eq isText hasBody h.whole) decodes clean
  rwa [given] at verdict

end HttpReply

/-! ## 2. Processes -/

namespace Invocation

variable {i : Invocation} {net : Network}

/-- A process that asks has read its arguments, its settings and its form, and is a run. -/
theorem ready_of_asks (asks : (i.process net).2 ≠ []) :
    ∃ c url form, CommandLine.parse i.args = .ok c ∧ i.Ready c url form ∧
      i.process net = i.run net := by
  cases hparse : CommandLine.parse i.args with
  | error stop =>
    refine absurd ?_ asks
    unfold process start
    cases i.panic? with
    | some report => rfl
    | none =>
      dsimp only
      rw [execute, prepare, hparse]
      rfl
  | ok c =>
    by_cases panics : i.Panics
    · obtain ⟨report, hprocess, -⟩ := process_of_panics hparse panics net
      exact absurd (congrArg Prod.snd hprocess) asks
    · have hrun := process_of_not_panics hparse panics net
      rw [hrun] at asks
      by_cases ready : ∃ url form, i.Ready c url form
      · obtain ⟨url, form, ready⟩ := ready
        exact ⟨c, url, form, rfl, ready, hrun⟩
      · exact absurd ((way_of_run hparse net).silent ready) asks

/-- What is asked with a form: it is posted first, every post carries it, and whatever is no post
has no body. -/
structure AsksWith (asked : Asked) (form : FormValues) : Prop where
  first : ∃ p more, asked = p :: more ∧ p.2.method = "POST"
  posts : ∀ p ∈ asked, p.2.method = "POST" → FormValues.parse? p.2.body = some form
  others : ∀ p ∈ asked, p.2.method ≠ "POST" → p.2.body = ""

theorem asksWith_of_posted {url : String} {form : FormValues} {asked : Asked}
    {came : Option HttpReply} (posted : net.Posted url form asked came) (asks : asked ≠ []) :
    AsksWith asked form where
  first := by
    cases hparse : Address.parse? net.toAscii? url with
    | none => exact absurd (posted.unusable hparse) asks
    | some a =>
      obtain ⟨more, hmore⟩ := List.head?_eq_some_iff.mp (posted.first a hparse)
      exact ⟨_, more, hmore, rfl⟩
  posts := by
    rintro ⟨origin, request⟩ hp method
    have carries : request.Carries form := posted.carries _ hp
    cases carries with
    | post => exact form.parse?_toText
    | reading => exact absurd method (by simp)
  others := by
    rintro ⟨origin, request⟩ hp method
    have carries : request.Carries form := posted.carries _ hp
    cases carries with
    | post => exact absurd rfl method
    | reading => rfl

/-- **Texts are kept from end to end.** A process posts the texts of its sources and the values of
its flags, each with its default; and whatever text a successful reply gives, in any spelling, is
what the process prints. -/
theorem texts_kept (i : Invocation) (net : Network) (asks : (i.process net).2 ≠ []) :
    (∃ c given f form, CommandLine.GivenBy c i.args given ∧
      FileLayer i.disk i.userFile c.config f ∧ c.FormOf f.defaults i.disk i.input form ∧
      AsksWith (i.process net).2 form) ∧
    ∀ front origin request back reply result,
      (i.process net).2 = front ++ (origin, request) :: back →
      net.reply? front origin request = some reply → reply.Gives result →
      (i.process net).1.output = result ++ "\n" := by
  obtain ⟨c, url, form, parses, ready, hrun⟩ := ready_of_asks asks
  obtain ⟨r, verdict⟩ := Verdict.exists (net.fetch url form).1
  have posted := net.posted_fetch url form
  rw [hrun, run_of_ready parses ready verdict] at asks ⊢
  dsimp only at asks ⊢
  constructor
  · obtain ⟨⟨s, loads, rfl⟩, -⟩ := ready
    obtain ⟨given, givenBy⟩ := CommandLine.parse_eq_ok_iff.mp parses
    obtain ⟨f, e, accepted, layered⟩ := settings_eq_ok_iff.mp loads.settings
    have hform := loads.form
    rw [layered.defaults, CommandLine.readForm_eq_ok_iff] at hform
    exact ⟨c, given, f, form, givenBy, accepted.file, hform, asksWith_of_posted posted asks⟩
  · intro front origin request back reply result split replies gives
    have final : net.next? origin request reply = none :=
      next?_eq_none_of_success (by rw [gives.status]; decide)
    -- nothing is asked after a reply that is final
    have last : back = [] := by
      cases back with
      | nil => rfl
      | cons q back =>
        obtain ⟨reply', replies', -, goes⟩ := posted.further front (origin, request) q back split
        obtain rfl := Option.some.inj (replies.symm.trans replies')
        cases final.symm.trans goes
    rw [(posted.final reply).mpr ⟨front, _, last ▸ split, replies, final⟩] at verdict
    rw [verdict_iff.mp verdict, ← verdict_iff.mp gives.verdict]
    rfl

set_option maxRecDepth 8000 in
/-- A template with a byte order mark and white space, a flag that is given as empty, a default of
the file of settings, and a result that is spelled with an escape. -/
theorem texts_kept_of_flags :
    let disk : Disk := {
      read := fun path =>
        if path = "t" then .ok "\ufeff x ".toUTF8
        else if path = "user" then .ok "defaults = [\"HTML\", \"en\"]".toUTF8
        else .error .notFound
      holds := fun path => path == "user" }
    let i : Invocation := {
      args := ["--template=t", "--locale", "", "-d-"]
      disk
      input := "d".toUTF8
      userFile := "user"
      environment := [("TESTER_API_BASE", "https://service/")] }
    let body : String := "\x7b\"result\":\"\\u0079\"\x7d"
    let reply : HttpReply :=
      ⟨200, "text/plain", 0xEF :: 0xBB :: 0xBF :: body.toUTF8.data.toList, false, none⟩
    let net : Network := {
      toAscii? := some
      refer? := Address.refer? some
      reply? := fun _ _ _ => some reply }
    let form : FormValues := { template := "\ufeff x ", dataModel := "d", outputFormat := "HTML" }
    let request : HttpRequest := { target := "/api/execute", body := form.toText }
    (i.process net).2 = [(⟨.https, .name "service", 443⟩, request)] ∧ reply.Gives "y" ∧
      (i.process net).1.output = "y\n" := by
  intro disk i body reply net form request
  have asked : (i.process net).2 = [(⟨.https, .name "service", 443⟩, request)] := by
    decide +kernel
  have asks : (i.process net).2 ≠ [] := by
    rw [asked]
    exact List.cons_ne_nil _ _
  have isText : IsText body (.object [("result".toList.map .char, .string [.unit 0x79])]) := by
    unfold body
    exact Json.parse?_eq_some_iff.mp rfl
  have gives : reply.Gives "y" := by
    refine ⟨rfl, by decide +kernel, rfl, body, _, ⟨some "y", none, false⟩, .marked rfl, isText, ?_,
      rfl, .inl rfl⟩
    exact ExecuteResponse.ofJson?_eq_some_iff.mp rfl
  obtain ⟨-, prints⟩ := texts_kept i net asks
  exact ⟨asked, gives, prints [] _ request [] reply "y" asked rfl gives⟩

end Invocation

end TemplateClient
