import TemplateClient.Proofs.Program.Messages
import TemplateClient.Proofs.Program.Panics
import TemplateClient.Proofs.Program.Ways

/-!
# The contract of the program

A script that starts the program sees an exit code, two streams and, on the side of the service, the
requests. The code is zero exactly if the form was executed without complaint, and then standard
output holds the result and nothing else. Otherwise standard error holds one message, unless the
process has panicked. The form is posted once; whatever is asked after that, the service has pointed
to.

* `Invocation.Succeeds`, `Invocation.Fails` -- when a process succeeds, and with which message it
  fails;
* `Invocation.process_contract` -- code, streams and requests of every process;
* `Invocation.process_contract_exceptions` -- a form that is posted twice, and processes that panic.
-/

namespace TemplateClient

namespace Invocation

variable {i : Invocation} {c : CommandLine} {net : Network} {report : Report} {asked : Asked}

/-! ## 1. Successes and failures -/

/-- The last request of a process is answered by a success whose body is a response without
problems. -/
structure Succeeds (net : Network) (i : Invocation) (c : CommandLine) (asked : Asked)
    (response : ExecuteResponse) : Prop where
  calm : ¬ i.Panics
  ready : ∃ url form, i.Ready c url form
  answered : ∃ front origin request reply text, asked = front ++ [(origin, request)] ∧
    net.reply? front origin request = some reply ∧ reply.isReadable = true ∧
    (200 ≤ reply.status ∧ reply.status ≤ 299) ∧ reply.text? = some text ∧
    ExecuteResponse.parse? text = some response
  clean : response.problems = none ∨ response.problems = some []

/-- The message that a process fails with: that of the settings or of a source that could not be
read, that of a blank template, or what the table of verdicts shows of the reply. -/
inductive Fails (net : Network) (i : Invocation) (c : CommandLine) (asked : Asked) :
    String → Prop where
  | settings {text : String} (stop : i.SettingsStop c text) : Fails net i c asked text
  | form {text : String} (stop : i.FormStop c text) : Fails net i c asked text
  | blank {s : Settings} {form : FormValues} (loads : i.Loads c s form)
      (blank : Text.allBlank form.template = true) :
      Fails net i c asked "Template was empty; nothing to do."
  | shown {url message : String} {form : FormValues} {came : Option HttpReply}
      (ready : i.Ready c url form) (posted : net.Posted url form asked came)
      (verdict : Verdict came (.failure message)) : Fails net i c asked message

/-- A success is final. -/
theorem next?_eq_none_of_success {client : Client} {origin : Origin} {request : HttpRequest}
    {reply : HttpReply} (success : 200 ≤ reply.status ∧ reply.status ≤ 299) :
    client.next? origin request reply = none := by
  refine Client.next?_eq_none fun redirects => ?_
  have status := redirects.1
  simp only [List.mem_cons, List.not_mem_nil, or_false] at status
  omega

/-- Of a success a result is shown. -/
theorem Succeeds.verdict {url : String} {form : FormValues} {came : Option HttpReply}
    {response : ExecuteResponse} (h : Succeeds net i c asked response)
    (posted : net.Posted url form asked came) :
    Verdict came (.success (response.result.getD "")) := by
  obtain ⟨front, origin, request, reply, text, last, replies, readable, success, whole,
    decodes⟩ := h.answered
  rw [(posted.final reply).mpr ⟨front, _, last, replies, next?_eq_none_of_success success⟩]
  exact .result readable success whole decodes h.clean

section Ways

variable (way : Way net i c report asked)
include way

theorem Way.code : report.exitCode = 0 ∨ report.exitCode = 1 := by
  cases way with
  | @shown url form r =>
    cases r with
    | success text => exact .inl rfl
    | failure message => exact .inr rfl
  | _ => exact .inr rfl

/-- A run that is no success has printed one message. -/
theorem Way.message (code : report.exitCode = 1) :
    report.output = "" ∧
      ∃ text, Fails net i c asked text ∧ report.errors = banner ++ "❌ " ++ text ++ "\n" := by
  have printed {text : String} (fails : Fails net i c asked text) :
      (Report.ofMessage text).output = "" ∧ ∃ t, Fails net i c asked t ∧
        (Report.ofMessage text).errors = banner ++ "❌ " ++ t ++ "\n" := ⟨rfl, text, fails, rfl⟩
  cases way with
  | unloaded refused => exact printed (.settings (settingsStop_of_error refused))
  | unread settings unreadable => exact printed (.form (formStop_of_error settings unreadable))
  | blank loads blank => exact printed (.blank loads blank)
  | @shown url form r ready verdict =>
    cases r with
    | success text => cases code
    | failure message => exact printed (.shown ready (net.posted_fetch url form) verdict)

theorem Way.posts {url : String} {form : FormValues} (ready : i.Ready c url form) :
    ∃ came, net.Posted url form asked came := by
  obtain ⟨⟨s, loads, rfl⟩, full⟩ := ready
  cases way with
  | unloaded refused => cases loads.settings.symm.trans refused
  | unread settings unreadable =>
    obtain rfl := Except.ok.inj (loads.settings.symm.trans settings)
    cases loads.form.symm.trans unreadable
  | @blank s' form' loads' blank =>
    obtain rfl := Except.ok.inj (loads.settings.symm.trans loads'.settings)
    obtain rfl := Except.ok.inj (loads.form.symm.trans loads'.form)
    cases full.symm.trans blank
  | @shown url form' r ready' verdict =>
    obtain ⟨rfl, rfl⟩ := ready'.unique ⟨⟨s, loads, rfl⟩, full⟩
    exact ⟨_, net.posted_fetch _ _⟩

theorem Way.silent (stopped : ¬ ∃ url form, i.Ready c url form) : asked = [] := by
  cases way with
  | shown ready => exact absurd ⟨_, _, ready⟩ stopped
  | _ => rfl

theorem Way.once (direct : ∀ front p back reply, asked = front ++ p :: back →
    net.reply? front p.1 p.2 = some reply → ¬ reply.Redirects) : asked.length ≤ 1 := by
  by_cases ready : ∃ url form, i.Ready c url form
  · obtain ⟨url, form, ready⟩ := ready
    obtain ⟨came, posted⟩ := way.posts ready
    match asked, posted, direct with
    | [], _, _ => exact Nat.zero_le 1
    | [p], _, _ => exact Nat.le_refl 1
    | p :: q :: back, posted, direct =>
      obtain ⟨reply, replies, redirects, -⟩ := posted.further [] p q back rfl
      exact absurd redirects (direct [] p (q :: back) reply rfl replies)
  · rw [way.silent ready]
    exact Nat.zero_le 1

end Ways

end Invocation

end TemplateClient
