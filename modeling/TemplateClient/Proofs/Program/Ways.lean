import TemplateClient.Proofs.Http.Trail
import TemplateClient.Proofs.Program.Execution
import TemplateClient.Proofs.Service.Verdict
import TemplateClient.Proofs.Settings.Layers

/-!
# The ways of a run

A run whose arguments are a command loads its settings, reads its form and, unless the template is
blank, posts it. It can stop at each of these, so there are four ways that it can take.

* `Invocation.Loads`, `Invocation.Ready` -- the settings and the form of a run that is not stopped
  early;
* `Invocation.Way`, `Invocation.way_of_run` -- the four ways, with what is reported and asked.
-/

namespace TemplateClient.Invocation

variable {i : Invocation} {c : CommandLine} {net : Network}

/-! ## 1. Forms that are ready -/

/-- The settings of a run have been loaded, and its form has been read. -/
structure Loads (i : Invocation) (c : CommandLine) (s : Settings) (form : FormValues) : Prop where
  settings : i.settings c = .ok s
  form : c.readForm s.defaults i.disk i.input = .ok form

/-- The form of a run has been read, and its template is not blank. It goes to this URL. -/
structure Ready (i : Invocation) (c : CommandLine) (url : String) (form : FormValues) : Prop where
  loads : ∃ s, i.Loads c s form ∧ url = s.executeUrl
  full : Text.allBlank form.template = false

/-- A plan comes from settings that load and a form that can be read. -/
theorem planOf_eq (i : Invocation) (c : CommandLine) :
    i.planOf c =
      match i.settings c with
      | .error cause => .error cause
      | .ok s =>
        match c.readForm s.defaults i.disk i.input with
        | .error cause => .error (.unreadableFile cause)
        | .ok form => .ok ⟨s.executeUrl, s.overlay, form⟩ := by
  unfold planOf Invocation.settings
  cases Settings.load i.tomlWords i.disk i.userFile i.fullEnvironment c.config with
  | error cause => rfl
  | ok below =>
    simp only [Except.map]
    cases hform : c.readForm (c.applyTo below).defaults i.disk i.input with
    | error cause => simp [hform, Except.mapError, bind, Except.bind]
    | ok form => simp [hform, Except.mapError, bind, Except.bind, pure, Except.pure]

theorem Loads.planOf_eq {s : Settings} {form : FormValues} (h : i.Loads c s form) :
    i.planOf c = .ok ⟨s.executeUrl, s.overlay, form⟩ := by
  rw [Invocation.planOf_eq, h.settings]
  simp only [h.form]

/-- There is one form at most that can be ready, and one URL. -/
theorem Ready.unique {url url' : String} {form form' : FormValues} (h : i.Ready c url form)
    (h' : i.Ready c url' form') : url = url' ∧ form = form' := by
  obtain ⟨⟨s, ⟨settings, reads⟩, rfl⟩, -⟩ := h
  obtain ⟨⟨s', ⟨settings', reads'⟩, rfl⟩, -⟩ := h'
  obtain rfl : s = s' := Except.ok.inj (settings.symm.trans settings')
  exact ⟨rfl, Except.ok.inj (reads.symm.trans reads')⟩

/-! ## 2. What a run does -/

/-- The four ways that a run can take, with what it reports and what is asked. -/
inductive Way (net : Network) (i : Invocation) (c : CommandLine) : Report → Asked → Prop where
  | unloaded {cause : Failure} (refused : i.settings c = .error cause) :
      Way net i c (.ofMessage cause.message) []
  | unread {s : Settings} {cause : FileError} (settings : i.settings c = .ok s)
      (unreadable : c.readForm s.defaults i.disk i.input = .error cause) :
      Way net i c (.ofMessage (Failure.unreadableFile cause).message) []
  | blank {s : Settings} {form : FormValues} (loads : i.Loads c s form)
      (blank : Text.allBlank form.template = true) : Way net i c (.ofMessage emptyTemplate) []
  | shown {url : String} {form : FormValues} {r : ExecutionResult} (ready : i.Ready c url form)
      (verdict : Verdict (net.fetch url form).1 r) :
      Way net i c (.ofResult r) (net.fetch url form).2

section Parsed

variable (parses : CommandLine.parse i.args = .ok c)
include parses

theorem run_of_stop {cause : Failure} (stops : i.planOf c = .error cause) :
    i.run net = (.ofMessage cause.message, []) := by
  rw [run, execute, prepare, parses]
  simp only [stops, Except.mapError, Report.ofFailure_eq]
  rfl

theorem run_of_blank {p : Plan} (plans : i.planOf c = .ok p)
    (blank : Text.allBlank p.form.template = true) :
    i.run net = (.ofMessage emptyTemplate, []) := by
  obtain ⟨requests, report⟩ := Plan.report_of_blank blank
  rw [run, execute, prepare, parses]
  simp only [plans, Except.mapError, requests, report]
  rfl

theorem run_of_full {p : Plan} (plans : i.planOf c = .ok p)
    (full : Text.allBlank p.form.template = false) :
    i.run net = (.ofResult (.ofAnswer (net.exchange p.url p.form).1),
      (net.exchange p.url p.form).2) := by
  obtain ⟨requests, answered⟩ := Plan.report_of_full full
  rw [run, execute, prepare, parses]
  simp only [plans, Except.mapError, requests, (answered _).2]
  rw [StateT.run_bind, Network.exchange]
  generalize (net.toClient.exchange net.send p.url p.form).run [] = outcome
  rfl

/-- A run whose form is ready reports what the table of verdicts shows of the reply. -/
theorem run_of_ready {url : String} {form : FormValues} {r : ExecutionResult}
    (ready : i.Ready c url form) (verdict : Verdict (net.fetch url form).1 r) :
    i.run net = (.ofResult r, (net.fetch url form).2) := by
  obtain ⟨⟨s, loads, rfl⟩, full⟩ := ready
  rw [run_of_full parses loads.planOf_eq full, net.exchange_eq, verdict_iff.mp verdict]

/-- **Every run takes one of the four ways.** -/
theorem way_of_run (net : Network) : Way net i c (i.run net).1 (i.run net).2 := by
  have hplan := i.planOf_eq c
  cases hs : i.settings c with
  | error cause =>
    rw [hs] at hplan
    rw [run_of_stop parses hplan]
    exact .unloaded hs
  | ok s =>
    cases hform : c.readForm s.defaults i.disk i.input with
    | error cause =>
      simp only [hs, hform] at hplan
      rw [run_of_stop parses hplan]
      exact .unread hs hform
    | ok form =>
      have loads : i.Loads c s form := ⟨hs, hform⟩
      cases hblank : Text.allBlank form.template with
      | true =>
        rw [run_of_blank parses loads.planOf_eq hblank]
        exact .blank loads hblank
      | false =>
        have ready : i.Ready c s.executeUrl form := ⟨⟨s, loads, rfl⟩, hblank⟩
        obtain ⟨r, verdict⟩ := Verdict.exists (net.fetch s.executeUrl form).1
        rw [run_of_ready parses ready verdict]
        dsimp only
        exact .shown ready verdict

end Parsed

end TemplateClient.Invocation
