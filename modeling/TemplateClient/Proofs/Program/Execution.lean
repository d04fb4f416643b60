import Mathlib.Data.List.Basic
import TemplateClient.Program.Run

/-!
# The execution of a plan

Nothing reacts inside the program, so its session has a single course with few resting points: the
page has been loaded, the click has been refused, the click has led to a request, and the answer has
been shown. Each is written down, and the program is executed from one to the next.

* `Plan.loaded`, `Plan.refused`, `Plan.asked`, `Plan.shown` -- the resting points;
* `Report.ofMessage`, `Report.ofResult` -- the reports;
* `report_of_blank`, `report_of_full` -- what a plan sends and prints.
-/

namespace TemplateClient

open Session

/-! ## 1. Resting points -/

namespace Plan

variable {p : Plan}

/-- The page has been loaded: the overlay has its timings. -/
def loaded (p : Plan) : Session where
  timings := p.timings
  form := p.form
  overlay := ⟨p.timings, none⟩
  nextTask := 1
  trace := [⟨some 0, .call (.configure p.timings)⟩, ⟨some 0, .task 0 (.done (.handled none))⟩]

/-- The click has been refused, and the refusal has been drawn. -/
def refused (p : Plan) : Session :=
  { p.loaded with
    panel := ⟨true, emptyTemplate, true⟩
    nextTask := 2
    trace := p.loaded.trace ++ [
      ⟨some 1, .read .template⟩,
      ⟨some 1, .call (.setErrorState true)⟩,
      ⟨some 1, .call (.setContent emptyTemplate)⟩,
      ⟨some 1, .call .showContainer⟩,
      ⟨some 1, .print (.ofError emptyTemplate)⟩,
      ⟨some 1, .call .update⟩,
      ⟨some 1, .log (.panelLines (Text.lineCount emptyTemplate))⟩,
      ⟨some 1, .task 1 (.done (.handled (some (.rejected emptyTemplate))))⟩] }

/-- The notice of the blocked page, which comes at once if there is no fade-in time. -/
def notices (p : Plan) : List LogRecord := if p.timings.fadeIn = 0 then [.busyNotice] else []

/-- The click has led to a request, and the timer of the blocked page runs or has run out. -/
def asked (p : Plan) : Session :=
  { p.loaded with
    inFlight := true
    overlay := ⟨p.timings,
      some (if p.timings.fadeIn = 0 then .finished else .running p.timings.fadeIn)⟩
    nextTask := 2
    waiting := [⟨1, .event, true⟩]
    trace := p.loaded.trace ++ FormField.all.map (fun x => ⟨some 1, .read x⟩) ++ [
      ⟨some 1, .call .block⟩,
      ⟨some 1, .call .hideError⟩,
      ⟨some 1, .request p.form⟩,
      ⟨some 1, .task 1 .pending⟩] ++
      p.notices.map fun record => ⟨none, .log record⟩ }

/-- The answer has come and its result has been drawn. -/
def shown (p : Plan) (a : Answer) : Session :=
  let r := ExecutionResult.ofAnswer a
  { p.asked with
    inFlight := false
    panel := ⟨r.isError, r.text, true⟩
    overlay := ⟨p.timings, none⟩
    waiting := []
    trace := p.asked.trace ++ a.records.map (fun record => ⟨some 1, .log record⟩) ++ [
      ⟨some 1, .call (.setErrorState r.isError)⟩,
      ⟨some 1, .call (.setContent r.text)⟩,
      ⟨some 1, .call .showContainer⟩,
      ⟨some 1, .print (Panel.record ⟨r.isError, r.text, true⟩)⟩,
      ⟨some 1, .call .update⟩,
      ⟨some 1, .log (.panelLines (Text.lineCount r.text))⟩,
      ⟨some 1, .call .unblock⟩,
      ⟨some 1, .task 1 (.done (.handled (some (.completed r))))⟩] }

theorem take_pageLoad (p : Plan) :
    ({ timings := p.timings, form := p.form } : Session).take
      { action := .trigger (.event .pageLoad) } = p.loaded := rfl

/-! ## 2. From one to the next -/

-- The machine is executed on a form that is known only up to its template being blank or not. The
-- steps are those of the machine, and the test of the template and of the fade-in time are the only
-- branches.

theorem begun_of_blank (blank : Text.allBlank p.form.template = true) : p.begun = p.refused := by
  rw [begun, run, List.foldl_cons, take_pageLoad]
  simp [refused, loaded, take, perform, start, launch, enter, workOf, viaOf, settle, bound,
    totalWeight, weight, steps, step?, stepFrame, readField, call, Call.method, react, reaction?,
    note, act, sideEffects, Panel.after, Panel.record, Overlay.after, showCalls, endOf, outcomeOf,
    blank, runTimer, Overlay.wake, Overlay.tick, elapsed]

theorem begun_of_full (full : Text.allBlank p.form.template = false) : p.begun = p.asked := by
  rw [begun, run, List.foldl_cons, take_pageLoad]
  by_cases h : p.timings.fadeIn = 0 <;>
    simp [asked, notices, loaded, take, perform, start, launch, enter, workOf, viaOf, settle, bound,
      totalWeight, weight, steps, step?, stepFrame, readField, call, Call.method, react, reaction?,
      note, act, sideEffects, lacks, insertWaiting, Panel.after, Overlay.after, Overlay.block, full,
      runTimer, Overlay.wake, Overlay.tick, elapsed, FormField.all, FormValues.copy, h]

theorem ended_of_full (full : Text.allBlank p.form.template = false) (a : Answer) :
    p.ended a = p.shown a := by
  rw [ended, begun_of_full full]
  simp [shown, asked, loaded, take, perform, pollTask, resume, remove, settle, bound, totalWeight,
    weight, steps, step?, stepFrame, enter, noteAll, call, Call.method, react, reaction?, act,
    sideEffects, Panel.after, Panel.record, Overlay.after, Overlay.unblock, showCalls, endOf,
    outcomeOf, runTimer, Overlay.wake, Overlay.tick, elapsed]

end Plan

/-! ## 3. Reports -/

namespace Report

/-- The report of a run that fails with a message: one record on standard error. -/
def ofMessage (message : String) : Report :=
  { exitCode := 1, errors := banner ++ "❌ " ++ message ++ "\n" }

/-- The report of a run that shows a result. -/
def ofResult : ExecutionResult → Report
  | .success text => { exitCode := 0, output := text ++ "\n", errors := banner }
  | .failure message => ofMessage message

theorem ofFailure_eq (cause : Failure) : cause.report = ofMessage cause.message := by
  simp only [Failure.report, ofMessage, Print.ofError, String.append_assoc]

end Report

namespace Plan

variable {p : Plan}

theorem report_refused (p : Plan) : p.refused.report = .ofMessage emptyTemplate := by
  simp [Session.report, hasSucceeded, printed, refused, loaded, Report.ofMessage, Print.ofError,
    String.append_assoc]

theorem requests_refused (p : Plan) : p.refused.requests = [] := by
  simp [requests, refused, loaded]

theorem requests_asked (p : Plan) : p.asked.requests = [p.form] := by
  simp [requests, asked, loaded, List.filterMap_map]

theorem requests_shown (p : Plan) (a : Answer) : (p.shown a).requests = [p.form] := by
  have hasked := p.requests_asked
  unfold requests at hasked ⊢
  simp [shown, hasked, List.filterMap_map]

theorem printed_asked (p : Plan) (stream : Stream) : p.asked.printed stream = "" := by
  simp [printed, asked, loaded, List.filterMap_map]

theorem hasSucceeded_asked (p : Plan) : p.asked.hasSucceeded = false := by
  simp [hasSucceeded, asked, loaded]

/-- Only the result is printed. -/
theorem printed_shown (p : Plan) (a : Answer) (stream : Stream) :
    (p.shown a).printed stream =
      let r := ExecutionResult.ofAnswer a
      let print := Panel.record ⟨r.isError, r.text, true⟩
      if print.stream = stream then print.text else "" := by
  have hasked := p.printed_asked stream
  unfold printed at hasked ⊢
  simp only [shown, List.filterMap_append, String.join_append, hasked]
  split <;> simp [*, List.filterMap_map]

/-- The click succeeds if its result is no error. -/
theorem hasSucceeded_shown (p : Plan) (a : Answer) :
    (p.shown a).hasSucceeded = !(ExecutionResult.ofAnswer a).isError := by
  have hasked := p.hasSucceeded_asked
  unfold hasSucceeded at hasked ⊢
  simp only [shown, List.any_append, hasked]
  simp

theorem report_shown (p : Plan) (a : Answer) : (p.shown a).report = .ofResult (.ofAnswer a) := by
  rw [Session.report, printed_shown, printed_shown, hasSucceeded_shown]
  cases ExecutionResult.ofAnswer a with
  | success text =>
    simp [Report.ofResult, Panel.record, ExecutionResult.isError, ExecutionResult.text,
      Print.ofResult]
  | failure text =>
    simp [Report.ofResult, Report.ofMessage, Panel.record, ExecutionResult.isError,
      ExecutionResult.text, Print.ofError, String.append_assoc]

/-- **A blank template is refused** without a request. -/
theorem report_of_blank (blank : Text.allBlank p.form.template = true) :
    p.begun.requests = [] ∧ p.begun.report = .ofMessage emptyTemplate := by
  rw [begun_of_blank blank]
  exact ⟨p.requests_refused, p.report_refused⟩

/-- **Any other form is sent once**, and the answer is reported. -/
theorem report_of_full (full : Text.allBlank p.form.template = false) :
    p.begun.requests = [p.form] ∧
      ∀ a, (p.ended a).requests = [p.form] ∧ (p.ended a).report = .ofResult (.ofAnswer a) := by
  refine ⟨begun_of_full full ▸ p.requests_asked, fun a => ?_⟩
  rw [ended_of_full full]
  exact ⟨p.requests_shown a, p.report_shown a⟩

end Plan

end TemplateClient
