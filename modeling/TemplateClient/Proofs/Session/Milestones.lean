import Mathlib.Data.List.Induction
import TemplateClient.Proofs.Session.Moves

/-!
# Milestones and the screen

The panel changes at two points in the course of a submission: at its acceptance, when an old error
is hidden, and at its end, when a result is drawn. What the panel shows after any number of such
milestones has a closed form.

* `Surroundings.calm` -- collaborators do not react, and only submissions call the panel;
* `Milestone`, `Session.history` -- the milestones, as they are seen;
* `Screen`, `Screen.ofHistory` -- the panel and all prints, and what milestones make of them;
* `Screen.Tells`, `Screen.tells_ofHistory` -- the closed form.
-/

namespace TemplateClient

/-! ## 1. Milestones -/

/-- The call is one of the result panel. -/
def Call.isView : Call → Bool
  | .setErrorState _ => true
  | .setContent _ => true
  | .showContainer => true
  | .hideError => true
  | _ => false

namespace Surroundings

/-- Collaborators do not react, only submissions call the result panel, and whatever comes from
outside waits until nothing runs. -/
def calm : Surroundings where
  reacts _ _ := False
  replies _ := True
  calls c := c.isView = false
  nests := False

end Surroundings

/-- The result that a submission has ended with; a refusal is a failure. -/
def SubmitOutcome.result? : SubmitOutcome → Option ExecutionResult
  | .ignored => none
  | .rejected text => some (.failure text)
  | .completed result => some result

/-- The result that a task has ended with, if it was a submission. -/
def Outcome.result? : Outcome → Option ExecutionResult
  | .submitted outcome => outcome.result?
  | .handled outcome => outcome.bind SubmitOutcome.result?
  | .executed _ => none

/-- A point in the course of a submission that leaves its mark on the panel. -/
inductive Milestone where
  /-- The submission has taken the flag. -/
  | accepted (task : TaskId)
  /-- The submission has ended with a result. -/
  | shown (task : TaskId) (result : ExecutionResult)
deriving DecidableEq, Repr

namespace Entry

/-- The milestone of an entry: a task that blocks the page has been accepted. -/
def milestone? (e : Entry) : Option Milestone :=
  match e.seen with
  | .call .block => e.actor.map .accepted
  | .task k (.done outcome) => outcome.result?.map (.shown k)
  | _ => none

/-- The print of an entry, and the task that printed it. -/
def print? (e : Entry) : Option (Option TaskId × Print) :=
  match e.seen with
  | .print p => some (e.actor, p)
  | _ => none

/-- The entry is no milestone, and nothing is printed. -/
def IsSilent (e : Entry) : Prop := e.milestone? = none ∧ e.print? = none

end Entry

/-- The record of a result: a success is its text and a line feed on standard output, and a failure
is a cross, a space, its text and a line feed on standard error. -/
def ExecutionResult.record : ExecutionResult → Print
  | .success text => { stream := .output, text := text ++ "\n" }
  | .failure text => { stream := .error, text := "❌ " ++ text ++ "\n" }

namespace Session

/-- The milestones so far, in order. -/
def history (s : Session) : List Milestone := s.trace.filterMap Entry.milestone?

/-- What has been printed so far, in order, and by which task. -/
def prints (s : Session) : List (Option TaskId × Print) := s.trace.filterMap Entry.print?

end Session

/-! ## 2. The screen -/

/-- The panel, and everything printed. -/
structure Screen where
  panel : Panel := {}
  prints : List (Option TaskId × Print) := []
deriving DecidableEq, Repr

namespace Milestone

/-- The submissions that have ended with a result, and their results. -/
def ending? : Milestone → Option (TaskId × ExecutionResult)
  | .accepted _ => none
  | .shown task result => some (task, result)

/-- The milestone is an acceptance. -/
def IsAcceptance (m : Milestone) : Prop := ∃ task, m = .accepted task

end Milestone

namespace Screen

/-- The screen after a call. -/
def after (actor : Option TaskId) (x : Screen) (c : Call) : Screen :=
  { panel := x.panel.after c
    prints := if c = .showContainer then x.prints ++ [(actor, x.panel.record)] else x.prints }

/-- The screen after several calls. -/
def afterAll (actor : Option TaskId) (calls : List Call) (x : Screen) : Screen :=
  calls.foldl (after actor) x

/-- What a milestone makes of the screen: an acceptance hides an old error, and a result is
drawn. -/
def pass (x : Screen) : Milestone → Screen
  | .accepted task => x.afterAll (some task) [.hideError]
  | .shown task result => x.afterAll (some task) (showCalls result.text result.isError)

/-- The screen after milestones. -/
def ofHistory (ms : List Milestone) : Screen := ms.foldl pass {}

theorem ofHistory_append (ms : List Milestone) (m : Milestone) :
    ofHistory (ms ++ [m]) = (ofHistory ms).pass m := List.foldl_append

/-- A result that is drawn is all that is left on the panel, and it is printed once. -/
theorem pass_shown (x : Screen) (task : TaskId) (r : ExecutionResult) :
    x.pass (.shown task r) =
      ⟨⟨r.isError, r.text, true⟩, x.prints ++ [(some task, r.record)]⟩ := by
  cases r <;> rfl

theorem after_of_not_isView {c : Call} (actor : Option TaskId) (x : Screen) (h : c.isView = false) :
    x.after actor c = x := by
  cases c <;> first | rfl | cases h

theorem afterAll_of_not_isView {calls : List Call} (actor : Option TaskId) (x : Screen)
    (h : ∀ c ∈ calls, c.isView = false) : x.afterAll actor calls = x := by
  induction calls with
  | nil => rfl
  | cons c cs ih =>
    obtain ⟨hc, hcs⟩ := List.forall_mem_cons.mp h
    have hstep : x.afterAll actor (c :: cs) = (x.after actor c).afterAll actor cs := rfl
    rw [hstep, after_of_not_isView actor x hc, ih hcs]

end Screen

/-! ## 3. What the panel tells -/

namespace Milestone

/-- The submissions that have ended with a result, in order, and their results. -/
def endings (ms : List Milestone) : List (TaskId × ExecutionResult) := ms.filterMap ending?

theorem endings_append (ms : List Milestone) (m : Milestone) :
    endings (ms ++ [m]) = endings ms ++ m.ending?.toList := by
  rw [endings, endings, List.filterMap_append]
  cases m <;> rfl

end Milestone

open Milestone (endings)

/-- What milestones tell of a screen. The text and the styling are those of the last result. The
panel is visible unless it has never shown a result, or the last one was an error and a submission
has been accepted since. Every result left one record. -/
structure Screen.Tells (ms : List Milestone) (x : Screen) : Prop where
  blank : endings ms = [] → x.panel = {}
  last : ∀ task r, (endings ms).getLast? = some (task, r) →
    x.panel.content = r.text ∧ x.panel.isError = r.isError
  visible : x.panel.visible = true ↔ ∃ task r, (endings ms).getLast? = some (task, r) ∧
    ¬ (r.isError = true ∧ ∃ m ∈ ms.getLast?, m.IsAcceptance)
  prints : x.prints = (endings ms).map fun (task, r) => (some task, r.record)

theorem Screen.Tells.accept {ms : List Milestone} {x : Screen} (h : x.Tells ms) (task : TaskId) :
    (x.pass (.accepted task)).Tells (ms ++ [.accepted task]) := by
  have hendings : endings (ms ++ [.accepted task]) = endings ms := by
    rw [Milestone.endings_append]
    exact List.append_nil _
  have hsince : ∃ m ∈ (ms ++ [Milestone.accepted task]).getLast?, m.IsAcceptance :=
    ⟨_, List.getLast?_concat, task, rfl⟩
  have hpanel : (x.pass (.accepted task)).panel =
      if x.panel.isError then { x.panel with visible := false } else x.panel := rfl
  have hprints : (x.pass (.accepted task)).prints = x.prints := rfl
  refine ⟨fun hnone => ?_, fun k r hlast => ?_, ?_, ?_⟩
  · rw [hendings] at hnone
    rw [hpanel, h.blank hnone]
    rfl
  · rw [hendings] at hlast
    rw [hpanel]
    split <;> exact h.last k r hlast
  · simp only [hendings, hsince, and_true]
    cases herror : x.panel.isError with
    | true =>
      refine iff_of_false (by simp [hpanel, herror]) ?_
      rintro ⟨k, r, hlast, hsuccess⟩
      exact hsuccess ((h.last k r hlast).2.symm.trans herror)
    | false =>
      rw [hpanel, herror, if_neg (by decide), h.visible]
      constructor
      · rintro ⟨k, r, hlast, -⟩
        refine ⟨k, r, hlast, ?_⟩
        rw [← (h.last k r hlast).2, herror]
        decide
      · rintro ⟨k, r, hlast, hsuccess⟩
        exact ⟨k, r, hlast, fun hboth => hsuccess hboth.1⟩
  · rw [hprints, hendings]
    exact h.prints

theorem Screen.Tells.show {ms : List Milestone} {x : Screen} (h : x.Tells ms) (task : TaskId)
    (r : ExecutionResult) : (x.pass (.shown task r)).Tells (ms ++ [.shown task r]) := by
  have hendings : endings (ms ++ [.shown task r]) = endings ms ++ [(task, r)] :=
    Milestone.endings_append ms (.shown task r)
  have hlast : (endings (ms ++ [.shown task r])).getLast? = some (task, r) := by
    rw [hendings, List.getLast?_concat]
  rw [Screen.pass_shown]
  refine ⟨fun hnone => ?_, fun k r' hr' => ?_, ?_, ?_⟩
  · rw [hnone] at hlast
    cases hlast
  · rw [hlast] at hr'
    cases hr'
    exact ⟨rfl, rfl⟩
  · refine iff_of_true rfl ⟨task, r, hlast, fun hboth => ?_⟩
    obtain ⟨m, hm, k, rfl⟩ := hboth.2
    rw [List.getLast?_concat] at hm
    cases hm
  · rw [hendings, List.map_append, ← h.prints]
    rfl

/-- **What the screen after milestones looks like**, by induction on them from the end. -/
theorem Screen.tells_ofHistory (ms : List Milestone) : (Screen.ofHistory ms).Tells ms := by
  induction ms using List.reverseRecOn with
  | nil => exact ⟨fun _ => rfl, nofun, iff_of_false (by decide) nofun, rfl⟩
  | append_singleton ms m ih =>
    rw [Screen.ofHistory_append]
    cases m with
    | accepted task => exact ih.accept task
    | shown task r => exact ih.show task r

end TemplateClient
