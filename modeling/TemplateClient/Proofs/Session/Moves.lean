import Mathlib.Logic.Relation
import TemplateClient.Proofs.Session.Effect

/-!
# Moves of a session

Between two steps of its frames a session is at the mercy of its surroundings: collaborators make up
their minds how to react, replies come in, the form is edited, work is started, resumed or dropped,
and time passes. A move is a step or one such intervention, so the sessions that moves lead to are
the states at every point of every run, those at the end of each call among them.

* `Surroundings` -- what may happen around a session;
* `Move`, `Reaches` -- one move, and any number of them;
* `Session.IsFresh` -- where runs begin.
-/

namespace TemplateClient

/-! ## 1. Surroundings -/

/-- What may happen around a session. -/
structure Surroundings where
  /-- A collaborator may react so to a call of a method. -/
  reacts : Method → Reaction → Prop
  /-- Such a reply may come in. -/
  replies : Reply → Prop
  /-- A widget may be called so from outside. -/
  calls : Call → Prop
  /-- Whatever comes from outside may come while frames are running, from inside a collaborator. -/
  nests : Prop

namespace Surroundings

/-- Whatever comes from outside may come at any time, from inside a collaborator too, and every
collaborator may panic, except for the page when it is blocked. Only submissions switch the page. -/
def reentrant : Surroundings where
  reacts m r := ∀ message, r = .panic message → m ≠ .block
  replies _ := True
  calls c := c.isSwitch = false
  nests := True

/-- Collaborators start nothing and may only panic, and the page does not when it is blocked.
Whatever comes from outside waits until nothing runs. -/
def orderly : Surroundings where
  reacts m r := m ≠ .block ∧ ∃ message, r = .panic message
  replies _ := True
  calls _ := True
  nests := False

/-- Collaborators start nothing and may panic in any call. Only submissions switch the page, and
whatever comes from outside waits until nothing runs. -/
def unruly : Surroundings where
  reacts _ r := ∃ message, r = .panic message
  replies _ := True
  calls c := c.isSwitch = false
  nests := False

/-- Whatever comes from outside waits until nothing runs, and collaborators start nothing. -/
structure Sequential (M : Surroundings) : Prop where
  starts : ∀ m t, ¬ M.reacts m (.start t)
  nests : ¬ M.nests

theorem sequential_orderly : orderly.Sequential where
  starts := by simp [orderly]
  nests := id

theorem sequential_unruly : unruly.Sequential where
  starts := by simp [unruly]
  nests := id

end Surroundings

/-- Something may come from outside: no frame is running, or collaborators let it in. -/
def Session.IsOpen (M : Surroundings) (s : Session) : Prop :=
  s.running = [] ∨ M.nests

/-! ## 2. Moves -/

/-- One move of a session. -/
inductive Session.Move (M : Surroundings) : Session → Session → Prop where
  /-- The innermost frame takes a step. -/
  | step {s s' : Session} (h : s.step? = some s') : Move M s s'
  /-- A collaborator makes up its mind how to react to the next call of a method. -/
  | arm {s : Session} (h : Method × Reaction) (ok : M.reacts h.1 h.2) : Move M s (s.arm h)
  /-- A reply is ready. -/
  | reply {s : Session} (r : Reply) (ok : M.replies r) :
      Move M s { s with replies := s.replies ++ [r] }
  /-- The form gets other values. -/
  | edit {s : Session} (form : FormValues) (isOpen : s.IsOpen M) : Move M s { s with form }
  /-- A trigger starts a task. -/
  | trigger {s : Session} (t : Trigger) (isOpen : s.IsOpen M) : Move M s (s.start t)
  /-- A request is sent without the form. -/
  | execute {s : Session} (values : FormValues) (isOpen : s.IsOpen M) :
      Move M s (s.launch .execute (.send false values))
  /-- A waiting task looks for its answer. -/
  | resume {s : Session} (w : Waiting) (mem : w ∈ s.waiting) (isOpen : s.IsOpen M) :
      Move M s (s.resume w)
  /-- A task is dropped. -/
  | abandon {s : Session} (task : TaskId) (isOpen : s.IsOpen M) : Move M s (s.abandon task)
  /-- Widgets are called from outside. -/
  | address {s : Session} (calls : List Call) (ok : ∀ c ∈ calls, M.calls c)
      (isOpen : s.IsOpen M) : Move M s (s.address calls)
  /-- Started timers begin to run. -/
  | wake {s : Session} (isOpen : s.IsOpen M) : Move M s (s.runTimer (Overlay.wake s.clock))
  /-- Time passes. -/
  | pass {s : Session} (millis : Nat) (isOpen : s.IsOpen M) :
      Move M s { s with clock := s.clock + millis }
  /-- Running timers run out. -/
  | tick {s : Session} (isOpen : s.IsOpen M) : Move M s (s.runTimer (Overlay.tick s.clock))

/-- While nothing comes from outside, a session takes steps, and reactions and replies come in. -/
theorem Session.Move.of_closed {M : Surroundings} {s s' : Session} (hm : Move M s s')
    (closed : ¬ s.IsOpen M) :
    s.step? = some s' ∨ ∃ hooks replies, s' = { s with hooks, replies } := by
  cases hm with
  | step hstep => exact .inl hstep
  | arm h ok => exact .inr ⟨_, s.replies, rfl⟩
  | reply r ok => exact .inr ⟨s.hooks, _, rfl⟩
  | edit form isOpen => exact absurd isOpen closed
  | trigger t isOpen => exact absurd isOpen closed
  | execute values isOpen => exact absurd isOpen closed
  | resume w mem isOpen => exact absurd isOpen closed
  | abandon task isOpen => exact absurd isOpen closed
  | address calls ok isOpen => exact absurd isOpen closed
  | wake isOpen => exact absurd isOpen closed
  | pass millis isOpen => exact absurd isOpen closed
  | tick isOpen => exact absurd isOpen closed

/-- Nothing comes from outside while a frame runs, unless calls come from inside. -/
theorem Session.not_isOpen {M : Surroundings} {s : Session} (nests : ¬ M.nests)
    (busy : s.running ≠ []) : ¬ s.IsOpen M :=
  fun h => h.elim busy nests

/-- Moves lead from one session to another. -/
abbrev Session.Reaches (M : Surroundings) : Session → Session → Prop :=
  Relation.ReflTransGen (Session.Move M)

/-- Nothing has been done to the session yet. -/
def Session.IsFresh (s : Session) : Prop :=
  s = { hasClock := s.hasClock, bareForm := s.bareForm, timings := s.timings, form := s.form }

end TemplateClient
