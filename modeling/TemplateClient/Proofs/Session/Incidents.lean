import Mathlib.Data.List.Find
import TemplateClient.Proofs.Session.Bystanders

/-!
# What befalls a task

A task makes its way by itself, as far as nothing befalls it: a collaborator reacts to one of its
calls, a reply comes for its request, or it is dropped. Reactions and replies wait in the session
until a step uses them up, so what a step has used up tells what has befallen its task.

* `Incident`, `Session.usedUp` -- what can befall a task, and what is used up between two sessions;
* `Session.incidents` -- what befalls a task while events happen;
* `Idle.incident?_eq` -- nothing befalls a task that has no turn;
* `incidents_allowed` -- what befalls a task is what the surroundings may do.
-/

namespace TemplateClient

/-- What can befall a task. -/
inductive Incident where
  /-- A collaborator reacts so to a call of the method. -/
  | reaction (m : Method) (r : Reaction)
  /-- The reply comes for the request. -/
  | reply (r : Reply)
  | drop

/-- The surroundings may let such a thing befall a task. -/
def Incident.Allowed (M : Surroundings) : Incident → Prop
  | .reaction m r => M.reacts m r
  | .reply r => M.replies r
  | .drop => True

namespace Session

variable {M : Surroundings} {s s' : Session} {k : TaskId}

/-! ## 1. One event -/

/-- The reply or the reaction that waits in `s` and does not wait in `s'` any more, if there is
one. -/
def usedUp (s s' : Session) : Option Incident :=
  if s'.replies.length < s.replies.length then s.replies.head?.map .reply
  else (s.hooks.find? fun h => !s'.hooks.contains h).map fun h => .reaction h.1 h.2

/-- What an event lets befall the task `k`: what its step uses up, or that it is dropped while it
waits. -/
def incident? (k : TaskId) (s : Session) : Event → Option Incident
  | .step =>
    match s.running.head?, s.step? with
    | some f, some s' => if f.actor = some k then s.usedUp s' else none
    | _, _ => none
  | .abandon task => if task = k ∧ s.waiting.any (·.task == k) = true then some .drop else none
  | _ => none

theorem usedUp_of_same (hooks : s'.hooks = s.hooks) (replies : s'.replies = s.replies) :
    s.usedUp s' = none := by
  rw [usedUp, if_neg (by rw [replies]; exact Nat.lt_irrefl _), hooks, Option.map_eq_none_iff]
  exact List.find?_eq_none.mpr fun h hh => by simpa using hh

theorem usedUp_of_reply {r : Reply} (taken : s.replies = r :: s'.replies) :
    s.usedUp s' = some (.reply r) := by
  rw [usedUp, if_pos (by rw [taken]; exact Nat.lt_succ_self _), taken]
  rfl

theorem usedUp_of_disarm {m : Method} {r : Reaction} (waits : s.reaction? m = some r)
    (hooks : s'.hooks = (s.disarm m).hooks) (replies : s'.replies = s.replies) :
    s.usedUp s' = some (.reaction m r) := by
  have gone : ∀ h ∈ s.hooks, (!s'.hooks.contains h) = (h.1 == m) := by
    intro h hh
    rw [hooks, disarm, Bool.eq_iff_iff]
    simp [hh]
  obtain ⟨⟨m', r'⟩, hfind, rfl⟩ := Option.map_eq_some_iff.mp waits
  obtain rfl : m' = m := by simpa using List.find?_some hfind
  rw [usedUp, if_neg (by rw [replies]; exact Nat.lt_irrefl _), List.find?_congr gone, hfind]
  rfl

/-- What is used up has been waiting. -/
theorem allowed_of_usedUp {i : Incident} (armed : Armed M s) (h : s.usedUp s' = some i) :
    i.Allowed M := by
  unfold usedUp at h
  split at h
  · obtain ⟨r, hr, rfl⟩ := Option.map_eq_some_iff.mp h
    exact armed.replies r (List.mem_of_head? hr)
  · obtain ⟨hook, hfind, rfl⟩ := Option.map_eq_some_iff.mp h
    exact armed.hooks hook (List.mem_of_find?_eq_some hfind)

theorem incident?_step {f : Frame} (own : f.actor = some k) :
    (s.enter f).incident? k .step = s.usedUp (s.stepFrame f) :=
  if_pos own

theorem incident?_abandon {w : Waiting} (mem : w ∈ s.waiting) (own : w.task = k) :
    s.incident? k (.abandon k) = some .drop :=
  if_pos ⟨rfl, List.any_eq_true.mpr ⟨w, mem, by simp [own]⟩⟩

theorem allowed_of_incident? {e : Event} {i : Incident} (armed : Armed M s)
    (h : s.incident? k e = some i) : i.Allowed M := by
  cases e with
  | step =>
    rw [incident?] at h
    split at h
    · split at h
      · exact allowed_of_usedUp armed h
      · cases h
    · cases h
  | abandon task =>
    rw [incident?] at h
    split at h
    · exact Option.some.inj h ▸ trivial
    · cases h
  | _ => cases h

/-- Nothing befalls a task that has no frame, unless it is dropped. -/
theorem Idle.incident?_eq {e : Event} (idle : Idle k s)
    (kept : ∀ w ∈ s.waiting, w.task = k → e ≠ .abandon k) : s.incident? k e = none := by
  cases e with
  | step =>
    rw [incident?]
    split
    · next f s' hf hstep => exact if_neg (idle.frames f (List.mem_of_head? hf))
    · rfl
  | abandon task =>
    refine if_neg fun ⟨htask, waits⟩ => ?_
    obtain ⟨w, mem, own⟩ := List.any_eq_true.mp waits
    exact kept w mem (by simpa using own) (congrArg Event.abandon htask)
  | _ => rfl

/-! ## 2. Several events -/

/-- What befalls the task `k` while events happen, in order. -/
def incidents (k : TaskId) (s : Session) : List Event → List Incident
  | [] => []
  | e :: es =>
    (s.incident? k e).toList ++
      match s.after? e with
      | some s' => s'.incidents k es
      | none => []

theorem incidents_cons {e : Event} (h : s.after? e = some s') (es : List Event) :
    s.incidents k (e :: es) = (s.incident? k e).toList ++ s'.incidents k es := by
  rw [incidents, h]

/-- **What befalls a task is what the surroundings may do.** -/
theorem incidents_allowed {es : List Event} (sound : s.Sound) (armed : Armed M s)
    (passes : s.Passes M es s') : ∀ i ∈ s.incidents k es, i.Allowed M := by
  induction passes with
  | nil s => exact List.forall_mem_nil _
  | cons allowed hafter _ ih =>
    have hm := move_iff_after?.mpr ⟨_, allowed, hafter⟩
    rw [incidents_cons hafter]
    intro i hi
    rcases List.mem_append.mp hi with hi | hi
    · exact allowed_of_incident? armed (Option.mem_toList.mp hi)
    · exact ih (sound.move hm) (armed.move sound hm) i hi

end Session

end TemplateClient
