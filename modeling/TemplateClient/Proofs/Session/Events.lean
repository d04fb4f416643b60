import TemplateClient.Proofs.Session.Tasks

/-!
# Events of a session

A run as a list of what happens in it. Where a move says that a session may go over to another one,
an event names the change, so the same events can be put to another session, and a list of them can
be changed.

* `Event`, `Session.after?` -- an event, and the session after it;
* `Session.replay?` -- the session after several events;
* `Event.Allowed`, `Session.Passes` -- what surroundings allow, and runs of such events;
* `move_iff_after?`, `reaches_iff_passes` -- moves and events lead to the same sessions.
-/

namespace TemplateClient

/-! ## 1. Events -/

/-- Something that happens in a run. -/
inductive Event where
  /-- The innermost frame takes a step. -/
  | step
  /-- A collaborator makes up its mind how to react to the next call of a method. -/
  | arm (hook : Method × Reaction)
  /-- A reply is ready. -/
  | reply (r : Reply)
  /-- The form gets other values. -/
  | edit (form : FormValues)
  | trigger (t : Trigger)
  /-- A request is sent without the form. -/
  | execute (values : FormValues)
  /-- A waiting task looks for its answer. -/
  | resume (w : Waiting)
  | abandon (task : TaskId)
  /-- Widgets are called from outside. -/
  | address (calls : List Call)
  /-- Started timers begin to run. -/
  | wake
  /-- Time passes. -/
  | pass (millis : Nat)
  /-- Running timers run out. -/
  | tick

namespace Session

/-- The session after an event. No step comes after the last frame, and only a task that waits looks
for its answer. -/
def after? (s : Session) : Event → Option Session
  | .step => s.step?
  | .arm hook => some (s.arm hook)
  | .reply r => some { s with replies := s.replies ++ [r] }
  | .edit form => some { s with form }
  | .trigger t => some (s.start t)
  | .execute values => some (s.launch .execute (.send false values))
  | .resume w => if w ∈ s.waiting then some (s.resume w) else none
  | .abandon task => some (s.abandon task)
  | .address calls => some (s.address calls)
  | .wake => some (s.runTimer (Overlay.wake s.clock))
  | .pass millis => some { s with clock := s.clock + millis }
  | .tick => some (s.runTimer (Overlay.tick s.clock))

/-- The session after several events, if each of them can happen. -/
def replay? (s : Session) : List Event → Option Session
  | [] => some s
  | e :: es => (s.after? e).bind (·.replay? es)

theorem replay?_append (s : Session) (es fs : List Event) :
    s.replay? (es ++ fs) = (s.replay? es).bind (·.replay? fs) := by
  induction es generalizing s with
  | nil => rfl
  | cons e es ih =>
    simp only [List.cons_append, replay?]
    cases s.after? e with
    | none => rfl
    | some s' => exact ih s'

theorem replay?_singleton (s : Session) (e : Event) : s.replay? [e] = s.after? e := by
  rw [replay?]
  cases s.after? e <;> rfl

end Session

/-! ## 2. Moves -/

/-- The surroundings allow the event in a session. Frames may take steps, and reactions and replies
may come in, at any time. -/
def Event.Allowed (M : Surroundings) (s : Session) : Event → Prop
  | .step => True
  | .arm hook => M.reacts hook.1 hook.2
  | .reply r => M.replies r
  | .address calls => (∀ c ∈ calls, M.calls c) ∧ s.IsOpen M
  | _ => s.IsOpen M

/-- Everything may happen, at any time. -/
def Surroundings.unbounded : Surroundings where
  reacts _ _ := True
  replies _ := True
  calls _ := True
  nests := True

/-- Every event is allowed where everything may happen. -/
theorem Event.allowed_unbounded (e : Event) (s : Session) : e.Allowed .unbounded s := by
  cases e <;> first | exact trivial | exact .inr trivial | exact ⟨fun _ _ => trivial, .inr trivial⟩

namespace Session

variable {M : Surroundings} {s s' : Session} {es : List Event}

/-- **The moves of a session are the events that are allowed in it.** -/
theorem move_iff_after? : Move M s s' ↔ ∃ e : Event, e.Allowed M s ∧ s.after? e = some s' := by
  constructor
  · intro hm
    cases hm with
    | step h => exact ⟨.step, trivial, h⟩
    | arm h ok => exact ⟨.arm h, ok, rfl⟩
    | reply r ok => exact ⟨.reply r, ok, rfl⟩
    | edit form isOpen => exact ⟨.edit form, isOpen, rfl⟩
    | trigger t isOpen => exact ⟨.trigger t, isOpen, rfl⟩
    | execute values isOpen => exact ⟨.execute values, isOpen, rfl⟩
    | resume w mem isOpen => exact ⟨.resume w, isOpen, if_pos mem⟩
    | abandon task isOpen => exact ⟨.abandon task, isOpen, rfl⟩
    | address calls ok isOpen => exact ⟨.address calls, ⟨ok, isOpen⟩, rfl⟩
    | wake isOpen => exact ⟨.wake, isOpen, rfl⟩
    | pass millis isOpen => exact ⟨.pass millis, isOpen, rfl⟩
    | tick isOpen => exact ⟨.tick, isOpen, rfl⟩
  · rintro ⟨e, allowed, h⟩
    cases e with
    | step => exact .step h
    | arm hook => exact Option.some.inj h ▸ .arm hook allowed
    | reply r => exact Option.some.inj h ▸ .reply r allowed
    | edit form => exact Option.some.inj h ▸ .edit form allowed
    | trigger t => exact Option.some.inj h ▸ .trigger t allowed
    | execute values => exact Option.some.inj h ▸ .execute values allowed
    | resume w =>
      rw [after?] at h
      split at h
      · next mem => exact Option.some.inj h ▸ .resume w mem allowed
      · cases h
    | abandon task => exact Option.some.inj h ▸ .abandon task allowed
    | address calls => exact Option.some.inj h ▸ .address calls allowed.1 allowed.2
    | wake => exact Option.some.inj h ▸ .wake allowed
    | pass millis => exact Option.some.inj h ▸ .pass millis allowed
    | tick => exact Option.some.inj h ▸ .tick allowed

/-- The events happen one after the other, each of them allowed, and lead from one session to
another. -/
inductive Passes (M : Surroundings) : Session → List Event → Session → Prop where
  | nil (s : Session) : Passes M s [] s
  | cons {s s₁ s' : Session} {e : Event} {es : List Event} (allowed : e.Allowed M s)
      (after : s.after? e = some s₁) (rest : Passes M s₁ es s') : Passes M s (e :: es) s'

theorem Passes.append {s₁ : Session} {fs : List Event} (h : Passes M s es s₁)
    (h' : Passes M s₁ fs s') : Passes M s (es ++ fs) s' := by
  induction h with
  | nil => exact h'
  | cons allowed after _ ih => exact .cons allowed after (ih h')

/-- **The sessions that moves lead to are those after some events that are allowed.** -/
theorem reaches_iff_passes : s.Reaches M s' ↔ ∃ es, Passes M s es s' := by
  constructor
  · intro h
    induction h with
    | refl => exact ⟨[], .nil s⟩
    | tail _ hm ih =>
      obtain ⟨es, hes⟩ := ih
      obtain ⟨e, allowed, he⟩ := move_iff_after?.mp hm
      exact ⟨es ++ [e], hes.append (.cons allowed he (.nil _))⟩
  · rintro ⟨es, h⟩
    induction h with
    | nil => exact .refl
    | cons allowed after _ ih => exact .head (move_iff_after?.mpr ⟨_, allowed, after⟩) ih

/-- Events that are allowed anywhere happen as they are put to a session. -/
theorem passes_of_replay? (allowed : ∀ e ∈ es, ∀ s : Session, e.Allowed M s)
    (h : s.replay? es = some s') : Passes M s es s' := by
  induction es generalizing s with
  | nil => exact Option.some.inj h ▸ .nil s
  | cons e es ih =>
    obtain ⟨s₁, hafter, hrest⟩ := Option.bind_eq_some_iff.mp h
    exact .cons (allowed e List.mem_cons_self s) hafter
      (ih (fun e he => allowed e (List.mem_cons_of_mem _ he)) hrest)

/-- Steps are allowed anywhere. -/
theorem passes_steps (n : Nat) (h : s.replay? (List.replicate n .step) = some s') :
    Passes M s (List.replicate n .step) s' :=
  passes_of_replay? (fun _ he _ => List.eq_of_mem_replicate he ▸ trivial) h

theorem Sound.replay? (sound : s.Sound) (h : s.replay? es = some s') : s'.Sound :=
  sound.reaches (reaches_iff_passes.mpr
    ⟨es, passes_of_replay? (fun e _ s => e.allowed_unbounded s) h⟩)

end Session

end TemplateClient
