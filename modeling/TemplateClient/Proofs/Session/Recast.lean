import Mathlib.Order.Monotone.Basic
import TemplateClient.Proofs.Session.Events

/-!
# Runs that differ in numbers and wrappings

Two runs may differ only in the numbers of their tasks, in how some submissions were asked for, and
in tasks that one of them has besides. Such a session is the recast of the other: whatever happens
in one can happen in the other, and leaves them recasts of one another.

* `Recast` -- new numbers, new wrappings, and the tasks that the other run has besides;
* `Recast.SameTrace` -- the trace of a session is that of the other one apart from these tasks;
* `Session.Mirrors` -- a session is the recast of another one;
* `Mirrors.stepFrame`, `Mirrors.after?` -- a step, and any event, keeps them so.
-/

namespace TemplateClient

/-! ## 1. Recasts -/

/-- An outcome in the shape that another way of asking for the submission gives it. -/
def Outcome.wrapped : Via → Outcome → Outcome
  | .submit, .handled (some outcome) => .submitted outcome
  | .submit, outcome => outcome
  | _, .submitted outcome => .handled (some outcome)
  | _, outcome => outcome

/-- What one run is to another: the numbers of its tasks there, the submissions that are asked for
in another way there, and the triggers that start tasks only there. -/
structure Recast where
  number : TaskId → TaskId := id
  wrap : TaskId → Option Via := fun _ => none
  extras : List (TaskId × Trigger) := []

/-- The entry is no remark about a task that is not there. -/
def Entry.isKnown (e : Entry) : Bool :=
  match e.seen with
  | .task _ .unknown => false
  | _ => true

namespace Recast

variable (σ : Recast)

/-- How the task `k` is asked for in the other run. -/
def via (k : TaskId) (via : Via) : Via := (σ.wrap k).getD via

/-- How the task `k` stands in the other run. -/
def state (k : TaskId) : TaskState → TaskState
  | .done outcome => .done (((σ.wrap k).map (Outcome.wrapped · outcome)).getD outcome)
  | state => state

/-- What is seen in the other run. -/
def seen : Seen → Seen
  | .task k state => .task (σ.number k) (σ.state k state)
  | x => x

def entry (e : Entry) : Entry := ⟨e.actor.map σ.number, σ.seen e.seen⟩

def frame (f : Frame) : Frame :=
  { f with
    actor := f.actor.map σ.number
    via := (f.actor.map (σ.via · f.via)).getD f.via }

def waiting (w : Waiting) : Waiting := ⟨σ.number w.task, σ.via w.task w.via, w.guarded⟩

/-- The event in the other run. -/
def event : Event → Event
  | .resume w => .resume (σ.waiting w)
  | .abandon task => .abandon (σ.number task)
  | e => e

/-- The entry of the other run has a counterpart. -/
def isOwn (e : Entry) : Bool := e.isKnown && σ.extras.all fun x => e.actor != some x.1

/-- What a trigger leaves behind that starts no work: the log of a submission that is ignored, and
the outcome. -/
def dropped (k : TaskId) (t : Trigger) : List Entry :=
  if t.isSubmission then
    [⟨some k, .log .triggerIgnored⟩,
      ⟨some k, .task k (.done (Session.outcomeOf (Session.viaOf t) (some .ignored)))⟩]
  else [⟨some k, .task k (.done (Session.outcomeOf (Session.viaOf t) none))⟩]

/-- The traces tell the same, apart from the extra tasks, and of these only that they were
dropped. -/
structure SameTrace (t t' : List Entry) : Prop where
  own : t'.filter σ.isOwn = (t.filter Entry.isKnown).map σ.entry
  extras : ∀ x ∈ σ.extras, t'.filter (·.actor == some x.1) = dropped x.1 x.2

/-- The recast fits a run in which `n` tasks have been started: later tasks are the same in the
other run. -/
structure Fits (n : TaskId) : Prop where
  mono : StrictMono σ.number
  shift : ∀ k, n ≤ k → σ.number (k + 1) = σ.number k + 1
  unwrapped : ∀ k, n ≤ k → σ.wrap k = none
  extras : ∀ x ∈ σ.extras, x.1 < σ.number n ∧ ∀ k, σ.number k ≠ x.1

variable {σ} {n : TaskId} {t t' : List Entry}

theorem Fits.succ (fits : σ.Fits n) : σ.Fits (n + 1) where
  mono := fits.mono
  shift k hk := fits.shift k (Nat.le_of_succ_le hk)
  unwrapped k hk := fits.unwrapped k (Nat.le_of_succ_le hk)
  extras x hx := ⟨Nat.lt_trans (fits.extras x hx).1 (fits.mono (Nat.lt_succ_self n)),
    (fits.extras x hx).2⟩

/-- No entry that is recast is one of an extra task. -/
theorem Fits.actor_ne (fits : σ.Fits n) (e : Entry) {x : TaskId × Trigger} (hx : x ∈ σ.extras) :
    (σ.entry e).actor ≠ some x.1 := by
  intro h
  obtain ⟨k, -, hk⟩ := Option.map_eq_some_iff.mp h
  exact (fits.extras x hx).2 k hk

theorem isKnown_entry (e : Entry) : (σ.entry e).isKnown = e.isKnown := by
  obtain ⟨actor, seen⟩ := e
  cases seen with
  | task k state => cases state <;> rfl
  | _ => rfl

theorem Fits.isOwn_entry (fits : σ.Fits n) (e : Entry) : σ.isOwn (σ.entry e) = e.isKnown := by
  have hall : (σ.extras.all fun x => (σ.entry e).actor != some x.1) = true :=
    List.all_eq_true.mpr fun x hx => bne_iff_ne.mpr (fits.actor_ne e hx)
  rw [isOwn, isKnown_entry, hall, Bool.and_true]

/-- New entries and their recasts. -/
theorem SameTrace.append (h : σ.SameTrace t t') (fits : σ.Fits n) (new : List Entry) :
    σ.SameTrace (t ++ new) (t' ++ new.map σ.entry) where
  own := by
    rw [List.filter_append, List.filter_append, List.map_append, h.own, List.filter_map]
    congr 3
    funext e
    exact fits.isOwn_entry e
  extras := by
    intro x hx
    have hnone : (new.map σ.entry).filter (·.actor == some x.1) = [] := by
      refine List.filter_eq_nil_iff.mpr fun e he => ?_
      obtain ⟨e, -, rfl⟩ := List.mem_map.mp he
      simpa using fits.actor_ne e hx
    rw [List.filter_append, hnone, List.append_nil]
    exact h.extras x hx

/-- The frame of a task in the other run. -/
theorem frame_task (k : TaskId) (isTask : Bool) (via : Via) (fresh : Bool) (work : Work) :
    σ.frame ⟨some k, isTask, via, fresh, work⟩ =
      ⟨some (σ.number k), isTask, σ.via k via, fresh, work⟩ := rfl

theorem Fits.waiting_bne (fits : σ.Fits n) (task : TaskId) (w : Waiting) :
    ((σ.waiting w).task != σ.number task) = (w.task != task) := by
  have hiff : (σ.waiting w).task = σ.number task ↔ w.task = task := fits.mono.injective.eq_iff
  rw [Bool.eq_iff_iff, bne_iff_ne, bne_iff_ne, ne_eq, ne_eq, hiff]

theorem Fits.via_of_le {k : TaskId} (fits : σ.Fits n) (hk : n ≤ k) (via : Via) :
    σ.via k via = via := by
  rw [Recast.via, fits.unwrapped k hk]
  rfl

end Recast

/-! ## 2. Recast sessions -/

namespace Session

/-- A session with other numbers, other wrappings and another trace. -/
def recast (σ : Recast) (trace : List Entry) (s : Session) : Session :=
  { s with
    nextTask := σ.number s.nextTask
    running := s.running.map σ.frame
    waiting := s.waiting.map σ.waiting
    trace }

/-- The session `s'` is the recast of `s`. -/
inductive Mirrors (σ : Recast) (s : Session) : Session → Prop where
  | mk (trace : List Entry) (same : σ.SameTrace s.trace trace) (fits : σ.Fits s.nextTask) :
      Mirrors σ s (s.recast σ trace)

variable {σ : Recast} {s s' : Session} {f : Frame}

theorem Mirrors.fits (h : Mirrors σ s s') : σ.Fits s.nextTask := by
  cases h with
  | mk trace same fits => exact fits

theorem Mirrors.same (h : Mirrors σ s s') : σ.SameTrace s.trace s'.trace := by
  cases h with
  | mk trace same fits => exact same

/-! ## 3. Parts of a step -/

theorem Mirrors.note (h : Mirrors σ s s') (actor : Option TaskId) (x : Seen) :
    Mirrors σ (s.note actor x) (s'.note (actor.map σ.number) (σ.seen x)) := by
  cases h with
  | mk trace same fits => exact .mk _ (same.append fits [⟨actor, x⟩]) fits

theorem Mirrors.noteAll (h : Mirrors σ s s') (actor : Option TaskId) (records : List LogRecord) :
    Mirrors σ (s.noteAll actor records) (s'.noteAll (actor.map σ.number) records) := by
  cases h with
  | mk trace same fits =>
    have hnew := same.append fits (records.map fun r => ⟨actor, .log r⟩)
    rw [List.map_map] at hnew
    exact .mk _ hnew fits

theorem Mirrors.enter (h : Mirrors σ s s') (f : Frame) :
    Mirrors σ (s.enter f) (s'.enter (σ.frame f)) := by
  cases h with
  | mk trace same fits => exact .mk trace same fits

/-- The entries of a call are those of its recast. -/
theorem map_callEntries (s : Session) (actor : Option TaskId) (c : Call) :
    (s.callEntries actor c).map σ.entry = s.callEntries (actor.map σ.number) c := by
  rw [callEntries, callEntries, List.map_cons, List.map_map]
  congr 1
  refine List.map_congr_left fun x hx => ?_
  rcases sideEffects_cases s c x hx with ⟨r, rfl⟩ | ⟨p, rfl⟩ <;> rfl

theorem Mirrors.act (h : Mirrors σ s s') (actor : Option TaskId) (c : Call) :
    Mirrors σ (s.act actor c) (s'.act (actor.map σ.number) c) := by
  cases h with
  | mk trace same fits =>
    have hnew := same.append fits (s.callEntries actor c)
    rw [map_callEntries] at hnew
    exact .mk _ hnew fits

theorem Mirrors.launch (h : Mirrors σ s s') (via : Via) (work : Work) :
    Mirrors σ (s.launch via work) (s'.launch via work) := by
  cases h with
  | mk trace same fits =>
    have hnext : (s.recast σ trace).launch via work = (s.launch via work).recast σ trace := by
      simp only [Session.launch, recast, Session.enter, List.map_cons, Recast.frame_task,
        fits.via_of_le (Nat.le_refl _), fits.shift _ (Nat.le_refl _)]
    rw [hnext]
    exact .mk trace same fits.succ

theorem Mirrors.workOf (h : Mirrors σ s s') (t : Trigger) : s'.workOf t = s.workOf t := by
  cases h with
  | mk trace same fits => cases t with
    | submit => rfl
    | event e => cases e <;> rfl

theorem Mirrors.start (h : Mirrors σ s s') (t : Trigger) : Mirrors σ (s.start t) (s'.start t) := by
  rw [Session.start, Session.start, h.workOf]
  exact h.launch _ _

theorem Mirrors.disarm (h : Mirrors σ s s') (m : Method) :
    Mirrors σ (s.disarm m) (s'.disarm m) := by
  cases h with
  | mk trace same fits => exact .mk trace same fits

theorem Mirrors.react (h : Mirrors σ s s') (m : Method) (f : Frame) (next : Work) :
    Mirrors σ (s.react m f next) (s'.react m (σ.frame f) next) := by
  have hreaction : s'.reaction? m = s.reaction? m := by
    cases h with
    | mk trace same fits => rfl
  unfold Session.react
  rw [hreaction]
  split
  · exact h.enter { f with work := next }
  · next t _ => exact ((h.disarm m).enter { f with work := next }).start t
  · next message _ => exact (h.disarm m).enter { f with work := afterPanic _ message }

theorem Mirrors.call (h : Mirrors σ s s') (f : Frame) (c : Call) (next : Work) :
    Mirrors σ (s.call f c next) (s'.call (σ.frame f) c next) :=
  (h.act f.actor c).react c.method f next

theorem Mirrors.readField (h : Mirrors σ s s') (f : Frame) (x : FormField) (next : Work) :
    Mirrors σ (s.readField f x next) (s'.readField (σ.frame f) x next) :=
  (h.note f.actor (.read x)).react (.read x) f next

theorem Mirrors.flag (h : Mirrors σ s s') (inFlight : Bool) :
    Mirrors σ { s with inFlight } { s' with inFlight } := by
  cases h with
  | mk trace same fits => exact .mk trace same fits

theorem Mirrors.replies (h : Mirrors σ s s') (replies : List Reply) :
    Mirrors σ { s with replies } { s' with replies } := by
  cases h with
  | mk trace same fits => exact .mk trace same fits

/-- Entries of a frame that leaves. -/
theorem Mirrors.leave (h : Mirrors σ s s') {es es' : List Entry} (recast : es.map σ.entry = es') :
    Mirrors σ { s with trace := s.trace ++ es } { s' with trace := s'.trace ++ es' } := by
  cases h with
  | mk trace same fits => exact .mk _ (recast ▸ same.append fits es) fits

/-- New numbers keep their order, so the tasks that wait do. -/
theorem map_insertWaiting (mono : StrictMono σ.number) (w : Waiting) (ws : List Waiting) :
    (insertWaiting w ws).map σ.waiting = insertWaiting (σ.waiting w) (ws.map σ.waiting) := by
  induction ws with
  | nil => rfl
  | cons v vs ih =>
    have hlt : (σ.waiting w).task < (σ.waiting v).task ↔ w.task < v.task := mono.lt_iff_lt
    rw [List.map_cons, insertWaiting, insertWaiting]
    split
    · next h => rw [if_pos (hlt.mpr h), List.map_cons, List.map_cons]
    · next h => rw [if_neg (mt hlt.mp h), List.map_cons, ih]

theorem Mirrors.wait (h : Mirrors σ s s') (w : Waiting) :
    Mirrors σ { s with waiting := insertWaiting w s.waiting }
      { s' with waiting := insertWaiting (σ.waiting w) s'.waiting } := by
  cases h with
  | mk trace same fits =>
    have hwaiting : insertWaiting (σ.waiting w) (s.recast σ trace).waiting =
        (insertWaiting w s.waiting).map σ.waiting := (map_insertWaiting fits.mono w s.waiting).symm
    rw [hwaiting]
    exact .mk trace same fits

/-- An outcome has the shape in which the other run asks for it. -/
theorem outcomeOf_via (k : TaskId) (via : Via) (outcome : Option SubmitOutcome) :
    σ.state k (.done (outcomeOf via outcome)) = .done (outcomeOf (σ.via k via) outcome) := by
  rw [Recast.state, Recast.via]
  cases σ.wrap k with
  | none => rfl
  | some v => cases v <;> cases via <;> cases outcome <;> rfl

theorem map_endOf (f : Frame) (outcome : Option SubmitOutcome) :
    (endOf f (outcomeOf f.via outcome)).map σ.entry =
      endOf (σ.frame f) (outcomeOf (σ.frame f).via outcome) := by
  obtain ⟨actor, isTask, via, fresh, work⟩ := f
  cases isTask with
  | false => rfl
  | true =>
    cases actor with
    | none => rfl
    | some k =>
      have hstate := outcomeOf_via (σ := σ) k via outcome
      simp only [endOf, List.map_cons, List.map_nil, Recast.entry, Recast.seen, hstate,
        Recast.frame_task, Option.map_some]

theorem map_endOf_executed (f : Frame) (r : ExecutionResult) :
    (endOf f (.executed r)).map σ.entry = endOf (σ.frame f) (.executed r) := by
  have hstate (k : TaskId) : σ.state k (.done (.executed r)) = .done (.executed r) := by
    rw [Recast.state]
    cases σ.wrap k with
    | none => rfl
    | some v => cases v <;> rfl
  obtain ⟨actor, isTask, via, fresh, work⟩ := f
  cases isTask with
  | false => rfl
  | true =>
    cases actor with
    | none => rfl
    | some k =>
      simp only [endOf, List.map_cons, List.map_nil, Recast.entry, Recast.seen, hstate,
        Recast.frame_task, Option.map_some]

theorem entry_panicOf (f : Frame) (message : String) :
    σ.entry (panicOf f message) = panicOf (σ.frame f) message := by
  obtain ⟨actor, isTask, via, fresh, work⟩ := f
  cases isTask <;> cases actor <;> rfl

/-! ## 4. Steps and events -/

/-- **A step of a frame and that of its recast** leave recasts of one another. The cases are those
of the work. -/
theorem Mirrors.stepFrame (h : Mirrors σ s s') (f : Frame) :
    Mirrors σ (s.stepFrame f) (s'.stepFrame (σ.frame f)) := by
  have settings : s'.inFlight = s.inFlight ∧ s'.form = s.form ∧ s'.bareForm = s.bareForm ∧
      s'.replies = s.replies := by
    cases h with
    | mk trace same fits => exact ⟨rfl, rfl, rfl, rfl⟩
  obtain ⟨flag, form, bare, replies⟩ := settings
  have hwork : (σ.frame f).work = f.work := rfl
  unfold Session.stepFrame
  rw [hwork]
  split
  · rw [flag, form]
    split
    · exact (h.note _ _).enter { f with work := .finished (some .ignored) }
    · split
      · exact h.readField f _ _
      · exact h.readField f _ _
  · next x xs values _ =>
    have lacks : s'.lacks x = s.lacks x := by rw [Session.lacks, Session.lacks, bare]
    rw [lacks, form]
    split
    · exact h.enter { f with work := .gather xs values }
    · exact h.readField f x _
  · rw [flag]
    split
    · exact h.enter { f with work := .finished (some .ignored) }
    · exact (h.flag true).call f .block _
  · exact h.call f _ _
  · next guarded request _ => exact (h.note _ _).enter { f with work := .await guarded }
  · next guarded _ =>
    rw [replies]
    split
    · obtain ⟨actor, isTask, via, fresh, work⟩ := f
      cases actor with
      | none => exact h
      | some k =>
        have hwait := (h.replies s.replies).wait ⟨k, via, guarded⟩
        cases fresh with
        | true => exact hwait.note (some k) (.task k .pending)
        | false => exact hwait
    · exact (h.replies _).enter { f with work := afterPanic guarded _ }
    · next answer rest _ =>
      have hread := (h.replies rest).noteAll f.actor answer.records
      dsimp only
      split
      · exact hread.enter { f with work := .render _ (.ofAnswer answer) }
      · exact hread.enter { f with work := .answered (.ofAnswer answer) }
  · exact h.call f _ _
  · exact (h.flag false).call f .unblock _
  · next message _ =>
    exact ((h.flag false).act f.actor .unblock).enter { f with work := .panicked message }
  · exact (h.flag false).call f .unblock _
  · exact h.call f _ _
  · next outcome _ => exact h.enter { f with work := .finished outcome }
  · next outcome _ => exact h.leave (map_endOf f outcome)
  · next result _ => exact h.leave (map_endOf_executed f result)
  · next message _ => exact h.leave (congrArg (fun e => [e]) (entry_panicOf f message))

theorem Mirrors.step? {s₁ : Session} (h : Mirrors σ s s') (hstep : s.step? = some s₁) :
    ∃ s₁', s'.step? = some s₁' ∧ Mirrors σ s₁ s₁' := by
  obtain ⟨f, running, hr, rfl⟩ := step?_eq_some hstep
  cases h with
  | mk trace same fits =>
    have hrest : Mirrors σ { s with running } (recast σ trace { s with running }) :=
      .mk trace same fits
    have hrunning : (s.recast σ trace).running = σ.frame f :: running.map σ.frame := by
      rw [recast, hr]
      rfl
    exact ⟨_, step?_cons hrunning, hrest.stepFrame f⟩

theorem Mirrors.remove (h : Mirrors σ s s') (task : TaskId) :
    Mirrors σ (s.remove task) (s'.remove (σ.number task)) := by
  cases h with
  | mk trace same fits =>
    have hremove : (s.recast σ trace).remove (σ.number task) = (s.remove task).recast σ trace := by
      simp only [Session.remove, recast, List.filter_map]
      congr 2
      exact List.filter_congr fun w _ => fits.waiting_bne task w
    rw [hremove]
    exact .mk trace same fits

theorem Mirrors.resume (h : Mirrors σ s s') (w : Waiting) :
    Mirrors σ (s.resume w) (s'.resume (σ.waiting w)) :=
  (h.remove w.task).enter ⟨some w.task, true, w.via, false, .await w.guarded⟩

theorem Mirrors.find? (h : Mirrors σ s s') (task : TaskId) :
    s'.waiting.find? (·.task == σ.number task) =
      (s.waiting.find? (·.task == task)).map σ.waiting := by
  cases h with
  | mk trace same fits =>
    rw [show (s.recast σ trace).waiting = s.waiting.map σ.waiting from rfl, List.find?_map]
    congr 2
    funext w
    have hne := fits.waiting_bne task w
    simpa [bne] using hne

/-- A remark about a task that is not there has no counterpart, and needs none. -/
theorem Mirrors.remark (h : Mirrors σ s s') (task task' : TaskId) :
    Mirrors σ (s.note none (.task task .unknown)) (s'.note none (.task task' .unknown)) := by
  cases h with
  | mk trace same fits =>
    refine .mk _ ⟨?_, fun x hx => ?_⟩ fits
    · have hown := same.own
      simpa [Session.note, recast, List.filter_append, Recast.isOwn, Entry.isKnown] using hown
    · have hextra := same.extras x hx
      simpa [Session.note, recast, List.filter_append] using hextra

theorem Mirrors.abandon (h : Mirrors σ s s') (task : TaskId) :
    Mirrors σ (s.abandon task) (s'.abandon (σ.number task)) := by
  unfold Session.abandon
  rw [h.find? task]
  cases hfind : s.waiting.find? (·.task == task) with
  | none => exact h.remark task (σ.number task)
  | some w =>
    obtain rfl : w.task = task := by simpa using List.find?_some hfind
    have hnote := (h.remove w.task).note none (.task w.task .dropped)
    have hguarded : (σ.waiting w).guarded = w.guarded := rfl
    dsimp only [Option.map_some]
    rw [hguarded]
    split
    · exact hnote.enter ⟨some w.task, false, w.via, false, .abandon⟩
    · exact hnote

theorem Mirrors.runTimer (h : Mirrors σ s s') (change : Overlay → Overlay × Bool) :
    Mirrors σ (s.runTimer change) (s'.runTimer change) := by
  cases h with
  | mk trace same fits =>
    have hoverlay : Mirrors σ { s with overlay := (change s.overlay).1 }
        (recast σ trace { s with overlay := (change s.overlay).1 }) := .mk trace same fits
    unfold Session.runTimer
    dsimp only [recast]
    split
    · exact hoverlay.note none (.log .busyNotice)
    · exact hoverlay

/-- **What happens in one run can happen in the other**, and leaves them recasts of one another. -/
theorem Mirrors.after? {s₁ : Session} {e : Event} (h : Mirrors σ s s')
    (hafter : s.after? e = some s₁) :
    ∃ s₁', s'.after? (σ.event e) = some s₁' ∧ Mirrors σ s₁ s₁' := by
  cases e with
  | step => exact h.step? hafter
  | arm hook =>
    obtain rfl := Option.some.inj hafter
    cases h with
    | mk trace same fits => exact ⟨_, rfl, .mk trace same fits⟩
  | reply r =>
    obtain rfl := Option.some.inj hafter
    cases h with
    | mk trace same fits => exact ⟨_, rfl, .mk trace same fits⟩
  | edit form =>
    obtain rfl := Option.some.inj hafter
    cases h with
    | mk trace same fits => exact ⟨_, rfl, .mk trace same fits⟩
  | trigger t => exact ⟨_, rfl, Option.some.inj hafter ▸ h.start t⟩
  | execute values => exact ⟨_, rfl, Option.some.inj hafter ▸ h.launch _ _⟩
  | resume w =>
    rw [Session.after?] at hafter
    split at hafter
    · next mem =>
      have mem' : σ.waiting w ∈ s'.waiting := by
        cases h with
        | mk trace same fits => exact List.mem_map_of_mem mem
      exact ⟨_, if_pos mem', Option.some.inj hafter ▸ h.resume w⟩
    · cases hafter
  | abandon task => exact ⟨_, rfl, Option.some.inj hafter ▸ h.abandon task⟩
  | address calls =>
    obtain rfl := Option.some.inj hafter
    exact ⟨_, rfl, h.enter ⟨none, false, .event, true, .perform calls none⟩⟩
  | wake =>
    have hclock : s'.clock = s.clock := by
      cases h with
      | mk trace same fits => rfl
    refine ⟨_, rfl, Option.some.inj hafter ▸ ?_⟩
    rw [hclock]
    exact h.runTimer _
  | pass millis =>
    obtain rfl := Option.some.inj hafter
    cases h with
    | mk trace same fits => exact ⟨_, rfl, .mk trace same fits⟩
  | tick =>
    have hclock : s'.clock = s.clock := by
      cases h with
      | mk trace same fits => rfl
    refine ⟨_, rfl, Option.some.inj hafter ▸ ?_⟩
    rw [hclock]
    exact h.runTimer _

end Session

end TemplateClient
