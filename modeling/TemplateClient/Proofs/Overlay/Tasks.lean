import TemplateClient.Proofs.Overlay.Events
import TemplateClient.Proofs.Prelude

/-!
# Overlays as their tasks

An overlay with a clock keeps one timer. It stands for many tasks: every block spawns one, which
sleeps for the fade-in time and then gives its notice. A handle is kept for the task of the latest
block. The next block or unblock aborts that task through the handle, and a task for which no handle
is kept cannot be aborted any more.

* `SpawnedTask`, `Spawner` -- a task, and an overlay with all its tasks;
* `Spawner.Tidy`, `Tidy.play` -- only the task under the handle has not been aborted;
* `Tidy.tasks_after`, `SpawnedTask.play` -- each task goes its own way, whatever the others do;
* `Session.Represents`, `Represents.play` -- the timer of a session is that of the task under the
  handle, and its notices are those of the tasks.
-/

namespace TemplateClient

/-! ## 1. Timers -/

namespace Timer

/-- A started timer when the runtime runs at `now`. The second part tells whether it runs out. -/
def wake (now : Nat) : Timer → Timer × Bool
  | .started delay => if delay = 0 then (.finished, true) else (.running (now + delay), false)
  | t => (t, false)

/-- A running timer when the clock shows `now`. The second part tells whether it runs out. -/
def tick (now : Nat) : Timer → Timer × Bool
  | .running deadline => if deadline ≤ now then (.finished, true) else (.running deadline, false)
  | t => (t, false)

end Timer

/-- A change of the timer of an overlay, if it has one. -/
def Overlay.changeTimer (change : Timer → Timer × Bool) (o : Overlay) : Overlay × Bool :=
  ({ o with timer := o.timer.map fun t => (change t).1 }, o.timer.any fun t => (change t).2)

theorem Overlay.wake_eq (now : Nat) : Overlay.wake now = Overlay.changeTimer (Timer.wake now) := by
  funext o
  obtain ⟨timings, timer⟩ := o
  rcases timer with _ | delay | deadline | _
  · rfl
  · by_cases hzero : delay = 0 <;>
      simp [Overlay.wake, Overlay.changeTimer, Timer.wake, hzero]
  · rfl
  · rfl

theorem Overlay.tick_eq (now : Nat) : Overlay.tick now = Overlay.changeTimer (Timer.tick now) := by
  funext o
  obtain ⟨timings, timer⟩ := o
  rcases timer with _ | delay | deadline | _
  · rfl
  · rfl
  · by_cases hdue : deadline ≤ now <;>
      simp [Overlay.tick, Overlay.changeTimer, Timer.tick, hdue]
  · rfl

/-! ## 2. One task -/

/-- The task of a block. -/
structure SpawnedTask where
  timer : Timer
  aborted : Bool := false
  /-- How many notices it has given. -/
  notices : Nat := 0
deriving DecidableEq, Repr

namespace SpawnedTask

/-- The task can still give a notice. -/
def isLive (t : SpawnedTask) : Bool := !t.aborted && t.timer != .finished

def abort (t : SpawnedTask) : SpawnedTask := { t with aborted := true }

/-- The timer of a task changes, and the task gives a notice if its timer runs out. No time passes
for an aborted task. -/
def changeTimer (change : Timer → Timer × Bool) (t : SpawnedTask) : SpawnedTask :=
  if t.aborted then t
  else { t with timer := (change t.timer).1, notices := t.notices + (change t.timer).2.toNat }

/-- A task after something has happened to its overlay at `now`, if whatever aborts a task aborts
this one. -/
def after (now : Nat) (t : SpawnedTask) : OverlayEvent → SpawnedTask
  | .configure _ => t
  | .block => t.abort
  | .unblock => t.abort
  | .run => t.changeTimer (Timer.wake now)
  | .advance millis => t.changeTimer (Timer.tick (now + millis))

/-- A task after several events, from `now` on. -/
def play (now : Nat) (t : SpawnedTask) : List OverlayEvent → SpawnedTask
  | [] => t
  | e :: es => (t.after now e).play (now + e.millis) es

/-- How many notices several tasks have given. -/
def total : List SpawnedTask → Nat
  | [] => 0
  | t :: tasks => t.notices + total tasks

theorem total_cons (t : SpawnedTask) (tasks : List SpawnedTask) :
    total (t :: tasks) = t.notices + total tasks := rfl

theorem total_append (tasks others : List SpawnedTask) :
    total (tasks ++ others) = total tasks + total others := by
  induction tasks with
  | nil => exact (Nat.zero_add _).symm
  | cons t tasks ih => rw [List.cons_append, total_cons, total_cons, ih, Nat.add_assoc]

theorem total_map_abort (tasks : List SpawnedTask) : total (tasks.map abort) = total tasks := by
  induction tasks with
  | nil => rfl
  | cons t tasks ih => rw [List.map_cons, total_cons, total_cons, ih, abort]

theorem abort_of_aborted {t : SpawnedTask} (h : t.aborted = true) : t.abort = t := by
  rw [abort, ← h]

theorem changeTimer_aborted (change : Timer → Timer × Bool) (t : SpawnedTask) :
    (t.changeTimer change).aborted = t.aborted := by
  unfold changeTimer
  split <;> rfl

theorem changeTimer_of_unaborted {change : Timer → Timer × Bool} {t : SpawnedTask}
    (h : t.aborted = false) : t.changeTimer change =
      { t with timer := (change t.timer).1, notices := t.notices + (change t.timer).2.toNat } := by
  rw [changeTimer, h]
  rfl

theorem changeTimer_notices (change : Timer → Timer × Bool) (t : SpawnedTask) :
    (t.changeTimer change).notices =
      t.notices + (!t.aborted && (change t.timer).2).toNat := by
  unfold changeTimer
  split
  · next h => rw [h]; rfl
  · next h => rw [Bool.eq_false_iff.mpr h]; rfl

/-- Tasks that have not been aborted give a notice if their timers run out. -/
theorem total_changeTimer (change : Timer → Timer × Bool) (tasks : List SpawnedTask) :
    total (tasks.map (changeTimer change)) =
      total tasks + (tasks.filter fun t => !t.aborted).countP fun t => (change t.timer).2 := by
  induction tasks with
  | nil => rfl
  | cons t tasks ih =>
    have hhead := changeTimer_notices change t
    rw [List.map_cons, total_cons, total_cons, ih, hhead, List.countP_filter, List.countP_filter,
      List.countP_cons, Bool.and_comm]
    cases (change t.timer).2 && !t.aborted with
    | true => simp; omega
    | false => simp; omega

end SpawnedTask

/-! ## 3. All tasks -/

/-- An overlay with all tasks that its blocks have spawned. -/
structure Spawner where
  timings : OverlayTimings := {}
  clock : Nat := 0
  /-- In the order of the blocks. -/
  tasks : List SpawnedTask := []
  /-- The number of the task for which a handle is kept. -/
  pending : Option Nat := none
deriving DecidableEq, Repr

namespace Spawner

/-- The tasks after the one under the handle has been aborted. -/
def abortPending (o : Spawner) : List SpawnedTask :=
  match o.pending with
  | none => o.tasks
  | some i => o.tasks.modify i .abort

/-- The task under the handle. -/
def pendingTask? (o : Spawner) : Option SpawnedTask := o.pending.bind fun i => o.tasks[i]?

/-- The overlay after an event. A block keeps the handle of its own task in place of the one before,
whose task it aborts. -/
def after (o : Spawner) : OverlayEvent → Spawner
  | .configure timings => { o with timings }
  | .block =>
    { o with
      tasks := o.abortPending ++ [{ timer := .started o.timings.fadeIn }]
      pending := some o.tasks.length }
  | .unblock => { o with tasks := o.abortPending, pending := none }
  | .run => { o with tasks := o.tasks.map (.changeTimer (Timer.wake o.clock)) }
  | .advance millis =>
    { o with
      clock := o.clock + millis
      tasks := o.tasks.map (.changeTimer (Timer.tick (o.clock + millis))) }

def play (o : Spawner) (es : List OverlayEvent) : Spawner := es.foldl after o

@[simp] theorem play_cons (o : Spawner) (e : OverlayEvent) (es : List OverlayEvent) :
    o.play (e :: es) = (o.after e).play es := rfl

theorem play_append (o : Spawner) (es fs : List OverlayEvent) :
    o.play (es ++ fs) = (o.play es).play fs :=
  List.foldl_append

/-- How many notices the tasks have given. -/
def notices (o : Spawner) : Nat := SpawnedTask.total o.tasks

/-- The tasks that a new event spawns. -/
def spawns (o : Spawner) : OverlayEvent → List SpawnedTask
  | .block => [{ timer := .started o.timings.fadeIn }]
  | _ => []

theorem clock_after (o : Spawner) (e : OverlayEvent) : (o.after e).clock = o.clock + e.millis := by
  cases e <;> rfl

/-- The task under the handle is the only one that has not been aborted. -/
structure Tidy (o : Spawner) : Prop where
  pending : ∀ i, o.pending = some i → i < o.tasks.length
  aborted : ∀ i t, o.tasks[i]? = some t → (t.aborted = false ↔ o.pending = some i)

variable {o : Spawner}

/-- Everything but the task under the handle has been aborted before. -/
theorem Tidy.abortPending_eq (h : o.Tidy) : o.abortPending = o.tasks.map .abort := by
  refine List.ext_getElem? fun i => ?_
  rw [List.getElem?_map]
  cases ht : o.tasks[i]? with
  | none =>
    have hlen := List.getElem?_eq_none_iff.mp ht
    refine List.getElem?_eq_none ?_
    unfold abortPending
    split
    · exact hlen
    · rwa [List.length_modify]
  | some t =>
    have haborted := h.aborted i t ht
    by_cases hpending : o.pending = some i
    · simp [abortPending, hpending, ht]
    · have hold : t.aborted = true := by
        cases hb : t.aborted with
        | true => rfl
        | false => exact absurd (haborted.mp hb) hpending
      have hkeep : o.abortPending[i]? = some t := by
        unfold abortPending
        split
        · exact ht
        · next j hj =>
          have hne : j ≠ i := fun hji => hpending (hji ▸ hj)
          rw [List.getElem?_modify_ne _ _ hne, ht]
      rw [hkeep, Option.map_some, SpawnedTask.abort_of_aborted hold]

/-- **Each task goes its own way**: an event aborts all tasks or changes all their timers. -/
theorem Tidy.tasks_after (h : o.Tidy) (e : OverlayEvent) :
    (o.after e).tasks = (o.tasks.map fun t => t.after o.clock e) ++ o.spawns e := by
  cases e with
  | configure timings => simp [after, spawns, SpawnedTask.after]
  | block => rw [after, h.abortPending_eq]; rfl
  | unblock => rw [after, h.abortPending_eq]; exact (List.append_nil _).symm
  | run => exact (List.append_nil _).symm
  | advance millis => exact (List.append_nil _).symm

theorem Tidy.getElem?_after (h : o.Tidy) {i : Nat} {t : SpawnedTask} (ht : o.tasks[i]? = some t)
    (e : OverlayEvent) : (o.after e).tasks[i]? = some (t.after o.clock e) := by
  have hlen : i < (o.tasks.map fun t => t.after o.clock e).length := by
    rw [List.length_map]
    exact (List.getElem?_eq_some_iff.mp ht).1
  rw [h.tasks_after, List.getElem?_append_left hlen, List.getElem?_map, ht]
  rfl

theorem Tidy.changeTimer (h : o.Tidy) (clock : Nat) (change : Timer → Timer × Bool) :
    Tidy { o with clock, tasks := o.tasks.map (.changeTimer change) } where
  pending i hi := by
    have hlen := h.pending i hi
    rwa [List.length_map]
  aborted i t ht := by
    rw [List.getElem?_map] at ht
    obtain ⟨t', ht', rfl⟩ := Option.map_eq_some_iff.mp ht
    rw [SpawnedTask.changeTimer_aborted]
    exact h.aborted i t' ht'

/-- An aborted task is none for which a handle is kept. -/
theorem aborted_of_map {tasks : List SpawnedTask} {i : Nat} {t : SpawnedTask}
    (ht : (tasks.map SpawnedTask.abort)[i]? = some t) : t.aborted = true := by
  rw [List.getElem?_map] at ht
  obtain ⟨t', -, rfl⟩ := Option.map_eq_some_iff.mp ht
  rfl

/-- **Every event leaves only the task under the handle.** -/
theorem Tidy.after (h : o.Tidy) (e : OverlayEvent) : (o.after e).Tidy := by
  cases e with
  | configure timings => exact ⟨h.pending, h.aborted⟩
  | block =>
    have htasks : (o.after .block).tasks =
        o.tasks.map .abort ++ [{ timer := .started o.timings.fadeIn }] := h.tasks_after .block
    have hpending : (o.after .block).pending = some o.tasks.length := rfl
    refine ⟨fun i hi => ?_, fun i t ht => ?_⟩
    · obtain rfl := Option.some.inj hi
      rw [htasks, List.length_append, List.length_map]
      exact Nat.lt_succ_self _
    · -- The tasks of before are all aborted, and the new one comes last.
      rw [hpending, Option.some.injEq]
      rw [htasks, List.getElem?_append, List.length_map] at ht
      split at ht
      · next hlt =>
        rw [aborted_of_map ht]
        exact iff_of_false Bool.true_eq_false.mp (Nat.ne_of_gt hlt)
      · next hge =>
        obtain ⟨hi, rfl⟩ := List.getElem?_eq_some_iff.mp ht
        rw [List.length_singleton] at hi
        have hlast : o.tasks.length = i := by omega
        rw [List.getElem_singleton]
        exact iff_of_true rfl hlast
  | unblock =>
    refine ⟨nofun, fun i t ht => iff_of_false ?_ nofun⟩
    have htasks : (o.after .unblock).tasks = o.tasks.map .abort := h.abortPending_eq
    rw [htasks] at ht
    rw [aborted_of_map ht]
    exact Bool.true_eq_false.mp
  | run => exact h.changeTimer o.clock _
  | advance millis => exact h.changeTimer (o.clock + millis) _

theorem Tidy.play (h : o.Tidy) (es : List OverlayEvent) : (o.play es).Tidy := by
  induction es generalizing o with
  | nil => exact h
  | cons e es ih => exact ih (h.after e)

theorem tidy_of_tasks_nil (tasks : o.tasks = []) (pending : o.pending = none) : o.Tidy where
  pending i hi := by rw [pending] at hi; cases hi
  aborted i t ht := by rw [tasks] at ht; cases ht

/-- **A task after several events.** -/
theorem Tidy.getElem?_play (h : o.Tidy) {i : Nat} {t : SpawnedTask} (ht : o.tasks[i]? = some t)
    (es : List OverlayEvent) : (o.play es).tasks[i]? = some (t.play o.clock es) := by
  induction es generalizing o t with
  | nil => exact ht
  | cons e es ih =>
    have hnext := ih (h.after e) (h.getElem?_after ht e)
    rw [clock_after] at hnext
    exact hnext

/-- **The task under the handle is all that is not aborted.** -/
theorem Tidy.filter_unaborted (h : o.Tidy) :
    (o.tasks.filter fun t => !t.aborted) = o.pendingTask?.toList := by
  unfold pendingTask?
  cases hpending : o.pending with
  | none =>
    refine List.filter_eq_nil_iff.mpr fun t ht hfree => ?_
    obtain ⟨i, hi⟩ := List.mem_iff_getElem?.mp ht
    rw [Bool.not_eq_true', h.aborted i t hi, hpending] at hfree
    cases hfree
  | some k =>
    refine List.filter_eq_of_unique fun i t hi => ?_
    rw [Bool.not_eq_true', h.aborted i t hi, hpending, Option.some.injEq, eq_comm]

/-- **At most one task is live.** -/
theorem Tidy.length_live_le (h : o.Tidy) : (o.tasks.filter SpawnedTask.isLive).length ≤ 1 := by
  have hsub : o.tasks.filter SpawnedTask.isLive =
      (o.tasks.filter fun t => !t.aborted).filter fun t => t.timer != .finished := by
    rw [List.filter_filter]
    refine List.filter_congr fun t _ => ?_
    rw [SpawnedTask.isLive, Bool.and_comm]
  rw [hsub, h.filter_unaborted]
  refine Nat.le_trans (List.length_filter_le _ _) ?_
  cases o.pendingTask? with
  | none => exact Nat.zero_le 1
  | some t => exact Nat.le_refl 1

/-! ## 4. Notices -/

/-- **Only the task under the handle gives a notice.** -/
theorem Tidy.total_changeTimer (h : o.Tidy) (change : Timer → Timer × Bool) :
    SpawnedTask.total (o.tasks.map (.changeTimer change)) =
      o.notices + (o.pendingTask?.any fun t => (change t.timer).2).toNat := by
  rw [SpawnedTask.total_changeTimer, h.filter_unaborted, notices]
  cases o.pendingTask? with
  | none => rfl
  | some t => cases hb : (change t.timer).2 <;> simp [hb]

theorem Tidy.total_abortPending (h : o.Tidy) : SpawnedTask.total o.abortPending = o.notices := by
  rw [h.abortPending_eq, SpawnedTask.total_map_abort, notices]

/-- Looking at timers leaves the handle where it is. -/
theorem pendingTask?_changeTimer (o : Spawner) (change : Timer → Timer × Bool) :
    Spawner.pendingTask? { o with tasks := o.tasks.map (.changeTimer change) } =
      o.pendingTask?.map (.changeTimer change) := by
  unfold pendingTask?
  cases o.pending with
  | none => rfl
  | some i => exact List.getElem?_map

theorem Tidy.aborted_pendingTask? (h : o.Tidy) {t : SpawnedTask} (ht : o.pendingTask? = some t) :
    t.aborted = false := by
  obtain ⟨i, hi, ht⟩ := Option.bind_eq_some_iff.mp ht
  exact (h.aborted i t ht).mpr hi

theorem pendingTask?_block (o : Spawner) (h : o.Tidy) :
    (o.after .block).pendingTask? = some { timer := .started o.timings.fadeIn } := by
  have htasks : (o.after .block).tasks =
      o.tasks.map .abort ++ [{ timer := .started o.timings.fadeIn }] := h.tasks_after .block
  have hpending : (o.after .block).pending = some (o.tasks.map SpawnedTask.abort).length := by
    rw [List.length_map]
    rfl
  rw [pendingTask?, hpending, Option.bind_some, htasks, List.getElem?_concat_length]

end Spawner

/-! ## 5. Sessions and their tasks -/

namespace Session

/-- The session has the timer of the task under the handle. -/
structure Represents (s : Session) (o : Spawner) : Prop where
  hasClock : s.hasClock = true
  clock : s.clock = o.clock
  timings : s.overlay.timings = o.timings
  timer : s.overlay.timer = o.pendingTask?.map (·.timer)

variable {s : Session} {o : Spawner}

theorem Represents.isBlocked (h : s.Represents o) (tidy : o.Tidy) :
    s.overlay.isBlocked = o.pending.isSome := by
  rw [Overlay.isBlocked, h.timer, Option.isSome_map, Spawner.pendingTask?]
  cases hpending : o.pending with
  | none => rfl
  | some i =>
    have hlen := tidy.pending i hpending
    rw [Option.bind_some, List.getElem?_eq_getElem hlen]
    rfl

theorem notices_runTimer (change : Timer → Timer × Bool) (s : Session) :
    (s.runTimer (Overlay.changeTimer change)).notices =
      s.notices + (s.overlay.timer.any fun t => (change t).2).toNat := by
  rw [notices, overlayRecord_runTimer, List.count_append, notices, Overlay.changeTimer]
  cases s.overlay.timer.any fun t => (change t).2 <;> rfl

theorem notices_act (actor : Option TaskId) (c : Call) (s : Session) :
    (s.act actor c).notices = s.notices +
      ((Seen.call c :: s.sideEffects c).filter Seen.isOverlay).count (.log .busyNotice) := by
  rw [notices, overlayRecord_act, List.count_append, notices]

/-- The session and the tasks have given as many notices since `s` and `o`. -/
def GivesAlike (s : Session) (o : Spawner) (s' : Session) (o' : Spawner) : Prop :=
  s'.notices + o.notices = s.notices + o'.notices

/-- Looking at timers is the same for a session and for its tasks. -/
theorem Represents.runTimer (h : s.Represents o) (tidy : o.Tidy)
    (change : Timer → Timer × Bool) :
    Represents (s.runTimer (Overlay.changeTimer change))
        { o with tasks := o.tasks.map (.changeTimer change) } ∧
      GivesAlike s o (s.runTimer (Overlay.changeTimer change))
        { o with tasks := o.tasks.map (.changeTimer change) } := by
  obtain ⟨hoverlay, hhas, hclock⟩ := runTimer_fields (Overlay.changeTimer change) s
  refine ⟨⟨hhas.trans h.hasClock, hclock.trans h.clock, ?_, ?_⟩, ?_⟩
  · rw [hoverlay]
    exact h.timings
  · rw [hoverlay, Overlay.changeTimer, h.timer, Spawner.pendingTask?_changeTimer]
    cases ht : o.pendingTask? with
    | none => rfl
    | some t =>
      have hfree := tidy.aborted_pendingTask? ht
      rw [Option.map_some, Option.map_some, Option.map_some, Option.map_some,
        SpawnedTask.changeTimer_of_unaborted hfree]
  · have htasks : Spawner.notices { o with tasks := o.tasks.map (.changeTimer change) } =
        o.notices + (o.pendingTask?.any fun t => (change t.timer).2).toNat :=
      tidy.total_changeTimer change
    rw [GivesAlike, htasks, notices_runTimer, h.timer, Option.any_map]
    show s.notices + (o.pendingTask?.any fun t => (change t.timer).2).toNat + o.notices = _
    omega

/-- **Every event is the same for a session and for its tasks.** -/
theorem Represents.onOverlay (h : s.Represents o) (tidy : o.Tidy) (e : OverlayEvent) :
    (s.onOverlay e).Represents (o.after e) ∧ GivesAlike s o (s.onOverlay e) (o.after e) := by
  cases e with
  | configure timings =>
    refine ⟨⟨h.hasClock, h.clock, rfl, h.timer⟩, ?_⟩
    rw [GivesAlike, Session.onOverlay, notices_act]
    rfl
  | block =>
    have hside : s.sideEffects .block = [] := if_pos h.hasClock
    have hblock : (s.onOverlay .block).overlay =
        { s.overlay with timer := some (.started s.overlay.timings.fadeIn) } := if_pos h.hasClock
    refine ⟨⟨h.hasClock, h.clock, ?_, ?_⟩, ?_⟩
    · rw [hblock]
      exact h.timings
    · rw [hblock, Spawner.pendingTask?_block o tidy, h.timings]
      rfl
    · have hsame : (o.after .block).notices = o.notices := by
        rw [Spawner.notices, Spawner.after, SpawnedTask.total_append, tidy.total_abortPending]
        rfl
      rw [GivesAlike, hsame, Session.onOverlay, notices_act, hside]
      rfl
  | unblock =>
    refine ⟨⟨h.hasClock, h.clock, h.timings, rfl⟩, ?_⟩
    have hsame : (o.after .unblock).notices = o.notices := tidy.total_abortPending
    rw [GivesAlike, hsame, Session.onOverlay, notices_act]
    rfl
  | run =>
    have hrun := h.runTimer tidy (Timer.wake o.clock)
    rw [← Overlay.wake_eq, ← h.clock] at hrun
    rw [Spawner.after, ← h.clock]
    exact hrun
  | advance millis =>
    have hlater : Represents { s with clock := s.clock + millis }
        { o with clock := o.clock + millis } :=
      ⟨h.hasClock, congrArg (· + millis) h.clock, h.timings, h.timer⟩
    have htidy : Spawner.Tidy { o with clock := o.clock + millis } := ⟨tidy.pending, tidy.aborted⟩
    have hrun := hlater.runTimer htidy (Timer.tick (o.clock + millis))
    rw [← Overlay.tick_eq] at hrun
    rw [Session.onOverlay, h.clock]
    rw [h.clock] at hrun
    exact hrun

/-- **A session has the timer of the task under the handle, and gives the notices of the tasks.** -/
theorem Represents.play (h : s.Represents o) (tidy : o.Tidy) (es : List OverlayEvent) :
    (s.play es).Represents (o.play es) ∧ GivesAlike s o (s.play es) (o.play es) := by
  induction es generalizing s o with
  | nil => exact ⟨h, rfl⟩
  | cons e es ih =>
    obtain ⟨hnext, hgives⟩ := h.onOverlay tidy e
    obtain ⟨hend, hrest⟩ := ih hnext (tidy.after e)
    refine ⟨hend, ?_⟩
    unfold GivesAlike at hgives hrest ⊢
    rw [play_cons, Spawner.play_cons]
    omega

end Session

end TemplateClient
