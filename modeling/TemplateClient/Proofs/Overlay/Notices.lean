import TemplateClient.Proofs.Overlay.Tasks

/-!
# Busy notices

A block is to give a notice if the request is still pending after the fade-in time. The fade-in time
is the one at the block, and it counts from the moment when the task of the block begins to run.

* `OverlayEvent.NoticeDue` -- when the events after a block make its notice due;
* `SpawnedTask.notices_started` -- a task gives one notice if it is due, and otherwise none;
* `Session.busy_notices` -- the notices of an overlay, with a clock and without one.
-/

namespace TemplateClient

/-! ## 1. Due notices -/

namespace OverlayEvent

/-- At some point so much time has passed, and the page was not switched before. -/
def Passes (delay : Nat) (es : List OverlayEvent) : Prop :=
  ∃ lapse, lapse <+: es ∧ (∀ e ∈ lapse, e.isSwitch = false) ∧ delay ≤ elapsed lapse

/-- The events that follow a block make its notice due: its task begins to run, and from then on the
delay passes, while the page is neither blocked nor unblocked. -/
def NoticeDue (delay : Nat) (es : List OverlayEvent) : Prop :=
  ∃ idle lapse, idle ++ .run :: lapse <+: es ∧ .run ∉ idle ∧
    (∀ e ∈ idle ++ lapse, e.isSwitch = false) ∧ delay ≤ elapsed lapse

variable {delay : Nat} {e : OverlayEvent} {es : List OverlayEvent}

theorem passes_zero : Passes 0 es :=
  ⟨[], List.nil_prefix, List.forall_mem_nil _, Nat.le_refl 0⟩

theorem not_passes_nil (h : 0 < delay) : ¬ Passes delay [] := by
  rintro ⟨lapse, hprefix, -, hle⟩
  rw [List.prefix_nil.mp hprefix, elapsed_nil] at hle
  omega

theorem passes_cons (h : 0 < delay) :
    Passes delay (e :: es) ↔ e.isSwitch = false ∧ Passes (delay - e.millis) es := by
  constructor
  · rintro ⟨lapse, hprefix, still, hle⟩
    cases lapse with
    | nil =>
      rw [elapsed_nil] at hle
      omega
    | cons e' lapse =>
      obtain ⟨rfl, hrest⟩ := List.cons_prefix_cons.mp hprefix
      rw [elapsed_cons] at hle
      exact ⟨still e' List.mem_cons_self, lapse, hrest,
        fun d hd => still d (List.mem_cons_of_mem _ hd), by omega⟩
  · rintro ⟨hstill, lapse, hprefix, still, hle⟩
    refine ⟨e :: lapse, List.cons_prefix_cons.mpr ⟨rfl, hprefix⟩, ?_, ?_⟩
    · exact List.forall_mem_cons.mpr ⟨hstill, still⟩
    · rw [elapsed_cons]
      omega

theorem not_noticeDue_nil : ¬ NoticeDue delay [] := by
  rintro ⟨idle, lapse, hprefix, -, -, -⟩
  have hnil := List.prefix_nil.mp hprefix
  exact absurd hnil (List.append_ne_nil_of_right_ne_nil _ (List.cons_ne_nil _ _))

theorem noticeDue_run : NoticeDue delay (.run :: es) ↔ Passes delay es := by
  constructor
  · rintro ⟨idle, lapse, hprefix, before, still, hle⟩
    cases idle with
    | nil => exact ⟨lapse, (List.cons_prefix_cons.mp hprefix).2, still, hle⟩
    | cons e idle =>
      obtain ⟨rfl, -⟩ := List.cons_prefix_cons.mp hprefix
      exact absurd List.mem_cons_self before
  · rintro ⟨lapse, hprefix, still, hle⟩
    exact ⟨[], lapse, List.cons_prefix_cons.mpr ⟨rfl, hprefix⟩, List.not_mem_nil, still, hle⟩

theorem noticeDue_cons (h : e ≠ .run) :
    NoticeDue delay (e :: es) ↔ e.isSwitch = false ∧ NoticeDue delay es := by
  constructor
  · rintro ⟨idle, lapse, hprefix, before, still, hle⟩
    cases idle with
    | nil => exact absurd (List.cons_prefix_cons.mp hprefix).1.symm h
    | cons e' idle =>
      obtain ⟨rfl, hrest⟩ := List.cons_prefix_cons.mp hprefix
      exact ⟨still e' List.mem_cons_self, idle, lapse, hrest,
        fun hmem => before (List.mem_cons_of_mem _ hmem),
        fun d hd => still d (List.mem_cons_of_mem _ hd), hle⟩
  · rintro ⟨hstill, idle, lapse, hprefix, before, still, hle⟩
    refine ⟨e :: idle, lapse, List.cons_prefix_cons.mpr ⟨rfl, hprefix⟩, ?_, ?_, hle⟩
    · exact fun hmem => (List.mem_cons.mp hmem).elim (fun heq => h heq.symm) before
    · exact List.forall_mem_cons.mpr ⟨hstill, still⟩

/-- A block that is undone before its task begins to run never makes its notice due. -/
theorem not_noticeDue_of_idle {idle : List OverlayEvent} (before : .run ∉ idle)
    (hswitch : e.isSwitch = true) : ¬ NoticeDue delay (idle ++ e :: es) := by
  have hrun : e ≠ .run := fun h => by rw [h] at hswitch; cases hswitch
  induction idle with
  | nil =>
    intro hdue
    have hstill := ((noticeDue_cons hrun).mp hdue).1
    rw [hswitch] at hstill
    cases hstill
  | cons x idle ih =>
    intro hdue
    have hx : x ≠ .run := fun h => before (h ▸ List.mem_cons_self)
    have hrest := (noticeDue_cons hx).mp hdue
    exact ih (fun h => before (List.mem_cons_of_mem _ h)) hrest.2

end OverlayEvent

open OverlayEvent

/-! ## 2. One task -/

/-- At most one notice, and one exactly if `P`. -/
def OneIf (P : Prop) (notices : Nat) : Prop := notices ≤ 1 ∧ (notices = 1 ↔ P)

theorem oneIf_zero {P : Prop} (h : ¬ P) : OneIf P 0 :=
  ⟨Nat.zero_le 1, iff_of_false Nat.zero_ne_one h⟩

theorem oneIf_one {P : Prop} (h : P) : OneIf P 1 :=
  ⟨Nat.le_refl 1, iff_of_true rfl h⟩

theorem OneIf.eq_zero {P : Prop} {n : Nat} (h : OneIf P n) (hP : ¬ P) : n = 0 := by
  have hne : n ≠ 1 := fun hn => hP (h.2.mp hn)
  have hle := h.1
  omega

theorem OneIf.congr {P Q : Prop} {n : Nat} (h : OneIf P n) (hPQ : Q ↔ P) : OneIf Q n :=
  ⟨h.1, h.2.trans hPQ.symm⟩

namespace SpawnedTask

variable {t : SpawnedTask} {now : Nat}

theorem after_of_not_live (h : t.isLive = false) (e : OverlayEvent) :
    (t.after now e).isLive = false ∧ (t.after now e).notices = t.notices := by
  have hchange : ∀ change : Timer → Timer × Bool, change .finished = (.finished, false) →
      (t.changeTimer change).isLive = false ∧ (t.changeTimer change).notices = t.notices := by
    intro change hfinished
    obtain ⟨timer, aborted, notices⟩ := t
    cases aborted with
    | true => exact ⟨rfl, rfl⟩
    | false =>
      obtain rfl : timer = .finished := by simpa [isLive] using h
      simp [changeTimer, hfinished, isLive]
  cases e with
  | configure timings => exact ⟨h, rfl⟩
  | block => exact ⟨rfl, rfl⟩
  | unblock => exact ⟨rfl, rfl⟩
  | run => exact hchange (Timer.wake now) rfl
  | advance millis => exact hchange (Timer.tick (now + millis)) rfl

/-- **A task that is aborted or has finished gives no more notices.** -/
theorem notices_of_not_live (h : t.isLive = false) (es : List OverlayEvent) :
    (t.play now es).notices = t.notices := by
  induction es generalizing t now with
  | nil => rfl
  | cons e es ih =>
    have hstep : (t.after now e).isLive = false ∧ (t.after now e).notices = t.notices :=
      after_of_not_live h e
    exact (ih hstep.1).trans hstep.2

/-- A switch aborts the task. -/
theorem notices_of_switch {e : OverlayEvent} (h : e.isSwitch = true) (es : List OverlayEvent) :
    (t.play now (e :: es)).notices = t.notices := by
  have habort : t.after now e = t.abort := by
    cases e <;> first | rfl | cases h
  rw [play, habort]
  exact notices_of_not_live rfl es

/-- A running task gives its notice once its deadline has passed, unless it is aborted before. -/
theorem notices_running {deadline : Nat} (later : now < deadline) (es : List OverlayEvent) :
    OneIf (Passes (deadline - now) es)
      (SpawnedTask.play now { timer := .running deadline } es).notices := by
  have hpos : 0 < deadline - now := Nat.sub_pos_of_lt later
  -- The deadline stays ahead of `now` until the notice is given: a deadline that has been reached
  -- is seen at once, by the very event that lets the time pass.
  induction es generalizing now with
  | nil => exact oneIf_zero (not_passes_nil hpos)
  | cons e es ih =>
    cases hswitch : e.isSwitch with
    | true =>
      rw [notices_of_switch hswitch]
      refine oneIf_zero fun hpasses => ?_
      rw [passes_cons hpos, hswitch] at hpasses
      cases hpasses.1
    | false =>
      have hcons : Passes (deadline - now) (e :: es) ↔ Passes (deadline - now - e.millis) es := by
        rw [passes_cons hpos, hswitch]
        exact and_iff_right rfl
      cases e with
      | configure timings => exact (ih later hpos).congr hcons
      | run => exact (ih later hpos).congr hcons
      | advance millis =>
        rw [play, after, changeTimer_of_unaborted rfl, Timer.tick]
        by_cases hdue : deadline ≤ now + millis
        · have hnone : deadline - now - millis = 0 := by omega
          rw [if_pos hdue, notices_of_not_live rfl]
          refine oneIf_one (hcons.mpr ?_)
          rw [OverlayEvent.millis, hnone]
          exact passes_zero
        · have hlater : now + millis < deadline := by omega
          rw [if_neg hdue]
          rw [OverlayEvent.millis, Nat.sub_sub] at hcons
          exact (ih hlater (Nat.sub_pos_of_lt hlater)).congr hcons
      | block => cases hswitch
      | unblock => cases hswitch

/-- **A task gives one notice if it is due, and otherwise none.** -/
theorem notices_started (delay now : Nat) (es : List OverlayEvent) :
    OneIf (NoticeDue delay es)
      (SpawnedTask.play now { timer := .started delay } es).notices := by
  induction es generalizing now with
  | nil => exact oneIf_zero not_noticeDue_nil
  | cons e es ih =>
    cases hswitch : e.isSwitch with
    | true =>
      rw [notices_of_switch hswitch]
      refine oneIf_zero fun hdue => ?_
      have hrun : e ≠ .run := fun h => by rw [h] at hswitch; cases hswitch
      rw [noticeDue_cons hrun, hswitch] at hdue
      cases hdue.1
    | false =>
      have hcons (hrun : e ≠ .run) : NoticeDue delay (e :: es) ↔ NoticeDue delay es := by
        rw [noticeDue_cons hrun, hswitch]
        exact and_iff_right rfl
      cases e with
      | configure timings => exact (ih now).congr (hcons nofun)
      | advance millis => exact (ih (now + millis)).congr (hcons nofun)
      | run =>
        rw [play, after, changeTimer_of_unaborted rfl, Timer.wake]
        by_cases hzero : delay = 0
        · subst hzero
          rw [if_pos rfl, notices_of_not_live rfl]
          exact oneIf_one (noticeDue_run.mpr passes_zero)
        · have later : now < now + delay := by omega
          have hpasses := notices_running later es
          rw [Nat.add_sub_cancel_left] at hpasses
          rw [if_neg hzero]
          exact hpasses.congr noticeDue_run
      | block => cases hswitch
      | unblock => cases hswitch

end SpawnedTask

/-! ## 3. All tasks -/

namespace Spawner

variable {o : Spawner}

/-- Every block spawns one task. -/
theorem Tidy.length_tasks_play (h : o.Tidy) (es : List OverlayEvent) :
    (o.play es).tasks.length = o.tasks.length + es.count .block := by
  induction es generalizing o with
  | nil => rfl
  | cons e es ih =>
    have hstep : (o.after e).tasks.length = o.tasks.length + [e].count .block := by
      rw [h.tasks_after, List.length_append, List.length_map]
      cases e <;> rfl
    rw [play_cons, ih (h.after e), hstep, Nat.add_assoc, ← List.count_append, List.singleton_append]

/-- **The task of a block** after the events that follow it. -/
theorem Tidy.getElem?_play_block (h : o.Tidy) (es : List OverlayEvent) :
    (o.play (.block :: es)).tasks[o.tasks.length]? =
      some (SpawnedTask.play o.clock { timer := .started o.timings.fadeIn } es) := by
  have hspawned : (o.after .block).tasks[o.tasks.length]? =
      some { timer := .started o.timings.fadeIn } := by
    have hlen : (o.tasks.map fun t => t.after o.clock .block).length = o.tasks.length :=
      List.length_map _
    rw [h.tasks_after, ← hlen]
    exact List.getElem?_concat_length
  exact (h.after .block).getElem?_play hspawned es

/-- **No task gives a notice after an unblock that follows its block.** -/
theorem Tidy.notices_play_unblock (h : o.Tidy) (es : List OverlayEvent) {i : Nat}
    (hi : i < o.tasks.length) :
    (o.play (.unblock :: es)).tasks[i]?.map (·.notices) = o.tasks[i]?.map (·.notices) := by
  have ht := List.getElem?_eq_getElem hi
  rw [h.getElem?_play ht, ht, Option.map_some, Option.map_some,
    SpawnedTask.notices_of_switch rfl]

end Spawner

/-! ## 4. The notices of an overlay -/

/-- What is seen of an event without a clock: a block gives its notice at once. -/
def OverlayEvent.seenAtOnce : OverlayEvent → List Seen
  | .configure timings => [.call (.configure timings)]
  | .block => [.call .block, .log .busyNotice]
  | .unblock => [.call .unblock]
  | .run => []
  | .advance _ => []

namespace Session

/-- The tasks that an overlay without a handle spawns in the events `es`. -/
def spawned (s : Session) (es : List OverlayEvent) : Spawner :=
  Spawner.play { timings := s.overlay.timings, clock := s.clock } es

/-- The notices that an overlay with a clock gives in the events `es`. -/
structure NoticesInTime (s : Session) (es : List OverlayEvent) : Prop where
  /-- The timer of the session is that of the task under the handle. -/
  represents : (s.play es).Represents (s.spawned es)
  /-- The page counts as blocked while a handle is kept. -/
  blocked : (s.play es).overlay.isBlocked = (s.spawned es).pending.isSome
  /-- The notices of the session are those of the tasks. -/
  total : (s.play es).notices = s.notices + (s.spawned es).notices
  /-- Every block has spawned one task. -/
  tasks : (s.spawned es).tasks.length = es.count .block
  /-- The task of a block has given one notice if that is due, with the fade-in time of the block,
  and otherwise none. -/
  each : ∀ before after, es = before ++ .block :: after →
    ∃ t, (s.spawned es).tasks[before.count .block]? = some t ∧
      OneIf (NoticeDue (s.play before).overlay.timings.fadeIn after) t.notices
  /-- If the page is switched before the task of a block begins to run, the task gives none, however
  short the time. -/
  unbegun : ∀ before waiting e after, es = before ++ .block :: (waiting ++ e :: after) →
    .run ∉ waiting → e.isSwitch = true →
      (s.spawned es).tasks[before.count .block]?.map (·.notices) = some 0
  /-- After an unblock no earlier block gives a notice. -/
  undone : ∀ before after, es = before ++ .unblock :: after → ∀ i < before.count .block,
    (s.spawned es).tasks[i]?.map (·.notices) = (s.spawned before).tasks[i]?.map (·.notices)
  /-- At most one task is neither aborted nor finished. -/
  alone : ((s.spawned es).tasks.filter SpawnedTask.isLive).length ≤ 1

/-- The notices that an overlay without a clock gives in the events `es`. -/
structure NoticesAtOnce (s : Session) (es : List OverlayEvent) : Prop where
  record : (s.play es).overlayRecord = s.overlayRecord ++ es.flatMap seenAtOnce
  notBlocked : (s.play es).overlay.isBlocked = false

variable {s : Session}

theorem represents_of_idle (hasClock : s.hasClock = true) (idle : s.overlay.timer = none) :
    s.Represents { timings := s.overlay.timings, clock := s.clock } :=
  ⟨hasClock, rfl, rfl, idle⟩

theorem tidy_spawned (s : Session) (es : List OverlayEvent) : (s.spawned es).Tidy :=
  (Spawner.tidy_of_tasks_nil rfl rfl).play es

theorem represents_spawned (hasClock : s.hasClock = true) (idle : s.overlay.timer = none)
    (es : List OverlayEvent) : (s.play es).Represents (s.spawned es) :=
  ((represents_of_idle hasClock idle).play (tidy_spawned s []) es).1

theorem length_spawned (s : Session) (es : List OverlayEvent) :
    (s.spawned es).tasks.length = es.count .block :=
  ((tidy_spawned s []).length_tasks_play es).trans (Nat.zero_add _)

theorem spawned_append (s : Session) (es fs : List OverlayEvent) :
    s.spawned (es ++ fs) = (s.spawned es).play fs :=
  Spawner.play_append _ es fs

/-- **The task of a block gives its notice when it is due.** -/
theorem task_of_block (hasClock : s.hasClock = true) (idle : s.overlay.timer = none)
    (before after : List OverlayEvent) :
    ∃ t, (s.spawned (before ++ .block :: after)).tasks[before.count .block]? = some t ∧
      OneIf (NoticeDue (s.play before).overlay.timings.fadeIn after) t.notices := by
  have htask := (tidy_spawned s before).getElem?_play_block after
  rw [length_spawned] at htask
  refine ⟨_, by rw [spawned_append]; exact htask, ?_⟩
  rw [(represents_spawned hasClock idle before).timings]
  exact SpawnedTask.notices_started _ _ after

theorem noticesInTime (hasClock : s.hasClock = true) (idle : s.overlay.timer = none)
    (es : List OverlayEvent) : NoticesInTime s es where
  represents := represents_spawned hasClock idle es
  blocked := (represents_spawned hasClock idle es).isBlocked (tidy_spawned s es)
  total := ((represents_of_idle hasClock idle).play (tidy_spawned s []) es).2
  tasks := length_spawned s es
  each before after h := h ▸ task_of_block hasClock idle before after
  unbegun before waiting e after h hrun hswitch := by
    obtain ⟨t, ht, hone⟩ := task_of_block hasClock idle before (waiting ++ e :: after)
    rw [h, ht, Option.map_some, hone.eq_zero (not_noticeDue_of_idle hrun hswitch)]
  undone before after h i hi := by
    rw [h, spawned_append]
    exact (tidy_spawned s before).notices_play_unblock after (by rwa [length_spawned])
  alone := (tidy_spawned s es).length_live_le

/-- Without a clock no event leaves a timer, and a block gives its notice at once. -/
theorem onOverlay_of_no_clock (hasClock : s.hasClock = false) (idle : s.overlay.timer = none)
    (e : OverlayEvent) : (s.onOverlay e).hasClock = false ∧ (s.onOverlay e).overlay.timer = none ∧
      (s.onOverlay e).overlayRecord = s.overlayRecord ++ e.seenAtOnce := by
  have hlook : ∀ (clock : Nat) (change : Timer → Timer × Bool),
      let s' := Session.runTimer (Overlay.changeTimer change) { s with clock }
      s'.hasClock = false ∧ s'.overlay.timer = none ∧ s'.overlayRecord = s.overlayRecord ++ [] := by
    intro clock change
    obtain ⟨hoverlay, hhas, -⟩ := runTimer_fields (Overlay.changeTimer change) { s with clock }
    refine ⟨hhas.trans hasClock, ?_, ?_⟩
    · rw [hoverlay, Overlay.changeTimer, idle]
      rfl
    · rw [overlayRecord_runTimer, Overlay.changeTimer, idle]
      rfl
  cases e with
  | configure timings => exact ⟨hasClock, idle, overlayRecord_act none _ s⟩
  | block =>
    have hside : s.sideEffects .block = [.log .busyNotice] := by rw [sideEffects, hasClock]; rfl
    have hsame : (s.onOverlay .block).overlay = s.overlay := by
      show s.overlay.block s.hasClock = s.overlay
      rw [hasClock]
      rfl
    refine ⟨hasClock, by rw [hsame, idle], ?_⟩
    rw [onOverlay, overlayRecord_act, hside]
    rfl
  | unblock => exact ⟨hasClock, rfl, overlayRecord_act none _ s⟩
  | run =>
    rw [onOverlay, Overlay.wake_eq]
    exact hlook s.clock _
  | advance millis =>
    rw [onOverlay, Overlay.tick_eq]
    exact hlook (s.clock + millis) _

/-- **Without a clock every block gives its notice at once**, and the page never counts as
blocked. -/
theorem noticesAtOnce (hasClock : s.hasClock = false) (idle : s.overlay.timer = none)
    (es : List OverlayEvent) : NoticesAtOnce s es := by
  induction es generalizing s with
  | nil =>
    refine ⟨(List.append_nil _).symm, ?_⟩
    rw [play_nil, Overlay.isBlocked, idle]
    rfl
  | cons e es ih =>
    obtain ⟨hnext, hidle, hrecord⟩ := onOverlay_of_no_clock hasClock idle e
    obtain ⟨record, notBlocked⟩ := ih hnext hidle
    refine ⟨?_, notBlocked⟩
    rw [play_cons, record, hrecord, List.flatMap_cons, List.append_assoc]

/-- **Busy notices.** With a clock, every block gives at most one notice, and it gives it if and
when its time has come before another block or unblock; without a clock, every block gives one at
once. The overlay in a run goes the way of the calls that are made in it. -/
theorem busy_notices (idle : s.overlay.timer = none) :
    (s.hasClock = true → ∀ es, NoticesInTime s es) ∧
      (s.hasClock = false → ∀ es, NoticesAtOnce s es) ∧
      ∀ steps, ∃ es, StepsPlay steps es ∧ SameOverlay (s.play es) (s.run steps) :=
  ⟨fun hasClock => noticesInTime hasClock idle, fun hasClock => noticesAtOnce hasClock idle,
    fun steps => run_plays steps s⟩

/-- A later change of the timings does not count for a block, nor does the time before its task
begins to run. -/
theorem busy_notices_of_one_block :
    let s : Session := {}
    let es : List OverlayEvent := [.configure ⟨5, 0⟩, .advance 3, .block, .configure ⟨50, 0⟩, .run,
      .advance 4, .advance 1, .unblock]
    s.overlay.timer = none ∧ NoticesInTime s es ∧ (s.play (es.take 6)).notices = 0 ∧
      (s.play es).notices = 1 := by
  intro s es
  have idle : s.overlay.timer = none := rfl
  exact ⟨idle, (busy_notices idle).1 rfl es, by decide, by decide⟩

end Session

end TemplateClient
