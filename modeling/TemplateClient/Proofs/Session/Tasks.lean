import Mathlib.Data.List.Nodup
import TemplateClient.Proofs.Session.Moves

/-!
# Tasks of a session

Tasks are numbered in the order of their start. A task is live while a frame of its own runs or
while it waits, and it does only one of the two at a time. Everything in the trace that concerns a
task was seen after its start.

* `Session.Sound` -- these facts, as one property of a session;
* `Sound.move`, `Sound.reaches` -- every move keeps them, whatever the surroundings do.
-/

namespace TemplateClient

/-! ## 1. Live tasks -/

/-- The task that ends with the frame. -/
def Frame.task? (f : Frame) : Option TaskId := if f.isTask then f.actor else none

/-- The entry concerns only tasks with numbers below `n`. -/
def Entry.Below (n : TaskId) (e : Entry) : Prop :=
  (∀ k, e.actor = some k → k < n) ∧ ∀ k, e.stateOf? k ≠ none → k < n

theorem Entry.Below.mono {n m : TaskId} {e : Entry} (h : e.Below n) (hle : n ≤ m) : e.Below m :=
  ⟨fun k hk => Nat.lt_of_lt_of_le (h.1 k hk) hle, fun k hk => Nat.lt_of_lt_of_le (h.2 k hk) hle⟩

namespace Session

/-- The tasks that run or wait. -/
def live (s : Session) : List TaskId :=
  s.running.filterMap Frame.task? ++ s.waiting.map (·.task)

/-- The frames are those of live tasks or side work, no task is live twice, and only tasks that have
been started do or have done something. -/
structure Sound (s : Session) : Prop where
  frames : ∀ f ∈ s.running, f.Sound
  distinct : s.live.Nodup
  actors : ∀ f ∈ s.running, ∀ k, f.actor = some k → k < s.nextTask
  waiting : ∀ w ∈ s.waiting, w.task < s.nextTask
  trace : ∀ e ∈ s.trace, e.Below s.nextTask

/-! ## 2. What calls leave in the trace -/

/-- What a call by `actor` leaves in the trace. -/
def callEntries (s : Session) (actor : Option TaskId) (c : Call) : List Entry :=
  ⟨actor, .call c⟩ :: (s.sideEffects c).map (Entry.mk actor)

theorem sideEffects_cases (s : Session) (c : Call) :
    ∀ x ∈ s.sideEffects c, (∃ r, x = .log r) ∨ ∃ p, x = .print p := by
  intro x hx
  unfold sideEffects at hx
  split at hx
  · exact .inr ⟨_, List.mem_singleton.mp hx⟩
  · exact .inl ⟨_, List.mem_singleton.mp hx⟩
  · split at hx
    · cases hx
    · exact .inl ⟨_, List.mem_singleton.mp hx⟩
  · cases hx

/-- A call is the only deed among its entries, and they tell nothing of how a task stands. -/
theorem callEntries_cases (s : Session) (actor : Option TaskId) (c : Call) :
    ∀ e ∈ s.callEntries actor c, e.actor = actor ∧ ∀ k, e.stateOf? k = none := by
  intro e he
  rcases List.mem_cons.mp he with rfl | he
  · exact ⟨rfl, fun _ => rfl⟩
  · obtain ⟨x, hx, rfl⟩ := List.mem_map.mp he
    rcases sideEffects_cases s c x hx with ⟨r, rfl⟩ | ⟨p, rfl⟩
    · exact ⟨rfl, fun _ => rfl⟩
    · exact ⟨rfl, fun _ => rfl⟩

/-- What is a frame's own concerns its actor only. -/
theorem below_of_own {n : TaskId} {actor : Option TaskId} {x : Seen} (own : x.IsOwn actor)
    (h : ∀ k, actor = some k → k < n) : Entry.Below n ⟨actor, x⟩ := by
  refine ⟨h, fun k hk => ?_⟩
  cases x with
  | task j state =>
    refine h k ?_
    have hj : actor = some j := own
    by_cases e : j = k
    · rw [hj, e]
    · cases state <;> simp [Entry.stateOf?, Seen.stateOf?, e] at hk
  | _ => exact absurd rfl hk

theorem below_of_call {n : TaskId} {actor : Option TaskId} {s : Session} {c : Call}
    (h : ∀ k, actor = some k → k < n) : ∀ e ∈ s.callEntries actor c, Entry.Below n e := by
  intro e he
  obtain ⟨hactor, hstate⟩ := callEntries_cases s actor c e he
  exact ⟨fun k hk => h k (hactor ▸ hk), fun k hk => absurd (hstate k) hk⟩

theorem insertWaiting_perm (w : Waiting) (ws : List Waiting) :
    (insertWaiting w ws).Perm (w :: ws) := by
  induction ws with
  | nil => exact .refl _
  | cons v vs ih =>
    unfold insertWaiting
    split
    · exact .refl _
    · exact (ih.cons v).trans (.swap w v vs)

/-- Among tasks with different numbers, removing a number removes one task. -/
theorem remove_perm {w : Waiting} {ws : List Waiting} (distinct : (ws.map (·.task)).Nodup)
    (mem : w ∈ ws) : ws.Perm (w :: ws.filter (·.task != w.task)) := by
  have heq : ws.filter (·.task != w.task) = ws.erase w := by
    rw [distinct.of_map.erase_eq_filter]
    refine List.filter_congr fun v hv => ?_
    by_cases e : v = w
    · rw [e, bne_self_eq_false, bne_self_eq_false]
    · have hne : v.task ≠ w.task := fun ht => e (List.inj_on_of_nodup_map distinct hv mem ht)
      rw [bne_iff_ne.mpr hne, bne_iff_ne.mpr e]
  rw [heq]
  exact List.perm_cons_erase mem

/-! ## 3. Every move keeps a session sound -/

section Keeps

variable {s s' : Session} {f : Frame}

/-- A frame that replaces another one of the same task and actor, and more entries of that actor. -/
theorem Sound.replace {work : Work} {es : List Entry}
    (h : Sound { s with running := f :: s.running })
    (side : f.work.isSide = true → work.isSide = true)
    (running : s'.running = { f with work } :: s.running) (waiting : s'.waiting = s.waiting)
    (next : s'.nextTask = s.nextTask) (trace : s'.trace = s.trace ++ es)
    (below : ∀ e ∈ es, e.Below s.nextTask) : s'.Sound where
  frames := by
    rw [running]
    intro g hg
    rcases List.mem_cons.mp hg with rfl | hg
    · exact (h.frames f List.mem_cons_self).goOn side
    · exact h.frames g (List.mem_cons_of_mem _ hg)
  distinct := by
    have hd := h.distinct
    simp only [live] at hd ⊢
    rw [running, waiting]
    exact hd
  actors := by
    rw [running, next]
    intro g hg
    rcases List.mem_cons.mp hg with rfl | hg
    · exact h.actors f List.mem_cons_self
    · exact h.actors g (List.mem_cons_of_mem _ hg)
  waiting := by
    rw [waiting, next]
    exact h.waiting
  trace := by
    rw [trace, next]
    intro e he
    rcases List.mem_append.mp he with he | he
    · exact h.trace e he
    · exact below e he

theorem Sound.effect {armed : List (Method × Reaction)}
    (h : Sound { s with running := f :: s.running }) (heff : Effect armed f s s') : s'.Sound := by
  have hactor : ∀ k, f.actor = some k → k < s.nextTask := h.actors f List.mem_cons_self
  have hown {seen : List Seen} (own : ∀ x ∈ seen, x.IsOwn f.actor) :
      ∀ e ∈ seen.map (Entry.mk f.actor), e.Below s.nextTask := by
    intro e he
    obtain ⟨x, hx, rfl⟩ := List.mem_map.mp he
    exact below_of_own (own x hx) hactor
  cases heff with
  | proceed seen replies work own _ leads =>
    exact h.replace leads.side rfl rfl rfl rfl (hown own)
  | call c work mem leads =>
    exact h.replace leads.side rfl rfl rfl rfl (below_of_call hactor)
  | take work free unguarded holds calls task =>
    refine h.replace (fun hs => ?_) rfl rfl rfl rfl (below_of_call hactor)
    exact absurd (task.symm.trans hs) Bool.false_ne_true
  | release work guarded unguarded calls side =>
    exact h.replace side rfl rfl rfl rfl (below_of_call hactor)
  | wait task guarded seen actor work pending =>
    have own := isOwn_of_pending actor pending
    have htask : f.task? = some task := by
      have hf := (h.frames f List.mem_cons_self).isTask (by rw [work]; rfl)
      rw [Frame.task?, if_pos hf.1, actor]
    refine ⟨fun g hg => h.frames g (List.mem_cons_of_mem _ hg), ?_,
      fun g hg => h.actors g (List.mem_cons_of_mem _ hg), ?_, ?_⟩
    · -- the number moves from the frames to the waiting tasks
      have hperm := (insertWaiting_perm ⟨task, f.via, guarded⟩ s.waiting).map (·.task)
      have hd : (task :: (s.running.filterMap Frame.task? ++ s.waiting.map (·.task))).Nodup := by
        have hd := h.distinct
        simp only [live, List.filterMap_cons, htask] at hd
        exact hd
      exact ((hperm.append_left _).trans List.perm_middle).nodup_iff.mpr hd
    · intro w hw
      rcases List.mem_cons.mp ((insertWaiting_perm _ _).mem_iff.mp hw) with rfl | hw
      · exact hactor task actor
      · exact h.waiting w hw
    · intro e he
      rcases List.mem_append.mp he with he | he
      · exact h.trace e he
      · exact hown own e he
  | leave seen own unguarded =>
    refine ⟨fun g hg => h.frames g (List.mem_cons_of_mem _ hg), ?_,
      fun g hg => h.actors g (List.mem_cons_of_mem _ hg), h.waiting, ?_⟩
    · refine h.distinct.sublist ?_
      exact ((List.sublist_cons_self f s.running).filterMap _).append_right _
    · intro e he
      rcases List.mem_append.mp he with he | he
      · exact h.trace e he
      · exact hown own e he

/-- A new task gets a number that no task had before. -/
theorem Sound.launch (via : Via) (work : Work) (h : s.Sound) : (s.launch via work).Sound where
  frames := by
    intro g hg
    rcases List.mem_cons.mp hg with rfl | hg
    · exact .inl ⟨rfl, rfl⟩
    · exact h.frames g hg
  distinct := by
    refine List.nodup_cons.mpr ⟨fun hmem => ?_, h.distinct⟩
    rcases List.mem_append.mp hmem with hmem | hmem
    · obtain ⟨g, hg, htask⟩ := List.mem_filterMap.mp hmem
      have hact : g.actor = some s.nextTask := by
        unfold Frame.task? at htask
        split at htask
        · exact htask
        · cases htask
      exact Nat.lt_irrefl _ (h.actors g hg _ hact)
    · obtain ⟨w, hw, htask⟩ := List.mem_map.mp hmem
      exact Nat.lt_irrefl _ (htask ▸ h.waiting w hw)
  actors := by
    intro g hg k hk
    rcases List.mem_cons.mp hg with rfl | hg
    · cases hk
      exact Nat.lt_succ_self _
    · exact Nat.lt_succ_of_lt (h.actors g hg k hk)
  waiting := fun w hw => Nat.lt_succ_of_lt (h.waiting w hw)
  trace := fun e he => (h.trace e he).mono (Nat.le_succ _)

/-- A step of a session is the step of its innermost frame. -/
theorem Sound.stepsTo (h : s.Sound) (hstep : s.step? = some s') :
    ∃ f running, s.running = f :: running ∧ f.Sound ∧ StepsTo f { s with running } s' := by
  obtain ⟨f, running, hr, heq⟩ := step?_eq_some hstep
  have hf : f.Sound := h.frames f (hr ▸ List.mem_cons_self)
  exact ⟨f, running, hr, hf, heq ▸ stepFrame_stepsTo hf⟩

theorem Sound.step (h : s.Sound) (hstep : s.step? = some s') : s'.Sound := by
  obtain ⟨f, running, hr, -, hooks, -, s₁, heff, hcase⟩ := h.stepsTo hstep
  have hframe : Sound { s with hooks, running := f :: running } :=
    hr ▸ ⟨h.frames, h.distinct, h.actors, h.waiting, h.trace⟩
  have hs₁ : s₁.Sound := Sound.effect (s := { s with hooks, running }) hframe heff
  rcases hcase with heq | ⟨_, t, _, _, heq⟩
  · rw [heq]
    exact hs₁
  · rw [heq]
    exact hs₁.launch _ _

theorem Sound.resume {w : Waiting} (h : s.Sound) (mem : w ∈ s.waiting) : (s.resume w).Sound where
  frames := by
    intro g hg
    rcases List.mem_cons.mp hg with rfl | hg
    · exact .inl ⟨rfl, rfl⟩
    · exact h.frames g hg
  distinct := by
    -- the number moves from the waiting tasks to the frames
    have hsub : ((s.waiting.filter (·.task != w.task)).map (·.task)).Sublist
        (s.waiting.map (·.task)) := List.filter_sublist.map _
    refine List.nodup_cons.mpr ⟨fun hmem => ?_, h.distinct.sublist (hsub.append_left _)⟩
    rcases List.mem_append.mp hmem with hmem | hmem
    · exact (List.nodup_append.mp h.distinct).2.2 _ hmem _ (List.mem_map_of_mem mem) rfl
    · obtain ⟨v, hv, htask⟩ := List.mem_map.mp hmem
      have hne := (List.mem_filter.mp hv).2
      simp [htask] at hne
  actors := by
    intro g hg k hk
    rcases List.mem_cons.mp hg with rfl | hg
    · cases hk
      exact h.waiting w mem
    · exact h.actors g hg k hk
  waiting := fun v hv => h.waiting v (List.mem_of_mem_filter hv)
  trace := h.trace

theorem Sound.remove (task : TaskId) (h : s.Sound) : (s.remove task).Sound where
  frames := h.frames
  distinct := h.distinct.sublist ((List.filter_sublist.map _).append_left _)
  actors := h.actors
  waiting := fun v hv => h.waiting v (List.mem_of_mem_filter hv)
  trace := h.trace

/-- A frame for side work is on behalf of a started task, if of one at all. -/
theorem Sound.enterSide (h : s.Sound) (isTask : f.isTask = false) (side : f.work.isSide = true)
    (below : ∀ k, f.actor = some k → k < s.nextTask) : (s.enter f).Sound where
  frames := by
    intro g hg
    rcases List.mem_cons.mp hg with rfl | hg
    · exact .inr ⟨isTask, side⟩
    · exact h.frames g hg
  distinct := by
    have htask : f.task? = none := by
      rw [Frame.task?, isTask]
      rfl
    have hd := h.distinct
    simp only [live, enter, List.filterMap_cons, htask] at hd ⊢
    exact hd
  actors := by
    intro g hg k hk
    rcases List.mem_cons.mp hg with rfl | hg
    · exact below k hk
    · exact h.actors g hg k hk
  waiting := h.waiting
  trace := h.trace

theorem Sound.note {seen : Seen} (h : s.Sound) (below : Entry.Below s.nextTask ⟨none, seen⟩) :
    (s.note none seen).Sound where
  frames := h.frames
  distinct := h.distinct
  actors := h.actors
  waiting := h.waiting
  trace := by
    intro e he
    rcases List.mem_append.mp he with he | he
    · exact h.trace e he
    · rw [List.mem_singleton.mp he]
      exact below

theorem Sound.abandon (task : TaskId) (h : s.Sound) : (s.abandon task).Sound := by
  unfold Session.abandon
  split
  · exact h.note ⟨(fun _ hk => nomatch hk), fun _ hk => absurd rfl hk⟩
  · next w hfind =>
    have hw : w ∈ s.waiting := List.mem_of_find?_eq_some hfind
    have htask : w.task = task := by simpa using List.find?_some hfind
    have hlt : task < s.nextTask := htask ▸ h.waiting w hw
    have hnote : ((s.remove task).note none (.task task .dropped)).Sound := by
      refine (h.remove task).note ⟨(fun _ hk => nomatch hk), fun k hk => ?_⟩
      by_cases e : task = k
      · exact e ▸ hlt
      · simp [Entry.stateOf?, Seen.stateOf?, e] at hk
    dsimp only
    split
    · refine hnote.enterSide rfl rfl fun k hk => ?_
      cases hk
      exact hlt
    · exact hnote

theorem Sound.runTimer (change : Overlay → Overlay × Bool) (h : s.Sound) :
    (s.runTimer change).Sound := by
  have h' : Sound { s with overlay := (change s.overlay).1 } :=
    ⟨h.frames, h.distinct, h.actors, h.waiting, h.trace⟩
  unfold Session.runTimer
  dsimp only
  split
  · exact h'.note ⟨(fun _ hk => nomatch hk), fun _ hk => absurd rfl hk⟩
  · exact h'

/-- **Every move keeps a session sound**, whatever the surroundings are. -/
theorem Sound.move {M : Surroundings} (h : s.Sound) (hm : Move M s s') : s'.Sound := by
  cases hm with
  | step hstep => exact h.step hstep
  | arm => exact ⟨h.frames, h.distinct, h.actors, h.waiting, h.trace⟩
  | reply => exact ⟨h.frames, h.distinct, h.actors, h.waiting, h.trace⟩
  | edit => exact ⟨h.frames, h.distinct, h.actors, h.waiting, h.trace⟩
  | trigger t => exact h.launch _ _
  | execute values => exact h.launch _ _
  | resume w mem => exact h.resume mem
  | abandon task => exact h.abandon task
  | address calls => exact h.enterSide rfl rfl fun _ hk => nomatch hk
  | wake => exact h.runTimer _
  | pass => exact ⟨h.frames, h.distinct, h.actors, h.waiting, h.trace⟩
  | tick => exact h.runTimer _

end Keeps

theorem sound_of_isFresh {s : Session} (h : s.IsFresh) : s.Sound := by
  rw [h]
  exact ⟨by simp, by simp [live], by simp, by simp, by simp⟩

theorem Sound.reaches {M : Surroundings} {s s' : Session} (h : s.Sound) (hr : s.Reaches M s') :
    s'.Sound := by
  induction hr with
  | refl => exact h
  | tail _ hm ih => exact ih.move hm

end Session

end TemplateClient
