import TemplateClient.Proofs.Session.Events

/-!
# What an event leaves alone

An event concerns the task of the innermost frame, or a task that it starts, resumes or drops. To
all other tasks nothing happens: they do nothing, and they stand as they stood.

* `Session.Armed` -- only reactions and replies of the surroundings are waiting;
* `Session.Idle`, `Idle.after` -- a task without a frame is left alone until it has a turn;
* `Session.Gone`, `Gone.reaches` -- a task that does not wait either is left alone for ever.
-/

namespace TemplateClient

namespace Session

variable {M : Surroundings} {s s' : Session} {k : TaskId}

/-! ## 1. Reactions and replies that wait -/

/-- Only the surroundings have told collaborators how to react, and what to reply. -/
structure Armed (M : Surroundings) (s : Session) : Prop where
  hooks : ∀ h ∈ s.hooks, M.reacts h.1 h.2
  replies : ∀ r ∈ s.replies, M.replies r

theorem Armed.mono (h : Armed M s) (hooks : s'.hooks.Sublist s.hooks)
    (replies : s'.replies.Sublist s.replies) : Armed M s' :=
  ⟨fun g hg => h.hooks g (hooks.subset hg), fun r hr => h.replies r (replies.subset hr)⟩

/-- Steps and calls only use up what is waiting. -/
theorem Armed.step (sound : s.Sound) (h : Armed M s) (hstep : s.step? = some s') : Armed M s' := by
  obtain ⟨f, running, -, -, hooks, hsub, s₁, heff, hcase⟩ := sound.stepsTo hstep
  have hs₁ : Armed M s₁ := by
    cases heff with
    | proceed seen replies work own left leads => exact h.mono hsub left
    | _ => exact h.mono hsub (.refl _)
  rcases hcase with heq | ⟨_, t, _, _, heq⟩
  · rw [heq]
    exact hs₁
  · rw [heq]
    exact ⟨hs₁.hooks, hs₁.replies⟩

theorem abandon_arms (task : TaskId) (s : Session) :
    (s.abandon task).hooks = s.hooks ∧ (s.abandon task).replies = s.replies := by
  unfold Session.abandon
  split
  · exact ⟨rfl, rfl⟩
  · dsimp only
    split <;> exact ⟨rfl, rfl⟩

theorem runTimer_arms (change : Overlay → Overlay × Bool) (s : Session) :
    (s.runTimer change).hooks = s.hooks ∧ (s.runTimer change).replies = s.replies := by
  unfold Session.runTimer
  dsimp only
  split <;> exact ⟨rfl, rfl⟩

theorem Armed.congr (h : Armed M s) (same : s'.hooks = s.hooks ∧ s'.replies = s.replies) :
    Armed M s' :=
  h.mono (same.1 ▸ .refl _) (same.2 ▸ .refl _)

theorem Armed.move (sound : s.Sound) (h : Armed M s) (hm : Move M s s') : Armed M s' := by
  cases hm with
  | step hstep => exact h.step sound hstep
  | arm hook ok =>
    refine ⟨fun g hg => ?_, h.replies⟩
    rcases List.mem_cons.mp hg with rfl | hg
    · exact ok
    · exact h.hooks g (List.mem_of_mem_filter hg)
  | reply r ok =>
    refine ⟨h.hooks, fun r' hr => ?_⟩
    rcases List.mem_append.mp hr with hr | hr
    · exact h.replies r' hr
    · exact List.mem_singleton.mp hr ▸ ok
  | abandon task => exact h.congr (abandon_arms task s)
  | wake => exact h.congr (runTimer_arms _ s)
  | tick => exact h.congr (runTimer_arms _ s)
  | _ => exact ⟨h.hooks, h.replies⟩

theorem armed_of_isFresh (h : s.IsFresh) : Armed M s := by
  rw [h]
  exact ⟨by simp, by simp⟩

/-! ## 2. The clock -/

theorem hasClock_move (sound : s.Sound) (hm : Move M s s') : s'.hasClock = s.hasClock := by
  have htimer (change : Overlay → Overlay × Bool) : (s.runTimer change).hasClock = s.hasClock := by
    unfold Session.runTimer
    dsimp only
    split <;> rfl
  cases hm with
  | step hstep =>
    obtain ⟨f, running, -, -, hsteps⟩ := sound.stepsTo hstep
    exact hsteps.settings.2.2
  | abandon task =>
    unfold Session.abandon
    split
    · rfl
    · dsimp only
      split <;> rfl
  | wake => exact htimer _
  | tick => exact htimer _
  | _ => rfl

theorem hasClock_reaches (sound : s.Sound) (hr : s.Reaches M s') : s'.hasClock = s.hasClock := by
  induction hr with
  | refl => rfl
  | tail hr hm ih => exact (hasClock_move (sound.reaches hr) hm).trans ih

/-! ## 3. Tasks without a frame -/

/-- The task has been started, and no frame runs for it. -/
structure Idle (k : TaskId) (s : Session) : Prop where
  started : k < s.nextTask
  frames : ∀ f ∈ s.running, f.actor ≠ some k

/-- Nothing has happened to the task `k` between `s` and `s'`. -/
structure Untouched (k : TaskId) (s s' : Session) : Prop where
  deeds : s'.deeds k = s.deeds k
  fate : s'.fate? k = s.fate? k
  waiting : ∀ w : Waiting, w.task = k → (w ∈ s'.waiting ↔ w ∈ s.waiting)

theorem Untouched.refl : Untouched k s s := ⟨rfl, rfl, fun _ _ => .rfl⟩

/-- Entries of others that do not mention a task. -/
theorem Untouched.of_trace {es : List Entry} (h : s'.trace = s.trace ++ es)
    (hes : ∀ e ∈ es, e.actor ≠ some k ∧ e.stateOf? k = none)
    (waiting : ∀ w : Waiting, w.task = k → (w ∈ s'.waiting ↔ w ∈ s.waiting)) : Untouched k s s' :=
  ⟨deeds_of_trace_of_ne h fun e he => (hes e he).1,
    fate?_of_trace_of_none h fun e he => (hes e he).2, waiting⟩

/-- What is a frame's own tells nothing of other tasks. -/
theorem stateOf?_of_own {actor : Option TaskId} {x : Seen} (own : x.IsOwn actor)
    (h : actor ≠ some k) : x.stateOf? k = none := by
  cases x with
  | task j state =>
    have hne : j ≠ k := fun e => h (e ▸ own)
    cases state <;> simp [Seen.stateOf?, hne]
  | _ => rfl

theorem Idle.effect {armed : List (Method × Reaction)} {f : Frame}
    (idle : Idle k { s with running := f :: s.running }) (heff : Effect armed f s s') :
    Idle k s' ∧ Untouched k s s' := by
  have hactor : f.actor ≠ some k := idle.frames f List.mem_cons_self
  have hown {seen : List Seen} (own : ∀ x ∈ seen, x.IsOwn f.actor) :
      ∀ e ∈ seen.map (Entry.mk f.actor), e.actor ≠ some k ∧ e.stateOf? k = none := by
    intro e he
    obtain ⟨x, hx, rfl⟩ := List.mem_map.mp he
    exact ⟨hactor, stateOf?_of_own (own x hx) hactor⟩
  have hcall (c : Call) :
      ∀ e ∈ s.callEntries f.actor c, e.actor ≠ some k ∧ e.stateOf? k = none := by
    intro e he
    obtain ⟨ha, hs⟩ := callEntries_cases s f.actor c e he
    exact ⟨ha ▸ hactor, hs k⟩
  have hrest : ∀ g ∈ s.running, g.actor ≠ some k :=
    fun g hg => idle.frames g (List.mem_cons_of_mem _ hg)
  have hreplace {work : Work} : ∀ g ∈ { f with work } :: s.running, g.actor ≠ some k := by
    intro g hg
    rcases List.mem_cons.mp hg with rfl | hg
    · exact hactor
    · exact hrest g hg
  cases heff with
  | proceed seen replies work own =>
    exact ⟨⟨idle.started, hreplace⟩, .of_trace rfl (hown own) fun _ _ => .rfl⟩
  | call c work =>
    exact ⟨⟨idle.started, hreplace⟩, .of_trace rfl (hcall c) fun _ _ => .rfl⟩
  | take work =>
    exact ⟨⟨idle.started, hreplace⟩, .of_trace rfl (hcall .block) fun _ _ => .rfl⟩
  | release work =>
    exact ⟨⟨idle.started, hreplace⟩, .of_trace rfl (hcall .unblock) fun _ _ => .rfl⟩
  | wait task guarded seen actor work pending =>
    have own := isOwn_of_pending actor pending
    refine ⟨⟨idle.started, hrest⟩, .of_trace rfl (hown own) fun w hw => ?_⟩
    have hne : w ≠ ⟨task, f.via, guarded⟩ := by
      rintro rfl
      exact hactor (actor.trans (congrArg some hw))
    rw [(insertWaiting_perm _ _).mem_iff, List.mem_cons]
    exact or_iff_right hne
  | leave seen own =>
    exact ⟨⟨idle.started, hrest⟩, .of_trace rfl (hown own) fun _ _ => .rfl⟩

/-- A new task has another number. -/
theorem Idle.launch (via : Via) (work : Work) (idle : Idle k s) :
    Idle k (s.launch via work) ∧ Untouched k s (s.launch via work) := by
  refine ⟨⟨Nat.lt_succ_of_lt idle.started, fun g hg => ?_⟩, rfl, rfl, fun _ _ => .rfl⟩
  rcases List.mem_cons.mp hg with rfl | hg
  · exact fun h => Nat.lt_irrefl _ (Option.some.inj h ▸ idle.started)
  · exact idle.frames g hg

theorem Untouched.trans {s₁ s₂ s₃ : Session} (h₁ : Untouched k s₁ s₂) (h₂ : Untouched k s₂ s₃) :
    Untouched k s₁ s₃ :=
  ⟨h₂.deeds.trans h₁.deeds, h₂.fate.trans h₁.fate,
    fun w hw => (h₂.waiting w hw).trans (h₁.waiting w hw)⟩

theorem Idle.step (sound : s.Sound) (idle : Idle k s) (hstep : s.step? = some s') :
    Idle k s' ∧ Untouched k s s' := by
  obtain ⟨f, running, hr, -, hooks, -, s₁, heff, hcase⟩ := sound.stepsTo hstep
  have hframe : Idle k { s with hooks, running := f :: running } :=
    ⟨idle.started, fun g hg => idle.frames g (hr ▸ hg)⟩
  obtain ⟨hidle, hsame⟩ := Idle.effect (s := { s with hooks, running }) hframe heff
  have hs₁ : Untouched k s s₁ := ⟨hsame.deeds, hsame.fate, hsame.waiting⟩
  rcases hcase with heq | ⟨_, t, _, _, heq⟩
  · rw [heq]
    exact ⟨hidle, hs₁⟩
  · rw [heq]
    obtain ⟨hidle', hsame'⟩ := hidle.launch (viaOf t) (s₁.workOf t)
    exact ⟨hidle', hs₁.trans hsame'⟩

theorem mem_waiting_remove {task : TaskId} (h : task ≠ k) :
    ∀ w : Waiting, w.task = k → (w ∈ (s.remove task).waiting ↔ w ∈ s.waiting) := by
  intro w hw
  have hne : (w.task != task) = true := bne_iff_ne.mpr fun e => h (e.symm.trans hw)
  exact List.mem_filter.trans (and_iff_left hne)

theorem Idle.abandon {task : TaskId} (idle : Idle k s)
    (h : task ≠ k ∨ ∀ w ∈ s.waiting, w.task ≠ k) :
    Idle k (s.abandon task) ∧ Untouched k s (s.abandon task) := by
  unfold Session.abandon
  split
  · refine ⟨⟨idle.started, idle.frames⟩, .of_trace rfl (fun e he => ?_) fun _ _ => .rfl⟩
    rw [List.mem_singleton.mp he]
    exact ⟨nofun, rfl⟩
  · next w hfind =>
    have htask : w.task = task := by simpa using List.find?_some hfind
    have hne : task ≠ k := by
      rcases h with h | h
      · exact h
      · exact htask ▸ h w (List.mem_of_find?_eq_some hfind)
    have hsame : ∀ e ∈ [(⟨none, .task task .dropped⟩ : Entry)],
        e.actor ≠ some k ∧ e.stateOf? k = none := by
      intro e he
      rw [List.mem_singleton.mp he]
      exact ⟨nofun, if_neg hne⟩
    dsimp only
    split
    · refine ⟨⟨idle.started, fun g hg => ?_⟩, .of_trace rfl hsame (mem_waiting_remove hne)⟩
      rcases List.mem_cons.mp hg with rfl | hg
      · exact fun e => hne (Option.some.inj e)
      · exact idle.frames g hg
    · exact ⟨⟨idle.started, idle.frames⟩, .of_trace rfl hsame (mem_waiting_remove hne)⟩

theorem Idle.runTimer (change : Overlay → Overlay × Bool) (idle : Idle k s) :
    Idle k (s.runTimer change) ∧ Untouched k s (s.runTimer change) := by
  unfold Session.runTimer
  dsimp only
  split
  · refine ⟨⟨idle.started, idle.frames⟩, .of_trace rfl (fun e he => ?_) fun _ _ => .rfl⟩
    rw [List.mem_singleton.mp he]
    exact ⟨nofun, rfl⟩
  · exact ⟨⟨idle.started, idle.frames⟩, ⟨rfl, rfl, fun _ _ => .rfl⟩⟩

/-- **A task without a frame is left alone** until an event resumes or drops it. -/
theorem Idle.after {e : Event} (sound : s.Sound) (idle : Idle k s) (h : s.after? e = some s')
    (other : ∀ w ∈ s.waiting, w.task = k → e ≠ .resume w ∧ e ≠ .abandon k) :
    Idle k s' ∧ Untouched k s s' := by
  cases e with
  | step => exact idle.step sound h
  | trigger t => exact Option.some.inj h ▸ idle.launch _ _
  | execute values => exact Option.some.inj h ▸ idle.launch _ _
  | resume w =>
    rw [after?] at h
    split at h
    · next mem =>
      obtain rfl := Option.some.inj h
      have hw : w.task ≠ k := fun own => (other w mem own).1 rfl
      refine ⟨⟨idle.started, fun g hg => ?_⟩, rfl, rfl, mem_waiting_remove hw⟩
      rcases List.mem_cons.mp hg with rfl | hg
      · exact fun e => hw (Option.some.inj e)
      · exact idle.frames g hg
    · cases h
  | abandon task =>
    refine Option.some.inj h ▸ idle.abandon ?_
    by_cases htask : task = k
    · exact .inr fun w mem own => (other w mem own).2 (congrArg Event.abandon htask)
    · exact .inl htask
  | address calls =>
    obtain rfl := Option.some.inj h
    refine ⟨⟨idle.started, fun g hg => ?_⟩, rfl, rfl, fun _ _ => .rfl⟩
    rcases List.mem_cons.mp hg with rfl | hg
    · exact (Option.some_ne_none k).symm
    · exact idle.frames g hg
  | wake => exact Option.some.inj h ▸ idle.runTimer _
  | tick => exact Option.some.inj h ▸ idle.runTimer _
  | _ =>
    obtain rfl := Option.some.inj h
    exact ⟨⟨idle.started, idle.frames⟩, rfl, rfl, fun _ _ => .rfl⟩

/-! ## 4. Tasks that are over -/

/-- No frame runs for the task, and it does not wait. -/
structure Gone (k : TaskId) (s : Session) : Prop where
  idle : Idle k s
  absent : ∀ w ∈ s.waiting, w.task ≠ k

theorem Gone.move (sound : s.Sound) (gone : Gone k s) (hm : Move M s s') :
    Gone k s' ∧ Untouched k s s' := by
  obtain ⟨e, -, hafter⟩ := move_iff_after?.mp hm
  obtain ⟨idle, same⟩ := gone.idle.after sound hafter
    fun w mem own => absurd own (gone.absent w mem)
  exact ⟨⟨idle, fun w mem hw => gone.absent w ((same.waiting w hw).mp mem) hw⟩, same⟩

/-- **A task that is over is left alone for ever.** -/
theorem Gone.reaches (sound : s.Sound) (gone : Gone k s) (hr : s.Reaches M s') :
    Gone k s' ∧ Untouched k s s' := by
  induction hr with
  | refl => exact ⟨gone, .refl⟩
  | tail hr hm ih =>
    obtain ⟨hgone, hsame⟩ := ih.1.move (sound.reaches hr) hm
    exact ⟨hgone, ih.2.trans hsame⟩

end Session

end TemplateClient
