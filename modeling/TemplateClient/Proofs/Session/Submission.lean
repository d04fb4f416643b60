import TemplateClient.Proofs.Session.Course
import TemplateClient.Proofs.Session.Flag
import TemplateClient.Proofs.Session.Runs

/-!
# A submission through a run

While a submission has its turn nothing else runs. Between its turns it waits, and other work comes
and goes; once it is over nothing happens to it any more. So it keeps to its course, whatever the
run does in between.

* `Turn.settle` -- settling brings the turn of a submission to its end;
* `Session.Follows` -- where a submission can be at a later time;
* `Follows.passes` -- events lead from one such place to another;
* `Session.AfterTurn` -- the sessions in which a submission has just had a turn;
* `submission_keeps_course` -- the course of a submission, between the steps of any run.
-/

namespace TemplateClient

namespace Session

variable {M : Surroundings} {via : Via} {t : Trigger} {s₁ s s' : Session} {k : TaskId}
  {befallen : List Incident} {es : List Event}

/-! ## 1. The end of a turn -/

theorem Turn.exists_step (turn : Turn M via s₁ k befallen s) : ∃ s', s.step? = some s' := by
  cases turn with
  | task b fresh work => exact ⟨_, step?_enter _ b⟩
  | drop b work => exact ⟨_, step?_enter _ b⟩

theorem Turn.running_ne (turn : Turn M via s₁ k befallen s) : s.running ≠ [] := by
  cases turn with
  | task => exact List.cons_ne_nil _ _
  | drop => exact List.cons_ne_nil _ _

theorem Rest.running (rest : Rest M via s₁ k befallen s) : s.running = [] := by
  cases rest with
  | pending running => exact running
  | closed alone => exact alone.running
  | stuck _ _ _ alone => exact alone.running

/-- **Settling brings a turn to its end.** -/
theorem Turn.settle (seq : M.Sequential) (reg : Regular M s) (turn : Turn M via s₁ k befallen s) :
    ∃ befallen, Rest M via s₁ k befallen s.settle := by
  have next (s : Session) (h : Regular M s ∧ ∃ befallen, Turn M via s₁ k befallen s) :
      ∃ s', s.step? = some s' ∧ ((Regular M s' ∧ ∃ befallen, Turn M via s₁ k befallen s') ∨
        ∃ befallen, Rest M via s₁ k befallen s') := by
    obtain ⟨reg, befallen, turn⟩ := h
    obtain ⟨s', hstep⟩ := turn.exists_step
    refine ⟨s', hstep, ?_⟩
    rcases turn.step seq reg.armed hstep with turn' | rest
    · exact .inl ⟨reg.move (.step hstep), _, turn'⟩
    · exact .inr ⟨_, rest⟩
  exact settle_of_steps next (fun s ⟨_, rest⟩ => rest.running) reg.sound ⟨reg, befallen, turn⟩

/-! ## 2. Between turns -/

/-- Where the submission `k` that started in `s₁` can be at a later time, after what has befallen
it. -/
inductive Follows (M : Surroundings) (via : Via) (s₁ : Session) (k : TaskId) :
    List Incident → Session → Prop where
  | turn {befallen : List Incident} {s : Session} (turn : Turn M via s₁ k befallen s) :
      Follows M via s₁ k befallen s
  | waiting {s : Session} (idle : Idle k s) (ready : s₁.IsReady)
      (waiting : ∀ w : Waiting, w.task = k → (w ∈ s.waiting ↔ w = ⟨k, via, true⟩))
      (deeds : s.deeds k = asking s₁.request) (fate : s.fate? k = some .pending) :
      Follows M via s₁ k [] s
  | closed {befallen : List Incident} {s : Session} (gone : Gone k s)
      (course : Course via s₁ befallen (s.deeds k) (s.fate? k))
      (final : s.fate? k ≠ some .pending) : Follows M via s₁ k befallen s
  | stuck {s : Session} (message : String) (gone : Gone k s) (ready : s₁.IsReady)
      (panics : M.reacts .block (.panic message)) (deeds : s.deeds k = [.call .block])
      (fate : s.fate? k = some (.panicked message)) :
      Follows M via s₁ k [.reaction .block (.panic message)] s

theorem Alone.gone {fate : Option TaskState} (alone : Alone s₁ k fate s) : Gone k s :=
  ⟨⟨alone.started, fun _ hf => absurd (alone.running ▸ hf) List.not_mem_nil⟩, alone.absent⟩

theorem Rest.follows (rest : Rest M via s₁ k befallen s) : Follows M via s₁ k befallen s := by
  cases rest with
  | pending running started ready waiting deeds fate =>
    exact .waiting ⟨started, fun f hf => absurd (running ▸ hf) List.not_mem_nil⟩ ready waiting
      deeds fate
  | closed alone course flag final =>
    rw [← alone.fate] at course final
    exact .closed alone.gone course final
  | stuck message ready panics alone deeds flag =>
    exact .stuck message alone.gone ready panics deeds alone.fate

/-- Further reactions and replies do not end a turn. -/
theorem Turn.rearm (turn : Turn M via s₁ k befallen s) (hooks : List (Method × Reaction))
    (replies : List Reply) : Turn M via s₁ k befallen { s with hooks, replies } := by
  cases turn with
  | task b fresh work alone unread stage =>
    exact .task { b with hooks, replies } fresh work
      (alone.same rfl rfl rfl rfl) unread stage
  | drop b work ready alone stage =>
    exact .drop { b with hooks, replies } work ready
      (alone.same rfl rfl rfl rfl) stage

/-- Nothing comes from outside during a turn. -/
theorem Turn.after {e : Event} (seq : M.Sequential) (armed : Armed M s)
    (turn : Turn M via s₁ k befallen s) (allowed : e.Allowed M s) (hafter : s.after? e = some s') :
    Follows M via s₁ k (befallen ++ (s.incident? k e).toList) s' := by
  have closed := not_isOpen seq.nests turn.running_ne
  cases e with
  | step =>
    rcases turn.step seq armed hafter with turn' | rest
    · exact .turn turn'
    · exact rest.follows
  | arm hook =>
    obtain rfl := Option.some.inj hafter
    exact (List.append_nil befallen).symm ▸ .turn (turn.rearm _ s.replies)
  | reply r =>
    obtain rfl := Option.some.inj hafter
    exact (List.append_nil befallen).symm ▸ .turn (turn.rearm s.hooks _)
  | address calls => exact absurd allowed.2 closed
  | _ => exact absurd allowed closed

/-- What is true of the rest of a session in which a waiting submission has a turn: it is the only
holder of the flag. -/
theorem alone_remove {fate : Option TaskState} (reg : Regular M s) (idle : Idle k s)
    (quiet : s.running = []) (mem : (⟨k, via, true⟩ : Waiting) ∈ s.waiting)
    (hfate : s.fate? k = fate) : Alone s₁ k fate (s.remove k) where
  running := quiet
  started := idle.started
  absent := by
    intro w hw e
    have hne := (List.mem_filter.mp hw).2
    simp [e] at hne
  unheld := by
    have hone : 1 + (s.remove k).holders = s.holders := holders_remove reg.sound mem
    have hle := Nat.le_trans reg.held (Bool.toNat_le _)
    exact fun _ => unguarded_of_holders (by omega)
  fate := hfate

theorem turn_resume (reg : Regular M s) (idle : Idle k s) (quiet : s.running = [])
    (mem : (⟨k, via, true⟩ : Waiting) ∈ s.waiting) (ready : s₁.IsReady)
    (deeds : s.deeds k = asking s₁.request) (fate : s.fate? k = some .pending) :
    Turn M via s₁ k [] (s.resume ⟨k, via, true⟩) := by
  refine .task (s.remove k) false (.await true) (alone_remove reg idle quiet mem fate) nofun ?_
  rw [show (s.remove k).deeds k = asking s₁.request from deeds]
  exact .await ready

theorem turn_abandon (reg : Regular M s) (idle : Idle k s) (quiet : s.running = [])
    (ready : s₁.IsReady)
    (waiting : ∀ w : Waiting, w.task = k → (w ∈ s.waiting ↔ w = ⟨k, via, true⟩))
    (deeds : s.deeds k = asking s₁.request) : Turn M via s₁ k [.drop] (s.abandon k) := by
  have mem : (⟨k, via, true⟩ : Waiting) ∈ s.waiting := (waiting _ rfl).mpr rfl
  obtain ⟨w, hfind⟩ : ∃ w, s.waiting.find? (·.task == k) = some w :=
    Option.isSome_iff_exists.mp (List.find?_isSome.mpr ⟨_, mem, beq_self_eq_true k⟩)
  have hk : w.task = k := by simpa using List.find?_some hfind
  obtain rfl := (waiting w hk).mp (List.mem_of_find?_eq_some hfind)
  have hrest : Alone s₁ k (s.fate? k) (s.remove k) := alone_remove reg idle quiet mem rfl
  have habandon : s.abandon k = ((s.remove k).note none (.task k .dropped)).enter
      ⟨some k, false, via, false, .abandon⟩ := by
    unfold Session.abandon
    rw [hfind]
    rfl
  rw [habandon]
  refine .drop _ .abandon ready (hrest.tell none nofun) ?_
  rw [deeds_of_silent_entry (s := s.remove k) rfl rfl,
    show (s.remove k).deeds k = asking s₁.request from deeds]
  exact .abandon

/-- An event takes a submission from one place to the next. The cases are the places. -/
theorem Follows.after {e : Event} (seq : M.Sequential) (reg : Regular M s)
    (h : Follows M via s₁ k befallen s) (allowed : e.Allowed M s)
    (hafter : s.after? e = some s') :
    Follows M via s₁ k (befallen ++ (s.incident? k e).toList) s' := by
  have still (gone : Gone k s) : Gone k s' ∧ Untouched k s s' ∧ s.incident? k e = none := by
    have hm : Move M s s' := move_iff_after?.mpr ⟨e, allowed, hafter⟩
    obtain ⟨gone', same⟩ := gone.move reg.sound hm
    exact ⟨gone', same, gone.idle.incident?_eq fun w mem own => absurd own (gone.absent w mem)⟩
  cases h with
  | turn turn => exact turn.after seq reg.armed allowed hafter
  | waiting idle ready waiting deeds fate =>
    have mem : (⟨k, via, true⟩ : Waiting) ∈ s.waiting := (waiting _ rfl).mpr rfl
    by_cases resumes : e = .resume ⟨k, via, true⟩
    · subst resumes
      have quiet : s.running = [] := Or.resolve_right allowed seq.nests
      obtain rfl := Option.some.inj ((if_pos mem).symm.trans hafter)
      exact .turn (turn_resume reg idle quiet mem ready deeds fate)
    by_cases drops : e = .abandon k
    · subst drops
      have quiet : s.running = [] := Or.resolve_right allowed seq.nests
      obtain rfl := Option.some.inj hafter
      rw [incident?_abandon mem rfl]
      exact .turn (turn_abandon reg idle quiet ready waiting deeds)
    · obtain ⟨idle', same⟩ := idle.after reg.sound hafter
        fun w mem own => ⟨(waiting w own).mp mem ▸ resumes, drops⟩
      rw [idle.incident?_eq fun _ _ _ => drops]
      exact .waiting idle' ready (fun w hw => (same.waiting w hw).trans (waiting w hw))
        (same.deeds.trans deeds) (same.fate.trans fate)
  | closed gone course final =>
    obtain ⟨gone', same, hnone⟩ := still gone
    rw [← same.fate, ← same.deeds] at course
    rw [hnone, Option.toList_none, List.append_nil]
    exact .closed gone' course (same.fate ▸ final)
  | stuck message gone ready panics deeds fate =>
    obtain ⟨gone', same, hnone⟩ := still gone
    rw [hnone]
    exact .stuck message gone' ready panics (same.deeds.trans deeds) (same.fate.trans fate)

/-- Events take a submission from one place to another, and what they let befall it has befallen it
there. -/
theorem Follows.passes (seq : M.Sequential) (reg : Regular M s)
    (h : Follows M via s₁ k befallen s) (passes : s.Passes M es s') :
    Follows M via s₁ k (befallen ++ s.incidents k es) s' := by
  induction passes generalizing befallen with
  | nil s => exact (List.append_nil befallen).symm ▸ h
  | cons allowed hafter _ ih =>
    rw [incidents_cons hafter, ← List.append_assoc]
    exact ih (reg.move (move_iff_after?.mpr ⟨_, allowed, hafter⟩)) (h.after seq reg allowed hafter)

/-! ## 3. From the start -/

/-- Nothing has been seen of a task that has not been started. -/
theorem unseen_of_sound (sound : s.Sound) (h : s.nextTask ≤ k) :
    s.deeds k = [] ∧ s.fate? k = none := by
  have hbelow (e : Entry) (he : e ∈ s.trace) : e.actor ≠ some k ∧ e.stateOf? k = none := by
    obtain ⟨hactor, hstate⟩ := sound.trace e he
    exact ⟨fun hk => Nat.not_lt.mpr h (hactor k hk),
      Decidable.by_contra fun hk => Nat.not_lt.mpr h (hstate k hk)⟩
  have hdeeds : s.trace.filterMap (Entry.deedOf? k) = [] :=
    List.filterMap_eq_nil_iff.mpr fun e he => Entry.deedOf?_of_ne (hbelow e he).1
  have hstates : s.trace.filterMap (Entry.stateOf? k) = [] :=
    List.filterMap_eq_nil_iff.mpr fun e he => (hbelow e he).2
  exact ⟨hdeeds, by rw [fate?, hstates]; rfl⟩

theorem workOf_submission {t : Trigger} (asks : t.isSubmission = true) (s : Session) :
    s.workOf t = .begin := by
  cases t with
  | submit => rfl
  | event e =>
    cases e with
    | pageLoad => cases asks
    | executeClicked => rfl
    | keyDown key => exact if_pos asks

theorem turn_start (reg : Regular M s) (quiet : s.running = []) (asks : t.isSubmission = true) :
    Turn M (viaOf t) s s.nextTask [] (s.start t) := by
  have held := reg.held
  obtain ⟨hdeeds, hfate⟩ := unseen_of_sound reg.sound (Nat.le_refl s.nextTask)
  have alone : Alone s s.nextTask none { s with nextTask := s.nextTask + 1 } :=
    ⟨quiet, Nat.lt_succ_self _, fun w hw e => Nat.lt_irrefl _ (e ▸ reg.sound.waiting w hw),
      fun ready => unguarded_of_holders (Nat.le_zero.mp (by rwa [ready.free] at held)), hfate⟩
  have h : Turn M (viaOf t) s s.nextTask [] ({ s with nextTask := s.nextTask + 1 }.enter
      ⟨some s.nextTask, true, viaOf t, true, .begin⟩) := by
    refine .task _ true .begin alone (fun _ => ⟨rfl, rfl⟩) ?_
    rw [show Session.deeds s.nextTask { s with nextTask := s.nextTask + 1 } = [] from hdeeds]
    exact .begin
  rw [start, workOf_submission asks]
  exact h

/-- A submission that starts in a session is followed from there. -/
theorem follows_of_start (seq : M.Sequential) (reg : Regular M s₁) (quiet : s₁.running = [])
    (asks : t.isSubmission = true) (after : (s₁.start t).Passes M es s) :
    Follows M (viaOf t) s₁ s₁.nextTask ((s₁.start t).incidents s₁.nextTask es) s := by
  have hmove : Move M s₁ (s₁.start t) := .trigger t (.inl quiet)
  exact (Follows.turn (turn_start reg quiet asks)).passes seq (reg.move hmove) after

/-- A submission that waits is where its course has taken it. -/
theorem Follows.of_mem {w : Waiting} (h : Follows M via s₁ k befallen s) (quiet : s.running = [])
    (mem : w ∈ s.waiting) (own : w.task = k) :
    w = ⟨k, via, true⟩ ∧ Idle k s ∧ s₁.IsReady ∧ s.deeds k = asking s₁.request ∧
      s.fate? k = some .pending ∧
      ∀ v : Waiting, v.task = k → (v ∈ s.waiting ↔ v = ⟨k, via, true⟩) := by
  cases h with
  | turn turn => exact absurd quiet turn.running_ne
  | waiting idle ready waiting deeds fate =>
    exact ⟨(waiting w own).mp mem, idle, ready, deeds, fate, waiting⟩
  | closed gone => exact absurd own (gone.absent w mem)
  | stuck _ gone => exact absurd own (gone.absent w mem)

/-! ## 4. After a turn -/

/-- The submission that `t` starts in `s₁` has just had a turn: it has been started, it has looked
for its answer, or it has been dropped. -/
inductive AfterTurn (M : Surroundings) (t : Trigger) (s₁ : Session) : Session → Prop where
  | start : AfterTurn M t s₁ (s₁.start t).settle
  | poll {s : Session} (w : Waiting) (after : (s₁.start t).Reaches M s) (quiet : s.running = [])
      (mem : w ∈ s.waiting) (own : w.task = s₁.nextTask) : AfterTurn M t s₁ (s.pollTask w)
  | drop {s : Session} (w : Waiting) (after : (s₁.start t).Reaches M s) (quiet : s.running = [])
      (mem : w ∈ s.waiting) (own : w.task = s₁.nextTask) :
      AfterTurn M t s₁ (s.dropTask s₁.nextTask)

theorem AfterTurn.rest (seq : M.Sequential) (reg : Regular M s₁) (quiet₁ : s₁.running = [])
    (asks : t.isSubmission = true) (turn : AfterTurn M t s₁ s) :
    (∃ befallen, Rest M (viaOf t) s₁ s₁.nextTask befallen s) ∧ Regular M s := by
  have hstart : Move M s₁ (s₁.start t) := .trigger t (.inl quiet₁)
  cases turn with
  | start =>
    have reg' := reg.move hstart
    exact ⟨(turn_start reg quiet₁ asks).settle seq reg', reg'.reaches (settle_reaches _)⟩
  | poll w after quiet mem own =>
    have hs := (reg.move hstart).reaches after
    obtain ⟨es, hes⟩ := reaches_iff_passes.mp after
    obtain ⟨rfl, idle, ready, deeds, fate, -⟩ :=
      (follows_of_start seq reg quiet₁ asks hes).of_mem quiet mem own
    have reg' := hs.move (.resume _ mem (.inl quiet))
    exact ⟨(turn_resume hs idle quiet mem ready deeds fate).settle seq reg',
      reg'.reaches (settle_reaches _)⟩
  | drop w after quiet mem own =>
    have hs := (reg.move hstart).reaches after
    obtain ⟨es, hes⟩ := reaches_iff_passes.mp after
    obtain ⟨-, idle, ready, deeds, -, waiting⟩ :=
      (follows_of_start seq reg quiet₁ asks hes).of_mem quiet mem own
    have reg' := hs.move (.abandon s₁.nextTask (.inl quiet))
    exact ⟨(turn_abandon hs idle quiet ready waiting deeds).settle seq reg',
      reg'.reaches (settle_reaches _)⟩

/-- A submission waits after a turn only if there was no reply for it. -/
theorem Rest.unanswered (rest : Rest M via s₁ k befallen s) (fate : s.fate? k = some .pending) :
    s.replies = [] := by
  cases rest with
  | pending _ _ _ _ _ _ unanswered => exact unanswered
  | closed alone _ _ final => exact absurd (alone.fate.symm.trans fate) final
  | stuck _ _ _ alone => exact absurd (alone.fate.symm.trans fate) nofun

/-! ## 5. The course of a submission -/

/-- Between the steps of a run a submission has kept to its course, if the page does not panic when
it is to be blocked. -/
theorem Follows.course (h : Follows M via s₁ k befallen s) (quiet : s.running = [])
    (calm : ∀ message, ¬ M.reacts .block (.panic message)) :
    Course via s₁ befallen (s.deeds k) (s.fate? k) := by
  cases h with
  | turn turn => exact absurd quiet turn.running_ne
  | waiting idle ready waiting deeds fate =>
    rw [deeds, fate]
    exact course_of_exchange ready .pending
  | closed gone course => exact course
  | stuck message _ _ panics => exact absurd panics (calm message)

/-- A submission is pending as long as it waits. -/
theorem Follows.pending_iff (h : Follows M via s₁ k befallen s) (quiet : s.running = []) :
    s.fate? k = some .pending ↔ ∃ w ∈ s.waiting, w.task = k := by
  cases h with
  | turn turn => exact absurd quiet turn.running_ne
  | waiting _ _ waiting _ fate =>
    exact iff_of_true fate ⟨⟨k, via, true⟩, (waiting _ rfl).mpr rfl, rfl⟩
  | closed gone _ final =>
    exact iff_of_false final fun ⟨w, mem, own⟩ => gone.absent w mem own
  | stuck _ gone _ _ _ fate =>
    exact iff_of_false (fate ▸ nofun) fun ⟨w, mem, own⟩ => gone.absent w mem own

/-- **A submission keeps to its course.** It starts in `s₁`, between two steps of any run in which
nothing comes from inside and the page does not panic when it is blocked, and `s` comes between any
later steps. By then it has been ignored, refused, or has made its exchange, as `s₁` tells and as
far as nothing has cut it short. What has befallen it is what the events between have let befall it,
so each panic, each reply and each drop in its course is one of them. It is pending exactly while it
waits, and after a turn of its own only if no reply was ready. -/
theorem submission_keeps_course {s₀ : Session} (seq : M.Sequential)
    (calm : ∀ message, ¬ M.reacts .block (.panic message)) (fresh : s₀.IsFresh)
    (before : s₀.Reaches M s₁) (quiet : s₁.running = []) (asks : t.isSubmission = true)
    (after : (s₁.start t).Passes M es s) (between : s.running = []) :
    Course (viaOf t) s₁ ((s₁.start t).incidents s₁.nextTask es) (s.deeds s₁.nextTask)
        (s.fate? s₁.nextTask) ∧
      (∀ i ∈ (s₁.start t).incidents s₁.nextTask es, i.Allowed M) ∧
      (s.fate? s₁.nextTask = some .pending ↔ ∃ w ∈ s.waiting, w.task = s₁.nextTask) ∧
      (AfterTurn M t s₁ s → s.fate? s₁.nextTask = some .pending → s.replies = []) := by
  have reg : Regular M s₁ := (regular_of_isFresh fresh).reaches before
  have hfollows := follows_of_start seq reg quiet asks after
  have hstart : Move M s₁ (s₁.start t) := .trigger t (.inl quiet)
  refine ⟨hfollows.course between calm, ?_, hfollows.pending_iff between, fun turn fate => ?_⟩
  · exact incidents_allowed (reg.move hstart).sound (reg.move hstart).armed after
  · obtain ⟨⟨befallen, rest⟩, -⟩ := turn.rest seq reg quiet asks
    exact rest.unanswered fate

/-- A click sends the form, and the answer is drawn when it comes. -/
theorem course_of_click :
    let s₁ : Session := { form := { template := "x" } }
    let r : Reply := .answer (.ok { result := some "y" })
    let s := steps 11 (s₁.start (.event .executeClicked))
    let s' := steps 7 ({ s with replies := [r] }.resume ⟨0, .event, true⟩)
    Course .event s₁ [] (s.deeds 0) (s.fate? 0) ∧ s.fate? 0 = some .pending ∧
      Course .event s₁ [.reply r] (s'.deeds 0) (s'.fate? 0) ∧
      s'.deeds 0 = asking s₁.form ++ showing "y" false ++ [.call .unblock] := by
  intro s₁ r s s'
  have seq := Surroundings.sequential_orderly
  have calm (message : String) : ¬ Surroundings.orderly.reacts .block (.panic message) :=
    fun h => h.1 rfl
  have fresh : s₁.IsFresh := rfl
  have hes : (s₁.start (.event .executeClicked)).Passes .orderly (List.replicate 11 .step) s := by
    subst s s₁
    exact passes_steps 11 rfl
  have hfs : s.Passes .orderly
      (.reply r :: .resume ⟨0, .event, true⟩ :: List.replicate 7 .step) s' := by
    subst s' s s₁
    exact .cons trivial rfl (.cons (.inl rfl) rfl (passes_steps 7 rfl))
  have hpending := submission_keeps_course seq calm fresh .refl rfl rfl hes (by decide)
  have hdone := submission_keeps_course seq calm fresh .refl rfl rfl (hes.append hfs) (by decide)
  have hnone : (s₁.start (.event .executeClicked)).incidents 0 (List.replicate 11 .step) = [] := by
    subst s₁
    rfl
  have hreply : (s₁.start (.event .executeClicked)).incidents 0 (List.replicate 11 .step ++
      .reply r :: .resume ⟨0, .event, true⟩ :: List.replicate 7 .step) = [.reply r] := by
    subst s₁ r
    rfl
  have waits : ∃ w ∈ s.waiting, w.task = s₁.nextTask := ⟨⟨0, .event, true⟩, by decide, rfl⟩
  exact ⟨hnone ▸ hpending.1, hpending.2.2.1.mpr waits, hreply ▸ hdone.1, by decide⟩

end Session

end TemplateClient
