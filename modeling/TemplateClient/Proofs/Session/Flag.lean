import TemplateClient.Proofs.Session.Bystanders

/-!
# The flag and its holders

The flag is set by the submission that takes it and cleared with the guard. Between the two the
submission holds it, running or waiting. A move changes the flag and the number of holders together,
with one exception: a page that panics when it is blocked leaves the flag set with no holder.

* `Session.holders` -- the submissions between taking the flag and giving it back;
* `FlagChange`, `flag_move` -- what a move does to the flag and to the number of holders;
* `Session.Regular`, `Regular.keeps` -- what every move keeps in any surroundings;
* `holders_eq_reaches` -- one submission holds the flag exactly while it is set;
* `Session.Locked`, `Locked.reaches` -- a flag without a holder stays set for ever.
-/

namespace TemplateClient

namespace Session

variable {M : Surroundings} {s s' : Session} {f : Frame}

/-! ## 1. Holders -/

/-- The number of submissions that have taken the flag and not yet given it back. -/
def holders (s : Session) : Nat :=
  s.running.countP (·.work.isGuarded) + s.waiting.countP (·.guarded)

theorem holders_cons (f : Frame) (s : Session) :
    holders { s with running := f :: s.running } = f.work.isGuarded.toNat + s.holders := by
  rw [holders, holders, List.countP_cons]
  cases f.work.isGuarded <;> simp +arith

/-- A holder that waits is counted once. -/
theorem holders_remove {w : Waiting} (sound : s.Sound) (mem : w ∈ s.waiting) :
    w.guarded.toNat + (s.remove w.task).holders = s.holders := by
  have hperm := remove_perm (List.nodup_append.mp sound.distinct).2.1 mem
  have hcount := hperm.countP_eq (fun v : Waiting => v.guarded)
  have hone : (if w.guarded = true then 1 else 0) = w.guarded.toNat := by cases w.guarded <;> rfl
  rw [List.countP_cons, hone] at hcount
  simp only [holders, remove]
  omega

theorem unguarded_of_holders (h : s.holders = 0) : ∀ w ∈ s.waiting, w.guarded = false := by
  have hwaiting : s.waiting.countP (·.guarded) = 0 := (Nat.add_eq_zero_iff.mp h).2
  exact fun w hw => Bool.eq_false_iff.mpr (List.countP_eq_zero.mp hwaiting w hw)

/-! ## 2. What a move does to the flag -/

/-- What a move does to the flag and to the number of holders. -/
inductive FlagChange (M : Surroundings) (s s' : Session) : Prop where
  | same (flag : s'.inFlight = s.inFlight) (holders : s'.holders = s.holders)
  | taken (free : s.inFlight = false) (flag : s'.inFlight = true)
      (holders : s'.holders = s.holders + 1)
  /-- The page panicked when it was to be blocked. -/
  | lost (message : String) (panics : M.reacts .block (.panic message)) (free : s.inFlight = false)
      (flag : s'.inFlight = true) (holders : s'.holders = s.holders)
  | released (flag : s'.inFlight = false) (holders : s.holders = s'.holders + 1)

theorem holders_enter (f : Frame) (s : Session) :
    (s.enter f).holders = f.work.isGuarded.toNat + s.holders := holders_cons f s

/-- The flag changes hands together with the guard. -/
theorem Effect.flag {armed : List (Method × Reaction)} (harmed : ∀ h ∈ armed, M.reacts h.1 h.2)
    (heff : Effect armed f s s') : FlagChange M { s with running := f :: s.running } s' := by
  cases heff with
  | proceed seen replies work own left leads =>
    refine .same rfl ?_
    rw [holders_enter { f with work }, leads.guarded, holders_cons]
    rfl
  | call c work mem leads =>
    refine .same rfl ?_
    rw [holders_enter { f with work }, leads.guarded, holders_cons]
    rfl
  | take work free unguarded holds =>
    rcases holds with guarded | ⟨message, hmem, rfl⟩
    · refine .taken free rfl ?_
      rw [holders_enter { f with work }, guarded, holders_cons, unguarded, Bool.toNat_false,
        Nat.zero_add]
      exact Nat.add_comm _ _
    · refine .lost message (harmed _ hmem) free rfl ?_
      rw [holders_enter { f with work := .panicked message }, holders_cons, unguarded]
      rfl
  | release work guarded unguarded =>
    refine .released rfl ?_
    rw [holders_enter { f with work }, holders_cons, guarded, unguarded, Bool.toNat_false,
      Nat.zero_add]
    exact Nat.add_comm _ _
  | wait task guarded seen actor work pending =>
    refine .same rfl ?_
    rw [holders_cons, work, holders, holders, (insertWaiting_perm _ _).countP_eq, List.countP_cons]
    cases guarded <;> simp +arith [Work.isGuarded]
  | leave seen own unguarded =>
    refine .same rfl ?_
    rw [holders_cons, unguarded, Bool.toNat_false, Nat.zero_add]
    rfl

theorem holders_launch (via : Via) {work : Work} (s : Session)
    (unguarded : work.isGuarded = false) : (s.launch via work).holders = s.holders := by
  have h := holders_enter ⟨some s.nextTask, true, via, true, work⟩ s
  rw [unguarded, Bool.toNat_false, Nat.zero_add] at h
  exact h

theorem flag_step (sound : s.Sound) (armed : Armed M s) (hstep : s.step? = some s') :
    FlagChange M s s' := by
  obtain ⟨f, running, hr, -, hooks, -, s₁, heff, hcase⟩ := sound.stepsTo hstep
  have hframe : holders { s with hooks, running := f :: running } = s.holders := by
    rw [← hr]
    rfl
  have hstart (t : Trigger) : (s₁.start t).holders = s₁.holders :=
    holders_launch _ s₁ (workOf_begins s₁ t).1
  have hsame : s'.inFlight = s₁.inFlight ∧ s'.holders = s₁.holders := by
    rcases hcase with heq | ⟨_, t, _, _, heq⟩
    · rw [heq]
      exact ⟨rfl, rfl⟩
    · rw [heq]
      exact ⟨rfl, hstart t⟩
  rcases heff.flag armed.hooks with ⟨flag, holders⟩ | ⟨free, flag, holders⟩ |
    ⟨message, panics, free, flag, holders⟩ | ⟨flag, holders⟩
  · exact .same (hsame.1.trans flag) (hsame.2.trans (holders.trans hframe))
  · exact .taken free (hsame.1.trans flag) (hsame.2.trans (hframe ▸ holders))
  · exact .lost message panics free (hsame.1.trans flag) (hsame.2.trans (holders.trans hframe))
  · exact .released (hsame.1.trans flag) (hframe.symm.trans (hsame.2 ▸ holders))

/-- The guard of a task that is dropped goes to the frame that drops it. -/
theorem flag_abandon (task : TaskId) (sound : s.Sound) :
    (s.abandon task).inFlight = s.inFlight ∧ (s.abandon task).holders = s.holders := by
  unfold Session.abandon
  split
  · exact ⟨rfl, rfl⟩
  · next w hfind =>
    have hholders := holders_remove sound (List.mem_of_find?_eq_some hfind)
    have htask : w.task = task := by simpa using List.find?_some hfind
    rw [htask] at hholders
    dsimp only
    split
    · next guarded =>
      refine ⟨rfl, ?_⟩
      rw [guarded] at hholders
      exact (holders_enter ⟨some task, false, w.via, false, .abandon⟩ _).trans hholders
    · next unguarded =>
      rw [Bool.eq_false_iff.mpr unguarded, Bool.toNat_false, Nat.zero_add] at hholders
      exact ⟨rfl, hholders⟩

/-- Only steps touch the flag and the holders. -/
theorem flag_of_move (sound : s.Sound) (hm : Move M s s') :
    s.step? = some s' ∨ (s'.inFlight = s.inFlight ∧ s'.holders = s.holders) := by
  have htimer (change : Overlay → Overlay × Bool) :
      (s.runTimer change).inFlight = s.inFlight ∧ (s.runTimer change).holders = s.holders := by
    unfold Session.runTimer
    dsimp only
    split <;> exact ⟨rfl, rfl⟩
  cases hm with
  | step hstep => exact .inl hstep
  | trigger t => exact .inr ⟨rfl, holders_launch _ s (workOf_begins s t).1⟩
  | execute values => exact .inr ⟨rfl, holders_launch _ s rfl⟩
  | resume w mem =>
    refine .inr ⟨rfl, ?_⟩
    rw [← holders_remove sound mem]
    exact holders_enter ⟨some w.task, true, w.via, false, .await w.guarded⟩ (s.remove w.task)
  | abandon task => exact .inr (flag_abandon task sound)
  | address calls =>
    refine .inr ⟨rfl, ?_⟩
    exact (holders_enter ⟨none, false, .event, true, .perform calls none⟩ s).trans (Nat.zero_add _)
  | wake => exact .inr (htimer _)
  | tick => exact .inr (htimer _)
  | _ => exact .inr ⟨rfl, rfl⟩

/-- **A move changes the flag and the number of holders together**, unless the page panics when it
is to be blocked. -/
theorem flag_move (sound : s.Sound) (armed : Armed M s) (hm : Move M s s') : FlagChange M s s' := by
  rcases flag_of_move sound hm with hstep | ⟨flag, holders⟩
  · exact flag_step sound armed hstep
  · exact .same flag holders

/-! ## 3. The holders that the flag allows -/

/-- What every move keeps, whatever the surroundings do: the session is sound, only the surroundings
have arranged reactions and replies, and at most one submission holds the flag, none while it is
clear. -/
structure Regular (M : Surroundings) (s : Session) : Prop where
  sound : s.Sound
  armed : Armed M s
  held : s.holders ≤ s.inFlight.toNat

theorem Regular.move (h : Regular M s) (hm : Move M s s') : Regular M s' := by
  refine ⟨h.sound.move hm, h.armed.move h.sound hm, ?_⟩
  have held := h.held
  rcases flag_move h.sound h.armed hm with ⟨flag, holders⟩ | ⟨free, flag, holders⟩ |
    ⟨message, panics, free, flag, holders⟩ | ⟨flag, holders⟩
  · rw [flag, holders]
    exact held
  · rw [free, Bool.toNat_false] at held
    rw [flag, holders, Bool.toNat_true]
    omega
  · rw [free, Bool.toNat_false] at held
    rw [flag, holders, Bool.toNat_true]
    omega
  · have hle := Bool.toNat_le s.inFlight
    rw [flag, Bool.toNat_false]
    omega

theorem holders_of_isFresh (h : s.IsFresh) : s.holders = s.inFlight.toNat := by
  rw [h]
  rfl

theorem regular_of_isFresh (h : s.IsFresh) : Regular M s :=
  ⟨sound_of_isFresh h, armed_of_isFresh h, Nat.le_of_eq (holders_of_isFresh h)⟩

theorem Regular.reaches (h : Regular M s) (hr : s.Reaches M s') : Regular M s' := by
  induction hr with
  | refl => exact h
  | tail _ hm ih => exact ih.move hm

/-- What every move keeps, every run keeps. -/
theorem Regular.keeps {P : Session → Prop} (reg : Regular M s) (hr : s.Reaches M s') (h : P s)
    (next : ∀ a b, Regular M a → P a → Move M a b → P b) : P s' := by
  induction hr with
  | refl => exact h
  | tail hr hm ih => exact next _ _ (reg.reaches hr) ih hm

theorem holders_eq_move (block : ∀ message, ¬ M.reacts .block (.panic message))
    (reg : Regular M s) (h : s.holders = s.inFlight.toNat) (hm : Move M s s') :
    s'.holders = s'.inFlight.toNat := by
  have hle := (reg.move hm).held
  rcases flag_move reg.sound reg.armed hm with ⟨flag, holders⟩ | ⟨free, flag, holders⟩ |
    ⟨message, panics, free, flag, holders⟩ | ⟨flag, holders⟩
  · rw [flag, holders]
    exact h
  · rw [free, Bool.toNat_false] at h
    rw [flag, holders, h]
    rfl
  · exact absurd panics (block message)
  · rw [flag, Bool.toNat_false] at hle ⊢
    exact Nat.le_zero.mp hle

/-- One submission holds the flag exactly while it is set, if the page never panics when it is
blocked. -/
theorem holders_eq_reaches (block : ∀ message, ¬ M.reacts .block (.panic message))
    (reg : Regular M s) (h : s.holders = s.inFlight.toNat) (hr : s.Reaches M s') :
    s'.holders = s'.inFlight.toNat :=
  reg.keeps hr h fun _ _ reg h hm => holders_eq_move block reg h hm

/-! ## 4. A flag without a holder -/

/-- The flag is set, and no submission holds it. -/
structure Locked (s : Session) : Prop where
  flag : s.inFlight = true
  unheld : s.holders = 0

theorem Locked.move (reg : Regular M s) (h : s.Locked) (hm : Move M s s') : s'.Locked := by
  rcases flag_move reg.sound reg.armed hm with ⟨flag, holders⟩ | ⟨free, -, -⟩ | ⟨_, -, free, -, -⟩ |
    ⟨-, holders⟩
  · exact ⟨flag.trans h.flag, holders.trans h.unheld⟩
  · exact absurd (free.symm.trans h.flag) Bool.false_ne_true
  · exact absurd (free.symm.trans h.flag) Bool.false_ne_true
  · exact absurd (h.unheld.symm.trans holders) (Nat.zero_ne_add_one _)

/-- **A flag without a holder stays set for ever.** -/
theorem Locked.reaches (reg : Regular M s) (h : s.Locked) (hr : s.Reaches M s') : s'.Locked :=
  reg.keeps hr h fun _ _ reg h hm => h.move reg hm

end Session

end TemplateClient
