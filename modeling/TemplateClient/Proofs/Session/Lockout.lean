import TemplateClient.Proofs.Session.Submission

/-!
# Release and lockout

A submission that has taken the flag gives it back when it ends, whether it is answered, panics or
is dropped while it waits. The guard that does this exists once the page has been blocked. A page
that panics when it is blocked leaves no guard behind: the flag stays set for ever, and every later
submission is ignored.

* `Session.Released`, `Session.LockedOut` -- the two ways in which it may have ended there;
* `released_or_lockedOut` -- which of the two it is, and when the flag is set between steps.
-/

namespace TemplateClient

/-- The deed blocks or unblocks the page. -/
def Deed.isSwitch : Deed → Bool
  | .call c => c.isSwitch
  | .request _ => false

namespace Session

variable {M : Surroundings} {via : Via} {t : Trigger} {s₁ s s' : Session} {k : TaskId}
  {befallen : List Incident}

/-! ## 1. The next submission -/

theorem exchange_ne_ignored {request : FormValues} {deeds : List Deed} {fate : Option TaskState}
    (h : Exchange via request befallen deeds fate) : fate ≠ ended via .ignored := by
  cases h <;> cases via <;> simp [ended]

/-- A submission that finds the flag clear and a template is not ignored. -/
theorem accepted_of_ready (seq : M.Sequential) (reg : Regular M s) (quiet : s.running = [])
    (asks : t.isSubmission = true) (ready : s.IsReady) :
    (s.start t).settle.fate? s.nextTask ≠ ended (viaOf t) .ignored := by
  obtain ⟨⟨befallen, rest⟩, -⟩ := (AfterTurn.start (M := M)).rest seq reg quiet asks
  cases rest with
  | pending _ _ _ _ _ fate =>
    rw [fate, ← done_eq_ended]
    nofun
  | closed alone course =>
    rw [alone.fate]
    exact exchange_ne_ignored (exchange_of_course ready course)
  | stuck _ _ _ alone =>
    rw [alone.fate, ← done_eq_ended]
    nofun

/-- A submission that finds the flag set is ignored. -/
theorem ignored_of_busy (seq : M.Sequential) (reg : Regular M s) (quiet : s.running = [])
    (asks : t.isSubmission = true) (busy : s.inFlight = true) :
    (s.start t).settle.fate? s.nextTask = ended (viaOf t) .ignored := by
  obtain ⟨⟨befallen, rest⟩, -⟩ := (AfterTurn.start (M := M)).rest seq reg quiet asks
  have hready : ¬ s.IsReady := fun ready => Bool.false_ne_true (ready.free.symm.trans busy)
  cases rest with
  | pending _ _ ready => exact absurd ready hready
  | closed alone course =>
    rw [Course, if_pos busy] at course
    exact alone.fate.trans course.2.2
  | stuck _ ready => exact absurd ready hready

/-! ## 2. How a submission ends -/

/-- The page panicked when the submission `k` blocked it: the last deed of the submission is the
block, and it has panicked. -/
def IsStuck (k : TaskId) (s : Session) : Prop :=
  (s.deeds k).getLast? = some (.call .block) ∧ ∃ message, s.fate? k = some (.panicked message)

/-- The submission `k` has given the flag back. It has blocked the page once and unblocked it once,
and the next submission is not ignored if it finds a template. -/
structure Released (k : TaskId) (s : Session) : Prop where
  flag : s.inFlight = false
  switches : (s.deeds k).filter Deed.isSwitch = [.call .block, .call .unblock]
  accepts : ∀ (form : FormValues) (t : Trigger), Text.allBlank form.template = false →
    t.isSubmission = true →
      ({ s with form }.start t).settle.fate? s.nextTask ≠ ended (viaOf t) .ignored

/-- The submission `k` has only blocked the page. The flag stays set for ever, and every later
submission is ignored. -/
structure LockedOut (M : Surroundings) (k : TaskId) (s : Session) : Prop where
  deeds : s.deeds k = [.call .block]
  flag : ∀ s', s.Reaches M s' → s'.inFlight = true
  ignores : ∀ s', s.Reaches M s' → s'.running = [] → ∀ t : Trigger, t.isSubmission = true →
    (s'.start t).settle.fate? s'.nextTask = ended (viaOf t) .ignored

/-- Drawing a text switches nothing. -/
theorem switches_showing (text : String) (isError : Bool) :
    (showing text isError).filter Deed.isSwitch = [] := rfl

/-- An exchange that has ended after blocking the page has unblocked it, and nothing came after. -/
theorem switches_of_exchange {request : FormValues} {deeds : List Deed} {fate : Option TaskState}
    (h : Exchange via request befallen deeds fate) (took : .call .block ∈ deeds)
    (final : fate ≠ some .pending) :
    deeds.filter Deed.isSwitch = [.call .block, .call .unblock] ∧
      deeds.getLast? = some (.call .unblock) := by
  cases h with
  | unread => cases took
  | unhidden => exact ⟨rfl, rfl⟩
  | pending => exact absurd rfl final
  | dropped => exact ⟨rfl, rfl⟩
  | droppedLoudly => exact ⟨rfl, rfl⟩
  | unsent => exact ⟨rfl, rfl⟩
  | shown a result => exact ⟨rfl, List.getLast?_concat⟩
  | unblocked a result => exact ⟨rfl, List.getLast?_concat⟩
  | cut a pre post c result message shows split =>
    have hnil := split ▸ switches_showing result.text result.isError
    simp only [List.filter_append, List.append_eq_nil_iff, List.filter_eq_nil_iff,
      List.mem_cons] at hnil
    have hpre : pre.filter Deed.isSwitch = [] := List.filter_eq_nil_iff.mpr hnil.1
    refine ⟨?_, List.getLast?_concat⟩
    rw [List.filter_append, List.filter_append, List.filter_append, hpre,
      List.filter_cons_of_neg (hnil.2 _ (.inl rfl))]
    rfl

theorem released_of_over {fate : Option TaskState} (seq : M.Sequential) (reg : Regular M s)
    (ready : s₁.IsReady) (alone : Alone s₁ k fate s)
    (course : Course via s₁ befallen (s.deeds k) fate)
    (flag : s.inFlight = s₁.inFlight) (final : fate ≠ some .pending)
    (took : .call .block ∈ s.deeds k) : Released k s ∧ ¬ s.IsStuck k := by
  obtain ⟨hswitches, hlast⟩ := switches_of_exchange (exchange_of_course ready course) took final
  have hfree : s.inFlight = false := flag.trans ready.free
  refine ⟨⟨hfree, hswitches, fun form t hfull asks => ?_⟩, fun h => ?_⟩
  · have hmove : Move M s { s with form } := .edit form (.inl alone.running)
    exact accepted_of_ready seq (reg.move hmove) alone.running asks ⟨hfree, hfull⟩
  · rw [IsStuck, hlast] at h
    cases h.1

theorem lockedOut_of_stuck {message : String} (seq : M.Sequential) (reg : Regular M s)
    (ready : s₁.IsReady) (alone : Alone s₁ k (some (.panicked message)) s)
    (deeds : s.deeds k = [.call .block]) (flag : s.inFlight = true) :
    LockedOut M k s ∧ s.IsStuck k := by
  have hunheld : s.holders = 0 := by
    rw [holders, alone.running, List.countP_nil, Nat.zero_add]
    exact List.countP_eq_zero.mpr fun w hw => by simp [alone.unheld ready w hw]
  have hlocked (s' : Session) (hr : s.Reaches M s') : s'.inFlight = true :=
    (Locked.reaches reg ⟨flag, hunheld⟩ hr).flag
  refine ⟨⟨deeds, hlocked, fun s' hr quiet t asks => ?_⟩, ?_, message, alone.fate⟩
  · exact ignored_of_busy seq (reg.reaches hr) quiet asks (hlocked s' hr)
  · rw [deeds]
    rfl

/-! ## 3. A flag without a holder has its reason -/

/-- Without calls from inside there is at most one frame. -/
theorem solo_move (seq : M.Sequential) (reg : Regular M s) (solo : s.running.length ≤ 1)
    (hm : Move M s s') : s'.running.length ≤ 1 := by
  have hquiet (isOpen : s.IsOpen M) : s.running = [] := isOpen.resolve_right seq.nests
  have henter (f : Frame) (isOpen : s.IsOpen M) : (f :: s.running).length ≤ 1 := by
    rw [hquiet isOpen]
    exact Nat.le_refl 1
  cases hm with
  | step hstep =>
    obtain ⟨f, running, hr, -, hooks, -, s₁, heff, hcase⟩ := reg.sound.stepsTo hstep
    have hnil : running = [] := by
      rw [hr, List.length_cons] at solo
      exact List.eq_nil_of_length_eq_zero (by omega)
    have hs₁ : s₁.running.length ≤ 1 := by
      subst hnil
      cases heff <;> simp [enter, act]
    rcases hcase with heq | ⟨m, t, ht, _, _⟩
    · rw [heq]
      exact hs₁
    · exact absurd (reg.armed.hooks _ ht) (seq.starts m t)
  | trigger t isOpen => exact henter _ isOpen
  | execute values isOpen => exact henter _ isOpen
  | resume w mem isOpen => exact henter _ isOpen
  | abandon task isOpen =>
    unfold Session.abandon
    split
    · exact solo
    · dsimp only
      split
      · exact henter _ isOpen
      · exact solo
  | address calls ok isOpen => exact henter _ isOpen
  | wake => exact (runTimer_running _ s).symm ▸ solo
  | tick => exact (runTimer_running _ s).symm ▸ solo
  | _ => exact solo

/-- The submission `k` has just blocked the page, which panicked, or is over since. -/
inductive Lost (k : TaskId) (s : Session) : Prop where
  | leaving (f : Frame) (message : String) (running : s.running = [f]) (actor : f.actor = some k)
      (task : f.isTask = true) (work : f.work = .panicked message) (started : k < s.nextTask)
      (absent : ∀ w ∈ s.waiting, w.task ≠ k) (last : (s.deeds k).getLast? = some (.call .block))
  | gone (gone : Gone k s) (stuck : s.IsStuck k)

theorem Lost.move (seq : M.Sequential) (reg : Regular M s) (lost : Lost k s) (hm : Move M s s') :
    Lost k s' := by
  cases lost with
  | gone gone stuck =>
    obtain ⟨gone', same⟩ := gone.move reg.sound hm
    exact .gone gone' ⟨same.deeds ▸ stuck.1, same.fate ▸ stuck.2⟩
  | leaving f message running actor task work started absent last =>
    have hbusy : s.running ≠ [] := running ▸ List.cons_ne_nil _ _
    rcases hm.of_closed (not_isOpen seq.nests hbusy) with hstep | ⟨hooks, replies, rfl⟩
    · rw [step?_cons running] at hstep
      cases hstep
      have hend : { s with running := [] }.stepFrame f =
          { s with running := [] }.note (some k) (.task k (.panicked message)) := by
        unfold stepFrame
        simp only [work, panicOf, task, actor]
        rfl
      rw [hend]
      refine .gone ⟨⟨started, fun g hg => absurd hg List.not_mem_nil⟩, absent⟩ ⟨?_, message, ?_⟩
      · rw [deeds_of_silent_entry (s := s) rfl rfl]
        exact last
      · exact fate?_of_task (s := s) nofun rfl
    · exact .leaving f message running actor task work started absent last

/-- The flag is set without a holder only by a step that panics when it blocks the page. -/
theorem lost_of_step (seq : M.Sequential) (reg : Regular M s) (solo : s.running.length ≤ 1)
    (free : s.inFlight = false) (hstep : s.step? = some s') (flag : s'.inFlight = true)
    (unheld : s'.holders = s.holders) : ∃ k, Lost k s' := by
  obtain ⟨f, running, hr, hf, hooks, -, s₁, heff, hcase⟩ := reg.sound.stepsTo hstep
  obtain rfl : running = [] := by
    rw [hr, List.length_cons] at solo
    exact List.eq_nil_of_length_eq_zero (by omega)
  obtain rfl : s' = s₁ := by
    rcases hcase with heq | ⟨m, t, ht, _, _⟩
    · exact heq
    · exact absurd (reg.armed.hooks _ ht) (seq.starts m t)
  have hsame : s.inFlight ≠ true := Bool.eq_false_iff.mp free
  cases heff with
  | proceed => exact absurd flag hsame
  | call => exact absurd flag hsame
  | release => cases flag
  | wait => exact absurd flag hsame
  | leave => exact absurd flag hsame
  | take work _ unguarded holds calls task =>
    obtain ⟨htask, hactor⟩ := hf.isTask task
    obtain ⟨k, actor⟩ := Option.isSome_iff_exists.mp hactor
    have hbefore : s.holders = f.work.isGuarded.toNat + holders { s with running := [] } := by
      rw [← holders_cons f { s with running := [] }, ← hr]
    rcases holds with guarded | ⟨message, -, rfl⟩
    · -- with a guard there would be one holder more
      have hafter := holders_enter { f with work }
        ({ { s with hooks, running := [] } with inFlight := true }.act f.actor .block)
      have hrest : holders ({ { s with hooks, running := [] } with inFlight := true }.act f.actor
          .block) = holders { s with running := [] } := rfl
      rw [hafter, hrest, hbefore, guarded, unguarded] at unheld
      simp at unheld
    · refine ⟨k, .leaving { f with work := .panicked message } message rfl actor htask rfl
        (reg.sound.actors f (hr ▸ List.mem_cons_self) k actor) ?_ ?_⟩
      · intro w hw e
        have hd := reg.sound.distinct
        simp only [live, hr, List.filterMap_cons, Frame.task?, htask, if_true, actor,
          List.filterMap_nil, List.singleton_append, List.nodup_cons] at hd
        exact hd.1 (e ▸ List.mem_map_of_mem hw)
      · rw [deeds_call (b := s) (c := .block) (by rw [actor]; rfl)]
        exact List.getLast?_concat

/-- What every move keeps where nothing comes from inside: there is at most one frame, and the flag
has its holder, or a submission has lost it. -/
structure Accounted (M : Surroundings) (s : Session) : Prop where
  regular : Regular M s
  solo : s.running.length ≤ 1
  account : s.holders = s.inFlight.toNat ∨ ∃ k, Lost k s

theorem Accounted.move (seq : M.Sequential) (h : Accounted M s) (hm : Move M s s') :
    Accounted M s' := by
  have reg' := h.regular.move hm
  refine ⟨reg', solo_move seq h.regular h.solo hm, ?_⟩
  rcases h.account with held | ⟨k, lost⟩
  · rcases flag_of_move h.regular.sound hm with hstep | ⟨flag, holders⟩
    · rcases flag_step h.regular.sound h.regular.armed hstep with ⟨flag, holders⟩ |
        ⟨free, flag, holders⟩ | ⟨message, panics, free, flag, holders⟩ | ⟨flag, holders⟩
      · exact .inl (by rw [flag, holders, held])
      · rw [free, Bool.toNat_false] at held
        exact .inl (by rw [flag, holders, held]; rfl)
      · exact .inr (lost_of_step seq h.regular h.solo free hstep flag holders)
      · have hle := reg'.held
        rw [flag, Bool.toNat_false] at hle
        exact .inl (by rw [flag]; exact Nat.le_zero.mp hle)
    · exact .inl (by rw [flag, holders, held])
  · exact .inr ⟨k, lost.move seq h.regular hm⟩

theorem Accounted.reaches (seq : M.Sequential) (h : Accounted M s) (hr : s.Reaches M s') :
    Accounted M s' :=
  h.regular.keeps hr h fun _ _ _ h hm => h.move seq hm

theorem accounted_of_isFresh (h : s.IsFresh) : Accounted M s := by
  refine ⟨regular_of_isFresh h, ?_, .inl (holders_of_isFresh h)⟩
  rw [h]
  exact Nat.zero_le 1

/-- Between the steps of a run the flag is set only if a submission that waits holds it, or the page
panicked when a submission blocked it. -/
theorem Accounted.of_flag (h : Accounted M s) (quiet : s.running = []) (flag : s.inFlight = true) :
    (∃ w ∈ s.waiting, w.guarded = true) ∨ ∃ k, s.IsStuck k := by
  rcases h.account with held | ⟨k, lost⟩
  · left
    rw [flag, Bool.toNat_true, holders, quiet, List.countP_nil, Nat.zero_add] at held
    have hpos : 0 < s.waiting.countP (·.guarded) := held ▸ Nat.one_pos
    exact List.countP_pos_iff.mp hpos
  · right
    cases lost with
    | leaving f message running => simp [quiet] at running
    | gone gone stuck => exact ⟨k, stuck⟩

/-! ## 4. Release or lockout -/

/-- **A submission that has taken the flag gives it back when it ends, unless the page panicked
when the submission blocked it**: then the form is locked for ever. So between the steps of a run
the flag is set only if a submission that waits holds it, or if the form is locked in this way. -/
theorem released_or_lockedOut {s₀ : Session} (fresh : s₀.IsFresh) :
    (∀ (s₁ : Session) (t : Trigger) (s : Session), s₀.Reaches .unruly s₁ → s₁.running = [] →
      t.isSubmission = true → s₁.IsReady → AfterTurn .unruly t s₁ s →
        .call .block ∈ s.deeds s₁.nextTask → s.fate? s₁.nextTask ≠ some .pending →
          (¬ s.IsStuck s₁.nextTask ∧ Released s₁.nextTask s) ∨
            (s.IsStuck s₁.nextTask ∧ LockedOut .unruly s₁.nextTask s)) ∧
      ∀ s, s₀.Reaches .unruly s → s.running = [] → s.inFlight = true →
        (∃ w ∈ s.waiting, w.guarded = true) ∨ ∃ k, s.IsStuck k := by
  have seq := Surroundings.sequential_unruly
  have reg : Regular .unruly s₀ := regular_of_isFresh fresh
  refine ⟨fun s₁ t s before quiet asks ready turn took final => ?_, fun s hr quiet flag => ?_⟩
  · obtain ⟨⟨befallen, rest⟩, reg'⟩ := turn.rest seq (reg.reaches before) quiet asks
    cases rest with
    | pending _ _ _ _ _ fate => exact absurd fate final
    | closed alone course flag final =>
      have h := released_of_over seq reg' ready alone course flag final took
      exact .inl ⟨h.2, h.1⟩
    | stuck message ready panics alone deeds flag =>
      have h := lockedOut_of_stuck seq reg' ready alone deeds flag
      exact .inr ⟨h.2, h.1⟩
  · exact ((accounted_of_isFresh fresh).reaches seq hr).of_flag quiet flag

/-- A page that panics when it is blocked locks the form; one whose old error cannot be hidden does
not. -/
theorem lockedOut_of_block_panic :
    let s₀ : Session := { form := { template := "x" } }
    let s := ((s₀.arm (.block, .panic "boom")).start .submit).settle
    let r := ((s₀.arm (.hideError, .panic "boom")).start .submit).settle
    LockedOut .unruly 0 s ∧ (∃ k, s.IsStuck k) ∧ Released 0 r := by
  intro s₀ s r
  have fresh : s₀.IsFresh := rfl
  have hreach (m : Method) : s₀.Reaches .unruly (s₀.arm (m, .panic "boom")) :=
    .single (.arm _ ⟨"boom", rfl⟩)
  have hs := (released_or_lockedOut fresh).1 _ .submit s (hreach .block) rfl rfl
    ⟨rfl, by decide⟩ .start (by decide) (by decide)
  have hr := (released_or_lockedOut fresh).1 _ .submit r (hreach .hideError) rfl rfl
    ⟨rfl, by decide⟩ .start (by decide) (by decide)
  have hreachs : s₀.Reaches .unruly s :=
    ((hreach .block).tail (.trigger .submit (.inl rfl))).trans (settle_reaches _)
  have hflag := (released_or_lockedOut fresh).2 s hreachs (by decide) (by decide)
  refine ⟨?_, ?_, ?_⟩
  · rcases hs with ⟨-, h⟩ | ⟨-, h⟩
    · exact absurd h.flag (by decide)
    · exact h
  · rcases hflag with ⟨w, hw, -⟩ | h
    · exact absurd hw (by simp [show s.waiting = [] by decide])
    · exact h
  · rcases hr with ⟨-, h⟩ | ⟨-, h⟩
    · exact h
    · exact absurd h.deeds (by decide)

end Session

end TemplateClient
