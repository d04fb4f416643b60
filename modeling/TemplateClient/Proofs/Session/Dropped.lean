import TemplateClient.Proofs.Session.Recast
import TemplateClient.Proofs.Session.Submission

/-!
# Triggers that are dropped

Two runs are compared: in one of them more triggers come, submissions while the flag is set and keys
that are no shortcut, and some submissions are asked for in another way. The other run does not
notice. A dropped trigger reads nothing, calls nothing and queues nothing, and the way in which a
submission was asked for shows only in the shape of its outcome.

* `Trigger.IsDropped`, `Mirrors.drop` -- what a dropped trigger does to a session;
* `Mirrors.rewrap` -- a submission that is asked for in another way;
* `Part`, `Session.woven` -- a run, and the run with the changes;
* `Session.Undisturbed`, `undisturbed_by_dropped` -- what the two runs have in common.
-/

namespace TemplateClient

/-! ## 1. Recasts that agree -/

namespace Recast

variable {σ τ : Recast} {n : TaskId}

/-- The recasts are the same for tasks with numbers below `n`. -/
structure AgreesBelow (n : TaskId) (σ τ : Recast) : Prop where
  number : ∀ k, k < n → τ.number k = σ.number k
  wrap : ∀ k, k < n → τ.wrap k = σ.wrap k

theorem AgreesBelow.map {actor : Option TaskId} (h : AgreesBelow n σ τ)
    (below : ∀ k, actor = some k → k < n) : actor.map τ.number = actor.map σ.number := by
  cases actor with
  | none => rfl
  | some k => exact congrArg some (h.number k (below k rfl))

theorem AgreesBelow.via {k : TaskId} (h : AgreesBelow n σ τ) (below : k < n) (via : Via) :
    τ.via k via = σ.via k via := by
  rw [Recast.via, Recast.via, h.wrap k below]

theorem AgreesBelow.entry {e : Entry} (h : AgreesBelow n σ τ) (below : e.Below n)
    (known : e.isKnown = true) : τ.entry e = σ.entry e := by
  obtain ⟨actor, seen⟩ := e
  have hactor : actor.map τ.number = actor.map σ.number := h.map below.1
  have hseen : τ.seen seen = σ.seen seen := by
    cases seen with
    | task k state =>
      have hk : k < n := by
        refine below.2 k ?_
        cases state <;> simp [Entry.stateOf?, Seen.stateOf?, Entry.isKnown] at known ⊢
      have hstate : τ.state k state = σ.state k state := by
        cases state with
        | done outcome => rw [state, state, h.wrap k hk]
        | _ => rfl
      rw [Recast.seen, Recast.seen, h.number k hk, hstate]
    | _ => rfl
  rw [Recast.entry, Recast.entry, hactor, hseen]

theorem AgreesBelow.frame {f : Frame} (h : AgreesBelow n σ τ)
    (below : ∀ k, f.actor = some k → k < n) : τ.frame f = σ.frame f := by
  obtain ⟨actor, isTask, via, fresh, work⟩ := f
  cases actor with
  | none => rfl
  | some k => rw [frame_task, frame_task, h.number k (below k rfl), h.via (below k rfl)]

theorem AgreesBelow.waiting {w : Waiting} (h : AgreesBelow n σ τ) (below : w.task < n) :
    τ.waiting w = σ.waiting w := by
  rw [Recast.waiting, Recast.waiting, h.number _ below, h.via below]

end Recast

namespace Session

variable {σ τ : Recast} {s s' : Session} {t t' : Trigger}

/-- What has been started by now is recast in the same way. -/
theorem recast_congr (h : Recast.AgreesBelow s.nextTask σ τ) (sound : s.Sound) :
    s.running.map τ.frame = s.running.map σ.frame ∧
      s.waiting.map τ.waiting = s.waiting.map σ.waiting ∧
      (s.trace.filter Entry.isKnown).map τ.entry = (s.trace.filter Entry.isKnown).map σ.entry := by
  refine ⟨List.map_congr_left fun f hf => h.frame (sound.actors f hf),
    List.map_congr_left fun w hw => h.waiting (sound.waiting w hw), ?_⟩
  refine List.map_congr_left fun e he => ?_
  obtain ⟨hmem, hknown⟩ := List.mem_filter.mp he
  exact h.entry (sound.trace e hmem) hknown

/-! ## 2. One more trigger -/

end Session

/-- The trigger is a key that asks for no submission. -/
def Trigger.isIdleKey : Trigger → Bool
  | .event (.keyDown key) => !key.isSubmitShortcut
  | _ => false

/-- The trigger starts no work: a submission while the flag is set, or a key that is no shortcut. -/
def Trigger.IsDropped (t : Trigger) (s : Session) : Prop :=
  (t.isSubmission = true ∧ s.inFlight = true) ∨ t.isIdleKey = true

instance (t : Trigger) (s : Session) : Decidable (t.IsDropped s) :=
  inferInstanceAs (Decidable (_ ∨ _))

/-- What happens when a trigger is dropped: a task starts and ends, and never waits. -/
def Trigger.dropping (t : Trigger) : List Event :=
  .trigger t :: if t.isSubmission then [.step, .step] else [.step]

/-- The recast after a trigger that starts a task only in the other run. -/
def Recast.skip (n : TaskId) (t : Trigger) (σ : Recast) : Recast where
  number k := if k < n then σ.number k else σ.number k + 1
  wrap := σ.wrap
  extras := σ.extras ++ [(σ.number n, t)]

/-- The recast after a submission that is asked for in another way in the other run. -/
def Recast.rewrap (n : TaskId) (via : Via) (σ : Recast) : Recast :=
  { σ with wrap := fun k => if k = n then some via else σ.wrap k }

namespace Recast

variable {σ : Recast} {n : TaskId} {t : Trigger}

theorem skip_of_lt {k : TaskId} (hk : k < n) : (σ.skip n t).number k = σ.number k := if_pos hk

theorem skip_of_le {k : TaskId} (hk : n ≤ k) : (σ.skip n t).number k = σ.number k + 1 :=
  if_neg (Nat.not_lt.mpr hk)

theorem agreesBelow_skip : AgreesBelow n σ (σ.skip n t) :=
  ⟨fun _ => skip_of_lt, fun _ _ => rfl⟩

theorem agreesBelow_rewrap {via : Via} : AgreesBelow n σ (σ.rewrap n via) :=
  ⟨fun _ _ => rfl, fun _ hk => if_neg (Nat.ne_of_lt hk)⟩

/-- The number that is passed over belongs to the extra task. -/
theorem Fits.skip (fits : σ.Fits n) : (σ.skip n t).Fits n where
  mono := by
    intro j k hjk
    have hlt := fits.mono hjk
    by_cases hk : k < n
    · rw [skip_of_lt hk, skip_of_lt (Nat.lt_trans hjk hk)]
      exact hlt
    · rw [skip_of_le (Nat.not_lt.mp hk)]
      by_cases hj : j < n
      · rw [skip_of_lt hj]
        exact Nat.lt_succ_of_lt hlt
      · rw [skip_of_le (Nat.not_lt.mp hj)]
        exact Nat.succ_lt_succ hlt
  shift k hk := by
    rw [skip_of_le hk, skip_of_le (Nat.le_succ_of_le hk), fits.shift k hk]
  unwrapped := fits.unwrapped
  extras := by
    intro x hx
    rw [skip_of_le (Nat.le_refl n)]
    rcases List.mem_append.mp hx with hx | hx
    · obtain ⟨hlt, hne⟩ := fits.extras x hx
      refine ⟨Nat.lt_succ_of_lt hlt, fun k => ?_⟩
      by_cases hk : k < n
      · rw [skip_of_lt hk]
        exact hne k
      · have hle := fits.mono.monotone (Nat.not_lt.mp hk)
        rw [skip_of_le (Nat.not_lt.mp hk)]
        exact Nat.ne_of_gt (Nat.lt_succ_of_le (Nat.le_trans (Nat.le_of_lt hlt) hle))
    · obtain rfl := List.mem_singleton.mp hx
      refine ⟨Nat.lt_succ_self _, fun k => ?_⟩
      by_cases hk : k < n
      · rw [skip_of_lt hk]
        exact Nat.ne_of_lt (fits.mono hk)
      · have hle := fits.mono.monotone (Nat.not_lt.mp hk)
        rw [skip_of_le (Nat.not_lt.mp hk)]
        exact Nat.ne_of_gt (Nat.lt_succ_of_le hle)

theorem Fits.rewrap {via : Via} (fits : σ.Fits n) : (σ.rewrap n via).Fits (n + 1) where
  mono := fits.mono
  shift k hk := fits.shift k (Nat.le_of_succ_le hk)
  unwrapped k hk := (if_neg (Nat.ne_of_gt hk)).trans (fits.unwrapped k (Nat.le_of_succ_le hk))
  extras := fits.succ.extras

theorem actor_dropped (k : TaskId) (t : Trigger) : ∀ e ∈ dropped k t, e.actor = some k := by
  intro e he
  unfold dropped at he
  split at he
  · simp only [List.mem_cons, List.not_mem_nil, or_false] at he
    rcases he with rfl | rfl <;> rfl
  · obtain rfl := List.mem_singleton.mp he
    rfl

/-- A dropped trigger adds its own entries to the other trace, which nobody else has made. -/
theorem SameTrace.skip {tr tr' : List Entry} (h : σ.SameTrace tr tr') (fits : σ.Fits n)
    (unseen : ∀ e ∈ tr', e.actor ≠ some (σ.number n))
    (agree : (tr.filter Entry.isKnown).map (σ.skip n t).entry =
      (tr.filter Entry.isKnown).map σ.entry) :
    (σ.skip n t).SameTrace tr (tr' ++ dropped (σ.number n) t) where
  own := by
    have hold : tr'.filter (σ.skip n t).isOwn = tr'.filter σ.isOwn := by
      refine List.filter_congr fun e he => ?_
      have hne : (e.actor != some (σ.number n)) = true := bne_iff_ne.mpr (unseen e he)
      rw [isOwn, isOwn, Recast.skip, List.all_append, List.all_cons, List.all_nil, hne,
        Bool.and_true, Bool.and_true]
    have hnew : (dropped (σ.number n) t).filter (σ.skip n t).isOwn = [] := by
      refine List.filter_eq_nil_iff.mpr fun e he => ?_
      rw [isOwn, Recast.skip, List.all_append, List.all_cons, actor_dropped _ _ e he]
      simp
    rw [List.filter_append, hold, hnew, List.append_nil, h.own, agree]
  extras := by
    intro x hx
    rw [List.filter_append]
    rcases List.mem_append.mp hx with hx | hx
    · have hne : x.1 ≠ σ.number n := Nat.ne_of_lt (fits.extras x hx).1
      have hnew : (dropped (σ.number n) t).filter (·.actor == some x.1) = [] := by
        refine List.filter_eq_nil_iff.mpr fun e he => ?_
        rw [actor_dropped _ _ e he]
        simpa using hne.symm
      rw [hnew, List.append_nil]
      exact h.extras x hx
    · obtain rfl := List.mem_singleton.mp hx
      have hold : tr'.filter (·.actor == some (σ.number n)) = [] := by
        refine List.filter_eq_nil_iff.mpr fun e he => ?_
        simpa using unseen e he
      rw [hold, List.nil_append]
      exact List.filter_eq_self.mpr fun e he => by simp [actor_dropped _ _ e he]

end Recast

namespace Session

variable {σ : Recast} {s s' : Session} {t t' : Trigger}

theorem key_of_isIdleKey (h : t.isIdleKey = true) :
    ∃ key : KeyPress, t = .event (.keyDown key) ∧ key.isSubmitShortcut = false := by
  unfold Trigger.isIdleKey at h
  split at h
  · next key => exact ⟨key, rfl, by simpa using h⟩
  · cases h

/-- **A dropped trigger leaves a number and its own entries**, and nothing else. -/
theorem replay?_dropping (dropped : t.IsDropped s) :
    s.replay? t.dropping = some { s with
      nextTask := s.nextTask + 1
      trace := s.trace ++ Recast.dropped s.nextTask t } := by
  rcases dropped with ⟨asks, busy⟩ | idle
  · have hstart : s.start t = { s with nextTask := s.nextTask + 1 }.enter
        ⟨some s.nextTask, true, viaOf t, true, .begin⟩ := by
      rw [start, workOf_submission asks]
      rfl
    have htest : { s with nextTask := s.nextTask + 1 }.stepFrame
        ⟨some s.nextTask, true, viaOf t, true, .begin⟩ =
        ({ s with nextTask := s.nextTask + 1 }.note (some s.nextTask) (.log .triggerIgnored)).enter
          ⟨some s.nextTask, true, viaOf t, true, .finished (some .ignored)⟩ := by
      simp only [stepFrame, busy, if_true]
    rw [Trigger.dropping, if_pos asks, Recast.dropped, if_pos asks]
    simp only [replay?, after?, Option.bind_some, hstart, step?_enter, htest]
    simp [stepFrame, endOf, note]
  · obtain ⟨key, rfl, noShortcut⟩ := key_of_isIdleKey idle
    have hstart : s.start (.event (.keyDown key)) = { s with nextTask := s.nextTask + 1 }.enter
        ⟨some s.nextTask, true, .event, true, .finished none⟩ := by
      rw [start, workOf, if_neg (by simp [noShortcut])]
      rfl
    have hkey : (Trigger.event (.keyDown key)).isSubmission = false := noShortcut
    rw [Trigger.dropping, Recast.dropped, hkey]
    simp only [replay?, after?, Option.bind_some, hstart]
    simp [stepFrame, endOf, replay?, after?, step?_enter, viaOf]

/-- No task has done anything before it has been started. -/
theorem actor_ne_nextTask (sound : s.Sound) : ∀ e ∈ s.trace, e.actor ≠ some s.nextTask :=
  fun e he h => Nat.lt_irrefl _ ((sound.trace e he).1 s.nextTask h)

theorem Mirrors.drop (sound : s.Sound) (sound' : s'.Sound) (h : Mirrors σ s s')
    (dropped : t.IsDropped s) :
    ∃ s₁', s'.replay? t.dropping = some s₁' ∧ Mirrors (σ.skip s.nextTask t) s s₁' := by
  have dropped' : t.IsDropped s' := by
    refine dropped.imp (fun h' => ⟨h'.1, ?_⟩) id
    cases h with
    | mk trace same fits => exact h'.2
  refine ⟨_, replay?_dropping dropped', ?_⟩
  have hunseen := actor_ne_nextTask sound'
  cases h with
  | mk trace same fits =>
    obtain ⟨hrunning, hwaiting, htrace⟩ :=
      recast_congr (τ := σ.skip s.nextTask t) Recast.agreesBelow_skip sound
    have hnext : (σ.skip s.nextTask t).number s.nextTask = σ.number s.nextTask + 1 :=
      Recast.skip_of_le (Nat.le_refl _)
    have hstate : { s.recast σ trace with
        nextTask := σ.number s.nextTask + 1
        trace := trace ++ Recast.dropped (σ.number s.nextTask) t } =
        s.recast (σ.skip s.nextTask t) (trace ++ Recast.dropped (σ.number s.nextTask) t) := by
      simp only [recast, hrunning, hwaiting, hnext]
    exact hstate ▸ .mk _ (same.skip fits hunseen htrace) fits.skip

/-- **A submission that is asked for in another way** is recast with that way. -/
theorem Mirrors.rewrap (sound : s.Sound) (h : Mirrors σ s s') (asks : t.isSubmission = true)
    (asks' : t'.isSubmission = true) :
    Mirrors (σ.rewrap s.nextTask (viaOf t')) (s.start t) (s'.start t') := by
  cases h with
  | mk trace same fits =>
    obtain ⟨hrunning, hwaiting, htrace⟩ :=
      recast_congr (τ := σ.rewrap s.nextTask (viaOf t')) Recast.agreesBelow_rewrap sound
    have hvia : (σ.rewrap s.nextTask (viaOf t')).via s.nextTask (viaOf t) = viaOf t' := by
      rw [Recast.via, Recast.rewrap]
      exact congrArg (Option.getD · _) (if_pos rfl)
    have hstate : (s.recast σ trace).start t' =
        (s.start t).recast (σ.rewrap s.nextTask (viaOf t')) trace := by
      rw [Session.start, Session.start, workOf_submission asks, workOf_submission asks']
      simp only [Session.launch, recast, Session.enter, List.map_cons, Recast.frame_task, hvia,
        hrunning, hwaiting]
      simp only [Recast.rewrap, fits.shift _ (Nat.le_refl _)]
    rw [hstate]
    refine .mk trace ⟨?_, same.extras⟩ fits.rewrap
    exact same.own.trans htrace.symm

end Session

/-! ## 3. A run with changes -/

/-- A part of a run that is compared with another one. -/
inductive Part where
  /-- It happens in both runs. -/
  | own (e : Event)
  /-- A trigger that comes in the other run only. -/
  | extra (t : Trigger)
  /-- A trigger in whose place another one comes in the other run. -/
  | instead (t t' : Trigger)

namespace Part

/-- What happens in the run itself. -/
def original : Part → List Event
  | .own e => [e]
  | .extra _ => []
  | .instead t _ => [.trigger t]

/-- What happens in the other run. -/
def changed (σ : Recast) : Part → List Event
  | .own e => [σ.event e]
  | .extra t => t.dropping
  | .instead _ t' => [.trigger t']

/-- The trigger that comes in the other run only. -/
def extra? : Part → Option Trigger
  | .extra t => some t
  | _ => none

/-- The change is one that nobody notices: the extra trigger is dropped, or both triggers ask for a
submission. -/
def IsSilent (s : Session) : Part → Prop
  | .own _ => True
  | .extra t => t.IsDropped s
  | .instead t t' => t.isSubmission = true ∧ t'.isSubmission = true

instance decidableIsSilent (s : Session) : (p : Part) → Decidable (p.IsSilent s)
  | .own _ => inferInstanceAs (Decidable True)
  | .extra t => inferInstanceAs (Decidable (t.IsDropped s))
  | .instead _ _ => inferInstanceAs (Decidable (_ ∧ _))

/-- The recast after the part, of which `n` tasks had been started before. -/
def recast (n : TaskId) (σ : Recast) : Part → Recast
  | .own _ => σ
  | .extra t => σ.skip n t
  | .instead _ t' => σ.rewrap n (Session.viaOf t')

end Part

namespace Session

/-- The session after a part of the run. -/
def past (s : Session) (p : Part) : Session := (s.replay? p.original).getD s

/-- Every change is one that nobody notices at its point of the run. -/
def AllSilent (s : Session) : List Part → Prop
  | [] => True
  | p :: ps => p.IsSilent s ∧ (s.past p).AllSilent ps

instance decidableAllSilent : (s : Session) → (ps : List Part) → Decidable (s.AllSilent ps)
  | _, [] => .isTrue trivial
  | s, p :: ps =>
    have := decidableAllSilent (s.past p) ps
    inferInstanceAs (Decidable (_ ∧ _))

/-- The events of the run with the changes, and what it is to the run itself. -/
def woven (s : Session) (σ : Recast) : List Part → List Event × Recast
  | [] => ([], σ)
  | p :: ps =>
    let (es, τ) := (s.past p).woven (p.recast s.nextTask σ) ps
    (p.changed σ ++ es, τ)

/-- A part of a run has changes that nobody notices if the whole run has. -/
theorem allSilent_of_append {s : Session} {ps qs : List Part} (h : s.AllSilent (ps ++ qs)) :
    s.AllSilent ps := by
  induction ps generalizing s with
  | nil => trivial
  | cons p ps ih => exact ⟨h.1, ih h.2⟩

/-- What comes later changes nothing before it. -/
theorem woven_append (s : Session) (σ : Recast) (ps qs : List Part) :
    (s.woven σ (ps ++ qs)).1 =
      (s.woven σ ps).1 ++ ((ps.foldl past s).woven (s.woven σ ps).2 qs).1 := by
  induction ps generalizing s σ with
  | nil => rfl
  | cons p ps ih => simp only [List.cons_append, woven, List.foldl_cons, ih, List.append_assoc]

/-- The tasks that only the other run has are those of the extra triggers, in their order. -/
theorem extras_woven (s : Session) (σ : Recast) (ps : List Part) :
    (s.woven σ ps).2.extras.map Prod.snd = σ.extras.map Prod.snd ++ ps.filterMap Part.extra? := by
  induction ps generalizing s σ with
  | nil => exact (List.append_nil _).symm
  | cons p ps ih =>
    have hstep : (p.recast s.nextTask σ).extras.map Prod.snd =
        σ.extras.map Prod.snd ++ p.extra?.toList := by
      cases p with
      | extra t => exact List.map_append
      | _ => exact (List.append_nil _).symm
    simp only [woven]
    rw [ih, hstep, List.append_assoc]
    cases p <;> rfl

variable {σ : Recast} {s s' : Session}

/-- One part of the run keeps the sessions recasts of one another. -/
theorem Mirrors.part {s₁ : Session} {p : Part} (sound : s.Sound) (sound' : s'.Sound)
    (h : Mirrors σ s s') (silent : p.IsSilent s) (hrun : s.replay? p.original = some s₁) :
    ∃ s₁', s'.replay? (p.changed σ) = some s₁' ∧ Mirrors (p.recast s.nextTask σ) s₁ s₁' := by
  cases p with
  | own e =>
    rw [Part.original, replay?_singleton] at hrun
    obtain ⟨s₁', hafter, hmirrors⟩ := h.after? hrun
    exact ⟨s₁', by rw [Part.changed, replay?_singleton, hafter], hmirrors⟩
  | extra t =>
    obtain rfl : s = s₁ := Option.some.inj hrun
    exact h.drop sound sound' silent
  | instead t t' =>
    obtain rfl : s.start t = s₁ := Option.some.inj hrun
    exact ⟨s'.start t', rfl, h.rewrap sound silent.1 silent.2⟩

/-- **The run with the changes goes through**, and ends in a recast, by induction on the parts. -/
theorem Mirrors.woven {ps : List Part} {s₁ : Session} (sound : s.Sound) (sound' : s'.Sound)
    (h : Mirrors σ s s') (silent : s.AllSilent ps)
    (hrun : s.replay? (ps.flatMap Part.original) = some s₁) :
    ∃ s₁', s'.replay? (s.woven σ ps).1 = some s₁' ∧ s₁.Sound ∧ s₁'.Sound ∧
      Mirrors (s.woven σ ps).2 s₁ s₁' := by
  induction ps generalizing s s' σ with
  | nil =>
    obtain rfl : s = s₁ := Option.some.inj hrun
    exact ⟨s', rfl, sound, sound', h⟩
  | cons p ps ih =>
    rw [List.flatMap_cons, replay?_append] at hrun
    obtain ⟨s₂, hpart, hrest⟩ := Option.bind_eq_some_iff.mp hrun
    obtain ⟨s₂', hpart', hmirrors⟩ := h.part sound sound' silent.1 hpart
    have hpast : s.past p = s₂ := by rw [past, hpart, Option.getD_some]
    obtain ⟨s₁', hrest', hend⟩ :=
      ih (sound.replay? hpart) (sound'.replay? hpart') hmirrors (hpast ▸ silent.2) hrest
    refine ⟨s₁', ?_, ?_⟩
    · simp only [Session.woven, hpast]
      rw [replay?_append, hpart', Option.bind_some, hrest']
    · simp only [Session.woven, hpast]
      exact hend

end Session

/-! ## 4. What the runs have in common -/

/-- What is seen of a field that is read, a call or a request. -/
def Entry.dealing? (e : Entry) : Option Seen :=
  match e.seen with
  | .read x => some (.read x)
  | .call c => some (.call c)
  | .request values => some (.request values)
  | _ => none

namespace Recast

variable {σ : Recast} {n : TaskId} {tr tr' : List Entry}

/-- An entry with no counterpart is a remark, or one of a dropped trigger. -/
theorem SameTrace.of_not_own (h : σ.SameTrace tr tr') {e : Entry} (mem : e ∈ tr')
    (other : σ.isOwn e = false) : e.isKnown = false ∨ ∃ x ∈ σ.extras, e ∈ dropped x.1 x.2 := by
  rw [isOwn, Bool.and_eq_false_iff] at other
  refine other.imp id fun hextra => ?_
  obtain ⟨x, hx, hactor⟩ := List.all_eq_false.mp hextra
  refine ⟨x, hx, ?_⟩
  rw [← h.extras x hx]
  exact List.mem_filter.mpr ⟨mem, by simpa using hactor⟩

/-- What remarks and dropped triggers do not show is shown by both traces alike. -/
theorem SameTrace.filterMap {β : Type} (h : σ.SameTrace tr tr') {g g' : Entry → Option β}
    (recast : ∀ e, e.isKnown = true → g' (σ.entry e) = g e)
    (remarks : ∀ e, e.isKnown = false → g e = none ∧ g' e = none)
    (extras : ∀ x ∈ σ.extras, ∀ e ∈ dropped x.1 x.2, g' e = none) :
    tr'.filterMap g' = tr.filterMap g := by
  have hown : tr'.filterMap g' = (tr'.filter σ.isOwn).filterMap g' := by
    rw [List.filterMap_filter]
    refine List.filterMap_congr fun e he => ?_
    cases hother : σ.isOwn e with
    | true => rfl
    | false =>
      rcases h.of_not_own he hother with hremark | ⟨x, hx, hdropped⟩
      · exact (remarks e hremark).2
      · exact extras x hx e hdropped
  have hknown : tr.filterMap g = (tr.filter Entry.isKnown).filterMap g := by
    rw [List.filterMap_filter]
    refine List.filterMap_congr fun e _ => ?_
    cases hremark : e.isKnown with
    | true => rfl
    | false => exact (remarks e hremark).1
  rw [hown, hknown, h.own, List.filterMap_map]
  exact List.filterMap_congr fun e he => recast e (List.mem_filter.mp he).2

theorem dropped_cases {k : TaskId} {t : Trigger} :
    ∀ e ∈ dropped k t, e.seen = .log .triggerIgnored ∨ ∃ o, e.seen = .task k (.done o) := by
  intro e he
  unfold dropped at he
  split at he
  · simp only [List.mem_cons, List.not_mem_nil, or_false] at he
    rcases he with rfl | rfl
    · exact .inl rfl
    · exact .inr ⟨_, rfl⟩
  · obtain rfl := List.mem_singleton.mp he
    exact .inr ⟨_, rfl⟩

theorem dealing?_entry (e : Entry) : (σ.entry e).dealing? = e.dealing? := by
  obtain ⟨actor, seen⟩ := e
  cases seen <;> rfl

theorem Fits.stateOf?_entry (fits : σ.Fits n) (k : TaskId) {e : Entry} (known : e.isKnown = true) :
    (σ.entry e).stateOf? (σ.number k) = (e.stateOf? k).map (σ.state k) := by
  obtain ⟨actor, seen⟩ := e
  cases seen with
  | task j state =>
    have hiff : σ.number j = σ.number k ↔ j = k := fits.mono.injective.eq_iff
    by_cases hj : j = k
    · cases state <;>
        simp [Entry.stateOf?, Seen.stateOf?, Recast.entry, Recast.seen, Recast.state, hj,
          Entry.isKnown] at known ⊢
    · cases state <;>
        simp [Entry.stateOf?, Seen.stateOf?, Recast.entry, Recast.seen, Recast.state, hj, hiff,
          Entry.isKnown] at known ⊢
  | _ => rfl

end Recast

namespace Session

/-- The fields read, the calls made and the requests sent so far, in order. -/
def dealings (s : Session) : List Seen := s.trace.filterMap Entry.dealing?

/-- **What a run and the run with the changes have in common.** The tasks of the one have other
numbers in the other, in the same order, and their outcomes are wrapped as they were asked for;
everything else is the same. Each extra trigger was dropped at once. -/
structure Undisturbed (σ : Recast) (s s' : Session) : Prop where
  panel : s'.panel = s.panel
  overlay : s'.overlay = s.overlay
  flag : s'.inFlight = s.inFlight
  form : s'.form = s.form
  clock : s'.clock = s.clock
  dealings : s'.dealings = s.dealings
  waiting : s'.waiting = s.waiting.map σ.waiting
  fates : ∀ k, s'.fate? (σ.number k) = (s.fate? k).map (σ.state k)
  trace : s'.trace.filter σ.isOwn = (s.trace.filter Entry.isKnown).map σ.entry
  order : StrictMono σ.number
  extras : ∀ x ∈ σ.extras, s'.trace.filter (·.actor == some x.1) = Recast.dropped x.1 x.2

variable {σ : Recast} {s s' : Session}

theorem isKnown_of_dealing {e : Entry} (h : e.isKnown = false) : e.dealing? = none := by
  obtain ⟨actor, seen⟩ := e
  cases seen with
  | task => rfl
  | _ => cases h

theorem isKnown_of_stateOf {e : Entry} (h : e.isKnown = false) (k : TaskId) :
    e.stateOf? k = none := by
  obtain ⟨actor, seen⟩ := e
  cases seen with
  | task j state => cases state <;> first | rfl | cases h
  | _ => cases h

theorem Mirrors.undisturbed (h : Mirrors σ s s') : Undisturbed σ s s' := by
  have same := h.same
  have fits := h.fits
  have dealings : s'.dealings = s.dealings := by
    refine same.filterMap (fun e _ => Recast.dealing?_entry e)
      (fun e he => ⟨isKnown_of_dealing he, isKnown_of_dealing he⟩) fun x _ e he => ?_
    rcases Recast.dropped_cases e he with hseen | ⟨o, hseen⟩ <;> rw [Entry.dealing?, hseen]
  have fates (k : TaskId) : s'.fate? (σ.number k) = (s.fate? k).map (σ.state k) := by
    have hstates : s'.trace.filterMap (Entry.stateOf? (σ.number k)) =
        s.trace.filterMap fun e => (e.stateOf? k).map (σ.state k) := by
      refine same.filterMap (fun e he => fits.stateOf?_entry k he)
        (fun e he => ⟨by rw [isKnown_of_stateOf he]; rfl, isKnown_of_stateOf he _⟩)
        fun x hx e he => ?_
      rcases Recast.dropped_cases e he with hseen | ⟨o, hseen⟩
      · rw [Entry.stateOf?, hseen]
        rfl
      · rw [Entry.stateOf?, hseen]
        exact if_neg ((fits.extras x hx).2 k).symm
    rw [fate?, fate?, hstates, ← List.getLast?_map, List.map_filterMap]
  cases h with
  | mk trace same' fits' =>
    exact ⟨rfl, rfl, rfl, rfl, rfl, dealings, rfl, fates, same.own, fits.mono, same.extras⟩

theorem mirrors_of_isFresh (h : s.IsFresh) : Mirrors {} s s := by
  have hstate : s = s.recast {} [] := by
    rw [h]
    rfl
  have hnone : s.trace = [] := by rw [h]
  have hfirst : s.nextTask = 0 := by rw [h]
  have hmirrors : Mirrors {} s (s.recast {} []) := by
    refine .mk [] ⟨?_, nofun⟩ ⟨strictMono_id, fun _ _ => rfl, fun _ _ => rfl, nofun⟩
    rw [hnone]
    rfl
  rwa [← hstate] at hmirrors

/-- **Dropped triggers disturb nothing.** To any run are added, at any of its points, submissions
while the flag is set and keys that are no shortcut, and any of its submissions are asked for in
another way. The changed run goes through. After every part of the run the two have all in common
but the numbers of the tasks and the wrapping of the outcomes. -/
theorem undisturbed_by_dropped {s₀ s : Session} {ps : List Part} (fresh : s₀.IsFresh)
    (silent : s₀.AllSilent ps) (run : s₀.replay? (ps.flatMap Part.original) = some s) :
    ∀ pre, pre <+: ps → ∃ a a',
      s₀.replay? (pre.flatMap Part.original) = some a ∧
      (s₀.woven {} pre).1 <+: (s₀.woven {} ps).1 ∧
      s₀.replay? (s₀.woven {} pre).1 = some a' ∧
      (s₀.woven {} pre).2.extras.map Prod.snd = pre.filterMap Part.extra? ∧
      Undisturbed (s₀.woven {} pre).2 a a' := by
  rintro pre ⟨post, rfl⟩
  have sound := sound_of_isFresh fresh
  rw [List.flatMap_append, replay?_append] at run
  obtain ⟨a, hpre, -⟩ := Option.bind_eq_some_iff.mp run
  obtain ⟨a', hpre', -, -, hmirrors⟩ :=
    (mirrors_of_isFresh fresh).woven sound sound (allSilent_of_append silent) hpre
  refine ⟨a, a', hpre, ?_, hpre', extras_woven s₀ {} pre, hmirrors.undisturbed⟩
  rw [woven_append]
  exact List.prefix_append _ _

/-- While a submission waits, a second one and a key are dropped. In the other run the first one is
asked for by a click, and has its answer all the same. -/
theorem undisturbed_by_second_submission :
    let s₀ : Session := { form := { template := "x" } }
    let ps : List Part :=
      .instead .submit (.event .executeClicked) :: List.replicate 11 (.own .step) ++
        [.extra .submit, .own (.reply (.answer (.ok { result := some "y" }))),
          .own (.resume ⟨0, .submit, true⟩), .extra (.event (.keyDown ⟨13, false, none⟩))] ++
        List.replicate 7 (.own .step)
    ∃ s s', s₀.replay? (ps.flatMap Part.original) = some s ∧
      s₀.replay? (s₀.woven {} ps).1 = some s' ∧ Undisturbed (s₀.woven {} ps).2 s s' ∧
        s.fate? 0 = some (.done (.submitted (.completed (.success "y")))) ∧
          s'.fate? 0 = some (.done (.handled (some (.completed (.success "y"))))) ∧
            s'.fate? 1 = some (.done (.submitted .ignored)) ∧
              s'.fate? 2 = some (.done (.handled none)) := by
  intro s₀ ps
  have fresh : s₀.IsFresh := rfl
  obtain ⟨s₁, run⟩ : ∃ s, s₀.replay? (ps.flatMap Part.original) = some s :=
    Option.isSome_iff_exists.mp (by decide)
  obtain ⟨s, s', hs, -, hs', -, same⟩ :=
    undisturbed_by_dropped fresh (by decide) run ps (List.prefix_refl ps)
  have hfates : (s₀.replay? (ps.flatMap Part.original)).map (·.fate? 0) =
      some (some (.done (.submitted (.completed (.success "y"))))) := by decide
  have hfates' : (s₀.replay? (s₀.woven {} ps).1).map (fun s => (s.fate? 0, s.fate? 1, s.fate? 2)) =
      some (some (.done (.handled (some (.completed (.success "y"))))),
        some (.done (.submitted .ignored)), some (.done (.handled none))) := by decide
  rw [hs] at hfates
  rw [hs'] at hfates'
  simp only [Option.map_some, Option.some.injEq, Prod.mk.injEq] at hfates hfates'
  exact ⟨s, s', hs, hs', same, hfates, hfates'.1, hfates'.2.1, hfates'.2.2⟩

end Session

end TemplateClient
