import TemplateClient.Proofs.Session.Events
import TemplateClient.Proofs.Session.Flag

/-!
# Drawing over a submission

A submission whose template is blank draws its refusal without the flag. It has tested the flag
once, before it read the template, and goes by that test until the last call. What a collaborator
does in between can overtake it: the form is edited from inside one of the calls, and the next
submission takes the flag. The other path to the panel tests again, as it takes the flag.

* `Session.Makes`, `Session.Holds` -- a call of a task, and the task that holds the flag;
* `Session.Current` -- what a refusal goes by is still the case;
* `draws_holding_or_overtaken` -- who draws while the flag is set;
* `refusal_drawn_over_submission` -- a refusal that has been overtaken.
-/

namespace TemplateClient

/-! ## 1. Calls that draw -/

/-- The call changes what is shown of a result. -/
def Call.isDrawing : Call → Bool
  | .setErrorState _ => true
  | .setContent _ => true
  | .showContainer => true
  | .hideError => true
  | .update => true
  | _ => false

theorem Call.not_isDrawing_of_isSwitch {c : Call} (h : c.isSwitch = true) :
    c.isDrawing = false := by
  cases c <;> first | rfl | cases h

namespace Work

/-- The work reads the fields of a form whose template is not blank, or is about to take the
flag. -/
def isGathering : Work → Bool
  | .gather _ _ => true
  | _ => false

/-- The work draws the refusal of a submission. -/
def isRefusing : Work → Bool
  | .perform _ (some _) => true
  | _ => false

/-- The drawing calls that the work still makes, and that no submission has asked for. -/
def strays : Work → List Call
  | .perform calls none => calls.filter Call.isDrawing
  | _ => []

/-- A drawing call belongs to the answer of a submission, to a refusal, or to no submission. -/
theorem drawing_cases {w : Work} {c : Call} (mem : c ∈ w.calls) (draws : c.isDrawing = true) :
    w.isGuarded = true ∨ w.isRefusing = true ∨ c ∈ w.strays := by
  cases w with
  | hide => exact .inl rfl
  | render => exact .inl rfl
  | perform calls outcome =>
    cases outcome with
    | some outcome => exact .inr (.inl rfl)
    | none => exact .inr (.inr (List.mem_filter.mpr ⟨mem, draws⟩))
  | _ => exact absurd mem List.not_mem_nil

end Work

namespace Session

variable {s s' : Session} {f : Frame} {k : TaskId} {c : Call} {e : Event}

/-- The template of the form is blank. -/
def isBlank (s : Session) : Bool := Text.allBlank s.form.template

theorem isBlank_of_form (h : s'.form = s.form) : s'.isBlank = s.isBlank := by
  rw [isBlank, isBlank, h]

/-- The task makes the call on the way from `s` to `s'`. -/
def Makes (k : TaskId) (c : Call) (s s' : Session) : Prop :=
  ∃ es, s'.trace = s.trace ++ es ∧ (⟨some k, .call c⟩ : Entry) ∈ es

/-- The task has taken the flag, and will clear it. -/
def Holds (k : TaskId) (s : Session) : Prop :=
  (∃ f ∈ s.running, f.actor = some k ∧ f.work.isGuarded = true) ∨
    ∃ w ∈ s.waiting, w.task = k ∧ w.guarded = true

instance (k : TaskId) (s : Session) : Decidable (Holds k s) := inferInstanceAs (Decidable (_ ∨ _))

/-- The frame draws a refusal of the task. -/
def RefusalOf (k : TaskId) (f : Frame) : Prop := f.actor = some k ∧ f.work.isRefusing = true

/-- The task is drawing a refusal. -/
def Refuses (k : TaskId) (s : Session) : Prop := ∃ f ∈ s.running, RefusalOf k f

/-! ## 2. Who makes a call -/

theorem Makes.mem {es : List Entry} (made : Makes k c s s') (h : s'.trace = s.trace ++ es) :
    (⟨some k, .call c⟩ : Entry) ∈ es := by
  obtain ⟨es', h', mem⟩ := made
  rwa [List.append_cancel_left (h.symm.trans h')]

theorem mem_callEntries {actor : Option TaskId} {d : Call}
    (mem : (⟨some k, .call c⟩ : Entry) ∈ s.callEntries actor d) : actor = some k ∧ d = c := by
  rcases List.mem_cons.mp mem with h | h
  · cases h
    exact ⟨rfl, rfl⟩
  · obtain ⟨x, hx, heq⟩ := List.mem_map.mp h
    cases heq
    rcases sideEffects_cases s d _ hx with ⟨_, h⟩ | ⟨_, h⟩ <;> cases h

theorem not_mem_own {seen : List Seen} (own : ∀ x ∈ seen, x.IsOwn f.actor) :
    (⟨some k, .call c⟩ : Entry) ∉ seen.map (Entry.mk f.actor) := by
  intro mem
  obtain ⟨x, hx, heq⟩ := List.mem_map.mp mem
  obtain rfl : x = .call c := congrArg Entry.seen heq
  exact own _ hx

/-- A drawing call is one of those that its frame still had to make. -/
theorem Effect.caller {armed : List (Method × Reaction)} (heff : Effect armed f s s')
    (made : Makes k c s s') (draws : c.isDrawing = true) :
    f.actor = some k ∧ c ∈ f.work.calls := by
  have hswitch (d : Call) (hd : d.isSwitch = true)
      (mem : (⟨some k, .call c⟩ : Entry) ∈ s.callEntries f.actor d) : False := by
    obtain ⟨-, rfl⟩ := mem_callEntries mem
    rw [Call.not_isDrawing_of_isSwitch hd] at draws
    cases draws
  cases heff with
  | proceed seen replies work own => exact absurd (made.mem rfl) (not_mem_own own)
  | call d work mem =>
    obtain ⟨actor, rfl⟩ := mem_callEntries (made.mem rfl)
    exact ⟨actor, mem⟩
  | take => exact (hswitch .block rfl (made.mem rfl)).elim
  | release => exact (hswitch .unblock rfl (made.mem rfl)).elim
  | wait task guarded seen actor work pending =>
    exact absurd (made.mem rfl) (not_mem_own (isOwn_of_pending actor pending))
  | leave seen own => exact absurd (made.mem rfl) (not_mem_own own)

/-! ## 3. What comes from outside -/

/-- The frame neither gathers nor refuses, and draws nothing for a task. -/
structure IsPlain (f : Frame) : Prop where
  gathers : f.work.isGathering = false
  refuses : f.work.isRefusing = false
  strays : ∀ k, f.actor = some k → f.work.strays = []

theorem isPlain_of_nobody (nobody : f.actor = none) (gathers : f.work.isGathering = false)
    (refuses : f.work.isRefusing = false) : IsPlain f :=
  ⟨gathers, refuses, fun k actor => absurd (actor.symm.trans nobody) (Option.some_ne_none k)⟩

theorem isPlain_start (s : Session) (t : Trigger) :
    IsPlain ⟨some s.nextTask, true, viaOf t, true, s.workOf t⟩ := by
  unfold workOf
  split
  · exact ⟨rfl, rfl, fun _ _ => rfl⟩
  · exact ⟨rfl, rfl, fun _ _ => rfl⟩
  · exact ⟨rfl, rfl, fun _ _ => rfl⟩
  · split <;> exact ⟨rfl, rfl, fun _ _ => rfl⟩

/-- What an event other than a step may do: it makes no calls for a task and leaves the flag, only
an edit touches the form, and a frame that it starts has done nothing yet. -/
structure Intervenes (e : Event) (s s' : Session) : Prop where
  flag : s'.inFlight = s.inFlight
  form : s'.form = s.form ∨ e = .edit s'.form
  trace : ∃ es, s'.trace = s.trace ++ es ∧ ∀ x ∈ es, x.actor = none
  running : s'.running = s.running ∨ ∃ f, IsPlain f ∧ s'.running = f :: s.running

theorem intervenes_runTimer (change : Overlay → Overlay × Bool) (e : Event) (s : Session) :
    Intervenes e s (s.runTimer change) := by
  unfold Session.runTimer
  dsimp only
  split
  · exact ⟨rfl, .inl rfl, ⟨_, rfl, fun x hx => by rw [List.mem_singleton.mp hx]⟩, .inl rfl⟩
  · exact ⟨rfl, .inl rfl, ⟨[], (List.append_nil _).symm, nofun⟩, .inl rfl⟩

theorem intervenes_abandon (task : TaskId) (e : Event) (s : Session) :
    Intervenes e s (s.abandon task) := by
  have hnote (x : Seen) : ∀ y ∈ [(⟨none, x⟩ : Entry)], y.actor = none :=
    fun y hy => by rw [List.mem_singleton.mp hy]
  unfold Session.abandon
  split
  · exact ⟨rfl, .inl rfl, ⟨_, rfl, hnote _⟩, .inl rfl⟩
  · dsimp only
    split
    · exact ⟨rfl, .inl rfl, ⟨_, rfl, hnote _⟩, .inr ⟨_, ⟨rfl, rfl, fun _ _ => rfl⟩, rfl⟩⟩
    · exact ⟨rfl, .inl rfl, ⟨_, rfl, hnote _⟩, .inl rfl⟩

theorem intervenes_of_after? (hafter : s.after? e = some s') : e = .step ∨ Intervenes e s s' := by
  have hnone : ∃ es, s.trace = s.trace ++ es ∧ ∀ x ∈ es, x.actor = none :=
    ⟨[], (List.append_nil _).symm, List.forall_mem_nil _⟩
  cases e with
  | step => exact .inl rfl
  | resume w =>
    rw [after?] at hafter
    split at hafter
    · obtain rfl := Option.some.inj hafter
      exact .inr ⟨rfl, .inl rfl, hnone, .inr ⟨_, ⟨rfl, rfl, fun _ _ => rfl⟩, rfl⟩⟩
    · cases hafter
  | edit form =>
    obtain rfl := Option.some.inj hafter
    exact .inr ⟨rfl, .inr rfl, hnone, .inl rfl⟩
  | trigger t =>
    obtain rfl := Option.some.inj hafter
    exact .inr ⟨rfl, .inl rfl, hnone, .inr ⟨_, isPlain_start s t, rfl⟩⟩
  | execute values =>
    obtain rfl := Option.some.inj hafter
    exact .inr ⟨rfl, .inl rfl, hnone, .inr ⟨_, ⟨rfl, rfl, fun _ _ => rfl⟩, rfl⟩⟩
  | address calls =>
    obtain rfl := Option.some.inj hafter
    exact .inr ⟨rfl, .inl rfl, hnone, .inr ⟨_, isPlain_of_nobody rfl rfl rfl, rfl⟩⟩
  | abandon task => exact .inr (Option.some.inj hafter ▸ intervenes_abandon task _ s)
  | wake => exact .inr (Option.some.inj hafter ▸ intervenes_runTimer _ _ s)
  | tick => exact .inr (Option.some.inj hafter ▸ intervenes_runTimer _ _ s)
  | _ => exact .inr (Option.some.inj hafter ▸ ⟨rfl, .inl rfl, hnone, .inl rfl⟩)

/-- **A task that draws has the innermost frame.** -/
theorem caller_of_makes (sound : s.Sound) (hafter : s.after? e = some s') (made : Makes k c s s')
    (draws : c.isDrawing = true) : ∃ f ∈ s.running, f.actor = some k ∧ c ∈ f.work.calls := by
  rcases intervenes_of_after? hafter with rfl | hout
  · obtain ⟨f, running, hr, -, hooks, -, s₁, heff, hcase⟩ := sound.stepsTo hafter
    have hmade : Makes k c { s with running, hooks } s₁ := by
      obtain ⟨es, htrace, mem⟩ := made
      refine ⟨es, ?_, mem⟩
      rcases hcase with heq | ⟨_, t, _, _, heq⟩
      · rw [← htrace, heq]
      · rw [← htrace, heq]
        rfl
    exact ⟨f, hr ▸ List.mem_cons_self, heff.caller hmade draws⟩
  · obtain ⟨es, htrace, hactor⟩ := hout.trace
    exact absurd (hactor _ (made.mem htrace)) nofun

/-! ## 4. What a step leads to -/

/-- The frame `f` may go on with the work, as far as refusals are concerned: the flag and the
template are looked at when it begins. -/
structure Goes (f : Frame) (s : Session) (work : Work) : Prop where
  gathers : work.isGathering = true → f.work.isGathering = true ∨ s.isBlank = false
  refuses : work.isRefusing = true →
    f.work.isRefusing = true ∨ (f.work = .begin ∧ s.inFlight = false ∧ s.isBlank = true)
  strays : ∀ d ∈ work.strays, d ∈ f.work.strays

/-- What the step of a frame `f` makes of a session that no longer holds the frame: only a frame
that has gathered the fields takes the flag. -/
structure Onward (f : Frame) (s s' : Session) : Prop where
  flag : s'.inFlight = true → s.inFlight = true ∨ f.work.isGathering = true
  form : s'.form = s.form
  running : s'.running = s.running ∨
    ∃ work, Goes f s work ∧ s'.running = { f with work } :: s.running

/-- A step, and then perhaps a frame that a reaction starts. -/
def GoesOn (f : Frame) (s s' : Session) : Prop :=
  ∃ s₁, Onward f s s₁ ∧ (s' = s₁ ∨ ∃ t, s' = s₁.start t)

theorem goes_of_plain {work : Work} (gathers : work.isGathering = false)
    (refuses : work.isRefusing = false) (strays : work.strays = []) : Goes f s work where
  gathers h := absurd (gathers.symm.trans h) Bool.false_ne_true
  refuses h := absurd (refuses.symm.trans h) Bool.false_ne_true
  strays _ hd := absurd (strays ▸ hd) List.not_mem_nil

theorem goes_gather {fields : List FormField} {values : FormValues}
    (h : f.work.isGathering = true ∨ s.isBlank = false) : Goes f s (.gather fields values) :=
  ⟨fun _ => h, nofun, nofun⟩

theorem goes_refuse {calls : List Call} {outcome : SubmitOutcome}
    (h : f.work.isRefusing = true ∨ (f.work = .begin ∧ s.inFlight = false ∧ s.isBlank = true)) :
    Goes f s (.perform calls (some outcome)) :=
  ⟨nofun, fun _ => h, nofun⟩

theorem goes_afterPanic (guarded : Bool) (message : String) :
    Goes f s (afterPanic guarded message) := by
  cases guarded <;> exact goes_of_plain rfl rfl rfl

theorem Goes.onward {b : Session} {work : Work} (goes : Goes f s work)
    (running : b.running = s.running) (form : b.form = s.form)
    (flag : b.inFlight = true → s.inFlight = true ∨ f.work.isGathering = true) :
    Onward f s (b.enter { f with work }) :=
  ⟨flag, form, .inr ⟨work, goes, (List.cons_inj_right _).mpr running⟩⟩

/-- However a collaborator reacts, the frame goes on as planned or panics. -/
theorem Goes.react {b : Session} {next : Work} (goes : Goes f s next) (m : Method)
    (running : b.running = s.running) (form : b.form = s.form)
    (flag : b.inFlight = true → s.inFlight = true ∨ f.work.isGathering = true) :
    GoesOn f s (b.react m f next) := by
  obtain ⟨hooks, -, heq | ⟨t, -, -, heq⟩ | ⟨message, -, heq⟩⟩ := react_cases m f next b
  · exact ⟨_, goes.onward (b := { b with hooks }) running form flag, .inl heq⟩
  · exact ⟨_, goes.onward (b := { b with hooks }) running form flag, .inr ⟨t, heq⟩⟩
  · have panics := goes_afterPanic (f := f) (s := s) (f.work.isGuarded && next.isGuarded) message
    exact ⟨_, panics.onward (b := { b with hooks }) running form flag, .inl heq⟩

theorem Goes.enter {s₁ : Session} {work : Work} (goes : Goes f s work)
    (running : s₁.running = s.running) (form : s₁.form = s.form)
    (flag : s₁.inFlight = true → s.inFlight = true) : GoesOn f s (s₁.enter { f with work }) :=
  ⟨_, goes.onward running form fun h => .inl (flag h), .inl rfl⟩

theorem GoesOn.leave {s₁ : Session} (running : s₁.running = s.running) (form : s₁.form = s.form)
    (flag : s₁.inFlight = s.inFlight) : GoesOn f s s₁ :=
  ⟨s₁, ⟨fun h => .inl (flag ▸ h), form, .inl running⟩, .inl rfl⟩

/-- **What a step leads to**, by the cases of the work. -/
theorem goesOn_stepFrame (f : Frame) (s : Session) : GoesOn f s (s.stepFrame f) := by
  unfold stepFrame
  split
  next h =>
    split
    · exact (goes_of_plain rfl rfl rfl).enter rfl rfl id
    · next free =>
      split
      · next blank =>
        exact (goes_refuse (.inr ⟨h, Bool.eq_false_iff.mpr free, blank⟩)).react _ rfl rfl .inl
      · next written =>
        exact (goes_gather (.inr (Bool.eq_false_iff.mpr written))).react _ rfl rfl .inl
  next x xs values h =>
    have gathers : f.work.isGathering = true := by rw [h]; rfl
    split
    · exact (goes_gather (.inl gathers)).enter rfl rfl id
    · exact (goes_gather (.inl gathers)).react _ rfl rfl .inl
  next values h =>
    split
    · exact (goes_of_plain rfl rfl rfl).enter rfl rfl id
    · exact (goes_of_plain rfl rfl rfl).react _ rfl rfl fun _ => .inr (by rw [h]; rfl)
  next request h => exact (goes_of_plain rfl rfl rfl).react _ rfl rfl .inl
  next guarded request h => exact (goes_of_plain rfl rfl rfl).enter rfl rfl id
  next guarded h =>
    split
    · split
      · dsimp only
        split <;> exact .leave rfl rfl rfl
      · exact .leave rfl rfl rfl
    · exact (goes_afterPanic _ _).enter rfl rfl id
    · dsimp only
      split <;> exact (goes_of_plain rfl rfl rfl).enter rfl rfl id
  next c cs result h => exact (goes_of_plain rfl rfl rfl).react _ rfl rfl .inl
  next result h => exact (goes_of_plain rfl rfl rfl).react _ rfl rfl nofun
  next message h => exact (goes_of_plain rfl rfl rfl).enter rfl rfl nofun
  next h => exact (goes_of_plain rfl rfl rfl).react _ rfl rfl nofun
  next c cs outcome h =>
    refine Goes.react ?_ _ rfl rfl .inl
    cases outcome with
    | some outcome => exact goes_refuse (.inl (by rw [h]; rfl))
    | none =>
      refine ⟨nofun, nofun, fun d hd => ?_⟩
      obtain ⟨mem, draws⟩ := List.mem_filter.mp hd
      rw [h]
      exact List.mem_filter.mpr ⟨List.mem_cons_of_mem c mem, draws⟩
  next outcome h => exact (goes_of_plain rfl rfl rfl).enter rfl rfl id
  next outcome h => exact .leave rfl rfl rfl
  next result h => exact .leave rfl rfl rfl
  next message h => exact .leave rfl rfl rfl

/-! ## 5. What a refusal goes by -/

/-- No frame of a task is left to draw what no submission has asked for. -/
def Tidy (s : Session) : Prop := ∀ f ∈ s.running, ∀ k, f.actor = some k → f.work.strays = []

/-- What the refusal of a task goes by is still the case: the flag is clear, the template is blank,
and no frame further in is about to take the flag. -/
structure Current (k : TaskId) (s : Session) : Prop where
  standing : ∀ f ∈ s.running, RefusalOf k f → s.inFlight = false ∧ s.isBlank = true
  inner : s.running.Pairwise fun inner outer => RefusalOf k outer → inner.work.isGathering = false

theorem not_isGathering_of_isRefusing {w : Work} (h : w.isRefusing = true) :
    w.isGathering = false := by
  cases w <;> first | rfl | cases h

/-- A frame that goes on keeps to what the refusals go by. -/
theorem Current.onward (h : Current k { s with running := f :: s.running }) (on : Onward f s s') :
    Current k s' := by
  have hinner := List.pairwise_cons.mp h.inner
  have hblank : s'.isBlank = s.isBlank := isBlank_of_form on.form
  have stays (free : s.inFlight = false) (blank : s.isBlank = true)
      (idle : f.work.isGathering = false) : s'.inFlight = false ∧ s'.isBlank = true := by
    refine ⟨Bool.eq_false_iff.mpr fun set => ?_, hblank.trans blank⟩
    rcases on.flag set with hset | hset
    · exact Bool.false_ne_true (free.symm.trans hset)
    · exact Bool.false_ne_true (idle.symm.trans hset)
  have hrest : ∀ g ∈ s.running, RefusalOf k g → s'.inFlight = false ∧ s'.isBlank = true := by
    intro g hg refusal
    obtain ⟨free, blank⟩ := h.standing g (List.mem_cons_of_mem f hg) refusal
    exact stays free blank (hinner.1 g hg refusal)
  rcases on.running with running | ⟨work, goes, running⟩
  · exact ⟨running ▸ hrest, running ▸ hinner.2⟩
  · refine ⟨?_, ?_⟩
    · rw [running]
      intro g hg refusal
      rcases List.mem_cons.mp hg with rfl | hg
      · rcases goes.refuses refusal.2 with hrefuses | ⟨hbegin, free, blank⟩
        · have hf : RefusalOf k f := ⟨refusal.1, hrefuses⟩
          obtain ⟨free, blank⟩ := h.standing f List.mem_cons_self hf
          exact stays free blank (not_isGathering_of_isRefusing hrefuses)
        · exact stays free blank (by rw [hbegin]; rfl)
      · exact hrest g hg refusal
    · rw [running]
      refine List.pairwise_cons.mpr ⟨fun g hg refusal => ?_, hinner.2⟩
      have blank := (h.standing g (List.mem_cons_of_mem f hg) refusal).2
      refine Bool.eq_false_iff.mpr fun gathers => ?_
      rcases goes.gathers gathers with hgathers | hblank'
      · exact Bool.false_ne_true ((hinner.1 g hg refusal).symm.trans hgathers)
      · exact Bool.false_ne_true (hblank'.symm.trans blank)

/-- A frame that has done nothing yet changes nothing about the refusals. -/
theorem Current.plain (h : Current k s) (plain : IsPlain f) (running : s'.running = f :: s.running)
    (flag : s'.inFlight = s.inFlight) (blank : s.Refuses k → s'.isBlank = true) :
    Current k s' where
  standing := by
    rw [running, flag]
    intro g hg refusal
    rcases List.mem_cons.mp hg with rfl | hg
    · exact absurd (plain.refuses.symm.trans refusal.2) Bool.false_ne_true
    · exact ⟨(h.standing g hg refusal).1, blank ⟨g, hg, refusal⟩⟩
  inner := by
    rw [running]
    exact List.pairwise_cons.mpr ⟨fun _ _ _ => plain.gathers, h.inner⟩

theorem Current.step (h : Current k s) (hstep : s.step? = some s') : Current k s' := by
  obtain ⟨f, running, hr, rfl⟩ := step?_eq_some hstep
  have hframe : Current k { s with running := f :: running } := hr ▸ ⟨h.standing, h.inner⟩
  obtain ⟨s₁, on, hcase⟩ := goesOn_stepFrame f { s with running }
  have h₁ : Current k s₁ := Current.onward (s := { s with running }) hframe on
  rcases hcase with heq | ⟨t, heq⟩
  · rw [heq]
    exact h₁
  · rw [heq]
    exact h₁.plain (isPlain_start s₁ t) rfl rfl fun ⟨g, hg, refusal⟩ => (h₁.standing g hg refusal).2

/-- What comes from outside leaves a refusal as it is, as long as the template stays blank. -/
theorem Current.intervenes (h : Current k s) (hout : Intervenes e s s')
    (blank : s.Refuses k → s'.isBlank = true) : Current k s' := by
  rcases hout.running with running | ⟨f, plain, running⟩
  · refine ⟨?_, running ▸ h.inner⟩
    rw [running, hout.flag]
    exact fun g hg refusal => ⟨(h.standing g hg refusal).1, blank ⟨g, hg, refusal⟩⟩
  · exact h.plain plain running hout.flag blank

theorem Tidy.plain (h : s.Tidy) (plain : IsPlain f) (running : s'.running = f :: s.running) :
    s'.Tidy := by
  unfold Tidy
  rw [running]
  intro g hg
  rcases List.mem_cons.mp hg with rfl | hg
  · exact plain.strays
  · exact h g hg

theorem Tidy.step (h : s.Tidy) (hstep : s.step? = some s') : s'.Tidy := by
  obtain ⟨f, running, hr, rfl⟩ := step?_eq_some hstep
  obtain ⟨s₁, on, hcase⟩ := goesOn_stepFrame f { s with running }
  have h₁ : s₁.Tidy := by
    unfold Tidy
    rcases on.running with heq | ⟨work, goes, heq⟩
    · rw [heq]
      exact fun g hg => h g (hr ▸ List.mem_cons_of_mem f hg)
    · rw [heq]
      intro g hg k hk
      rcases List.mem_cons.mp hg with rfl | hg
      · have hnone := h f (hr ▸ List.mem_cons_self) k hk
        exact List.eq_nil_iff_forall_not_mem.mpr fun d hd =>
          absurd (hnone ▸ goes.strays d hd) List.not_mem_nil
      · exact h g (hr ▸ List.mem_cons_of_mem f hg) k hk
  rcases hcase with heq | ⟨t, heq⟩
  · rw [heq]
    exact h₁
  · rw [heq]
    exact h₁.plain (isPlain_start s₁ t) rfl

theorem Tidy.after? (h : s.Tidy) (hafter : s.after? e = some s') : s'.Tidy := by
  rcases intervenes_of_after? hafter with rfl | hout
  · exact h.step hafter
  · rcases hout.running with running | ⟨f, plain, running⟩
    · unfold Tidy
      rw [running]
      exact h
    · exact h.plain plain running

/-- **Only an edit changes what a refusal goes by**: the template is blank no longer. -/
theorem Current.after? (h : Current k s) (hafter : s.after? e = some s') :
    Current k s' ∨ ∃ form, e = .edit form ∧ Text.allBlank form.template = false ∧
      s.Refuses k ∧ s.inFlight = false ∧ s.isBlank = true := by
  rcases intervenes_of_after? hafter with rfl | hout
  · exact .inl (h.step hafter)
  · by_cases hblank : s.Refuses k → s'.isBlank = true
    · exact .inl (h.intervenes hout hblank)
    · obtain ⟨hrefuses, written⟩ := Classical.not_imp.mp hblank
      obtain ⟨g, hg, refusal⟩ := hrefuses
      obtain ⟨free, blank⟩ := h.standing g hg refusal
      rcases hout.form with form | hedit
      · exact absurd ((isBlank_of_form form).trans blank) written
      · exact .inr ⟨_, hedit, Bool.eq_false_iff.mpr written, ⟨g, hg, refusal⟩, free, blank⟩

/-! ## 6. Who draws while the flag is set -/

/-- In the run `es` from `s` a refusal of the task was overtaken: while it was drawn, with the flag
still clear, the blank template was replaced by one that is not blank. -/
def Overtaken (k : TaskId) (s : Session) (es : List Event) : Prop :=
  ∃ before form after a, es = before ++ .edit form :: after ∧ s.replay? before = some a ∧
    Text.allBlank form.template = false ∧ a.Refuses k ∧ a.inFlight = false ∧ a.isBlank = true

theorem Overtaken.cons {s₁ : Session} {es : List Event} (hafter : s.after? e = some s₁)
    (h : Overtaken k s₁ es) : Overtaken k s (e :: es) := by
  obtain ⟨before, form, after, a, rfl, hbefore, hform, hrefuses⟩ := h
  refine ⟨e :: before, form, after, a, rfl, ?_, hform, hrefuses⟩
  rw [replay?, hafter]
  exact hbefore

theorem Current.replay? {es : List Event} (h : Current k s) (run : s.replay? es = some s') :
    Current k s' ∨ Overtaken k s es := by
  induction es generalizing s with
  | nil => exact .inl (Option.some.inj run ▸ h)
  | cons e es ih =>
    obtain ⟨s₁, hafter, hrest⟩ := Option.bind_eq_some_iff.mp run
    rcases h.after? hafter with h₁ | ⟨form, rfl, hform, hrefuses⟩
    · exact (ih h₁ hrest).imp id (·.cons hafter)
    · exact .inr ⟨[], form, es, s, rfl, rfl, hform, hrefuses⟩

theorem Tidy.replay? {es : List Event} (h : s.Tidy) (run : s.replay? es = some s') : s'.Tidy := by
  induction es generalizing s with
  | nil => exact Option.some.inj run ▸ h
  | cons e es ih =>
    obtain ⟨s₁, hafter, hrest⟩ := Option.bind_eq_some_iff.mp run
    exact ih (h.after? hafter) hrest

variable {s₀ : Session} {es : List Event}

theorem current_of_isFresh (fresh : s₀.IsFresh) : Current k s₀ := by
  have hrunning : s₀.running = [] := by rw [fresh]
  exact ⟨by simp [hrunning], by simp [hrunning]⟩

theorem tidy_of_isFresh (fresh : s₀.IsFresh) : s₀.Tidy := by
  have hrunning : s₀.running = [] := by rw [fresh]
  simp [Tidy, hrunning]

/-- A task draws with the flag in its hands, or draws a refusal. -/
theorem holds_or_refuses (fresh : s₀.IsFresh) (run : s₀.replay? es = some s)
    (hafter : s.after? e = some s') (made : Makes k c s s') (draws : c.isDrawing = true) :
    s.Holds k ∨ s.Refuses k := by
  have tidy : s.Tidy := (tidy_of_isFresh fresh).replay? run
  obtain ⟨f, hf, actor, mem⟩ :=
    caller_of_makes ((sound_of_isFresh fresh).replay? run) hafter made draws
  rcases Work.drawing_cases mem draws with guarded | refuses | stray
  · exact .inl (.inl ⟨f, hf, actor, guarded⟩)
  · exact .inr ⟨f, hf, actor, refuses⟩
  · exact absurd (tidy f hf k actor ▸ stray) List.not_mem_nil

/-- A refusal that is drawn while the flag is set has been overtaken. -/
theorem overtaken_of_set (fresh : s₀.IsFresh) (run : s₀.replay? es = some s)
    (refuses : s.Refuses k) (set : s.inFlight = true) : Overtaken k s₀ es := by
  refine ((current_of_isFresh fresh).replay? run).resolve_left fun current => ?_
  obtain ⟨f, hf, refusal⟩ := refuses
  exact Bool.false_ne_true ((current.standing f hf refusal).1.symm.trans set)

/-- **Who draws while the flag is set**, at any point of any run, whatever collaborators start and
edit from inside: the task that holds the flag, or a task that draws the refusal of a blank template
and has been overtaken. -/
theorem draws_holding_or_overtaken (fresh : s₀.IsFresh) (run : s₀.replay? es = some s)
    (hafter : s.after? e = some s') (made : Makes k c s s') (draws : c.isDrawing = true)
    (set : s.inFlight = true) : s.Holds k ∨ (s.Refuses k ∧ Overtaken k s₀ es) :=
  (holds_or_refuses fresh run hafter made draws).imp id fun refuses =>
    ⟨refuses, overtaken_of_set fresh run refuses set⟩

/-- The getter of a blank template writes another one and starts a submission, which takes the flag
and waits. The first submission goes on with its refusal, and draws all of it while the second one
holds the flag. -/
theorem refusal_drawn_over_submission :
    let s₀ : Session := { form := { template := " " } }
    let es : List Event := [.trigger .submit, .step, .edit { template := "x" }, .trigger .submit] ++
      List.replicate 11 .step
    ∃ s, s₀.replay? es = some s ∧ s.Holds 1 ∧ s.Refuses 0 ∧ Overtaken 0 s₀ es ∧
      (s.replay? (List.replicate 4 .step)).map (fun s' => (s'.inFlight, s'.deeds 0)) =
        some (true, s.deeds 0 ++ (showCalls emptyTemplate true).map .call) := by
  intro s₀ es
  have fresh : s₀.IsFresh := rfl
  let drawnOver (s : Session) : Bool := s.inFlight = true ∧ s.Holds 1 ∧ ¬ s.Holds 0 ∧
    (s.after? .step).map (·.trace) = some (s.trace ++ [⟨some 0, .call (.setErrorState true)⟩]) ∧
    (s.replay? (List.replicate 4 .step)).map (fun s' => (s'.inFlight, s'.deeds 0)) =
      some (true, s.deeds 0 ++ (showCalls emptyTemplate true).map .call)
  have hrun : (s₀.replay? es).any drawnOver = true := by decide
  cases run : s₀.replay? es with
  | none =>
    rw [run] at hrun
    cases hrun
  | some s =>
    rw [run] at hrun
    obtain ⟨set, holds, free, hstep, hdrawn⟩ := of_decide_eq_true hrun
    obtain ⟨s', hafter, htrace⟩ := Option.map_eq_some_iff.mp hstep
    have made : Makes 0 (.setErrorState true) s s' := ⟨_, htrace, List.mem_singleton_self _⟩
    obtain ⟨refuses, overtaken⟩ :=
      (draws_holding_or_overtaken fresh run hafter made rfl set).resolve_left free
    exact ⟨s, rfl, holds, refuses, overtaken, hdrawn⟩

end Session

end TemplateClient
