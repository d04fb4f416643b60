import TemplateClient.Proofs.Session.Trace

/-!
# What a step can do

A step takes up the innermost frame and does one of six things. Whatever else a step touches, it
leaves the form, the clock and the settings of the session alone.

* `react_cases` -- how a collaborator reacts: not at all, by starting work, or by panicking;
* `Effect` -- the six things;
* `stepFrame_stepsTo` -- every step is one of them, and may start a frame on top of it;
* `bound_stepFrame_lt` -- every step lowers the bound, so steps run out.
-/

namespace TemplateClient

/-! ## 1. Calls, work and frames -/

/-- The call blocks or unblocks the page. -/
def Call.isSwitch : Call → Bool
  | .block => true
  | .unblock => true
  | _ => false

/-- The calls that the work still makes, the switches of a guard apart. -/
def Work.calls : Work → List Call
  | .hide _ => [.hideError]
  | .render calls _ => calls
  | .perform calls _ => calls
  | _ => []

/-- What a frame may add to the trace beside its calls: no state of a task but its own. -/
def Seen.IsOwn (actor : Option TaskId) : Seen → Prop
  | .call _ => False
  | .task k _ => actor = some k
  | _ => True

/-- The work can be done by a frame that is not a task's. -/
def Work.isSide : Work → Bool
  | .perform _ none => true
  | .abandon => true
  | .finished none => true
  | .panicked _ => true
  | _ => false

/-- The frame of a task knows the task, and any other frame has work for such a frame. -/
def Frame.Sound (f : Frame) : Prop :=
  (f.isTask = true ∧ f.actor.isSome = true) ∨ (f.isTask = false ∧ f.work.isSide = true)

theorem Frame.Sound.isTask {f : Frame} (h : f.Sound) (hw : f.work.isSide = false) :
    f.isTask = true ∧ f.actor.isSome = true := by
  rcases h with h | ⟨_, hs⟩
  · exact h
  · rw [hw] at hs
    cases hs

theorem Frame.Sound.goOn {f : Frame} {next : Work} (h : f.Sound)
    (side : f.work.isSide = true → next.isSide = true) : Frame.Sound { f with work := next } := by
  rcases h with h | ⟨ht, hs⟩
  · exact .inl h
  · exact .inr ⟨ht, side hs⟩

theorem showCalls_isSwitch {text : String} {isError : Bool} :
    ∀ c ∈ showCalls text isError, c.isSwitch = false := by
  simp [showCalls, Call.isSwitch]

/-- The work `next` may follow the work `w` in one frame while the guard stays where it is. -/
structure Work.Leads (w next : Work) : Prop where
  guarded : next.isGuarded = w.isGuarded
  calls : ∀ c ∈ next.calls, c ∈ w.calls ∨ c.isSwitch = false
  side : w.isSide = true → next.isSide = true
  lighter : Session.weight next < Session.weight w

/-- A task may go on with any lighter work that makes no switches by itself. -/
theorem Work.Leads.of_task {w next : Work} (task : w.isSide = false)
    (hg : next.isGuarded = w.isGuarded) (hc : ∀ c ∈ next.calls, c.isSwitch = false)
    (hl : Session.weight next < Session.weight w) : w.Leads next where
  guarded := hg
  calls := fun c hc' => .inr (hc c hc')
  side := fun h => by rw [task] at h; cases h
  lighter := hl

namespace Session

/-! ## 2. Reactions -/

theorem reaction?_mem {m : Method} {r : Reaction} {s : Session} (h : s.reaction? m = some r) :
    (m, r) ∈ s.hooks := by
  obtain ⟨⟨m', r'⟩, hfind, rfl⟩ := Option.map_eq_some_iff.mp h
  have hm : m' = m := by simpa using List.find?_some hfind
  subst hm
  exact List.mem_of_find?_eq_some hfind

/-- A reaction that has been taken up is not waiting any more. -/
theorem length_disarm {m : Method} {r : Reaction} {s : Session} (h : s.reaction? m = some r) :
    (s.disarm m).hooks.length < s.hooks.length :=
  List.length_filter_lt_length_iff_exists.mpr ⟨(m, r), reaction?_mem h, by simp⟩

/-- **The end of a call**: the frame goes on as planned, or it goes on and the collaborator starts
work, or the collaborator panics. -/
theorem react_cases (m : Method) (f : Frame) (next : Work) (s : Session) :
    ∃ hooks : List (Method × Reaction), hooks.Sublist s.hooks ∧
      (s.react m f next = { s with hooks }.enter { f with work := next } ∨
        (∃ t, (m, .start t) ∈ s.hooks ∧ hooks.length < s.hooks.length ∧
          s.react m f next = ({ s with hooks }.enter { f with work := next }).start t) ∨
        ∃ message, (m, .panic message) ∈ s.hooks ∧
          s.react m f next = { s with hooks }.enter
            { f with work := afterPanic (f.work.isGuarded && next.isGuarded) message }) := by
  unfold react
  split
  · exact ⟨s.hooks, .refl _, .inl rfl⟩
  · rename_i t h
    exact ⟨(s.disarm m).hooks, List.filter_sublist,
      .inr (.inl ⟨t, reaction?_mem h, length_disarm h, rfl⟩)⟩
  · rename_i message h
    exact ⟨(s.disarm m).hooks, List.filter_sublist,
      .inr (.inr ⟨message, reaction?_mem h, rfl⟩)⟩

/-! ## 3. The six effects -/

/-- What the step of a frame `f` makes of a session `s` that no longer holds the frame. The
reactions in `armed` were waiting before. -/
inductive Effect (armed : List (Method × Reaction)) (f : Frame) (s : Session) : Session → Prop where
  /-- The frame goes on without a call. -/
  | proceed (seen : List Seen) (replies : List Reply) (work : Work)
      (own : ∀ x ∈ seen, x.IsOwn f.actor)
      (left : replies.Sublist s.replies)
      (leads : f.work.Leads work) :
      Effect armed f s
        ({ s with replies, trace := s.trace ++ seen.map (Entry.mk f.actor) }.enter { f with work })
  /-- The frame makes one of its calls and goes on. -/
  | call (c : Call) (work : Work)
      (mem : c ∈ f.work.calls)
      (leads : f.work.Leads work) :
      Effect armed f s ((s.act f.actor c).enter { f with work })
  /-- The frame takes the flag and blocks the page, and from then on holds the guard unless the
  page panics. -/
  | take (work : Work)
      (free : s.inFlight = false)
      (unguarded : f.work.isGuarded = false)
      (holds : work.isGuarded = true ∨
        ∃ message, (.block, .panic message) ∈ armed ∧ work = .panicked message)
      (calls : ∀ c ∈ work.calls, c.isSwitch = false)
      (task : f.work.isSide = false)
      (lighter : weight work < weight f.work) :
      Effect armed f s (({ s with inFlight := true }.act f.actor .block).enter { f with work })
  /-- The frame drops its guard: it clears the flag and unblocks the page. -/
  | release (work : Work)
      (guarded : f.work.isGuarded = true)
      (unguarded : work.isGuarded = false)
      (calls : work.calls = [])
      (side : f.work.isSide = true → work.isSide = true)
      (lighter : weight work < weight f.work) :
      Effect armed f s (({ s with inFlight := false }.act f.actor .unblock).enter { f with work })
  /-- The task of the frame waits. -/
  | wait (task : TaskId) (guarded : Bool) (seen : List Seen)
      (actor : f.actor = some task)
      (work : f.work = .await guarded)
      (pending : seen = if f.fresh then [.task task .pending] else []) :
      Effect armed f s
        { s with
          waiting := insertWaiting ⟨task, f.via, guarded⟩ s.waiting
          trace := s.trace ++ seen.map (Entry.mk f.actor) }
  /-- The frame has ended. -/
  | leave (seen : List Seen)
      (own : ∀ x ∈ seen, x.IsOwn f.actor)
      (unguarded : f.work.isGuarded = false) :
      Effect armed f s { s with trace := s.trace ++ seen.map (Entry.mk f.actor) }

/-- `s'` is what the step of `f` makes of `s`: one of the six effects, and then perhaps a frame that
a reaction starts. -/
def StepsTo (f : Frame) (s s' : Session) : Prop :=
  ∃ hooks : List (Method × Reaction), hooks.Sublist s.hooks ∧
    ∃ s₁, Effect s.hooks f { s with hooks } s₁ ∧
      (s' = s₁ ∨ ∃ m t, (m, Reaction.start t) ∈ s.hooks ∧ hooks.length < s.hooks.length ∧
        s' = s₁.start t)

/-- What is seen of a task that begins to wait is its own. -/
theorem isOwn_of_pending {f : Frame} {task : TaskId} {seen : List Seen}
    (actor : f.actor = some task) (pending : seen = if f.fresh then [.task task .pending] else []) :
    ∀ x ∈ seen, x.IsOwn f.actor := by
  rw [pending]
  split
  · intro x hx
    rw [List.mem_singleton.mp hx]
    exact actor
  · exact fun x hx => absurd hx List.not_mem_nil

/-! ## 4. Every step has one of the six effects -/

section Steps

variable {f : Frame} {s : Session}

theorem weight_pos (w : Work) : 0 < weight w := by
  cases w <;> simp [weight]

theorem afterPanic_isGuarded (guarded : Bool) (message : String) :
    (afterPanic guarded message).isGuarded = guarded := by
  cases guarded <;> rfl

theorem afterPanic_calls (guarded : Bool) (message : String) :
    (afterPanic guarded message).calls = [] := by
  cases guarded <;> rfl

theorem weight_afterPanic_le (guarded : Bool) (next : Work) (message : String) :
    weight (afterPanic (guarded && next.isGuarded) message) ≤ weight next := by
  cases h : guarded && next.isGuarded with
  | false => exact weight_pos next
  | true =>
    have hg : next.isGuarded = true := (Bool.and_eq_true_iff.mp h).2
    cases next <;> simp_all [Work.isGuarded, weight, afterPanic]

/-- A panic may follow where the planned work may, if the frame is a task's or holds no guard. -/
theorem leads_afterPanic {w next : Work} (h : w.Leads next)
    (hw : w.isSide = true → w.isGuarded = false) (message : String) :
    w.Leads (afterPanic (w.isGuarded && next.isGuarded) message) where
  guarded := by rw [afterPanic_isGuarded, h.guarded, Bool.and_self]
  calls := by
    rw [afterPanic_calls]
    exact fun _ hc => absurd hc List.not_mem_nil
  side := by
    intro hs
    rw [hw hs]
    rfl
  lighter := Nat.lt_of_le_of_lt (weight_afterPanic_le _ next message) h.lighter

theorem endOf_own (f : Frame) (outcome : Outcome) :
    ∃ seen : List Seen, endOf f outcome = seen.map (Entry.mk f.actor) ∧
      ∀ x ∈ seen, x.IsOwn f.actor := by
  unfold endOf
  split
  next task _ actor =>
    rw [actor]
    exact ⟨[.task task (.done outcome)], rfl, by simp [Seen.IsOwn]⟩
  next => exact ⟨[], rfl, by simp⟩

theorem panicOf_own (f : Frame) (message : String) :
    ∃ x : Seen, panicOf f message = ⟨f.actor, x⟩ ∧ x.IsOwn f.actor := by
  unfold panicOf
  split
  next task _ actor =>
    rw [actor]
    exact ⟨.task task (.panicked message), rfl, rfl⟩
  next => exact ⟨.panic message, rfl, trivial⟩

theorem StepsTo.of_effect {s' : Session} (h : Effect s.hooks f s s') : StepsTo f s s' :=
  ⟨s.hooks, .refl _, s', h, .inl rfl⟩

/-- A call or a reading has one of the effects if it has one however the frame goes on after it. -/
theorem StepsTo.of_react {s₁ : Session} {m : Method} {next : Work} (hooks_eq : s₁.hooks = s.hooks)
    (h : ∀ (hooks : List (Method × Reaction)) (work : Work),
      (work = next ∨ ∃ message, (m, .panic message) ∈ s.hooks ∧
        work = afterPanic (f.work.isGuarded && next.isGuarded) message) →
      Effect s.hooks f { s with hooks } ({ s₁ with hooks }.enter { f with work })) :
    StepsTo f s (s₁.react m f next) := by
  obtain ⟨hooks, hsub, hcase⟩ := react_cases m f next s₁
  rw [hooks_eq] at hsub hcase
  refine ⟨hooks, hsub, ?_⟩
  rcases hcase with heq | ⟨t, ht, hlt, heq⟩ | ⟨message, hm, heq⟩
  · exact ⟨_, h hooks next (.inl rfl), .inl heq⟩
  · exact ⟨_, h hooks next (.inl rfl), .inr ⟨m, t, ht, hlt, heq⟩⟩
  · exact ⟨_, h hooks _ (.inr ⟨message, hm, rfl⟩), .inl heq⟩

theorem StepsTo.proceed (seen : List Seen) {replies : List Reply} {work : Work}
    (own : ∀ x ∈ seen, x.IsOwn f.actor) (left : replies.Sublist s.replies)
    (leads : f.work.Leads work) :
    StepsTo f s
      ({ s with replies, trace := s.trace ++ seen.map (Entry.mk f.actor) }.enter { f with work }) :=
  .of_effect (.proceed seen replies work own left leads)

theorem StepsTo.silently {replies : List Reply} {work : Work} (left : replies.Sublist s.replies)
    (leads : f.work.Leads work) : StepsTo f s ({ s with replies }.enter { f with work }) := by
  have h := StepsTo.proceed (s := s) [] (by simp) left leads
  rwa [List.map_nil, List.append_nil] at h

theorem StepsTo.leave (seen : List Seen) (own : ∀ x ∈ seen, x.IsOwn f.actor)
    (unguarded : f.work.isGuarded = false) :
    StepsTo f s { s with trace := s.trace ++ seen.map (Entry.mk f.actor) } :=
  .of_effect (.leave seen own unguarded)

theorem StepsTo.readField (x : FormField) {next : Work} (leads : f.work.Leads next)
    (hw : f.work.isSide = true → f.work.isGuarded = false) :
    StepsTo f s (s.readField f x next) := by
  refine .of_react rfl fun hooks work hwork => ?_
  refine .proceed [.read x] s.replies work (by simp [Seen.IsOwn]) (.refl _) ?_
  rcases hwork with rfl | ⟨message, -, rfl⟩
  · exact leads
  · exact leads_afterPanic leads hw message

theorem StepsTo.call (c : Call) {next : Work} (mem : c ∈ f.work.calls) (leads : f.work.Leads next)
    (hw : f.work.isSide = true → f.work.isGuarded = false) :
    StepsTo f s (s.call f c next) := by
  refine .of_react rfl fun hooks work hwork => ?_
  refine .call c work mem ?_
  rcases hwork with rfl | ⟨message, -, rfl⟩
  · exact leads
  · exact leads_afterPanic leads hw message

theorem StepsTo.take {next : Work} (free : s.inFlight = false)
    (unguarded : f.work.isGuarded = false) (guarded : next.isGuarded = true)
    (calls : ∀ c ∈ next.calls, c.isSwitch = false)
    (task : f.work.isSide = false) (lighter : weight next < weight f.work) :
    StepsTo f s ({ s with inFlight := true }.call f .block next) := by
  refine .of_react rfl fun hooks work hwork => ?_
  rcases hwork with rfl | ⟨message, hm, rfl⟩
  · exact .take _ free unguarded (.inl guarded) calls task lighter
  · rw [unguarded, Bool.false_and]
    exact .take _ free unguarded (.inr ⟨message, hm, rfl⟩)
      (fun c hc => absurd hc List.not_mem_nil) task (Nat.lt_of_le_of_lt (weight_pos next) lighter)

theorem StepsTo.release {next : Work} (guarded : f.work.isGuarded = true)
    (unguarded : next.isGuarded = false) (calls : next.calls = [])
    (side : f.work.isSide = true → next.isSide = true) (lighter : weight next < weight f.work) :
    StepsTo f s ({ s with inFlight := false }.call f .unblock next) := by
  refine .of_react rfl fun hooks work hwork => ?_
  rcases hwork with rfl | ⟨message, -, rfl⟩
  · exact .release _ guarded unguarded calls side lighter
  · rw [unguarded, Bool.and_false]
    exact .release _ guarded rfl rfl (fun _ => rfl) (Nat.lt_of_le_of_lt (weight_pos next) lighter)

/-- A task that looks for its answer waits, or goes on without the panic or the answer that it
takes. -/
theorem stepsTo_await {guarded : Bool} (sound : f.Sound) (h : f.work = .await guarded) :
    StepsTo f s (s.stepFrame f) := by
  have task : f.work.isSide = false := by rw [h]; rfl
  have hg : f.work.isGuarded = guarded := by rw [h]; rfl
  unfold stepFrame
  simp only [h]
  split
  · obtain ⟨k, actor⟩ := Option.isSome_iff_exists.mp (sound.isTask task).2
    have hwait : Effect s.hooks f s _ := .wait k guarded _ actor h rfl
    rw [actor] at hwait ⊢
    cases hf : f.fresh with
    | true => exact .of_effect (by simpa [hf, note] using hwait)
    | false => exact .of_effect (by simpa [hf] using hwait)
  · next message replies hreplies =>
    have left : replies.Sublist s.replies := hreplies ▸ List.sublist_cons_self _ _
    refine .silently left (.of_task task ?_ ?_ ?_)
    · rw [afterPanic_isGuarded, hg]
    · rw [afterPanic_calls]
      exact fun _ hc => absurd hc List.not_mem_nil
    · rw [h]
      cases guarded <;> simp [afterPanic, weight]
  · next a replies hreplies =>
    have left : replies.Sublist s.replies := hreplies ▸ List.sublist_cons_self _ _
    have hnote : ∀ x ∈ a.records.map Seen.log, x.IsOwn f.actor := by simp [Seen.IsOwn]
    have hmap : a.records.map (fun r => (⟨f.actor, .log r⟩ : Entry)) =
        (a.records.map Seen.log).map (Entry.mk f.actor) := by simp
    dsimp only [noteAll]
    rw [hmap]
    split
    · next htrue =>
      exact .proceed _ hnote left (.of_task task (by rw [hg, htrue]; rfl) showCalls_isSwitch
        (by simp [h, weight, showCalls]))
    · next hfalse =>
      exact .proceed _ hnote left (.of_task task (by rw [hg, Bool.eq_false_iff.mpr hfalse]; rfl)
        (by simp [Work.calls]) (by simp [h, weight]))

/-- **Every step has one of the six effects.** The cases are those of the work. -/
theorem stepFrame_stepsTo (sound : f.Sound) : StepsTo f s (s.stepFrame f) := by
  unfold stepFrame
  split
  next h =>
    have leads {next : Work} (hn : next.isGuarded = false)
        (hc : ∀ c ∈ next.calls, c.isSwitch = false) (hl : weight next < 18) :
        f.work.Leads next :=
      .of_task (by rw [h]; rfl) (by rw [h, hn]; rfl) hc (by rw [h]; exact hl)
    have unguarded : f.work.isSide = true → f.work.isGuarded = false := by simp [h, Work.isGuarded]
    split
    · exact .proceed [_] (by simp [Seen.IsOwn]) (.refl _)
        (leads rfl (by simp [Work.calls]) (by decide))
    · split
      · exact .readField _ (leads rfl showCalls_isSwitch (by simp [weight, showCalls])) unguarded
      · exact .readField _ (leads rfl (by simp [Work.calls]) (by simp [weight, FormField.all]))
          unguarded
  next x xs values h =>
    have leads {v : FormValues} : f.work.Leads (.gather xs v) :=
      .of_task (by rw [h]; rfl) (by rw [h]; rfl) (by simp [Work.calls]) (by simp [h, weight])
    split
    · exact .silently (.refl _) leads
    · exact .readField _ leads (by simp [h, Work.isSide])
  next values h =>
    split
    · exact .silently (.refl _)
        (.of_task (by rw [h]; rfl) (by rw [h]; rfl) (by simp [Work.calls]) (by simp [h, weight]))
    · next free =>
      exact .take (by simpa using free) (by rw [h]; rfl) rfl (by simp [Work.calls, Call.isSwitch])
        (by rw [h]; rfl) (by simp [h, weight])
  next request h =>
    exact .call _ (by simp [h, Work.calls])
      (.of_task (by rw [h]; rfl) (by rw [h]; rfl) (by simp [Work.calls]) (by simp [h, weight]))
      (by simp [h, Work.isSide])
  next guarded request h =>
    exact .proceed [_] (by simp [Seen.IsOwn]) (.refl _)
      (.of_task (by rw [h]; rfl) (by rw [h]; rfl) (by simp [Work.calls]) (by simp [h, weight]))
  next guarded h =>
    have hstep := stepsTo_await (s := s) sound h
    unfold stepFrame at hstep
    simpa only [h] using hstep
  next c cs result h =>
    refine .call _ (by simp [h, Work.calls]) ?_ (by simp [h, Work.isSide])
    rw [h]
    exact ⟨rfl, fun d hd => .inl (List.mem_cons_of_mem c hd), fun h => h, by simp [weight]⟩
  next result h =>
    exact .release (by rw [h]; rfl) rfl rfl (by simp [h, Work.isSide]) (by simp [h, weight])
  next message h =>
    exact .of_effect (.release _ (by rw [h]; rfl) rfl rfl (fun _ => rfl) (by simp [h, weight]))
  next h => exact .release (by rw [h]; rfl) rfl rfl (fun _ => rfl) (by simp [h, weight])
  next c cs outcome h =>
    refine .call _ (by simp [h, Work.calls]) ?_ (by simp [h, Work.isGuarded])
    rw [h]
    exact ⟨rfl, fun d hd => .inl (List.mem_cons_of_mem c hd),
      fun h => by cases outcome <;> exact h, by simp [weight]⟩
  next outcome h =>
    refine .silently (.refl _) ?_
    rw [h]
    exact ⟨rfl, fun d hd => absurd hd List.not_mem_nil, fun h => by cases outcome <;> exact h,
      by simp [weight]⟩
  next outcome h =>
    obtain ⟨seen, heq, own⟩ := endOf_own f (outcomeOf f.via outcome)
    rw [heq]
    exact .leave seen own (by rw [h]; rfl)
  next result h =>
    obtain ⟨seen, heq, own⟩ := endOf_own f (.executed result)
    rw [heq]
    exact .leave seen own (by rw [h]; rfl)
  next message h =>
    obtain ⟨x, heq, own⟩ := panicOf_own f message
    rw [heq]
    exact .leave [x] (by simpa using own) (by rw [h]; rfl)

theorem step?_cons {running : List Frame} (h : s.running = f :: running) :
    s.step? = some ({ s with running }.stepFrame f) := by
  unfold step?
  rw [h]

theorem step?_eq_some {s' : Session} (h : s.step? = some s') :
    ∃ f running, s.running = f :: running ∧ s' = { s with running }.stepFrame f := by
  unfold step? at h
  split at h
  · cases h
  · next f running hr => exact ⟨f, running, hr, (Option.some.inj h).symm⟩

/-- No effect touches the form or the settings. -/
theorem Effect.settings {armed : List (Method × Reaction)} {s' : Session}
    (h : Effect armed f s s') :
    s'.form = s.form ∧ s'.bareForm = s.bareForm ∧ s'.hasClock = s.hasClock := by
  cases h <;> exact ⟨rfl, rfl, rfl⟩

theorem StepsTo.settings {s' : Session} (h : StepsTo f s s') :
    s'.form = s.form ∧ s'.bareForm = s.bareForm ∧ s'.hasClock = s.hasClock := by
  obtain ⟨hooks, -, s₁, heff, hcase⟩ := h
  rcases hcase with heq | ⟨_, t, _, _, heq⟩
  · rw [heq]
    exact heff.settings
  · rw [heq]
    exact heff.settings

end Steps

/-! ## 5. Steps run out -/

/-- The work that a trigger starts has no guard, switches nothing itself, and is not too long. -/
theorem workOf_begins (s : Session) (t : Trigger) :
    (s.workOf t).isGuarded = false ∧ (∀ c ∈ (s.workOf t).calls, c.isSwitch = false) ∧
      weight (s.workOf t) ≤ 18 := by
  unfold workOf
  split
  · decide
  · simp [weight, Work.calls, Work.isGuarded, Call.isSwitch]
  · decide
  · split <;> decide

theorem bound_enter (f : Frame) (s : Session) : (s.enter f).bound = weight f.work + s.bound := by
  simp only [bound, enter, totalWeight]
  omega

theorem bound_start_le (t : Trigger) (s : Session) : (s.start t).bound ≤ s.bound + 18 := by
  have hw := (workOf_begins s t).2.2
  have hb : (s.start t).bound = weight (s.workOf t) + s.bound :=
    bound_enter ⟨some s.nextTask, true, viaOf t, true, s.workOf t⟩ s
  omega

/-- An effect uses up some of the weight of its frame. -/
theorem Effect.bound_lt {armed : List (Method × Reaction)} {f : Frame} {s s' : Session}
    (h : Effect armed f s s') : s'.bound < weight f.work + s.bound := by
  cases h with
  | proceed seen replies work _ _ leads =>
    rw [bound_enter]
    exact Nat.add_lt_add_right leads.lighter _
  | call c work _ leads =>
    rw [bound_enter]
    exact Nat.add_lt_add_right leads.lighter _
  | take work _ _ _ _ _ lighter =>
    rw [bound_enter]
    exact Nat.add_lt_add_right lighter _
  | release work _ _ _ _ lighter =>
    rw [bound_enter]
    exact Nat.add_lt_add_right lighter _
  | wait => exact Nat.lt_add_of_pos_left (weight_pos _)
  | leave => exact Nat.lt_add_of_pos_left (weight_pos _)

/-- **Every step lowers the bound**: a reaction that starts a frame is used up. -/
theorem bound_stepFrame_lt {f : Frame} {s : Session} (sound : f.Sound) :
    (s.stepFrame f).bound < weight f.work + s.bound := by
  obtain ⟨hooks, hsub, s₁, heff, hcase⟩ := stepFrame_stepsTo (s := s) sound
  have hlt := heff.bound_lt
  have hlen := hsub.length_le
  simp only [bound] at hlt ⊢
  rcases hcase with heq | ⟨_, t, _, hlen', heq⟩
  · rw [heq]
    omega
  · have hstart := bound_start_le t s₁
    simp only [bound] at hstart
    rw [heq]
    omega

end Session

end TemplateClient
