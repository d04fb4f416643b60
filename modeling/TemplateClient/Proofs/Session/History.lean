import TemplateClient.Proofs.Session.Answered
import TemplateClient.Proofs.Session.Milestones

/-!
# The panel as a function of history

Text, styling and visibility of the panel change in different calls, and the drawing of a result may
never come. Between steps all three are told by the milestones so far. While a frame runs, they are
told by the milestones together with the calls that the frame still makes and the end that it still
has to come to.

* `Session.Owing`, `Owing.step` -- what is on the screen, and what the running frame still owes;
* `Session.Recorded`, `Recorded.move` -- every move keeps the screen and the milestones together;
* `Session.ShowsHistory`, `panel_of_history` -- the panel between the steps of any run.
-/

namespace TemplateClient

open Milestone (endings)

/-! ## 1. The screen while a frame runs -/

/-- The result that the work is going to end with, if that is settled. -/
def Work.result? : Work → Option ExecutionResult
  | .render _ result => some result
  | .perform _ outcome => outcome.bind SubmitOutcome.result?
  | .finished outcome => outcome.bind SubmitOutcome.result?
  | _ => none

/-- The milestone that the frame still has to come to, when it has begun to draw a result. -/
def Frame.owes (f : Frame) : List Milestone :=
  match f.actor, f.work.result? with
  | some task, some result => [.shown task result]
  | _, _ => []

/-- The screen after the calls that the frame still makes. -/
def Frame.draws (f : Frame) (x : Screen) : Screen := x.afterAll f.actor f.work.calls

namespace Session

variable {M : Surroundings} {s s' b b' : Session} {f : Frame} {k : TaskId}

/-- The panel, and everything printed so far. -/
def screen (s : Session) : Screen := ⟨s.panel, s.prints⟩

/-- The session `b` without frames shows what its milestones tell, and the flag is set only after an
acceptance. -/
structure Shows (b : Session) : Prop where
  quiet : b.running = []
  screen : b.screen = .ofHistory b.history
  flag : b.inFlight = true → ∃ m ∈ b.history.getLast?, m.IsAcceptance

/-- With the frame `f` on top, the session `b` shows what its milestones tell once the frame has
made its calls and come to its end. The flag is clear when the frame ends with a result, and no task
blocks the page but with the flag. -/
structure Owing (f : Frame) (b : Session) : Prop where
  quiet : b.running = []
  screen : f.draws b.screen = .ofHistory (b.history ++ f.owes)
  flag : b.inFlight = true → ∃ m ∈ b.history.getLast?, m.IsAcceptance
  free : f.work.result? ≠ none → f.work.isGuarded = false → b.inFlight = false
  discreet : f.actor = none ∨ Call.block ∉ f.work.calls

/-- At most one frame runs, and the screen is as the milestones and the frame tell. -/
inductive Recorded : Session → Prop where
  | between {s : Session} (shows : Shows s) : Recorded s
  | running (f : Frame) (b : Session) (owing : Owing f b) : Recorded (b.enter f)

/-! ## 2. Steps -/

/-- Silent entries leave milestones and prints as they are. -/
theorem silently {es : List Entry} (trace : s'.trace = s.trace ++ es)
    (silent : ∀ e ∈ es, e.IsSilent) : s'.history = s.history ∧ s'.prints = s.prints := by
  constructor
  · rw [history, history, trace, List.filterMap_append,
      List.filterMap_eq_nil_iff.mpr fun e he => (silent e he).1, List.append_nil]
  · rw [prints, prints, trace, List.filterMap_append,
      List.filterMap_eq_nil_iff.mpr fun e he => (silent e he).2, List.append_nil]

/-- A call changes the screen at once. -/
theorem screen_act (actor : Option TaskId) (c : Call) (b : Session) :
    (b.act actor c).screen = b.screen.after actor c := by
  have hprints : (b.act actor c).prints =
      b.prints ++ (b.callEntries actor c).filterMap Entry.print? := List.filterMap_append
  have hcall : (b.callEntries actor c).filterMap Entry.print? =
      if c = .showContainer then [(actor, b.panel.record)] else [] := by
    cases c with
    | block =>
      rw [callEntries, sideEffects]
      split <;> rfl
    | _ => rfl
  rw [screen, hprints, hcall, Screen.after]
  split
  · rfl
  · rw [List.append_nil]
    rfl

/-- A call is a milestone if a task blocks the page. -/
theorem history_act (actor : Option TaskId) (c : Call) (b : Session) :
    (b.act actor c).history =
      b.history ++ if c = .block then (actor.map Milestone.accepted).toList else [] := by
  have hhistory : (b.act actor c).history =
      b.history ++ (b.callEntries actor c).filterMap Entry.milestone? := List.filterMap_append
  rw [hhistory]
  congr 1
  cases c with
  | block =>
    rw [callEntries, sideEffects]
    cases actor <;> split <;> rfl
  | _ => rfl

theorem owes_of_none (h : f.work.result? = none) : f.owes = [] := by
  rw [Frame.owes, h]
  cases f.actor <;> rfl

/-- A frame that neither draws nor owes anything leaves the screen to the milestones. -/
theorem Owing.screen_eq (h : Owing f b) (calls : f.work.calls = [])
    (result : f.work.result? = none) : b.screen = .ofHistory b.history := by
  have hscreen := h.screen
  rw [Frame.draws, calls, owes_of_none result, List.append_nil] at hscreen
  exact hscreen

section Frames

variable {next : Work} {es : List Entry}

/-- A frame goes on without a call, and owes what it has owed. -/
theorem Owing.goOn (h : Owing f b) (calls : next.calls = f.work.calls)
    (result : next.result? = f.work.result?) (quiet : b'.running = []) (panel : b'.panel = b.panel)
    (trace : b'.trace = b.trace ++ es) (silent : ∀ e ∈ es, e.IsSilent)
    (flag : b'.inFlight = b.inFlight)
    (free : next.result? ≠ none → next.isGuarded = false → b.inFlight = false) :
    Owing { f with work := next } b' := by
  obtain ⟨hhistory, hprints⟩ := silently trace silent
  have hsame : b'.screen = b.screen := by rw [Session.screen, Session.screen, panel, hprints]
  have hscreen := h.screen
  rw [Frame.draws, Frame.owes] at hscreen
  refine ⟨quiet, ?_, ?_, ?_, ?_⟩
  · rw [hsame, hhistory, Frame.draws, Frame.owes]
    dsimp only
    rw [calls, result]
    exact hscreen
  · rw [flag, hhistory]
    exact h.flag
  · rw [flag]
    exact free
  · dsimp only
    rw [calls]
    exact h.discreet

/-- A frame goes on without a call and without anything to draw. -/
theorem Owing.idle (h : Owing f b) (before : f.work.calls = [] ∧ f.work.result? = none)
    (after : next.calls = [] ∧ next.result? = none) (quiet : b'.running = [])
    (panel : b'.panel = b.panel) (trace : b'.trace = b.trace ++ es)
    (silent : ∀ e ∈ es, e.IsSilent) (flag : b'.inFlight = b.inFlight) :
    Owing { f with work := next } b' :=
  h.goOn (after.1.trans before.1.symm) (after.2.trans before.2.symm) quiet panel trace silent flag
    fun hne => absurd after.2 hne

/-- A frame begins to draw a result. -/
theorem Owing.beginToShow {r : ExecutionResult} (h : Owing f b) (actor : f.actor = some k)
    (before : f.work.calls = [] ∧ f.work.result? = none)
    (calls : next.calls = showCalls r.text r.isError) (result : next.result? = some r)
    (quiet : b'.running = []) (panel : b'.panel = b.panel) (trace : b'.trace = b.trace ++ es)
    (silent : ∀ e ∈ es, e.IsSilent) (flag : b'.inFlight = b.inFlight)
    (free : next.isGuarded = false → b.inFlight = false) : Owing { f with work := next } b' := by
  obtain ⟨hhistory, hprints⟩ := silently trace silent
  have hsame : b'.screen = b.screen := by rw [Session.screen, Session.screen, panel, hprints]
  have howes : Frame.owes { f with work := next } = [.shown k r] := by
    simp only [Frame.owes, actor, result]
  refine ⟨quiet, ?_, ?_, ?_, .inr ?_⟩
  · rw [hsame, hhistory, howes, Screen.ofHistory_append, ← h.screen_eq before.1 before.2,
      Frame.draws]
    dsimp only
    rw [calls, actor]
    rfl
  · rw [flag, hhistory]
    exact h.flag
  · rw [flag]
    exact fun _ => free
  · dsimp only
    rw [calls]
    simp [showCalls]

/-- A frame makes one of its calls. -/
theorem Owing.makeCall {c : Call} (h : Owing f b) (calls : f.work.calls = c :: next.calls)
    (result : next.result? = f.work.result?) (guarded : next.isGuarded = f.work.isGuarded) :
    Owing { f with work := next } (b.act f.actor c) := by
  have hscreen := h.screen
  rw [Frame.draws, Frame.owes, calls] at hscreen
  have hhistory : (b.act f.actor c).history = b.history := by
    rw [history_act]
    rcases h.discreet with hnone | hmem
    · rw [hnone]
      exact (congrArg _ (ite_self _)).trans (List.append_nil _)
    · have hc : c ≠ .block := fun e => hmem (by rw [calls, e]; exact List.mem_cons_self)
      rw [if_neg hc, List.append_nil]
  refine ⟨h.quiet, ?_, ?_, ?_, ?_⟩
  · rw [screen_act, hhistory, Frame.draws, Frame.owes]
    dsimp only
    rw [result]
    exact hscreen
  · rw [hhistory]
    exact h.flag
  · dsimp only
    rw [result, guarded]
    exact h.free
  · refine h.discreet.imp id fun hmem hnext => hmem ?_
    rw [calls]
    exact List.mem_cons_of_mem c hnext

/-- A frame takes the flag; an old error is still to be hidden. -/
theorem Owing.accept (h : Owing f b) (actor : f.actor = some k)
    (before : f.work.calls = [] ∧ f.work.result? = none) (calls : next.calls = [.hideError])
    (result : next.result? = none) :
    Owing { f with work := next } ({ b with inFlight := true }.act f.actor .block) := by
  have hhistory : ({ b with inFlight := true }.act f.actor .block).history =
      b.history ++ [.accepted k] := by
    rw [history_act, if_pos rfl, actor]
    rfl
  have hscreen : ({ b with inFlight := true }.act f.actor .block).screen = b.screen :=
    (screen_act _ _ _).trans (Screen.after_of_not_isView _ _ rfl)
  have howes : Frame.owes { f with work := next } = [] := owes_of_none result
  refine ⟨h.quiet, ?_, fun _ => ?_, fun hne => absurd result hne, .inr ?_⟩
  · rw [hscreen, hhistory, howes, List.append_nil, Screen.ofHistory_append,
      ← h.screen_eq before.1 before.2, Frame.draws]
    dsimp only
    rw [calls, actor]
    rfl
  · rw [hhistory, List.getLast?_concat]
    exact ⟨_, rfl, k, rfl⟩
  · dsimp only
    rw [calls]
    decide

/-- A frame drops its guard. -/
theorem Owing.giveBack (h : Owing f b) (before : f.work.calls = []) (after : next.calls = [])
    (result : next.result? = f.work.result?) :
    Owing { f with work := next } ({ b with inFlight := false }.act f.actor .unblock) := by
  have hhistory : ({ b with inFlight := false }.act f.actor .unblock).history = b.history := by
    rw [history_act, if_neg (by decide), List.append_nil]
    rfl
  have hscreen : ({ b with inFlight := false }.act f.actor .unblock).screen = b.screen :=
    (screen_act _ _ _).trans (Screen.after_of_not_isView _ _ rfl)
  have hbefore := h.screen
  rw [Frame.draws, Frame.owes, before] at hbefore
  refine ⟨h.quiet, ?_, fun hset => absurd hset Bool.false_ne_true, fun _ _ => rfl, .inr ?_⟩
  · rw [hscreen, hhistory, Frame.draws, Frame.owes]
    dsimp only
    rw [after, result]
    exact hbefore
  · dsimp only
    rw [after]
    exact List.not_mem_nil

/-- A frame that is not to end with a result leaves silently. -/
theorem Owing.leave (h : Owing f b) (before : f.work.calls = [] ∧ f.work.result? = none)
    (quiet : b'.running = []) (panel : b'.panel = b.panel) (trace : b'.trace = b.trace ++ es)
    (silent : ∀ e ∈ es, e.IsSilent) (flag : b'.inFlight = b.inFlight) : Shows b' := by
  obtain ⟨hhistory, hprints⟩ := silently trace silent
  refine ⟨quiet, ?_, ?_⟩
  · rw [Session.screen, panel, hprints, hhistory]
    exact h.screen_eq before.1 before.2
  · rw [flag, hhistory]
    exact h.flag

end Frames

/-- The end of a frame is the milestone that it has owed. -/
theorem milestones_endOf (sound : f.Sound) {outcome : Option SubmitOutcome}
    (work : f.work = .finished outcome) :
    (endOf f (outcomeOf f.via outcome)).filterMap Entry.milestone? = f.owes ∧
      (endOf f (outcomeOf f.via outcome)).filterMap Entry.print? = [] := by
  have hresult : f.work.result? = (outcomeOf f.via outcome).result? := by
    rw [work]
    cases f.via <;> cases outcome <;> rfl
  unfold endOf
  split
  next task htask hactor =>
    have hmilestone : Entry.milestone? ⟨some task, .task task (.done (outcomeOf f.via outcome))⟩ =
        f.work.result?.map (.shown task) := by
      rw [hresult]
      rfl
    rw [List.filterMap_cons, hmilestone, Frame.owes, hactor]
    cases f.work.result? <;> exact ⟨rfl, rfl⟩
  next hside =>
    -- side work owes nothing
    have hnone : f.work.result? = none := by
      cases outcome with
      | none => rw [work]; rfl
      | some o =>
        obtain ⟨htask, hactor⟩ := sound.isTask (by rw [work]; rfl)
        obtain ⟨task, hactor⟩ := Option.isSome_iff_exists.mp hactor
        exact absurd hactor (hside task htask)
    rw [owes_of_none hnone]
    exact ⟨rfl, rfl⟩

theorem Owing.finish {outcome : Option SubmitOutcome} (h : Owing f b) (sound : f.Sound)
    (work : f.work = .finished outcome) :
    Shows { b with trace := b.trace ++ endOf f (outcomeOf f.via outcome) } := by
  obtain ⟨hmilestones, hprints⟩ := milestones_endOf sound work
  have hhistory : history { b with trace := b.trace ++ endOf f (outcomeOf f.via outcome) } =
      b.history ++ f.owes := by
    rw [history, List.filterMap_append, hmilestones]
    rfl
  have hsame : Session.screen { b with trace := b.trace ++ endOf f (outcomeOf f.via outcome) } =
      b.screen := by
    rw [Session.screen, prints, List.filterMap_append, hprints, List.append_nil]
    rfl
  refine ⟨h.quiet, ?_, fun hset => ?_⟩
  · rw [hsame, hhistory, ← h.screen, Frame.draws, work]
    rfl
  · -- a frame that ends with a result has found the flag clear
    have hnone : f.work.result? = none := by
      by_contra hne
      have hclear : b.inFlight = false := h.free hne (by rw [work]; rfl)
      exact Bool.false_ne_true (hclear.symm.trans hset)
    rw [hhistory, owes_of_none hnone, List.append_nil]
    exact h.flag hset

theorem isSilent_log (actor : Option TaskId) (records : List LogRecord) :
    ∀ e ∈ records.map fun r => (⟨actor, .log r⟩ : Entry), e.IsSilent := by
  intro e he
  obtain ⟨r, -, rfl⟩ := List.mem_map.mp he
  exact ⟨rfl, rfl⟩

theorem isSilent_singleton {e : Entry} (h : e.IsSilent) : ∀ x ∈ [e], x.IsSilent := by
  intro x hx
  rw [List.mem_singleton.mp hx]
  exact h

/-- **A step keeps the record**, when no reaction waits. The cases are those of the work. -/
theorem Owing.step (h : Owing f b) (calm : b.hooks = []) (sound : f.Sound) :
    Recorded (b.stepFrame f) := by
  have task (hs : f.work.isSide = false) : ∃ k, f.actor = some k :=
    Option.isSome_iff_exists.mp (sound.isTask hs).2
  cases hwork : f.work with
  | begin =>
    have before : f.work.calls = [] ∧ f.work.result? = none := by rw [hwork]; exact ⟨rfl, rfl⟩
    obtain ⟨k, actor⟩ := task (by rw [hwork]; rfl)
    simp only [stepFrame, hwork]
    split
    · exact .running _ _ (h.idle before ⟨rfl, rfl⟩ h.quiet rfl rfl
        (isSilent_singleton ⟨rfl, rfl⟩) rfl)
    · next free =>
      split
      · rw [readField_calm calm]
        exact .running _ _ (h.beginToShow (r := .failure emptyTemplate) actor before rfl rfl h.quiet
          rfl rfl (isSilent_singleton ⟨rfl, rfl⟩) rfl fun _ => Bool.eq_false_iff.mpr free)
      · rw [readField_calm calm]
        exact .running _ _ (h.idle before ⟨rfl, rfl⟩ h.quiet rfl rfl
          (isSilent_singleton ⟨rfl, rfl⟩) rfl)
  | gather fields values =>
    have before : f.work.calls = [] ∧ f.work.result? = none := by rw [hwork]; exact ⟨rfl, rfl⟩
    obtain ⟨k, actor⟩ := task (by rw [hwork]; rfl)
    cases fields with
    | cons x xs =>
      simp only [stepFrame, hwork]
      split
      · exact .running _ _ (h.idle before ⟨rfl, rfl⟩ h.quiet rfl (List.append_nil _).symm
          (List.forall_mem_nil _) rfl)
      · rw [readField_calm calm]
        exact .running _ _ (h.idle before ⟨rfl, rfl⟩ h.quiet rfl rfl
          (isSilent_singleton ⟨rfl, rfl⟩) rfl)
    | nil =>
      simp only [stepFrame, hwork]
      split
      · exact .running _ _ (h.idle before ⟨rfl, rfl⟩ h.quiet rfl (List.append_nil _).symm
          (List.forall_mem_nil _) rfl)
      · rw [call_calm (b := { b with inFlight := true }) calm]
        exact .running _ _ (h.accept actor before rfl rfl)
  | hide request =>
    simp only [stepFrame, hwork]
    rw [call_calm calm]
    exact .running _ _ (h.makeCall (by rw [hwork]; rfl) (by rw [hwork]; rfl) (by rw [hwork]; rfl))
  | send guarded request =>
    have before : f.work.calls = [] ∧ f.work.result? = none := by rw [hwork]; exact ⟨rfl, rfl⟩
    simp only [stepFrame, hwork]
    exact .running _ _ (h.idle before ⟨rfl, rfl⟩ h.quiet rfl rfl
      (isSilent_singleton ⟨rfl, rfl⟩) rfl)
  | await guarded =>
    have before : f.work.calls = [] ∧ f.work.result? = none := by rw [hwork]; exact ⟨rfl, rfl⟩
    obtain ⟨k, actor⟩ := task (by rw [hwork]; rfl)
    simp only [stepFrame, hwork]
    split
    · simp only [actor]
      split
      · exact .between (h.leave before h.quiet rfl rfl (isSilent_singleton ⟨rfl, rfl⟩) rfl)
      · exact .between (h.leave before h.quiet rfl (List.append_nil _).symm
          (List.forall_mem_nil _) rfl)
    · next message replies _ =>
      have after : (afterPanic guarded message).calls = [] ∧
          (afterPanic guarded message).result? = none := by
        cases guarded <;> exact ⟨rfl, rfl⟩
      exact .running _ _ (h.idle before after h.quiet rfl (List.append_nil _).symm
        (List.forall_mem_nil _) rfl)
    · next answer replies _ =>
      split
      · exact .running _ _ (h.beginToShow (r := .ofAnswer answer) actor before rfl rfl h.quiet rfl
          rfl (isSilent_log _ _) rfl fun hg => Bool.noConfusion hg)
      · exact .running _ _ (h.idle before ⟨rfl, rfl⟩ h.quiet rfl rfl (isSilent_log _ _) rfl)
  | render calls result =>
    cases calls with
    | cons c cs =>
      simp only [stepFrame, hwork]
      rw [call_calm calm]
      exact .running _ _ (h.makeCall (by rw [hwork]; rfl) (by rw [hwork]; rfl) (by rw [hwork]; rfl))
    | nil =>
      simp only [stepFrame, hwork]
      rw [call_calm (b := { b with inFlight := false }) calm]
      exact .running _ _ (h.giveBack (by rw [hwork]; rfl) rfl (by rw [hwork]; rfl))
  | unwind message =>
    simp only [stepFrame, hwork]
    exact .running _ _ (h.giveBack (by rw [hwork]; rfl) rfl (by rw [hwork]; rfl))
  | abandon =>
    simp only [stepFrame, hwork]
    rw [call_calm (b := { b with inFlight := false }) calm]
    exact .running _ _ (h.giveBack (by rw [hwork]; rfl) rfl (by rw [hwork]; rfl))
  | perform calls outcome =>
    cases calls with
    | cons c cs =>
      simp only [stepFrame, hwork]
      rw [call_calm calm]
      exact .running _ _ (h.makeCall (by rw [hwork]; rfl) (by rw [hwork]; rfl) (by rw [hwork]; rfl))
    | nil =>
      have free := h.free
      rw [hwork] at free
      simp only [stepFrame, hwork]
      exact .running _ _ (h.goOn (by rw [hwork]; rfl) (by rw [hwork]; rfl) h.quiet rfl
        (List.append_nil _).symm (List.forall_mem_nil _) rfl free)
  | finished outcome =>
    simp only [stepFrame, hwork]
    exact .between (h.finish sound hwork)
  | answered result =>
    have before : f.work.calls = [] ∧ f.work.result? = none := by rw [hwork]; exact ⟨rfl, rfl⟩
    simp only [stepFrame, hwork]
    refine .between (h.leave before h.quiet rfl rfl ?_ rfl)
    unfold endOf
    split
    · exact isSilent_singleton ⟨rfl, rfl⟩
    · exact List.forall_mem_nil _
  | panicked message =>
    have before : f.work.calls = [] ∧ f.work.result? = none := by rw [hwork]; exact ⟨rfl, rfl⟩
    simp only [stepFrame, hwork]
    refine .between (h.leave before h.quiet rfl rfl ?_ rfl)
    unfold panicOf
    split <;> exact isSilent_singleton ⟨rfl, rfl⟩

/-! ## 3. Moves -/

/-- Nothing but silent entries has been added to a session without frames. -/
theorem Shows.congr {es : List Entry} (h : Shows s) (quiet : s'.running = [])
    (panel : s'.panel = s.panel) (trace : s'.trace = s.trace ++ es)
    (silent : ∀ e ∈ es, e.IsSilent) (flag : s'.inFlight = s.inFlight) : Shows s' := by
  obtain ⟨hhistory, hprints⟩ := silently trace silent
  refine ⟨quiet, ?_, ?_⟩
  · rw [Session.screen, panel, hprints, hhistory]
    exact h.screen
  · rw [flag, hhistory]
    exact h.flag

/-- A frame that does not draw may start at any time. -/
theorem Shows.enter (h : Shows b) (f : Frame) (calls : ∀ c ∈ f.work.calls, c.isView = false)
    (result : f.work.result? = none) (discreet : f.actor = none ∨ Call.block ∉ f.work.calls) :
    Recorded (b.enter f) := by
  refine .running f b ⟨h.quiet, ?_, h.flag, fun hne => absurd result hne, discreet⟩
  rw [Frame.draws, Screen.afterAll_of_not_isView _ _ calls, owes_of_none result, List.append_nil]
  exact h.screen

/-- The work that a trigger starts does not draw, and does not block the page at once. -/
theorem workOf_discreet (s : Session) (t : Trigger) :
    (∀ c ∈ (s.workOf t).calls, c.isView = false) ∧ (s.workOf t).result? = none ∧
      Call.block ∉ (s.workOf t).calls := by
  have hnone {w : Work} (calls : w.calls = []) (result : w.result? = none) :
      (∀ c ∈ w.calls, c.isView = false) ∧ w.result? = none ∧ Call.block ∉ w.calls := by
    rw [calls, result]
    exact ⟨nofun, rfl, List.not_mem_nil⟩
  unfold workOf
  split
  · exact hnone rfl rfl
  · refine ⟨fun c hc => ?_, rfl, fun hc => ?_⟩
    · rw [List.mem_singleton.mp hc]
      rfl
    · cases List.mem_singleton.mp hc
  · exact hnone rfl rfl
  · split
    · exact hnone rfl rfl
    · exact hnone rfl rfl

theorem Shows.abandon (task : TaskId) (h : Shows s) : Recorded (s.abandon task) := by
  unfold Session.abandon
  split
  · exact .between (h.congr h.quiet rfl rfl (isSilent_singleton ⟨rfl, rfl⟩) rfl)
  · next w _ =>
    have hnote : Shows ((s.remove task).note none (.task task .dropped)) :=
      h.congr h.quiet rfl rfl (isSilent_singleton ⟨rfl, rfl⟩) rfl
    dsimp only
    split
    · exact hnote.enter ⟨some task, false, w.via, false, .abandon⟩ nofun rfl (.inr List.not_mem_nil)
    · exact .between hnote

theorem Shows.runTimer (change : Overlay → Overlay × Bool) (h : Shows s) :
    Shows (s.runTimer change) := by
  have h' : Shows { s with overlay := (change s.overlay).1 } :=
    h.congr h.quiet rfl (List.append_nil _).symm (List.forall_mem_nil _) rfl
  unfold Session.runTimer
  dsimp only
  split
  · exact h'.congr h'.quiet rfl rfl (isSilent_singleton ⟨rfl, rfl⟩) rfl
  · exact h'

theorem hooks_of_calm (armed : Armed .calm s) : s.hooks = [] :=
  List.eq_nil_iff_forall_not_mem.mpr fun g hg => armed.hooks g hg

theorem Shows.move (h : Shows s) (hm : Move .calm s s') : Recorded s' := by
  cases hm with
  | step hstep =>
    unfold step? at hstep
    rw [h.quiet] at hstep
    cases hstep
  | trigger t =>
    obtain ⟨calls, result, discreet⟩ := workOf_discreet s t
    have hnext : Shows { s with nextTask := s.nextTask + 1 } := ⟨h.quiet, h.screen, h.flag⟩
    exact hnext.enter ⟨some s.nextTask, true, viaOf t, true, s.workOf t⟩ calls result
      (.inr discreet)
  | execute values =>
    have hnext : Shows { s with nextTask := s.nextTask + 1 } := ⟨h.quiet, h.screen, h.flag⟩
    exact hnext.enter ⟨some s.nextTask, true, .execute, true, .send false values⟩ nofun rfl
      (.inr List.not_mem_nil)
  | resume w mem =>
    have hrest : Shows (s.remove w.task) := ⟨h.quiet, h.screen, h.flag⟩
    exact hrest.enter ⟨some w.task, true, w.via, false, .await w.guarded⟩ nofun rfl
      (.inr List.not_mem_nil)
  | abandon task => exact h.abandon task
  | address calls ok =>
    exact h.enter ⟨none, false, .event, true, .perform calls none⟩ ok rfl (.inl rfl)
  | wake => exact .between (h.runTimer _)
  | tick => exact .between (h.runTimer _)
  | _ => exact .between ⟨h.quiet, h.screen, h.flag⟩

/-- **Every move keeps the record.** -/
theorem Recorded.move (reg : Regular .calm s) (h : Recorded s) (hm : Move .calm s s') :
    Recorded s' := by
  cases h with
  | between shows => exact shows.move hm
  | running f b owing =>
    have busy : (b.enter f).running ≠ [] := List.cons_ne_nil _ _
    have calm : (b.enter f).hooks = [] := hooks_of_calm reg.armed
    rcases hm.of_closed (not_isOpen id busy) with hstep | ⟨hooks, replies, rfl⟩
    · rw [step?_enter] at hstep
      cases hstep
      exact owing.step calm (reg.sound.frames f List.mem_cons_self)
    · exact .running f { b with hooks, replies }
        ⟨owing.quiet, owing.screen, owing.flag, owing.free, owing.discreet⟩

theorem shows_of_isFresh (h : s.IsFresh) : Shows s := by
  rw [h]
  exact ⟨rfl, rfl, nofun⟩

theorem Recorded.shows (h : Recorded s) (quiet : s.running = []) : Shows s := by
  cases h with
  | between shows => exact shows
  | running f b => cases quiet

/-! ## 4. Between steps -/

/-- **The panel and the prints as a function of history.** While the flag is set, the last milestone
is an acceptance. As long as it is one -- the submission waits, or has been dropped or has panicked
since -- an old error is not visible, but an old success is. -/
structure ShowsHistory (s : Session) : Prop where
  tells : s.screen.Tells s.history
  pending : s.inFlight = true → ∃ m ∈ s.history.getLast?, m.IsAcceptance
  old : (∃ m ∈ s.history.getLast?, m.IsAcceptance) →
    (s.panel.visible = true ↔
      ∃ task r, (endings s.history).getLast? = some (task, r) ∧ r.isError = false)

theorem Shows.showsHistory (h : Shows s) : ShowsHistory s := by
  have tells : s.screen.Tells s.history := by
    rw [h.screen]
    exact Screen.tells_ofHistory s.history
  refine ⟨tells, h.flag, fun since => tells.visible.trans ?_⟩
  simp only [since, and_true, Bool.not_eq_true]

/-- **Between the steps of every run the panel and the prints are told by the history**, if no
collaborator reacts and only submissions call the panel. -/
theorem panel_of_history {s₀ : Session} (fresh : s₀.IsFresh) :
    (∀ s, s₀.Reaches .calm s → s.running = [] → ShowsHistory s) ∧
      ∀ steps : List Step, (∀ p ∈ steps, p.Obeys .calm) → ShowsHistory (s₀.run steps) := by
  have reg : Regular .calm s₀ := regular_of_isFresh fresh
  have hreach : ∀ s, s₀.Reaches .calm s → s.running = [] → ShowsHistory s := by
    intro s hr quiet
    have hrecorded : Recorded s := reg.keeps hr (.between (shows_of_isFresh fresh))
      fun _ _ reg h hm => h.move reg hm
    exact (hrecorded.shows quiet).showsHistory
  have quiet : s₀.running = [] := by rw [fresh]
  refine ⟨hreach, fun steps ok => ?_⟩
  have hrun := run_settles steps ok reg.sound quiet
  exact hreach _ hrun.1 hrun.2

/-- An error is hidden by the next submission, which is dropped before its answer comes. -/
theorem panel_of_history_dropped :
    let s₀ : Session := { form := { template := "x" } }
    let p : Step :=
      { replies := [.answer (.error (.noAnswer "no route"))], action := .trigger .submit }
    let s := s₀.run [p, { action := .trigger .submit }, { action := .drop 1 }]
    s.history = [.accepted 0, .shown 0 (.failure serviceUnavailable), .accepted 1] ∧
      s.prints = [(some 0, ⟨.error,
        "❌ The service was unavailable or had returned an invalid response.\n"⟩)] ∧
      s.panel.visible = false ∧ ShowsHistory s := by
  intro s₀ p s
  have fresh : s₀.IsFresh := rfl
  refine ⟨by decide, by decide, by decide, (panel_of_history fresh).2 _ fun q hq => ?_⟩
  simp only [List.mem_cons, List.not_mem_nil, or_false] at hq
  rcases hq with rfl | rfl | rfl
  · exact ⟨List.forall_mem_nil _, fun _ _ => trivial, trivial⟩
  · exact ⟨List.forall_mem_nil _, List.forall_mem_nil _, trivial⟩
  · exact ⟨List.forall_mem_nil _, List.forall_mem_nil _, trivial⟩

end Session

end TemplateClient
