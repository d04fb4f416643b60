import TemplateClient.Session.Run

/-!
# What happens to an overlay

An overlay is called, the runtime runs, and time passes. These events can be played to a session
without anything around its overlay. Whatever happens in a run of a session, its overlay goes the
way of such events.

* `OverlayEvent`, `Session.play` -- the events, and the session after several of them;
* `Session.SameOverlay` -- sessions that differ in nothing that concerns the overlay;
* `Session.run_plays` -- every run plays events to the overlay.
-/

namespace TemplateClient

/-! ## 1. Events -/

/-- Something that happens to an overlay. -/
inductive OverlayEvent where
  | configure (timings : OverlayTimings)
  | block
  | unblock
  /-- The runtime runs, so started timers begin to run. -/
  | run
  /-- Time passes, and running timers run out. -/
  | advance (millis : Nat)
deriving DecidableEq, Repr

namespace OverlayEvent

/-- The page is blocked or unblocked. -/
def isSwitch : OverlayEvent → Bool
  | .block => true
  | .unblock => true
  | _ => false

/-- The overlay is called. -/
def isCall : OverlayEvent → Bool
  | .run => false
  | .advance _ => false
  | _ => true

/-- The time that passes. -/
def millis : OverlayEvent → Nat
  | .advance millis => millis
  | _ => 0

/-- What a call of a widget is to the overlay. -/
def ofCall? : Call → Option OverlayEvent
  | .configure timings => some (.configure timings)
  | .block => some .block
  | .unblock => some .unblock
  | _ => none

/-- The time that passes in several events. -/
def elapsed : List OverlayEvent → Nat
  | [] => 0
  | e :: es => e.millis + elapsed es

@[simp] theorem elapsed_nil : elapsed [] = 0 := rfl

@[simp] theorem elapsed_cons (e : OverlayEvent) (es : List OverlayEvent) :
    elapsed (e :: es) = e.millis + elapsed es := rfl

theorem isCall_of_ofCall? {c : Call} {e : OverlayEvent} (h : ofCall? c = some e) :
    e.isCall = true := by
  cases c <;> cases h <;> rfl

end OverlayEvent

/-! ## 2. Sessions as their overlays go -/

/-- A call of the overlay, or a notice that it gives. -/
def Seen.isOverlay : Seen → Bool
  | .call c => (OverlayEvent.ofCall? c).isSome
  | .log .busyNotice => true
  | _ => false

namespace Session

/-- `s` after something has happened to its overlay, and nothing around it. -/
def onOverlay (s : Session) : OverlayEvent → Session
  | .configure timings => s.act none (.configure timings)
  | .block => s.act none .block
  | .unblock => s.act none .unblock
  | .run => s.runTimer (Overlay.wake s.clock)
  | .advance millis =>
    { s with clock := s.clock + millis }.runTimer (Overlay.tick (s.clock + millis))

/-- `s` after several events of its overlay. -/
def play (s : Session) (es : List OverlayEvent) : Session := es.foldl onOverlay s

@[simp] theorem play_nil (s : Session) : s.play [] = s := rfl

@[simp] theorem play_cons (s : Session) (e : OverlayEvent) (es : List OverlayEvent) :
    s.play (e :: es) = (s.onOverlay e).play es := rfl

theorem play_append (s : Session) (es fs : List OverlayEvent) :
    s.play (es ++ fs) = (s.play es).play fs :=
  List.foldl_append

/-- What has been seen of the overlay so far, in order. -/
def overlayRecord (s : Session) : List Seen := (s.trace.map Entry.seen).filter Seen.isOverlay

/-- How many busy notices have been given so far. -/
def notices (s : Session) : Nat := s.overlayRecord.count (.log .busyNotice)

/-- Nothing that concerns the overlay has changed. -/
structure SameOverlay (s s' : Session) : Prop where
  overlay : s'.overlay = s.overlay
  hasClock : s'.hasClock = s.hasClock
  clock : s'.clock = s.clock
  record : s'.overlayRecord = s.overlayRecord

variable {s s' s'' : Session}

namespace SameOverlay

theorem refl : SameOverlay s s := ⟨rfl, rfl, rfl, rfl⟩

theorem trans (h : SameOverlay s s') (h' : SameOverlay s' s'') : SameOverlay s s'' :=
  ⟨h'.overlay.trans h.overlay, h'.hasClock.trans h.hasClock, h'.clock.trans h.clock,
    h'.record.trans h.record⟩

end SameOverlay

/-! ## 3. Events play alike on sessions with the same overlay -/

theorem overlayRecord_of_trace {es : List Entry} (h : s'.trace = s.trace ++ es) :
    s'.overlayRecord = s.overlayRecord ++ (es.map Entry.seen).filter Seen.isOverlay := by
  rw [overlayRecord, overlayRecord, h, List.map_append, List.filter_append]

/-- What is seen of the overlay in a call. -/
theorem overlayRecord_act (actor : Option TaskId) (c : Call) (s : Session) :
    (s.act actor c).overlayRecord =
      s.overlayRecord ++ (Seen.call c :: s.sideEffects c).filter Seen.isOverlay := by
  have hseen : Entry.seen ∘ Entry.mk actor = id := rfl
  rw [overlayRecord_of_trace rfl, List.map_cons, List.map_map, hseen, List.map_id]

/-- What a timer gives does not depend on more than the overlay. -/
theorem overlayRecord_runTimer (change : Overlay → Overlay × Bool) (s : Session) :
    (s.runTimer change).overlayRecord =
      s.overlayRecord ++ if (change s.overlay).2 then [.log .busyNotice] else [] := by
  unfold runTimer
  dsimp only
  split
  · have htrace : (note none (.log .busyNotice) { s with overlay := (change s.overlay).1 }).trace =
        s.trace ++ [⟨none, .log .busyNotice⟩] := rfl
    exact overlayRecord_of_trace htrace
  · exact (List.append_nil _).symm

theorem runTimer_fields (change : Overlay → Overlay × Bool) (s : Session) :
    (s.runTimer change).overlay = (change s.overlay).1 ∧
      (s.runTimer change).hasClock = s.hasClock ∧ (s.runTimer change).clock = s.clock := by
  unfold runTimer
  dsimp only
  split <;> exact ⟨rfl, rfl, rfl⟩

theorem SameOverlay.runTimer (change : Overlay → Overlay × Bool) (h : SameOverlay s s') :
    SameOverlay (s.runTimer change) (s'.runTimer change) := by
  obtain ⟨hoverlay, hhas, hclock⟩ := runTimer_fields change s
  obtain ⟨hoverlay', hhas', hclock'⟩ := runTimer_fields change s'
  refine ⟨?_, ?_, ?_, ?_⟩
  · rw [hoverlay, hoverlay', h.overlay]
  · rw [hhas, hhas', h.hasClock]
  · rw [hclock, hclock', h.clock]
  · rw [overlayRecord_runTimer, overlayRecord_runTimer, h.overlay, h.record]

theorem SameOverlay.advance (millis : Nat) (h : SameOverlay s s') :
    SameOverlay { s with clock := s.clock + millis } { s' with clock := s'.clock + millis } :=
  ⟨h.overlay, h.hasClock, congrArg (· + millis) h.clock, h.record⟩

/-- A call does to the overlay what it is to it, whoever makes it and whatever else it does. -/
theorem SameOverlay.act (actor : Option TaskId) (c : Call) (h : SameOverlay s s') :
    SameOverlay (s.play (OverlayEvent.ofCall? c).toList) (s'.act actor c) := by
  have hrecord := overlayRecord_act actor c s'
  rw [h.record] at hrecord
  have overlay : (s'.act actor c).overlay = s.overlay.after s.hasClock c := by
    rw [← h.overlay, ← h.hasClock]
    rfl
  have block : s'.sideEffects .block = s.sideEffects .block := by
    rw [sideEffects, sideEffects, h.hasClock]
  cases c with
  | configure timings =>
    exact ⟨overlay, h.hasClock, h.clock, hrecord.trans (overlayRecord_act none _ s).symm⟩
  | block =>
    rw [block] at hrecord
    exact ⟨overlay, h.hasClock, h.clock, hrecord.trans (overlayRecord_act none _ s).symm⟩
  | unblock =>
    exact ⟨overlay, h.hasClock, h.clock, hrecord.trans (overlayRecord_act none _ s).symm⟩
  | _ => exact ⟨overlay, h.hasClock, h.clock, hrecord.trans (List.append_nil _)⟩

theorem SameOverlay.onOverlay (e : OverlayEvent) (h : SameOverlay s s') :
    SameOverlay (s.onOverlay e) (s'.onOverlay e) := by
  cases e with
  | configure timings => exact h.act none (.configure timings)
  | block => exact h.act none .block
  | unblock => exact h.act none .unblock
  | run =>
    rw [Session.onOverlay, Session.onOverlay, h.clock]
    exact h.runTimer _
  | advance millis =>
    have hlater := (h.advance millis).runTimer (Overlay.tick (s.clock + millis))
    rw [h.clock] at hlater
    rw [Session.onOverlay, Session.onOverlay, h.clock]
    exact hlater

theorem SameOverlay.play (es : List OverlayEvent) (h : SameOverlay s s') :
    SameOverlay (s.play es) (s'.play es) := by
  induction es generalizing s s' with
  | nil => exact h
  | cons e es ih => exact ih (h.onOverlay e)

/-! ## 4. Work calls the overlay -/

/-- Nothing but calls has happened to the overlay. -/
def CallsOverlay (s s' : Session) : Prop :=
  ∃ es : List OverlayEvent, (∀ e ∈ es, e.isCall = true) ∧ SameOverlay (s.play es) s'

theorem SameOverlay.callsOverlay (h : SameOverlay s s') : CallsOverlay s s' :=
  ⟨[], List.forall_mem_nil _, h⟩

theorem CallsOverlay.trans (h : CallsOverlay s s') (h' : CallsOverlay s' s'') :
    CallsOverlay s s'' := by
  obtain ⟨es, calls, same⟩ := h
  obtain ⟨fs, calls', same'⟩ := h'
  refine ⟨es ++ fs, fun e he => (List.mem_append.mp he).elim (calls e) (calls' e), ?_⟩
  rw [play_append]
  exact (same.play fs).trans same'

/-- Entries that do not concern the overlay do not count. -/
theorem sameOverlay_of_trace {es : List Entry} (overlay : s'.overlay = s.overlay)
    (hasClock : s'.hasClock = s.hasClock) (clock : s'.clock = s.clock)
    (trace : s'.trace = s.trace ++ es) (silent : ∀ e ∈ es, e.seen.isOverlay = false) :
    SameOverlay s s' := by
  refine ⟨overlay, hasClock, clock, ?_⟩
  have hnone : (es.map Entry.seen).filter Seen.isOverlay = [] := by
    refine List.filter_eq_nil_iff.mpr fun x hx => ?_
    obtain ⟨e, he, rfl⟩ := List.mem_map.mp hx
    rw [silent e he]
    exact Bool.false_ne_true
  rw [overlayRecord_of_trace trace, hnone, List.append_nil]

theorem sameOverlay_note (actor : Option TaskId) (x : Seen) (silent : x.isOverlay = false)
    (s : Session) : SameOverlay s (s.note actor x) :=
  sameOverlay_of_trace rfl rfl rfl rfl fun e he => by rw [List.mem_singleton.mp he, silent]

/-- Neither frames nor tasks, replies and hooks concern the overlay. -/
theorem sameOverlay_of_rest {timings form hooks replies inFlight nextTask running waiting} :
    SameOverlay s
      { s with timings, form, hooks, replies, inFlight, nextTask, running, waiting } :=
  ⟨rfl, rfl, rfl, rfl⟩

/-- However the collaborator reacts, the overlay stays as it is. -/
theorem sameOverlay_react (m : Method) (f : Frame) (next : Work) (s : Session) :
    SameOverlay s (s.react m f next) := by
  unfold react
  split <;> exact ⟨rfl, rfl, rfl, rfl⟩

theorem sameOverlay_readField (f : Frame) (x : FormField) (next : Work) (s : Session) :
    SameOverlay s (s.readField f x next) :=
  (sameOverlay_note f.actor (.read x) rfl s).trans (sameOverlay_react _ f next _)

theorem callsOverlay_act (actor : Option TaskId) (c : Call) (s : Session) :
    CallsOverlay s (s.act actor c) :=
  ⟨_, fun _ he => OverlayEvent.isCall_of_ofCall? (Option.mem_toList.mp he),
    SameOverlay.refl.act actor c⟩

theorem callsOverlay_call (f : Frame) (c : Call) (next : Work) (s : Session) :
    CallsOverlay s (s.call f c next) :=
  (callsOverlay_act f.actor c s).trans (sameOverlay_react _ f next _).callsOverlay

theorem sameOverlay_endOf (f : Frame) (outcome : Outcome) (s : Session) :
    SameOverlay s { s with trace := s.trace ++ endOf f outcome } := by
  refine sameOverlay_of_trace rfl rfl rfl rfl fun e he => ?_
  unfold endOf at he
  split at he
  · rw [List.mem_singleton.mp he]
    rfl
  · exact absurd he List.not_mem_nil

theorem sameOverlay_panicOf (f : Frame) (message : String) (s : Session) :
    SameOverlay s { s with trace := s.trace ++ [panicOf f message] } := by
  refine sameOverlay_of_trace rfl rfl rfl rfl fun e he => ?_
  rw [List.mem_singleton.mp he]
  unfold panicOf
  split <;> rfl

/-- The records of an answer are no notices. -/
theorem sameOverlay_noteAll (actor : Option TaskId) (answer : Answer) (s : Session) :
    SameOverlay s (s.noteAll actor answer.records) := by
  refine sameOverlay_of_trace rfl rfl rfl rfl fun e he => ?_
  obtain ⟨r, hr, rfl⟩ := List.mem_map.mp he
  unfold Answer.records at hr
  split at hr
  · split at hr
    · rw [List.mem_singleton.mp hr]
      rfl
    · exact absurd hr List.not_mem_nil
  · rw [List.mem_singleton.mp hr]
    rfl

/-- **A step of a frame calls the overlay or leaves it alone.** The cases are those of the work. -/
theorem callsOverlay_stepFrame (f : Frame) (s : Session) : CallsOverlay s (s.stepFrame f) := by
  unfold stepFrame
  split
  · split
    · have hnoted := sameOverlay_note f.actor (.log .triggerIgnored) rfl s
      exact (hnoted.trans sameOverlay_of_rest).callsOverlay
    · split <;> exact (sameOverlay_readField f _ _ s).callsOverlay
  · split
    · exact sameOverlay_of_rest.callsOverlay
    · exact (sameOverlay_readField f _ _ s).callsOverlay
  · split
    · exact sameOverlay_of_rest.callsOverlay
    · exact sameOverlay_of_rest.callsOverlay.trans (callsOverlay_call f .block _ _)
  · exact callsOverlay_call f .hideError _ s
  · next guarded request _ =>
    have hnoted := sameOverlay_note f.actor (.request request) rfl s
    exact (hnoted.trans sameOverlay_of_rest).callsOverlay
  · split
    · split
      · next task _ =>
        dsimp only
        split
        · exact (sameOverlay_of_rest.trans
            (sameOverlay_note f.actor (.task task .pending) rfl _)).callsOverlay
        · exact sameOverlay_of_rest.callsOverlay
      · exact sameOverlay_of_rest.callsOverlay
    · exact sameOverlay_of_rest.callsOverlay
    · next answer replies _ =>
      have hnoted : SameOverlay s ({ s with replies }.noteAll f.actor answer.records) :=
        sameOverlay_of_rest.trans (sameOverlay_noteAll f.actor answer { s with replies })
      dsimp only
      split <;> exact (hnoted.trans sameOverlay_of_rest).callsOverlay
  · exact callsOverlay_call f _ _ s
  · exact sameOverlay_of_rest.callsOverlay.trans (callsOverlay_call f .unblock _ _)
  · have hcalled : CallsOverlay s ({ s with inFlight := false }.act f.actor .unblock) :=
      sameOverlay_of_rest.callsOverlay.trans (callsOverlay_act f.actor .unblock _)
    exact hcalled.trans sameOverlay_of_rest.callsOverlay
  · exact sameOverlay_of_rest.callsOverlay.trans (callsOverlay_call f .unblock _ _)
  · exact callsOverlay_call f _ _ s
  · exact sameOverlay_of_rest.callsOverlay
  · exact (sameOverlay_endOf f _ s).callsOverlay
  · exact (sameOverlay_endOf f _ s).callsOverlay
  · exact (sameOverlay_panicOf f _ s).callsOverlay

theorem callsOverlay_step? (h : s.step? = some s') : CallsOverlay s s' := by
  unfold step? at h
  split at h
  · cases h
  · next f running _ =>
    obtain rfl := Option.some.inj h
    exact sameOverlay_of_rest.callsOverlay.trans (callsOverlay_stepFrame f { s with running })

theorem callsOverlay_settle (s : Session) : CallsOverlay s s.settle := by
  have hsteps : ∀ (n : Nat) (s : Session), CallsOverlay s (steps n s) := by
    intro n
    induction n with
    | zero => exact fun s => SameOverlay.refl.callsOverlay
    | succ n ih =>
      intro s
      unfold steps
      split
      · exact SameOverlay.refl.callsOverlay
      · next s' hstep => exact (callsOverlay_step? hstep).trans (ih s')
  exact hsteps _ s

/-- Work is begun, and done until nothing is left. -/
theorem SameOverlay.settle (h : SameOverlay s s') : CallsOverlay s s'.settle :=
  h.callsOverlay.trans (callsOverlay_settle s')

/-! ## 5. Runs -/

theorem sameOverlay_abandon (task : TaskId) (s : Session) : SameOverlay s (s.abandon task) := by
  unfold Session.abandon
  split
  · exact sameOverlay_note none (.task task .unknown) rfl s
  · have hnoted : SameOverlay s ((s.remove task).note none (.task task .dropped)) :=
      sameOverlay_of_rest.trans (sameOverlay_note none (.task task .dropped) rfl (s.remove task))
    dsimp only
    split
    · exact hnoted.trans sameOverlay_of_rest
    · exact hnoted

/-- **An action calls the overlay or leaves it alone**, until timers are looked at. -/
theorem callsOverlay_perform (a : Action) (s : Session) : CallsOverlay s (s.perform a) := by
  cases a with
  | poll =>
    have hpolls : ∀ (ws : List Waiting) (s : Session), CallsOverlay s (ws.foldl pollTask s) := by
      intro ws
      induction ws with
      | nil => exact fun s => SameOverlay.refl.callsOverlay
      | cons w ws ih =>
        exact fun s => (sameOverlay_of_rest.settle : CallsOverlay s (s.pollTask w)).trans (ih _)
    exact hpolls s.waiting s
  | drop task => exact (sameOverlay_abandon task s).settle
  | trigger t => exact (sameOverlay_of_rest.settle : CallsOverlay s (s.start t).settle)
  | execute request =>
    exact (sameOverlay_of_rest.settle :
      CallsOverlay s (s.launch .execute (.send false request)).settle)
  | advance millis => exact SameOverlay.refl.callsOverlay
  | edit fields => exact sameOverlay_of_rest.callsOverlay
  | configure =>
    exact (sameOverlay_of_rest.settle : CallsOverlay s (s.callDirectly [.configure s.timings]))
  | «show» text isError =>
    exact (sameOverlay_of_rest.settle : CallsOverlay s (s.callDirectly (showCalls text isError)))
  | call c => exact (sameOverlay_of_rest.settle : CallsOverlay s (s.callDirectly [c]))

/-- What steps of a run are to the overlay: in each it is called, then the runtime runs, and then
time passes. -/
inductive StepsPlay : List Step → List OverlayEvent → Prop where
  | nil : StepsPlay [] []
  | cons {p : Step} {steps : List Step} {calls es : List OverlayEvent}
      (only : ∀ e ∈ calls, e.isCall = true) (rest : StepsPlay steps es) :
      StepsPlay (p :: steps) (calls ++ .run :: .advance (elapsed p.action) :: es)

theorem take_plays (p : Step) (s : Session) :
    ∃ calls : List OverlayEvent, (∀ e ∈ calls, e.isCall = true) ∧
      SameOverlay (s.play (calls ++ [.run, .advance (elapsed p.action)])) (s.take p) := by
  have harm : ∀ (hooks : List (Method × Reaction)) (s : Session),
      SameOverlay s (hooks.foldl arm s) := by
    intro hooks
    induction hooks with
    | nil => exact fun s => .refl
    | cons h hooks ih => exact fun s => (sameOverlay_of_rest : SameOverlay s (s.arm h)).trans (ih _)
  have hreply : SameOverlay s { p.hooks.foldl arm s with
      replies := (p.hooks.foldl arm s).replies ++ p.replies } :=
    (harm p.hooks s).trans sameOverlay_of_rest
  obtain ⟨calls, only, same⟩ := hreply.callsOverlay.trans (callsOverlay_perform p.action _)
  refine ⟨calls, only, ?_⟩
  rw [play_append]
  exact same.play [.run, .advance (elapsed p.action)]

/-- **The overlay in a run goes the way of the calls that are made in it.** -/
theorem run_plays (steps : List Step) (s : Session) :
    ∃ es, StepsPlay steps es ∧ SameOverlay (s.play es) (s.run steps) := by
  induction steps generalizing s with
  | nil => exact ⟨[], .nil, .refl⟩
  | cons p steps ih =>
    obtain ⟨calls, only, same⟩ := take_plays p s
    obtain ⟨es, rest, same'⟩ := ih (s.take p)
    refine ⟨_, .cons only rest, ?_⟩
    have hsplit : calls ++ OverlayEvent.run :: .advance (elapsed p.action) :: es =
        (calls ++ [.run, .advance (elapsed p.action)]) ++ es := by
      rw [List.append_assoc]
      rfl
    rw [hsplit, play_append]
    exact (same.play es).trans same'

end Session

end TemplateClient
