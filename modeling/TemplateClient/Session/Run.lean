import TemplateClient.Session.Machine

/-!
# Runs of a session

A run is a sequence of actions from outside. Before an action, collaborators can be told how to
react to their next calls, and replies of the service can be made ready. After it, the work that it
caused runs until nothing is left to do, and started timers begin to run.

* `Action`, `Step` -- what can be done from outside;
* `Session.take` -- the session after a step;
* `Session.run` -- the session after several steps;
* `Session.close` -- the session after the waiting tasks have been dropped.
-/

namespace TemplateClient

/-! ## 1. Actions -/

/-- Something done to a session from outside. -/
inductive Action where
  /-- A trigger starts a task. -/
  | trigger (t : Trigger)
  /-- A request is sent without the form. -/
  | execute (request : FormValues)
  /-- Every waiting task looks for its answer, in the order of the numbers. -/
  | poll
  /-- A waiting task is abandoned. -/
  | drop (task : TaskId)
  /-- Time passes. -/
  | advance (millis : Nat)
  /-- Fields of the form get new values; a syntax field may become absent. -/
  | edit (fields : List (FormField × Option String))
  /-- The overlay gets the timings of the form. -/
  | configure
  /-- A text is drawn. -/
  | show (text : String) (isError : Bool)
  /-- A widget is called directly. -/
  | call (c : Call)
deriving DecidableEq, Repr

/-- An action, and what is arranged before it. -/
structure Step where
  hooks : List (Method × Reaction) := []
  replies : List Reply := []
  action : Action

/-- `v` with another value for a field; a field that cannot be absent becomes empty. -/
def FormValues.set (f : FormField) (value : Option String) (v : FormValues) : FormValues :=
  match f with
  | .template => { v with template := value.getD "" }
  | .dataModel => { v with dataModel := value.getD "" }
  | .outputFormat => { v with outputFormat := value.getD "" }
  | .locale => { v with locale := value.getD "" }
  | .timeZone => { v with timeZone := value.getD "" }
  | .tagSyntax => { v with tagSyntax := value }
  | .interpolationSyntax => { v with interpolationSyntax := value }

namespace Session

/-! ## 2. Parts of a step -/

/-- `s` with a reaction waiting for a method, in place of one that waited before. -/
def arm (s : Session) (h : Method × Reaction) : Session :=
  { s with hooks := h :: (s.disarm h.1).hooks }

/-- `s` with a frame that makes calls from outside. -/
def address (calls : List Call) (s : Session) : Session :=
  s.enter ⟨none, false, .event, true, .perform calls none⟩

/-- `s` after calls from outside. -/
def callDirectly (calls : List Call) (s : Session) : Session :=
  (s.address calls).settle

/-- `s` without a task among the waiting ones. -/
def remove (task : TaskId) (s : Session) : Session :=
  { s with waiting := s.waiting.filter (·.task != task) }

/-- `s` with a waiting task that looks for its answer in the innermost frame. -/
def resume (w : Waiting) (s : Session) : Session :=
  (s.remove w.task).enter ⟨some w.task, true, w.via, false, .await w.guarded⟩

/-- `s` after a waiting task has looked for its answer. -/
def pollTask (s : Session) (w : Waiting) : Session :=
  (s.resume w).settle

/-- `s` in which a task is abandoned; a guard that it holds is dropped in the innermost frame. -/
def abandon (task : TaskId) (s : Session) : Session :=
  match s.waiting.find? (·.task == task) with
  | none => s.note none (.task task .unknown)
  | some w =>
    let s := (s.remove task).note none (.task task .dropped)
    if w.guarded then s.enter ⟨some task, false, w.via, false, .abandon⟩ else s

/-- `s` after a task has been abandoned. -/
def dropTask (task : TaskId) (s : Session) : Session :=
  (s.abandon task).settle

/-- `s` with the overlay as `change` leaves it, and a busy notice if that gave one. -/
def runTimer (change : Overlay → Overlay × Bool) (s : Session) : Session :=
  let (overlay, notice) := change s.overlay
  let s := { s with overlay }
  if notice then s.note none (.log .busyNotice) else s

/-- `s` after the action itself, before timers are looked at. -/
def perform (s : Session) : Action → Session
  | .trigger t => (s.start t).settle
  | .execute request => (s.launch .execute (.send false request)).settle
  | .poll => s.waiting.foldl pollTask s
  | .drop task => s.dropTask task
  | .advance _ => s
  | .edit fields => { s with form := fields.foldl (fun v (f, value) => v.set f value) s.form }
  | .configure => s.callDirectly [.configure s.timings]
  | .show text isError => s.callDirectly (showCalls text isError)
  | .call c => s.callDirectly [c]

/-- The time that an action lets pass. -/
def elapsed : Action → Nat
  | .advance millis => millis
  | _ => 0

/-! ## 3. Steps and runs -/

/-- The session after a step. -/
def take (s : Session) (step : Step) : Session :=
  let s := step.hooks.foldl arm s
  let s := { s with replies := s.replies ++ step.replies }
  let s := s.perform step.action
  let s := s.runTimer (Overlay.wake s.clock)
  let s := { s with clock := s.clock + elapsed step.action }
  s.runTimer (Overlay.tick s.clock)

/-- The session after several steps. -/
def run (s : Session) (steps : List Step) : Session :=
  steps.foldl take s

/-- The session after every task that waits has been dropped, in the order of the numbers. A task
that a reaction starts meanwhile is left as it is. -/
def close (s : Session) : Session :=
  s.waiting.foldl (fun s w => s.dropTask w.task) s

end Session

end TemplateClient
