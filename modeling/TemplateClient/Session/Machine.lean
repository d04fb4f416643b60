import TemplateClient.Session.Panel
import TemplateClient.Session.Overlay
import TemplateClient.Session.Log
import TemplateClient.Text.Blank
import TemplateClient.Text.Lines

/-!
# The session machine

A session is one execute form with its widgets, and everything that is under way on it. Work runs
in frames. The innermost frame runs first, one step at a time; each step makes at most one call.
A collaborator may react at the end of a call: it may start another piece of work, which then runs
in a frame further in, or it may panic, which unwinds the frame that called it.

A submission takes the flag `inFlight`, blocks the page, sends its request, and waits. From then on
it holds a guard: whether it draws the answer, is abandoned or panics, it clears the flag and
unblocks the page. The guard exists once `block` has returned, so a panic in `block` itself leaves
the flag set.

* `Work`, `Frame` -- what a piece of work does next;
* `Seen`, `Entry` -- what can be seen of a session, and who did it;
* `Session` -- the state;
* `Session.step?` -- one step of the innermost frame;
* `Session.settle` -- steps until no frame is left.
-/

namespace TemplateClient

/-! ## 1. Outcomes -/

/-- The number of a task, in the order of start. -/
abbrev TaskId := Nat

/-- What became of a submission. -/
inductive SubmitOutcome where
  /-- Another request was in flight. -/
  | ignored
  /-- The form was refused, and the text was drawn. -/
  | rejected (text : String)
  /-- The request was answered, and the result was drawn. -/
  | completed (result : ExecutionResult)
deriving DecidableEq, Repr

/-- How a task was asked for, which decides the shape of its outcome. -/
inductive Via where
  | submit
  | event
  | execute
deriving DecidableEq, Repr

/-- What a task ends with. -/
inductive Outcome where
  /-- Of a submission that was asked for directly. -/
  | submitted (outcome : SubmitOutcome)
  /-- Of an event; none if it asked for no submission. -/
  | handled (outcome : Option SubmitOutcome)
  /-- Of a request that was sent without the form. -/
  | executed (result : ExecutionResult)
deriving DecidableEq, Repr

/-! ## 2. Work -/

/-- What a piece of work does next. -/
inductive Work where
  /-- Tests the flag and reads the template. -/
  | begin
  /-- Reads the fields; after the last one takes the flag and blocks the page. -/
  | gather (fields : List FormField) (values : FormValues)
  /-- Hides an old error. -/
  | hide (request : FormValues)
  /-- Hands the request to the service, on behalf of a submission or not. -/
  | send (guarded : Bool) (request : FormValues)
  /-- Waits for the answer. -/
  | await (guarded : Bool)
  /-- Draws the result; after the last call the guard is dropped. -/
  | render (calls : List Call) (result : ExecutionResult)
  /-- Drops the guard of a submission that panicked. -/
  | unwind (message : String)
  /-- Drops the guard of a submission that was abandoned. -/
  | abandon
  /-- Makes calls, holding nothing. -/
  | perform (calls : List Call) (outcome : Option SubmitOutcome)
  /-- Has ended. -/
  | finished (outcome : Option SubmitOutcome)
  /-- Has ended with the result of a request that was sent without the form. -/
  | answered (result : ExecutionResult)
  /-- Has panicked. -/
  | panicked (message : String)
deriving DecidableEq, Repr

/-- The work holds the guard: it has taken the flag, and will clear it. -/
def Work.isGuarded : Work → Bool
  | .hide _ => true
  | .send guarded _ => guarded
  | .await guarded => guarded
  | .render _ _ => true
  | .unwind _ => true
  | .abandon => true
  | _ => false

/-- A piece of work that is running. -/
structure Frame where
  /-- The task on whose behalf it runs; none for a call from outside. -/
  actor : Option TaskId
  /-- Its end is the end of that task. -/
  isTask : Bool
  via : Via
  /-- It has not been waiting yet. -/
  fresh : Bool
  work : Work
deriving DecidableEq, Repr

/-- A task that waits for its answer. -/
structure Waiting where
  task : TaskId
  via : Via
  guarded : Bool
deriving DecidableEq, Repr

/-! ## 3. What can be seen -/

/-- How a task stands. -/
inductive TaskState where
  | pending
  | done (outcome : Outcome)
  | panicked (message : String)
  | dropped
  /-- No such task is waiting. -/
  | unknown
deriving DecidableEq, Repr

/-- Something that can be seen of a session. -/
inductive Seen where
  | read (field : FormField)
  | call (call : Call)
  | request (values : FormValues)
  | log (record : LogRecord)
  | print (print : Print)
  | task (task : TaskId) (state : TaskState)
  /-- A panic outside any task. -/
  | panic (message : String)
deriving DecidableEq, Repr

/-- Something seen, and the task that did it, if a task did. -/
structure Entry where
  actor : Option TaskId
  seen : Seen
deriving DecidableEq, Repr

/-! ## 4. The state -/

/-- How a collaborator reacts at the end of a call. -/
inductive Reaction where
  /-- It starts another piece of work. -/
  | start (trigger : Trigger)
  | panic (message : String)
deriving DecidableEq, Repr

/-- What comes back for a request. -/
inductive Reply where
  | answer (answer : Answer)
  | panic (message : String)

/-- One execute form, its widgets, and everything under way. -/
structure Session where
  /-- There is a clock, so timers can run. -/
  hasClock : Bool := true
  /-- The form knows no syntax fields. -/
  bareForm : Bool := false
  /-- The timings that the overlay gets when the page loads. -/
  timings : OverlayTimings := {}
  form : FormValues := {}
  /-- Reactions that wait for the next call of a method. -/
  hooks : List (Method × Reaction) := []
  /-- Replies that wait for the next requests. -/
  replies : List Reply := []
  inFlight : Bool := false
  panel : Panel := {}
  overlay : Overlay := {}
  /-- The time in milliseconds. -/
  clock : Nat := 0
  nextTask : TaskId := 0
  /-- Running work, innermost first. -/
  running : List Frame := []
  /-- Waiting tasks, in the order of their numbers. -/
  waiting : List Waiting := []
  /-- Everything seen so far, in order. -/
  trace : List Entry := []

namespace Session

/-! ## 5. Parts of a step -/

/-- `s` with one more entry in its trace. -/
def note (actor : Option TaskId) (seen : Seen) (s : Session) : Session :=
  { s with trace := s.trace ++ [⟨actor, seen⟩] }

/-- `s` with several log records in its trace. -/
def noteAll (actor : Option TaskId) (records : List LogRecord) (s : Session) : Session :=
  { s with trace := s.trace ++ records.map fun r => ⟨actor, .log r⟩ }

/-- `s` with a frame further in. -/
def enter (f : Frame) (s : Session) : Session :=
  { s with running := f :: s.running }

/-- What a call makes visible besides itself. -/
def sideEffects (s : Session) : Call → List Seen
  | .showContainer => [.print s.panel.record]
  | .update => [.log (.panelLines (Text.lineCount s.panel.content))]
  | .block => if s.hasClock then [] else [.log .busyNotice]
  | _ => []

/-- The own work of a call. -/
def act (actor : Option TaskId) (c : Call) (s : Session) : Session :=
  { s with
    panel := s.panel.after c
    overlay := s.overlay.after s.hasClock c
    trace := s.trace ++ ⟨actor, .call c⟩ :: (s.sideEffects c).map (⟨actor, ·⟩) }

/-- The reaction that waits for a method. -/
def reaction? (m : Method) (s : Session) : Option Reaction :=
  (s.hooks.find? (·.1 == m)).map Prod.snd

/-- `s` without the reaction that waits for a method. -/
def disarm (m : Method) (s : Session) : Session :=
  { s with hooks := s.hooks.filter (·.1 != m) }

/-- The work that a trigger asks for. -/
def workOf (s : Session) : Trigger → Work
  | .submit => .begin
  | .event .pageLoad => .perform [.configure s.timings] none
  | .event .executeClicked => .begin
  | .event (.keyDown k) => if k.isSubmitShortcut then .begin else .finished none

/-- The shape of the outcome that a trigger leads to. -/
def viaOf : Trigger → Via
  | .submit => .submit
  | .event _ => .event

/-- `s` with a new task in the innermost frame. -/
def launch (via : Via) (work : Work) (s : Session) : Session :=
  { s.enter ⟨some s.nextTask, true, via, true, work⟩ with nextTask := s.nextTask + 1 }

/-- `s` with the work of a trigger in the innermost frame. -/
def start (t : Trigger) (s : Session) : Session :=
  s.launch (viaOf t) (s.workOf t)

/-- The work that is left after a panic: an existing guard is dropped first. -/
def afterPanic (guarded : Bool) (message : String) : Work :=
  if guarded then .unwind message else .panicked message

/-- The end of a call or of a reading: the collaborator reacts if it has a reaction waiting. The
frame `f` goes on with `next`, further out than the work that a reaction starts. A panic finds a
guard only if the guard exists both before and after the call. -/
def react (m : Method) (f : Frame) (next : Work) (s : Session) : Session :=
  match s.reaction? m with
  | none => s.enter { f with work := next }
  | some (.start t) => ((s.disarm m).enter { f with work := next }).start t
  | some (.panic message) =>
    (s.disarm m).enter
      { f with work := afterPanic (f.work.isGuarded && next.isGuarded) message }

/-- Frame `f` makes a call and goes on with `next`. -/
def call (f : Frame) (c : Call) (next : Work) (s : Session) : Session :=
  (s.act f.actor c).react c.method f next

/-- Frame `f` reads a field and goes on with `next`. -/
def readField (f : Frame) (x : FormField) (next : Work) (s : Session) : Session :=
  (s.note f.actor (.read x)).react (.read x) f next

/-- The form does not know the field. -/
def lacks (s : Session) (x : FormField) : Bool :=
  s.bareForm && (x == .tagSyntax || x == .interpolationSyntax)

/-- The waiting tasks with one more, in the order of their numbers. -/
def insertWaiting (w : Waiting) : List Waiting → List Waiting
  | [] => [w]
  | v :: vs => if w.task < v.task then w :: v :: vs else v :: insertWaiting w vs

/-- The end of a frame, as it is seen. -/
def endOf (f : Frame) (outcome : Outcome) : List Entry :=
  match f.isTask, f.actor with
  | true, some task => [⟨some task, .task task (.done outcome)⟩]
  | _, _ => []

/-- A panic that leaves a frame, as it is seen. -/
def panicOf (f : Frame) (message : String) : Entry :=
  match f.isTask, f.actor with
  | true, some task => ⟨some task, .task task (.panicked message)⟩
  | _, actor => ⟨actor, .panic message⟩

/-- The outcome of a frame in the shape that was asked for. -/
def outcomeOf (via : Via) (outcome : Option SubmitOutcome) : Outcome :=
  match via, outcome with
  | .submit, some o => .submitted o
  | _, o => .handled o

/-! ## 6. One step -/

/-- The step of a frame `f` that is no longer in `s`. A step that reads a field finds the value that
is handed out to the frame in the form; what a getter does besides, before it hands the value out or
after, stands after the step. So `begin` tests the flag and reads the template in one step. -/
def stepFrame (f : Frame) (s : Session) : Session :=
  match f.work with
  | .begin =>
    if s.inFlight then
      (s.note f.actor (.log .triggerIgnored)).enter { f with work := .finished (some .ignored) }
    else if Text.allBlank s.form.template then
      s.readField f .template
        (.perform (showCalls emptyTemplate true) (some (.rejected emptyTemplate)))
    else
      s.readField f .template (.gather (FormField.all.drop 1) { template := s.form.template })
  | .gather (x :: xs) values =>
    if s.lacks x then s.enter { f with work := .gather xs values }
    else s.readField f x (.gather xs (values.copy x s.form))
  | .gather [] values =>
    if s.inFlight then s.enter { f with work := .finished (some .ignored) }
    else { s with inFlight := true }.call f .block (.hide values)
  | .hide request => s.call f .hideError (.send true request)
  | .send guarded request =>
    (s.note f.actor (.request request)).enter { f with work := .await guarded }
  | .await guarded =>
    match s.replies with
    | [] =>
      match f.actor with
      | some task =>
        let s := { s with waiting := insertWaiting ⟨task, f.via, guarded⟩ s.waiting }
        if f.fresh then s.note f.actor (.task task .pending) else s
      | none => s
    | .panic message :: replies =>
      { s with replies }.enter { f with work := afterPanic guarded message }
    | .answer answer :: replies =>
      let s := { s with replies }.noteAll f.actor answer.records
      let result := ExecutionResult.ofAnswer answer
      if guarded then
        s.enter { f with work := .render (showCalls result.text result.isError) result }
      else s.enter { f with work := .answered result }
  | .render (c :: cs) result => s.call f c (.render cs result)
  | .render [] result =>
    { s with inFlight := false }.call f .unblock (.finished (some (.completed result)))
  | .unwind message =>
    ({ s with inFlight := false }.act f.actor .unblock).enter { f with work := .panicked message }
  | .abandon => { s with inFlight := false }.call f .unblock (.finished none)
  | .perform (c :: cs) outcome => s.call f c (.perform cs outcome)
  | .perform [] outcome => s.enter { f with work := .finished outcome }
  | .finished outcome =>
    { s with trace := s.trace ++ endOf f (outcomeOf f.via outcome) }
  | .answered result => { s with trace := s.trace ++ endOf f (.executed result) }
  | .panicked message => { s with trace := s.trace ++ [panicOf f message] }

/-- One step of the innermost frame, if there is one. -/
def step? (s : Session) : Option Session :=
  match s.running with
  | [] => none
  | f :: running => some ({ s with running }.stepFrame f)

/-! ## 7. Until no frame is left -/

/-- A bound for the steps that a frame still takes, reactions apart. -/
def weight : Work → Nat
  | .begin => 18
  | .gather fields _ => fields.length + 11
  | .hide _ => 10
  | .send _ _ => 9
  | .await _ => 8
  | .render calls _ => calls.length + 3
  | .unwind _ => 2
  | .abandon => 2
  | .perform calls _ => calls.length + 2
  | .finished _ => 1
  | .answered _ => 1
  | .panicked _ => 1

/-- A bound for the steps that several frames still take, reactions apart. -/
def totalWeight : List Frame → Nat
  | [] => 0
  | f :: fs => weight f.work + totalWeight fs

/-- A bound for the steps until no frame is left: a reaction starts at most one frame. -/
def bound (s : Session) : Nat :=
  totalWeight s.running + s.hooks.length * 19

/-- At most `n` steps. -/
def steps : Nat → Session → Session
  | 0, s => s
  | n + 1, s =>
    match s.step? with
    | none => s
    | some s => steps n s

/-- Steps until no frame is left. -/
def settle (s : Session) : Session :=
  steps s.bound s

end Session

end TemplateClient
