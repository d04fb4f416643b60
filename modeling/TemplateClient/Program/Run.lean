import TemplateClient.CommandLine.Form
import TemplateClient.CommandLine.Help
import TemplateClient.Settings.EnvironmentFile
import TemplateClient.Http.Exchange
import TemplateClient.Session.Run

/-!
# Runs of the program

A run reads its arguments, loads the settings, fills the form, and executes it once. It ends early
where one of these steps fails, or where the arguments ask for a text.

* `Invocation` -- what a run finds;
* `Invocation.prepare` -- the steps before the form is executed: a plan, or the report of a run
  that ends early;
* `Plan.begun`, `Plan.ended` -- the session when the form has been submitted, and after the answer;
* `Report` -- what a run prints, and its exit code;
* `Invocation.execute` -- a whole run, by whatever means requests are sent;
* `Invocation.run` -- a whole run on a network.
-/

namespace TemplateClient

/-! ## 1. What a run finds, and what it leaves -/

/-- What a run finds. -/
structure Invocation where
  args : List String
  disk : Disk
  /-- Standard input. -/
  input : ByteArray := .empty
  environment : Environment := []
  /-- The path of the user's settings. -/
  userFile : String
  /-- The words in which a document of settings is told to be malformed. -/
  tomlWords : String → String := fun _ => "the document does not describe settings"
  /-- The words in which a panic is reported. -/
  panicWords : String → String := fun message => "panicked: " ++ message ++ "\n"

/-- What a run prints, and the code that it exits with. -/
structure Report where
  exitCode : Nat
  output : String := ""
  errors : String := ""
deriving DecidableEq, Repr

/-- The file of variables that a run reads. -/
def environmentFile : String := ".env"

/-! ## 2. Before the form is executed -/

/-- A form that is ready to be executed. -/
structure Plan where
  url : String
  timings : OverlayTimings
  form : FormValues
deriving DecidableEq, Repr

/-- The report of a run whose arguments are no command. -/
def UsageStop.report (stop : UsageStop) : Report :=
  match stop.display? with
  | some text => { exitCode := 0, output := text }
  | none => { exitCode := 2, errors := "error: " ++ stop.message ++ "\n" }

/-- The report of a run that stops at a failure. -/
def Failure.report (failure : Failure) : Report :=
  { exitCode := 1, errors := banner ++ (Print.ofError failure.message).text }

namespace Invocation

/-- The environment with the variables of the environment file, if there is one. -/
def fullEnvironment (i : Invocation) : Environment :=
  match i.disk.read environmentFile with
  | .ok content => i.environment.withFile content
  | .error _ => i.environment

/-- The plan of a command. -/
def planOf (i : Invocation) (c : CommandLine) : Except Failure Plan := do
  let settings ← Settings.load i.tomlWords i.disk i.userFile i.fullEnvironment c.config
  let settings := c.applyTo settings
  let form ← (c.readForm settings.defaults i.disk i.input).mapError .unreadableFile
  return { url := settings.executeUrl, timings := settings.overlay, form }

/-- The plan of a run, or the report of a run that ends before it has one. -/
def prepare (i : Invocation) : Except Report Plan :=
  match CommandLine.parse i.args with
  | .error stop => .error stop.report
  | .ok c => (i.planOf c).mapError Failure.report

end Invocation

/-! ## 3. The execution of the form -/

namespace Plan

/-- The session in which the page has been loaded and the execute button has been clicked. -/
def begun (p : Plan) : Session :=
  ({ timings := p.timings, form := p.form } : Session).run
    [{ action := .trigger (.event .pageLoad) }, { action := .trigger (.event .executeClicked) }]

/-- The session after an answer has come. -/
def ended (p : Plan) (answer : Answer) : Session :=
  p.begun.take { replies := [.answer answer], action := .poll }

end Plan

namespace Session

/-- The requests that have been sent, in order. -/
def requests (s : Session) : List FormValues :=
  s.trace.filterMap fun e => match e.seen with
    | .request values => some values
    | _ => none

/-- What has been printed on a stream. -/
def printed (stream : Stream) (s : Session) : String :=
  String.join <| s.trace.filterMap fun e => match e.seen with
    | .print p => if p.stream = stream then some p.text else none
    | _ => none

/-- A task has ended with a success. -/
def hasSucceeded (s : Session) : Bool :=
  s.trace.any fun e => match e.seen with
    | .task _ (.done (.handled (some (.completed result)))) => !result.isError
    | _ => false

/-- The report of a run that ends with the session. -/
def report (s : Session) : Report where
  exitCode := if s.hasSucceeded then 0 else 1
  output := s.printed .output
  errors := banner ++ s.printed .error

end Session

/-! ## 4. Whole runs -/

namespace Invocation

/-- The report of a run, whose client sends requests by `send`. -/
def execute {m : Type → Type} [Monad m] (client : Client)
    (send : Origin → HttpRequest → m (Option HttpReply)) (i : Invocation) : m Report :=
  match i.prepare with
  | .error report => return report
  | .ok plan =>
    match plan.begun.requests with
    | [] => return plan.begun.report
    | values :: _ => return (plan.ended (← client.exchange send plan.url values)).report

/-- The report of a run on a network, and all that the network is asked. -/
def run (net : Network) (i : Invocation) : Report × Asked :=
  (i.execute net.toClient net.send).run []

end Invocation

end TemplateClient
