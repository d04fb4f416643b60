import TemplateClient.Program.Run

/-!
# Processes

A run needs a process that starts, and takes over the variables of the environment file. Two things
are in its way that end the process with a panic: a number of worker threads that is none, and a
value with a zero character, which no variable of a process can have.

* `Environment.threadsPanic?`, `Environment.filePanic?` -- the two panics;
* `Invocation.panic?` -- the report of a process that panics before the settings are loaded;
* `Invocation.start`, `Invocation.process` -- a whole process, by whatever means requests are sent,
  and on a network.
-/

namespace TemplateClient

/-! ## 1. Panics -/

/-- The code that a process exits with after a panic. -/
def panicCode : Nat := 101

namespace Environment

/-- The variable of the number of worker threads. -/
def threadsKey : String := "TOKIO_WORKER_THREADS"

/-- What is wrong with the number of worker threads that an environment asks for, if something
is. -/
def threadsPanic? (env : Environment) : Option String :=
  match env.lookup threadsKey with
  | none => none
  | some value =>
    match word? value.toList with
    | none => some (threadsKey ++ " must be a number of threads, got " ++ value)
    | some 0 => some (threadsKey ++ " cannot be set to 0")
    | some _ => none

/-- The first variable of a file that is not set yet and cannot be, if there is one. -/
def filePanic? (env : Environment) (content : ByteArray) : Option String :=
  (((env.withFile content).drop env.length).find? fun e => e.2.toList.contains '\x00').map fun e =>
    "failed to set environment variable " ++ e.1

end Environment

/-! ## 2. Whole processes -/

namespace Invocation

/-- The report of a process that panics before the settings are loaded. Threads come first, then the
arguments, the banner and the environment file. -/
def panic? (i : Invocation) : Option Report :=
  match i.environment.threadsPanic? with
  | some message => some { exitCode := panicCode, errors := i.panicWords message }
  | none =>
    match CommandLine.parse i.args, i.disk.read environmentFile with
    | .ok _, .ok content => (i.environment.filePanic? content).map fun message =>
      { exitCode := panicCode, errors := banner ++ i.panicWords message }
    | _, _ => none

/-- The report of a process, whose client sends requests by `send`. -/
def start {m : Type → Type} [Monad m] (client : Client)
    (send : Origin → HttpRequest → m (Option HttpReply)) (i : Invocation) : m Report :=
  match i.panic? with
  | some report => return report
  | none => i.execute client send

/-- The report of a process on a network, and all that the network is asked. -/
def process (net : Network) (i : Invocation) : Report × Asked :=
  (i.start net.toClient net.send).run []

end Invocation

end TemplateClient
