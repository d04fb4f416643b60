import TemplateClient.Http.Wire
import TemplateClient.Program.Process
import TemplateClient.Http.Folding
import TemplateClient.Settings.Process
import Std.Async.TCP
import Std.Async.DNS

/-!
# The program

Reads what a run needs, posts the request over TCP, and prints the report.
-/

namespace TemplateClient.Main

open Std.Net Std.Async

/-! ## 1. Files and variables -/

/-- The cause of an error of the system. -/
def fileError : IO.Error → FileError
  | .noFileOrDirectory _ _ _ => .notFound
  | .noSuchThing _ _ _ => .notFound
  | .inappropriateType _ 20 _ => .notDirectory
  | .inappropriateType _ _ _ => .isDirectory
  | .invalidArgument _ 36 _ => .nameTooLong
  | .permissionDenied _ code details => .other (details ++ " (os error " ++ toString code ++ ")")
  | e => .other (toString e)

/-- The content of a file. -/
def readFile (path : String) : IO (Except FileError ByteArray) := do
  try return .ok (← (← IO.FS.Handle.mk path .read).readBinToEnd)
  catch e => return .error (fileError e)

/-- The environment file in the working directory, or in the nearest directory above it that has
one. -/
def findEnvironmentFile : Nat → String → IO (Except FileError ByteArray)
  | 0, _ => return .error .notFound
  | n + 1, path => do
    match ← readFile path with
    | .error .notFound => findEnvironmentFile n ("../" ++ path)
    | .error .isDirectory => findEnvironmentFile n ("../" ++ path)
    | found => return found

/-- The variables of this process. -/
def readEnvironment : IO Environment := do
  match ← readFile "/proc/self/environ" with
  | .ok content => return Environment.ofBlock content
  | .error _ => return []

/-- The disk as far as a run looks at it: the environment file, and the files at the given paths. -/
def readDisk (shared : Except FileError ByteArray) (paths : List String) : IO Disk := do
  let files ← paths.mapM fun path => return (path, ← readFile path)
  let files := (environmentFile, shared) :: files
  let read := fun path => (files.lookup path).getD (.error .notFound)
  return {
    read
    holds := fun path => match read path with
      | .error .notFound => false
      | .error .notDirectory => false
      | .error .nameTooLong => false
      | _ => true }

/-- The bytes that a stream still holds, after those in `front`. -/
partial def readInput (stream : IO.FS.Stream) (front : ByteArray) : IO ByteArray := do
  let bytes ← stream.read 65536
  if bytes.isEmpty then return front else readInput stream (front ++ bytes)

/-- What a run finds. The user's settings are looked for with the variables of the environment file,
which come first. -/
def invocation (args : List String) : IO Invocation := do
  let environment ← readEnvironment
  match CommandLine.parse args with
  | .error _ =>
    let disk : Disk := ⟨fun _ => .error .notFound, fun _ => false⟩
    return { args, environment, disk, userFile := "" }
  | .ok c =>
    let shared ← findEnvironmentFile 64 environmentFile
    let full := match shared with
      | .ok content => environment.withFile content
      | .error _ => environment
    let userFile := full.userFile
    let sources := c.template :: c.dataModel.toList
    let input ←
      if sources.any fun path => Source.ofPath path = .standardInput then
        readInput (← IO.getStdin) .empty
      else pure .empty
    return {
      args, environment, userFile, input
      disk := ← readDisk shared (userFile :: c.config.toList ++ sources) }

/-! ## 2. The network -/

/-- The addresses of a host. -/
def addresses : Host → Async (List IPAddr)
  | .ipv4 n =>
    match Host.ipv4Bytes n with
    | [a, b, c, d] => return [.v4 (.ofParts a b c d)]
    | _ => return []
  | .ipv6 groups =>
    match groups.map Nat.toUInt16 with
    | [a, b, c, d, e, f, g, h] => return [.v6 (.ofParts a b c d e f g h)]
    | _ => return []
  | .name text => return (← DNS.getAddrInfo text "").toList

/-- The bytes that come from a connection until it ends, after those in `front`. -/
partial def receive (socket : TCP.Socket.Client) (front : ByteArray) : Async ByteArray := do
  match ← (try socket.recv? 65536 catch _ => pure none) with
  | some bytes => receive socket (front ++ bytes)
  | none => return front

/-- What comes back from an address for a request. -/
def talk (address : SocketAddress) (request : ByteArray) : Async ByteArray := do
  let socket ← TCP.Socket.Client.mk
  socket.connect address
  socket.send request
  receive socket .empty

/-- What comes back from an origin for a request. There are no encrypted connections. -/
def send (origin : Origin) (request : HttpRequest) : IO (Option HttpReply) := do
  if origin.scheme = .https then return none
  try
    let bytes ← Async.block do
      for address in ← addresses origin.host do
        let target : SocketAddress := match address with
          | .v4 a => .v4 ⟨a, origin.port.toUInt16⟩
          | .v6 a => .v6 ⟨a, origin.port.toUInt16⟩
        try
          return ← talk target (request.toBytes origin)
        catch _ => pure ()
      return .empty
    return HttpReply.ofBytes? bytes.toList
  catch _ => return none

/-- Names of hosts are folded, and a reply points to a whole address or to a path of its origin. -/
def client : Client where
  toAscii? := Host.foldName?
  refer? := Address.refer? Host.foldName?

end TemplateClient.Main

/-! ## 3. The run -/

/-- Runs the program. -/
def main (args : List String) : IO UInt32 := do
  let i ← TemplateClient.Main.invocation args
  let report ← i.start TemplateClient.Main.client TemplateClient.Main.send
  (← IO.getStderr).putStr report.errors
  (← IO.getStdout).putStr report.output
  return report.exitCode.toUInt32
