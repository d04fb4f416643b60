import TemplateClient.Settings.Basic
import TemplateClient.Program.Name

/-!
# The environment of a process

* `Environment.ofBlock` -- the variables that a process is given;
* `Environment.userFile` -- the path of the user's settings.
-/

namespace TemplateClient.Environment

/-- The pieces of bytes between zero bytes; the current piece is under way (latest first). -/
def pieces (current : List UInt8) : List UInt8 → List (List UInt8)
  | [] => if current.isEmpty then [] else [current.reverse]
  | b :: bs => if b = 0 then current.reverse :: pieces [] bs else pieces (b :: current) bs

/-- The variable that a name, an equals sign and a value make up. -/
def ofPiece? (bytes : List UInt8) : Option (String × String) := do
  let name ← String.fromUTF8? ⟨(bytes.takeWhile (· != 0x3D)).toArray⟩
  let value ← String.fromUTF8? ⟨((bytes.dropWhile (· != 0x3D)).drop 1).toArray⟩
  return (name, value)

/-- The variables of a block, in which each ends with a zero byte. Those that are no text are left
out. -/
def ofBlock (block : ByteArray) : Environment :=
  (pieces [] block.toList).filterMap ofPiece?

/-- The path of the user's settings. They lie in a directory that is named by its absolute path, or
else in the usual one below the home directory. -/
def userFile (env : Environment) : String :=
  let directory := match env.lookup "XDG_CONFIG_HOME" with
    | some path => if path.toList.head? = some '/' then some path else none
    | none => none
  let directory := directory.getD ((env.lookup "HOME").getD "" ++ "/.config")
  directory ++ "/" ++ programName ++ "/config.toml"

end TemplateClient.Environment
