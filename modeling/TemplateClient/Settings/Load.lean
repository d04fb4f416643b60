import TemplateClient.Settings.Basic
import TemplateClient.Files.Disk

/-!
# Loading settings

A file that is named has to be there. Otherwise the file of the user is read if it exists. The
environment comes on top.
-/

namespace TemplateClient.Settings

-- the words in which a document is told to be malformed
variable (words : String → String)

/-- The settings of a file. -/
def fromFile (disk : Disk) (path : String) : Except Failure Settings :=
  match disk.readText path with
  | .error e => .error (.unreadableFile e)
  | .ok text => parse words text

/-- The settings below those of the environment: of the named file, else of the user's file if it
exists, else the built-in ones. -/
def fromFiles (disk : Disk) (userFile : String) (named : Option String) :
    Except Failure Settings :=
  match named with
  | some path => fromFile words disk path
  | none => if disk.holds userFile then fromFile words disk userFile else .ok {}

/-- The settings of files and environment. -/
def load (disk : Disk) (userFile : String) (env : Environment) (named : Option String) :
    Except Failure Settings :=
  match fromFiles words disk userFile named with
  | .error e => .error e
  | .ok s =>
    match s.applyEnv env with
    | (s, .ok ()) => .ok s
    | (_, .error e) => .error (.settings e)

end TemplateClient.Settings
