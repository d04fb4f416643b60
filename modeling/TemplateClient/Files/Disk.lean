import TemplateClient.Service.Failure

/-!
# Disks

What the program can read from files: the content behind a path, or why there is none.

* `Disk` -- what paths lead to;
* `Disk.readText` -- the text of a file, which has to be UTF-8.
-/

namespace TemplateClient

/-- What paths lead to. -/
structure Disk where
  /-- The content of the file that a path leads to. -/
  read : String → Except FileError ByteArray
  /-- The path leads to a file or a directory. -/
  holds : String → Bool

/-- The text that bytes encode in UTF-8. -/
def decodeText (content : ByteArray) : Except FileError String :=
  match String.fromUTF8? content with
  | some text => .ok text
  | none => .error .notText

/-- The text of the file that a path leads to. -/
def Disk.readText (disk : Disk) (path : String) : Except FileError String :=
  match disk.read path with
  | .error e => .error e
  | .ok content => decodeText content

end TemplateClient
