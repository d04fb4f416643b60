import TemplateClient.CommandLine.Flag

/-!
# Reading arguments

Arguments are read from left to right. A flag may have its value attached, or take the next
argument as its value. A flag is settled -- has it a value, does it stand twice, is the value
allowed -- when its value is attached, and otherwise only when the next flag or the end comes. An
argument that nothing can be made of stops the reading at once, before the flag in front of it is
settled.

* `Argument` -- an argument by its outer form;
* `Reading`, `Reading.take` -- what has been read, and the effect of one more argument;
* `CommandLine.parse` -- a whole command line.
-/

namespace TemplateClient

/-! ## 1. Single arguments -/

/-- An argument by its outer form. -/
inductive Argument where
  /-- Two hyphens and nothing else. -/
  | separator
  /-- Two hyphens and a name, perhaps with a value after an equals sign. -/
  | long (name : String) (value : Option String)
  /-- One hyphen and a letter, and what is attached to it. -/
  | short (letter : Char) (rest : List Char)
  /-- Anything else, a lone hyphen included. -/
  | plain (text : String)
deriving DecidableEq, Repr

/-- The outer form of an argument. -/
def Argument.ofText (text : String) : Argument :=
  match text.toList with
  | ['-', '-'] => .separator
  | '-' :: '-' :: cs =>
    let name := String.ofList (cs.takeWhile (· != '='))
    match cs.dropWhile (· != '=') with
    | [] => .long name none
    | _ :: value => .long name (some (String.ofList value))
  | '-' :: c :: cs => .short c cs
  | _ => .plain text

/-- The value attached to a letter: an equals sign in front of it does not count. -/
def attached? : List Char → Option String
  | [] => none
  | '=' :: value => some (String.ofList value)
  | value => some (String.ofList value)

/-! ## 2. The reading -/

/-- A flag whose value is not attached. -/
inductive Pending where
  | nothing
  /-- The flag still waits for its value. -/
  | waiting (flag : Flag)
  /-- The flag has its value, but has not been settled. -/
  | holding (flag : Flag) (value : String)
deriving DecidableEq, Repr

/-- What has been read. -/
structure Reading where
  /-- The flags that have been settled. -/
  values : List (Flag × String) := []
  pending : Pending := .nothing
  /-- A separator has been read; no flag can follow it. -/
  closed : Bool := false
deriving DecidableEq, Repr

namespace Reading

/-- Settles a flag with its value. -/
def assign (flag : Flag) (value : String) (r : Reading) : Except UsageStop Reading :=
  if (r.values.lookup flag).isSome then .error .repeatedFlag
  else if flag.isPath && value.isEmpty then .error .invalidValue
  else .ok { r with values := r.values ++ [(flag, value)] }

/-- Settles the flag that is pending. -/
def settle (r : Reading) : Except UsageStop Reading :=
  match r.pending with
  | .nothing => .ok r
  | .waiting _ => .error .invalidValue
  | .holding flag value => { r with pending := .nothing }.assign flag value

/-- A flag, with the value that is attached to it. -/
def takeFlag (flag : Flag) (value : Option String) (r : Reading) : Except UsageStop Reading := do
  let r ← r.settle
  match value with
  | some value => r.assign flag value
  | none => return { r with pending := .waiting flag }

/-- Settles what is pending and stops. -/
def stop (why : UsageStop) (r : Reading) : Except UsageStop Reading := do
  let _ ← r.settle
  throw why

/-- The effect of one more argument. -/
def take (r : Reading) (text : String) : Except UsageStop Reading :=
  if r.closed then .error .unknownArgument
  else match Argument.ofText text with
    | .separator => .ok { r with closed := true }
    | .long name value =>
      match Flag.ofLong? name with
      | some flag => r.takeFlag flag value
      | none =>
        if name = "help" ∨ name = "version" then
          if value.isSome then .error .unexpectedValue
          else r.stop (if name = "help" then .help else .version)
        else .error .unknownArgument
    | .short letter rest =>
      match Flag.ofShort? letter with
      | some flag => r.takeFlag flag (attached? rest)
      | none =>
        if letter = 'h' then r.stop .help
        else if letter = 'V' then r.stop .version
        else .error .unknownArgument
    | .plain text =>
      match r.pending with
      | .waiting flag => .ok { r with pending := .holding flag text }
      | _ => .error .unknownArgument

end Reading

/-! ## 3. Command lines -/

/-- The command line that the arguments spell. -/
def CommandLine.parse (args : List String) : Except UsageStop CommandLine := do
  let r ← args.foldlM Reading.take {}
  let r ← r.settle
  match CommandLine.ofValues? fun flag => r.values.lookup flag with
  | some c => return c
  | none => throw .missingTemplate

end TemplateClient
