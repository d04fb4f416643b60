import TemplateClient.Settings.Basic
import TemplateClient.Text.Alphanumeric

/-!
# Environment files

A file of variables adds to the environment. Each line gives one variable, unless quotes are open at
its end: then the next line belongs to it. A variable that is set already keeps its value. The first
line that is no variable ends the reading, but the variables in front of it stay.

* `EnvironmentFile.logicalLines` -- lines that are joined where quotes are open;
* `EnvironmentFile.value?` -- a value, with quotes, escapes and substitutions;
* `EnvironmentFile.line?` -- a line;
* `Environment.withFile` -- the environment with the variables of a file.
-/

namespace TemplateClient

namespace EnvironmentFile

/-! ## 1. Lines -/

/-- What is open at some place of a line. -/
inductive Quoting where
  | none
  /-- After white space, where a number sign begins a comment. -/
  | space
  | escape
  | single
  | singleEscape
  | double
  | doubleEscape
deriving DecidableEq, Repr

/-- What is open after one more character. -/
def Quoting.after (q : Quoting) (c : Char) : Quoting :=
  match q with
  | .escape => .none
  | .double => if c = '\\' then .doubleEscape else if c = '\x22' then .none else .double
  | .doubleEscape => .double
  | .single => if c = '\\' then .singleEscape else if c = '\x27' then .none else .single
  | .singleEscape => .single
  | q =>
    if c = '\\' then .escape
    else if c = '\x22' then .double
    else if c = '\x27' then .single
    else if q = .none ∧ Text.isBlank c ∧ c ≠ '\n' ∧ c ≠ '\r' then .space
    else .none

/-- What is open at the end of the characters, or the characters in front of a comment. -/
def scan (q : Quoting) (front : List Char) : List Char → Quoting ⊕ List Char
  | [] => .inl q
  | c :: cs =>
    if q = .space ∧ c = '#' then .inr front.reverse else scan (q.after c) (c :: front) cs

/-- The line without its line end. -/
def chomp (cs : List Char) : List Char :=
  match cs.reverse with
  | '\n' :: '\r' :: rest => rest.reverse
  | '\n' :: rest => rest.reverse
  | _ => cs

/-- The logical lines of the physical lines, each with its line end; a line that is no text is
`none`. The reading stops at such a line, and at an end inside quotes or after white space. -/
def logicalLines (front : List Char) (q : Quoting) :
    List (Option (List Char)) → List (Option (List Char))
  | [] => if q = .none then [] else [none]
  | none :: _ => [none]
  | some l :: ls =>
    if ((front ++ l).dropWhile Text.isBlank).head? = some '#' then
      some [] :: logicalLines [] .none ls
    else match scan q [] l with
      | .inr kept => some (front ++ kept) :: logicalLines [] .none ls
      | .inl .none => some (chomp (front ++ l)) :: logicalLines [] .none ls
      | .inl q => logicalLines (front ++ l) q ls

/-- The physical lines of bytes, each with its line end; the current line is under way (latest
first). -/
def physicalLines (current : List UInt8) : List UInt8 → List (List UInt8)
  | [] => if current.isEmpty then [] else [current.reverse]
  | b :: bs =>
    if b = 0x0A then (b :: current).reverse :: physicalLines [] bs
    else physicalLines (b :: current) bs

/-- The characters of a physical line, if it is text. -/
def decodeLine (bytes : List UInt8) : Option (List Char) :=
  (String.fromUTF8? ⟨bytes.toArray⟩).map String.toList

/-! ## 2. Values -/

/-- Variables that lines have given, latest first, and what each has given. -/
abbrev Given := List (String × String)

/-- The value that stands for a name inside a value: of the environment, else of an earlier line,
else nothing. -/
def substitute (env : Environment) (given : Given) (name : List Char) : List Char :=
  let name := String.ofList name.reverse
  (((env.lookup name).orElse fun _ => given.lookup name).getD "").toList

/-- Where the reading of a value stands; `name` is kept latest first. -/
inductive Mode where
  | plain
  | single
  /-- After a dollar sign: letters and digits of any script are a name. -/
  | name (quoted : Bool) (name : List Char)
  /-- After a dollar sign and a brace: everything up to the closing brace is a name. -/
  | braced (quoted : Bool) (name : List Char)
  | double
  | escape (quoted : Bool)
  /-- After the value: only a comment may follow. -/
  | after
deriving DecidableEq, Repr

/-- The mode outside of a substitution. -/
def Mode.base (quoted : Bool) : Mode := if quoted then .double else .plain

/-- The character that an escape names. -/
def escape? (c : Char) : Option Char :=
  if c = '\\' ∨ c = '\x27' ∨ c = '\x22' ∨ c = '$' ∨ c = ' ' then some c
  else if c = 'n' then some '\n'
  else none

/-- The value that characters spell, after `out` (latest first). A value that ends inside quotes or
braces is none. -/
def valueFrom? (env : Environment) (given : Given) (mode : Mode) (out : List Char) :
    List Char → Option (List Char)
  | [] =>
    match mode with
    | .single => none
    | .double => none
    | .braced _ _ => none
    | .escape quoted => if quoted then none else some out.reverse
    | .name quoted name =>
      if quoted then none else some (out.reverse ++ substitute env given name)
    | _ => some out.reverse
  | c :: cs =>
    match mode with
    | .after =>
      if c = ' ' ∨ c = '\t' then valueFrom? env given .after out cs
      else if c = '#' then some out.reverse
      else none
    | .escape quoted =>
      match escape? c with
      | some d => valueFrom? env given (.base quoted) (d :: out) cs
      | none => none
    | .single =>
      if c = '\x27' then valueFrom? env given .plain out cs
      else valueFrom? env given .single (c :: out) cs
    | .name quoted name =>
      if Text.isAlphanumeric c then valueFrom? env given (.name quoted (c :: name)) out cs
      else if c = '\x7b' ∧ name.isEmpty then valueFrom? env given (.braced quoted []) out cs
      else
        let out := (substitute env given name).reverse ++ out
        if c = '$' then valueFrom? env given (.name quoted []) out cs
        else valueFrom? env given (.base quoted) (c :: out) cs
    | .braced quoted name =>
      if c = '\x7d' then
        valueFrom? env given (.base quoted) ((substitute env given name).reverse ++ out) cs
      else valueFrom? env given (.braced quoted (c :: name)) out cs
    | .double =>
      if c = '$' then valueFrom? env given (.name true []) out cs
      else if c = '\x22' then valueFrom? env given .plain out cs
      else if c = '\\' then valueFrom? env given (.escape true) out cs
      else valueFrom? env given .double (c :: out) cs
    | .plain =>
      if c = '$' then valueFrom? env given (.name false []) out cs
      else if c = '\x27' then valueFrom? env given .single out cs
      else if c = '\x22' then valueFrom? env given .double out cs
      else if c = '\\' then valueFrom? env given (.escape false) out cs
      else if c = ' ' ∨ c = '\t' then valueFrom? env given .after out cs
      else valueFrom? env given .plain (c :: out) cs

/-! ## 3. Variables -/

/-- The name in front, and what follows it. -/
def name? (cs : List Char) : Option (String × List Char) :=
  match cs with
  | [] => none
  | c :: _ =>
    if c.isAlpha || c == '_' then
      let isPart := fun (c : Char) => c.isAlphanum || c == '_' || c == '.'
      some (String.ofList (cs.takeWhile isPart), cs.dropWhile isPart)
    else none

/-- The text without the white space in front. -/
def skip (cs : List Char) : List Char := cs.dropWhile Text.isBlank

/-- What follows an equals sign and white space. -/
def afterEquals? : List Char → Option (List Char)
  | '=' :: cs => some (skip cs)
  | _ => none

/-- The name of a line's variable, and what follows the equals sign. The word `export` in front is
skipped, unless it is the name itself. -/
def assignment? (cs : List Char) : Option (String × List Char) :=
  match name? cs with
  | none => none
  | some (name, cs) =>
    match afterEquals? (skip cs) with
    | some value => some (name, value)
    | none =>
      if name = "export" then
        match name? (skip cs) with
        | none => none
        | some (name, cs) => (afterEquals? (skip cs)).map (name, ·)
      else none

/-- The variable that a line gives: an error if it is malformed, nothing if it gives none. -/
def line? (env : Environment) (given : Given) (cs : List Char) :
    Option (Option (String × String)) :=
  let cs := skip (Text.dropEndWhile Text.isBlank cs)
  if cs.isEmpty || cs.head? == some '#' then some none
  else match assignment? cs with
    | none => none
    | some (name, value) =>
      if value.isEmpty || value.head? == some '#' then some (some (name, ""))
      else (valueFrom? env given .plain [] value).map fun v => some (name, String.ofList v)

/-- The environment with the variables of the lines, up to the first malformed one. -/
def addLines (env : Environment) (given : Given) : List (Option (List Char)) → Environment
  | [] => env
  | none :: _ => env
  | some l :: ls =>
    match line? env given l with
    | none => env
    | some none => addLines env given ls
    | some (some (name, value)) =>
      let env' := if (env.lookup name).isSome then env else env ++ [(name, value)]
      addLines env' ((name, value) :: given) ls

/-- The content without a byte order mark in front. -/
def withoutMark : List UInt8 → List UInt8
  | 0xEF :: 0xBB :: 0xBF :: bs => bs
  | bs => bs

end EnvironmentFile

/-- The environment with the variables of a file. -/
def Environment.withFile (env : Environment) (content : ByteArray) : Environment :=
  let lines := EnvironmentFile.physicalLines [] (EnvironmentFile.withoutMark content.toList)
  EnvironmentFile.addLines env []
    (EnvironmentFile.logicalLines [] .none (lines.map EnvironmentFile.decodeLine))

end TemplateClient
