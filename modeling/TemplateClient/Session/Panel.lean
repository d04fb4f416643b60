import TemplateClient.Session.Call

/-!
# The result panel

The panel holds a text, its error styling, and whether it is visible. Making it visible prints the
text: a result on standard output, an error on standard error.

* `Panel.after` -- the panel after a call; calls to other widgets leave it alone;
* `Panel.record` -- what the panel prints when it is made visible.
-/

namespace TemplateClient

/-- Where something is printed. -/
inductive Stream where
  | output
  | error
deriving DecidableEq, Repr

/-- A text printed on a stream. -/
structure Print where
  stream : Stream
  text : String
deriving DecidableEq, Repr

/-- An error as it is printed: a cross, the text, and a line feed. -/
def Print.ofError (text : String) : Print :=
  ⟨.error, "❌ " ++ text ++ "\n"⟩

/-- A result as it is printed: the text and a line feed. -/
def Print.ofResult (text : String) : Print :=
  ⟨.output, text ++ "\n"⟩

/-- The result panel. -/
structure Panel where
  isError : Bool := false
  content : String := ""
  visible : Bool := false
deriving DecidableEq, Repr

namespace Panel

/-- The panel after a call. -/
def after (p : Panel) : Call → Panel
  | .setErrorState isError => { p with isError }
  | .setContent content => { p with content }
  | .showContainer => { p with visible := true }
  | .hideError => if p.isError then { p with visible := false } else p
  | _ => p

/-- What the panel prints when it is made visible. -/
def record (p : Panel) : Print :=
  if p.isError then .ofError p.content else .ofResult p.content

end Panel

end TemplateClient
