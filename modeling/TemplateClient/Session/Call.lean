import TemplateClient.Form.Values

/-!
# What the form asks of its surroundings

The execute form reads its fields and calls the widgets around it: the result panel, the automatic
height of the result field, and the overlay that blocks the page.

* `Call` -- a call of a widget, with its arguments;
* `Method` -- what is called or read, without arguments;
* `showCalls` -- the calls that draw a text;
* `KeyPress`, `UiEvent`, `Trigger` -- what can start a submission.
-/

namespace TemplateClient

/-! ## 1. Calls -/

/-- The fade times of the overlay, in milliseconds. -/
structure OverlayTimings where
  fadeIn : Nat := 1000
  fadeOut : Nat := 0
deriving DecidableEq, Repr

/-- A call of a widget. -/
inductive Call where
  /-- Adds or removes the error styling of the result field. -/
  | setErrorState (isError : Bool)
  | setContent (text : String)
  /-- Makes the result panel visible. -/
  | showContainer
  /-- Hides an error that an earlier submission left. -/
  | hideError
  /-- Fits the height of the result field to its content. -/
  | update
  | configure (timings : OverlayTimings)
  | block
  | unblock
deriving DecidableEq, Repr

/-- What is called or read. -/
inductive Method where
  | read (field : FormField)
  | setErrorState
  | setContent
  | showContainer
  | hideError
  | update
  | configure
  | block
  | unblock
deriving DecidableEq, Repr

/-- What a call calls. -/
def Call.method : Call → Method
  | .setErrorState _ => .setErrorState
  | .setContent _ => .setContent
  | .showContainer => .showContainer
  | .hideError => .hideError
  | .update => .update
  | .configure _ => .configure
  | .block => .block
  | .unblock => .unblock

/-- The calls that draw a text, as an error or not. -/
def showCalls (text : String) (isError : Bool) : List Call :=
  [.setErrorState isError, .setContent text, .showContainer, .update]

/-! ## 2. Triggers -/

/-- A key going down. -/
structure KeyPress where
  keyCode : Nat
  ctrl : Bool
  /-- The form field that has the focus, if one has. -/
  focus : Option FormField
deriving DecidableEq, Repr

namespace KeyPress

/-- The code of the Enter key. -/
def enter : Nat := 13

/-- The code of a line feed, which some platforms send for Ctrl and Enter. -/
def lineFeed : Nat := 10

/-- Ctrl and Enter in a field of the form. -/
def isSubmitShortcut (k : KeyPress) : Bool :=
  k.ctrl && (k.keyCode == lineFeed || k.keyCode == enter) && k.focus.isSome

end KeyPress

/-- An event of the page. -/
inductive UiEvent where
  | pageLoad
  | executeClicked
  | keyDown (key : KeyPress)
deriving DecidableEq, Repr

/-- A way to start work on the form. -/
inductive Trigger where
  /-- A submission that is asked for directly. -/
  | submit
  | event (e : UiEvent)
deriving DecidableEq, Repr

/-- The trigger asks for a submission. -/
def Trigger.isSubmission : Trigger → Bool
  | .submit => true
  | .event .pageLoad => false
  | .event .executeClicked => true
  | .event (.keyDown k) => k.isSubmitShortcut

end TemplateClient
