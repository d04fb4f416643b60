import TemplateClient.Session.Call

/-!
# The blocking overlay

Blocking the page starts a timer that gives a busy notice after the fade-in time. Another block
replaces the timer, and unblocking cancels it. A timer begins to run only when the clock is looked
at; until then it can be cancelled without a trace, even if its delay is zero. Without a clock no
timer can run: every block gives its notice at once, and the overlay never counts as blocked.

* `Timer`, `Overlay` -- the state;
* `Overlay.block`, `Overlay.unblock`, `Overlay.configure` -- the calls;
* `Overlay.wake`, `Overlay.tick` -- timers that begin to run, and timers that run out.
-/

namespace TemplateClient

/-- The timer of a block. -/
inductive Timer where
  /-- Started, but not yet running. -/
  | started (delay : Nat)
  /-- Running until the clock shows `deadline`. -/
  | running (deadline : Nat)
  /-- Run out; its notice has been given. -/
  | finished
deriving DecidableEq, Repr

/-- The overlay. -/
structure Overlay where
  timings : OverlayTimings := {}
  /-- The timer of the latest block, until that is undone. -/
  timer : Option Timer := none
deriving DecidableEq, Repr

namespace Overlay

/-- The page is blocked. -/
def isBlocked (o : Overlay) : Bool := o.timer.isSome

/-- Later blocks use these timings. -/
def configure (o : Overlay) (timings : OverlayTimings) : Overlay := { o with timings }

/-- The overlay after a block, given whether there is a clock. -/
def block (hasClock : Bool) (o : Overlay) : Overlay :=
  if hasClock then { o with timer := some (.started o.timings.fadeIn) } else o

/-- The overlay after the block is undone. -/
def unblock (o : Overlay) : Overlay := { o with timer := none }

/-- The overlay after a call. -/
def after (hasClock : Bool) (o : Overlay) : Call → Overlay
  | .configure timings => o.configure timings
  | .block => o.block hasClock
  | .unblock => o.unblock
  | _ => o

/-- A started timer begins to run at `now`; without a delay it runs out at once. The second part
tells whether a notice is given. -/
def wake (now : Nat) (o : Overlay) : Overlay × Bool :=
  match o.timer with
  | some (.started delay) =>
    if delay = 0 then ({ o with timer := some .finished }, true)
    else ({ o with timer := some (.running (now + delay)) }, false)
  | _ => (o, false)

/-- A running timer whose deadline `now` has reached runs out. The second part tells whether a
notice is given. -/
def tick (now : Nat) (o : Overlay) : Overlay × Bool :=
  match o.timer with
  | some (.running deadline) =>
    if deadline ≤ now then ({ o with timer := some .finished }, true) else (o, false)
  | _ => (o, false)

end Overlay

end TemplateClient
