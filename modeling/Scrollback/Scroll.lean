import Scrollback.Row

/-!
Scrolling to the last row.

The display goes to its last row when it first has one, after every new message,
and after a growing reply, the last no sooner than the throttle after any scroll.
Only new messages scroll visibly. A request whose row is not on display does
nothing and is not kept.

Times are whole microseconds since some moment, and may go backwards. A clock that
ticks in finer units is read to the microsecond.
-/

namespace Scrollback.Scroll

/-- When to scroll. -/
inductive Timing where
  /-- Once the layout has settled. -/
  | afterLayout
  | immediate
  deriving DecidableEq, Repr

/-- A request to scroll to a row. -/
structure Request where
  target : RowKey
  animated : Bool
  timing : Timing
  deriving DecidableEq, Repr

/-- The state between requests. Times are in microseconds. -/
structure Follower where
  throttle : Nat
  hasAppeared : Bool := false
  /-- The time of the last request. -/
  lastAt : Option Nat := none
  deriving DecidableEq, Repr

namespace Follower

/-- The display appears with its last row, if it has one. Only the first
appearance with a row scrolls. -/
def appear (f : Follower) (bottom : Option RowKey) (now : Nat) : Option Request × Follower :=
  match bottom with
  | some target =>
      if f.hasAppeared then (none, f)
      else (some ⟨target, false, .afterLayout⟩,
        { f with hasAppeared := true, lastAt := some now })
  | none => (none, f)

/-- New messages have been added. -/
def tailGrew (f : Follower) (bottom : RowKey) (now : Nat) : Request × Follower :=
  (⟨bottom, true, .immediate⟩, { f with lastAt := some now })

/-- Whether the last request is too recent for another scroll after a growing
reply. No time has passed when the clock went back. -/
def isThrottled (f : Follower) (now : Nat) : Bool :=
  match f.lastAt with
  | some last => now - last < f.throttle
  | none => false

/-- A reply has grown. -/
def streamGrew (f : Follower) (bottom : RowKey) (now : Nat) : Option Request × Follower :=
  if f.isThrottled now then (none, f)
  else (some ⟨bottom, false, .immediate⟩, { f with lastAt := some now })

end Follower

/-- A display: the rows it shows, and the scrolls it has made, each with whether
it was animated. -/
structure Surface where
  present : List RowKey := []
  calls : List (RowKey × Bool) := []
  deriving DecidableEq, Repr

/-- Carry out a request on a display, and say whether its row is there. -/
def Request.perform (r : Request) (s : Surface) : Bool × Surface :=
  if s.present.contains r.target then
    (true, { s with calls := s.calls ++ [(r.target, r.animated)] })
  else (false, s)

/-- A request is carried out exactly when its row is on display. -/
theorem Request.fst_perform (r : Request) (s : Surface) :
    (r.perform s).1 = s.present.contains r.target := by
  unfold perform
  split <;> simp_all

/-- A request whose row is not on display leaves the display as it is. -/
theorem Request.perform_absent {r : Request} {s : Surface}
    (absent : s.present.contains r.target = false) : r.perform s = (false, s) := by
  unfold perform
  rw [absent]
  rfl

end Scrollback.Scroll
