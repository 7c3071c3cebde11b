import Scrollback.Settings

/-!
The window onto a long history.

Of all messages the window shows the ones from `start` on; the ones before are
hidden. It opens on the newest messages, widens by whole steps when older ones are
asked for, and follows new messages until it is as wide as its limit.
-/

namespace Scrollback

/-- The shown stretch of a history of `total` messages. -/
structure Window where
  initialSize : Nat
  step : Nat
  /-- How far new messages may widen the window. -/
  limit : Nat
  total : Nat := 0
  /-- The first message that is shown. -/
  start : Nat := 0
  isOpen : Bool := false
  deriving DecidableEq, Repr

/-- How a window followed a change of the history. -/
inductive WindowChange where
  | unchanged
  | opened
  | grew (count : Nat)
  | shrank
  deriving DecidableEq, Repr

namespace Window

/-- A window that has not been opened. -/
def ofSettings (s : Settings) : Window :=
  { initialSize := s.initialSize, step := s.step, limit := max s.maxShown s.initialSize }

/-- How many messages are hidden. -/
def hidden (w : Window) : Nat :=
  w.start

/-- How many messages are shown. -/
def shown (w : Window) : Nat :=
  w.total - w.start

/-- Open the window on the newest of `total` messages. -/
def openOn (w : Window) (total : Nat) : Window :=
  { w with total, start := total - w.initialSize, isOpen := true }

/-- How many messages are shown after `count` new ones: all that were shown and
the new ones, at least the first size, and no more than the limit unless more
were shown already. -/
def shownAfter (w : Window) (count : Nat) : Nat :=
  min (max (w.shown + count) (min w.initialSize (w.total + count))) (max w.limit w.shown)

/-- Follow `count` new messages at the end. -/
def grow (w : Window) (count : Nat) : Window :=
  if count = 0 then w
  else { w with total := w.total + count, start := w.total + count - w.shownAfter count }

/-- Show older messages by one step, and say whether any were hidden. -/
def loadOlder (w : Window) : Bool × Window :=
  if w.start = 0 then (false, w) else (true, { w with start := w.start - w.step })

/-- Follow a history that has lost messages at its end. As many stay shown as
there are. -/
def shrink (w : Window) (total : Nat) : Window :=
  { w with total, start := total - min w.shown total }

/-- Follow a history that now has `total` messages. A window that is not open, or
saw an empty history, opens anew. -/
def sync (w : Window) (total : Nat) : WindowChange × Window :=
  if !w.isOpen || w.total == 0 then
    if w.isOpen && total == 0 then (.unchanged, w) else (.opened, w.openOn total)
  else if w.total < total then (.grew (total - w.total), w.grow (total - w.total))
  else if total < w.total then (.shrank, w.shrink total)
  else (.unchanged, w)

/-- The shown part of a list. -/
def slice {α : Type} (w : Window) (items : List α) : List α :=
  (items.take w.total).drop w.start

/-- The item before the shown part of a list. -/
def preceding? {α : Type} (w : Window) (items : List α) : Option α :=
  if w.start = 0 then none else items[w.start - 1]?

/-! ### How much is shown -/

/-- An opened window shows its first size, or all messages if there are fewer. -/
theorem shown_openOn (w : Window) (total : Nat) :
    (w.openOn total).shown = min w.initialSize total := by
  simp only [openOn, shown]
  omega

/-- A window that follows new messages shows as many as it should. -/
theorem shown_grow {w : Window} (inside : w.start ≤ w.total) {count : Nat} (some : count ≠ 0) :
    (w.grow count).shown = w.shownAfter count := by
  simp only [grow, if_neg some, shown, shownAfter]
  omega

/-- A window on a shorter history shows what it showed, or all that is left. -/
theorem shown_shrink (w : Window) (total : Nat) : (w.shrink total).shown = min w.shown total := by
  simp only [shrink, shown]
  omega

/-- New messages add to the history. -/
theorem total_grow (w : Window) (count : Nat) : (w.grow count).total = w.total + count := by
  unfold grow
  split
  · rename_i none
    rw [none, Nat.add_zero]
  · rfl

/-- A window that has followed a history knows its length. -/
theorem total_sync (w : Window) (total : Nat) : (w.sync total).2.total = total := by
  unfold sync
  split
  · split
    · rename_i closed both
      simp only [Bool.and_eq_true, beq_iff_eq] at both
      simp only [both.1, Bool.not_true, Bool.false_or, beq_iff_eq] at closed
      rw [closed, both.2]
    · rfl
  · split
    · rw [total_grow]
      omega
    · split
      · rfl
      · dsimp only
        omega

end Window

end Scrollback
