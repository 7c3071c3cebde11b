import Mathlib.Algebra.GroupWithZero.Nat
import Scrollback.Proofs.Window.Run

/-!
Messages that come in batches.

It makes no difference to a window whether new messages come one at a time or all at once.
Growing twice is growing once by both counts (`Bounded.grow_grow`): the first size never
matters again once the window is open, and the limit only as far as the window is within
it. So following a history as it grows, in any steps, leaves the same window as following it
to its last length (`growth_in_batches`).
-/

namespace Scrollback

/-- How many messages a change says are new. -/
def WindowChange.added : WindowChange → Nat
  | .grew count => count
  | .unchanged => 0
  | .opened => 0
  | .shrank => 0

namespace Window

/-- What a window says as it follows a history of one length after the other. -/
def changes (w : Window) : List Nat → List WindowChange
  | [] => []
  | total :: rest => (w.sync total).1 :: (w.sync total).2.changes rest

theorem grow_zero (w : Window) : w.grow 0 = w :=
  if_pos rfl

/-- An open window grows with a history that does not get shorter. -/
theorem sync_of_le {w : Window} (isOpen : w.isOpen = true) (filled : 0 < w.total) {total : Nat}
    (le : w.total ≤ total) :
    (w.sync total).2 = w.grow (total - w.total) ∧
      (w.sync total).1.added = total - w.total := by
  have follows := w.follows_sync total
  generalize w.sync total = result at follows ⊢
  cases follows with
  | opened fresh => exact absurd (fresh isOpen).1 (Nat.ne_of_gt filled)
  | unchanged _ same =>
      rw [same, Nat.sub_self, grow_zero]
      exact ⟨rfl, rfl⟩
  | grew _ _ => exact ⟨rfl, rfl⟩
  | shrank _ less => exact absurd less (Nat.not_lt.mpr le)

namespace Bounded

variable {w : Window}

/-- An open window shows enough for its first size not to matter when it grows. -/
theorem shownAfter_eq (bounded : w.Bounded) (count : Nat) :
    w.shownAfter count = min (w.shown + count) (max w.limit w.shown) := by
  have atLeast := bounded.initialSize_le_shown
  unfold shownAfter
  omega

theorem grow_eq (bounded : w.Bounded) (count : Nat) :
    w.grow count = { w with
      total := w.total + count
      start := w.total + count - min (w.shown + count) (max w.limit w.shown) } := by
  unfold Window.grow
  split
  · rename_i none
    have inside := bounded.start_le_total
    have start : w.total + count - min (w.shown + count) (max w.limit w.shown) = w.start := by
      rw [none, Nat.add_zero, Nat.add_zero, Nat.min_eq_left (Nat.le_max_right _ _)]
      exact Nat.sub_sub_self inside
    rw [start, none, Nat.add_zero]
  · rw [bounded.shownAfter_eq]

theorem shown_grow_eq (bounded : w.Bounded) (count : Nat) :
    (w.grow count).shown = min (w.shown + count) (max w.limit w.shown) := by
  have fewer : w.shown + count ≤ w.total + count := Nat.add_le_add_right (Nat.sub_le _ _) count
  rw [bounded.grow_eq]
  exact Nat.sub_sub_self (Nat.le_trans (Nat.min_le_left _ _) fewer)

/-- New messages move the start of a window only when they do not all fit into it. -/
theorem start_grow_eq (bounded : w.Bounded) {count : Nat}
    (fits : w.shown + count ≤ max w.limit w.shown) : (w.grow count).start = w.start := by
  have inside := bounded.start_le_total
  rw [bounded.grow_eq, Nat.min_eq_left fits]
  simp only [shown]
  omega

/-- Growing twice is growing once by both counts: within the limit the window takes all that
comes, and at the limit it stays there. -/
theorem grow_grow (bounded : w.Bounded) (first second : Nat) :
    (w.grow first).grow second = w.grow (first + second) := by
  have shown : min ((w.grow first).shown + second) (max w.limit (w.grow first).shown) =
      min (w.shown + (first + second)) (max w.limit w.shown) := by
    rw [bounded.shown_grow_eq]
    omega
  rw [(bounded.grow first).grow_eq, (w.sizes_grow first).limit_eq, shown, bounded.grow_eq first,
    bounded.grow_eq (first + second)]
  simp only [Nat.add_assoc]

/-- A window that follows a history as it grows is left as if it had grown once, and says how
much it has grown. -/
theorem run_sync (bounded : w.Bounded) (isOpen : w.isOpen = true) (filled : 0 < w.total)
    {totals : List Nat} (ascending : (w.total :: totals).Pairwise (· ≤ ·)) :
    w.total ≤ totals.getLastD w.total ∧
      w.run (totals.map .sync) = w.grow (totals.getLastD w.total - w.total) ∧
      ((w.changes totals).map WindowChange.added).sum = totals.getLastD w.total - w.total := by
  induction totals generalizing w with
  | nil =>
      rw [List.getLastD_nil, Nat.sub_self, grow_zero]
      exact ⟨Nat.le_refl _, rfl, rfl⟩
  | cons total rest ih =>
      obtain ⟨above, later⟩ := List.pairwise_cons.mp ascending
      have le : w.total ≤ total := above total List.mem_cons_self
      obtain ⟨grown, added⟩ := w.sync_of_le isOpen filled le
      have next : (w.sync total).2.total = total := total_sync w total
      obtain ⟨restLe, restRun, restAdded⟩ := ih (bounded.sync total) (isOpen_sync w total)
        (next.symm ▸ Nat.lt_of_lt_of_le filled le) (next.symm ▸ later)
      rw [next] at restLe restRun restAdded
      rw [List.getLastD_cons]
      refine ⟨Nat.le_trans le restLe, ?_, ?_⟩
      · have eq : w.run ((total :: rest).map .sync) = (w.sync total).2.run (rest.map .sync) := rfl
        rw [eq, restRun, grown, bounded.grow_grow]
        congr 1
        omega
      · rw [changes, List.map_cons, List.sum_cons, added, restAdded]
        omega

end Bounded

/-- A window that follows a growing history in any steps is left as if it had followed it to
its last length at once. It shows what it showed and all that has come since, up to its
limit or to what it showed when that was more, and as long as all of it fits the window
starts where it did. What it says along the way adds up to the growth. -/
theorem growth_in_batches (s : Settings) (operations : List Operation) (totals : List Nat)
    (isOpen : ((ofSettings s).run operations).isOpen = true)
    (filled : 0 < ((ofSettings s).run operations).total)
    (ascending : (((ofSettings s).run operations).total :: totals).Pairwise (· ≤ ·)) :
    let w := (ofSettings s).run operations
    let growth := totals.getLastD w.total - w.total
    let most := max (max s.maxShown s.initialSize) w.shown
    w.run (totals.map .sync) = (w.sync (totals.getLastD w.total)).2 ∧
      (w.run (totals.map .sync)).shown = min (w.shown + growth) most ∧
      ((w.changes totals).map WindowChange.added).sum = growth ∧
      (w.shown + growth ≤ most → (w.run (totals.map .sync)).start = w.start) := by
  intro w growth most
  have bounded : w.Bounded := bounded_run s operations
  have limit : w.limit = max s.maxShown s.initialSize :=
    ((ofSettings s).sizes_run operations).limit_eq
  obtain ⟨le, run, added⟩ := bounded.run_sync isOpen filled ascending
  have once := (w.sync_of_le isOpen filled le).1
  refine ⟨run.trans once.symm, ?_, added, ?_⟩
  · rw [run, bounded.shown_grow_eq, limit]
  · intro fits
    rw [run]
    refine bounded.start_grow_eq ?_
    rwa [limit]

/-- A window of two messages that was opened on nothing and then on five of them grows past
its limit of three. -/
theorem growth_in_batches_sample :
    let s : Settings := { initialSize := 2, step := 1, maxShown := 3 }
    let w := (ofSettings s).run [.sync 0, .loadOlder, .sync 5]
    (w.isOpen = true ∧ 0 < w.total ∧ (w.total :: [5, 6, 6, 9]).Pairwise (· ≤ ·)) ∧
      w.run ([5, 6, 6, 9].map .sync) = (w.sync 9).2 ∧ (w.sync 9).2.shown = 3 ∧
      ((w.changes [5, 6, 6, 9]).map WindowChange.added).sum = 4 := by
  intro s w
  have isOpen : w.isOpen = true := by decide
  have filled : 0 < w.total := by decide
  have ascending : (w.total :: [5, 6, 6, 9]).Pairwise (· ≤ ·) := by decide
  obtain ⟨same, shown, added, -⟩ := growth_in_batches s [.sync 0, .loadOlder, .sync 5]
    [5, 6, 6, 9] isOpen filled ascending
  exact ⟨⟨isOpen, filled, ascending⟩, same, same ▸ shown, added⟩

end Window

end Scrollback
