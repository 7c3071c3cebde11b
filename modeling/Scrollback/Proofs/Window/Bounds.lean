import Scrollback.Window

/-!
Bounds of the window.

However a window is opened, widened, grown or shrunk, it starts inside the history
and shows at least its first size, or everything if there is less (`Bounded`). Each
operation keeps these bounds, and following a history says truly whether messages
have been added (`isGrowth_sync`).
-/

namespace Scrollback

/-- Whether a change means that messages have come in: the history grew, or a window
was opened on it. -/
def WindowChange.isGrowth : WindowChange → Bool
  | .opened => true
  | .grew _ => true
  | .unchanged => false
  | .shrank => false

namespace Window

/-- The ways in which a window follows a history: it opens on it, or it is open and the
history is as long as before, longer or shorter. -/
inductive Follows (w : Window) (total : Nat) : WindowChange × Window → Prop where
  | opened : (w.isOpen = true → w.total = 0 ∧ 0 < total) →
      Follows w total (.opened, w.openOn total)
  | unchanged : w.isOpen = true → w.total = total → Follows w total (.unchanged, w)
  | grew : w.isOpen = true → w.total < total →
      Follows w total (.grew (total - w.total), w.grow (total - w.total))
  | shrank : w.isOpen = true → total < w.total → Follows w total (.shrank, w.shrink total)

theorem follows_sync (w : Window) (total : Nat) : w.Follows total (w.sync total) := by
  unfold sync
  cases isOpen : w.isOpen with
  | false => exact .opened fun opened => absurd (isOpen.symm.trans opened) Bool.false_ne_true
  | true =>
      simp only [Bool.not_true, Bool.false_or, Bool.true_and, beq_iff_eq]
      split
      · rename_i empty
        split
        · rename_i none
          exact .unchanged isOpen (empty.trans none.symm)
        · rename_i some
          exact .opened fun _ => ⟨empty, Nat.pos_of_ne_zero some⟩
      · split
        · rename_i more
          exact .grew isOpen more
        · split
          · rename_i less
            exact .shrank isOpen less
          · exact .unchanged isOpen (by omega)

/-- The window starts inside its history, shows at least its first size of it, and
may grow that far. -/
structure Bounded (w : Window) : Prop where
  start_le_total : w.start ≤ w.total
  initialSize_le_shown : min w.initialSize w.total ≤ w.shown
  initialSize_le_limit : w.initialSize ≤ w.limit

theorem bounded_ofSettings (s : Settings) : (ofSettings s).Bounded where
  start_le_total := Nat.le_refl 0
  initialSize_le_shown := Nat.min_le_right _ _
  initialSize_le_limit := Nat.le_max_right _ _

namespace Bounded

variable {w : Window}

theorem openOn (bounded : w.Bounded) (total : Nat) : (w.openOn total).Bounded where
  start_le_total := Nat.sub_le _ _
  initialSize_le_shown := by
    rw [shown_openOn]
    exact Nat.le_refl _
  initialSize_le_limit := bounded.initialSize_le_limit

/-- The limit is no lower than the first size, so growing never shows less than it. -/
theorem grow (bounded : w.Bounded) (count : Nat) : (w.grow count).Bounded := by
  by_cases none : count = 0
  · rw [none]
    exact bounded
  · have inside := bounded.start_le_total
    have atLeast := bounded.initialSize_le_shown
    have limit := bounded.initialSize_le_limit
    refine ⟨?_, ?_, ?_⟩
    · simp only [Window.grow, if_neg none]
      exact Nat.sub_le _ _
    · rw [shown_grow inside none, total_grow]
      simp only [Window.grow, if_neg none, shownAfter]
      omega
    · simp only [Window.grow, if_neg none]
      exact limit

theorem loadOlder (bounded : w.Bounded) : w.loadOlder.2.Bounded := by
  have inside := bounded.start_le_total
  have atLeast := bounded.initialSize_le_shown
  unfold Window.loadOlder
  split
  · exact bounded
  · refine ⟨?_, ?_, bounded.initialSize_le_limit⟩
    · exact Nat.le_trans (Nat.sub_le _ _) inside
    · simp only [shown] at atLeast ⊢
      omega

theorem shrink (bounded : w.Bounded) {total : Nat} (less : total < w.total) :
    (w.shrink total).Bounded where
  start_le_total := Nat.sub_le _ _
  initialSize_le_shown := by
    have atLeast := bounded.initialSize_le_shown
    rw [shown_shrink]
    simp only [Window.shrink]
    omega
  initialSize_le_limit := bounded.initialSize_le_limit

theorem sync (bounded : w.Bounded) (total : Nat) : (w.sync total).2.Bounded := by
  have follows := w.follows_sync total
  generalize w.sync total = result at follows ⊢
  cases follows with
  | opened _ => exact bounded.openOn total
  | unchanged _ _ => exact bounded
  | grew _ _ => exact bounded.grow (total - w.total)
  | shrank _ less => exact bounded.shrink less

end Bounded

/-! ### What following a history leaves alone -/

/-- A window has the sizes of another one: the first size, the step and the limit. -/
structure SameSizes (w other : Window) : Prop where
  initialSize_eq : w.initialSize = other.initialSize
  step_eq : w.step = other.step
  limit_eq : w.limit = other.limit

theorem SameSizes.trans {first second third : Window} (same : first.SameSizes second)
    (same' : second.SameSizes third) : first.SameSizes third where
  initialSize_eq := same.initialSize_eq.trans same'.initialSize_eq
  step_eq := same.step_eq.trans same'.step_eq
  limit_eq := same.limit_eq.trans same'.limit_eq

theorem sizes_grow (w : Window) (count : Nat) : (w.grow count).SameSizes w := by
  unfold grow
  split
  · exact ⟨rfl, rfl, rfl⟩
  · exact ⟨rfl, rfl, rfl⟩

theorem sizes_sync (w : Window) (total : Nat) : (w.sync total).2.SameSizes w := by
  have follows := w.follows_sync total
  generalize w.sync total = result at follows ⊢
  cases follows with
  | opened _ => exact ⟨rfl, rfl, rfl⟩
  | unchanged _ _ => exact ⟨rfl, rfl, rfl⟩
  | grew _ _ => exact w.sizes_grow (total - w.total)
  | shrank _ _ => exact ⟨rfl, rfl, rfl⟩

theorem isOpen_grow (w : Window) (count : Nat) : (w.grow count).isOpen = w.isOpen := by
  unfold grow
  split
  · rfl
  · rfl

/-- A window that has followed a history is open. -/
theorem isOpen_sync (w : Window) (total : Nat) : (w.sync total).2.isOpen = true := by
  have follows := w.follows_sync total
  generalize w.sync total = result at follows ⊢
  cases follows with
  | opened _ => rfl
  | unchanged isOpen _ => exact isOpen
  | grew isOpen _ => exact (w.isOpen_grow (total - w.total)).trans isOpen
  | shrank isOpen _ => exact isOpen

/-- An open window reports growth exactly when the history is longer than before.
That it may say `opened` after an empty history makes no difference. -/
theorem isGrowth_sync {w : Window} (isOpen : w.isOpen = true) (total : Nat) :
    (w.sync total).1.isGrowth = decide (w.total < total) := by
  have follows := w.follows_sync total
  generalize w.sync total = result at follows ⊢
  cases follows with
  | opened fresh =>
      obtain ⟨empty, some⟩ := fresh isOpen
      exact (decide_eq_true (empty ▸ some)).symm
  | unchanged _ same => exact (decide_eq_false (Nat.not_lt.mpr (Nat.le_of_eq same.symm))).symm
  | grew _ more => exact (decide_eq_true more).symm
  | shrank _ less => exact (decide_eq_false (Nat.not_lt.mpr (Nat.le_of_lt less))).symm

/-- A window that has followed a history follows it again without a change. -/
theorem sync_total {w : Window} (isOpen : w.isOpen = true) : w.sync w.total = (.unchanged, w) := by
  unfold sync
  rw [isOpen]
  by_cases empty : w.total = 0
  · simp [empty]
  · simp [empty]

/-! ### Older messages -/

/-- A window after older messages have been asked for a number of times. -/
def widen (w : Window) (times : Nat) : Window :=
  { w with start := w.start - times * w.step }

theorem widen_zero (w : Window) : w.widen 0 = w := by
  simp [widen]

/-- Asking once more takes one more step, until nothing is hidden. -/
theorem loadOlder_widen (w : Window) (times : Nat) :
    (w.widen times).loadOlder.2 = w.widen (times + 1) := by
  unfold loadOlder widen
  rw [Nat.add_mul, Nat.one_mul]
  split
  · rename_i none
    simp only [Window.mk.injEq, true_and, and_true]
    dsimp only at none
    omega
  · simp only [Window.mk.injEq, true_and, and_true]
    omega

end Window

end Scrollback
