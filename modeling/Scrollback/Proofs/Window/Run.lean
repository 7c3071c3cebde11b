import Scrollback.Proofs.Window.Bounds

/-!
A window in use.

A run is a list of operations on one window, in any order. The window keeps its sizes
(`sizes_run`) and its bounds (`bounded_run`), so it never shows too little. It never shows
too much either: however the history grows, shrinks and fills again, it shows no more than
its limit and one step for each time older messages have been asked for since it was last
opened (`shown_run_le`).
-/

namespace Scrollback.Window

/-- What is done with a window. -/
inductive Operation where
  | openOn (total : Nat)
  | grow (count : Nat)
  | loadOlder
  | sync (total : Nat)
  deriving DecidableEq, Repr

namespace Operation

/-- The window after an operation. -/
def act (w : Window) : Operation → Window
  | .openOn total => w.openOn total
  | .grow count => w.grow count
  | .loadOlder => w.loadOlder.2
  | .sync total => (w.sync total).2

/-- Whether an operation opens the window anew. -/
def opens (w : Window) : Operation → Bool
  | .openOn _ => true
  | .grow _ => false
  | .loadOlder => false
  | .sync total => (w.sync total).1 == .opened

end Operation

/-- A window after some operations. -/
def run (w : Window) (operations : List Operation) : Window :=
  operations.foldl Operation.act w

/-- The operations since the window was last opened: what is left of `earlier` ones and of
more that follow them. -/
def sinceOpened (w : Window) (earlier : List Operation) : List Operation → List Operation
  | [] => earlier
  | operation :: rest =>
      (operation.act w).sinceOpened
        (if operation.opens w then [] else earlier ++ [operation]) rest

/-! ### What every operation keeps -/

theorem sizes_act (w : Window) (operation : Operation) : (operation.act w).SameSizes w := by
  cases operation with
  | openOn total => exact ⟨rfl, rfl, rfl⟩
  | grow count => exact w.sizes_grow count
  | loadOlder =>
      simp only [Operation.act, loadOlder]
      split
      · exact ⟨rfl, rfl, rfl⟩
      · exact ⟨rfl, rfl, rfl⟩
  | sync total => exact w.sizes_sync total

theorem sizes_run (w : Window) (operations : List Operation) : (w.run operations).SameSizes w := by
  induction operations generalizing w with
  | nil => exact ⟨rfl, rfl, rfl⟩
  | cons first rest ih => exact (ih (first.act w)).trans (w.sizes_act first)

namespace Bounded

variable {w : Window}

theorem act (bounded : w.Bounded) (operation : Operation) : (operation.act w).Bounded := by
  cases operation with
  | openOn total => exact bounded.openOn total
  | grow count => exact bounded.grow count
  | loadOlder => exact bounded.loadOlder
  | sync total => exact bounded.sync total

theorem run (bounded : w.Bounded) (operations : List Operation) :
    (w.run operations).Bounded := by
  induction operations generalizing w with
  | nil => exact bounded
  | cons first rest ih => exact ih (bounded.act first)

end Bounded

/-- After any operations a window starts inside its history and shows at least its first
size. -/
theorem bounded_run (s : Settings) (operations : List Operation) :
    ((ofSettings s).run operations).Bounded :=
  (bounded_ofSettings s).run operations

/-! ### How much is shown at most -/

namespace Bounded

variable {w : Window}

/-- A window opens within its limit. -/
theorem shown_openOn_le (bounded : w.Bounded) (total : Nat) :
    (w.openOn total).shown ≤ w.limit := by
  rw [shown_openOn]
  exact Nat.le_trans (Nat.min_le_left _ _) bounded.initialSize_le_limit

/-- New messages widen a window up to its limit. -/
theorem shown_grow_le (bounded : w.Bounded) (count : Nat) :
    (w.grow count).shown ≤ max w.limit w.shown := by
  by_cases none : count = 0
  · rw [none]
    exact Nat.le_max_right _ _
  · rw [shown_grow bounded.start_le_total none]
    exact Nat.min_le_right _ _

/-- Following a history widens a window up to its limit. -/
theorem shown_sync_le (bounded : w.Bounded) (total : Nat) :
    (w.sync total).2.shown ≤ max w.limit w.shown := by
  have follows := w.follows_sync total
  generalize w.sync total = result at follows ⊢
  cases follows with
  | opened _ => exact Nat.le_trans (bounded.shown_openOn_le total) (Nat.le_max_left _ _)
  | unchanged _ _ => exact Nat.le_max_right _ _
  | grew _ _ => exact bounded.shown_grow_le (total - w.total)
  | shrank _ _ =>
      rw [shown_shrink]
      exact Nat.le_trans (Nat.min_le_left _ _) (Nat.le_max_right _ _)

theorem shown_loadOlder_le (bounded : w.Bounded) : w.loadOlder.2.shown ≤ w.shown + w.step := by
  have inside := bounded.start_le_total
  unfold Window.loadOlder
  split
  · exact Nat.le_add_right _ _
  · simp only [shown]
    omega

/-- A window that an operation opens anew is within its limit. -/
theorem shown_act_le_of_opens (bounded : w.Bounded) {operation : Operation}
    (opens : operation.opens w = true) : (operation.act w).shown ≤ w.limit := by
  cases operation with
  | openOn total => exact bounded.shown_openOn_le total
  | grow count => cases opens
  | loadOlder => cases opens
  | sync total =>
      have opened : (w.sync total).1 = .opened := by simpa [Operation.opens] using opens
      have follows := w.follows_sync total
      show (w.sync total).2.shown ≤ w.limit
      generalize w.sync total = result at follows opened ⊢
      cases follows with
      | opened _ => exact bounded.shown_openOn_le total
      | unchanged _ _ => cases opened
      | grew _ _ => cases opened
      | shrank _ _ => cases opened

/-- Any other operation widens it up to its limit, but for a step when older messages are
asked for. -/
theorem shown_act_le (bounded : w.Bounded) (operation : Operation) :
    (operation.act w).shown ≤ max w.limit w.shown + w.step * [operation].count .loadOlder := by
  cases operation with
  | openOn total =>
      have within := bounded.shown_openOn_le total
      simp only [Operation.act]
      omega
  | grow count =>
      have within := bounded.shown_grow_le count
      simp only [Operation.act]
      omega
  | loadOlder =>
      have within := bounded.shown_loadOlder_le
      simp only [Operation.act, List.count_singleton_self, Nat.mul_one]
      omega
  | sync total =>
      have within := bounded.shown_sync_le total
      simp only [Operation.act]
      omega

/-- What a window shows at most is kept by every operation. -/
theorem shown_le_sinceOpened (bounded : w.Bounded) {earlier : List Operation}
    (within : w.shown ≤ w.limit + w.step * earlier.count .loadOlder)
    (operations : List Operation) :
    (w.run operations).shown ≤
      w.limit + w.step * (w.sinceOpened earlier operations).count .loadOlder := by
  induction operations generalizing w earlier with
  | nil => exact within
  | cons first rest ih =>
      have sizes := w.sizes_act first
      have next : (first.act w).shown ≤ (first.act w).limit + (first.act w).step *
          (if first.opens w then [] else earlier ++ [first]).count .loadOlder := by
        rw [sizes.limit_eq, sizes.step_eq]
        split
        · rename_i opens
          exact Nat.le_trans (bounded.shown_act_le_of_opens opens) (Nat.le_add_right _ _)
        · have widened := bounded.shown_act_le first
          rw [List.count_append, Nat.mul_add]
          omega
      have later := ih (bounded.act first) next
      rw [sizes.limit_eq, sizes.step_eq] at later
      exact later

end Bounded

theorem mem_of_mem_sinceOpened {w : Window} {earlier operations : List Operation}
    {operation : Operation} (mem : operation ∈ w.sinceOpened earlier operations) :
    operation ∈ earlier ++ operations := by
  induction operations generalizing w earlier with
  | nil => exact List.mem_append_left _ mem
  | cons first rest ih =>
      have later := ih mem
      split at later
      · exact List.mem_append_right _ (List.mem_cons_of_mem _ later)
      · rwa [List.append_assoc, List.singleton_append] at later

/-- After any operations a window shows no more than its limit and a step for each time
older messages have been asked for since it was last opened. So it stays within its limit
as long as they are not asked for, and following a history takes it no further. -/
theorem shown_run_le (s : Settings) (operations : List Operation) :
    let w := (ofSettings s).run operations
    let limit := max s.maxShown s.initialSize
    w.shown ≤ limit +
        s.step * ((ofSettings s).sinceOpened [] operations).count .loadOlder ∧
      (.loadOlder ∉ operations → w.shown ≤ limit) ∧
      ∀ total, w.shown < (w.sync total).2.shown → (w.sync total).2.shown ≤ limit := by
  intro w limit
  have most : w.shown ≤ limit +
      s.step * ((ofSettings s).sinceOpened [] operations).count .loadOlder :=
    (bounded_ofSettings s).shown_le_sinceOpened (Nat.zero_le _) operations
  refine ⟨most, ?_, ?_⟩
  · intro never
    have none : ((ofSettings s).sinceOpened [] operations).count .loadOlder = 0 :=
      List.count_eq_zero.mpr fun mem => never (mem_of_mem_sinceOpened mem)
    rwa [none, Nat.mul_zero, Nat.add_zero] at most
  · intro total wider
    have within : (w.sync total).2.shown ≤ max w.limit w.shown :=
      (bounded_run s operations).shown_sync_le total
    have limit_eq : w.limit = limit := ((ofSettings s).sizes_run operations).limit_eq
    omega

end Scrollback.Window
