import Scrollback.Message
import Scrollback.Proofs.Window.Run
import Scrollback.Word

/-!
Windows on words.

The numbers of a window are 64-bit words, and arithmetic on words has its limits: a sum may
be no word, and a difference may be below zero. The operations are given here once more with
every sum and difference checked (`Operation.act?`). Starting from any settings no check
ever fails, as long as the history itself can be counted in words, so that the checked
operations do what the unchecked ones do (`run_words`).
-/

namespace Scrollback

namespace Word

/-- The sum of two words, if it is a word. -/
def add? (a b : Nat) : Option Nat :=
  if a + b < wordCount then some (a + b) else none

/-- The difference of two words, if it is not below zero. -/
def sub? (a b : Nat) : Option Nat :=
  if b ≤ a then some (a - b) else none

theorem add?_eq_some {a b : Nat} (fits : a + b < wordCount) : add? a b = some (a + b) :=
  if_pos fits

theorem sub?_eq_some {a b : Nat} (le : b ≤ a) : sub? a b = some (a - b) :=
  if_pos le

end Word

/-- The items of a list from one place up to another, if these are places of the list in
their order. -/
def between? {α : Type} (items : List α) (first last : Nat) : Option (List α) :=
  if first ≤ last ∧ last ≤ items.length then some ((items.take last).drop first) else none

namespace Window

/-! ### Checked operations

The differences that opening and asking for older messages take stop at zero by intent, and
need no check. -/

/-- How many messages are shown. -/
def shown? (w : Window) : Option Nat :=
  Word.sub? w.total w.start

/-- Follow new messages at the end. -/
def grow? (w : Window) (count : Nat) : Option Window :=
  if count = 0 then some w
  else do
    let shown ← w.shown?
    let total ← Word.add? w.total count
    let all ← Word.add? shown count
    let start ← Word.sub? total
      (min (max all (min w.initialSize total)) (max w.limit shown))
    return { w with total, start }

/-- Follow a history that has lost messages at its end. -/
def shrink? (w : Window) (total : Nat) : Option Window := do
  let shown ← w.shown?
  let start ← Word.sub? total (min shown total)
  return { w with total, start }

/-- Follow a history that now has `total` messages. -/
def sync? (w : Window) (total : Nat) : Option (WindowChange × Window) :=
  if !w.isOpen || w.total == 0 then
    if w.isOpen && total == 0 then some (.unchanged, w) else some (.opened, w.openOn total)
  else if w.total < total then do
    let count ← Word.sub? total w.total
    let grown ← w.grow? count
    return (.grew count, grown)
  else if total < w.total then do
    let shrunk ← w.shrink? total
    return (.shrank, shrunk)
  else some (.unchanged, w)

/-- The shown part of a list, between bounds that are moved to its end when they are
beyond it. -/
def slice? {α : Type} (w : Window) (items : List α) : Option (List α) :=
  let last := min w.total items.length
  between? items (min w.start last) last

namespace Operation

/-- The window after an operation. -/
def act? (w : Window) : Operation → Option Window
  | .openOn total => some (w.openOn total)
  | .grow count => w.grow? count
  | .loadOlder => some w.loadOlder.2
  | .sync total => (w.sync? total).map (·.2)

/-- The history is counted in words after an operation. -/
def Fits (w : Window) : Operation → Prop
  | .openOn total => total < wordCount
  | .grow count => w.total + count < wordCount
  | .loadOlder => True
  | .sync total => total < wordCount

instance (w : Window) : (operation : Operation) → Decidable (operation.Fits w)
  | .openOn total => inferInstanceAs (Decidable (total < wordCount))
  | .grow count => inferInstanceAs (Decidable (w.total + count < wordCount))
  | .loadOlder => inferInstanceAs (Decidable True)
  | .sync total => inferInstanceAs (Decidable (total < wordCount))

end Operation

/-- A window after some operations. -/
def run? (w : Window) (operations : List Operation) : Option Window :=
  operations.foldlM Operation.act? w

/-- The history is counted in words after each of some operations. -/
def Fits (w : Window) : List Operation → Prop
  | [] => True
  | operation :: rest => operation.Fits w ∧ (operation.act w).Fits rest

instance decidableFits (w : Window) :
    (operations : List Operation) → Decidable (w.Fits operations)
  | [] => inferInstanceAs (Decidable True)
  | operation :: rest =>
      have := (operation.act w).decidableFits rest
      inferInstanceAs (Decidable (operation.Fits w ∧ (operation.act w).Fits rest))

/-! ### No check fails -/

namespace Bounded

variable {w : Window}

theorem shown?_eq (bounded : w.Bounded) : w.shown? = some w.shown :=
  Word.sub?_eq_some bounded.start_le_total

/-- What is shown and what is new is no more than the whole history. -/
theorem shown_add_le (bounded : w.Bounded) (count : Nat) : w.shown + count ≤ w.total + count := by
  have inside := bounded.start_le_total
  simp only [shown]
  omega

theorem grow?_eq (bounded : w.Bounded) {count : Nat} (fits : w.total + count < wordCount) :
    w.grow? count = some (w.grow count) := by
  unfold grow? Window.grow
  split
  · rfl
  · have fewer := bounded.shown_add_le count
    have all : Word.add? w.shown count = some (w.shown + count) :=
      Word.add?_eq_some (Nat.lt_of_le_of_lt fewer fits)
    have target : w.shownAfter count ≤ w.total + count := by
      simp only [shownAfter]
      omega
    have start : Word.sub? (w.total + count) (w.shownAfter count) =
        some (w.total + count - w.shownAfter count) := Word.sub?_eq_some target
    simp only [bounded.shown?_eq, Word.add?_eq_some fits, all, Option.bind_eq_bind,
      Option.bind_some]
    rw [← shownAfter, start]
    rfl

theorem shrink?_eq (bounded : w.Bounded) (total : Nat) :
    w.shrink? total = some (w.shrink total) := by
  have start : Word.sub? total (min w.shown total) = some (total - min w.shown total) :=
    Word.sub?_eq_some (Nat.min_le_right _ _)
  simp only [shrink?, bounded.shown?_eq, start, Option.bind_eq_bind, Option.bind_some]
  rfl

/-- Following a history of a length that is a word takes no sum that is no word. -/
theorem sync?_eq (bounded : w.Bounded) {total : Nat} (fits : total < wordCount) :
    w.sync? total = some (w.sync total) := by
  unfold sync? Window.sync
  split
  · split
    · rfl
    · rfl
  · split
    · rename_i more
      have count : Word.sub? total w.total = some (total - w.total) :=
        Word.sub?_eq_some (Nat.le_of_lt more)
      have grown : w.grow? (total - w.total) = some (w.grow (total - w.total)) :=
        bounded.grow?_eq (by omega)
      simp only [count, grown, Option.bind_eq_bind, Option.bind_some]
      rfl
    · split
      · simp only [bounded.shrink?_eq, Option.bind_eq_bind, Option.bind_some]
        rfl
      · rfl

theorem act?_eq (bounded : w.Bounded) {operation : Operation} (fits : operation.Fits w) :
    operation.act? w = some (operation.act w) := by
  cases operation with
  | openOn total => rfl
  | grow count => exact bounded.grow?_eq fits
  | loadOlder => rfl
  | sync total =>
      rw [Operation.act?, bounded.sync?_eq fits]
      rfl

theorem run?_eq (bounded : w.Bounded) {operations : List Operation} (fits : w.Fits operations) :
    w.run? operations = some (w.run operations) := by
  induction operations generalizing w with
  | nil => rfl
  | cons first rest ih =>
      obtain ⟨firstFits, restFits⟩ := fits
      rw [run?, List.foldlM_cons, bounded.act?_eq firstFits]
      exact ih (bounded.act first) restFits

end Bounded

/-! ### The shown part of a list -/

/-- Whatever the list, the bounds of its shown part are places in it. -/
theorem slice?_eq {α : Type} (w : Window) (items : List α) :
    w.slice? items = some (w.slice items) := by
  have last : items.take (min w.total items.length) = items.take w.total :=
    List.take_eq_take_min.symm
  have first : (items.take w.total).drop (min w.start (min w.total items.length)) =
      (items.take w.total).drop w.start := by
    rw [← List.length_take, ← List.drop_eq_drop_min]
  unfold slice? between? slice
  rw [if_pos ⟨Nat.min_le_right _ _, Nat.min_le_right _ _⟩, last, first]

/-- A window that has followed a list shows the end of it. -/
theorem slice_sync {α : Type} (w : Window) (items : List α) :
    let followed := (w.sync items.length).2
    followed.slice items <:+ items ∧ (followed.slice items).length = followed.shown := by
  intro followed
  have total : followed.total = items.length := total_sync w items.length
  have shown : followed.slice items = items.drop followed.start := by
    rw [slice, total, List.take_length]
  rw [shown, List.length_drop, ← total]
  exact ⟨List.drop_suffix followed.start items, rfl⟩

/-- As long as the history can be counted in words, no sum or difference that the operations
of a window take is beyond them: the checked operations succeed and agree with the unchecked
ones. The window starts inside its history and shows at least its first size of it, knows
the length it was given last, and always has valid bounds in a list: in the one that it has
followed, those of its last messages. -/
theorem run_words (s : Settings) (operations : List Operation)
    (fits : (ofSettings s).Fits operations) :
    let w := (ofSettings s).run operations
    (ofSettings s).run? operations = some w ∧
      (w.start ≤ w.total ∧ w.shown? = some w.shown ∧ w.hidden + w.shown = w.total ∧
        min s.initialSize w.total ≤ w.shown) ∧
      (∀ total, (w.openOn total).total = total ∧ (w.sync total).2.total = total) ∧
      ∀ messages : List Message,
        w.slice? messages = some (w.slice messages) ∧
          let followed := (w.sync messages.length).2
          followed.slice messages <:+ messages ∧
            (followed.slice messages).length = followed.shown := by
  intro w
  have bounded : w.Bounded := bounded_run s operations
  have inside := bounded.start_le_total
  refine ⟨(bounded_ofSettings s).run?_eq fits, ⟨inside, bounded.shown?_eq, ?_, ?_⟩, ?_, ?_⟩
  · exact Nat.add_sub_cancel' inside
  · have atLeast := bounded.initialSize_le_shown
    rwa [((ofSettings s).sizes_run operations).initialSize_eq] at atLeast
  · exact fun total => ⟨rfl, total_sync w total⟩
  · exact fun messages => ⟨w.slice?_eq messages, w.slice_sync messages⟩

/-- A history that grows to the greatest word is paged by as wide a step, emptied, and filled
to the greatest word again, in a window whose limit is below its first size. -/
theorem run_words_sample :
    let s : Settings := { initialSize := 7, step := 18446744073709551615, maxShown := 2 }
    let operations : List Operation := [.openOn 10, .grow 18446744073709551605, .loadOlder,
      .sync 3, .sync 0, .sync 18446744073709551615]
    (ofSettings s).Fits operations ∧
      ∃ w, (ofSettings s).run? operations = some w ∧ w.total = 18446744073709551615 ∧
        w.shown = 7 := by
  intro s operations
  have fits : (ofSettings s).Fits operations := by decide
  exact ⟨fits, (ofSettings s).run operations, (run_words s operations fits).1, by decide,
    by decide⟩

end Window

end Scrollback
