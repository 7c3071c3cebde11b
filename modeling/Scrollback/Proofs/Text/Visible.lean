import Scrollback.Proofs.Text.Lines
import Scrollback.Text.Shorten

/-!
Texts that show something.

A text is *visible* when some character of it is not blank. Trimming leaves a text that begins
with such a character (`Trimmed.exists_head`), so that the first characters of it are visible
by themselves (`Trimmed.visible_cut`). A mark in place of what is left out is visible too, and
so shortening never makes a text blank (`Visible.ellipsize`, `Visible.shortenPath`).
-/

namespace Scrollback.Text

/-- Some character of a text is not blank. -/
def Visible (s : String) : Prop :=
  ∃ c ∈ s.toList, isBlank c = false

theorem any_not_isBlank_iff {s : String} :
    (s.toList.any fun c => !isBlank c) = true ↔ Visible s := by
  simp [Visible]

instance (s : String) : Decidable (Visible s) :=
  decidable_of_iff _ any_not_isBlank_iff

theorem Visible.of_subset {s t : String} (visible : Visible s) (subset : s.toList ⊆ t.toList) :
    Visible t := by
  obtain ⟨c, mem, shows⟩ := visible
  exact ⟨c, subset mem, shows⟩

/-! ### Texts put together -/

theorem Visible.append_left {s : String} (visible : Visible s) (t : String) : Visible (s ++ t) := by
  apply visible.of_subset
  rw [String.toList_append]
  exact List.subset_append_left _ _

theorem Visible.append_right {t : String} (visible : Visible t) (s : String) : Visible (s ++ t) := by
  apply visible.of_subset
  rw [String.toList_append]
  exact List.subset_append_right _ _

/-- A visible text in place of a part that is missing. -/
theorem visible_getD {part : Option String} (visible : ∀ s, part = some s → Visible s)
    {other : String} (otherwise : Visible other) : Visible (part.getD other) := by
  cases part with
  | none => exact otherwise
  | some s => exact visible s rfl

/-! ### Trimmed texts -/

/-- What trimming leaves of some text. -/
def Trimmed (t : String) : Prop :=
  ∃ s, trimmed? s = some t

theorem trimmed?_eq_some_iff {s t : String} : trimmed? s = some t ↔ t ≠ "" ∧ trim s = t := by
  simp only [trimmed?]
  split
  · rename_i empty
    rw [String.isEmpty_iff] at empty
    constructor
    · intro eq
      cases eq
    · rintro ⟨some, rfl⟩
      exact absurd empty some
  · rename_i some
    rw [String.isEmpty_iff] at some
    rw [Option.some_inj]
    constructor
    · rintro rfl
      exact ⟨some, rfl⟩
    · exact And.right

theorem Trimmed.exists_head {t : String} (trimmed : Trimmed t) :
    ∃ c rest, t.toList = c :: rest ∧ isBlank c = false := by
  obtain ⟨s, eq⟩ := trimmed
  obtain ⟨some, rfl⟩ := trimmed?_eq_some_iff.mp eq
  rw [trim, String.toList_ofList]
  cases kept : strip s.toList with
  | nil =>
      rw [trim, kept] at some
      exact absurd rfl some
  | cons c rest => exact ⟨c, rest, rfl, isBlank_of_strip kept⟩

theorem Trimmed.visible {t : String} (trimmed : Trimmed t) : Visible t := by
  obtain ⟨c, rest, eq, shows⟩ := trimmed.exists_head
  refine ⟨c, ?_, shows⟩
  rw [eq]
  exact List.mem_cons_self

/-- A text of which trimming leaves something is visible as it stands. -/
theorem visible_of_isSome_trimmed? {s : String} (some : (trimmed? s).isSome = true) :
    Visible s := by
  obtain ⟨t, eq⟩ := Option.isSome_iff_exists.mp some
  have visible : Visible t := Trimmed.visible ⟨s, eq⟩
  obtain ⟨-, rfl⟩ := trimmed?_eq_some_iff.mp eq
  apply visible.of_subset
  intro c mem
  rw [trim, String.toList_ofList] at mem
  exact mem_of_mem_strip mem

/-! ### Texts cut short -/

theorem Trimmed.visible_cut {t : String} (trimmed : Trimmed t) {limit : Nat} (room : 0 < limit) :
    Visible (cut t limit) := by
  obtain ⟨c, rest, eq, shows⟩ := trimmed.exists_head
  refine ⟨c, ?_, shows⟩
  rw [cut, String.toList_ofList, eq, List.take_cons room]
  exact List.mem_cons_self

theorem Visible.ellipsize {s : String} (visible : Visible s) {limit : Nat} (room : 3 < limit) :
    Visible (ellipsize s limit) := by
  unfold Text.ellipsize
  split
  · exact visible
  · rw [if_neg (Nat.not_le.mpr room)]
    exact Visible.append_right (by decide) _

theorem Visible.shortenPath {path : String} (visible : Visible path) :
    Visible (shortenPath path) := by
  unfold Text.shortenPath
  split
  · exact ((Visible.append_left (by decide) _).append_left _).append_left _
  · exact visible

end Scrollback.Text
