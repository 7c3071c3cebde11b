import Mathlib.Data.List.Flatten
import Scrollback.Text.Lines
import Scrollback.Text.Lowercase
import Scrollback.Text.Shorten

/-!
Line ends in a text.

A text that is put together from others has the line ends of its parts, in order
(`lineEnds_append`, `lineEnds_intercalate`). What is cut from a text has some of its line ends
(`lineEnds_ellipsize_sublist`, `lineEnds_shortenPath_sublist`), and in lowercase it has them all
(`lineEnds_lowercase`).
-/

namespace Scrollback.Text

/-- The line ends in a text, in order. -/
def lineEnds (s : String) : List Char :=
  s.toList.filter isLineEnd

/-- A text is one line: no line end stands in it. -/
def IsLine (s : String) : Prop :=
  lineEnds s = []

instance (s : String) : Decidable (IsLine s) :=
  inferInstanceAs (Decidable (lineEnds s = []))

theorem isLine_iff {s : String} : IsLine s ↔ '\n' ∉ s.toList ∧ '\r' ∉ s.toList := by
  rw [IsLine, lineEnds, List.filter_eq_nil_iff]
  constructor
  · intro none
    exact ⟨fun mem => none _ mem rfl, fun mem => none _ mem rfl⟩
  · rintro ⟨feed, ret⟩ c mem lineEnd
    rw [isLineEnd, Bool.or_eq_true, beq_iff_eq, beq_iff_eq] at lineEnd
    rcases lineEnd with rfl | rfl
    · exact feed mem
    · exact ret mem

/-- What has some of the line ends of a line is a line. -/
theorem IsLine.of_sublist {s t : String} (line : IsLine t)
    (sublist : (lineEnds s).Sublist (lineEnds t)) : IsLine s :=
  List.sublist_nil.mp (line ▸ sublist)

/-! ### Texts put together -/

theorem lineEnds_ofList (cs : List Char) : lineEnds (String.ofList cs) = cs.filter isLineEnd := by
  rw [lineEnds, String.toList_ofList]

theorem lineEnds_append (s t : String) : lineEnds (s ++ t) = lineEnds s ++ lineEnds t := by
  rw [lineEnds, String.toList_append, List.filter_append]
  rfl

/-- Parts with no line end between them have the line ends that they have by themselves. -/
theorem filter_intercalate {between : List Char} (line : between.filter isLineEnd = [])
    (parts : List (List Char)) :
    (between.intercalate parts).filter isLineEnd = parts.flatMap (List.filter isLineEnd) := by
  induction parts with
  | nil => rfl
  | cons part parts ih =>
      cases parts with
      | nil => simp
      | cons next parts =>
          rw [List.intercalate_cons_cons, List.filter_append, List.filter_append, line, ih,
            List.append_nil]
          rfl

theorem lineEnds_intercalate {between : String} (line : IsLine between) (parts : List String) :
    lineEnds (between.intercalate parts) = parts.flatMap lineEnds := by
  rw [lineEnds, String.toList_intercalate, filter_intercalate line, List.flatMap_map]
  rfl

/-- A line in place of a part that is missing brings no line end. -/
theorem lineEnds_getD (part : Option String) {line : String} (isLine : IsLine line) :
    lineEnds (part.getD line) = part.toList.flatMap lineEnds := by
  cases part with
  | none => exact isLine
  | some part => simp

/-! ### Texts cut short -/

theorem lineEnds_cut_sublist (s : String) (limit : Nat) :
    (lineEnds (cut s limit)).Sublist (lineEnds s) := by
  rw [cut, lineEnds_ofList]
  exact (List.take_sublist limit s.toList).filter isLineEnd

theorem lineEnds_ellipsize_sublist (s : String) (limit : Nat) :
    (lineEnds (ellipsize s limit)).Sublist (lineEnds s) := by
  have dots : lineEnds "..." = [] := by decide
  unfold ellipsize
  split
  · exact List.Sublist.refl _
  · split
    · exact lineEnds_cut_sublist s limit
    · rw [lineEnds_append, dots, List.append_nil]
      exact lineEnds_cut_sublist s (limit - 3)

/-- The components of a path have line ends of the path, in order. -/
theorem lineEnds_components_sublist (path : String) :
    ((components path).flatMap (List.filter isLineEnd)).Sublist (lineEnds path) := by
  have whole : (path.toList.splitOn '/').flatMap (List.filter isLineEnd) = lineEnds path := by
    have slash : ['/'].filter isLineEnd = [] := by decide
    rw [← filter_intercalate slash, List.intercalate_splitOn, lineEnds]
  rw [← whole]
  exact List.filter_sublist.flatMap _

theorem lineEnds_shortenPath_sublist (path : String) :
    (lineEnds (shortenPath path)).Sublist (lineEnds path) := by
  unfold shortenPath
  split
  · rename_i last parent third rest eq
    have parts : components path = rest.reverse ++ [third, parent, last] := by
      rw [← List.reverse_reverse (components path), eq]
      simp
    have dots : lineEnds ".../" = [] := by decide
    have slash : lineEnds "/" = [] := by decide
    have sublist := lineEnds_components_sublist path
    rw [parts, List.flatMap_append, List.flatMap_cons, List.flatMap_cons, List.flatMap_cons,
      List.flatMap_nil, List.append_nil] at sublist
    rw [lineEnds_append, lineEnds_append, lineEnds_append, dots, slash, lineEnds_ofList,
      lineEnds_ofList, List.append_nil, List.nil_append]
    exact ((List.sublist_append_right ..).trans (List.sublist_append_right ..)).trans sublist
  · exact List.Sublist.refl _

/-! ### Lowercase -/

theorem isLineEnd_of_above {c : Char} (above : 13 < c.toNat) : isLineEnd c = false := by
  rw [isLineEnd, Bool.or_eq_false_iff, beq_eq_false_iff_ne, beq_eq_false_iff_ne]
  constructor <;> rintro rfl <;> exact absurd above (by decide)

/-- A number above the line ends is no line end as a character. One that is no code point stands
for the null character, which is none either. -/
theorem isLineEnd_ofNat {n : Nat} (above : 13 < n) : isLineEnd (Char.ofNat n) = false := by
  by_cases valid : n.isValidChar
  · apply isLineEnd_of_above
    rw [Char.ofNat, dif_pos valid]
    exact above
  · rw [Char.ofNat, dif_neg valid]
    decide

/-- Capital letters and small letters come after the line ends. -/
theorem Lowercase.above_of_small? {n m : Nat} (small : small? n = some m) : 13 < n ∧ 13 < m := by
  have above : ∀ r ∈ runs, 13 < r.first ∧ 13 < (r.first : Int) + r.shift := by
    decide +kernel
  rw [small?, Option.map_eq_some_iff] at small
  obtain ⟨r, found, rfl⟩ := small
  have covers := List.find?_some found
  have := above r (List.mem_of_find?_eq_some found)
  simp only [Run.covers, Bool.and_eq_true, decide_eq_true_eq] at covers
  omega

theorem Lowercase.filter_ofChar (c : Char) :
    (ofChar c).filter isLineEnd = [c].filter isLineEnd := by
  unfold ofChar
  split
  · rename_i eq
    rw [eq]
    decide
  · split
    · rename_i n small
      obtain ⟨capital, small⟩ := above_of_small? small
      simp [isLineEnd_of_above capital, isLineEnd_ofNat small]
    · rfl

theorem Lowercase.filter_following (before cs : List Char) :
    (following before cs).filter isLineEnd = cs.filter isLineEnd := by
  induction cs generalizing before with
  | nil => rfl
  | cons c cs ih =>
      rw [following, List.filter_append, ih, ← List.singleton_append (l := cs), List.filter_append]
      congr 1
      split
      · rename_i sigma
        rw [sigma, ofSigma]
        split <;> decide
      · exact filter_ofChar c

/-- Lowercase has the line ends of a text where they stand in it. -/
theorem lineEnds_lowercase (s : String) : lineEnds (lowercase s) = lineEnds s := by
  rw [lowercase, lineEnds_ofList, lowerChars, Lowercase.filter_following]
  rfl

end Scrollback.Text
