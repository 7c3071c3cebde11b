/-!
Shortening of labels.

`cut` keeps the first characters of a text, `ellipsize` marks what it leaves out
with three dots and never exceeds its limit (`length_ellipsize_le`), and
`shortenPath` keeps the last two components of a longer path.
-/

namespace Scrollback.Text

/-- The first `limit` characters. -/
def cut (s : String) (limit : Nat) : String :=
  String.ofList (s.toList.take limit)

/-- A text within `limit` characters unchanged, a longer one cut to leave room
for three dots. A limit without room for the dots cuts hard. -/
def ellipsize (s : String) (limit : Nat) : String :=
  if s.toList.length ≤ limit then s
  else if limit ≤ 3 then cut s limit
  else cut s (limit - 3) ++ "..."

/-- The components of a path: the non-empty stretches between slashes. -/
def components (path : String) : List (List Char) :=
  (path.toList.splitOn '/').filter (!·.isEmpty)

/-- The last two components after `.../` when there are at least three, else the
path as it stands. -/
def shortenPath (path : String) : String :=
  match (components path).reverse with
  | last :: parent :: _ :: _ => ".../" ++ String.ofList parent ++ "/" ++ String.ofList last
  | _ => path

/-! ### Lengths -/

/-- A cut text has no more characters than its limit. -/
theorem length_cut_le (s : String) (limit : Nat) : (cut s limit).toList.length ≤ limit := by
  rw [cut, String.toList_ofList, List.length_take]
  exact Nat.min_le_left ..

/-- The ellipsized text has no more characters than its limit. -/
theorem length_ellipsize_le (s : String) (limit : Nat) :
    (ellipsize s limit).toList.length ≤ limit := by
  unfold ellipsize
  split
  · assumption
  · split
    · exact length_cut_le s limit
    · have := length_cut_le s (limit - 3)
      simp only [String.toList_append, List.length_append]
      have dots : "...".toList.length = 3 := by decide
      omega

end Scrollback.Text
