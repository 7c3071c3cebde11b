import Scrollback.Proofs.Attachment.Header

/-!
What is read on the two sides of the separator.

After it stand the sections: a header and the lines up to the next one are one section
(`sections_cons_append`), and sections with different labels are the bodies, in
ascending order of the labels (`Bodies.perm_ofSections`). Before it stands the body,
and its segments written one after another are the body again
(`written_splitReferences`).
-/

namespace Scrollback.Attachment

/-! ### Bodies -/

namespace Bodies

/-- The labels stand in ascending order, each once. -/
def Ascending (bodies : Bodies) : Prop :=
  bodies.Pairwise fun a b => a.1 < b.1

variable {bodies : Bodies} {label text : String}

theorem mem_put {b : String × String} (mem : b ∈ bodies.put label text) :
    b = (label, text) ∨ b ∈ bodies := by
  induction bodies with
  | nil => exact .inl (List.mem_singleton.mp mem)
  | cons head rest ih =>
      unfold put at mem
      split at mem
      · rcases List.mem_cons.mp mem with here | later
        · exact .inl here
        · exact .inr (List.mem_cons_of_mem _ later)
      · split at mem
        · exact List.mem_cons.mp mem
        · rcases List.mem_cons.mp mem with here | later
          · exact .inr (here ▸ List.mem_cons_self)
          · rcases ih later with new | old
            · exact .inl new
            · exact .inr (List.mem_cons_of_mem _ old)

theorem Ascending.put (ascending : bodies.Ascending) (label text : String) :
    (bodies.put label text).Ascending := by
  induction bodies with
  | nil => exact List.pairwise_singleton _ _
  | cons head rest ih =>
      obtain ⟨above, ascendingRest⟩ := List.pairwise_cons.mp ascending
      unfold Bodies.put
      split
      · rename_i same
        subst same
        exact List.pairwise_cons.mpr ⟨above, ascendingRest⟩
      · rename_i other
        split
        · rename_i less
          refine List.pairwise_cons.mpr ⟨?_, ascending⟩
          intro b mem
          rcases List.mem_cons.mp mem with rfl | later
          · exact less
          · exact String.lt_trans less (above b later)
        · rename_i notLess
          have greater : head.1 < label :=
            Std.lt_of_le_of_ne (String.not_lt.mp notLess) (Ne.symm other)
          refine List.pairwise_cons.mpr ⟨?_, ih ascendingRest⟩
          intro b mem
          rcases mem_put mem with rfl | old
          · exact greater
          · exact above b old

/-- A text put under a fresh label is there beside all others. -/
theorem perm_put (fresh : ∀ b ∈ bodies, b.1 ≠ label) :
    (bodies.put label text).Perm ((label, text) :: bodies) := by
  induction bodies with
  | nil => exact .refl _
  | cons head rest ih =>
      unfold put
      split
      · rename_i same
        exact absurd same.symm (fresh head List.mem_cons_self)
      · split
        · exact .refl _
        · have freshRest : ∀ b ∈ rest, b.1 ≠ label := by
            intro b mem
            exact fresh b (List.mem_cons_of_mem _ mem)
          exact ((ih freshRest).cons head).trans (.swap _ _ _)

/-- Sections with different labels put into bodies that have none of these labels. -/
theorem perm_foldl_put {sections : List (String × String)}
    (nodup : (sections.map Prod.fst).Nodup)
    (fresh : ∀ s ∈ sections, ∀ b ∈ bodies, b.1 ≠ s.1) :
    (sections.foldl (fun bodies s => bodies.put s.1 s.2) bodies).Perm (sections ++ bodies) := by
  induction sections generalizing bodies with
  | nil => exact .refl _
  | cons first rest ih =>
      rw [List.map_cons, List.nodup_cons] at nodup
      have freshRest : ∀ s ∈ rest, ∀ b ∈ bodies.put first.1 first.2, b.1 ≠ s.1 := by
        intro s mem b put
        rcases mem_put put with rfl | old
        · intro same
          exact nodup.1 (same ▸ List.mem_map_of_mem mem)
        · exact fresh s (List.mem_cons_of_mem _ mem) b old
      have putFirst : (rest ++ bodies.put first.1 first.2).Perm (rest ++ first :: bodies) :=
        (perm_put (fresh first List.mem_cons_self)).append_left rest
      exact (ih nodup.2 freshRest).trans (putFirst.trans List.perm_middle)

/-- Sections with different labels are all among the bodies, and nothing else is. -/
theorem perm_ofSections {sections : List (String × String)}
    (nodup : (sections.map Prod.fst).Nodup) : (ofSections sections).Perm sections := by
  have perm : (ofSections sections).Perm (sections ++ []) :=
    perm_foldl_put nodup fun s _ b mem => nomatch mem
  rwa [List.append_nil] at perm

theorem ascending_ofSections (sections : List (String × String)) :
    (ofSections sections).Ascending := by
  have step : ∀ bodies : Bodies, bodies.Ascending →
      (sections.foldl (fun bodies s => bodies.put s.1 s.2) bodies).Ascending := by
    induction sections with
    | nil =>
        intro bodies ascending
        exact ascending
    | cons first rest ih =>
        intro bodies ascending
        exact ih _ (ascending.put first.1 first.2)
  exact step [] List.Pairwise.nil

/-- Under a label stands the text of the last section with that label. -/
theorem get?_ofSections (sections : List (String × String)) (key : String) :
    (ofSections sections).get? key = (sections.reverse.find? fun s => key = s.1).map Prod.snd := by
  induction sections using List.reverseRecOn with
  | nil => rfl
  | append_singleton init last ih =>
      have put : ofSections (init ++ [last]) = (ofSections init).put last.1 last.2 := by
        rw [ofSections, List.foldl_append]
        rfl
      rw [put, get?_put, ih, List.reverse_append, List.reverse_singleton, List.singleton_append,
        List.find?_cons]
      by_cases same : key = last.1
      · simp [same]
      · simp [same]

theorem put_ne_nil (bodies : Bodies) (label text : String) : bodies.put label text ≠ [] := by
  cases bodies with
  | nil => exact List.cons_ne_nil _ _
  | cons head rest =>
      unfold put
      split
      · exact List.cons_ne_nil _ _
      · split <;> exact List.cons_ne_nil _ _

theorem ofSections_ne_nil {sections : List (String × String)} (nonempty : sections ≠ []) :
    ofSections sections ≠ [] := by
  rcases List.eq_nil_or_concat sections with nil | ⟨init, last, rfl⟩
  · exact absurd nil nonempty
  · rw [List.concat_eq_append, ofSections, List.foldl_append]
    exact put_ne_nil _ last.1 last.2

end Bodies

/-! ### Sections -/

section Sections

variable {body : List Char}

/-- Lines that open no text begin no section. -/
theorem sections_append_plain {ls : List (List Char)} (plain : ∀ line ∈ ls, ¬ Opens body line)
    (rest : List (List Char)) : sections body (ls ++ rest) = sections body rest := by
  induction ls with
  | nil => rfl
  | cons line ls ih =>
      have noHeader := header?_eq_none_iff.mpr (plain line List.mem_cons_self)
      rw [List.cons_append, sections, noHeader]
      exact ih fun l mem => plain l (List.mem_cons_of_mem _ mem)

/-- The lines up to the next header. -/
theorem takeWhile_append_plain {ls rest : List (List Char)}
    (plain : ∀ line ∈ ls, ¬ Opens body line) (next : ∀ line ∈ rest.head?, Opens body line) :
    (ls ++ rest).takeWhile (fun l => (header? body l).isNone) = ls := by
  have inside : ∀ line ∈ ls, (header? body line).isNone = true := by
    intro line mem
    rw [Option.isNone_iff_eq_none]
    exact header?_eq_none_iff.mpr (plain line mem)
  rw [List.takeWhile_append_of_pos inside]
  cases rest with
  | nil => rw [List.takeWhile_nil, List.append_nil]
  | cons line rest =>
      have opens := isSome_header?_iff.mpr (next line rfl)
      rw [List.takeWhile_cons_of_neg (by rw [Option.isNone_eq_false_iff.mpr opens]; decide),
        List.append_nil]

/-- A header and the lines up to the next one are one section. -/
theorem sections_cons_append {header label : List Char} {ls rest : List (List Char)}
    (isHeader : IsHeader body header label) (plain : ∀ line ∈ ls, ¬ Opens body line)
    (next : ∀ line ∈ rest.head?, Opens body line) :
    sections body (header :: (ls ++ rest)) =
      (String.ofList label, String.ofList (Text.dropLineEnd ls.flatten)) :: sections body rest := by
  rw [sections, header?_eq_some_iff.mpr isHeader]
  dsimp only
  rw [takeWhile_append_plain plain next, sections_append_plain plain]

end Sections

/-! ### References -/

/-- The characters of segments written one after another. -/
def written (segments : List Segment) : List Char :=
  segments.flatMap fun s => s.written.toList

theorem written_flush (pending : List Char) (segments : List Segment) :
    written (flush pending segments) = pending.reverse ++ written segments := by
  unfold flush
  split
  · rename_i empty
    rw [List.isEmpty_iff.mp empty]
    rfl
  · simp [written, Segment.written]

theorem written_reference_cons (label : List Char) (segments : List Segment) :
    written (.reference (String.ofList label) :: segments) =
      '[' :: (label ++ ']' :: written segments) := by
  simp [written, Segment.written]

/-- The segments of a body written one after another are the body. -/
theorem written_splitReferences (bodies : Bodies) (pending cs : List Char) :
    written (splitReferences bodies pending cs) = pending.reverse ++ cs := by
  fun_induction splitReferences bodies pending cs with
  | case1 pending => exact written_flush pending []
  | case2 pending cs label rest found ours ih =>
      rw [List.reverse_nil, List.nil_append] at ih
      rw [written_flush, written_reference_cons, ih, ← eq_of_toClosing? found]
  | case3 pending cs label rest found foreign ih =>
      rw [ih, List.reverse_cons, ← List.append_cons]
  | case4 pending cs unclosed ih => rw [ih, List.reverse_cons, ← List.append_cons]
  | case5 pending c cs other ih => rw [ih, List.reverse_cons, ← List.append_cons]

theorem toList_written (p : Parsed) : p.written.toList = written p.segments := by
  rw [Parsed.written, String.toList_join, List.flatMap_map]
  rfl

/-! ### Content -/

/-- Content with a separator and sections after it: the sections are its bodies, and its
segments are those of the text before the separator without the line ends at its end. -/
theorem Parsed.ofContent_eq {content : String} {before : List Char} {after : List (List Char)}
    (split : splitAtSeparator? [] (Text.lines content.toList) = some (before, after))
    (nonempty : sections (Text.dropLineEnd before) after ≠ []) :
    Parsed.ofContent content =
      { segments := splitReferences (Bodies.ofSections (sections (Text.dropLineEnd before) after)) []
          (Text.dropLineEnd before)
        bodies := Bodies.ofSections (sections (Text.dropLineEnd before) after) } := by
  have attached : (Bodies.ofSections (sections (Text.dropLineEnd before) after)).isEmpty = false :=
    List.isEmpty_eq_false_iff.mpr (Bodies.ofSections_ne_nil nonempty)
  rw [Parsed.ofContent, split]
  dsimp only
  rw [attached]
  rfl

theorem Parsed.ofContent_of_separator {content : String} {before : List Char}
    {after : List (List Char)}
    (split : splitAtSeparator? [] (Text.lines content.toList) = some (before, after))
    (nonempty : sections (Text.dropLineEnd before) after ≠ []) :
    (Parsed.ofContent content).bodies =
        Bodies.ofSections (sections (Text.dropLineEnd before) after) ∧
      (Parsed.ofContent content).written.toList = Text.dropLineEnd before := by
  rw [toList_written, Parsed.ofContent_eq split nonempty]
  exact ⟨rfl, written_splitReferences _ [] _⟩

end Scrollback.Attachment
