import Mathlib.Data.List.Basic
import Scrollback.Tool.Family

/-!
The order in which families are tried.

Two patterns have a name in common when their words meet (`Pattern.meets_iff`), so the families
that share names can be read off the table: they are the `contested` pairs
(`Family.meets_iff_contested`). Tried in another order, the families give every tool the same
one exactly when the contested pairs stay in order (`contested_order`).
-/

namespace Scrollback

/-- What is found first in a list stands before everything else in it with the property. -/
theorem find?_eq_some_iff_idxOf {α : Type} [DecidableEq α] {items : List α} {p : α → Bool}
    {a : α} :
    items.find? p = some a ↔
      a ∈ items ∧ p a = true ∧ ∀ b ∈ items, p b = true → items.idxOf a ≤ items.idxOf b := by
  have foremost : ∀ {a}, items.find? p = some a →
      a ∈ items ∧ p a = true ∧ ∀ b ∈ items, p b = true → items.idxOf a ≤ items.idxOf b := by
    intro a found
    obtain ⟨holds, before, after, rfl, fail⟩ := List.find?_eq_some_iff_append.mp found
    have notBefore : ∀ b, p b = true → b ∉ before := by
      intro b bHolds mem
      exact absurd bHolds (by simpa using fail b mem)
    refine ⟨by simp, holds, ?_⟩
    intro b _ bHolds
    rw [List.idxOf_append_of_notMem (notBefore a holds), List.idxOf_cons_self,
      List.idxOf_append_of_notMem (notBefore b bHolds)]
    exact Nat.le_add_right _ _
  constructor
  · exact foremost
  · rintro ⟨mem, holds, first⟩
    obtain ⟨b, found⟩ := Option.isSome_iff_exists.mp (List.find?_isSome.mpr ⟨a, mem, holds⟩)
    obtain ⟨bMem, bHolds, bFirst⟩ := foremost found
    have same : items.idxOf a = items.idxOf b :=
      Nat.le_antisymm (first b bMem bHolds) (bFirst a mem holds)
    rw [found, (List.idxOf_inj mem).mp same]

namespace Tool

/-! ### Patterns with a name in common -/

namespace Pattern

variable {p q : Pattern} {base : String}

theorem fits_iff :
    p.fits base = true ↔ base ∈ p.names ∨ (∃ e ∈ p.endings, e.toList <:+ base.toList) ∨
      ∃ b ∈ p.beginnings, b.toList <+: base.toList := by
  simp [fits, or_assoc]

/-- The words of two patterns meet: a name of one fits the other, one of two endings or of two
beginnings is the end or the beginning of the other, or one pattern has an ending and the other
a beginning. -/
def Meets (p q : Pattern) : Prop :=
  (∃ base ∈ p.names, q.fits base = true) ∨ (∃ base ∈ q.names, p.fits base = true) ∨
    (∃ e ∈ p.endings, ∃ d ∈ q.endings, e.toList <:+ d.toList ∨ d.toList <:+ e.toList) ∨
    (∃ b ∈ p.beginnings, ∃ c ∈ q.beginnings, b.toList <+: c.toList ∨ c.toList <+: b.toList) ∨
    (p.endings ≠ [] ∧ q.beginnings ≠ []) ∨ (p.beginnings ≠ [] ∧ q.endings ≠ [])

instance (p q : Pattern) : Decidable (p.Meets q) := by
  unfold Meets
  infer_instance

theorem fits_of_suffix {e : String} (mem : e ∈ p.endings) (ends : e.toList <:+ base.toList) :
    p.fits base = true :=
  fits_iff.mpr (Or.inr (Or.inl ⟨e, mem, ends⟩))

theorem fits_of_prefix {b : String} (mem : b ∈ p.beginnings) (begins : b.toList <+: base.toList) :
    p.fits base = true :=
  fits_iff.mpr (Or.inr (Or.inr ⟨b, mem, begins⟩))

/-- A beginning and an ending make a name between them. -/
theorem exists_fits_of_beginning (beginning : p.beginnings ≠ []) (ending : q.endings ≠ []) :
    ∃ base, p.fits base = true ∧ q.fits base = true := by
  obtain ⟨b, bMem⟩ := List.exists_mem_of_ne_nil _ beginning
  obtain ⟨e, eMem⟩ := List.exists_mem_of_ne_nil _ ending
  refine ⟨b ++ e, fits_of_prefix bMem ?_, fits_of_suffix eMem ?_⟩
  · rw [String.toList_append]
    exact List.prefix_append _ _
  · rw [String.toList_append]
    exact List.suffix_append _ _

theorem Meets.exists_fits (meets : p.Meets q) :
    ∃ base, p.fits base = true ∧ q.fits base = true := by
  rcases meets with ⟨base, mem, fits⟩ | ⟨base, mem, fits⟩ | ⟨e, eMem, d, dMem, ends⟩ |
    ⟨b, bMem, c, cMem, begins⟩ | ⟨ending, beginning⟩ | ⟨beginning, ending⟩
  · exact ⟨base, fits_iff.mpr (Or.inl mem), fits⟩
  · exact ⟨base, fits, fits_iff.mpr (Or.inl mem)⟩
  · rcases ends with ends | ends
    · exact ⟨d, fits_of_suffix eMem ends, fits_of_suffix dMem List.suffix_rfl⟩
    · exact ⟨e, fits_of_suffix eMem List.suffix_rfl, fits_of_suffix dMem ends⟩
  · rcases begins with begins | begins
    · exact ⟨c, fits_of_prefix bMem begins, fits_of_prefix cMem List.prefix_rfl⟩
    · exact ⟨b, fits_of_prefix bMem List.prefix_rfl, fits_of_prefix cMem begins⟩
  · obtain ⟨base, fitsQ, fitsP⟩ := exists_fits_of_beginning beginning ending
    exact ⟨base, fitsP, fitsQ⟩
  · exact exists_fits_of_beginning beginning ending

theorem meets_of_fits (fitsP : p.fits base = true) (fitsQ : q.fits base = true) : p.Meets q := by
  rcases fits_iff.mp fitsP with name | ⟨e, eMem, ends⟩ | ⟨b, bMem, begins⟩
  · exact Or.inl ⟨base, name, fitsQ⟩
  · rcases fits_iff.mp fitsQ with name | ⟨d, dMem, ends'⟩ | ⟨c, cMem, -⟩
    · exact Or.inr (Or.inl ⟨base, name, fitsP⟩)
    · have comparable := List.suffix_or_suffix_of_suffix ends ends'
      exact Or.inr (Or.inr (Or.inl ⟨e, eMem, d, dMem, comparable⟩))
    · exact Or.inr (Or.inr (Or.inr (Or.inr (Or.inl
        ⟨List.ne_nil_of_mem eMem, List.ne_nil_of_mem cMem⟩))))
  · rcases fits_iff.mp fitsQ with name | ⟨d, dMem, -⟩ | ⟨c, cMem, begins'⟩
    · exact Or.inr (Or.inl ⟨base, name, fitsP⟩)
    · exact Or.inr (Or.inr (Or.inr (Or.inr (Or.inr
        ⟨List.ne_nil_of_mem bMem, List.ne_nil_of_mem dMem⟩))))
    · have comparable := List.prefix_or_prefix_of_prefix begins begins'
      exact Or.inr (Or.inr (Or.inr (Or.inl ⟨b, bMem, c, cMem, comparable⟩)))

/-- The words of two patterns meet exactly when some name fits both. -/
theorem meets_iff : p.Meets q ↔ ∃ base, p.fits base = true ∧ q.fits base = true := by
  constructor
  · exact Meets.exists_fits
  · rintro ⟨base, fitsP, fitsQ⟩
    exact meets_of_fits fitsP fitsQ

end Pattern

namespace Family

/-! ### Families that share names -/

/-- The pairs of families that share names, each with the family first that is tried first. -/
def contested : List (Family × Family) :=
  [(todo, write), (todo, delegate), (shell, delegate), (read, delegate), (write, delegate),
    (search, delegate)]

theorem meets_iff_contested {f g : Family} (differ : f ≠ g) :
    f.pattern.Meets g.pattern ↔ (f, g) ∈ contested ∨ (g, f) ∈ contested := by
  have table : ∀ f ∈ all, ∀ g ∈ all, f ≠ g →
      (f.pattern.Meets g.pattern ↔ (f, g) ∈ contested ∨ (g, f) ∈ contested) := by
    decide +kernel
  exact table f (mem_all f) g (mem_all g) differ

/-! ### Other orders -/

/-- Of each contested pair the first is tried before the second. -/
def Keeps (order : List Family) : Prop :=
  ∀ pair ∈ contested, order.idxOf pair.1 < order.idxOf pair.2

instance (order : List Family) : Decidable (Keeps order) :=
  inferInstanceAs (Decidable (∀ pair ∈ contested, _))

theorem keeps_all : Keeps all := by
  decide

section Order

variable {order other : List Family} {base : String} {f : Family}

/-- Of two orders that keep the contested pairs both find the same family. -/
theorem firstOf_of_keeps (perm : order.Perm other) (keeps : Keeps order) (keeps' : Keeps other)
    (found : firstOf order base = some f) : firstOf other base = some f := by
  obtain ⟨mem, fits, first⟩ := find?_eq_some_iff_idxOf.mp found
  refine find?_eq_some_iff_idxOf.mpr ⟨perm.subset mem, fits, ?_⟩
  intro g gMem gFits
  by_cases same : f = g
  · exact same ▸ Nat.le_refl _
  have meets : f.pattern.Meets g.pattern := Pattern.meets_of_fits fits gFits
  rcases (meets_iff_contested same).mp meets with ahead | behind
  · exact Nat.le_of_lt (keeps' (f, g) ahead)
  · -- Then the first order would have found `g`.
    have earlier : order.idxOf g < order.idxOf f := keeps (g, f) behind
    exact absurd (first g (perm.symm.subset gMem) gFits) (Nat.not_le.mpr earlier)

theorem firstOf_congr (perm : order.Perm other) (keeps : Keeps order) (keeps' : Keeps other)
    (base : String) : firstOf order base = firstOf other base := by
  refine Option.ext fun f => ⟨?_, ?_⟩
  · exact firstOf_of_keeps perm keeps keeps'
  · exact firstOf_of_keeps perm.symm keeps' keeps

/-- Each contested pair has a tool that belongs to the first and fits the second as well. -/
theorem exists_contested_name :
    ∀ pair ∈ contested, ∃ name, of? name = some pair.1 ∧
      pair.2.pattern.fits (baseName name) = true := by
  simp only [contested, List.forall_mem_cons]
  refine ⟨⟨"todo_write", ?_⟩, ⟨"delegate_todo_write", ?_⟩, ⟨"delegate_shell", ?_⟩,
    ⟨"delegate_read", ?_⟩, ⟨"delegate_write", ?_⟩, ⟨"delegate_search", ?_⟩, nofun⟩
  all_goals decide +kernel

/-- An order that finds the same families keeps the contested pairs. -/
theorem keeps_of_firstOf (complete : ∀ f, f ∈ order)
    (same : ∀ name, firstOf order (baseName name) = of? name) : Keeps order := by
  intro pair mem
  obtain ⟨name, of, fits⟩ := exists_contested_name pair mem
  have found : firstOf order (baseName name) = some pair.1 := (same name).trans of
  have le := (find?_eq_some_iff_idxOf.mp found).2.2 pair.2 (complete _) fits
  refine Nat.lt_of_le_of_ne le ?_
  intro eq
  have differ : ∀ pair ∈ contested, pair.1 ≠ pair.2 := by
    decide
  exact differ pair mem ((List.idxOf_inj (complete _)).mp eq)

end Order

/-- Only families of a contested pair share names. So the order in which the families are tried
matters for these pairs alone: in another order every tool is of the same family exactly when
of each contested pair the same one is still tried first. -/
theorem contested_order :
    (∀ f g base, f ≠ g → f.pattern.fits base = true → g.pattern.fits base = true →
      (f, g) ∈ contested ∨ (g, f) ∈ contested) ∧
    ∀ order : List Family, order.Perm all →
      (Keeps order ↔ ∀ name, firstOf order (baseName name) = of? name) := by
  constructor
  · intro f g base differ fitsF fitsG
    exact (meets_iff_contested differ).mp (Pattern.meets_of_fits fitsF fitsG)
  · intro order perm
    constructor
    · intro keeps name
      exact firstOf_congr perm keeps keeps_all (baseName name)
    · intro same
      exact keeps_of_firstOf (fun f => perm.symm.subset (mem_all f)) same

/-- A name of two families, an order that keeps the contested pairs and one that does not. -/
theorem contested_order_sample :
    let kept := [conversation, todo, write, shell, model, read, search, ask, delegate]
    let turned := [todo, shell, ask, read, search, delegate, write, model, conversation]
    todo.pattern.fits "fs_todo_write" = true ∧ write.pattern.fits "fs_todo_write" = true ∧
      ((todo, write) ∈ contested ∨ (write, todo) ∈ contested) ∧
      kept.Perm all ∧ firstOf kept (baseName "Delegate_Read") = of? "Delegate_Read" ∧
      turned.Perm all ∧ ¬ ∀ name, firstOf turned (baseName name) = of? name := by
  intro kept turned
  have fitsTodo : todo.pattern.fits "fs_todo_write" = true := by decide +kernel
  have fitsWrite : write.pattern.fits "fs_todo_write" = true := by decide +kernel
  have pair := contested_order.1 todo write "fs_todo_write" (by decide) fitsTodo fitsWrite
  have keptPerm : kept.Perm all := by decide
  have turnedPerm : turned.Perm all := by decide
  refine ⟨fitsTodo, fitsWrite, pair, keptPerm, ?_, turnedPerm, ?_⟩
  · exact (contested_order.2 kept keptPerm).mp (by decide) "Delegate_Read"
  · intro same
    exact absurd ((contested_order.2 turned turnedPerm).mpr same) (by decide)

end Family

end Tool

end Scrollback
