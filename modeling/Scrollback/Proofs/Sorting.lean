import Mathlib.Data.List.Nodup
import Mathlib.Data.String.Basic
import Scrollback.Report

/-!
Sorted lists.

A comparison that is an order sorts a list into the one list that is in order, as long as
only equal items compare as equal (`mergeSort_eq_of_perm`). Items that do compare as equal
keep their order (`filter_mergeSort`), so the one in front is the first of the least
(`head?_mergeSort`). Messages are compared by time and then by identity, so messages with
identities of their own have one order (`Message.sort_eq_of_perm`).
-/

namespace Scrollback

section Sorting

variable {α : Type} {order : α → α → Ordering} [Std.TransCmp order]

/-- Of two items one does not come after the other. -/
theorem isLE_or_isLE (order : α → α → Ordering) [Std.TransCmp order] (a b : α) :
    ((order a b).isLE || (order b a).isLE) = true := by
  have swap : order b a = (order a b).swap := Std.OrientedCmp.eq_swap
  rw [swap]
  cases order a b with
  | lt => rfl
  | eq => rfl
  | gt => rfl

theorem pairwise_mergeSort (items : List α) :
    (items.mergeSort fun a b => (order a b).isLE).Pairwise fun a b => (order a b).isLE = true :=
  List.pairwise_mergeSort (fun _ _ _ => Std.TransCmp.isLE_trans) (isLE_or_isLE order) items

/-- How a list is sorted does not depend on its order, when only equal items of it compare
as equal. -/
theorem mergeSort_eq_of_perm {first second : List α} (perm : first.Perm second)
    (apart : ∀ a ∈ first, ∀ b ∈ first, order a b = .eq → a = b) :
    first.mergeSort (fun a b => (order a b).isLE) =
      second.mergeSort (fun a b => (order a b).isLE) := by
  have sorted : (first.mergeSort fun a b => (order a b).isLE).Perm
      (second.mergeSort fun a b => (order a b).isLE) :=
    ((List.mergeSort_perm ..).trans perm).trans (List.mergeSort_perm ..).symm
  refine sorted.eq_of_pairwise ?_ (pairwise_mergeSort first) (pairwise_mergeSort second)
  intro a b aMem bMem le ge
  have inFirst : a ∈ first := (List.mergeSort_perm ..).subset aMem
  have inSecond : b ∈ first := perm.symm.subset ((List.mergeSort_perm ..).subset bMem)
  exact apart a inFirst b inSecond (Std.OrientedCmp.isLE_antisymm le ge)

/-- Items that compare as equal keep their order. -/
theorem filter_mergeSort {items : List α} {p : α → Bool}
    (tied : ∀ a ∈ items, ∀ b ∈ items, p a = true → p b = true → (order a b).isLE = true) :
    (items.mergeSort fun a b => (order a b).isLE).filter p = items.filter p := by
  have inOrder : (items.filter p).Pairwise fun a b => (order a b).isLE = true := by
    refine List.pairwise_of_forall_mem_list ?_
    intro a aMem b bMem
    obtain ⟨aMem, aHolds⟩ := List.mem_filter.mp aMem
    obtain ⟨bMem, bHolds⟩ := List.mem_filter.mp bMem
    exact tied a aMem b bMem aHolds bHolds
  have kept : (items.filter p).Sublist (items.mergeSort fun a b => (order a b).isLE) :=
    List.sublist_mergeSort (fun _ _ _ => Std.TransCmp.isLE_trans) (isLE_or_isLE order) inOrder
      List.filter_sublist
  have keptAlone := kept.filter p
  simp only [List.filter_filter, Bool.and_self] at keptAlone
  have length := ((List.mergeSort_perm items fun a b => (order a b).isLE).filter p).length_eq
  exact (keptAlone.eq_of_length length.symm).symm

/-- The lesser of two items, the first one if they compare as equal. -/
def lesser (order : α → α → Ordering) (a b : α) : α :=
  if (order b a).isLT then b else a

theorem lesser_eq_left {a b : α} (le : (order a b).isLE = true) : lesser order a b = a := by
  have swap : order b a = (order a b).swap := Std.OrientedCmp.eq_swap
  unfold lesser
  rw [swap]
  cases result : order a b with
  | lt => rfl
  | eq => rfl
  | gt => simp [result] at le

theorem lesser_eq_right {a b : α} (gt : ¬ (order a b).isLE = true) : lesser order a b = b := by
  have swap : order b a = (order a b).swap := Std.OrientedCmp.eq_swap
  unfold lesser
  rw [swap]
  cases result : order a b with
  | lt => simp [result] at gt
  | eq => simp [result] at gt
  | gt => rfl

instance : Std.Associative (lesser order) where
  assoc a b c := by
    by_cases ab : (order a b).isLE = true
    · rw [lesser_eq_left ab]
      by_cases bc : (order b c).isLE = true
      · have ac : (order a c).isLE = true := Std.TransCmp.isLE_trans ab bc
        rw [lesser_eq_left bc, lesser_eq_left ab, lesser_eq_left ac]
      · rw [lesser_eq_right bc]
    · rw [lesser_eq_right ab]
      by_cases bc : (order b c).isLE = true
      · rw [lesser_eq_left bc, lesser_eq_right ab]
      · have ca : ¬ (order a c).isLE = true := by
          intro ac
          have cb : (order c b).isLE = true := by simpa [bc] using isLE_or_isLE order b c
          exact ab (Std.TransCmp.isLE_trans ac cb)
        rw [lesser_eq_right bc, lesser_eq_right ca]

/-- What is sorted to the front is the least item, and of several the first. -/
theorem head?_mergeSort (first : α) (rest : List α) :
    ((first :: rest).mergeSort fun a b => (order a b).isLE).head? =
      some (rest.foldl (lesser order) first) := by
  induction rest generalizing first with
  | nil =>
      rw [List.mergeSort_singleton]
      rfl
  | cons second rest ih =>
      have restHead := ih second
      obtain ⟨before, after, sorted, restSorted, greater⟩ :=
        List.mergeSort_cons (fun _ _ _ => Std.TransCmp.isLE_trans) (isLE_or_isLE order) first
          (second :: rest)
      have inOrder : ((first :: second :: rest).mergeSort fun a b => (order a b).isLE).Pairwise
          fun a b => (order a b).isLE = true := pairwise_mergeSort _
      rw [List.foldl_cons, List.foldl_assoc]
      rw [sorted] at inOrder ⊢
      rw [restSorted] at restHead
      -- Either an item of the rest stays in front of the first one, or the first one is in front.
      cases before with
      | nil =>
          rw [List.nil_append] at inOrder restHead
          have least := (List.pairwise_cons.mp inOrder).1 _ (List.mem_of_head? restHead)
          rw [lesser_eq_left least]
          rfl
      | cons least before =>
          cases restHead
          have after := greater _ List.mem_cons_self
          rw [lesser_eq_right (by simpa using after)]
          rfl

end Sorting

namespace Message

/-- Older messages come first, and of one time those with the smaller identity. -/
def Precedes (a b : Message) : Prop :=
  a.stamp < b.stamp ∨ (a.stamp = b.stamp ∧ a.id ≤ b.id)

theorem isLE_order_iff (a b : Message) : (order a b).isLE = true ↔ a.Precedes b := by
  unfold order Precedes
  rw [Ordering.isLE_then_iff_or, Std.compare_eq_iff_eq, Std.LawfulLECmp.isLE_iff_le,
    Std.LawfulLTCmp.eq_lt_iff_lt]

instance : Std.TransCmp order :=
  inferInstanceAs (Std.TransCmp (compareLex (compareOn stamp) (compareOn id)))

/-- Messages that compare as equal have one identity. -/
theorem id_eq_of_order_eq {a b : Message} (same : order a b = .eq) : a.id = b.id :=
  Std.LawfulEqCmp.eq_of_compare (Ordering.then_eq_eq.mp same).2

theorem pairwise_sort (messages : List Message) : (sort messages).Pairwise Precedes := by
  have inOrder : (sort messages).Pairwise fun a b => (order a b).isLE = true :=
    pairwise_mergeSort messages
  exact inOrder.imp fun le => (isLE_order_iff _ _).mp le

/-- Messages with identities of their own are sorted into one list, however they are given. -/
theorem sort_eq_of_perm {first second : List Message} (perm : first.Perm second)
    (distinct : (first.map id).Nodup) : sort first = sort second :=
  mergeSort_eq_of_perm perm fun _ aMem _ bMem same =>
    List.inj_on_of_nodup_map distinct aMem bMem (id_eq_of_order_eq same)

end Message

end Scrollback
