import Mathlib.Data.List.Sort
import Mathlib.Order.Basic

/-! Sorting by a comparator that may leave ties: a sorter returns the same items with no later one
strictly before an earlier one, and says nothing about the order of equivalent items. The stable
sort is one such sorter. -/
namespace Polytope.Sorting

variable {α : Type}

structure WeakOrder (less : α → α → Bool) : Prop where
  asymm : ∀ a b, less a b = true → less b a = false
  step : ∀ a b c, less a c = true → less a b = true ∨ less b c = true

theorem WeakOrder.ofKey {κ : Type} [LinearOrder κ] (key : α → κ) :
    WeakOrder fun a b => decide (key a < key b) where
  asymm a b h := decide_eq_false (lt_asymm (of_decide_eq_true h))
  step a b c h := by
    rcases lt_or_ge (key a) (key b) with before | after
    · exact .inl (decide_eq_true before)
    · exact .inr (decide_eq_true (after.trans_lt (of_decide_eq_true h)))

structure Sorter (α : Type) where
  sort : (α → α → Bool) → List α → List α
  perm : ∀ less items, (sort less items).Perm items
  ordered : ∀ less items, WeakOrder less → (sort less items).Pairwise fun a b => less b a = false

theorem WeakOrder.notBefore {less : α → α → Bool} (order : WeakOrder less) {a b c} (ab : less b a = false)
    (bc : less c b = false) : less c a = false := by
  cases ca : less c a with
  | false => rfl
  | true =>
    rcases order.step c b a ca with cb | ba
    · exact bc.symm.trans cb |>.symm
    · exact ab.symm.trans ba |>.symm

def stable : Sorter α where
  sort less items := items.insertionSort fun a b => less b a = false
  perm less items := List.perm_insertionSort _ items
  ordered less items order := by
    have total : Std.Total fun a b => less b a = false := ⟨fun a b => by
      cases ba : less b a with
      | false => exact .inl rfl
      | true => exact .inr (order.asymm b a ba)⟩
    have trans : IsTrans α fun a b => less b a = false := ⟨fun _ _ _ => order.notBefore⟩
    exact List.pairwise_insertionSort _ items

variable (sorter : Sorter α) {less : α → α → Bool}

theorem sortMem {items : List α} {x} : x ∈ sorter.sort less items ↔ x ∈ items := (sorter.perm less items).mem_iff
theorem sortLength {items : List α} : (sorter.sort less items).length = items.length :=
  (sorter.perm less items).length_eq

/-! Sorting by a key that no two items share leaves no choice to the sorter. -/

section
variable {κ : Type} [LinearOrder κ] (key : α → κ)

def byKey : α → α → Bool := fun a b => decide (key a < key b)

theorem risingEq {key : α → κ} {first second : List α} (perm : first.Perm second)
    (left : first.Pairwise fun a b => key a < key b)
    (right : second.Pairwise fun a b => key a < key b) : first = second :=
  perm.eq_of_pairwise (fun _ _ _ _ below above => absurd above (lt_asymm below)) left right
theorem sortRising {items : List α} (distinct : (items.map key).Nodup) :
    (sorter.sort (byKey key) items).Pairwise fun a b => key a < key b := by
  have apart : (sorter.sort (byKey key) items).Pairwise fun a b => key a ≠ key b :=
    List.pairwise_map.mp (((sorter.perm (byKey key) items).map key).nodup_iff.mpr distinct)
  have ordered := sorter.ordered (byKey key) items (WeakOrder.ofKey key)
  exact (ordered.and apart).imp fun ⟨notAfter,differ⟩ =>
    lt_of_le_of_ne (not_lt.mp (of_decide_eq_false notAfter)) differ
theorem sortUnique (other : Sorter α) {items others : List α} (perm : items.Perm others)
    (distinct : (items.map key).Nodup) :
    sorter.sort (byKey key) items = other.sort (byKey key) others := by
  have same : (sorter.sort (byKey key) items).Perm (other.sort (byKey key) others) :=
    (sorter.perm _ items).trans (perm.trans (other.perm _ others).symm)
  exact risingEq same (sortRising sorter key distinct)
    (sortRising other key ((perm.map key).nodup_iff.mp distinct))
end

end Polytope.Sorting
