import Mathlib.Data.List.Forall2

/-! Two lists related entry by entry: what holds of the entries of one list, told from the other. -/
namespace Polytope.ListRelation

variable {α β γ : Type} {R : α → β → Prop} {S : β → γ → Prop} {xs : List α} {ys : List β} {zs : List γ}

theorem forallLeft (all : List.Forall₂ R xs ys) : ∀ x ∈ xs, ∃ y ∈ ys, R x y := by
  induction all with
  | nil => exact fun x mem => (by cases mem)
  | cons here later ih =>
    refine List.forall_mem_cons.mpr ⟨⟨_,List.mem_cons_self,here⟩,fun x mem => ?_⟩
    obtain ⟨y,inside,related⟩ := ih x mem
    exact ⟨y,List.mem_cons_of_mem _ inside,related⟩
theorem forallRight {P : β → Prop} (all : List.Forall₂ R xs ys) (imp : ∀ x y, R x y → P y) : ∀ y ∈ ys, P y := by
  induction all with
  | nil => exact fun y mem => (by cases mem)
  | cons here later ih => exact List.forall_mem_cons.mpr ⟨imp _ _ here,ih⟩
theorem forallTrans (first : List.Forall₂ R xs ys) (second : List.Forall₂ S ys zs) :
    List.Forall₂ (fun x z => ∃ y, R x y ∧ S y z) xs zs := by
  induction first generalizing zs with
  | nil =>
    cases second
    exact .nil
  | cons here later ih =>
    obtain _ | ⟨next,others⟩ := second
    exact .cons ⟨_,here,next⟩ (ih others)
theorem forallSet (all : List.Forall₂ R xs ys) (index : Nat) {x y} (related : R x y) :
    List.Forall₂ R (xs.set index x) (ys.set index y) := by
  induction all generalizing index with
  | nil => exact .nil
  | cons here later ih =>
    cases index with
    | zero => exact .cons related later
    | succ index => exact .cons here (ih index)

end Polytope.ListRelation
