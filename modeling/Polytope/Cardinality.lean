import Mathlib.Data.List.Perm.Subperm
import Mathlib.Logic.Function.Basic
import Mathlib.Order.Basic
import Mathlib.Algebra.Order.Group.Nat

/-! Predicates on 0/1 assignments of finitely many variables: counting true variables, and what
a renumbering of the variables does to a predicate. -/
namespace Polytope.Cardinality

def trueCount (x : Nat → Bool) (ids : List Nat) : Nat := (ids.filter x).length

theorem trueCountCongr {x y : Nat → Bool} {ids} (agree : ∀ v ∈ ids, x v = y v) :
    trueCount x ids = trueCount y ids := by
  rw [trueCount,trueCount,List.filter_congr agree]
theorem trueCountMono (x : Nat → Bool) {ids vs : List Nat} (unique : ids.Nodup) (inside : ∀ v ∈ ids, v ∈ vs) :
    trueCount x ids ≤ trueCount x vs := by
  refine (List.subperm_of_subset (unique.filter x) ?_).length_le
  intro v mem
  obtain ⟨there,held⟩ := List.mem_filter.mp mem
  exact List.mem_filter.mpr ⟨inside v there,held⟩
theorem trueCountNone (ids) : trueCount (fun _ => false) ids = 0 := by simp [trueCount]
theorem trueCountOne (v) (ids : List Nat) : trueCount (fun u => decide (u = v)) ids = ids.count v := by
  rw [trueCount,List.count,List.countP_eq_length_filter]
  congr 1
theorem trueCountTwo {u v : Nat} (apart : u ≠ v) (ids : List Nat) :
    trueCount (fun w => decide (w = u) || decide (w = v)) ids = ids.count u + ids.count v := by
  unfold trueCount
  induction ids with
  | nil => rfl
  | cons w rest ih =>
    rw [List.filter_cons,List.count_cons,List.count_cons]
    by_cases first : w = u
    · subst first
      simp [apart,ih]
      omega
    · by_cases second : w = v
      · subst second
        simp [first,ih]
        omega
      · simp [first,second,ih]
theorem trueCountPair {x : Nat → Bool} {ids : List Nat} (many : 1 < trueCount x ids) (unique : ids.Nodup) :
    ∃ u ∈ ids, ∃ v ∈ ids, u ≠ v ∧ x u = true ∧ x v = true := by
  unfold trueCount at many
  have kept := unique.filter x
  cases shape : ids.filter x with
  | nil => simp [shape] at many
  | cons u rest =>
    cases rest with
    | nil => simp [shape] at many
    | cons v tail =>
      rw [shape] at kept
      have first : u ∈ ids.filter x := by simp [shape]
      have second : v ∈ ids.filter x := by simp [shape]
      obtain ⟨inU,onU⟩ := List.mem_filter.mp first
      obtain ⟨inV,onV⟩ := List.mem_filter.mp second
      refine ⟨u,inU,v,inV,?_,onU,onV⟩
      intro same
      subst same
      simp at kept
theorem trueCountSingle {x : Nat → Bool} {ids : List Nat} (one : trueCount x ids = 1) :
    ∃ v ∈ ids, ∀ u ∈ ids, x u = decide (u = v) := by
  obtain ⟨v,shape⟩ := List.length_eq_one_iff.mp one
  have member : ∀ u, u ∈ ids ∧ x u = true ↔ u = v := by
    intro u
    rw [← List.mem_filter,shape,List.mem_singleton]
  refine ⟨v,((member v).mpr rfl).1,?_⟩
  intro u mem
  rw [Bool.eq_iff_iff,decide_eq_true_eq,← member u]
  exact ⟨fun on => ⟨mem,on⟩,And.right⟩

/-! Dependence on a variable. -/

section
variable {S : (Nat → Bool) → Prop} {vs : List Nat}

def Depends (S : (Nat → Bool) → Prop) (v : Nat) : Prop :=
  ∃ x, ¬ (S (Function.update x v true) ↔ S (Function.update x v false))

theorem independentUpdate {v} (free : ¬ Depends S v) (x b) : S (Function.update x v b) ↔ S x := by
  have flip : S (Function.update x v true) ↔ S (Function.update x v false) := not_not.mp fun bad => free ⟨x,bad⟩
  have all : ∀ c, S (Function.update x v c) ↔ S (Function.update x v true) := by
    intro c
    cases c with
    | false => exact flip.symm
    | true => rfl
  have same : Function.update x v (x v) = x := Function.update_eq_self v x
  rw [all b,← all (x v),same]

-- Changing one variable after the other: only those the predicate depends on matter.
theorem agreeOnDepends (support : ∀ x y, (∀ v ∈ vs, x v = y v) → (S x ↔ S y)) {x y : Nat → Bool}
    (agree : ∀ v ∈ vs, Depends S v → x v = y v) : S x ↔ S y := by
  have mixed : ∀ done : List Nat, (∀ v ∈ done, v ∈ vs) → (S x ↔ S fun w => if w ∈ done then y w else x w) := by
    intro done inside
    induction done with
    | nil => simp
    | cons v rest ih =>
      have next : (fun w => if w ∈ v::rest then y w else x w) =
          Function.update (fun w => if w ∈ rest then y w else x w) v (y v) := by
        funext w
        by_cases here : w = v
        · subst here
          simp
        · simp [here]
      rw [ih fun w mem => inside w (List.mem_cons_of_mem _ mem),next]
      by_cases dep : Depends S v
      · have kept : Function.update (fun w => if w ∈ rest then y w else x w) v (y v) = fun w => if w ∈ rest then
            y w
          else x w := by
          have value : y v = (fun w => if w ∈ rest then y w else x w) v := by
            simp only
            split
            · rfl
            · exact (agree v (inside v List.mem_cons_self) dep).symm
          rw [value]
          exact Function.update_eq_self v _
        rw [kept]
      · exact (independentUpdate dep _ _).symm
  rw [mixed vs fun _ mem => mem]
  exact support _ _ fun v mem => if_pos mem

variable {e : Nat → Nat} (support : ∀ x y, (∀ v ∈ vs, x v = y v) → (S x ↔ S y))
  (injective : ∀ u ∈ vs, ∀ v ∈ vs, e u = e v → u = v)
include support injective

theorem dependsImage (same : ∀ x, S (x ∘ e) ↔ S x) {v} (dep : Depends S v) : ∃ u ∈ vs, e u = v ∧ Depends S u := by
  obtain ⟨x,flips⟩ := dep
  rw [← same,← same (Function.update x v false)] at flips
  obtain ⟨u,mem,image⟩ : ∃ u ∈ vs, e u = v := by
    by_contra! missed
    refine flips (support _ _ fun w mem => ?_)
    simp [missed w mem]
  refine ⟨u,mem,image,x ∘ e,fun equal => flips ?_⟩
  have moved : ∀ b, S (Function.update x v b ∘ e) ↔ S (Function.update (x ∘ e) u b) := by
    intro b
    refine support _ _ fun w there => ?_
    by_cases here : w = u
    · subst here
      simp [image]
    · have other : e w ≠ v := fun hit => here (injective w there u mem (hit.trans image.symm))
      simp [here,other]
  rw [moved,moved]
  exact equal

theorem renumberedIff (down : ∀ v ∈ vs, e v ≤ v) {bound} (bounded : ∀ v ∈ vs, v < bound) :
    (∀ x, S (x ∘ e) ↔ S x) ↔ ∀ v ∈ vs, Depends S v → e v = v := by
  constructor
  · intro same v
    induction gap : bound - v using Nat.strongRecOn generalizing v with
    | ind n ih =>
      intro mem dep
      obtain ⟨u,there,image,deeper⟩ := dependsImage support injective same dep
      rcases Nat.lt_or_eq_of_le (image ▸ down u there) with above | equal
      · have high := bounded u there
        have fixed := ih (bound - u) (by omega) u rfl there deeper
        omega
      · rw [equal]
        rw [equal] at image
        exact image
  · intro fixed x
    refine agreeOnDepends support fun v mem dep => ?_
    simp [fixed v mem dep]

end

end Polytope.Cardinality
