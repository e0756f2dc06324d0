import Mathlib.Logic.Function.Basic
import Mathlib.Order.Basic
import Mathlib.Order.Defs.LinearOrder
import Mathlib.Algebra.Order.Group.Nat

/-! Disjoint sets of natural numbers: parent links, union by rank, path compression.
Ranks grow along every link, so a walk of as many steps as the highest rank ends at a root. -/
namespace Polytope.DisjointSet

structure Forest where
  parent : Nat → Nat
  rank : Nat → Nat
  height : Nat
  climbs : ∀ v, parent v ≠ v → rank v < rank (parent v)
  bounded : ∀ v, rank v ≤ height

def initial : Forest := ⟨id,fun _ => 0,0,by simp,by simp⟩

def walk (parent : Nat → Nat) : Nat → Nat → Nat
  | 0,v => v
  | fuel+1,v => if parent v = v then v else walk parent fuel (parent v)
def Forest.root (s : Forest) (v : Nat) : Nat := walk s.parent s.height v

theorem walkEnough {s : Forest} {fuel v} (enough : s.height ≤ s.rank v + fuel) :
    walk s.parent (fuel+1) v = walk s.parent fuel v ∧ s.parent (walk s.parent fuel v) = walk s.parent fuel v := by
  induction fuel generalizing v with
  | zero =>
    have top : s.parent v = v := by
      by_contra moved
      have up := s.climbs v moved
      have high := s.bounded (s.parent v)
      omega
    exact ⟨by simp [walk,top],top⟩
  | succ fuel ih =>
    by_cases top : s.parent v = v
    · exact ⟨by simp [walk,top],by simp [walk,top]⟩
    · have up := s.climbs v top
      obtain ⟨same,fixed⟩ := ih (v := s.parent v) (by omega)
      have step : ∀ k, walk s.parent (k+1) v = walk s.parent k (s.parent v) := fun k => if_neg top
      rw [step,step]
      exact ⟨same,fixed⟩

theorem rootFixed (s : Forest) (v) : s.parent (s.root v) = s.root v := (walkEnough (by omega)).2
theorem rootSelf {s : Forest} {v} (top : s.parent v = v) : s.root v = v := by
  unfold Forest.root
  cases s.height with
  | zero => rfl
  | succ fuel => rw [walk,if_pos top]
theorem rootParent (s : Forest) (v) : s.root (s.parent v) = s.root v := by
  by_cases top : s.parent v = v
  · rw [top]
  · have here : s.root v = walk s.parent (s.height+1) v := (walkEnough (by omega)).1.symm
    rw [here,walk,if_neg top]
    rfl
theorem rootRoot (s : Forest) (v) : s.root (s.root v) = s.root v := rootSelf (rootFixed s v)

-- Induction up the links: a node follows from its parent.
theorem climb {s : Forest} {P : Nat → Prop} (top : ∀ v, s.parent v = v → P v)
    (step : ∀ v, s.parent v ≠ v → P (s.parent v) → P v) (v) : P v := by
  induction gap : s.height - s.rank v using Nat.strongRecOn generalizing v with
  | ind n ih =>
    by_cases fixed : s.parent v = v
    · exact top v fixed
    · have up := s.climbs v fixed
      have high := s.bounded (s.parent v)
      exact step v fixed (ih _ (by omega) _ rfl)
theorem rootRank {s : Forest} (v) : s.parent v ≠ v → s.rank v < s.rank (s.root v) := by
  induction v using climb (s := s) with
  | top v fixed => exact fun moved => absurd fixed moved
  | step v moved ih =>
    intro _
    have up := s.climbs v moved
    rw [← rootParent s v]
    by_cases fixed : s.parent (s.parent v) = s.parent v
    · rwa [rootSelf fixed]
    · exact up.trans (ih fixed)

/-! Path compression. -/

def compress (parent : Nat → Nat) : Nat → Nat → (Nat → Nat) × Nat
  | 0,v => (parent,v)
  | fuel+1,v =>
    if parent v = v then (parent,v)
    else
      let up := compress parent fuel (parent v)
      (Function.update up.1 v up.2,up.2)

def Shortcut (s : Forest) (parent : Nat → Nat) : Prop := ∀ u, parent u = s.parent u ∨ parent u = s.root u

theorem compressSpec {s : Forest} {fuel v} (enough : s.height ≤ s.rank v + fuel) :
    (compress s.parent fuel v).2 = s.root v ∧ Shortcut s (compress s.parent fuel v).1 := by
  induction fuel generalizing v with
  | zero =>
    refine ⟨?_,fun _ => .inl rfl⟩
    have top := (walkEnough enough).2
    exact (rootSelf top).symm
  | succ fuel ih =>
    rw [compress]
    by_cases top : s.parent v = v
    · rw [if_pos top]
      exact ⟨(rootSelf top).symm,fun _ => .inl rfl⟩
    · have up := s.climbs v top
      obtain ⟨found,short⟩ := ih (v := s.parent v) (by omega)
      rw [if_neg top]
      refine ⟨found.trans (rootParent s v),fun u => ?_⟩
      simp only
      by_cases here : u = v
      · subst here
        right
        rw [Function.update_self,found,rootParent]
      · rw [Function.update_of_ne here]
        exact short u

theorem shortcutClimbs {s : Forest} {parent} (short : Shortcut s parent) (v) (moved : parent v ≠ v) :
    s.rank v < s.rank (parent v) := by
  rcases short v with same | jump
  · rw [same] at moved ⊢
    exact s.climbs v moved
  · rw [jump] at moved ⊢
    exact rootRank v fun top => moved (rootSelf top)
def Forest.shortcut (s : Forest) (parent : Nat → Nat) (short : Shortcut s parent) : Forest :=
  {s with parent, climbs := shortcutClimbs short}
theorem shortcutRoot {s : Forest} {parent} (short : Shortcut s parent) (v) :
    (s.shortcut parent short).root v = s.root v := by
  induction v using climb (s := s.shortcut parent short) with
  | top v fixed =>
    rw [rootSelf fixed]
    rcases short v with same | jump
    · exact (rootSelf (same.symm.trans fixed)).symm
    · exact fixed.symm.trans jump
  | step v _ ih =>
    have next : (s.shortcut parent short).parent v = parent v := rfl
    rw [← rootParent,ih,next]
    rcases short v with same | jump
    · rw [same,rootParent]
    · rw [jump,rootRoot]

def Forest.find (s : Forest) (v : Nat) : Forest × Nat :=
  (s.shortcut (compress s.parent s.height v).1 (compressSpec (by omega)).2,(compress s.parent s.height v).2)
theorem findRoot (s : Forest) (v) : (s.find v).2 = s.root v := (compressSpec (by omega)).1
theorem findKeeps (s : Forest) (v u) : (s.find v).1.root u = s.root u :=
  shortcutRoot (compressSpec (by omega)).2 u

/-! Union by rank. -/

def Forest.link (s : Forest) (left right : Nat) (top : s.parent left = left) (order : s.rank right ≤ s.rank left)
    (apart : right ≠ left) : Forest where
  parent := Function.update s.parent right left
  rank := if s.rank left = s.rank right then Function.update s.rank left (s.rank left + 1) else s.rank
  height := s.height + 1
  climbs := by
    intro v moved
    have grows : ∀ u, s.rank u ≤
      (if s.rank left = s.rank right then Function.update s.rank left (s.rank left + 1) else s.rank) u := by
      intro u
      split
      · by_cases here : u = left
        · subst here
          simp
        · simp [here]
      · exact le_rfl
    have kept : ∀ u, u ≠ left →
        (if s.rank left = s.rank right then Function.update s.rank left (s.rank left + 1) else s.rank)
        u = s.rank u := by
      intro u other
      split
      · exact Function.update_of_ne other _ _
      · rfl
    by_cases here : v = right
    · subst here
      rw [Function.update_self,kept v apart]
      split
      · rw [Function.update_self]
        omega
      · omega
    · rw [Function.update_of_ne here] at moved ⊢
      have other : v ≠ left := fun same => moved (same ▸ top)
      rw [kept v other]
      exact (s.climbs v moved).trans_le (grows _)
  bounded := by
    intro v
    have high := s.bounded v
    split
    · by_cases here : v = left
      · subst here
        rw [Function.update_self]
        omega
      · rw [Function.update_of_ne here]
        omega
    · omega

theorem linkRoot {s : Forest} {left right} (top : s.parent left = left) (order apart)
    (fixed : s.parent right = right) (v) :
    (s.link left right top order apart).root v = if s.root v = right then left else s.root v := by
  have links : ∀ u, (s.link left right top order apart).parent u =
    Function.update s.parent right left u := fun _ => rfl
  have stays : (s.link left right top order apart).root left = left := by
    apply rootSelf
    rw [links,Function.update_of_ne apart.symm,top]
  induction v using climb (s := s) with
  | top v here =>
    rw [rootSelf here]
    split
    · next same =>
      subst same
      rw [← rootParent,links,Function.update_self,stays]
    · next other =>
      apply rootSelf
      rw [links,Function.update_of_ne other,here]
  | step v moved ih =>
    have other : v ≠ right := fun same => moved (same ▸ fixed)
    rw [← rootParent,links,Function.update_of_ne other,ih,rootParent]

def Forest.unite (s : Forest) (lhs rhs : Nat) : Forest :=
  let left := s.find lhs
  let right := left.1.find rhs
  if same : left.2 = right.2 then right.1
  else if lower : right.1.rank left.2 < right.1.rank right.2 then
    right.1.link right.2 left.2 (unitedTop s lhs rhs).2 lower.le same
  else right.1.link left.2 right.2 (unitedTop s lhs rhs).1 (Nat.le_of_not_lt lower) (Ne.symm same)
where
  unitedTop (s : Forest) (lhs rhs : Nat) :
      ((s.find lhs).1.find rhs).1.parent (s.find lhs).2 = (s.find lhs).2 ∧
      ((s.find lhs).1.find rhs).1.parent ((s.find lhs).1.find rhs).2 = ((s.find lhs).1.find rhs).2 := by
    have left : ((s.find lhs).1.find rhs).1.root (s.find lhs).2 = (s.find lhs).2 := by
      rw [findKeeps,findKeeps,findRoot,rootRoot]
    have right : ((s.find lhs).1.find rhs).1.root ((s.find lhs).1.find rhs).2 = ((s.find lhs).1.find rhs).2 := by
      rw [findKeeps,findRoot,rootRoot]
    constructor
    · have fixed := rootFixed ((s.find lhs).1.find rhs).1 (s.find lhs).2
      rwa [left] at fixed
    · have fixed := rootFixed ((s.find lhs).1.find rhs).1 ((s.find lhs).1.find rhs).2
      rwa [right] at fixed

theorem uniteTogether (s : Forest) (lhs rhs u v) :
    (s.unite lhs rhs).root u = (s.unite lhs rhs).root v ↔
      s.root u = s.root v ∨ (s.root u = s.root lhs ∧ s.root v = s.root rhs) ∨
        (s.root u = s.root rhs ∧ s.root v = s.root lhs) := by
  have tops := Forest.unite.unitedTop s lhs rhs
  have left : (s.find lhs).2 = s.root lhs := findRoot s lhs
  have right : ((s.find lhs).1.find rhs).2 = s.root rhs := by rw [findRoot,findKeeps]
  have old : ∀ w, ((s.find lhs).1.find rhs).1.root w = s.root w := by
    intro w
    rw [findKeeps,findKeeps]
  unfold Forest.unite
  simp only
  split
  · next same =>
    rw [left,right] at same
    rw [old,old,same]
    constructor
    · exact .inl
    · rintro (h | ⟨a,b⟩ | ⟨a,b⟩)
      · exact h
      · exact a.trans b.symm
      · exact a.trans b.symm
  · next apart =>
    rw [left,right] at apart
    split
    · rw [linkRoot tops.2 _ _ tops.1,linkRoot tops.2 _ _ tops.1,old,old,left,right]
      split <;> split <;> grind
    · rw [linkRoot tops.1 _ _ tops.2,linkRoot tops.1 _ _ tops.2,old,old,left,right]
      split <;> split <;> grind

/-! What is joined lies in any equivalence that contains the united pairs. -/

def Within (R : Nat → Nat → Prop) (s : Forest) : Prop := ∀ u v, s.root u = s.root v → R u v

theorem initialWithin {R : Nat → Nat → Prop} (equiv : Equivalence R) : Within R initial := by
  intro u v same
  have fixed : ∀ w, initial.root w = w := fun w => rootSelf rfl
  rw [fixed,fixed] at same
  exact same ▸ equiv.refl u
theorem uniteWithin {R : Nat → Nat → Prop} (equiv : Equivalence R) {s lhs rhs} (ok : Within R s)
    (pair : R lhs rhs) :
    Within R (s.unite lhs rhs) := by
  intro u v same
  rcases (uniteTogether s lhs rhs u v).mp same with old | ⟨first,second⟩ | ⟨first,second⟩
  · exact ok u v old
  · exact equiv.trans (ok u lhs first) (equiv.trans pair (equiv.symm (ok v rhs second)))
  · exact equiv.trans (ok u rhs first) (equiv.trans (equiv.symm pair) (equiv.symm (ok v lhs second)))

end Polytope.DisjointSet
