import Mathlib.Data.List.Induction
import Mathlib.Order.Lattice

/-! The first greatest element of a list, kept while the list is read: an element takes the lead
only from one with a smaller key. Some elements may qualify and others not; then the leader is
the greatest of those that qualify exactly when each of the others is below one of them. -/
namespace Polytope.Leader

variable {α κ : Type*} [LinearOrder κ] (key : α → κ)

def lead (best : Option α) (x : α) : Option α :=
  match best with
  | none => some x
  | some b => some (if key b < key x then x else b)
def leader (xs : List α) : Option α := xs.foldl (lead key) none

variable {key}

theorem leaderAppend (xs : List α) (x : α) : leader key (xs ++ [x]) = lead key (leader key xs) x := by
  simp only [leader,List.foldl_append,List.foldl_cons,List.foldl_nil]

theorem leadKeeps {b x : α} (below : key x ≤ key b) : lead key (some b) x = some b := by
  rw [lead,if_neg (not_lt.mpr below)]
theorem leadTakes {b x : α} (above : key b < key x) : lead key (some b) x = some x := by
  rw [lead,if_pos above]

theorem leaderNone {xs : List α} (nobody : leader key xs = none) : xs = [] := by
  cases xs using List.reverseRecOn with
  | nil => rfl
  | append_singleton xs x =>
    rw [leaderAppend] at nobody
    cases before : leader key xs <;> rw [before] at nobody <;> cases nobody

theorem leaderLeads {xs : List α} {b} (led : leader key xs = some b) : b ∈ xs ∧ ∀ x ∈ xs, key x ≤ key b := by
  induction xs using List.reverseRecOn generalizing b with
  | nil => cases led
  | append_singleton xs x ih =>
    rw [leaderAppend] at led
    cases before : leader key xs with
    | none =>
      rw [before] at led
      cases led
      rw [leaderNone before]
      exact ⟨.head _,fun y mem => le_of_eq (congrArg key (List.mem_singleton.mp mem))⟩
    | some old =>
      obtain ⟨mem,highest⟩ := ih before
      rw [before] at led
      rcases lt_or_ge (key old) (key x) with above | below
      · rw [leadTakes above] at led
        cases led
        refine ⟨List.mem_append_right _ (.head _),fun y listed => ?_⟩
        rcases List.mem_append.mp listed with earlier | last
        · exact (highest y earlier).trans above.le
        · exact le_of_eq (congrArg key (List.mem_singleton.mp last))
      · rw [leadKeeps below] at led
        cases led
        refine ⟨List.mem_append_left _ mem,fun y listed => ?_⟩
        rcases List.mem_append.mp listed with earlier | last
        · exact highest y earlier
        · rw [List.mem_singleton.mp last]
          exact below

-- Where no two elements share a key, leading is being above all others.
section
variable {xs : List α} (distinct : ∀ x ∈ xs, ∀ y ∈ xs, key x = key y → x = y)
include distinct

theorem leaderAbove {b x} (led : leader key xs = some b) (mem : x ∈ xs) (other : x ≠ b) : key x < key b :=
  have leads := leaderLeads led
  lt_of_le_of_ne (leads.2 x mem) fun same => other (distinct x mem b leads.1 same)

theorem leaderUnique {b b'} (mem : b ∈ xs) (highest : ∀ x ∈ xs, key x ≤ key b)
    (led : leader key xs = some b') : b' = b :=
  have leads := leaderLeads led
  distinct b' leads.1 b mem (le_antisymm (highest b' leads.1) (leads.2 b mem))

theorem leaderQualified {P : α → Prop} {b} (led : leader key xs = some b) :
    P b ∧ (∀ x ∈ xs, P x → key x ≤ key b) ↔ ∀ x ∈ xs, ¬ P x → ∃ y ∈ xs, P y ∧ key x < key y := by
  have leads := leaderLeads led
  constructor
  · rintro ⟨qualified,_⟩ x mem disqualified
    refine ⟨b,leads.1,qualified,leaderAbove distinct led mem fun same => disqualified ?_⟩
    rw [same]
    exact qualified
  · intro beaten
    refine ⟨?_,fun x mem _ => leads.2 x mem⟩
    by_contra disqualified
    obtain ⟨y,mem,_,above⟩ := beaten b leads.1 disqualified
    exact absurd (leads.2 y mem) (not_le.mpr above)

end

end Polytope.Leader
