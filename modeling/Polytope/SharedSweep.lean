import Polytope.AskSweep
import Mathlib.Algebra.BigOperators.Ring.List

/-! Several purchases from one book, each priced as if it came first. Prices rise, so together they cost at least
what they were priced at, and no more only when every lot of them all stands at the first price. -/
namespace Polytope.SharedSweep
open AskSweep

section
variable {steps : List Step} (sized : Sized steps) (ascending : Ascending steps)

-- The first n lots are there and have one price.
def AtBest (steps : List Step) (n : Int) : Prop := n ≤ depth steps ∧ lastPrice steps n = lastPrice steps 1
instance (steps n) : Decidable (AtBest steps n) := by unfold AtBest; infer_instance

-- What y lots cost more behind x lots than in front.
def gap (steps : List Step) (x y : Int) : Int := sweep steps (x + y) - sweep steps x - sweep steps y

include sized in
theorem sweepNext {n : Int} (nonneg : 0 ≤ n) (within : n < depth steps) :
    sweep steps (n + 1) = sweep steps n + lastPrice steps (n + 1) := by
  obtain ⟨used,price,size,rest,rfl,lower,upper⟩ := lastFound steps (n + 1) (by omega) (by omega)
  rw [sweepSegment sized (by omega) upper,sweepSegment sized (by omega) (by omega),lastSegment sized lower upper]
  ring

theorem gapSymm (steps : List Step) (x y : Int) : gap steps x y = gap steps y x := by
  unfold gap
  rw [Int.add_comm x y]
  ring
include sized in
theorem gapZero (x : Int) : gap steps x 0 = 0 := by
  unfold gap
  rw [Int.add_zero,sweepZero sized]
  ring
include sized in
theorem gapNext {x y : Int} (before : 0 ≤ x) (nonneg : 0 ≤ y) (within : x + y < depth steps) :
    gap steps x (y + 1) = gap steps x y + (lastPrice steps (x + y + 1) - lastPrice steps (y + 1)) := by
  unfold gap
  rw [← Int.add_assoc,sweepNext sized (by omega) within,sweepNext sized nonneg (by omega)]
  ring
include sized ascending in
theorem gapMono {x y z : Int} (before : 0 ≤ x) (nonneg : 0 ≤ y) (le : y ≤ z) (within : x + z ≤ depth steps) :
    gap steps x y ≤ gap steps x z := by
  induction z,le using Int.leInduction with
  | base => exact le_rfl
  | succ z le ih =>
    have rises : lastPrice steps (z + 1) ≤ lastPrice steps (x + z + 1) :=
      lastMono ascending (by omega) (by omega) (by omega)
    have below := ih (by omega)
    rw [gapNext sized before (by omega) (by omega)]
    omega
include sized ascending in
theorem gapNonneg {x y : Int} (before : 0 ≤ x) (nonneg : 0 ≤ y) (within : x + y ≤ depth steps) :
    0 ≤ gap steps x y := by
  rw [← gapZero sized x]
  exact gapMono sized ascending before le_rfl nonneg within

/-! Where nothing costs more. -/

include sized ascending in
theorem firstSame {x y : Int} (before : 0 < x) (some : 0 < y) (within : x + y ≤ depth steps)
    (none : gap steps x y ≤ 0) :
    lastPrice steps (x + 1) = lastPrice steps 1 := by
  have rises : lastPrice steps 1 ≤ lastPrice steps (x + 1) := lastMono ascending Int.one_pos (by omega) (by omega)
  have least := gapMono sized ascending (le_of_lt before) Int.one_nonneg (by omega) within
  have next := gapNext sized (le_of_lt before) (le_refl (0 : Int)) (by omega)
  rw [gapZero sized,Int.add_zero,Int.zero_add] at next
  omega
include sized ascending in
theorem lastSame {x y : Int} (before : 0 < x) (some : 0 < y) (within : x + y ≤ depth steps)
    (none : gap steps x y ≤ 0) :
    lastPrice steps (x + y) = lastPrice steps y := by
  have rises : lastPrice steps y ≤ lastPrice steps (x + y) := lastMono ascending some (by omega) within
  have least := gapNonneg sized ascending (le_of_lt before) (show 0 ≤ y - 1 by omega) (by omega)
  have next := gapNext sized (le_of_lt before) (show 0 ≤ y - 1 by omega) (by omega)
  rw [Int.sub_add_cancel,Int.add_assoc,Int.sub_add_cancel] at next
  omega

include ascending in
theorem atBestSmaller {m n : Int} (best : AtBest steps n) (some : 0 < m) (le : m ≤ n) : AtBest steps m := by
  obtain ⟨within,same⟩ := best
  have first : lastPrice steps 1 ≤ lastPrice steps m := lastMono ascending Int.one_pos (by omega) (by omega)
  have last : lastPrice steps m ≤ lastPrice steps n := lastMono ascending some le within
  exact ⟨by omega,by omega⟩
include sized ascending in
theorem atBestLinear {m n : Int} (best : AtBest steps n) (nonneg : 0 ≤ m) (le : m ≤ n) :
    sweep steps m = lastPrice steps 1 * m := by
  induction m,nonneg using Int.leInduction with
  | base => rw [sweepZero sized,Int.mul_zero]
  | succ m nonneg ih =>
    obtain ⟨within,same⟩ := atBestSmaller ascending best (by omega) le
    rw [sweepNext sized nonneg (by omega),ih (by omega),same]
    ring
include sized ascending in
theorem splitExact {x y : Int} (before : 0 < x) (some : 0 < y) :
    x + y ≤ depth steps ∧ gap steps x y ≤ 0 ↔ AtBest steps (x + y) := by
  constructor
  · rintro ⟨within,none⟩
    have other : gap steps y x ≤ 0 := gapSymm steps x y ▸ none
    have first := firstSame sized ascending before some within none
    have last := lastSame sized ascending some before (by omega) other
    have low : lastPrice steps 1 ≤ lastPrice steps x := lastMono ascending Int.one_pos (by omega) (by omega)
    have high : lastPrice steps x ≤ lastPrice steps (x + 1) := lastMono ascending before (by omega) (by omega)
    rw [Int.add_comm] at last
    exact ⟨within,by omega⟩
  · intro best
    refine ⟨best.1,?_⟩
    unfold gap
    rw [atBestLinear sized ascending best (by omega) le_rfl,atBestLinear sized ascending best
      (by omega) (by omega),
      atBestLinear sized ascending best (by omega) (by omega)]
    exact le_of_eq (by ring)

/-! Any number of purchases. -/

theorem partsNonneg {parts : List Int} (each : ∀ n ∈ parts, 0 < n) : 0 ≤ parts.sum :=
  List.sum_nonneg fun n mem => le_of_lt (each n mem)
include sized ascending in
theorem partsBelow {parts : List Int} (each : ∀ n ∈ parts, 0 < n) (within : parts.sum ≤ depth steps) :
    (parts.map (sweep steps)).sum ≤ sweep steps parts.sum := by
  induction parts with
  | nil => exact le_of_eq (sweepZero sized).symm
  | cons n rest ih =>
    obtain ⟨here,later⟩ := List.forall_mem_cons.mp each
    have left := partsNonneg later
    rw [List.sum_cons] at within
    have below := ih later (by omega)
    have behind := gapNonneg sized ascending (le_of_lt here) left within
    unfold gap at behind
    rw [List.map_cons,List.sum_cons,List.sum_cons]
    omega
include sized ascending in
theorem partsLinear {parts : List Int} (each : ∀ n ∈ parts, 0 < n) {total : Int} (best : AtBest steps total)
    (le : parts.sum ≤ total) :
    (parts.map (sweep steps)).sum = lastPrice steps 1 * parts.sum := by
  induction parts with
  | nil => exact (Int.mul_zero _).symm
  | cons n rest ih =>
    obtain ⟨here,later⟩ := List.forall_mem_cons.mp each
    have left := partsNonneg later
    rw [List.sum_cons] at le
    rw [List.map_cons,List.sum_cons,List.sum_cons,ih later (by omega),atBestLinear sized ascending best
      (le_of_lt here) (by omega),Int.mul_add]
include sized ascending in
theorem partsExact {parts : List Int} (each : ∀ n ∈ parts, 0 < n) (several : 2 ≤ parts.length) :
    parts.sum ≤ depth steps ∧ sweep steps parts.sum ≤ (parts.map (sweep steps)).sum ↔ AtBest steps parts.sum := by
  constructor
  · match parts,each,several with
    | x::y::rest,each,_ =>
      rintro ⟨within,cost⟩
      obtain ⟨here,later⟩ := List.forall_mem_cons.mp each
      obtain ⟨next,others⟩ := List.forall_mem_cons.mp later
      have left := partsNonneg others
      have more : 0 < (y::rest).sum := by
        rw [List.sum_cons]
        omega
      rw [@List.sum_cons _ _ _ x] at within cost ⊢
      have below := partsBelow sized ascending later (by omega)
      refine (splitExact sized ascending here more).mp ⟨within,?_⟩
      unfold gap
      rw [List.map_cons,@List.sum_cons _ _ _ (sweep steps x)] at cost
      omega
  · intro best
    refine ⟨best.1,?_⟩
    rw [partsLinear sized ascending each best le_rfl,atBestLinear sized ascending best (partsNonneg each) le_rfl]

end

/-! Purchases from several books, one book a key. -/

structure Take (κ : Type) where
  key : κ
  lots : Int
  cost : Int
  deriving DecidableEq, Repr
structure Demand (κ : Type) where
  key : κ
  ratio : Int
  deriving DecidableEq, Repr

section
variable {κ : Type} [DecidableEq κ]

def takesOn (takes : List (Take κ)) (key : κ) : List (Take κ) := takes.filter fun take => decide (take.key = key)
def lotsOn (takes : List (Take κ)) (key : κ) : Int := ((takesOn takes key).map Take.lots).sum
def costOn (takes : List (Take κ)) (key : κ) : Int := ((takesOn takes key).map Take.cost).sum
-- No book gives more lots than it has, nor for less than it asks.
def CountedOnce (book : κ → List Step) (takes : List (Take κ)) : Prop :=
  ∀ key, lotsOn takes key ≤ depth (book key) ∧ sweep (book key) (lotsOn takes key) ≤ costOn takes key

def demandsOn (demands : List (Demand κ)) (key : κ) : List (Demand κ) :=
  demands.filter fun demand => decide (demand.key = key)
def ratioOn (demands : List (Demand κ)) (key : κ) : Int := ((demandsOn demands key).map Demand.ratio).sum
-- q units of every demand, each priced as if its book were untouched.
def takeAt (book : κ → List Step) (q : Int) (demand : Demand κ) : Take κ :=
  ⟨demand.key,demand.ratio * q,sweep (book demand.key) (demand.ratio * q)⟩
def SharedAtBest (book : κ → List Step) (demands : List (Demand κ)) (q : Int) : Prop :=
  ∀ key, 2 ≤ (demandsOn demands key).length → AtBest (book key) (ratioOn demands key * q)
-- How many units the book of a demand is asked to fill at most.
def units (room : κ → Int) (demand : Demand κ) : Int := (room demand.key).tdiv demand.ratio
def Shares (book : κ → List Step) (room : κ → Int) (demands : List (Demand κ)) : Prop :=
  ∀ key, 2 ≤ (demandsOn demands key).length →
    ∃ demand ∈ demands, AtBest (book key) (ratioOn demands key * units room demand)

theorem takesOnAt (book : κ → List Step) (q : Int) (demands : List (Demand κ)) (key : κ) :
    takesOn (demands.map (takeAt book q)) key = (demandsOn demands key).map (takeAt book q) := List.filter_map
theorem demandKey {demands : List (Demand κ)} {key : κ} {demand} (mem : demand ∈ demandsOn demands key) :
    demand ∈ demands ∧ demand.key = key := by
  obtain ⟨inside,same⟩ := List.mem_filter.mp mem
  exact ⟨inside,of_decide_eq_true same⟩
theorem partsOn (book : κ → List Step) (q : Int) (demands : List (Demand κ)) (key : κ) :
    lotsOn (demands.map (takeAt book q)) key = ratioOn demands key * q ∧
    lotsOn (demands.map (takeAt book q)) key = ((demandsOn demands key).map fun demand => demand.ratio * q).sum ∧
    costOn (demands.map (takeAt book q)) key =
      (((demandsOn demands key).map fun demand => demand.ratio * q).map (sweep (book key))).sum := by
  unfold lotsOn costOn
  rw [takesOnAt,List.map_map,List.map_map,List.map_map]
  refine ⟨List.sum_map_mul_right _ _ _,rfl,?_⟩
  congr 1
  refine List.map_congr_left fun demand mem => ?_
  rw [← (demandKey mem).2]
  rfl

variable {book : κ → List Step} {demands : List (Demand κ)}

theorem countedExact (sized : ∀ key, Sized (book key)) (ascending : ∀ key, Ascending (book key))
    (ratios : ∀ demand ∈ demands, 0 < demand.ratio)
    {q : Int} (some : 0 < q) (within : ∀ demand ∈ demands, demand.ratio * q ≤ depth (book demand.key)) :
    CountedOnce book (demands.map (takeAt book q)) ↔ SharedAtBest book demands q := by
  refine forall_congr' fun key => ?_
  obtain ⟨total,parts,cost⟩ := partsOn book q demands key
  have each : ∀ n ∈ (demandsOn demands key).map fun demand => demand.ratio * q, 0 < n := by
    intro n mem
    obtain ⟨demand,inside,rfl⟩ := List.mem_map.mp mem
    exact Int.mul_pos (ratios demand (demandKey inside).1) some
  by_cases several : 2 ≤ (demandsOn demands key).length
  · rw [cost,← total,parts]
    exact (partsExact (sized key) (ascending key) each (by simpa using several)).trans
      ⟨fun best _ => best,fun best => best several⟩
  · refine ⟨fun _ more => absurd more several,fun _ => ?_⟩
    rw [parts,cost]
    match found : demandsOn demands key with
    | [] => exact ⟨depthNonneg (sized key),le_of_eq (sweepZero (sized key))⟩
    | [demand] =>
      have only : demand ∈ demandsOn demands key := found ▸ List.mem_singleton_self demand
      obtain ⟨inside,same⟩ := demandKey only
      have here := within demand inside
      simp only [List.map_cons,List.map_nil,List.sum_cons,List.sum_nil,Int.add_zero]
      exact ⟨same ▸ here,le_rfl⟩
    | _::_::_ =>
      rw [found] at several
      exact absurd (by simp) several

theorem sharesAt (ascending : ∀ key, Ascending (book key)) (ratios : ∀ demand ∈ demands, 0 < demand.ratio)
    {room : κ → Int} {q : Int}
    (some : 0 < q) (below : ∀ demand ∈ demands, q ≤ units room demand) (shares : Shares book room demands) :
    SharedAtBest book demands q := by
  intro key several
  obtain ⟨demand,mem,best⟩ := shares key several
  have ratio : 0 < ratioOn demands key := by
    unfold ratioOn
    match found : demandsOn demands key with
    | [] =>
      rw [found] at several
      simp at several
    | first::rest =>
      have each : ∀ n ∈ (first::rest).map Demand.ratio, 0 < n := by
        intro n there
        obtain ⟨other,inside,rfl⟩ := List.mem_map.mp there
        exact ratios other (demandKey (found ▸ inside)).1
      obtain ⟨here,later⟩ := List.forall_mem_cons.mp each
      have left := partsNonneg later
      rw [List.map_cons,List.sum_cons]
      omega
  exact atBestSmaller (ascending key) best (Int.mul_pos ratio some)
    (Int.mul_le_mul_of_nonneg_left (below demand mem) (le_of_lt ratio))
-- The units of the smallest demand decide.
theorem sharesExact (ascending : ∀ key, Ascending (book key)) (ratios : ∀ demand ∈ demands, 0 < demand.ratio)
    {room : κ → Int} {q : Int}
    (some : 0 < q) (below : ∀ demand ∈ demands, q ≤ units room demand)
    (reached : ∃ demand ∈ demands, q = units room demand) :
    SharedAtBest book demands q ↔ Shares book room demands := by
  refine ⟨fun best key several => ?_,sharesAt ascending ratios some below⟩
  obtain ⟨demand,mem,rfl⟩ := reached
  exact ⟨demand,mem,best key several⟩

end

end Polytope.SharedSweep
