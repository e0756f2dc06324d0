import Polytope.ComponentPartitioner
import Polytope.StateEnumeration
import Polytope.FixedPointMath
import Mathlib.Order.Bounds.Basic

/-! One oracle for each kind of component. The cardinality oracles replace the constraints by a
count over the component's variables; the enumerating oracle renumbers the variables from zero. -/
namespace Polytope.ComponentOracles
open OracleTypes ConstraintCompiler ComponentPartitioner StateEnumeration
open Cardinality (trueCount)
open FixedPointMath (i64Max)

structure BundleObjectiveLeg where
  variableId : String
  payoutIfTrueTick : Int := 0
  payoutIfFalseTick : Int := 0
  costTick : Int := 0
  deriving DecidableEq
structure WorstCaseResult where
  minProfitTick : Int := 0
  isGuaranteedPositive : Bool := false
  witnessTrueVariables : List String := []
  componentId : Nat := 0
  deriving DecidableEq
structure FeasibleStateOracle where
  componentId : Nat
  minPayoff : List BundleObjectiveLeg → WorstCaseResult
  isFeasible : StateBitset → Bool

def gain (value : Bool) (leg : BundleObjectiveLeg) : Int :=
  if value then leg.payoutIfTrueTick else leg.payoutIfFalseTick
def profit (value : String → Bool) (objective : List BundleObjectiveLeg) : Int :=
  (objective.map fun leg => gain (value leg.variableId) leg - leg.costTick).sum

-- The running minimum every min_payoff keeps; the start value stands for "no state seen".
def keepLower (best next : Int × List String) : Int × List String := if next.1 < best.1 then next else best
def worstCase (componentId : Nat) (candidates : List (Int × List String)) : WorstCaseResult :=
  let best := candidates.foldl keepLower (i64Max,[])
  let low := if best.1 = i64Max then 0 else best.1
  {minProfitTick := low, isGuaranteedPositive := decide (0 < low), witnessTrueVariables := best.2, componentId}

def variablesOf (set : CompiledConstraintSet) (component : CompiledComponent) : List BooleanVariable :=
  component.variableIds.filterMap fun v => set.vars[v]?
def keysOf (set : CompiledConstraintSet) (component : CompiledComponent) : List String :=
  (variablesOf set component).map (·.variableKey)
def single (objective : List BundleObjectiveLeg) (key : String) : Int × List String :=
  (profit (fun id => decide (id = key)) objective,[key])
def exactlyOneOracle (set : CompiledConstraintSet) (component : CompiledComponent) : FeasibleStateOracle where
  componentId := component.componentId
  minPayoff objective := worstCase component.componentId ((keysOf set component).map (single objective))
  isFeasible state := decide (trueCount state.test component.variableIds = 1)
def atMostOneOracle (set : CompiledConstraintSet) (component : CompiledComponent) : FeasibleStateOracle where
  componentId := component.componentId
  minPayoff objective :=
    worstCase component.componentId
      ((profit (fun _ => false) objective,[]) :: (keysOf set component).map (single objective))
  isFeasible state := decide (trueCount state.test component.variableIds ≤ 1)

-- old_to_new; every variable of a component's constraints is one of its variables.
def localId (component : CompiledComponent) (v : Nat) : Nat := component.variableIds.idxOf v
def subsetCompiledSet (component : CompiledComponent) (set : CompiledConstraintSet) : CompiledConstraintSet :=
  let subset : CompiledConstraintSet :=
    { vars := (variablesOf set component).mapIdx fun i v => {v with varId := i}
      constraints := (constraintsOf set component).map fun c =>
        {c with varIds := c.varIds.map (localId component)} }
  {subset with constraintHash := hashCompiledConstraints subset}
def enumerated (local_ : CompiledConstraintSet) (objective : List BundleObjectiveLeg) (s : FeasibleState) :
    Int × List String :=
  let state : StateBitset := ⟨s.bitsetWords⟩
  let known := objective.filter fun leg => (indexVariables local_.vars leg.variableId).isSome
  let value (key : String) : Bool := state.test ((indexVariables local_.vars key).getD 0)
  (profit value known,(known.filter fun leg => value leg.variableId).map (·.variableId))
def smallEnumOracle (set : CompiledConstraintSet) (component : CompiledComponent) : FeasibleStateOracle where
  componentId := component.componentId
  minPayoff objective :=
    let compiled := subsetCompiledSet component set
    worstCase component.componentId ((enumerate compiled).feasibleStates.map (enumerated compiled objective))
  isFeasible state := (check (subsetCompiledSet component set) state).feasible

def oracleFor (set : CompiledConstraintSet) (component : CompiledComponent) : Option FeasibleStateOracle :=
  match component.kind with
  | .smallEnumerable => some (smallEnumOracle set component)
  | .exactlyOne => some (exactlyOneOracle set component)
  | .atMostOne => some (atMostOneOracle set component)
  | _ => none

theorem keepLowerFold (candidates : List (Int × List String)) (best : Int × List String) :
    (candidates.foldl keepLower best = best ∨ candidates.foldl keepLower best ∈ candidates) ∧
      (candidates.foldl keepLower best).1 ≤ best.1 ∧
      ∀ c ∈ candidates, (candidates.foldl keepLower best).1 ≤ c.1 := by
  induction candidates generalizing best with
  | nil => exact ⟨.inl rfl,le_rfl,by simp⟩
  | cons c rest ih =>
    obtain ⟨source,below,least⟩ := ih (keepLower best c)
    have lower : (keepLower best c).1 ≤ best.1 ∧ (keepLower best c).1 ≤ c.1 ∧
      (keepLower best c = best ∨ keepLower best c = c) := by
      unfold keepLower
      split
      · next less => exact ⟨less.le,le_rfl,.inr rfl⟩
      · next more => exact ⟨le_rfl,not_lt.mp more,.inl rfl⟩
    rw [List.foldl_cons]
    refine ⟨?_,below.trans lower.1,?_⟩
    · rcases source with start | later
      · rcases lower.2.2 with old | new
        · exact .inl (start.trans old)
        · exact .inr (by rw [start,new]; exact List.mem_cons_self)
      · exact .inr (List.mem_cons_of_mem _ later)
    · intro d mem
      rcases List.mem_cons.mp mem with rfl | later
      · exact below.trans lower.2.1
      · exact least d later

theorem worstCaseLeast (componentId) {candidates : List (Int × List String)}
    (below : ∃ c ∈ candidates, c.1 < i64Max) :
    IsLeast {p | ∃ c ∈ candidates, c.1 = p} (worstCase componentId candidates).minProfitTick := by
  obtain ⟨c,mem,small⟩ := below
  obtain ⟨source,_,least⟩ := keepLowerFold candidates (i64Max,[])
  have found : (candidates.foldl keepLower (i64Max,[])).1 < i64Max := (least c mem).trans_lt small
  have value : (worstCase componentId candidates).minProfitTick = (candidates.foldl keepLower (i64Max,[])).1 :=
    if_neg found.ne
  rw [value]
  refine ⟨?_,?_⟩
  · rcases source with start | there
    · rw [start] at found
      exact absurd found (lt_irrefl _)
    · exact ⟨_,there,rfl⟩
  · rintro p ⟨d,there,rfl⟩
    exact least d there
theorem worstCaseBelow (componentId) (candidates : List (Int × List String)) :
    (worstCase componentId candidates).minProfitTick ≠ i64Max := by
  unfold worstCase
  simp only
  split
  · decide
  · next other => exact other

end Polytope.ComponentOracles
