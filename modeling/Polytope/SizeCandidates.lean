import Polytope.MarketDepth
import Polytope.Intent
import Polytope.CombinatorialBundles

/-! Buy-side cost curves and the bundle quantities worth trying on them. The K-way cursor
walks the cumulative quantities of all legs at once and emits every bundle quantity that
uses up a level of some leg, in increasing order. A level index is kept as the list of the
levels from it on. -/
namespace Polytope.SizeCandidates
open FixedPointMath MarketDepth
open Intent (OrderDecisionType)
open CombinatorialBundles (BundleLeg)

def kMaxCostCurveLevels : Nat := 64

structure CostCurveLevel where
  priceTick : Int
  sizeLots : Int
  cumulativeQtyLots : Int
  cumulativeCostTick : Int
  deriving DecidableEq, Repr
structure CostCurve where
  levels : List CostCurveLevel := []
  totalQtyLots : Int := 0
  deriving DecidableEq, Repr
def CostCurve.breakpoints (curve : CostCurve) : List Int := curve.levels.map CostCurveLevel.cumulativeQtyLots

structure CurveBuild where
  levels : List CostCurveLevel := []
  cumulativeQty : Int := 0
  cumulativeCost : Int := 0
  deriving DecidableEq, Repr
def addLevel (b : CurveBuild) (level : PriceLevel) : Option CurveBuild :=
  let sizeLots := priceLevelSizeLots level
  if kMaxCostCurveLevels ≤ b.levels.length ∨ level.priceTick ≤ 0 ∨ sizeLots ≤ 0 then some b else do
    let levelCost ← checkedMulI64 level.priceTick sizeLots
    let qty ← checkedAddI64 b.cumulativeQty sizeLots
    let cost ← checkedAddI64 b.cumulativeCost levelCost
    some ⟨b.levels ++ [⟨level.priceTick,sizeLots,qty,cost⟩],qty,cost⟩
def buildBuyCurve (leg : BundleLeg) (depth : MarketDepthView) : Except OrderDecisionType CostCurve :=
  if leg.side ≠ .buy then .error .rejectUnsupportedSide
  else if depth.asks = [] then .error .rejectNoDepth
  else match depth.asks.foldlM addLevel {} with
    | none => .error .rejectInternalError
    | some b =>
      if b.levels = [] ∨ b.cumulativeQty ≤ 0 then .error .rejectNoDepth else .ok ⟨b.levels,b.cumulativeQty⟩

structure CursorLeg where
  ratio : Int
  breakpoints : List Int
  deriving DecidableEq, Repr
structure Bounds where
  minBundleQty : Int
  maxBundleQty : Int
  deriving DecidableEq, Repr

def candidateAt (bounds : Bounds) (ratio cumulative : Int) : Int :=
  if ratio ≤ 0 then 0 else
    let q := cumulative.tdiv ratio
    if q ≤ 0 then 0
    else if 0 < bounds.maxBundleQty ∧ bounds.maxBundleQty < q then bounds.maxBundleQty else q
def CursorLeg.candidate (bounds : Bounds) (leg : CursorLeg) : Int :=
  match leg.breakpoints with
  | [] => 0
  | cumulative::_ => candidateAt bounds leg.ratio cumulative
def CursorLeg.skip (bounds : Bounds) (passed : Int → Bool) (leg : CursorLeg) : CursorLeg :=
  ⟨leg.ratio,leg.breakpoints.dropWhile fun cumulative => passed (candidateAt bounds leg.ratio cumulative)⟩

def advanceInvalidCandidates (bounds : Bounds) (legs : List CursorLeg) : List CursorLeg :=
  legs.map (CursorLeg.skip bounds fun q => decide (q < bounds.minBundleQty))
def leastCandidate (bounds : Bounds) (legs : List CursorLeg) : Int :=
  legs.foldl (fun next leg =>
    let q := leg.candidate bounds
    if bounds.minBundleQty ≤ q ∧ q < next then q else next) i64Max
def passCandidate (bounds : Bounds) (next : Int) (legs : List CursorLeg) : List CursorLeg :=
  legs.map (CursorLeg.skip bounds fun q => decide (q ≤ next))

-- The budget test of the cursor is switched off by its only caller.
def stream (bounds : Bounds) : Nat → Int → List CursorLeg → List Int
  | 0,_,_ => []
  | rounds + 1,lastEmitted,legs =>
    let legs := advanceInvalidCandidates bounds legs
    let next := leastCandidate bounds legs
    if next = i64Max then [] else
      let rest := stream bounds rounds next (passCandidate bounds next legs)
      if next = lastEmitted then rest else next::rest
def levelsLeft (legs : List CursorLeg) : Nat := (legs.map fun leg => leg.breakpoints.length).sum
def enumerate (bounds : Bounds) (legs : List CursorLeg) : List Int :=
  stream bounds (levelsLeft legs) 0 legs

/-! Every round that finds a candidate passes a level of the leg it came from, so as many
rounds as there are levels reach the end of the walk. -/

theorem skipLength (bounds passed) (leg : CursorLeg) :
    (leg.skip bounds passed).breakpoints.length ≤ leg.breakpoints.length :=
  (List.dropWhile_suffix _).sublist.length_le

theorem levelsLeftSkip (bounds passed) (legs : List CursorLeg) :
    levelsLeft (legs.map (CursorLeg.skip bounds passed)) ≤ levelsLeft legs := by
  induction legs with
  | nil => exact Nat.le_refl _
  | cons leg rest ih =>
    have head := skipLength bounds passed leg
    simp only [levelsLeft,List.map_cons,List.sum_cons] at ih ⊢
    omega

theorem skipTaken {bounds} {passed : Int → Bool} {ratio head : Int} {rest : List Int}
    (here : passed (candidateAt bounds ratio head) = true) :
    (⟨ratio,head::rest⟩ : CursorLeg).skip bounds passed = (⟨ratio,rest⟩ : CursorLeg).skip bounds passed :=
  congrArg (CursorLeg.mk ratio) (List.dropWhile_cons_of_pos here)
theorem skipKept {bounds} {passed : Int → Bool} {ratio head : Int} {rest : List Int}
    (here : passed (candidateAt bounds ratio head) = false) :
    (⟨ratio,head::rest⟩ : CursorLeg).skip bounds passed = ⟨ratio,head::rest⟩ :=
  congrArg (CursorLeg.mk ratio) (List.dropWhile_cons_of_neg (ne_true_of_eq_false here))
theorem skipHead {bounds passed} {leg : CursorLeg} (some : leg.breakpoints ≠ [])
    (here : passed (leg.candidate bounds) = true) :
    (leg.skip bounds passed).breakpoints.length < leg.breakpoints.length := by
  obtain ⟨ratio,breakpoints⟩ := leg
  cases breakpoints with
  | nil => exact absurd rfl some
  | cons cumulative rest =>
    rw [skipTaken here,List.length_cons]
    exact Nat.lt_succ_of_le (skipLength bounds passed ⟨ratio,rest⟩)

theorem passOne {bounds} (passed : Int → Bool) {legs : List CursorLeg} {leg} (inside : leg ∈ legs)
    (some : leg.breakpoints ≠ []) (here : passed (leg.candidate bounds) = true) :
    levelsLeft (legs.map (CursorLeg.skip bounds passed)) < levelsLeft legs := by
  induction legs with
  | nil => cases inside
  | cons first rest ih =>
    have tail := levelsLeftSkip bounds passed rest
    have head := skipLength bounds passed first
    simp only [levelsLeft,List.map_cons,List.sum_cons] at ih tail ⊢
    rcases List.mem_cons.mp inside with rfl | later
    · have drop := skipHead some here
      omega
    · have drop := ih later
      omega

theorem leastFrom (bounds : Bounds) (legs : List CursorLeg) (start : Int) :
    let least := legs.foldl (fun next leg =>
      let q := leg.candidate bounds
      if bounds.minBundleQty ≤ q ∧ q < next then q else next) start
    least = start ∨ ∃ leg ∈ legs, leg.candidate bounds = least ∧ bounds.minBundleQty ≤ least := by
  induction legs generalizing start with
  | nil => exact .inl rfl
  | cons leg rest ih =>
    simp only [List.foldl_cons]
    by_cases lower : bounds.minBundleQty ≤ leg.candidate bounds ∧ leg.candidate bounds < start
    · rw [if_pos lower]
      rcases ih (leg.candidate bounds) with same | ⟨other,inside,found⟩
      · refine .inr ⟨leg,List.mem_cons_self,same.symm,?_⟩
        rw [same]
        exact lower.1
      · exact .inr ⟨other,List.mem_cons_of_mem _ inside,found⟩
    · rw [if_neg lower]
      rcases ih start with same | ⟨other,inside,found⟩
      · exact .inl same
      · exact .inr ⟨other,List.mem_cons_of_mem _ inside,found⟩

theorem leastFound {bounds} {legs : List CursorLeg} (positive : 1 ≤ bounds.minBundleQty)
    (found : leastCandidate bounds legs ≠ i64Max) :
    ∃ leg ∈ legs, leg.breakpoints ≠ [] ∧ leg.candidate bounds = leastCandidate bounds legs := by
  rcases leastFrom bounds legs i64Max with none | ⟨leg,inside,same,least⟩
  · exact absurd none found
  · refine ⟨leg,inside,?_,same⟩
    intro empty
    have zero : leg.candidate bounds = 0 := by simp only [CursorLeg.candidate,empty]
    omega

theorem roundPasses {bounds} {legs : List CursorLeg} (positive : 1 ≤ bounds.minBundleQty)
    (found : leastCandidate bounds (advanceInvalidCandidates bounds legs) ≠ i64Max) :
    levelsLeft (passCandidate bounds (leastCandidate bounds (advanceInvalidCandidates bounds legs))
      (advanceInvalidCandidates bounds legs)) < levelsLeft legs := by
  obtain ⟨leg,inside,some,same⟩ := leastFound positive found
  have fewer := passOne (fun q => decide (q ≤ leastCandidate bounds (advanceInvalidCandidates bounds legs)))
    inside some (decide_eq_true (le_of_eq same))
  exact lt_of_lt_of_le fewer (levelsLeftSkip bounds _ legs)

theorem streamRound (bounds rounds last) (legs : List CursorLeg) :
    stream bounds (rounds + 1) last legs =
      if leastCandidate bounds (advanceInvalidCandidates bounds legs) = i64Max then [] else
        if leastCandidate bounds (advanceInvalidCandidates bounds legs) = last then
          stream bounds rounds (leastCandidate bounds (advanceInvalidCandidates bounds legs))
            (passCandidate bounds (leastCandidate bounds (advanceInvalidCandidates bounds legs))
              (advanceInvalidCandidates bounds legs))
        else leastCandidate bounds (advanceInvalidCandidates bounds legs)::
          stream bounds rounds (leastCandidate bounds (advanceInvalidCandidates bounds legs))
            (passCandidate bounds (leastCandidate bounds (advanceInvalidCandidates bounds legs))
              (advanceInvalidCandidates bounds legs)) := rfl

theorem streamMoreRounds {bounds} {legs : List CursorLeg} {rounds last} (positive : 1 ≤ bounds.minBundleQty)
    (enough : levelsLeft legs ≤ rounds) :
    stream bounds (rounds + 1) last legs = stream bounds rounds last legs := by
  induction rounds generalizing legs last with
  | zero =>
    have ended : leastCandidate bounds (advanceInvalidCandidates bounds legs) = i64Max := by
      by_contra found
      have fewer := roundPasses positive found
      omega
    rw [streamRound,if_pos ended,stream]
  | succ rounds ih =>
    rw [streamRound bounds (rounds + 1) last legs,streamRound bounds rounds last legs]
    by_cases ended : leastCandidate bounds (advanceInvalidCandidates bounds legs) = i64Max
    · rw [if_pos ended,if_pos ended]
    · have fewer := roundPasses positive ended
      rw [if_neg ended,if_neg ended,ih (by omega)]

-- More rounds than levels find nothing more: enumerate is the whole walk of the cursor.
theorem streamEnough {bounds} {legs : List CursorLeg} {rounds last} (positive : 1 ≤ bounds.minBundleQty)
    (enough : levelsLeft legs ≤ rounds) :
    stream bounds rounds last legs = stream bounds (levelsLeft legs) last legs := by
  induction rounds with
  | zero => rw [Nat.le_zero.mp enough]
  | succ rounds ih =>
    rcases Nat.lt_or_ge rounds (levelsLeft legs) with least | more
    · rw [show levelsLeft legs = rounds + 1 by omega]
    · rw [streamMoreRounds positive more,ih more]
end Polytope.SizeCandidates
