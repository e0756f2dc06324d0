import Polytope.SizingWalk
import Polytope.Machine

/-! Pricing a quantity directly on a cost curve, and the incrementally filled state of the size optimizer
against it: whatever bundle quantities were tried before, an accepted step holds what direct
pricing gives and a refused one changes nothing. Scan counters are not modelled. -/
namespace Polytope.CurvePricing
open FixedPointMath MarketDepth SizeCandidates BundleSizing AskSweep SizingState SizingWalk

structure CostForQuantityResult where
  ok : Bool := false
  quantityLots : Int := 0
  totalCostTick : Int := 0
  vwapTick : Int := 0
  worstPriceTick : Int := 0
  deriving DecidableEq, Repr

-- A level that ends before the quantity is passed with the lots and the cost up to its end.
def priceFrom (quantityLots : Int) : Int → Int → List CostCurveLevel → CostForQuantityResult
  | _,_,[] => {quantityLots}
  | previousQty,previousCost,level::rest =>
    if level.cumulativeQtyLots < quantityLots then
      priceFrom quantityLots level.cumulativeQtyLots level.cumulativeCostTick rest
    else match checkedMulI64 (quantityLots - previousQty) level.priceTick with
      | none => {}
      | some partialCost =>
        match checkedAddI64 previousCost partialCost with
        | none => {}
        | some total => ⟨true,quantityLots,total,total.tdiv quantityLots,level.priceTick⟩
def costForQuantity (curve : CostCurve) (quantityLots : Int) : CostForQuantityResult :=
  if quantityLots ≤ 0 ∨ curve.levels = [] ∨ curve.totalQtyLots < quantityLots then {quantityLots}
  else priceFrom quantityLots 0 0 curve.levels

/-! The running figures of a curve. -/

def Cumulative : Int → Int → List CostCurveLevel → Prop
  | _,_,[] => True
  | qty,cost,level::rest => level.cumulativeQtyLots = qty + level.sizeLots ∧
    level.cumulativeCostTick = cost + level.priceTick * level.sizeLots ∧
    Cumulative level.cumulativeQtyLots level.cumulativeCostTick rest
def levelsCost (levels : List CostCurveLevel) : Int :=
  (levels.map fun level => level.priceTick * level.sizeLots).sum

theorem cumulativeSnoc {qty cost : Int} {levels : List CostCurveLevel} {level} (front : Cumulative qty cost levels)
    (lots : level.cumulativeQtyLots = qty + depth (curveSteps levels) + level.sizeLots)
    (costs : level.cumulativeCostTick = cost + levelsCost levels + level.priceTick * level.sizeLots) :
    Cumulative qty cost (levels ++ [level]) := by
  induction levels generalizing qty cost with
  | nil =>
    simp only [curveSteps,depth,levelsCost,List.map_nil,List.sum_nil,Int.add_zero] at lots costs
    exact ⟨lots,costs,trivial⟩
  | cons first rest ih =>
    obtain ⟨firstLots,firstCost,later⟩ := front
    have steps : depth (curveSteps (first::rest)) = first.sizeLots + depth (curveSteps rest) := depthCons _ _
    have total : levelsCost (first::rest) = first.priceTick * first.sizeLots + levelsCost rest := by
      simp [levelsCost]
    exact ⟨firstLots,firstCost,ih later (by omega) (by omega)⟩

structure Running (b : CurveBuild) : Prop where
  levels : Cumulative 0 0 b.levels
  qty : b.cumulativeQty = depth (curveSteps b.levels)
  cost : b.cumulativeCost = levelsCost b.levels
theorem addRunning {b : CurveBuild} {level b'} (running : Running b) (added : addLevel b level = some b') :
    Running b' := by
  unfold addLevel at added
  simp only at added
  split at added
  · cases added
    exact running
  · obtain ⟨levelCost,costs,added⟩ := Option.bind_eq_some_iff.mp added
    obtain ⟨qty,qtys,added⟩ := Option.bind_eq_some_iff.mp added
    obtain ⟨cost,total,added⟩ := Option.bind_eq_some_iff.mp added
    obtain ⟨_,rfl⟩ := checkedMulExact.mp costs
    obtain ⟨_,rfl⟩ := checkedAddExact.mp qtys
    obtain ⟨_,rfl⟩ := checkedAddExact.mp total
    cases added
    have lots := running.qty
    have cost := running.cost
    refine ⟨cumulativeSnoc running.levels ?_ ?_,?_,?_⟩
    · simp only
      omega
    · simp only
      omega
    · simp [lots,curveSteps,depth]
    · simp [cost,levelsCost]
theorem runningAll {asks : List PriceLevel} {b b' : CurveBuild} (running : Running b)
    (added : asks.foldlM addLevel b = some b') : Running b' := by
  induction asks generalizing b with
  | nil =>
    cases added
    exact running
  | cons level rest ih =>
    rw [List.foldlM_cons] at added
    obtain ⟨mid,first,later⟩ := Option.bind_eq_some_iff.mp added
    exact ih (addRunning running first) later
theorem curveRunning {leg : CombinatorialBundles.BundleLeg} {view curve}
    (built : buildBuyCurve leg view = .ok curve) :
    Cumulative 0 0 curve.levels := by
  unfold buildBuyCurve at built
  obtain ⟨_,built⟩ := Machine.guardOk built
  obtain ⟨_,built⟩ := Machine.guardOk built
  split at built
  · cases built
  next b added =>
  obtain ⟨_,built⟩ := Machine.guardOk built
  cases built
  have start : Running {} := ⟨trivial,rfl,rfl⟩
  exact (runningAll start added).levels

/-! Direct pricing is the sweep of the curve. -/

theorem pricedFrom {qty cost q : Int} {levels : List CostCurveLevel} (cumulative : Cumulative qty cost levels)
    (sized : Sized (curveSteps levels)) (priced : AskSweep.Priced (curveSteps levels)) (above : qty < q)
    (within : q ≤ qty + depth (curveSteps levels)) (start : 0 ≤ cost)
    (fits : cost + sweep (curveSteps levels) (q - qty) ≤ i64Max) :
    priceFrom q qty cost levels = ⟨true,q,cost + sweep (curveSteps levels) (q - qty),
      (cost + sweep (curveSteps levels) (q - qty)).tdiv q,lastPrice (curveSteps levels) (q - qty)⟩ := by
  induction levels generalizing qty cost with
  | nil =>
    simp only [curveSteps,depth,List.map_nil,List.sum_nil] at within
    omega
  | cons level rest ih =>
    obtain ⟨lots,costs,later⟩ := cumulative
    obtain ⟨here,others⟩ : 0 ≤ level.sizeLots ∧ Sized (curveSteps rest) := sizedCons.mp sized
    obtain ⟨price,prices⟩ : (0 < level.sizeLots → 0 < level.priceTick) ∧ AskSweep.Priced (curveSteps rest) :=
      pricedCons.mp priced
    have steps : curveSteps (level::rest) = (level.priceTick,level.sizeLots)::curveSteps rest := rfl
    rw [steps,depthCons] at within
    rw [steps] at fits ⊢
    rw [priceFrom]
    split
    · next passed =>
      have whole : min (q - qty) level.sizeLots = level.sizeLots := by omega
      have levelCost : 0 ≤ level.priceTick * level.sizeLots := by
        rcases Int.lt_or_eq_of_le here with some | none
        · exact Int.mul_nonneg (le_of_lt (price some)) here
        · rw [← none,Int.mul_zero]
      have rest' : q - qty - level.sizeLots = q - level.cumulativeQtyLots := by omega
      have split : cost + (level.priceTick * level.sizeLots + sweep (curveSteps rest)
        (q - level.cumulativeQtyLots)) =
          level.cumulativeCostTick + sweep (curveSteps rest) (q - level.cumulativeQtyLots) := by omega
      rw [sweep,whole,rest',split] at fits
      rw [sweep,lastPrice,whole,rest',split,if_neg (by omega)]
      exact ih later others prices passed (by simp only at within; omega) (by omega) fits
    · next ends =>
      have positive := price (by omega)
      have inside : q - qty ≤ level.sizeLots := by omega
      have nonneg : 0 ≤ (q - qty) * level.priceTick := Int.mul_nonneg (by omega) (le_of_lt positive)
      have least : i64Min ≤ 0 := by decide
      rw [sweepWithin others inside,Int.mul_comm] at fits
      rw [sweepWithin others inside,lastPrice,if_pos inside,Int.mul_comm level.priceTick]
      have mul : checkedMulI64 (q - qty) level.priceTick = some _ := checkedMulExact.mpr ⟨⟨by omega,by omega⟩,rfl⟩
      have add : checkedAddI64 cost ((q - qty) * level.priceTick) = some _ :=
        checkedAddExact.mpr ⟨⟨by omega,by omega⟩,rfl⟩
      rw [mul]
      simp only
      rw [add]
theorem pricedDirect {leg : CombinatorialBundles.BundleLeg} {view : MarketDepthView} {curve q}
    (built : buildBuyCurve leg view = .ok curve) (some : 0 < q) (within : q ≤ curve.totalQtyLots)
    (fits : sweep (curveSteps curve.levels) q ≤ i64Max) : costForQuantity curve q =
      ⟨true,q,sweep (curveSteps curve.levels) q,(sweep (curveSteps curve.levels) q).tdiv q,lastPrice
        (curveSteps curve.levels) q⟩ := by
  have of := curveOf built
  have positive := curvePositive of
  have total := curveDepth of
  have levels : curve.levels ≠ [] := by
    intro none
    rw [none] at total
    have start := of.some
    rw [total] at start
    exact absurd start (lt_irrefl 0)
  have priced := pricedFrom (curveRunning built) (fun step mem => le_of_lt (positive step mem).2)
    (fun step mem _ => (positive step mem).1) some (by omega) le_rfl (by rw [Int.sub_zero]; omega)
  rw [Int.sub_zero,Int.zero_add] at priced
  unfold costForQuantity
  rw [if_neg (by simp [levels]; omega),priced]

/-! The incremental state against direct pricing. -/

-- What one call leaves in the caller's state, and the failure it reports.
def advanceStep (minDepthMarginBps : Int) (legs : List SizingLeg) (state : IncrementalEvalState)
    (bundleQty : Int) :
    IncrementalEvalState × Option AdvanceFailure :=
  match advanceIncrementalState legs minDepthMarginBps bundleQty state with
  | .ok next => (next,none)
  | .error failure => (state,some failure)

def LegDirect (bundleQty : Int) (leg : SizingLeg) (fill : LegFill) : Prop :=
  fill.qtyLots = (costForQuantity leg.curve (leg.ratio * bundleQty)).quantityLots ∧
  fill.costTick = (costForQuantity leg.curve (leg.ratio * bundleQty)).totalCostTick ∧
  fill.worstPriceTick = (costForQuantity leg.curve (leg.ratio * bundleQty)).worstPriceTick
structure Direct (legs : List SizingLeg) (bundleQty : Int) (state : IncrementalEvalState) : Prop where
  current : state.currentQ = bundleQty
  accepted : 0 < bundleQty → ∀ leg ∈ legs, (costForQuantity leg.curve (leg.ratio * bundleQty)).ok = true
  each : List.Forall₂ (LegDirect bundleQty) legs state.legs
  total : state.totalLegCostTick =
    (legs.map fun leg => (costForQuantity leg.curve (leg.ratio * bundleQty)).totalCostTick).sum
def BuiltLegs (legs : List SizingLeg) : Prop :=
  ∀ leg ∈ legs, 0 < leg.ratio ∧ ∃ bundleLeg, buildBuyCurve bundleLeg leg.depth = .ok leg.curve

-- Costs fit, and a leg nothing was bought for has no worst price.
structure Settled (fill : LegFill) : Prop where
  nonneg : 0 ≤ fill.qtyLots
  fits : fill.costTick ≤ i64Max
  idle : fill.qtyLots = 0 → fill.worstPriceTick = 0
theorem fillSettled {target total : Int} {levels fill out} (settled : Settled fill)
    (filled : fillLevels target levels fill total = some out) :
    Settled out.1 := by
  induction levels generalizing fill total with
  | nil =>
    unfold fillLevels at filled
    split at filled
    · cases filled
    · cases filled
      exact ⟨settled.nonneg,settled.fits,settled.idle⟩
  | cons level rest ih =>
    unfold fillLevels at filled
    split at filled
    · simp only at filled
      split at filled
      · cases filled
      next some =>
      obtain ⟨costDelta,_,filled⟩ := Option.bind_eq_some_iff.mp filled
      obtain ⟨cost,added,filled⟩ := Option.bind_eq_some_iff.mp filled
      obtain ⟨_,_,filled⟩ := Option.bind_eq_some_iff.mp filled
      obtain ⟨fits,rfl⟩ := checkedAddExact.mp added
      have start := settled.nonneg
      have taken : Settled ⟨level::rest,fill.qtyLots + min (level.cumulativeQtyLots - fill.qtyLots)
        (target - fill.qtyLots),
          fill.costTick + costDelta,level.priceTick⟩ := by
        refine ⟨?_,fits.2,fun none => ?_⟩
        · simp only
          omega
        · simp only at none
          omega
      split at filled
      · exact ih taken filled
      · cases filled
        exact taken
    · cases filled
      exact ⟨settled.nonneg,settled.fits,settled.idle⟩
theorem legSettled {leg : SizingLeg} {bundleQty currentQ total : Int} {fill out} (settled : Settled fill)
    (advanced : advanceIncrementalLeg leg bundleQty currentQ fill total = some out) : Settled out.1 := by
  unfold advanceIncrementalLeg at advanced
  split at advanced
  · cases advanced
  obtain ⟨target,_,advanced⟩ := Option.bind_eq_some_iff.mp advanced
  simp only at advanced
  split at advanced
  · cases advanced
  · exact fillSettled settled advanced
theorem legsSettled {m bundleQty currentQ total : Int} {legs fills out} (settled : ∀ fill ∈ fills, Settled fill)
    (advanced : advanceLegs m bundleQty currentQ legs fills total = .ok out) : ∀ fill ∈ out.1, Settled fill := by
  induction legs generalizing fills total out with
  | nil =>
    cases advanced
    exact fun fill mem => (by cases mem)
  | cons leg rest ih =>
    cases fills with
    | nil =>
      cases advanced
      exact fun fill mem => (by cases mem)
    | cons fill fills =>
      obtain ⟨here,others⟩ := List.forall_mem_cons.mp settled
      unfold advanceLegs at advanced
      split at advanced
      · cases advanced
      obtain ⟨_,advanced⟩ := Machine.guardOk advanced
      split at advanced
      · cases advanced
      next first total' advancedLeg =>
      obtain ⟨⟨later,_⟩,moved,advanced⟩ := Machine.bindOk.mp advanced
      cases advanced
      exact List.forall_mem_cons.mpr ⟨legSettled here advancedLeg,ih others moved⟩

section
variable {m : Int} {legs : List SizingLeg} (built : BuiltLegs legs)
include built

theorem builtCurved : Curved legs := fun leg mem => by
  obtain ⟨ratio,_,made⟩ := built leg mem
  exact ⟨ratio,curveOf made⟩

-- What a leg was filled with fits, so direct pricing does not refuse it.
theorem legDirect {q : Int} {leg fill} (mem : leg ∈ legs) (nonneg : 0 ≤ q)
    (filled : LegAt leg (leg.ratio * q) fill) (settled : Settled fill)
    (within : leg.ratio * q ≤ leg.curve.totalQtyLots) :
    LegDirect q leg fill ∧ (0 < q → (costForQuantity leg.curve (leg.ratio * q)).ok = true) := by
  obtain ⟨ratio,bundleLeg,made⟩ := built leg mem
  have cost := filled.cost
  rcases Int.lt_or_eq_of_le nonneg with some | none
  · have lots := Int.mul_pos ratio some
    have priced := pricedDirect made lots within (cost ▸ settled.fits)
    unfold LegDirect
    rw [priced]
    exact ⟨⟨filled.qty,cost,filled.worst lots⟩,fun _ => rfl⟩
  · have zero : leg.ratio * q = 0 := by rw [← none,Int.mul_zero]
    have idle : costForQuantity leg.curve 0 = {quantityLots := 0} := if_pos (.inl le_rfl)
    rw [zero,sweepZero (curveOfSized (curveOf made))] at cost
    have qty := filled.qty.trans zero
    unfold LegDirect
    rw [zero,idle]
    exact ⟨⟨qty,cost,settled.idle qty⟩,fun some => (by omega)⟩

theorem legsDirect {q : Int} {more : List SizingLeg} {fills : List LegFill} (subset : more ⊆ legs)
    (nonneg : 0 ≤ q) (filled : FilledAt q more fills)
    (settled : ∀ fill ∈ fills, Settled fill) (deep : Deep m more q) :
    List.Forall₂ (LegDirect q) more fills ∧
      (0 < q → ∀ leg ∈ more, (costForQuantity leg.curve (leg.ratio * q)).ok = true) ∧
      legsCost more q = (more.map fun leg => (costForQuantity leg.curve (leg.ratio * q)).totalCostTick).sum := by
  induction filled with
  | nil => exact ⟨.nil,fun _ leg mem => (by cases mem),rfl⟩
  | @cons leg fill legs fills here later ih =>
    obtain ⟨mem,inside⟩ := List.cons_subset.mp subset
    obtain ⟨first,others⟩ := List.forall_mem_cons.mp settled
    obtain ⟨deepHere,deepLater⟩ := deepCons.mp deep
    obtain ⟨each,accepted,total⟩ := ih inside others deepLater
    obtain ⟨direct,ok⟩ := legDirect built mem nonneg here first (le_trans (ceilRatioLe deepHere.1 m) deepHere.2)
    refine ⟨.cons direct each,fun some => List.forall_mem_cons.mpr ⟨ok some,accepted some⟩,?_⟩
    rw [legsCostCons,total,List.map_cons,List.sum_cons,← direct.2.1,here.cost]
    rfl

structure Standing (legs : List SizingLeg) (state : IncrementalEvalState) : Prop where
  filled : ∃ q, StateAt legs q state
  settled : ∀ fill ∈ state.legs, Settled fill
theorem standingDirect {state next : IncrementalEvalState} {q : Int} (standing : Standing legs state)
    (advanced : advanceIncrementalState legs m q state = .ok next) : Standing legs next ∧ Direct legs q next := by
  obtain ⟨c,filled⟩ := standing.filled
  obtain ⟨reached,_,deep⟩ := stateSound (builtCurved built) filled advanced
  have settled : ∀ fill ∈ next.legs, Settled fill := by
    unfold advanceIncrementalState at advanced
    obtain ⟨_,advanced⟩ := Machine.guardOk advanced
    obtain ⟨⟨fills,_⟩,moved,advanced⟩ := Machine.bindOk.mp advanced
    cases advanced
    exact legsSettled standing.settled moved
  obtain ⟨each,accepted,total⟩ :=
    legsDirect built (List.Subset.refl legs) reached.nonneg reached.filled settled deep
  exact ⟨⟨⟨q,reached⟩,settled⟩,reached.current,accepted,each,reached.total.trans total⟩
theorem startStanding : Standing legs (startWalk legs).state := by
  refine ⟨⟨0,startState (builtCurved built)⟩,fun fill mem => ?_⟩
  obtain ⟨leg,_,rfl⟩ := List.mem_map.mp mem
  have fits : 0 ≤ i64Max := by decide
  exact ⟨le_rfl,fits,fun _ => rfl⟩

end

/-- Whatever bundle quantities are tried in whatever order, a step that is accepted leaves every leg and the total at
what direct pricing gives for the new quantity, and a step that is refused leaves the state as it was. -/
theorem incrementalIsDirect (minDepthMarginBps : Int) (legs : List SizingLeg) (built : BuiltLegs legs)
    (quantities : List Int) :
    Machine.Along (advanceStep minDepthMarginBps legs) (fun state _ bundleQty =>
      match advanceStep minDepthMarginBps legs state bundleQty with
      | (next,none) => Direct legs bundleQty next
      | (next,some _) => next = state) (startWalk legs).state [] quantities := by
  refine Machine.alongImp (P := fun state _ => Standing legs state) (C := fun _ _ _ => True) ?_ ?_
    (startStanding built)
    (Machine.alongTrue _ _ _ _)
  · intro state log q standing _
    unfold advanceStep
    cases advanced : advanceIncrementalState legs minDepthMarginBps q state with
    | ok next => exact (standingDirect built standing advanced).1
    | error failure => exact standing
  · intro state log q standing _
    unfold advanceStep
    cases advanced : advanceIncrementalState legs minDepthMarginBps q state with
    | ok next => exact (standingDirect built standing advanced).2
    | error failure => exact rfl

-- Two levels of five lots; a bundle takes two lots of the first book and one of the second.
def pairView (first second : Int) : MarketDepthView :=
  {asks := [⟨first,⟨0x4014000000000000⟩⟩,⟨second,⟨0x4014000000000000⟩⟩]}
def pairLeg (ratio : Int) (view : MarketDepthView) : SizingLeg :=
  ⟨ratio,view,(buildBuyCurve {} view).toOption.getD {}⟩
def pairLegs : List SizingLeg := [pairLeg 2 (pairView 30 50),pairLeg 1 (pairView 40 60)]
-- Nine bundles are too many and two are fewer than the three before.
theorem pairIsDirect : (Machine.run (advanceStep 10000 pairLegs) (startWalk pairLegs).state []
    [1,3,9,2,4]).2.map Prod.snd =
      [none,none,some .partialFillRisk,some .invalid,none] ∧
    Machine.Along (advanceStep 10000 pairLegs) (fun state _ bundleQty =>
      match advanceStep 10000 pairLegs state bundleQty with
      | (next,none) => Direct pairLegs bundleQty next
      | (next,some _) => next = state) (startWalk pairLegs).state [] [1,3,9,2,4] := by
  have built : BuiltLegs pairLegs :=
    List.forall_mem_cons.mpr ⟨⟨by decide,{},by decide +kernel⟩,List.forall_mem_singleton.mpr
      ⟨by decide,{},by decide +kernel⟩⟩
  exact ⟨by decide +kernel,incrementalIsDirect 10000 pairLegs built [1,3,9,2,4]⟩

end Polytope.CurvePricing
