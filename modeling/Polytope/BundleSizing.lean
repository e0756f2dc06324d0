import Polytope.SizeCandidates
import Polytope.RiskTypes

/-! BundleSizeOptimizer: the legs of a bundle are matched with depth views and curves, the
candidate quantities are tried in order on an incrementally filled state, and the best edge
wins. A candidate refused for its depth margin ends the walk. Counters and stage timings are
not modelled. -/
namespace Polytope.BundleSizing
open FixedPointMath MarketDepth SizeCandidates
open Intent (OpportunityIntent IntentLeg OrderDecisionType OrderDecisionLegLite)
open CombinatorialBundles (BundleLeg CandidateBundle)
open RiskTypes (RiskPolicySnapshot)

inductive OrderDecisionImplMode where | generic | fastFixedShape
  deriving DecidableEq, Repr
structure OrderDecisionConfig where
  implMode : OrderDecisionImplMode := .generic
  fastFixedShapeFallbackToGeneric : Bool := true
  minBundleQty : Int := 1
  maxBundleQty : Int := 0
  feePerBundleTick : Int := 0
  latencyBufferPerBundleTick : Int := 0
  slippageBufferPerBundleTick : Int := 0
  priceProtectionBufferTick : Int := 0
  maxAllowedPriceTick : Int := 0
  defaultTtlNs : Nat := 1000000000
  usePrefixVwap : Bool := true
  debugComparePrefixVsLinear : Bool := false
  deriving DecidableEq, Repr
def OrderDecisionConfig.bounds (config : OrderDecisionConfig) : Bounds :=
  ⟨max 1 config.minBundleQty,config.maxBundleQty⟩

-- The arguments of one decide call.
structure DecideCall where
  intent : OpportunityIntent
  bundle : CandidateBundle
  depthViews : List MarketDepthView
  policy : RiskPolicySnapshot
  nowNs : Nat
  deriving DecidableEq

def ratioForLeg (bundleLeg : BundleLeg) (intentLeg : Option IntentLeg) : Int :=
  if 0 < bundleLeg.quantityLots then bundleLeg.quantityLots
  else match intentLeg with
    | some leg => if 0 < leg.quantityLots then leg.quantityLots else 1
    | none => 1
def findDepthView (views : List MarketDepthView) (assetIndex fallbackIndex : Nat) : Option MarketDepthView :=
  match views.find? (fun view => view.assetIndex == assetIndex) with
  | some view => some view
  | none => views[fallbackIndex]?
def depthFlagsUsable (depth : MarketDepthView) : Bool :=
  depth.usableForDepth && !depth.recovering && !depth.crossed && !depth.closed && !depth.resolved
def ceilRatioBps (value bps : Int) : Int :=
  if value ≤ 0 ∨ bps ≤ 10000 then value
  else match checkedMulI64 value bps with
    | none => value
    | some scaled => ceilDivPositive scaled 10000

structure SizingLeg where
  ratio : Int
  depth : MarketDepthView
  curve : CostCurve
  deriving DecidableEq
def SizingLeg.cursor (leg : SizingLeg) : CursorLeg := ⟨leg.ratio,leg.curve.breakpoints⟩

def prepareLeg (call : DecideCall) (index : Nat) (leg : BundleLeg) : Except OrderDecisionType SizingLeg :=
  let intentLeg := call.intent.legs[index]?
  if leg.side ≠ .buy then .error .rejectUnsupportedSide
  else if ratioForLeg leg intentLeg ≤ 0 then .error .rejectInvalidBundle
  else match findDepthView call.depthViews ((intentLeg.map IntentLeg.assetIndex).getD 0) index with
    | none => .error .rejectNoDepth
    | some depth =>
      if depthFlagsUsable depth = false then .error .rejectNoDepth else do
        let curve ← buildBuyCurve leg depth
        .ok ⟨ratioForLeg leg intentLeg,depth,curve⟩
def prepareLegs (call : DecideCall) : Nat → List BundleLeg → Except OrderDecisionType (List SizingLeg)
  | _,[] => .ok []
  | index,leg::rest => do
    let first ← prepareLeg call index leg
    let later ← prepareLegs call (index + 1) rest
    .ok (first::later)

structure LegFill where
  levels : List CostCurveLevel := []
  qtyLots : Int := 0
  costTick : Int := 0
  worstPriceTick : Int := 0
  deriving DecidableEq, Repr
structure IncrementalEvalState where
  currentQ : Int := 0
  legs : List LegFill := []
  totalLegCostTick : Int := 0
  deriving DecidableEq, Repr

-- A level is left behind exactly when it is used up; otherwise the target is reached in it.
def fillLevels (target : Int) : List CostCurveLevel → LegFill → Int → Option (LegFill × Int)
  | [],fill,total => if fill.qtyLots < target then none else some ({fill with levels := []},total)
  | level::rest,fill,total =>
    if fill.qtyLots < target then
      let remaining := level.cumulativeQtyLots - fill.qtyLots
      let needed := target - fill.qtyLots
      if remaining ≤ 0 ∨ needed ≤ 0 ∨ level.priceTick ≤ 0 then none else do
        let take := min remaining needed
        let costDelta ← checkedMulI64 level.priceTick take
        let cost ← checkedAddI64 fill.costTick costDelta
        let total ← checkedAddI64 total costDelta
        let filled : LegFill := ⟨level::rest,fill.qtyLots + take,cost,level.priceTick⟩
        if level.cumulativeQtyLots ≤ filled.qtyLots then fillLevels target rest filled total
        else some (filled,total)
    else some ({fill with levels := level::rest},total)
def advanceIncrementalLeg (leg : SizingLeg) (bundleQty currentQ : Int) (fill : LegFill) (total : Int) :
    Option (LegFill × Int) :=
  if leg.ratio ≤ 0 ∨ bundleQty < currentQ then none else do
    let target ← checkedMulI64 leg.ratio bundleQty
    let unused := fill.levels.dropWhile fun level => decide (level.cumulativeQtyLots ≤ fill.qtyLots)
    if target < fill.qtyLots ∨ leg.curve.totalQtyLots < target then none else fillLevels target unused fill total

inductive AdvanceFailure where | partialFillRisk | invalid
  deriving DecidableEq, Repr
def advanceLegs (minDepthMarginBps bundleQty currentQ : Int) :
    List SizingLeg → List LegFill → Int → Except AdvanceFailure (List LegFill × Int)
  | leg::legs,fill::fills,total =>
    match checkedMulI64 leg.ratio bundleQty with
    | none => .error .invalid
    | some legQty =>
      if leg.curve.totalQtyLots < ceilRatioBps legQty minDepthMarginBps then .error .partialFillRisk
      else match advanceIncrementalLeg leg bundleQty currentQ fill total with
        | none => .error .invalid
        | some (first,total) => do
          let (later,total) ← advanceLegs minDepthMarginBps bundleQty currentQ legs fills total
          .ok (first::later,total)
  | _,_,total => .ok ([],total)
def advanceIncrementalState (legs : List SizingLeg) (minDepthMarginBps bundleQty : Int)
    (state : IncrementalEvalState) : Except AdvanceFailure IncrementalEvalState :=
  if bundleQty < state.currentQ then .error .invalid else do
    let (fills,total) ← advanceLegs minDepthMarginBps bundleQty state.currentQ legs state.legs
      state.totalLegCostTick
    .ok ⟨bundleQty,fills,total⟩

structure EdgeCurvePoint where
  bundleQty : Int
  totalCostTick : Int
  unitEdgeTick : Int
  totalEdgeTick : Int
  edgeBps : Int
  deriving DecidableEq, Repr
def betterEdgeCandidate (candidate incumbent : EdgeCurvePoint) : Bool :=
  if candidate.totalEdgeTick ≠ incumbent.totalEdgeTick then incumbent.totalEdgeTick < candidate.totalEdgeTick
  else if candidate.edgeBps ≠ incumbent.edgeBps then incumbent.edgeBps < candidate.edgeBps
  else if candidate.totalCostTick ≠ incumbent.totalCostTick then candidate.totalCostTick < incumbent.totalCostTick
  else candidate.bundleQty < incumbent.bundleQty

def totalCost (config : OrderDecisionConfig) (q legCost : Int) : Option Int := do
  let fee ← checkedMulI64 config.feePerBundleTick q
  let latency ← checkedMulI64 config.latencyBufferPerBundleTick q
  let slippage ← checkedMulI64 config.slippageBufferPerBundleTick q
  let cost ← checkedAddI64 legCost fee
  let cost ← checkedAddI64 cost latency
  checkedAddI64 cost slippage
def edgePoint (policy : RiskPolicySnapshot) (guaranteedPerBundle q cost : Int) : Option EdgeCurvePoint := do
  let payout ← checkedMulI64 guaranteedPerBundle q
  let totalEdge ← checkedSubI64 payout cost
  let unitEdge := totalEdge.tdiv q
  let edgeBps := ratioBps totalEdge cost
  if totalEdge < policy.minPostRiskTotalEdgeTick ∨ unitEdge < policy.minPostRiskUnitEdgeTick ∨
      edgeBps < policy.minEdgeBps then none
  else some ⟨q,cost,unitEdge,totalEdge,edgeBps⟩

def guaranteedPerBundle (call : DecideCall) : Int :=
  if call.bundle.guaranteedPayoutTick ≠ 0 then call.bundle.guaranteedPayoutTick
  else call.intent.guaranteedPayoutTick

structure Walk where
  state : IncrementalEvalState
  sawBudgetReject : Bool := false
  sawPartialReject : Bool := false
  candidatesExhausted : Bool := false
  best : Option (EdgeCurvePoint × IncrementalEvalState) := none
  deriving DecidableEq, Repr
def Walk.offer (w : Walk) (point : EdgeCurvePoint) : Walk :=
  match w.best with
  | none => {w with best := some (point,w.state)}
  | some (incumbent,_) => if betterEdgeCandidate point incumbent then {w with best := some (point,w.state)} else w
def Walk.price (config : OrderDecisionConfig) (call : DecideCall) (q : Int) (w : Walk) : Walk :=
  match totalCost config q w.state.totalLegCostTick with
  | none => w
  | some cost =>
    if 0 < call.policy.maxTotalCostTick ∧ call.policy.maxTotalCostTick < cost then {w with sawBudgetReject := true}
    else match edgePoint call.policy (guaranteedPerBundle call) q cost with
      | none => w
      | some point => w.offer point
def evaluateCandidate (config : OrderDecisionConfig) (call : DecideCall) (legs : List SizingLeg) (w : Walk)
    (q : Int) : Walk :=
  if q < config.bounds.minBundleQty then w
  else match advanceIncrementalState legs call.policy.minDepthMarginBps q w.state with
    | .error .partialFillRisk => {w with sawPartialReject := true, candidatesExhausted := true}
    | .error .invalid => w
    | .ok state => Walk.price config call q {w with state}

def startWalk (legs : List SizingLeg) : Walk :=
  {state := {legs := legs.map fun leg => {levels := leg.curve.levels}}}
def walkCandidates (evaluate : Walk → Int → Walk) : Walk → List Int → Walk
  | w,[] => w
  | w,q::rest =>
    if (evaluate w q).candidatesExhausted then evaluate w q else walkCandidates evaluate (evaluate w q) rest
-- The candidates the walk takes from the cursor, up to and with the one that ends it.
def visited (evaluate : Walk → Int → Walk) : Walk → List Int → List Int
  | _,[] => []
  | w,q::rest =>
    if (evaluate w q).candidatesExhausted then [q] else q::visited evaluate (evaluate w q) rest

structure BundleSize where
  bestBundleQty : Int
  guaranteedPayoutTick : Int
  totalCostTick : Int
  unitEdgeTick : Int
  totalEdgeTick : Int
  edgeBps : Int
  legs : List OrderDecisionLegLite
  deriving DecidableEq, Repr
def sizedLeg (leg : SizingLeg) (fill : LegFill) : OrderDecisionLegLite :=
  { assetIndex := leg.depth.assetIndex
    side := .buy
    quantityLots := fill.qtyLots
    estimatedVwapTick := fill.costTick.tdiv fill.qtyLots
    worstPriceTick := fill.worstPriceTick
    estimatedCostTick := fill.costTick }
def sizeResult (call : DecideCall) (legs : List SizingLeg) (candidateCount : Nat) (w : Walk) :
    Except OrderDecisionType BundleSize :=
  match w.best with
  | none =>
    if candidateCount = 0 then .error .rejectNoDepth
    else if w.sawBudgetReject then .error .rejectRiskBudget
    else if w.sawPartialReject then .error .rejectPartialFillRisk
    else .error .rejectLowEdge
  | some (best,state) =>
    if state.legs.any (fun fill => decide (fill.qtyLots ≤ 0 ∨ fill.costTick < 0)) then .error .rejectNoDepth
    else .ok
      { bestBundleQty := best.bundleQty
        guaranteedPayoutTick := guaranteedPerBundle call * best.bundleQty
        totalCostTick := best.totalCostTick
        unitEdgeTick := best.unitEdgeTick
        totalEdgeTick := best.totalEdgeTick
        edgeBps := best.edgeBps
        legs := List.zipWith sizedLeg legs state.legs }

def sizeOver (config : OrderDecisionConfig) (call : DecideCall) (legs : List SizingLeg) (candidates : List Int) :
    Except OrderDecisionType BundleSize :=
  sizeResult call legs candidates.length
    (walkCandidates (evaluateCandidate config call legs) (startWalk legs) candidates)
def streamed (config : OrderDecisionConfig) (call : DecideCall) (legs : List SizingLeg) (candidates : List Int) :
    List Int :=
  visited (evaluateCandidate config call legs) (startWalk legs) candidates

/-! A walk reads nothing behind the candidate that ends it. -/

theorem visitedTake (evaluate w) (candidates : List Int) :
    visited evaluate w candidates = candidates.take (visited evaluate w candidates).length := by
  induction candidates generalizing w with
  | nil => rfl
  | cons q rest ih =>
    rw [visited]
    split
    · rfl
    · rw [List.length_cons,List.take_succ_cons,← ih]

theorem walkTake {evaluate w} {candidates : List Int} {count : Nat}
    (enough : (visited evaluate w candidates).length ≤ count) :
    walkCandidates evaluate w (candidates.take count) = walkCandidates evaluate w candidates := by
  induction candidates generalizing w count with
  | nil => rw [List.take_nil]
  | cons q rest ih =>
    rw [visited] at enough
    cases count with
    | zero =>
      split at enough <;> simp at enough
    | succ count =>
      rw [List.take_succ_cons,walkCandidates,walkCandidates]
      split
      · rfl
      · next goesOn =>
        rw [if_neg goesOn,List.length_cons] at enough
        exact ih (by omega)

theorem sizeOverTake {config call legs} {candidates : List Int} {count : Nat} (positive : 0 < count)
    (enough : (streamed config call legs candidates).length ≤ count) :
    sizeOver config call legs (candidates.take count) = sizeOver config call legs candidates := by
  have counted : ((candidates.take count).length = 0) = (candidates.length = 0) := by
    rw [List.length_take]
    simp only [eq_iff_iff]
    omega
  unfold sizeOver
  rw [walkTake enough]
  simp only [sizeResult,counted]

end Polytope.BundleSizing
