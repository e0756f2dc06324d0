import Polytope.OrderDecisionEngine

/-! FixedBuyBundleKernelScalar::run and the generic path it is verified against. The kernel
prices a bundle of buy legs on single-level books without enumerating quantities; everything
else it hands back as a fallback. The generic path replays the kernel's intent through a fresh
OrderDecisionEngine. Risk evaluation and planning come after both and leave the order decision
as it is, so they are not repeated here. -/
namespace Polytope.FixedShapeKernel
open FixedPointMath MarketDepth BundleSizing OrderDecisionEngine
open Intent (OpportunityIntent IntentLeg OrderDecisionLite OrderDecisionLegLite)
open CombinatorialBundles (Side CandidateBundle BundleLeg)
open RiskTypes (RiskPolicySnapshot RiskDecisionType RiskRejectReason passesEdgeThresholds)

def kMaxFixedShapeKernelLegs : Nat := 16

-- The reasons the kernel itself gives.
inductive FastPathRejectReason where
  | emptyBundle | tooManyLegs | sellLeg | unsupportedExecutableSide | dynamicRuntimeOracleRequired
  | missingDepthView | badDepthView | policyIncompatible
  deriving DecidableEq, Repr

structure KernelLeg where
  assetIndex : Nat
  marketIndex : Nat
  side : Side
  ratioQtyLots : Int
  deriving DecidableEq
structure FixedShapeKernelSpec where
  artifactHash : UInt64 := 0
  bundleHash : UInt64 := 0
  constraintHash : UInt64 := 0
  bundleId : UInt64 := 0
  legs : List KernelLeg := []
  guaranteedPayoutTick : Int := 0
  minUnitEdgeTick : Int := 0
  minTotalEdgeTick : Int := 0
  minEdgeBps : Int := 0
  minBundleQty : Int := 0
  deriving DecidableEq

structure EdgeMathResult where
  ok : Bool := true
  unitEdgeTick : Int := 0
  totalEdgeTick : Int := 0
  edgeBps : Int := 0
  deriving DecidableEq, Repr
-- A failed step keeps what the steps before it had written.
def computeEdge (guaranteedPayout totalCost fee latency slippage bundleQty : Int) : EdgeMathResult :=
  match checkedSubI64 guaranteedPayout totalCost with
  | none => {ok := false}
  | some gross => match checkedSubI64 gross fee with
    | none => {ok := false, unitEdgeTick := gross}
    | some afterFee => match checkedSubI64 afterFee latency with
      | none => {ok := false, unitEdgeTick := afterFee}
      | some afterLatency => match checkedSubI64 afterLatency slippage with
        | none => {ok := false, unitEdgeTick := afterLatency}
        | some unit => match checkedMulI64 unit bundleQty with
          | none => {ok := false, unitEdgeTick := unit}
          | some total => ⟨true,unit,total,ratioBps unit totalCost⟩

def depthIsUsable (policy : RiskPolicySnapshot) (nowNs : Nat) (depth : MarketDepthView) : Bool :=
  depthFlagsUsable depth && decide (depth.asks ≠ []) &&
  !decide (0 < policy.maxBookAgeNs ∧ depth.lastWsRecvNs < nowNs ∧
    policy.maxBookAgeNs < ((nowNs - depth.lastWsRecvNs : Nat) : Int))
def bestAskFromPrefix : Int → List PriceLevel → List PrefixLevel → Int
  | previous,ask::asks,level::levels =>
    if previous < level.cumQty ∧ 0 < ask.priceTick then ask.priceTick
    else bestAskFromPrefix level.cumQty asks levels
  | _,_,_ => 0
def bestAskTick (depth : MarketDepthView) : Int :=
  if depth.depthPrefix.asks ≠ [] then bestAskFromPrefix 0 depth.asks depth.depthPrefix.asks
  else (((depth.asks.take kMaxSnapshotDepth).find? fun level =>
    decide (0 < level.priceTick ∧ 0 < priceLevelSizeLots level)).map PriceLevel.priceTick).getD 0

structure LegWork where
  depth : MarketDepthView
  ratioQtyLots : Int
  executableQtyLots : Int
  bestPriceTick : Int
  deriving DecidableEq
def LegWork.bundleQty (work : LegWork) : Int := work.executableQtyLots.tdiv work.ratioQtyLots

def legWork (views : List MarketDepthView) (policy : RiskPolicySnapshot) (nowNs : Nat) (leg : KernelLeg) :
    Except FastPathRejectReason LegWork :=
  if leg.side ≠ .buy then .error .sellLeg
  else if leg.ratioQtyLots ≤ 0 then .error .unsupportedExecutableSide
  else match views.find? (fun view => view.assetIndex == leg.assetIndex) with
    | none => .error .missingDepthView
    | some depth =>
      if depthIsUsable policy nowNs depth = false then .error .badDepthView
      else if depth.asks.length ≠ 1 ∨ depth.depthPrefix.asks.length ≠ 1 then .error .dynamicRuntimeOracleRequired
      else if executableAskQty depth < leg.ratioQtyLots ∨ bestAskTick depth ≤ 0 then .error .badDepthView
      else .ok ⟨depth,leg.ratioQtyLots,executableAskQty depth,bestAskTick depth⟩
-- Every leg has to give the bundle quantity of the first one.
def collectWork (views : List MarketDepthView) (policy : RiskPolicySnapshot) (nowNs : Nat) :
    Option Int → List KernelLeg → Except FastPathRejectReason (List LegWork)
  | _,[] => .ok []
  | first,leg::rest => do
    let work ← legWork views policy nowNs leg
    if first.any (fun qty => work.bundleQty ≠ qty) then .error .dynamicRuntimeOracleRequired else do
      let later ← collectWork views policy nowNs (some (first.getD work.bundleQty)) rest
      .ok (work::later)

structure PricedLeg where
  work : LegWork
  plannedQtyLots : Int
  cost : VwapMathResult
  depthMarginBps : Int
  deriving DecidableEq
def priceWork (bundleQty : Int) : List LegWork → Int → Except FastPathRejectReason (List PricedLeg × Int)
  | [],total => .ok ([],total)
  | work::rest,total =>
    match checkedMulI64 work.ratioQtyLots bundleQty with
    | none => .error .unsupportedExecutableSide
    | some planned =>
      if (buyVwap work.depth planned).ok = false then .error .badDepthView
      else match checkedAddI64 total (buyVwap work.depth planned).totalCostTick with
        | none => .error .unsupportedExecutableSide
        | some total => do
          let (later,total) ← priceWork bundleQty rest total
          .ok (⟨work,planned,buyVwap work.depth planned,ratioBps work.executableQtyLots planned⟩::later,total)

def edgeRejection (spec : FixedShapeKernelSpec) (edge : EdgeMathResult) (bundleQty : Int)
    (policy : RiskPolicySnapshot) : RiskDecisionType :=
  if edge.ok = false then .rejectInternalError
  else if bundleQty < max spec.minBundleQty 1 then .rejectInsufficientDepth
  else if edge.unitEdgeTick < max spec.minUnitEdgeTick policy.minPostRiskUnitEdgeTick then .rejectLowUnitEdge
  else if edge.totalEdgeTick < max spec.minTotalEdgeTick policy.minPostRiskTotalEdgeTick then .rejectLowTotalEdge
  else if edge.edgeBps < max spec.minEdgeBps policy.minEdgeBps then .rejectLowEdgeBps
  else if passesEdgeThresholds edge.unitEdgeTick edge.totalEdgeTick edge.edgeBps policy = false then
    .rejectLowTotalEdge
  else .pass
def kernelRejection (spec : FixedShapeKernelSpec) (policy : RiskPolicySnapshot) (legs : List PricedLeg)
    (edge : EdgeMathResult) (bundleQty totalCost : Int) : RiskDecisionType :=
  if 0 < policy.minDepthMarginBps ∧
    legs.any (fun leg => decide (leg.depthMarginBps < policy.minDepthMarginBps)) then
    .rejectInsufficientDepth
  else if 0 < policy.maxTotalCostTick ∧ policy.maxTotalCostTick < totalCost then .rejectCostLimit
  else edgeRejection spec edge bundleQty policy
def riskRejectReason : RiskDecisionType → RiskRejectReason
  | .rejectLowTotalEdge => .lowTotalEdge
  | .rejectLowUnitEdge => .lowUnitEdge
  | .rejectLowEdgeBps => .lowEdgeBps
  | .rejectCostLimit => .costLimit
  | .rejectTotalExposureLimit => .totalExposureLimit
  | .rejectSingleMarketExposureLimit => .singleMarketExposureLimit
  | .rejectInventoryLimit => .inventoryLimit
  | .rejectInsufficientDepth => .partialFillRisk
  | _ => .internalError

def intentSide : Side → Intent.Side
  | .buy => .buy
  | .sell => .sell
open Fnv in
def snapshotHash (legs : List PricedLeg) : UInt64 :=
  nonzeroHash (legs.foldl (fun h leg => mixNat (mixU64 (mixNat (mixNat h leg.work.depth.assetIndex)
    leg.work.depth.bookVersion) leg.work.depth.snapshotVersionHash) leg.work.depth.lastWsRecvNs) offset)
open Fnv in
def makeIntentId (bundleId bundleHash snapshotVersionHash : UInt64) (bundleQty unitEdgeTick : Int) : UInt64 :=
  mixI64 (mixI64 ([bundleId,bundleHash,snapshotVersionHash].foldl mixU64 offset) bundleQty) unitEdgeTick
def intentLeg (leg : KernelLeg) (priced : PricedLeg) : IntentLeg :=
  { assetIndex := leg.assetIndex
    side := intentSide leg.side
    quantityLots := leg.ratioQtyLots
    estimatedVwapTick := priced.cost.vwapTick
    worstPriceTick := priced.cost.worstPriceTick
    estimatedCostTick := priced.cost.totalCostTick
    requestedQtyLots := priced.plannedQtyLots
    executableQtyLots := priced.work.executableQtyLots
    depthMarginBps := priced.depthMarginBps
    enoughDepth := true }
def fillIntent (spec : FixedShapeKernelSpec) (legs : List PricedLeg) (edge : EdgeMathResult)
    (bundleQty totalCost : Int) (nowNs : Nat) (paperOpportunity : Bool) : OpportunityIntent :=
  let intentId := makeIntentId spec.bundleId spec.bundleHash (snapshotHash legs) bundleQty edge.unitEdgeTick
  { intentId
    bundleId := spec.bundleId
    status := if paperOpportunity then .paperOpportunity else .rejectedLowEdge
    enoughDepth := true
    guaranteedPayoutTick := saturatingMulI64 spec.guaranteedPayoutTick bundleQty
    estimatedCostTick := totalCost
    estimatedEdgeTick := edge.totalEdgeTick
    oracleArtifactHash := spec.artifactHash
    constraintHash := spec.constraintHash
    bundleHash := spec.bundleHash
    snapshotVersion := legs.foldl (fun version leg => max version leg.work.depth.bookVersion) 0
    snapshotVersionHash := snapshotHash legs
    idempotencyHash := intentId
    bundleQty
    originalBundleQty := bundleQty
    unitEdgeTick := edge.unitEdgeTick
    totalEdgeTick := edge.totalEdgeTick
    edgeBps := edge.edgeBps
    maxLegSlippageTick := legs.foldl
      (fun worst leg => max worst (leg.cost.worstPriceTick - leg.work.bestPriceTick)) 0
    createdTsNs := nowNs
    expiresAtNs := (nowNs + 1000000000) % 2^64
    legs := List.zipWith intentLeg spec.legs legs }
def kernelDecisionLeg (leg : KernelLeg) (priced : PricedLeg) : OrderDecisionLegLite :=
  { marketIndex := leg.marketIndex
    assetIndex := leg.assetIndex
    side := intentSide leg.side
    quantityLots := priced.plannedQtyLots
    estimatedVwapTick := priced.cost.vwapTick
    limitPriceTick := priced.cost.worstPriceTick
    worstPriceTick := priced.cost.worstPriceTick
    estimatedCostTick := priced.cost.totalCostTick }
def fillOrderDecision (spec : FixedShapeKernelSpec) (intent : OpportunityIntent) (legs : List PricedLeg)
    (policyHash : UInt64) : OrderDecisionLite :=
  signed
    { sourceIntentId := intent.intentId
      bundleId := intent.bundleId
      type := .paperOrderDecision
      chosenBundleQty := intent.bundleQty
      guaranteedPayoutTick := intent.guaranteedPayoutTick
      estimatedTotalCostTick := intent.estimatedCostTick
      estimatedFeeTick := intent.estimatedFeeTick
      latencyBufferTick := intent.latencyBufferTick
      slippageBufferTick := intent.slippageBufferTick
      unitEdgeTick := intent.unitEdgeTick
      totalEdgeTick := intent.totalEdgeTick
      edgeBps := intent.edgeBps
      legs := List.zipWith kernelDecisionLeg spec.legs legs
      snapshotVersionHash := intent.snapshotVersionHash
      oracleArtifactHash := intent.oracleArtifactHash
      bundleHash := intent.bundleHash
      policyHash
      createdTsNs := intent.createdTsNs
      expiresAtNs := intent.expiresAtNs }

structure FastKernelResult where
  bundleQty : Int
  totalCostTick : Int
  avgCostTick : Int
  unitEdgeTick : Int
  totalEdgeTick : Int
  edgeBps : Int
  riskRejectReason : RiskRejectReason
  intent : OpportunityIntent
  producedOrderDecision : Bool
  orderDecision : OrderDecisionLite
  deriving DecidableEq
def kernelResult (spec : FixedShapeKernelSpec) (policy : RiskPolicySnapshot) (nowNs : Nat) (legs : List PricedLeg)
    (bundleQty totalCost : Int) : FastKernelResult :=
  let avgCost := ceilDivPositive totalCost bundleQty
  let edge := computeEdge spec.guaranteedPayoutTick avgCost 0 0 0 bundleQty
  let rejection := kernelRejection spec policy legs edge bundleQty totalCost
  let approved := decide (rejection = .pass)
  let intent := fillIntent spec legs edge bundleQty totalCost nowNs approved
  { bundleQty
    totalCostTick := totalCost
    avgCostTick := avgCost
    unitEdgeTick := edge.unitEdgeTick
    totalEdgeTick := edge.totalEdgeTick
    edgeBps := edge.edgeBps
    riskRejectReason := if approved then .none else riskRejectReason rejection
    intent
    producedOrderDecision := approved
    orderDecision := if approved then fillOrderDecision spec intent legs policy.policyHash else {} }
-- An error is a fallback request; the ledger argument of the source is not read.
def run (spec : FixedShapeKernelSpec) (views : List MarketDepthView) (policy : RiskPolicySnapshot) (nowNs : Nat) :
    Except FastPathRejectReason FastKernelResult :=
  if spec.legs = [] then .error .emptyBundle
  else if kMaxFixedShapeKernelLegs < spec.legs.length then .error .tooManyLegs
  else if policy.riskEnabled = false ∨ policy.killSwitchEnabled = true then .error .policyIncompatible
  else do
    let work ← collectWork views policy nowNs none spec.legs
    let bundleQty := work.foldl (fun qty leg => min qty leg.bundleQty) i64Max
    if bundleQty ≤ 0 ∨ bundleQty = i64Max then .error .badDepthView else do
      let (legs,totalCost) ← priceWork bundleQty work 0
      .ok (kernelResult spec policy nowNs legs bundleQty totalCost)

def bundleLegOf (leg : KernelLeg) : BundleLeg :=
  { marketId := "market_" ++ toString leg.marketIndex
    assetId := "asset_" ++ toString leg.assetIndex
    side := leg.side
    quantityLots := leg.ratioQtyLots
    maxPriceTick := 0 }
def bundleFromSpec (spec : FixedShapeKernelSpec) : CandidateBundle :=
  { bundleId := spec.bundleId.toNat
    guaranteedPayoutTick := spec.guaranteedPayoutTick
    minEdgeTick := spec.minUnitEdgeTick
    legs := spec.legs.map bundleLegOf }
-- The leg slots of the source intent are overwritten in place; the other fields of a slot stay.
def sourceLegs (spec : FixedShapeKernelSpec) (old : List IntentLeg) : List IntentLeg :=
  spec.legs.zipIdx.map fun leg =>
    { old.getD leg.2 {} with
      marketId := (bundleLegOf leg.1).marketId
      assetId := (bundleLegOf leg.1).assetId
      assetIndex := leg.1.assetIndex
      side := intentSide leg.1.side
      quantityLots := leg.1.ratioQtyLots }
def genericCall (spec : FixedShapeKernelSpec) (sourceIntent : OpportunityIntent) (views : List MarketDepthView)
    (policy : RiskPolicySnapshot) (nowNs : Nat) : DecideCall :=
  ⟨{sourceIntent with status := .paperOpportunity, legs := sourceLegs spec sourceIntent.legs},bundleFromSpec spec,
    views,policy,nowNs⟩

structure FastPathResult where
  intent : OpportunityIntent := {}
  orderDecision : OrderDecisionLite := {}
  deriving DecidableEq
def indexedLeg (leg : OrderDecisionLegLite) (source : KernelLeg) : OrderDecisionLegLite :=
  { leg with
    marketIndex := source.marketIndex
    assetIndex := if leg.assetIndex = 0 then source.assetIndex else leg.assetIndex }
def genericResult (spec : FixedShapeKernelSpec) (intent : OpportunityIntent) (decided : OrderDecisionResult) :
    FastPathResult :=
  if decided.ok = false then {intent := {intent with status := .rejectedLowEdge}}
  else
    { intent
      orderDecision := signed
        {decided.decision with legs := List.zipWith indexedLeg decided.decision.legs spec.legs} }
def genericOrderDecisionResult (spec : FixedShapeKernelSpec) (sourceIntent : OpportunityIntent)
    (views : List MarketDepthView) (policy : RiskPolicySnapshot) (nowNs : Nat) : FastPathResult :=
  let call := genericCall spec sourceIntent views policy nowNs
  genericResult spec call.intent (engineDecide {} {} call).2

end Polytope.FixedShapeKernel
