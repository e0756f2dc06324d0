import Polytope.BundleSizing
import Mathlib.Logic.Function.Basic

/-! OrderDecisionEngine over one OrderDecisionCache. Both implementations look up the decision
memo first; the generic one reuses stored candidate sets, the fixed-shape one stored specs.
An unordered_map is a partial function of its key; leg_costs_ has no reader and is left out. -/
namespace Polytope.OrderDecisionEngine
open FixedPointMath MarketDepth SizeCandidates BundleSizing
open Intent (OpportunityIntent IntentLeg OrderDecisionType OrderDecisionLite OrderDecisionLegLite
  computeOrderDecisionHash kMaxOrderDecisionLegs)
open CombinatorialBundles (Side BundleLeg CandidateBundle sideCode)
open RiskTypes (RiskPolicySnapshot policyHashFor)

def kMaxOrderDecisionCandidates : Nat := kMaxOrderDecisionLegs * kMaxCostCurveLevels
def nonzeroHash (hash : UInt64) : UInt64 := if hash = 0 then 1 else hash
def typeToString : OrderDecisionType → String
  | .noTrade => "NoTrade"
  | .paperOrderDecision => "PaperOrderDecision"
  | .rejectNoDepth => "RejectNoDepth"
  | .rejectLowEdge => "RejectLowEdge"
  | .rejectInvalidBundle => "RejectInvalidBundle"
  | .rejectUnsupportedSide => "RejectUnsupportedSide"
  | .rejectRiskBudget => "RejectRiskBudget"
  | .rejectPartialFillRisk => "RejectPartialFillRisk"
  | .rejectExpiredIntent => "RejectExpiredIntent"
  | .rejectPriceProtection => "RejectPriceProtection"
  | .rejectInternalError => "RejectInternalError"

-- What the breakpoint signature is a hash of, one record a leg.
structure LegBreakpoints where
  ratio : Int
  assetIndex : Nat
  askCount : Nat
  prefixQty : List Int
  curveQty : List Int
  deriving DecidableEq, Repr
def legBreakpoints (leg : SizingLeg) : LegBreakpoints :=
  ⟨leg.ratio,leg.depth.assetIndex,leg.depth.asks.length,leg.depth.depthPrefix.asks.map PrefixLevel.cumQty,
    leg.curve.breakpoints⟩
def LegBreakpoints.words (index : Nat) (leg : LegBreakpoints) : List UInt64 :=
  [UInt64.ofNat index,UInt64.ofInt leg.ratio,UInt64.ofNat leg.assetIndex,UInt64.ofNat leg.askCount] ++
  (if leg.prefixQty = [] then [] else UInt64.ofNat leg.prefixQty.length::leg.prefixQty.map UInt64.ofInt) ++
  UInt64.ofNat leg.curveQty.length::leg.curveQty.map UInt64.ofInt
def depthBreakpointSignature (legs : List LegBreakpoints) : UInt64 :=
  nonzeroHash ((legs.zipIdx.flatMap fun leg => leg.1.words leg.2).foldl Fnv.mixU64
    (Fnv.mixNat Fnv.offset legs.length))

structure CandidateSetKey where
  bundleId : Nat
  bundleHash : UInt64
  depthBreakpointSignature : UInt64
  configHash : UInt64
  deriving DecidableEq, Repr
def makeCandidateSetKey (config : OrderDecisionConfig) (call : DecideCall) (legs : List SizingLeg) :
    CandidateSetKey :=
  { bundleId := call.bundle.bundleId
    bundleHash := call.intent.bundleHash
    depthBreakpointSignature := depthBreakpointSignature (legs.map legBreakpoints)
    configHash := nonzeroHash (Fnv.mixI64 (Fnv.mixI64 Fnv.offset config.minBundleQty) config.maxBundleQty) }

open Fnv in
def orderDecisionConfigHash (config : OrderDecisionConfig) : UInt64 :=
  let h := mixNat offset config.implMode.ctorIdx
  let h := mixNat h (if config.fastFixedShapeFallbackToGeneric then 1 else 0)
  let h := [config.minBundleQty,config.maxBundleQty,config.feePerBundleTick,config.latencyBufferPerBundleTick,
    config.slippageBufferPerBundleTick,config.priceProtectionBufferTick,config.maxAllowedPriceTick].foldl mixI64 h
  let h := mixNat h config.defaultTtlNs
  let h := mixNat h (if config.usePrefixVwap then 1 else 0)
  nonzeroHash (mixNat h (if config.debugComparePrefixVsLinear then 1 else 0))

structure DecisionMemoKey where
  bundleId : Nat
  bundleHash : UInt64
  snapshotVersionHash : UInt64
  policyHash : UInt64
  sourceIntentId : UInt64
  intentExpiresAtNs : Nat
  nowNs : Nat
  configHash : UInt64
  deriving DecidableEq, Repr
def makeDecisionMemoKey (config : OrderDecisionConfig) (call : DecideCall) : DecisionMemoKey :=
  { bundleId := call.bundle.bundleId
    bundleHash := call.intent.bundleHash
    snapshotVersionHash := call.intent.snapshotVersionHash
    policyHash := policyHashFor call.policy
    sourceIntentId := call.intent.intentId
    intentExpiresAtNs := call.intent.expiresAtNs
    nowNs := call.nowNs
    configHash := orderDecisionConfigHash config }

structure SpecLeg where
  side : Side
  ratioQtyLots : Int
  assetIndex : Nat
  deriving DecidableEq
-- The fields of the spec that the fixed-shape implementation reads back.
structure FixedShapeOrderDecisionSpec where
  legs : List SpecLeg
  guaranteedPayoutPerBundleTick : Int
  deriving DecidableEq
open Fnv in
def specCacheKey (call : DecideCall) : UInt64 :=
  let h := mixNat offset call.bundle.bundleId
  let h := [call.intent.bundleHash,call.intent.oracleArtifactHash,call.intent.constraintHash].foldl mixU64 h
  let h := mixNat h call.bundle.legs.length
  nonzeroHash (call.bundle.legs.zipIdx.foldl (fun h leg =>
    let h := mixI64 (mixU64 h (sideCode leg.1.side)) leg.1.quantityLots
    let h := match call.intent.legs[leg.2]? with
      | some intentLeg => mixNat h intentLeg.assetIndex
      | none => h
    mixString (mixString h leg.1.marketId) leg.1.assetId) h)
def buildSpec (call : DecideCall) : FixedShapeOrderDecisionSpec :=
  { legs := (call.bundle.legs.take kMaxOrderDecisionLegs).zipIdx.map fun leg =>
      ⟨leg.1.side,ratioForLeg leg.1 call.intent.legs[leg.2]?,
        (call.intent.legs[leg.2]?.map IntentLeg.assetIndex).getD 0⟩
    guaranteedPayoutPerBundleTick := guaranteedPerBundle call }

structure OrderDecisionCache where
  specs : UInt64 → Option FixedShapeOrderDecisionSpec := fun _ => none
  candidateSets : CandidateSetKey → Option (List Int) := fun _ => none
  decisions : DecisionMemoKey → Option OrderDecisionLite := fun _ => none
def OrderDecisionCache.storeSpec (cache : OrderDecisionCache) (key : UInt64) (spec : FixedShapeOrderDecisionSpec) :
    OrderDecisionCache := {cache with specs := Function.update cache.specs key (some spec)}
def OrderDecisionCache.storeCandidateSet (cache : OrderDecisionCache) (key : CandidateSetKey)
    (qValues : List Int) :
    OrderDecisionCache := {cache with candidateSets := Function.update cache.candidateSets key (some qValues)}
def OrderDecisionCache.storeDecision (cache : OrderDecisionCache) (key : DecisionMemoKey)
    (decision : OrderDecisionLite) : OrderDecisionCache :=
  {cache with decisions := Function.update cache.decisions key (some decision)}
def fixedShapeSpec (cache : OrderDecisionCache) (call : DecideCall) :
    OrderDecisionCache × FixedShapeOrderDecisionSpec :=
  match cache.specs (specCacheKey call) with
  | some spec => (cache,spec)
  | none => (cache.storeSpec (specCacheKey call) (buildSpec call),buildSpec call)

def legsFor (call : DecideCall) : Except OrderDecisionType (List SizingLeg) :=
  if call.bundle.legs = [] ∨ kMaxOrderDecisionLegs < call.bundle.legs.length then .error .rejectInvalidBundle
  else if call.intent.legs ≠ [] ∧ call.intent.legs.length < call.bundle.legs.length then
    .error .rejectInvalidBundle
  else prepareLegs call 0 call.bundle.legs
def candidatesFor (config : OrderDecisionConfig) (legs : List SizingLeg) : List Int :=
  enumerate config.bounds (legs.map SizingLeg.cursor)
def optimize (config : OrderDecisionConfig) (cache : OrderDecisionCache) (call : DecideCall) :
    OrderDecisionCache × Except OrderDecisionType BundleSize :=
  match legsFor call with
  | .error reason => (cache,.error reason)
  | .ok legs =>
    match cache.candidateSets (makeCandidateSetKey config call legs) with
    | some stored => (cache,if stored = [] then .error .rejectNoDepth else sizeOver config call legs stored)
    | none =>
      let all := candidatesFor config legs
      let seen := (streamed config call legs all).take kMaxOrderDecisionCandidates
      (if seen = [] then cache else cache.storeCandidateSet (makeCandidateSetKey config call legs) seen,
        sizeOver config call legs all)

structure OrderDecisionResult where
  ok : Bool := false
  decision : OrderDecisionLite := {}
  rejectReason : OrderDecisionType := .noTrade
  error : String := ""
  deriving DecidableEq, Repr
def reject (reason : OrderDecisionType) (error : String) : OrderDecisionResult :=
  {decision := {type := reason}, rejectReason := reason, error}
def accept (decision : OrderDecisionLite) : OrderDecisionResult := {ok := true, decision}

def validate (call : DecideCall) : Option OrderDecisionResult :=
  if call.intent.expiresAtNs ≠ 0 ∧ call.intent.expiresAtNs ≤ call.nowNs then
    some (reject .rejectExpiredIntent "intent expired")
  else if call.intent.status ≠ .paperOpportunity then
    some (reject .rejectInvalidBundle "intent is not PaperOpportunity")
  else if call.bundle.bundleId = 0 ∨ call.intent.bundleId.toNat ≠ call.bundle.bundleId ∨ call.bundle.legs = [] ∨
      kMaxOrderDecisionLegs < call.bundle.legs.length then
    some (reject .rejectInvalidBundle "invalid bundle")
  else none

def buildBuyLimit (config : OrderDecisionConfig) (legMaxPriceTick worst : Int) : Except OrderDecisionType Int :=
  if worst ≤ 0 then .error .rejectNoDepth
  else match checkedAddI64 worst config.priceProtectionBufferTick with
    | none => .error .rejectPriceProtection
    | some protectedPrice =>
      let maxAllowed :=
        if 0 < legMaxPriceTick ∧
            (config.maxAllowedPriceTick ≤ 0 ∨ legMaxPriceTick < config.maxAllowedPriceTick) then legMaxPriceTick
        else config.maxAllowedPriceTick
      if 0 < maxAllowed ∧ maxAllowed < protectedPrice then .error .rejectPriceProtection else .ok protectedPrice
def limitLegs (config : OrderDecisionConfig) :
    List BundleLeg → List OrderDecisionLegLite → Except OrderDecisionType (List OrderDecisionLegLite)
  | _,[] => .ok []
  | legs,out::outs => do
    let limit ← buildBuyLimit config (legs.headD {}).maxPriceTick out.worstPriceTick
    let later ← limitLegs config legs.tail outs
    .ok ({out with limitPriceTick := limit}::later)

def multiplyOrZero (lhs rhs : Int) : Int := (checkedMulI64 lhs rhs).getD 0
def expiryFor (config : OrderDecisionConfig) (call : DecideCall) : Nat :=
  let defaultExpiry := (call.nowNs + config.defaultTtlNs) % 2^64
  if call.intent.expiresAtNs ≠ 0 then min call.intent.expiresAtNs defaultExpiry else defaultExpiry
def signed (decision : OrderDecisionLite) : OrderDecisionLite :=
  { decision with
    decisionId := computeOrderDecisionHash decision
    decisionHash := computeOrderDecisionHash decision }
def buildDecision (config : OrderDecisionConfig) (call : DecideCall) (size : BundleSize)
    (snapshotVersionHash : UInt64) : Except OrderDecisionType OrderDecisionLite := do
  let legs ← limitLegs config call.bundle.legs size.legs
  .ok (signed
    { sourceIntentId := call.intent.intentId
      bundleId := UInt64.ofNat call.bundle.bundleId
      type := .paperOrderDecision
      chosenBundleQty := size.bestBundleQty
      guaranteedPayoutTick := size.guaranteedPayoutTick
      estimatedTotalCostTick := size.totalCostTick
      estimatedFeeTick := multiplyOrZero config.feePerBundleTick size.bestBundleQty
      latencyBufferTick := multiplyOrZero config.latencyBufferPerBundleTick size.bestBundleQty
      slippageBufferTick := multiplyOrZero config.slippageBufferPerBundleTick size.bestBundleQty
      unitEdgeTick := size.unitEdgeTick
      totalEdgeTick := size.totalEdgeTick
      edgeBps := size.edgeBps
      legs
      snapshotVersionHash
      oracleArtifactHash := call.intent.oracleArtifactHash
      bundleHash := call.intent.bundleHash
      policyHash := policyHashFor call.policy
      createdTsNs := call.nowNs
      expiresAtNs := expiryFor config call })

-- The memo is written only for a decision that was taken.
def settle (config : OrderDecisionConfig) (cache : OrderDecisionCache) (call : DecideCall) (size : BundleSize)
    (snapshotVersionHash : UInt64) : OrderDecisionCache × OrderDecisionResult :=
  match buildDecision config call size snapshotVersionHash with
  | .error reason => (cache,reject reason (typeToString reason))
  | .ok decision => (cache.storeDecision (makeDecisionMemoKey config call) decision,accept decision)

def genericCompute (config : OrderDecisionConfig) (cache : OrderDecisionCache) (call : DecideCall) :
    OrderDecisionCache × OrderDecisionResult :=
  match (optimize config cache call).2 with
  | .error reason => ((optimize config cache call).1,reject reason (typeToString reason))
  | .ok size => settle config (optimize config cache call).1 call size call.intent.snapshotVersionHash
def genericDecide (config : OrderDecisionConfig) (cache : OrderDecisionCache) (call : DecideCall) :
    OrderDecisionCache × OrderDecisionResult :=
  match validate call with
  | some refused => (cache,refused)
  | none => match cache.decisions (makeDecisionMemoKey config call) with
    | some memo => (cache,accept memo)
    | none => genericCompute config cache call

def findFixedShapeDepth (views : List MarketDepthView) (assetIndex fallbackIndex : Nat) : Option MarketDepthView :=
  if assetIndex ≠ 0 then findDepthView views assetIndex fallbackIndex else views[fallbackIndex]?
def depthUsable (policy : RiskPolicySnapshot) (nowNs : Nat) (depth : MarketDepthView) : Bool :=
  depthFlagsUsable depth && decide (depth.asks ≠ []) &&
  !decide (0 < policy.maxBookAgeNs ∧ depth.lastWsRecvNs ≠ 0 ∧ depth.lastWsRecvNs < nowNs ∧
    policy.maxBookAgeNs < ((nowNs - depth.lastWsRecvNs : Nat) : Int))
def linearAskQty (asks : List PriceLevel) : Int :=
  ((asks.take kMaxSnapshotDepth).foldlM (fun total level =>
    if level.priceTick ≤ 0 then some total else checkedAddI64 total (priceLevelSizeLots level)) 0).getD i64Max
def executableAskQty (depth : MarketDepthView) : Int :=
  if depth.depthPrefix.asks ≠ [] then askDepthFromPrefix depth.depthPrefix else linearAskQty depth.asks
def buyVwap (depth : MarketDepthView) (quantityLots : Int) : VwapMathResult :=
  if depth.depthPrefix.asks ≠ [] then buyVwapPrefix depth.depthPrefix depth.asks quantityLots
  else buyVwapLinear depth.asks quantityLots

structure FixedShapeLeg where
  ratio : Int
  depth : MarketDepthView
  executableQty : Int
  deriving DecidableEq
abbrev Refusal := OrderDecisionType × String
def fixedShapeLeg (call : DecideCall) (index : Nat) (leg : SpecLeg) : Except Refusal FixedShapeLeg :=
  if leg.side ≠ .buy then .error (.rejectUnsupportedSide,"SELL legs are unsupported in fast fixed-shape v1")
  else match findFixedShapeDepth call.depthViews leg.assetIndex index with
    | none => .error (.rejectNoDepth,"missing or unusable depth")
    | some depth =>
      if leg.ratioQtyLots ≤ 0 ∨ depthUsable call.policy call.nowNs depth = false then
        .error (.rejectNoDepth,"missing or unusable depth")
      else if executableAskQty depth < leg.ratioQtyLots then
        .error (.rejectNoDepth,"insufficient executable depth")
      else .ok ⟨leg.ratioQtyLots,depth,executableAskQty depth⟩
def fixedShapeLegs (call : DecideCall) : Nat → List SpecLeg → Except Refusal (List FixedShapeLeg)
  | _,[] => .ok []
  | index,leg::rest => do
    let first ← fixedShapeLeg call index leg
    let later ← fixedShapeLegs call (index + 1) rest
    .ok (first::later)
def fixedShapeQty (config : OrderDecisionConfig) (legs : List FixedShapeLeg) : Int :=
  let executable := legs.foldl (fun q leg => min q (leg.executableQty.tdiv leg.ratio)) i64Max
  if 0 < config.maxBundleQty then min executable config.maxBundleQty else executable
def priceLegs (minDepthMarginBps bundleQty : Int) :
    List FixedShapeLeg → Int → Except Refusal (List OrderDecisionLegLite × Int)
  | [],total => .ok ([],total)
  | leg::rest,total =>
    match checkedMulI64 leg.ratio bundleQty with
    | none => .error (.rejectInternalError,"quantity overflow")
    | some legQty =>
      if leg.executableQty < ceilRatioBps legQty minDepthMarginBps then
        .error (.rejectPartialFillRisk,"depth margin failed")
      else
        let priced := buyVwap leg.depth legQty
        match if priced.ok then checkedAddI64 total priced.totalCostTick else none with
        | none => .error (.rejectNoDepth,"failed to price executable depth")
        | some total => do
          let (later,total) ← priceLegs minDepthMarginBps bundleQty rest total
          .ok ({ assetIndex := leg.depth.assetIndex
                 side := .buy
                 quantityLots := legQty
                 estimatedVwapTick := priced.vwapTick
                 worstPriceTick := priced.worstPriceTick
                 estimatedCostTick := priced.totalCostTick }::later,total)

def fixedShapeCost (config : OrderDecisionConfig) (bundleQty legCost : Int) : Option Int := do
  let cost ← checkedAddI64 legCost (multiplyOrZero config.feePerBundleTick bundleQty)
  let cost ← checkedAddI64 cost (multiplyOrZero config.latencyBufferPerBundleTick bundleQty)
  checkedAddI64 cost (multiplyOrZero config.slippageBufferPerBundleTick bundleQty)
def fixedShapeEdge (policy : RiskPolicySnapshot) (guaranteedPerBundle bundleQty cost : Int)
    (legs : List OrderDecisionLegLite) : Except Refusal BundleSize :=
  match checkedMulI64 guaranteedPerBundle bundleQty with
  | none => .error (.rejectInternalError,"payout overflow")
  | some payout => match checkedSubI64 payout cost with
    | none => .error (.rejectInternalError,"edge overflow")
    | some totalEdge =>
      let unitEdge := totalEdge.tdiv bundleQty
      let edgeBps := ratioBps totalEdge cost
      if unitEdge < policy.minPostRiskUnitEdgeTick ∨ totalEdge < policy.minPostRiskTotalEdgeTick ∨
          edgeBps < policy.minEdgeBps then
        .error (.rejectLowEdge,"edge below policy threshold")
      else .ok ⟨bundleQty,payout,cost,unitEdge,totalEdge,edgeBps,legs⟩
def fixedShapeSize (config : OrderDecisionConfig) (call : DecideCall) (spec : FixedShapeOrderDecisionSpec) :
    Except Refusal BundleSize := do
  let legs ← fixedShapeLegs call 0 spec.legs
  let bundleQty := fixedShapeQty config legs
  if bundleQty < config.bounds.minBundleQty ∨ bundleQty = i64Max then
    .error (.rejectNoDepth,"no executable bundle quantity")
  else do
    let (outs,legCost) ← priceLegs call.policy.minDepthMarginBps bundleQty legs 0
    match fixedShapeCost config bundleQty legCost with
    | none => .error (.rejectInternalError,"cost overflow")
    | some cost =>
      if 0 < call.policy.maxTotalCostTick ∧ call.policy.maxTotalCostTick < cost then
        .error (.rejectRiskBudget,"cost exceeds policy budget")
      else fixedShapeEdge call.policy spec.guaranteedPayoutPerBundleTick bundleQty cost outs

def fixedShapeSnapshotHash (call : DecideCall) : UInt64 :=
  if call.intent.snapshotVersionHash ≠ 0 then call.intent.snapshotVersionHash else hashDepthViews call.depthViews
def fixedShapeCompute (config : OrderDecisionConfig) (cache : OrderDecisionCache) (call : DecideCall) :
    OrderDecisionCache × OrderDecisionResult :=
  match fixedShapeSize config call (fixedShapeSpec cache call).2 with
  | .error (reason,error) => ((fixedShapeSpec cache call).1,reject reason error)
  | .ok size => settle config (fixedShapeSpec cache call).1 call size (fixedShapeSnapshotHash call)
def fixedShapeDecide (config : OrderDecisionConfig) (cache : OrderDecisionCache) (call : DecideCall) :
    OrderDecisionCache × OrderDecisionResult :=
  match validate call with
  | some refused => (cache,refused)
  | none => match cache.decisions (makeDecisionMemoKey config call) with
    | some memo => (cache,accept memo)
    | none => fixedShapeCompute config cache call

def engineDecide (config : OrderDecisionConfig) (cache : OrderDecisionCache) (call : DecideCall) :
    OrderDecisionCache × OrderDecisionResult :=
  if config.implMode = .fastFixedShape then
    let fast := fixedShapeDecide config cache call
    if fast.2.ok = true ∨ config.fastFixedShapeFallbackToGeneric = false then fast
    else genericDecide config fast.1 call
  else genericDecide config cache call

end Polytope.OrderDecisionEngine
