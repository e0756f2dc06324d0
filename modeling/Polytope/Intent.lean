import Polytope.FixedPointMath
import Polytope.Fnv

/-! The intent Signal hands to Risk and the order decision derived from it. Only fields
that Risk or Execution read are kept; leg_count and the leg array are one list, so a slot
beyond the count is a default leg. -/
namespace Polytope.Intent

def kMaxIntentLegs : Nat := 16
def kMaxOrderDecisionLegs : Nat := 16

inductive Side where | buy | sell
  deriving DecidableEq, Repr
inductive IntentStatus where
  | candidateOnly | rejectedInvalidSettlement | rejectedBadMarketState | rejectedMissingSnapshot
  | rejectedInsufficientDepth | rejectedLowEdge | duplicateIntent | paperOpportunity
  deriving DecidableEq, Repr

-- The settings of the signal engine that edges and publishing depend on.
structure SignalConfig where
  slippageBufferTick : Int := 0
  minUnitEdgeTick : Int := 0
  minTotalEdgeTick : Int := 0
  minEdgeBps : Int := 0
  minBundleQty : Int := 1
  maxIntentsPerScan : Nat := 1024
  intentTtlNs : Nat := 5000000000
  emitRejections : Bool := true
  deriving DecidableEq, Repr
structure IntentLeg where
  marketId : String := ""
  assetId : String := ""
  assetIndex : Nat := 0
  side : Side := .buy
  quantityLots : Int := 0
  estimatedVwapTick : Int := 0
  worstPriceTick : Int := 0
  estimatedCostTick : Int := 0
  requestedQtyLots : Int := 0
  executableQtyLots : Int := 0
  depthMarginBps : Int := 0
  enoughDepth : Bool := false
  deriving DecidableEq, Repr

structure OpportunityIntent where
  intentId : UInt64 := 0
  bundleId : UInt64 := 0
  status : IntentStatus := .candidateOnly
  enoughDepth : Bool := false
  guaranteedPayoutTick : Int := 0
  estimatedCostTick : Int := 0
  estimatedFeeTick : Int := 0
  latencyBufferTick : Int := 0
  estimatedEdgeTick : Int := 0
  oracleArtifactHash : UInt64 := 0
  constraintHash : UInt64 := 0
  bundleHash : UInt64 := 0
  snapshotVersion : Nat := 0
  snapshotVersionHash : UInt64 := 0
  idempotencyHash : UInt64 := 0
  bundleQty : Int := 0
  originalBundleQty : Int := 0
  unitEdgeTick : Int := 0
  totalEdgeTick : Int := 0
  edgeBps : Int := 0
  slippageBufferTick : Int := 0
  maxLegSlippageTick : Int := 0
  createdTsNs : Nat := 0
  expiresAtNs : Nat := 0
  legs : List IntentLeg := []
  idempotencyKey : String := ""
  deriving DecidableEq, Repr

-- The idempotency evidence of an intent: its hash, or its key when the hash is zero.
inductive Evidence where
  | hash (value : UInt64)
  | key (value : String)
  deriving DecidableEq, Repr
def evidence (intent : OpportunityIntent) : Evidence :=
  if intent.idempotencyHash ≠ 0 then .hash intent.idempotencyHash else .key intent.idempotencyKey

inductive OrderDecisionType where
  | noTrade | paperOrderDecision | rejectNoDepth | rejectLowEdge | rejectInvalidBundle
  | rejectUnsupportedSide | rejectRiskBudget | rejectPartialFillRisk | rejectExpiredIntent
  | rejectPriceProtection | rejectInternalError
  deriving DecidableEq, Repr

structure OrderDecisionLegLite where
  marketIndex : Nat := 0
  assetIndex : Nat := 0
  side : Side := .buy
  quantityLots : Int := 0
  estimatedVwapTick : Int := 0
  limitPriceTick : Int := 0
  worstPriceTick : Int := 0
  estimatedCostTick : Int := 0
  deriving DecidableEq, Repr

structure OrderDecisionLite where
  decisionId : UInt64 := 0
  sourceIntentId : UInt64 := 0
  bundleId : UInt64 := 0
  type : OrderDecisionType := .noTrade
  chosenBundleQty : Int := 0
  guaranteedPayoutTick : Int := 0
  estimatedTotalCostTick : Int := 0
  estimatedFeeTick : Int := 0
  latencyBufferTick : Int := 0
  slippageBufferTick : Int := 0
  unitEdgeTick : Int := 0
  totalEdgeTick : Int := 0
  edgeBps : Int := 0
  legs : List OrderDecisionLegLite := []
  snapshotVersionHash : UInt64 := 0
  oracleArtifactHash : UInt64 := 0
  bundleHash : UInt64 := 0
  policyHash : UInt64 := 0
  createdTsNs : Nat := 0
  expiresAtNs : Nat := 0
  decisionHash : UInt64 := 0
  deriving DecidableEq, Repr

open Fnv in
def computeOrderDecisionHash (d : OrderDecisionLite) : UInt64 :=
  let h := mixU64 (mixU64 offset d.sourceIntentId) d.bundleId
  let h := mixNat h d.type.ctorIdx
  let h := [d.chosenBundleQty,d.guaranteedPayoutTick,d.estimatedTotalCostTick,d.estimatedFeeTick,
    d.latencyBufferTick,d.slippageBufferTick,d.unitEdgeTick,d.totalEdgeTick,d.edgeBps].foldl mixI64 h
  let h := [d.snapshotVersionHash,d.oracleArtifactHash,d.bundleHash,d.policyHash].foldl mixU64 h
  let h := [d.createdTsNs,d.expiresAtNs,d.legs.length].foldl mixNat h
  let h := d.legs.foldl (fun h leg =>
    let h := [leg.marketIndex,leg.assetIndex,leg.side.ctorIdx].foldl mixNat h
    [leg.quantityLots,leg.estimatedVwapTick,leg.limitPriceTick,leg.worstPriceTick,
      leg.estimatedCostTick].foldl mixI64 h) h
  if h = 0 then 1 else h

end Polytope.Intent
