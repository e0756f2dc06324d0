import Polytope.FixedShapeKernel
import Polytope.ExecutionPlanner
import Polytope.Engine
import Polytope.Binary64

/-! EventLocalDecisionPipeline: on a changed asset the kernel prices every affected spec, the
rollout policy decides what the best result may do, and the generic path is asked for a second
opinion before anything it does not trust leaves the pipeline. The hashes of a snapshot are
computed from the others of its fields, so a snapshot is built by one function. -/
namespace Polytope.FastPathPipeline
open FixedPointMath MarketDepth BundleSizing OrderDecisionEngine
open CombinatorialBundles (sideCode)
open FixedShapeKernel (KernelLeg FixedShapeKernelSpec FastKernelResult run genericCall genericResult)
open Intent (OpportunityIntent IntentLeg IntentStatus OrderDecisionLite OrderDecisionType)
open RiskTypes (RiskPolicySnapshot RiskRejectReason RiskDecision ApprovedIntent)
open Reservation (RiskLedgerSnapshot)
open Pipeline (Buffer RiskInputView)
open ExecutionTypes (OrderPlan ApprovedOrderDecisionEnvelope computeApprovedIntentHash)
open Fnv (mixU64 mixI64 mixNat mixByte mixBool)

inductive FastPathMode where | disabled | shadowCompare | verifiedPaper | paperAuthoritative
  deriving DecidableEq, Repr
inductive FastPathRejectReason where
  | none | missingBundlePlan | missingPolicy | emptyBundle | tooManyLegs | sellLeg | unsupportedExecutableSide
  | dynamicRuntimeOracleRequired | missingDepthView | badDepthView | artifactHashMismatch | policyHashMismatch
  | universeVersionMismatch | missingSettlementMaskDependency | policyIncompatible | kernelSpecHashMismatch
  | runtimeDisabled
  deriving DecidableEq, Repr
def kernelReason : FixedShapeKernel.FastPathRejectReason → FastPathRejectReason
  | .emptyBundle => .emptyBundle
  | .tooManyLegs => .tooManyLegs
  | .sellLeg => .sellLeg
  | .unsupportedExecutableSide => .unsupportedExecutableSide
  | .dynamicRuntimeOracleRequired => .dynamicRuntimeOracleRequired
  | .missingDepthView => .missingDepthView
  | .badDepthView => .badDepthView
  | .policyIncompatible => .policyIncompatible

-- A double as far as the sampling reads it.
inductive SampleRate where
  | nan
  | negativeInfinity
  | positiveInfinity
  | finite (value : Rat)
  deriving DecidableEq, Repr
def SampleRate.positive : SampleRate → Bool
  | .positiveInfinity => true
  | .finite value => 0 < value
  | _ => false
def SampleRate.clamped : SampleRate → Rat
  | .finite value => min (max value 0) 1
  | .positiveInfinity => 1
  | _ => 0

structure FastPathConfig where
  mode : FastPathMode := .disabled
  enableFixedBuyKernel : Bool := false
  enableSimd : Bool := false
  maxMismatchesBeforeDisable : UInt64 := 1
  sampleVerifyRate : SampleRate := .finite (Binary64.roundNearest (mkRat 1 100))
  requireKernelSpecHashMatch : Bool := true
  requireArtifactHashMatch : Bool := true
  requirePolicyHashMatch : Bool := true
  deriving DecidableEq
structure EventLocalDecisionPipelineConfig where
  expectedArtifactHash : UInt64 := 0
  expectedConstraintHash : UInt64 := 0
  expectedPolicyHash : UInt64 := 0
  maxSupportedLegs : Nat := FixedShapeKernel.kMaxFixedShapeKernelLegs
  fastPath : FastPathConfig := {}
  mode : FastPathMode := .disabled
  fastPathEnabled : Bool := false
  periodicSampleVerificationEnabled : Bool := true
  sampleVerificationInterval : Nat := 1024
  deriving DecidableEq

def explicitFastPathConfig (config : EventLocalDecisionPipelineConfig) : Bool :=
  config.fastPath.mode ≠ .disabled ∨ config.fastPath.enableFixedBuyKernel ∨ config.fastPath.enableSimd
def effectiveFastPathConfig (config : EventLocalDecisionPipelineConfig) : FastPathConfig :=
  if explicitFastPathConfig config then config.fastPath
  else
    { mode := if config.fastPathEnabled then config.mode else .disabled
      enableFixedBuyKernel := config.fastPathEnabled
      enableSimd := false
      maxMismatchesBeforeDisable := config.fastPath.maxMismatchesBeforeDisable
      sampleVerifyRate :=
        if config.periodicSampleVerificationEnabled ∧ 0 < config.sampleVerificationInterval then
          .finite (Binary64.roundNearest (mkRat 1 config.sampleVerificationInterval))
        else .finite 0
      requireKernelSpecHashMatch := config.fastPath.requireKernelSpecHashMatch
      requireArtifactHashMatch := config.fastPath.requireArtifactHashMatch
      requirePolicyHashMatch := config.fastPath.requirePolicyHashMatch }

/-! The registry: specs in the order of their bundle ids, no id twice. -/

structure KernelSpec extends FixedShapeKernelSpec where
  kernelSpecHash : UInt64 := 0
  deriving DecidableEq
def hashFixedShapeKernelSpec (spec : FixedShapeKernelSpec) : UInt64 :=
  let h := [spec.artifactHash,spec.bundleHash,spec.constraintHash,spec.bundleId].foldl mixU64 Fnv.offset
  let h := mixByte h (UInt64.ofNat spec.legs.length)
  let h := spec.legs.foldl (fun h leg =>
    mixI64 (mixByte (mixNat (mixNat h leg.assetIndex) leg.marketIndex) (sideCode leg.side)) leg.ratioQtyLots) h
  [spec.guaranteedPayoutTick,spec.minUnitEdgeTick,spec.minTotalEdgeTick,spec.minEdgeBps,spec.minBundleQty].foldl
  mixI64 h

structure FixedShapeKernelRegistry where
  specs : List KernelSpec
  ordered : specs.Pairwise fun lhs rhs => lhs.bundleId < rhs.bundleId
def FixedShapeKernelRegistry.specsForAsset (registry : FixedShapeKernelRegistry) (assetIndex : Nat) :
    List KernelSpec :=
  registry.specs.filter fun spec => spec.legs.any fun leg => leg.assetIndex == assetIndex
-- Two specs of one bundle leave the registry empty.
def rebuildIndexes (specs : List KernelSpec) : FixedShapeKernelRegistry :=
  let sorted := specs.mergeSort fun lhs rhs => decide (lhs.bundleId ≤ rhs.bundleId)
  if ordered : sorted.Pairwise fun lhs rhs => lhs.bundleId < rhs.bundleId then ⟨sorted,ordered⟩ else ⟨[],.nil⟩

structure EventLocalInput where
  nowNs : Nat := 0
  dirtyAssetIndex : Nat := 0
  depthViews : Buffer MarketDepthView := .null 0
  policy : Option RiskPolicySnapshot := none
  ledger : Option RiskLedgerSnapshot := none
  currentTrueMask : UInt64 := 0
  currentFalseMask : UInt64 := 0
  deriving DecidableEq

structure FastPathResult where
  producedPlan : Bool := false
  fallbackRequired : Bool := false
  mode : FastPathMode := .disabled
  publishAllowed : Bool := false
  reservationAllowed : Bool := false
  genericVerificationRequired : Bool := true
  authoritative : Bool := false
  sampleVerificationRequired : Bool := false
  genericComparisonPerformed : Bool := false
  mismatch : Bool := false
  fastOpportunityHash : UInt64 := 0
  fastRiskHash : UInt64 := 0
  fastPlanHash : UInt64 := 0
  fastCombinedHash : UInt64 := 0
  genericOpportunityHash : UInt64 := 0
  genericRiskHash : UInt64 := 0
  genericPlanHash : UInt64 := 0
  genericCombinedHash : UInt64 := 0
  genericOutputHash : UInt64 := 0
  mismatchReason : String := ""
  intent : OpportunityIntent := {}
  orderDecision : OrderDecisionLite := {}
  decision : RiskDecision := {}
  approved : ApprovedIntent := {}
  plan : OrderPlan := {}
  outputHash : UInt64 := 0
  rejectReason : FastPathRejectReason := .none
  deriving DecidableEq
def FastPathResult.withOutputHash (r : FastPathResult) (outputHash : UInt64) : FastPathResult :=
  {r with outputHash}

/-! DifferentialVerifier: what two results are compared by. -/

structure DecisionPathSnapshot where
  producedIntent : Bool := false
  producedPlan : Bool := false
  fallbackRequired : Bool := false
  rejectReason : FastPathRejectReason := .none
  intentStatus : IntentStatus := .candidateOnly
  riskRejectReason : RiskRejectReason := .none
  bundleId : UInt64 := 0
  bundleQty : Int := 0
  totalCostTick : Int := 0
  unitEdgeTick : Int := 0
  totalEdgeTick : Int := 0
  edgeBps : Int := 0
  orderCount : Nat := 0
  decisionHash : UInt64 := 0
  planId : UInt64 := 0
  opportunityHash : UInt64 := 0
  riskHash : UInt64 := 0
  planHash : UInt64 := 0
  combinedHash : UInt64 := 0
  semanticHash : UInt64 := 0
  deriving DecidableEq, Repr

def mixReason (h : UInt64) (reason : FastPathRejectReason) : UInt64 := mixByte h (UInt64.ofNat reason.ctorIdx)
def semanticHash (s : DecisionPathSnapshot) : UInt64 :=
  let h := [s.producedIntent,s.producedPlan,s.fallbackRequired].foldl mixBool Fnv.offset
  let h := mixByte (mixByte (mixReason h s.rejectReason) (UInt64.ofNat s.intentStatus.ctorIdx))
    (UInt64.ofNat s.riskRejectReason.ctorIdx)
  let h := [s.bundleQty,s.totalCostTick,s.unitEdgeTick,s.totalEdgeTick,s.edgeBps].foldl mixI64
    (mixU64 h s.bundleId)
  nonzeroHash (mixNat h s.orderCount)
def opportunityHash (s : DecisionPathSnapshot) : UInt64 :=
  let h := [s.producedIntent,s.fallbackRequired].foldl mixBool (mixByte Fnv.offset 1)
  let h := mixByte (mixReason h s.rejectReason) (UInt64.ofNat s.intentStatus.ctorIdx)
  nonzeroHash ([s.bundleQty,s.totalCostTick,s.unitEdgeTick,s.totalEdgeTick,s.edgeBps].foldl mixI64
    (mixU64 h s.bundleId))
def riskHash (s : DecisionPathSnapshot) : UInt64 :=
  let h := [s.producedIntent,s.producedPlan].foldl mixBool (mixByte Fnv.offset 2)
  let h := mixU64 (mixByte h (UInt64.ofNat s.riskRejectReason.ctorIdx)) s.bundleId
  nonzeroHash ([s.bundleQty,s.totalEdgeTick,s.edgeBps].foldl mixI64 h)
def planHash (s : DecisionPathSnapshot) : UInt64 :=
  nonzeroHash (mixNat (mixU64 (mixBool (mixByte Fnv.offset 3) s.producedPlan) s.bundleId) s.orderCount)
def combinedHash (s : DecisionPathSnapshot) : UInt64 :=
  nonzeroHash ([s.opportunityHash,s.riskHash,s.planHash].foldl mixU64 (mixByte Fnv.offset 4))
def finalize (s : DecisionPathSnapshot) : DecisionPathSnapshot :=
  let s := {s with opportunityHash := opportunityHash s, riskHash := riskHash s, planHash := planHash s}
  {s with combinedHash := combinedHash s, semanticHash := semanticHash s}

def snapshotFromFastResult (r : FastPathResult) : DecisionPathSnapshot :=
  finalize
    { producedIntent := r.intent.intentId ≠ 0 ∨ r.intent.bundleId ≠ 0
      producedPlan := r.producedPlan
      fallbackRequired := r.fallbackRequired
      rejectReason := r.rejectReason
      intentStatus := r.intent.status
      riskRejectReason := if r.fallbackRequired then .none else r.decision.rejectReason
      bundleId := r.intent.bundleId
      bundleQty := r.intent.bundleQty
      totalCostTick := r.intent.estimatedCostTick
      unitEdgeTick := r.intent.unitEdgeTick
      totalEdgeTick := r.intent.totalEdgeTick
      edgeBps := r.intent.edgeBps
      orderCount := r.plan.orders.length
      decisionHash := r.orderDecision.decisionHash
      planId := r.plan.planId }

-- The fields in the order they are compared; the last two ids only where both paths have one.
def comparedFields (fast generic : DecisionPathSnapshot) : List (String × Bool) :=
  [("opportunity_hash",fast.opportunityHash = generic.opportunityHash),
   ("risk_hash",fast.riskHash = generic.riskHash),
   ("plan_hash",fast.planHash = generic.planHash),
   ("combined_hash",fast.combinedHash = generic.combinedHash),
   ("produced_intent",fast.producedIntent = generic.producedIntent),
   ("produced_plan",fast.producedPlan = generic.producedPlan),
   ("fallback_required",fast.fallbackRequired = generic.fallbackRequired),
   ("reject_reason",fast.rejectReason = generic.rejectReason),
   ("intent_status",fast.intentStatus = generic.intentStatus),
   ("risk_reject_reason",fast.riskRejectReason = generic.riskRejectReason),
   ("bundle_id",fast.bundleId = generic.bundleId),
   ("bundle_qty",fast.bundleQty = generic.bundleQty),
   ("total_cost_tick",fast.totalCostTick = generic.totalCostTick),
   ("unit_edge_tick",fast.unitEdgeTick = generic.unitEdgeTick),
   ("total_edge_tick",fast.totalEdgeTick = generic.totalEdgeTick),
   ("edge_bps",fast.edgeBps = generic.edgeBps),
   ("order_count",fast.orderCount = generic.orderCount),
   ("decision_hash",fast.decisionHash = 0 ∨ generic.decisionHash = 0 ∨ fast.decisionHash = generic.decisionHash),
   ("plan_id",fast.planId = 0 ∨ generic.planId = 0 ∨ fast.planId = generic.planId),
   ("semantic_hash",fast.semanticHash = generic.semanticHash)]
structure DifferentialCompareResult where
  matched : Bool
  fast : DecisionPathSnapshot
  generic : DecisionPathSnapshot
  firstMismatch : String
  deriving DecidableEq, Repr
def compareDecisionSnapshots (fast generic : DecisionPathSnapshot) : DifferentialCompareResult :=
  { matched := (comparedFields fast generic).all (·.2)
    fast
    generic
    firstMismatch := (((comparedFields fast generic).find? fun field => !field.2).map (·.1)).getD "" }

def applyFastHashes (s : DecisionPathSnapshot) (r : FastPathResult) : FastPathResult :=
  {r with
    fastOpportunityHash := s.opportunityHash
    fastRiskHash := s.riskHash
    fastPlanHash := s.planHash
    fastCombinedHash := s.combinedHash}
def applyGenericHashes (s : DecisionPathSnapshot) (r : FastPathResult) : FastPathResult :=
  {r with
    genericOpportunityHash := s.opportunityHash
    genericRiskHash := s.riskHash
    genericPlanHash := s.planHash
    genericCombinedHash := s.combinedHash
    genericOutputHash := s.combinedHash}
def applyFastHashesFromResult (r : FastPathResult) : FastPathResult := applyFastHashes (snapshotFromFastResult r) r

/-! From an order decision to a plan. -/

def materializeExecutionStrings (d : OrderDecisionLite) (i : OpportunityIntent) : OpportunityIntent :=
  {i with
    idempotencyKey := if i.idempotencyKey = "" then toString i.idempotencyHash.toNat else i.idempotencyKey
    legs := i.legs.mapIdx fun k leg =>
      {leg with
        marketId := if leg.marketId = "" then "market_" ++ toString (d.legs.getD k {}).marketIndex
          else leg.marketId
        assetId := if leg.assetId = "" then "asset_" ++ toString leg.assetIndex else leg.assetId}}

def riskInput (input : EventLocalInput) (policy : RiskPolicySnapshot) (i : OpportunityIntent) : RiskInputView :=
  { intent := some i
    depthViews := input.depthViews
    snapshotVersionHash := i.snapshotVersionHash
    nowNs := input.nowNs
    policy := some policy
    ledger := input.ledger }
def makeApprovedOrderDecisionEnvelope (approved : ApprovedIntent) (d : OrderDecisionLite) :
    ApprovedOrderDecisionEnvelope :=
  { approved
    decision := d
    sourceIntentId := d.sourceIntentId
    bundleId := d.bundleId
    decisionHash := d.decisionHash
    approvalHash := computeApprovedIntentHash approved }
def planned (input : EventLocalInput) (r : FastPathResult) : FastPathResult :=
  if (r.decision.approved && r.approved.valid) = false then r
  else match ExecutionPlanner.buildDecisionPlan (makeApprovedOrderDecisionEnvelope r.approved r.orderDecision)
      input.nowNs {} with
    | .error _ => r
    | .ok plan => {r with plan, producedPlan := true}
def completeRiskAndPlan (input : EventLocalInput) (policy : RiskPolicySnapshot) (r : FastPathResult) :
    FastPathResult :=
  if r.orderDecision.type ≠ .paperOrderDecision then r
  else
    let intent := materializeExecutionStrings r.orderDecision r.intent
    let risk := (Engine.evaluateDecision {runtime := {policy := some policy}} intent r.orderDecision
      (riskInput input policy intent) false).2
    let approved :=
      if risk.reservation.reservationId ≠ 0 then
        {risk.approvedIntent with reservationIdHash := UInt64.ofNat risk.reservation.reservationId}
      else risk.approvedIntent
    planned input {r with intent, decision := risk.decision, approved}

/-! What a result of the kernel may do. -/

def mixInput (input : EventLocalInput) : UInt64 :=
  [input.currentTrueMask,input.currentFalseMask].foldl mixU64 (mixNat Fnv.offset input.dirtyAssetIndex)
def fallbackResult (input : EventLocalInput) (reason : FastPathRejectReason) (mode : FastPathMode) :
    FastPathResult :=
  { mode
    fallbackRequired := true
    genericVerificationRequired := true
    rejectReason := reason
    outputHash := nonzeroHash (mixReason (mixByte (mixInput input) 1) reason) }

def samplingDraws (rate : SampleRate) (outputHash : UInt64) : Bool :=
  ((outputHash.toNat % 1000000 : Nat) : Int) < (Binary64.roundNearest (rate.clamped * 1000000)).ceil
def withFlags (publish reservation verification authoritative : Bool) (r : FastPathResult) : FastPathResult :=
  {r with
    publishAllowed := publish
    reservationAllowed := reservation
    genericVerificationRequired := verification
    authoritative
    sampleVerificationRequired := false}
def applyRolloutPolicy (fastPath : FastPathConfig) (r : FastPathResult) : FastPathResult :=
  let r := {r with mode := fastPath.mode}
  if r.fallbackRequired then withFlags false false true false r
  else match fastPath.mode with
    | .disabled => withFlags false false true false r
    | .shadowCompare => withFlags false false true false r
    | .verifiedPaper => withFlags r.producedPlan false true false r
    | .paperAuthoritative =>
      let sampled := r.producedPlan && fastPath.sampleVerifyRate.positive &&
        samplingDraws fastPath.sampleVerifyRate r.outputHash
      {withFlags r.producedPlan r.producedPlan sampled r.producedPlan r with sampleVerificationRequired := sampled}

def makeOutputHash (k : FastKernelResult) : UInt64 :=
  let h := [true,k.producedOrderDecision,false,false].foldl mixBool Fnv.offset
  let h := mixByte (mixReason h .none) (UInt64.ofNat k.riskRejectReason.ctorIdx)
  let h := [k.intent.intentId,k.intent.bundleId,k.intent.snapshotVersionHash].foldl mixU64 h
  let h := [k.bundleQty,k.totalCostTick,k.unitEdgeTick,k.totalEdgeTick,k.edgeBps].foldl mixI64 h
  nonzeroHash (mixU64 h k.orderDecision.decisionHash)
-- A kernel never produces a plan; a fallback and the empty result carry no hash of their own.
def pipelineOutputHash (input : EventLocalInput) (kernelHash : UInt64) (fallback : Bool)
    (reason : FastPathRejectReason) : UInt64 :=
  nonzeroHash (mixReason ([false,fallback].foldl mixBool (mixU64 (mixInput input) kernelHash)) reason)

def clearReservation (r : FastPathResult) : FastPathResult :=
  {r with approved := {r.approved with reservationId := "", reservationIdHash := 0}}
def settleReservation (r : FastPathResult) : FastPathResult :=
  if r.reservationAllowed ∧ r.plan.reservationId ≠ 0 then
    {r with approved := {r.approved with decision := r.decision, reservationIdHash := r.plan.reservationId}}
  else clearReservation r
def rejectedDecision (i : OpportunityIntent) (reason : RiskRejectReason) (policy : RiskPolicySnapshot) :
    RiskDecision :=
  { status := .rejected
    rejectReason := reason
    intentId := i.intentId
    bundleId := i.bundleId
    idempotencyHash := i.idempotencyHash
    oracleArtifactHash := i.oracleArtifactHash
    constraintHash := i.constraintHash
    bundleHash := i.bundleHash
    snapshotVersionHash := i.snapshotVersionHash
    policyVersion := policy.policyVersion
    policyHash := policy.policyHash }
-- The age of a snapshot is the caller's business here, so its limit is lifted on both paths.
def skewLifted (policy : RiskPolicySnapshot) : RiskPolicySnapshot := {policy with maxSnapshotSkewNs := i64Max}
def kernelDecided (input : EventLocalInput) (policy : RiskPolicySnapshot) (k : FastKernelResult) :
    FastPathResult :=
  let r : FastPathResult := {intent := k.intent, orderDecision := k.orderDecision}
  if k.producedOrderDecision then completeRiskAndPlan input (skewLifted policy) r
  else {r with decision := rejectedDecision k.intent k.riskRejectReason policy}
def kernelPath (input : EventLocalInput) (policy : RiskPolicySnapshot) :
    Except FixedShapeKernel.FastPathRejectReason FastKernelResult → FastPathResult
  | .error reason =>
    { fallbackRequired := true
      rejectReason := kernelReason reason
      outputHash := pipelineOutputHash input 0 true (kernelReason reason) }
  | .ok k =>
    (kernelDecided input policy k).withOutputHash (pipelineOutputHash input (makeOutputHash k) false .none)
def copyKernelResult (input : EventLocalInput) (policy : RiskPolicySnapshot) (fastPath : FastPathConfig)
    (kernel : Except FixedShapeKernel.FastPathRejectReason FastKernelResult) : FastPathResult :=
  applyFastHashesFromResult (settleReservation (applyRolloutPolicy fastPath (kernelPath input policy kernel)))

def shouldVerifyGeneric (r : FastPathResult) : Bool :=
  r.genericVerificationRequired || r.sampleVerificationRequired

/-! The generic path on the intent of the chosen result. -/

structure EdgeRejects where
  byUnitEdge : Nat := 0
  byTotalEdge : Nat := 0
  byBps : Nat := 0
  deriving DecidableEq, Repr
def EdgeRejects.add (lhs rhs : EdgeRejects) : EdgeRejects :=
  ⟨lhs.byUnitEdge + rhs.byUnitEdge,lhs.byTotalEdge + rhs.byTotalEdge,lhs.byBps + rhs.byBps⟩
-- The edge counters one candidate moves; every way out before the edge leaves them alone.
def candidateRejects (config : OrderDecisionConfig) (call : DecideCall) (legs : List SizingLeg)
    (w : Walk) (q : Int) :
    EdgeRejects :=
  if q < config.bounds.minBundleQty then {}
  else match advanceIncrementalState legs call.policy.minDepthMarginBps q w.state with
    | .error _ => {}
    | .ok state => match totalCost config q state.totalLegCostTick with
      | none => {}
      | some cost =>
        if 0 < call.policy.maxTotalCostTick ∧ call.policy.maxTotalCostTick < cost then {}
        else match (checkedMulI64 (guaranteedPerBundle call) q).bind fun payout => checkedSubI64 payout cost with
          | none => {}
          | some totalEdge =>
            ⟨if totalEdge.tdiv q < call.policy.minPostRiskUnitEdgeTick then 1 else 0,
              if totalEdge < call.policy.minPostRiskTotalEdgeTick then 1 else 0,
              if ratioBps totalEdge cost < call.policy.minEdgeBps then 1 else 0⟩
def walkRejects (config : OrderDecisionConfig) (call : DecideCall) (legs : List SizingLeg) :
    Walk → List Int → EdgeRejects
  | _,[] => {}
  | w,q::rest =>
    let here := candidateRejects config call legs w q
    if (evaluateCandidate config call legs w q).candidatesExhausted then here
    else here.add (walkRejects config call legs (evaluateCandidate config call legs w q) rest)
def edgeRejects (config : OrderDecisionConfig) (call : DecideCall) : EdgeRejects :=
  match legsFor call with
  | .error _ => {}
  | .ok legs => walkRejects config call legs (startWalk legs) (candidatesFor config legs)

def riskReasonForType : OrderDecisionType → RiskRejectReason
  | .rejectLowEdge => .lowTotalEdge
  | .rejectNoDepth => .partialFillRisk
  | .rejectPartialFillRisk => .partialFillRisk
  | .rejectExpiredIntent => .expiredIntent
  | .rejectRiskBudget => .costLimit
  | _ => .invalidIntent
def riskReasonFor (reason : OrderDecisionType) (rejects : EdgeRejects) : RiskRejectReason :=
  if reason = .rejectLowEdge ∧ 0 < rejects.byUnitEdge then .lowUnitEdge
  else if reason = .rejectLowEdge ∧ 0 < rejects.byTotalEdge then .lowTotalEdge
  else if reason = .rejectLowEdge ∧ 0 < rejects.byBps then .lowEdgeBps
  else riskReasonForType reason

def genericRejected (base : FixedShapeKernel.FastPathResult) (reason : RiskRejectReason)
    (policy : RiskPolicySnapshot)
    (mode : FastPathMode) : FastPathResult :=
  { mode
    intent := base.intent
    decision := rejectedDecision base.intent reason policy
    outputHash := nonzeroHash base.intent.intentId }
def genericCompleted (input : EventLocalInput) (base : FixedShapeKernel.FastPathResult)
    (policy : RiskPolicySnapshot)
    (mode : FastPathMode) : FastPathResult :=
  let r := completeRiskAndPlan input policy {mode, intent := base.intent, orderDecision := base.orderDecision}
  r.withOutputHash (nonzeroHash (if r.producedPlan then r.plan.planId else r.orderDecision.decisionHash))
def genericDecided (input : EventLocalInput) (spec : FixedShapeKernelSpec) (call : DecideCall)
    (decided : OrderDecisionResult) (mode : FastPathMode) : FastPathResult :=
  if decided.ok = false then
    genericRejected (genericResult spec call.intent decided)
      (riskReasonFor decided.rejectReason (edgeRejects {} call))
      call.policy mode
  else genericCompleted input (genericResult spec call.intent decided) call.policy mode
def genericOrderDecisionResult (input : EventLocalInput) (spec : FixedShapeKernelSpec)
    (sourceIntent : OpportunityIntent) (policy : RiskPolicySnapshot) (mode : FastPathMode) : FastPathResult :=
  let call := genericCall spec sourceIntent input.depthViews.items policy input.nowNs
  applyFastHashesFromResult (genericDecided input spec call (engineDecide {} {} call).2 mode)

/-! One event. -/

structure FastPathRuntimeState where
  disabled : Bool := false
  mismatchCount : UInt64 := 0
  lastFastHash : UInt64 := 0
  lastGenericHash : UInt64 := 0
  lastMismatchReason : String := ""
  deriving DecidableEq, Repr

def emptyResult (input : EventLocalInput) : FastPathResult :=
  {outputHash := pipelineOutputHash input 0 false .none}
def specGate (config : EventLocalDecisionPipelineConfig) (fastPath : FastPathConfig) (spec : KernelSpec) :
    Option FastPathRejectReason :=
  if fastPath.requireKernelSpecHashMatch ∧
    spec.kernelSpecHash ≠ hashFixedShapeKernelSpec spec.toFixedShapeKernelSpec then
    some .kernelSpecHashMismatch
  else if fastPath.requireArtifactHashMatch ∧
      (config.expectedArtifactHash = 0 ∨ spec.artifactHash ≠ config.expectedArtifactHash) then
      some .artifactHashMismatch
  else if fastPath.requireArtifactHashMatch ∧
      (config.expectedConstraintHash = 0 ∨ spec.constraintHash ≠ config.expectedConstraintHash) then
    some .artifactHashMismatch
  else if config.maxSupportedLegs < spec.legs.length then some .tooManyLegs
  else none
def candidateResult (fastPath : FastPathConfig) (input : EventLocalInput) (policy : RiskPolicySnapshot)
    (spec : KernelSpec) : FastPathResult :=
  copyKernelResult input policy fastPath
    (run spec.toFixedShapeKernelSpec input.depthViews.items policy input.nowNs)
def replaces (candidate best : FastPathResult) : Bool :=
  best.intent.totalEdgeTick < candidate.intent.totalEdgeTick ∨
  candidate.intent.totalEdgeTick = best.intent.totalEdgeTick ∧ candidate.intent.bundleId < best.intent.bundleId
-- An error is a result that ends the event: a fallback of the gate or of the kernel.
def consider (config : EventLocalDecisionPipelineConfig) (fastPath : FastPathConfig) (input : EventLocalInput)
    (policy : RiskPolicySnapshot) (best : Option FastPathResult) (spec : KernelSpec) :
    Except FastPathResult (Option FastPathResult) :=
  match specGate config fastPath spec with
  | some reason => .error (fallbackResult input reason fastPath.mode)
  | none =>
    let candidate := candidateResult fastPath input policy spec
    if candidate.fallbackRequired then .error candidate
    else match best with
      | none => .ok (some candidate)
      | some best => .ok (some (if replaces candidate best then candidate else best))
def selectBest (config : EventLocalDecisionPipelineConfig) (fastPath : FastPathConfig) (input : EventLocalInput)
    (policy : RiskPolicySnapshot) (affected : List KernelSpec) : Except FastPathResult (Option FastPathResult) :=
  affected.foldlM (consider config fastPath input policy) none

def genericFor (fastPath : FastPathConfig) (input : EventLocalInput) (policy : RiskPolicySnapshot)
    (affected : List KernelSpec) (best : FastPathResult) : Option FastPathResult :=
  (affected.find? fun spec => spec.bundleId == best.intent.bundleId).map fun spec =>
    genericOrderDecisionResult input spec.toFixedShapeKernelSpec best.intent (skewLifted policy) fastPath.mode
def recordMismatch (fastPath : FastPathConfig) (diff : DifferentialCompareResult) (s : FastPathRuntimeState) :
    FastPathRuntimeState :=
  { disabled := ¬ s.mismatchCount + 1 < fastPath.maxMismatchesBeforeDisable
    mismatchCount := s.mismatchCount + 1
    lastFastHash := diff.fast.combinedHash
    lastGenericHash := diff.generic.combinedHash
    lastMismatchReason := diff.firstMismatch }
def withDiff (diff : DifferentialCompareResult) (r : FastPathResult) : FastPathResult :=
  {applyGenericHashes diff.generic (applyFastHashes diff.fast r) with genericComparisonPerformed := true}
def suppressFastOutputForMismatch (diff : DifferentialCompareResult) (best : FastPathResult) : FastPathResult :=
  {withDiff diff best with
    fallbackRequired := true
    producedPlan := false
    publishAllowed := false
    reservationAllowed := false
    authoritative := false
    mismatch := true
    mismatchReason := diff.firstMismatch
    rejectReason := .runtimeDisabled
    outputHash := diff.generic.combinedHash
    intent := {}
    decision := {}
    approved := {}
    plan := {}}
def clearNonAuthoritativeReservation (r : FastPathResult) : FastPathResult :=
  {clearReservation r with reservationAllowed := false}
def genericForMismatch (fastPath : FastPathConfig) (diff : DifferentialCompareResult) (generic : FastPathResult) :
    FastPathResult :=
  {clearNonAuthoritativeReservation (withDiff diff generic) with
    mismatch := true
    mismatchReason := diff.firstMismatch
    publishAllowed := decide (fastPath.mode = .verifiedPaper) && generic.producedPlan
    authoritative := false}
def genericForShadow (diff : DifferentialCompareResult) (generic : FastPathResult) : FastPathResult :=
  {clearNonAuthoritativeReservation (withDiff diff generic) with
    publishAllowed := false
    authoritative := false
    genericVerificationRequired := true}
def settleDiff (fastPath : FastPathConfig) (s : FastPathRuntimeState) (best generic : FastPathResult)
    (diff : DifferentialCompareResult) : FastPathRuntimeState × FastPathResult :=
  if diff.matched = false then
    if fastPath.mode = .paperAuthoritative then
      (recordMismatch fastPath diff s,suppressFastOutputForMismatch diff best)
    else (s,genericForMismatch fastPath diff generic)
  else if fastPath.mode = .shadowCompare then (s,genericForShadow diff generic)
  else (s,applyGenericHashes diff.generic {best with genericComparisonPerformed := true})
-- Without a spec of the chosen bundle the generic side is an empty snapshot, hashes included.
def verify (fastPath : FastPathConfig) (s : FastPathRuntimeState) (best : FastPathResult)
    (generic : Option FastPathResult) : FastPathRuntimeState × FastPathResult :=
  settleDiff fastPath s best (generic.getD {})
    (compareDecisionSnapshots (snapshotFromFastResult best) ((generic.map snapshotFromFastResult).getD {}))

-- The refusals that come before any spec is looked at.
def eventGate (config : EventLocalDecisionPipelineConfig) (registry : Option FixedShapeKernelRegistry)
    (s : FastPathRuntimeState) (input : EventLocalInput) :
    Except FastPathRejectReason (FixedShapeKernelRegistry × RiskPolicySnapshot) :=
  if s.disabled then .error .runtimeDisabled
  else match registry,input.policy with
    | some registry,some policy =>
      if (effectiveFastPathConfig config).mode = .disabled then .error .runtimeDisabled
      else if (effectiveFastPathConfig config).enableFixedBuyKernel = false ∨ policy.riskEnabled = false ∨
          policy.killSwitchEnabled = true then .error .policyIncompatible
      else .ok (registry,policy)
    | _,_ => .error .missingPolicy
def decideAffected (config : EventLocalDecisionPipelineConfig) (s : FastPathRuntimeState) (input : EventLocalInput)
    (policy : RiskPolicySnapshot) (affected : List KernelSpec) : FastPathRuntimeState × FastPathResult :=
  let fastPath := effectiveFastPathConfig config
  if affected = [] then
    (s,applyFastHashesFromResult
      {emptyResult input with mode := fastPath.mode, genericVerificationRequired := false})
  else if fastPath.requirePolicyHashMatch ∧
      (config.expectedPolicyHash = 0 ∨ policy.policyHash ≠ config.expectedPolicyHash) then
    (s,fallbackResult input .policyHashMismatch fastPath.mode)
  else match selectBest config fastPath input policy affected with
    | .error refused => (s,refused)
    | .ok none => (s,applyFastHashesFromResult (applyRolloutPolicy fastPath (emptyResult input)))
    | .ok (some best) =>
      if shouldVerifyGeneric best then verify fastPath s best (genericFor fastPath input policy affected best)
      else (s,best)
def process (config : EventLocalDecisionPipelineConfig) (registry : Option FixedShapeKernelRegistry)
    (s : FastPathRuntimeState) (input : EventLocalInput) : FastPathRuntimeState × FastPathResult :=
  match eventGate config registry s input with
  | .error reason => (s,fallbackResult input reason (effectiveFastPathConfig config).mode)
  | .ok (registry,policy) => decideAffected config s input policy (registry.specsForAsset input.dirtyAssetIndex)

inductive PipelineOp where
  | process (input : EventLocalInput)
  | resetRuntimeState
  deriving DecidableEq
def pipelineStep (config : EventLocalDecisionPipelineConfig) (registry : Option FixedShapeKernelRegistry)
    (s : FastPathRuntimeState) : PipelineOp → FastPathRuntimeState × Option FastPathResult
  | .process input => ((process config registry s input).1,some (process config registry s input).2)
  | .resetRuntimeState => ({},none)

end Polytope.FastPathPipeline
