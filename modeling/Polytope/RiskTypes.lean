import Polytope.Intent
import Polytope.Binary64

/-! Risk's vocabulary: decision types and reject reasons, the policy snapshot with its
hash, the decision record, the audit trace and the per-evaluation counters. Wall-clock
stage timings are not modelled. -/
namespace Polytope.RiskTypes
open Intent (OpportunityIntent)

inductive RiskDecisionStatus where | rejected | approved
  deriving DecidableEq, Repr

-- Approve is an alias of Pass in the source.
inductive RiskDecisionType where
  | pass | rejectKillSwitch | rejectExpiredIntent | rejectDuplicateIntent | rejectRateLimited
  | rejectBadMarketState | rejectStaleSnapshot | rejectInsufficientDepth | rejectCostDrift
  | rejectReducedBundleQty | rejectLowTotalEdge | rejectLowUnitEdge | rejectLowEdgeBps
  | rejectCostLimit | rejectTotalExposureLimit | rejectSingleMarketExposureLimit
  | rejectInventoryLimit | rejectPartialFillRisk | rejectInternalError
  deriving DecidableEq, Repr

inductive RiskRejectReason where
  | none | notEvaluated | riskDisabled | killSwitch | lowTotalEdge | lowUnitEdge | lowEdgeBps
  | costLimit | singleMarketExposureLimit | totalExposureLimit | inventoryLimit | badMarketState
  | staleBook | expiredIntent | snapshotSkew | costDrift | slippageLimit | pendingIntentLimit
  | approvalRateLimit | missingReservation | invalidIntent | missingEvidence | duplicateIntent
  | duplicateReservation | partialFillRisk | internalError
  deriving DecidableEq, Repr

inductive RiskVWAPMode where | reusedSignalCost | reuseSignalSnapshot | recomputedFromSnapshot
  deriving DecidableEq, Repr

def rejectReasonFor : RiskDecisionType → RiskRejectReason
  | .pass => .none
  | .rejectKillSwitch => .killSwitch
  | .rejectExpiredIntent => .expiredIntent
  | .rejectDuplicateIntent => .duplicateIntent
  | .rejectRateLimited => .approvalRateLimit
  | .rejectBadMarketState => .badMarketState
  | .rejectStaleSnapshot => .staleBook
  | .rejectInsufficientDepth | .rejectReducedBundleQty => .costLimit
  | .rejectCostDrift => .costDrift
  | .rejectLowTotalEdge => .lowTotalEdge
  | .rejectLowUnitEdge => .lowUnitEdge
  | .rejectLowEdgeBps => .lowEdgeBps
  | .rejectCostLimit => .costLimit
  | .rejectTotalExposureLimit => .totalExposureLimit
  | .rejectSingleMarketExposureLimit => .singleMarketExposureLimit
  | .rejectInventoryLimit => .inventoryLimit
  | .rejectPartialFillRisk => .partialFillRisk
  | .rejectInternalError => .internalError

structure QuoteRiskPolicy where
  quoteRiskEnabled : Bool := true
  quoteKillSwitchEnabled : Bool := false
  maxQuoteQtyLots : Int := 0
  maxQuoteNotionalTick : Int := 0
  maxAssetInventoryLots : Int := 0
  minEdgeToFairTick : Int := 0
  minBookSpreadTick : Int := 0
  maxBookSpreadTick : Int := 0
  maxBookSpreadBps : Int := 0
  maxQuoteFairDeviationTick : Int := 0
  maxQuoteFairDeviationBps : Int := 0
  maxCanonicalYesExposureLots : Int := 0
  maxPortfolioTouchExposureLots : Int := 0
  maxSpotAgeMs : Nat := 1500
  maxVolAgeMs : Nat := 60000
  minExternalConfidenceBps : Int := 0
  maxQuoteAgeNs : Nat := 1000000000
  maxBookAgeNs : Nat := 1000000000
  minReplaceIntervalNs : Nat := 100000000
  maxActiveQuotesPerAsset : Nat := 2
  allowBidQuotes : Bool := true
  allowAskQuotes : Bool := true
  rewardEligibilityRequired : Bool := false
  rewardMaxSpreadTick : Int := 0
  rewardMinQuoteSizeLots : Int := 0
  allowRewardExemptionForReduceOnly : Bool := true
  deriving DecidableEq, Repr

structure RiskPolicySnapshot where
  policyVersion : Nat := 1
  policyHash : UInt64 := 0
  riskEnabled : Bool := true
  killSwitchEnabled : Bool := false
  minPostRiskTotalEdgeTick : Int := 0
  minPostRiskUnitEdgeTick : Int := 0
  minEdgeBps : Int := 0
  maxTotalCostTick : Int := 0
  maxSingleMarketExposureTick : Int := 0
  maxTotalExposureTick : Int := 0
  maxInventoryLotsPerAsset : Int := 0
  maxBookAgeNs : Int := 1000000000
  maxIntentAgeNs : Int := 1000000000
  maxSnapshotSkewNs : Int := 0
  maxAllowedCostDriftTick : Int := 0
  maxSlippageTick : Int := 0
  maxUnhedgedLossTick : Int := 0
  minDepthMarginRatio : Binary64.Double := ⟨0x3FF3333333333333⟩ -- 1.20
  minDepthMarginBps : Int := 12000
  maxPendingIntentsPerBundle : Nat := 1
  maxPendingIntentsTotal : Nat := 1024
  maxApprovalsPerSecond : Nat := 100
  quoteRisk : QuoteRiskPolicy := {}
  deriving DecidableEq, Repr

open Fnv in
def computePolicyHash (p : RiskPolicySnapshot) : UInt64 :=
  let h := mixNat offset p.policyVersion
  let h := [p.riskEnabled,p.killSwitchEnabled].foldl mixBool h
  let h := [p.minPostRiskTotalEdgeTick,p.minPostRiskUnitEdgeTick,p.minEdgeBps,p.maxTotalCostTick,
    p.maxSingleMarketExposureTick,p.maxTotalExposureTick,p.maxInventoryLotsPerAsset,p.maxBookAgeNs,
    p.maxIntentAgeNs,p.maxSnapshotSkewNs,p.maxAllowedCostDriftTick,p.maxSlippageTick,
    p.maxUnhedgedLossTick].foldl mixI64 h
  let h := mixI64 (mixU64 h p.minDepthMarginRatio.bits) p.minDepthMarginBps
  let h := [p.maxPendingIntentsPerBundle,p.maxPendingIntentsTotal,p.maxApprovalsPerSecond].foldl mixNat h
  let q := p.quoteRisk
  let h := [q.quoteRiskEnabled,q.quoteKillSwitchEnabled].foldl mixBool h
  let h := [q.maxQuoteQtyLots,q.maxQuoteNotionalTick,q.maxAssetInventoryLots,q.minEdgeToFairTick,
    q.minBookSpreadTick,q.maxBookSpreadTick,q.maxBookSpreadBps,q.maxQuoteFairDeviationTick,
    q.maxQuoteFairDeviationBps,q.maxCanonicalYesExposureLots,
    q.maxPortfolioTouchExposureLots].foldl mixI64 h
  let h := mixI64 ([q.maxSpotAgeMs,q.maxVolAgeMs].foldl mixNat h) q.minExternalConfidenceBps
  let h := [q.maxQuoteAgeNs,q.maxBookAgeNs,q.minReplaceIntervalNs,q.maxActiveQuotesPerAsset].foldl mixNat h
  let h := [q.allowBidQuotes,q.allowAskQuotes,q.rewardEligibilityRequired].foldl mixBool h
  let h := [q.rewardMaxSpreadTick,q.rewardMinQuoteSizeLots].foldl mixI64 h
  mixBool h q.allowRewardExemptionForReduceOnly

def policyHashFor (p : RiskPolicySnapshot) : UInt64 :=
  if p.policyHash ≠ 0 then p.policyHash else computePolicyHash p

def passesEdgeThresholds (unitEdge totalEdge edgeBps : Int) (p : RiskPolicySnapshot) : Bool :=
  p.minPostRiskTotalEdgeTick ≤ totalEdge ∧ p.minPostRiskUnitEdgeTick ≤ unitEdge ∧ p.minEdgeBps ≤ edgeBps

structure RiskDecision where
  status : RiskDecisionStatus := .rejected
  rejectReason : RiskRejectReason := .notEvaluated
  decisionId : UInt64 := 0
  intentId : UInt64 := 0
  bundleId : UInt64 := 0
  idempotencyHash : UInt64 := 0
  oracleArtifactHash : UInt64 := 0
  constraintHash : UInt64 := 0
  bundleHash : UInt64 := 0
  snapshotVersionHash : UInt64 := 0
  policyVersion : Nat := 0
  policyHash : UInt64 := 0
  rejectDetail : String := ""
  deriving DecidableEq, Repr

def RiskDecision.approved (d : RiskDecision) : Bool := d.status = .approved ∧ d.rejectReason = .none
def makeRejectedDecision (reason : RiskRejectReason) (detail : String) : RiskDecision :=
  {status := .rejected, rejectReason := reason, rejectDetail := detail}
def makeApprovedDecision (policyVersion : Nat) (policyHash : UInt64) : RiskDecision :=
  {status := .approved, rejectReason := .none, policyVersion, policyHash}
def attachDecisionEvidence (d : RiskDecision) (i : OpportunityIntent) : RiskDecision :=
  {d with
    intentId := i.intentId, bundleId := i.bundleId, idempotencyHash := i.idempotencyHash
    oracleArtifactHash := i.oracleArtifactHash, constraintHash := i.constraintHash
    bundleHash := i.bundleHash, snapshotVersionHash := i.snapshotVersionHash}

structure ApprovedIntent where
  intent : OpportunityIntent := {}
  decision : RiskDecision := {}
  reservationId : String := ""
  reservationIdHash : UInt64 := 0
  approvedAtNs : Nat := 0
  expiresAtNs : Nat := 0
  deriving DecidableEq, Repr
def ApprovedIntent.hasReservation (a : ApprovedIntent) : Bool :=
  a.reservationIdHash ≠ 0 ∨ a.reservationId.isEmpty = false
def ApprovedIntent.valid (a : ApprovedIntent) : Bool := a.decision.approved && a.hasReservation

inductive RiskAuditStepCode where
  | killSwitchGuard | intentValidator | evidenceVerifier | expiryGuard | duplicateGuard
  | rateLimitGuard | marketStateGuard | snapshotFreshnessGuard | costRevalidator | edgeGuard
  | maxLossGuard | exposureGuard | inventoryGuard | partialFillGuard | reservationBook
  deriving DecidableEq, Repr
def kMaxRiskAuditSteps : Nat := 16

structure RiskAuditStepLite where
  step : RiskAuditStepCode
  pass : Bool
  rejection : RiskDecisionType
  detailCode : Nat
  deriving DecidableEq, Repr
structure RiskAuditStep where
  guardName : String
  pass : Bool
  rejection : RiskDecisionType
  reason : String
  deriving DecidableEq, Repr
structure RiskAuditTrace where
  traceId : UInt64 := 0
  decisionId : UInt64 := 0
  intentId : UInt64 := 0
  bundleId : UInt64 := 0
  policyVersion : Nat := 0
  policyHash : UInt64 := 0
  decision : RiskDecision := {}
  liteDecisionId : UInt64 := 0
  lite : List RiskAuditStepLite := []
  steps : List RiskAuditStep := []
  deriving DecidableEq, Repr

def riskAuditStepName : RiskAuditStepCode → String
  | .killSwitchGuard => "KillSwitchGuard"
  | .intentValidator => "IntentValidator"
  | .evidenceVerifier => "IntentEvidenceVerifier"
  | .expiryGuard => "IntentExpiryGuard"
  | .duplicateGuard => "DuplicateIntentGuard"
  | .rateLimitGuard => "RateLimitGuard"
  | .marketStateGuard => "MarketStateGuard"
  | .snapshotFreshnessGuard => "SnapshotFreshnessGuard"
  | .costRevalidator => "CostRevalidator"
  | .edgeGuard => "EdgeGuard"
  | .maxLossGuard => "MaxLossGuard"
  | .exposureGuard => "ExposureGuard"
  | .inventoryGuard => "InventoryGuard"
  | .partialFillGuard => "PartialFillGuard"
  | .reservationBook => "ReservationBook.try_reserve"

inductive RejectBucket where
  | killSwitch | lowEdge | costLimit | exposureLimit | inventoryLimit | badMarketState
  | staleOrExpired | snapshotFreshness | driftOrSlippage | pendingOrRateLimit | partialFillRisk
  deriving DecidableEq, Repr
inductive RejectMetric where
  | invalidIntent | expired | duplicate | killSwitch | staleBook | insufficientDepth | costDrift
  | lowEdge | exposure | inventory | partialFill | rateLimited
  deriving DecidableEq, Repr

structure RiskResult where
  intentsEvaluated : Nat := 0
  intentsApproved : Nat := 0
  intentsRejected : Nat := 0
  rejectedIn : Option RejectBucket := none
  rejectMetric : Option RejectMetric := none
  vwapReusedSignalCost : Nat := 0
  vwapReusedSignalSnapshot : Nat := 0
  vwapRecomputed : Nat := 0
  snapshotFastPath : Nat := 0
  snapshotRequery : Nat := 0
  reservationCreated : Nat := 0
  outputHash : UInt64 := 0
  deriving DecidableEq, Repr

def rejectBucket : RiskRejectReason → Option (RejectBucket × RejectMetric)
  | .killSwitch => some (.killSwitch,.killSwitch)
  | .lowTotalEdge | .lowUnitEdge | .lowEdgeBps => some (.lowEdge,.lowEdge)
  | .costLimit => some (.costLimit,.insufficientDepth)
  | .singleMarketExposureLimit | .totalExposureLimit => some (.exposureLimit,.exposure)
  | .inventoryLimit => some (.inventoryLimit,.inventory)
  | .badMarketState => some (.badMarketState,.staleBook)
  | .staleBook => some (.staleOrExpired,.staleBook)
  | .expiredIntent => some (.staleOrExpired,.expired)
  | .snapshotSkew => some (.snapshotFreshness,.staleBook)
  | .costDrift | .slippageLimit => some (.driftOrSlippage,.costDrift)
  | .pendingIntentLimit | .approvalRateLimit => some (.pendingOrRateLimit,.rateLimited)
  | .duplicateIntent | .duplicateReservation => some (.pendingOrRateLimit,.duplicate)
  | .partialFillRisk => some (.partialFillRisk,.partialFill)
  | .invalidIntent | .missingEvidence | .internalError => some (.badMarketState,.invalidIntent)
  | .none | .notEvaluated | .riskDisabled | .missingReservation => none

def recordRejectReason (reason : RiskRejectReason) (r : RiskResult) : RiskResult :=
  {r with
    intentsRejected := r.intentsRejected + 1
    rejectedIn := (rejectBucket reason).map Prod.fst
    rejectMetric := (rejectBucket reason).map Prod.snd}

end Polytope.RiskTypes
