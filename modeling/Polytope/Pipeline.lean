import Polytope.RiskGuards

/-! RiskPipeline::evaluate_view, stage by stage. The fifteen checks fall into four parts:
entry checks without state, the duplicate and rate guards whose state survives a later
rejection, the market and cost checks, and the reservation attempt. Every stage records an
audit step; a failing one ends the evaluation with a rejected decision. Publishers and
stage timings are not modelled. -/
namespace Polytope.Pipeline
open FixedPointMath MarketDepth RiskTypes CostRevalidator RiskGuards Reservation
open Intent (OpportunityIntent IntentLeg)

-- A pointer with a count: a null pointer reads as empty, but is refused with a positive count.
inductive Buffer (α : Type) where
  | null (count : Nat)
  | data (items : List α)
  deriving DecidableEq, Repr
def Buffer.items {α : Type} : Buffer α → List α
  | .null _ => []
  | .data items => items
def Buffer.dangling {α : Type} : Buffer α → Bool
  | .null count => 0 < count
  | .data _ => false

structure RiskInputView where
  intent : Option OpportunityIntent := none
  snapshots : Buffer MarketStateSnapshot := .null 0
  depthViews : Buffer MarketDepthView := .null 0
  snapshotVersionHash : UInt64 := 0
  nowNs : Nat := 0
  policy : Option RiskPolicySnapshot := none
  ledger : Option RiskLedgerSnapshot := none
  deriving DecidableEq

structure RiskPipelineResult where
  decision : RiskDecision := {}
  approvedIntent : ApprovedIntent := {}
  result : RiskResult := {}
  cost : CostRevalidationResult := {}
  reservation : ReservationResult := {}
  auditTrace : RiskAuditTrace := {}
  costRevalidated : Bool := false
  reservationAttempted : Bool := false
  outputHash : UInt64 := 0
  deriving DecidableEq, Repr

structure RiskPipeline where
  duplicateGuard : DuplicateIntentGuard := {}
  rateLimitGuard : RateLimitGuard := {maxPerSecond := 100}
  deriving DecidableEq, Repr

open Fnv in
def outputHashFor (i : OpportunityIntent) (d : RiskDecision) (cost : CostRevalidationResult)
    (reservationId : Nat) : UInt64 :=
  let h := mixU64 (mixU64 offset i.intentId) i.bundleId
  let h := [d.status.ctorIdx,d.rejectReason.ctorIdx,d.policyVersion].foldl mixNat h
  let h := mixU64 h d.policyHash
  let h := [cost.riskTotalCostTick,cost.riskBundleQty].foldl mixI64 h
  mixNat h reservationId

def shouldTrackReservationLedgerDetail (p : RiskPolicySnapshot) : Bool :=
  0 < p.maxTotalExposureTick ∨ 0 < p.maxSingleMarketExposureTick ∨ 0 < p.maxInventoryLotsPerAsset

def withDecision (r : RiskPipelineResult) (d : RiskDecision) (outputHash : UInt64) : RiskPipelineResult :=
  let d := {d with decisionId := outputHash}
  {r with
    decision := d
    outputHash
    auditTrace := {r.auditTrace with decision := d, decisionId := outputHash, liteDecisionId := outputHash}
    result := {r.result with outputHash}}
def rejectResult (i : OpportunityIntent) (reason : RiskRejectReason) (detail : String)
    (cost : CostRevalidationResult) (r : RiskPipelineResult) : RiskPipelineResult :=
  let d := attachDecisionEvidence (makeRejectedDecision reason detail) i
  let r := {r with result := recordRejectReason reason r.result, cost}
  withDecision r d (outputHashFor i d cost 0)

def initTrace (r : RiskPipelineResult) (i : OpportunityIntent) (p : RiskPolicySnapshot) : RiskPipelineResult :=
  {r with auditTrace := {r.auditTrace with
    traceId := i.intentId, intentId := i.intentId, bundleId := i.bundleId
    policyVersion := p.policyVersion, policyHash := policyHashFor p, lite := []}}
def addStep (r : RiskPipelineResult) (code : RiskAuditStepCode) (pass : Bool) (rejection : RiskDecisionType)
    (reason : String) (full : Bool) : RiskPipelineResult :=
  let t := r.auditTrace
  let lite := if t.lite.length < kMaxRiskAuditSteps then
      t.lite ++ [⟨code,pass,rejection,rejection.ctorIdx⟩]
    else t.lite
  let steps := if full then t.steps ++ [⟨riskAuditStepName code,pass,rejection,reason⟩] else t.steps
  {r with auditTrace := {t with lite, steps}}

structure Verdict where
  pass : Bool
  rejection : RiskDecisionType
  rejectReason : RiskRejectReason
  detail : String
  deriving DecidableEq, Repr
def guardVerdict (g : GuardResult) : Verdict := ⟨g.pass,g.rejection,rejectReasonFor g.rejection,g.reason⟩
def validationVerdict (v : IntentValidationResult) : Verdict := ⟨v.ok,.rejectInternalError,v.rejectReason,v.detail⟩
def costVerdict (c : CostRevalidationResult) : Verdict := ⟨c.ok,c.rejection,rejectReasonFor c.rejection,c.reason⟩
def mentionsDrift (reason : String) : Bool := reason.toList.tails.any ("drift".toList.isPrefixOf ·)
def freshnessVerdict (g : GuardResult) : Verdict :=
  {guardVerdict g with
    rejectReason := if g.rejection = .rejectStaleSnapshot ∧ mentionsDrift g.reason then .snapshotSkew
      else rejectReasonFor g.rejection}

def stage (i : OpportunityIntent) (full : Bool) (code : RiskAuditStepCode) (cost : CostRevalidationResult)
    (v : Verdict) (r : RiskPipelineResult) : Except RiskPipelineResult RiskPipelineResult :=
  if v.pass then .ok (addStep r code true .pass "" full)
  else .error (rejectResult i v.rejectReason v.detail cost (addStep r code false v.rejection v.detail full))

def effectivePolicy (input : RiskInputView) : RiskPolicySnapshot := input.policy.getD {}

def invalidView (input : RiskInputView) : Bool :=
  input.policy.isNone || input.ledger.isNone || input.snapshots.dangling || input.depthViews.dangling

def entryStages (i : OpportunityIntent) (input : RiskInputView) (full : Bool) :
    Except RiskPipelineResult RiskPipelineResult := do
  let policy := effectivePolicy input
  let r := initTrace {result := {intentsEvaluated := 1}} i policy
  if invalidView input then
    .error (rejectResult i .invalidIntent "invalid risk input view" {}
      (addStep r .intentValidator false .rejectInternalError "invalid risk input view" full))
  let r ← stage i full .killSwitchGuard {} (guardVerdict (killSwitchGuard policy.killSwitchEnabled)) r
  let r ← stage i full .intentValidator {} (validationVerdict (intentValidator i input.nowNs)) r
  let r ← stage i full .evidenceVerifier {} (validationVerdict (intentEvidenceVerifier i)) r
  stage i full .expiryGuard {} (guardVerdict (intentExpiryGuard i input.nowNs)) r

def marketStateVerdict (input : RiskInputView) (leg : IntentLeg) : Verdict :=
  match findDepthView input.depthViews.items leg with
  | some v => guardVerdict (marketStateGuardView v)
  | none => guardVerdict (marketStateGuardSnapshot (findSnapshot input.snapshots.items leg))
def freshVerdict (i : OpportunityIntent) (input : RiskInputView) (leg : IntentLeg) : Verdict :=
  match findDepthView input.depthViews.items leg with
  | some v => freshnessVerdict (depthViewFreshnessGuard v i (effectivePolicy input) input.nowNs)
  | none =>
    match findSnapshot input.snapshots.items leg with
    | some s => freshnessVerdict (snapshotFreshnessGuard s i (effectivePolicy input) input.nowNs)
    | none => guardVerdict passGuard -- not reached: the market state check refused the leg
def legStages (i : OpportunityIntent) (input : RiskInputView) (full : Bool) (r : RiskPipelineResult)
    (leg : IntentLeg) : Except RiskPipelineResult RiskPipelineResult := do
  let r ← stage i full .marketStateGuard {} (marketStateVerdict input leg) r
  stage i full .snapshotFreshnessGuard {} (freshVerdict i input leg) r

def revalidatedCost (i : OpportunityIntent) (input : RiskInputView) : CostRevalidationResult :=
  if input.depthViews.items ≠ [] then
    revalidate (depthViewSource input.depthViews.items) i
      (effectivePolicy input) input.nowNs input.snapshotVersionHash
  else
    revalidate (snapshotSource input.snapshots.items) i
      (effectivePolicy input) input.nowNs input.snapshotVersionHash
def countCostMode (cost : CostRevalidationResult) (r : RiskPipelineResult) : RiskPipelineResult :=
  let m := r.result
  {r with
    costRevalidated := true
    result := match cost.vwapMode with
      | .reuseSignalSnapshot =>
        {m with vwapReusedSignalSnapshot := 1, vwapReusedSignalCost := 1, snapshotFastPath := 1}
      | .reusedSignalCost => {m with vwapReusedSignalCost := 1, snapshotFastPath := 1}
      | .recomputedFromSnapshot => {m with vwapRecomputed := 1, snapshotRequery := 1}}

def marketStages (i : OpportunityIntent) (input : RiskInputView) (ledger : RiskLedgerSnapshot) (full : Bool)
    (r : RiskPipelineResult) : Except RiskPipelineResult RiskPipelineResult := do
  let policy := effectivePolicy input
  let r ← i.legs.foldlM (legStages i input full) r
  let cost := revalidatedCost i input
  let r ← stage i full .costRevalidator cost (costVerdict cost) (countCostMode cost r)
  let r ← stage i full .edgeGuard cost (guardVerdict (edgeGuard i cost policy).toGuardResult) r
  let r ← stage i full .maxLossGuard cost (guardVerdict (maxLossGuard i cost policy).toGuardResult) r
  let r ← stage i full .exposureGuard cost (guardVerdict (exposureGuard ledger i cost policy).toGuardResult) r
  let r ← stage i full .inventoryGuard cost (guardVerdict (inventoryGuard ledger i cost policy).toGuardResult) r
  stage i full .partialFillGuard cost (guardVerdict (partialFillGuard i cost policy).toGuardResult) r

def approvedDecision (i : OpportunityIntent) (policy : RiskPolicySnapshot) : RiskDecision :=
  attachDecisionEvidence (makeApprovedDecision policy.policyVersion (policyHashFor policy)) i
def reservationRejectReason : RiskRejectReason → RiskRejectReason
  | .duplicateReservation => .duplicateReservation
  | .expiredIntent => .expiredIntent
  | _ => .totalExposureLimit

def approveResult (i : OpportunityIntent) (input : RiskInputView) (cost : CostRevalidationResult)
    (reservation : ReservationResult) (r : RiskPipelineResult) : RiskPipelineResult :=
  let d := approvedDecision i (effectivePolicy input)
  let r := withDecision {r with cost, reservation} d (outputHashFor i d cost reservation.reservationId)
  {r with
    approvedIntent :=
      { intent := i
        decision := r.decision
        reservationId := toString reservation.reservationId
        approvedAtNs := input.nowNs
        expiresAtNs := i.expiresAtNs }
    result := {r.result with intentsApproved := 1, reservationCreated := 1}}

def reservationFor (b : ReservationBook) (i : OpportunityIntent) (input : RiskInputView) :
    ReservationBook × ReservationResult :=
  tryReserve b i (approvedDecision i (effectivePolicy input)) input.nowNs
    (shouldTrackReservationLedgerDetail (effectivePolicy input))
def reserveStage (i : OpportunityIntent) (input : RiskInputView) (full : Bool)
    (reservations : Option ReservationBook) (r : RiskPipelineResult) :
    Option ReservationBook × RiskPipelineResult :=
  let cost := revalidatedCost i input
  match reservations with
  | none => (none,rejectResult i .missingReservation "missing reservation book" cost
      (addStep r .reservationBook false .rejectInternalError "missing reservation book" full))
  | some book =>
    let attempt := reservationFor book i input
    let r := {r with reservationAttempted := true, reservation := attempt.2}
    if attempt.2.ok then
      (some attempt.1,approveResult i input cost attempt.2 (addStep r .reservationBook true .pass "" full))
    else
      (some attempt.1,rejectResult i (reservationRejectReason attempt.2.rejectReason) attempt.2.detail cost
        (addStep r .reservationBook false .rejectInternalError attempt.2.detail full))

def missingIntentResult : RiskPipelineResult :=
  let d := makeRejectedDecision .invalidIntent "missing risk input intent"
  { decision := d
    result := recordRejectReason .invalidIntent {intentsEvaluated := 1}
    auditTrace := {decision := d} }

def laterStages (i : OpportunityIntent) (input : RiskInputView) (full : Bool)
    (reservations : Option ReservationBook)
    (r : RiskPipelineResult) : Option ReservationBook × RiskPipelineResult :=
  match marketStages i input (input.ledger.getD {}) full r with
  | .error refused => (reservations,refused)
  | .ok r => reserveStage i input full reservations r

def evaluateView (p : RiskPipeline) (input : RiskInputView) (reservations : Option ReservationBook) (full : Bool) :
    RiskPipeline × Option ReservationBook × RiskPipelineResult :=
  match input.intent with
  | none => (p,reservations,missingIntentResult)
  | some i =>
    match entryStages i input full with
    | .error refused => (p,reservations,refused)
    | .ok r =>
      let (duplicateGuard,duplicate) := p.duplicateGuard.check i
      match stage i full .duplicateGuard {} (guardVerdict duplicate) r with
      | .error refused => ({p with duplicateGuard},reservations,refused)
      | .ok r =>
        let (rateLimitGuard,rate) :=
          (p.rateLimitGuard.setMaxPerSecond (effectivePolicy input).maxApprovalsPerSecond).check input.nowNs
        match stage i full .rateLimitGuard {} (guardVerdict rate) r with
        | .error refused => (⟨duplicateGuard,rateLimitGuard⟩,reservations,refused)
        | .ok r => (⟨duplicateGuard,rateLimitGuard⟩,laterStages i input full reservations r)

end Polytope.Pipeline
