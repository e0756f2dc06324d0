import Polytope.RiskEvaluation

/-! RiskEngine: one pipeline, one reservation book and the runtime context. Every
evaluation first expires old reservations and then runs the pipeline on a view whose
ledger is the runtime ledger, the caller's, or the book's own snapshot. An external
reservation book of the runtime context is the same state under another name. -/
namespace Polytope.Engine
open FixedPointMath MarketDepth RiskTypes CostRevalidator RiskGuards Reservation Pipeline RiskEvaluation
open Intent (OpportunityIntent IntentLeg OrderDecisionLite evidence kMaxOrderDecisionLegs computeOrderDecisionHash)

structure RiskRuntimeContext where
  policy : Option RiskPolicySnapshot := none
  ledger : Option RiskLedger := none
  enableFullAuditTrace : Bool := false
  deriving DecidableEq

structure RiskEvaluationContext where
  nowNs : Nat := 0
  latestSnapshots : List MarketStateSnapshot := []
  latestSnapshotVersionHash : UInt64 := 0
  policy : RiskPolicySnapshot := {}
  enableFullAuditTrace : Bool := false
  deriving DecidableEq

structure RiskEngine where
  reservations : ReservationBook := {}
  pipeline : RiskPipeline := {}
  runtime : RiskRuntimeContext := {}
  deriving DecidableEq

def ledgerFor (e : RiskEngine) (book : ReservationBook) (input : RiskInputView) : RiskLedgerSnapshot :=
  match e.runtime.ledger with
  | some ledger => ledger.snapshot
  | none => input.ledger.getD (snapshot book)
def pipelineView (e : RiskEngine) (book : ReservationBook) (input : RiskInputView) : RiskInputView :=
  {input with ledger := some (ledgerFor e book input), policy := input.policy.or e.runtime.policy}

def evaluateView (e : RiskEngine) (input : RiskInputView) (full : Bool) : RiskEngine × RiskPipelineResult :=
  let book := expireOld e.reservations input.nowNs
  let out := Pipeline.evaluateView e.pipeline (pipelineView e book input) (some book)
    (full || e.runtime.enableFullAuditTrace)
  ({e with pipeline := out.1, reservations := out.2.1.getD book},out.2.2)

def contextView (i : OpportunityIntent) (c : RiskEvaluationContext) : RiskInputView :=
  { intent := some i
    snapshots := .data (c.latestSnapshots.take (c.latestSnapshots.length % 2^16))
    snapshotVersionHash := c.latestSnapshotVersionHash
    nowNs := c.nowNs
    policy := some c.policy }
-- With a policy and no caller ledger the view overload does what this overload spells out.
def evaluate (e : RiskEngine) (i : OpportunityIntent) (c : RiskEvaluationContext) :
    RiskEngine × RiskPipelineResult :=
  evaluateView e (contextView i c) c.enableFullAuditTrace

def rejectDecision (reason : RiskRejectReason) (d : OrderDecisionLite) (input : RiskInputView) (detail : String) :
    RiskPipelineResult :=
  { decision := {makeRejectedDecision reason detail with
      intentId := d.sourceIntentId
      bundleId := d.bundleId
      oracleArtifactHash := d.oracleArtifactHash
      bundleHash := d.bundleHash
      snapshotVersionHash := d.snapshotVersionHash
      policyVersion := (input.policy.map (·.policyVersion)).getD 0
      policyHash := (input.policy.map policyHashFor).getD 0}
    result := {intentsEvaluated := 1, intentsRejected := 1} }

def legFromDecision (policy : RiskPolicySnapshot) (target : IntentLeg)
    (d : Intent.OrderDecisionLegLite) : IntentLeg :=
  {target with
    assetIndex := d.assetIndex
    side := d.side
    quantityLots := 1
    requestedQtyLots := d.quantityLots
    executableQtyLots := d.quantityLots
    depthMarginBps := max 10000 policy.minDepthMarginBps
    enoughDepth := true
    estimatedVwapTick := d.estimatedVwapTick
    worstPriceTick := d.limitPriceTick
    estimatedCostTick := d.estimatedCostTick}
def intentFromDecision (source : OpportunityIntent) (d : OrderDecisionLite) (policy : RiskPolicySnapshot) :
    OpportunityIntent :=
  {source with
    status := .paperOpportunity
    bundleId := d.bundleId
    guaranteedPayoutTick := d.guaranteedPayoutTick
    estimatedCostTick := d.estimatedTotalCostTick
    estimatedFeeTick := d.estimatedFeeTick
    latencyBufferTick := d.latencyBufferTick
    slippageBufferTick := d.slippageBufferTick
    estimatedEdgeTick := d.totalEdgeTick
    bundleQty := d.chosenBundleQty
    originalBundleQty := d.chosenBundleQty
    unitEdgeTick := d.unitEdgeTick
    totalEdgeTick := d.totalEdgeTick
    edgeBps := d.edgeBps
    snapshotVersionHash := d.snapshotVersionHash
    oracleArtifactHash := d.oracleArtifactHash
    bundleHash := d.bundleHash
    expiresAtNs := d.expiresAtNs
    enoughDepth := true
    legs := d.legs.mapIdx fun k leg => legFromDecision policy (source.legs.getD k {}) leg}

def decisionView (e : RiskEngine) (i : OpportunityIntent) (d : OrderDecisionLite) (input : RiskInputView) :
    Except RiskPipelineResult RiskInputView :=
  match input.policy.or e.runtime.policy with
  | none => .error (rejectDecision .invalidIntent d input "missing input policy")
  | some policy =>
    if d.type ≠ .paperOrderDecision then
      .error (rejectDecision .invalidIntent d input "order decision is not paper decision")
    else if d.chosenBundleQty ≤ 0 ∨ d.estimatedTotalCostTick ≤ 0 ∨ d.legs = [] ∨
        kMaxOrderDecisionLegs < d.legs.length then
      .error (rejectDecision .invalidIntent d input "invalid order decision size")
    else if d.expiresAtNs ≤ input.nowNs then
      .error (rejectDecision .expiredIntent d input "order decision expired")
    else if d.sourceIntentId ≠ i.intentId ∨ d.bundleId ≠ i.bundleId then
      .error (rejectDecision .invalidIntent d input "decision intent mismatch")
    else if d.snapshotVersionHash ≠ i.snapshotVersionHash then
      .error (rejectDecision .invalidIntent d input "decision snapshot hash mismatch")
    else if computeOrderDecisionHash d ≠ d.decisionHash then
      .error (rejectDecision .invalidIntent d input "decision hash mismatch")
    else if d.policyHash ≠ policyHashFor policy then
      .error (rejectDecision .invalidIntent d input "policy hash mismatch")
    else if 0 < policy.maxTotalCostTick ∧ policy.maxTotalCostTick < d.estimatedTotalCostTick then
      .error (rejectDecision .costLimit d input "decision cost exceeds policy")
    else if passesEdgeThresholds d.unitEdgeTick d.totalEdgeTick d.edgeBps policy = false then
      .error (rejectDecision .lowTotalEdge d input "decision edge below policy")
    else .ok {input with policy := some policy, intent := some (intentFromDecision i d policy)}
def evaluateDecision (e : RiskEngine) (i : OpportunityIntent) (d : OrderDecisionLite) (input : RiskInputView)
    (full : Bool) : RiskEngine × RiskPipelineResult :=
  match decisionView e i d input with
  | .error refused => (e,refused)
  | .ok view => evaluateView e view full
def evaluateInputDecision (e : RiskEngine) (d : OrderDecisionLite) (input : RiskInputView) (full : Bool) :
    RiskEngine × RiskPipelineResult :=
  match input.intent with
  | none => (e,rejectDecision .invalidIntent d input "missing source intent")
  | some i => evaluateDecision e i d input full

def releaseReservation (e : RiskEngine) (id : Nat) : RiskEngine :=
  {e with reservations := release e.reservations id}
def expireReservations (e : RiskEngine) (nowNs : Nat) : RiskEngine :=
  {e with reservations := expireOld e.reservations nowNs}

/-! The engine as a machine. -/

inductive EngineOp where
  | evaluate (i : OpportunityIntent) (c : RiskEvaluationContext)
  | evaluateView (input : RiskInputView) (full : Bool)
  | evaluateDecision (i : OpportunityIntent) (d : OrderDecisionLite) (input : RiskInputView) (full : Bool)
  | evaluateInputDecision (d : OrderDecisionLite) (input : RiskInputView) (full : Bool)
  | releaseReservation (id : Nat)
  | expireOld (nowNs : Nat)
  deriving DecidableEq

def engineStep (e : RiskEngine) : EngineOp → RiskEngine × Option RiskPipelineResult
  | .evaluate i c => ((evaluate e i c).1,some (evaluate e i c).2)
  | .evaluateView input full => ((evaluateView e input full).1,some (evaluateView e input full).2)
  | .evaluateDecision i d input full =>
    ((evaluateDecision e i d input full).1,some (evaluateDecision e i d input full).2)
  | .evaluateInputDecision d input full =>
    ((evaluateInputDecision e d input full).1,some (evaluateInputDecision e d input full).2)
  | .releaseReservation id => (Engine.releaseReservation e id,none)
  | .expireOld nowNs => (expireReservations e nowNs,none)

def evaluatedView (e : RiskEngine) : EngineOp → Option RiskInputView
  | .evaluate i c => some (contextView i c)
  | .evaluateView input _ => some input
  | .evaluateDecision i d input _ => (decisionView e i d input).toOption
  | .evaluateInputDecision d input _ => input.intent.bind fun i => (decisionView e i d input).toOption
  | .releaseReservation _ => none
  | .expireOld _ => none

abbrev EngineLog := List (EngineOp × Option RiskPipelineResult)
def runEngine (runtime : RiskRuntimeContext) (ops : List EngineOp) : RiskEngine × EngineLog :=
  Machine.run engineStep {runtime} [] ops

theorem decisionRejected {reason d input detail}
    (own : reason ≠ .duplicateIntent ∧ reason ≠ .duplicateReservation ∧ reason ≠ .approvalRateLimit) :
    Refused (rejectDecision reason d input detail) ∧ Unmarked (rejectDecision reason d input detail) :=
  ⟨⟨rfl,own⟩,rfl,rfl⟩

theorem decisionViewRefused {e i d input r} (h : decisionView e i d input = .error r) : Refused r ∧
    Unmarked r := by
  unfold decisionView at h
  cases found : input.policy.or e.runtime.policy with
  | none =>
    rw [found] at h
    cases h
    exact decisionRejected (by decide)
  | some policy =>
    rw [found] at h
    repeat
      rcases Machine.guardError h with rfl | h
      · exact decisionRejected (by decide)
    cases h

theorem evaluatedKeepsBook {p input book p' book' r} (h : Evaluated p input (some book) p' book' r) :
    ∃ kept, book' = some kept := by
  generalize own : some book = start at h
  cases h <;> subst own <;> exact ⟨_,rfl⟩

-- Everything one operation can do to the engine.
inductive Stepped (e : RiskEngine) (op : EngineOp) : RiskEngine → Option RiskPipelineResult → Prop where
  | evaluated {input p book r} (view : evaluatedView e op = some input)
      (evaluation : Evaluated e.pipeline (pipelineView e (Reservation.expireOld e.reservations input.nowNs) input)
        (some (Reservation.expireOld e.reservations input.nowNs)) p (some book) r) :
      Stepped e op {e with pipeline := p, reservations := book} (some r)
  | refused {r} (view : evaluatedView e op = none) (refused : Refused r) (unmarked : Unmarked r) :
    Stepped e op e (some r)
  | released {id} (same : op = .releaseReservation id) : Stepped e op (Engine.releaseReservation e id) none
  | expired {nowNs} (same : op = .expireOld nowNs) : Stepped e op (expireReservations e nowNs) none

theorem evaluateViewStepped {e op input} (full) (view : evaluatedView e op = some input) :
    Stepped e op (evaluateView e input full).1 (some (evaluateView e input full).2) := by
  have evaluation := evaluateViewEvaluated e.pipeline
    (pipelineView e (Reservation.expireOld e.reservations input.nowNs) input)
    (some (Reservation.expireOld e.reservations input.nowNs)) (full || e.runtime.enableFullAuditTrace)
  obtain ⟨book,same⟩ := evaluatedKeepsBook evaluation
  rw [same] at evaluation
  simp only [evaluateView,same,Option.getD_some]
  exact .evaluated view evaluation

theorem evaluateDecisionStepped {e op i d input} (full)
    (view : evaluatedView e op = (decisionView e i d input).toOption) :
    Stepped e op (evaluateDecision e i d input full).1 (some (evaluateDecision e i d input full).2) := by
  unfold evaluateDecision
  cases found : decisionView e i d input with
  | error r =>
    obtain ⟨refused,unmarked⟩ := decisionViewRefused found
    exact .refused (by rw [view,found]; rfl) refused unmarked
  | ok ready => exact evaluateViewStepped full (by rw [view,found]; rfl)

theorem engineStepStepped (e op) : Stepped e op (engineStep e op).1 (engineStep e op).2 := by
  cases op with
  | evaluate i c => exact evaluateViewStepped c.enableFullAuditTrace rfl
  | evaluateView input full => exact evaluateViewStepped full rfl
  | evaluateDecision i d input full => exact evaluateDecisionStepped full rfl
  | evaluateInputDecision d input full =>
    simp only [engineStep,evaluateInputDecision]
    cases intent : input.intent with
    | none =>
      exact .refused (by simp [evaluatedView,intent]) ⟨rfl,by simp [rejectDecision,makeRejectedDecision]⟩
        ⟨rfl,rfl⟩
    | some i => exact evaluateDecisionStepped full (by simp [evaluatedView,intent])
  | releaseReservation id => exact .released rfl
  | expireOld nowNs => exact .expired rfl

theorem engineConsistent {e op} (ok : ReservationLedger.Consistent e.reservations) :
    ReservationLedger.Consistent (engineStep e op).1.reservations := by
  have stepped := engineStepStepped e op
  generalize engineStep e op = out at *
  obtain ⟨e',answer⟩ := out
  cases stepped with
  | released _ => exact ReservationLedger.releaseConsistent ok _
  | expired _ => exact ReservationLedger.expireOldConsistent ok _
  | refused _ _ _ => exact ok
  | evaluated view evaluation =>
    have expired := ReservationLedger.expireOldConsistent ok
    cases evaluation with
    | early _ _ => exact expired _
    | duplicate _ _ _ _ _ => exact expired _
    | rateLimited _ _ _ _ _ _ _ => exact expired _
    | later _ _ _ _ _ _ => exact expired _
    | unreserved _ _ _ _ _ _ _ _ => exact expired _
    | approved _ _ _ _ same _ _ _ _ _ _ _ =>
      cases Option.some.inj same
      exact ReservationLedger.tryReserveConsistent (expired _)

/-! What an operation brings with it, whether or not it gets as far as the pipeline. -/

def opIntent : EngineOp → Option OpportunityIntent
  | .evaluate i _ => some i
  | .evaluateView input _ => input.intent
  | .evaluateDecision i _ _ _ => some i
  | .evaluateInputDecision _ input _ => input.intent
  | .releaseReservation _ => none
  | .expireOld _ => none
def opNowNs : EngineOp → Nat
  | .evaluate _ c => c.nowNs
  | .evaluateView input _ => input.nowNs
  | .evaluateDecision _ _ input _ => input.nowNs
  | .evaluateInputDecision _ input _ => input.nowNs
  | .releaseReservation _ => 0
  | .expireOld nowNs => nowNs
def opPolicy (runtime : RiskRuntimeContext) : EngineOp → RiskPolicySnapshot
  | .evaluate _ c => c.policy
  | .evaluateView input _ => (input.policy.or runtime.policy).getD {}
  | .evaluateDecision _ _ input _ => (input.policy.or runtime.policy).getD {}
  | .evaluateInputDecision _ input _ => (input.policy.or runtime.policy).getD {}
  | .releaseReservation _ => {}
  | .expireOld _ => {}

theorem decisionViewShape {e i d input view} (h : decisionView e i d input = .ok view) :
    ∃ policy, input.policy.or e.runtime.policy = some policy ∧
      view = {input with policy := some policy, intent := some (intentFromDecision i d policy)} := by
  unfold decisionView at h
  cases found : input.policy.or e.runtime.policy with
  | none =>
    rw [found] at h
    cases h
  | some policy =>
    rw [found] at h
    repeat replace h := (Machine.guardOk h).2
    cases h
    exact ⟨policy,rfl,rfl⟩

theorem evaluatedViewShape {e op input} (view : evaluatedView e op = some input) :
    input.nowNs = opNowNs op ∧ (input.policy.or e.runtime.policy).getD {} = opPolicy e.runtime op ∧
    ∀ i, input.intent = some i → (opIntent op).map evidence = some (evidence i) := by
  have decided : ∀ i d (given : RiskInputView), (decisionView e i d given).toOption = some input →
      input.nowNs = given.nowNs ∧
      (input.policy.or e.runtime.policy).getD {} = (given.policy.or e.runtime.policy).getD {} ∧
      ∀ j, input.intent = some j → evidence i = evidence j := by
    intro i d given ready
    cases found : decisionView e i d given with
    | error r =>
      rw [found] at ready
      cases ready
    | ok v =>
      rw [found] at ready
      cases ready
      obtain ⟨policy,chosen,rfl⟩ := decisionViewShape found
      refine ⟨rfl,by simp [chosen],?_⟩
      intro j same
      cases same
      rfl
  cases op with
  | evaluate i c =>
    cases view
    refine ⟨rfl,rfl,?_⟩
    intro j same
    cases same
    rfl
  | evaluateView given full =>
    cases view
    exact ⟨rfl,rfl,fun i same => by simp [opIntent,same]⟩
  | evaluateDecision i d given full =>
    obtain ⟨now,policy,same⟩ := decided i d given view
    exact ⟨now,policy,fun j here => by simp [opIntent,same j here]⟩
  | evaluateInputDecision d given full =>
    obtain ⟨i,here,ready⟩ := Option.bind_eq_some_iff.mp view
    obtain ⟨now,policy,same⟩ := decided i d given ready
    exact ⟨now,policy,fun j there => by simp [opIntent,here,same j there]⟩
  | releaseReservation id => cases view
  | expireOld nowNs => cases view

end Polytope.Engine
