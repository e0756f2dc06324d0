import Polytope.ExecutionTypes
import Polytope.Machine

/-! From an approved envelope to an order plan: deterministic plan and client order ids, one
child order per leg, and the validator both the planner and the gateway run on the plan. -/
namespace Polytope.ExecutionPlanner
open ExecutionTypes FixedPointMath
open Intent (OpportunityIntent IntentLeg OrderDecisionLegLite computeOrderDecisionHash)

def nonzero (hash : UInt64) : UInt64 := if hash = 0 then 1 else hash

open Fnv in
def makePlanId (e : ApprovedIntentEnvelope) : UInt64 :=
  let h := [e.sourceIntent.intentId,e.approval.decisionId,e.approval.reservationId,e.approval.bundleId].foldl
    mixU64 offset
  nonzero (mixString h e.approval.idempotencyKey)
open Fnv in
def makeDecisionPlanId (e : ApprovedOrderDecisionEnvelope) : UInt64 :=
  let h := [e.sourceIntentId,e.decisionHash,e.approvalHash,e.approved.decision.decisionId,
    e.approved.reservationIdHash,e.bundleId].foldl mixU64 offset
  nonzero (mixString h e.approved.intent.idempotencyKey)
open Fnv in
def makeNumericPlanId (e : ApprovedOrderDecisionEnvelope) : UInt64 :=
  nonzero ([e.sourceIntentId,e.decisionHash,e.approvalHash,e.approved.decision.decisionId,
    e.approved.reservationIdHash,e.approved.intent.idempotencyHash,e.bundleId].foldl mixU64 offset)
open Fnv in
def makeClientOrderId (planId : UInt64) (orderIndex : Nat) (idempotencyKey : String) : String :=
  toString (mixString (mixNat (mixU64 offset planId) orderIndex) idempotencyKey).toNat

def validateChildOrder (o : ChildOrder) : Except String Unit :=
  if o.orderId = 0 then .error "missing order_id"
  else if o.planId = 0 then .error "missing plan_id"
  else if o.clientOrderId = "" then .error "missing client_order_id"
  else if o.marketId = "" then .error "missing market_id"
  else if o.assetId = "" then .error "missing asset_id"
  else if o.quantityLots ≤ 0 then .error "invalid quantity_lots"
  else if o.limitPriceTick ≤ 0 then .error "invalid limit_price_tick"
  else if o.worstAllowedPriceTick ≤ 0 then .error "invalid worst_allowed_price_tick"
  else .ok ()
def maxOrders (config : ExecutionConfig) : Nat := min config.maxChildOrdersPerPlan kMaxChildOrdersPerPlan
def validateOrders (planId : UInt64) : List String → List ChildOrder → Except String Unit
  | _,[] => .ok ()
  | seen,o::rest => do
    validateChildOrder o
    if o.planId ≠ planId then .error "child plan_id mismatch"
    else if o.clientOrderId ∈ seen then .error "duplicate client_order_id"
    else validateOrders planId (o.clientOrderId::seen) rest
def validateImpl (plan : OrderPlan) (config : ExecutionConfig) (requireReservation : Bool) : Except String Unit :=
  if plan.planId = 0 then .error "missing plan_id"
  else if plan.sourceIntentId = 0 then .error "missing source_intent_id"
  else if plan.approvedIntentId = 0 then .error "missing approved_intent_id"
  else if requireReservation ∧ plan.reservationId = 0 then .error "missing reservation_id"
  else if maxOrders config = 0 ∨ plan.orders = [] ∨ maxOrders config < plan.orders.length then
    .error "invalid order_count"
  else if plan.maxTotalCostTick ≤ 0 then .error "missing max_total_cost_tick"
  else if plan.maxSlippageTick < 0 then .error "invalid max_slippage_tick"
  else if plan.idempotencyKey = "" then .error "missing idempotency_key"
  else if plan.expireAfterNs ≤ plan.createdTsNs then .error "invalid expiration"
  else if 0 < config.maxOrderAgeNs ∧
    config.maxOrderAgeNs < ((plan.expireAfterNs - plan.createdTsNs : Nat) : Int) then
    .error "ttl exceeds max_order_age_ns"
  else validateOrders plan.planId [] plan.orders
def validate (plan : OrderPlan) (config : ExecutionConfig) : Except String Unit := validateImpl plan config true
def validateDefault (plan : OrderPlan) : Except String Unit := validateImpl plan {maxOrderAgeNs := 0} true

def multiplyWouldOverflow (left right : Int) : Bool :=
  if left ≤ 0 ∨ right ≤ 0 then false else i64Max.tdiv right < left

def childOrder (plan : OrderPlan) (approvedBundleQty : Int) (index : Nat) (leg : IntentLeg) :
    Except String ChildOrder :=
  if leg.side ≠ .buy then .error "UnsupportedSide"
  else if leg.quantityLots ≤ 0 then .error "invalid leg quantity"
  else if multiplyWouldOverflow approvedBundleQty leg.quantityLots then .error "child order quantity overflow"
  else .ok
    { orderId := index + 1
      planId := plan.planId
      clientOrderId := makeClientOrderId plan.planId index plan.idempotencyKey
      marketId := leg.marketId
      assetId := leg.assetId
      assetIndex := leg.assetIndex
      side := .buy
      quantityLots := approvedBundleQty * leg.quantityLots
      limitPriceTick := leg.worstPriceTick
      estimatedVwapTick := leg.estimatedVwapTick
      worstAllowedPriceTick := leg.worstPriceTick }
def decisionChildOrder (plan : OrderPlan) (config : ExecutionConfig) (intent : OpportunityIntent) (index : Nat)
    (leg : OrderDecisionLegLite) : Except String ChildOrder :=
  if leg.side ≠ .buy then .error "UnsupportedSide"
  else if leg.quantityLots ≤ 0 ∨ leg.limitPriceTick ≤ 0 then .error "invalid decision leg"
  else
    let named := config.hotPathSkipOrderStrings = false ∧ index < intent.legs.length
    .ok
    { orderId := index + 1
      planId := plan.planId
      marketIndex := leg.marketIndex
      assetIndex := leg.assetIndex
      clientOrderId := if config.hotPathSkipOrderStrings then "" else
        makeClientOrderId plan.planId index plan.idempotencyKey
      marketId := if named then (intent.legs.getD index {}).marketId else ""
      assetId := if named then (intent.legs.getD index {}).assetId else ""
      side := .buy
      quantityLots := leg.quantityLots
      limitPriceTick := leg.limitPriceTick
      estimatedVwapTick := leg.estimatedVwapTick
      worstAllowedPriceTick := leg.limitPriceTick }
def buildOrders {α : Type} (build : Nat → α → Except String ChildOrder) : Nat → List α →
    Except String (List ChildOrder)
  | _,[] => .ok []
  | index,leg::rest => do
    let order ← build index leg
    let orders ← buildOrders build (index + 1) rest
    .ok (order::orders)

def planHeader (e : ApprovedIntentEnvelope) (nowNs : Nat) : OrderPlan :=
  { planId := makePlanId e
    sourceIntentId := e.sourceIntent.intentId
    approvedIntentId := e.approval.decisionId
    reservationId := e.approval.reservationId
    bundleId := e.sourceIntent.bundleId
    maxTotalCostTick := e.sourceIntent.estimatedCostTick
    minExpectedEdgeTick := if e.sourceIntent.totalEdgeTick ≠ 0 then e.sourceIntent.totalEdgeTick
      else e.sourceIntent.estimatedEdgeTick
    maxSlippageTick := e.sourceIntent.slippageBufferTick
    chosenBundleQty := e.approval.approvedBundleQty
    guaranteedPayoutTick := e.sourceIntent.guaranteedPayoutTick
    expectedTerminalPnlTick := e.sourceIntent.guaranteedPayoutTick - e.sourceIntent.estimatedCostTick
    createdTsNs := nowNs
    expireAfterNs := e.sourceIntent.expiresAtNs
    idempotencyKey := e.sourceIntent.idempotencyKey }
def assemblePlan (e : ApprovedIntentEnvelope) (nowNs : Nat) : Except String OrderPlan := do
  let header := planHeader e nowNs
  let orders ← buildOrders (childOrder header e.approval.approvedBundleQty) 0 e.sourceIntent.legs
  let plan := {header with orders}
  validateDefault plan
  .ok plan
def buildPlan (e : ApprovedIntentEnvelope) (nowNs : Nat) (config : ExecutionConfig) : Except String OrderPlan :=
  let intent := e.sourceIntent
  let approval := e.approval
  if approval.decisionId = 0 then .error "missing decision_id"
  else if approval.reservationId = 0 then .error "missing reservation_id"
  else if intent.status ≠ .paperOpportunity then .error "source intent is not PaperOpportunity"
  else if intent.expiresAtNs ≤ nowNs then .error "source intent expired"
  else if intent.idempotencyKey ≠ approval.idempotencyKey then .error "idempotency_key mismatch"
  else if intent.bundleId ≠ approval.bundleId then .error "bundle_id mismatch"
  else if approval.approvedBundleQty ≤ 0 then .error "invalid approved_bundle_qty"
  else if intent.legs = [] then .error "source intent has no legs"
  else if maxOrders config < intent.legs.length then .error "too many child orders"
  else assemblePlan e nowNs

def decisionPlanHeader (e : ApprovedOrderDecisionEnvelope) (nowNs : Nat) (config : ExecutionConfig) : OrderPlan :=
  { planId := if config.hotPathNumericPlanId then makeNumericPlanId e else makeDecisionPlanId e
    sourceIntentId := e.decision.sourceIntentId
    approvedIntentId := e.approved.decision.decisionId
    reservationId := e.approved.reservationIdHash
    bundleId := e.decision.bundleId
    maxTotalCostTick := e.decision.estimatedTotalCostTick
    minExpectedEdgeTick := e.decision.totalEdgeTick
    maxSlippageTick := e.decision.slippageBufferTick
    chosenBundleQty := e.decision.chosenBundleQty
    guaranteedPayoutTick := e.decision.guaranteedPayoutTick
    expectedTerminalPnlTick := e.decision.guaranteedPayoutTick - e.decision.estimatedTotalCostTick
    createdTsNs := nowNs
    expireAfterNs := e.decision.expiresAtNs
    idempotencyKey := if config.hotPathSkipOrderStrings then "" else e.approved.intent.idempotencyKey }
def assembleDecisionPlan (e : ApprovedOrderDecisionEnvelope) (nowNs : Nat) (config : ExecutionConfig) :
    Except String OrderPlan := do
  let header := decisionPlanHeader e nowNs config
  let orders ← buildOrders (decisionChildOrder header config e.approved.intent) 0 e.decision.legs
  let plan := {header with orders}
  if config.hotPathSkipPlanValidation then .ok plan
  else do
    validateDefault plan
    .ok plan
def buildDecisionPlan (e : ApprovedOrderDecisionEnvelope) (nowNs : Nat) (config : ExecutionConfig) :
    Except String OrderPlan :=
  let approved := e.approved
  let intent := approved.intent
  let decision := e.decision
  if approved.valid = false then .error "approved intent is invalid"
  else if approved.decision.decisionId = 0 then .error "missing decision_id"
  else if approved.reservationIdHash = 0 ∧ approved.reservationId = "" then .error "missing reservation_id"
  else if decision.type ≠ .paperOrderDecision then .error "order decision is not PaperOrderDecision"
  else if decision.expiresAtNs ≤ nowNs then .error "order decision expired"
  else if intent.intentId ≠ decision.sourceIntentId then .error "decision intent mismatch"
  else if approved.decision.intentId ≠ 0 ∧ approved.decision.intentId ≠ decision.sourceIntentId then
    .error "decision approval mismatch"
  else if approved.decision.idempotencyHash ≠ 0 ∧ intent.idempotencyHash ≠ 0 ∧
      approved.decision.idempotencyHash ≠ intent.idempotencyHash then .error "decision approval mismatch"
  else if intent.bundleId ≠ decision.bundleId ∨ approved.decision.bundleId ≠ decision.bundleId ∨
      e.bundleId ≠ decision.bundleId then .error "bundle_id mismatch"
  else if e.sourceIntentId ≠ 0 ∧ e.sourceIntentId ≠ decision.sourceIntentId then
    .error "envelope source_intent_id mismatch"
  else if e.decisionHash ≠ 0 ∧ e.decisionHash ≠ decision.decisionHash then .error "envelope decision_hash mismatch"
  else if config.hotPathTrustOrderDecisionHash = false ∧
    computeOrderDecisionHash decision ≠ decision.decisionHash then
    .error "decision hash mismatch"
  else if e.approvalHash ≠ 0 ∧ config.hotPathTrustApprovalHash = false ∧
      e.approvalHash ≠ computeApprovedIntentHash approved then .error "approval hash mismatch"
  else if decision.legs = [] then .error "order decision has no legs"
  else if maxOrders config < decision.legs.length then .error "too many child orders"
  else assembleDecisionPlan e nowNs config

/-! What a built plan orders. -/

def orderedLots (orders : List ChildOrder) (assetId : String) : Int :=
  (orders.map fun o => if o.assetId = assetId then o.quantityLots else 0).sum
def plannedLots (bundleQty : Int) (legs : List IntentLeg) (assetId : String) : Int :=
  (legs.map fun leg => if leg.assetId = assetId then bundleQty * leg.quantityLots else 0).sum

theorem childOrderShape {plan qty index leg o} (h : childOrder plan qty index leg = .ok o) :
    o.orderId = index + 1 ∧ o.assetId = leg.assetId ∧ o.quantityLots = qty * leg.quantityLots := by
  unfold childOrder at h
  split at h
  · cases h
  · split at h
    · cases h
    · split at h
      · cases h
      · cases h
        exact ⟨rfl,rfl,rfl⟩

theorem buildOrdersLots {plan qty index legs orders}
    (h : buildOrders (childOrder plan qty) index legs = .ok orders) (a) :
    orderedLots orders a = plannedLots qty legs a := by
  induction legs generalizing index orders with
  | nil =>
    cases h
    rfl
  | cons leg rest ih =>
    obtain ⟨o,first,h⟩ := Machine.bindOk.mp h
    obtain ⟨later,tail,h⟩ := Machine.bindOk.mp h
    cases h
    obtain ⟨_,asset,lots⟩ := childOrderShape first
    have sum := ih tail
    simp only [orderedLots,plannedLots,List.map_cons,List.sum_cons] at sum ⊢
    rw [sum,asset,lots]

theorem buildPlanAssembled {e nowNs config plan} (h : buildPlan e nowNs config = .ok plan) :
    assemblePlan e nowNs = .ok plan := by
  unfold buildPlan at h
  simp only at h
  repeat replace h := (Machine.guardOk h).2
  exact h
theorem buildPlanOrders {e nowNs config plan} (h : buildPlan e nowNs config = .ok plan) :
    buildOrders (childOrder (planHeader e nowNs) e.approval.approvedBundleQty) 0 e.sourceIntent.legs =
      .ok plan.orders := by
  obtain ⟨orders,built,h⟩ := Machine.bindOk.mp (buildPlanAssembled h)
  obtain ⟨_,_,h⟩ := Machine.bindOk.mp h
  cases h
  exact built

theorem buildPlanLots {e nowNs config plan} (h : buildPlan e nowNs config = .ok plan) (a) :
    orderedLots plan.orders a = plannedLots e.approval.approvedBundleQty e.sourceIntent.legs a :=
  buildOrdersLots (buildPlanOrders h) a

theorem decisionChildOrderId {plan config intent index leg o}
    (h : decisionChildOrder plan config intent index leg = .ok o) : o.orderId = index + 1 := by
  unfold decisionChildOrder at h
  split at h
  · cases h
  · split at h
    · cases h
    · cases h
      rfl

theorem buildOrdersIds {α : Type} {build : Nat → α → Except String ChildOrder}
    (numbered : ∀ index leg o, build index leg = .ok o → o.orderId = index + 1) {index legs orders}
    (h : buildOrders build index legs = .ok orders) :
    orders.map (·.orderId) = List.range' (index + 1) legs.length := by
  induction legs generalizing index orders with
  | nil =>
    cases h
    rfl
  | cons leg rest ih =>
    obtain ⟨o,first,h⟩ := Machine.bindOk.mp h
    obtain ⟨later,tail,h⟩ := Machine.bindOk.mp h
    cases h
    rw [List.map_cons,numbered index leg o first,ih tail,List.length_cons,List.range'_succ]

theorem buildPlanUnique {e nowNs config plan} (h : buildPlan e nowNs config = .ok plan) :
    (plan.orders.map (·.orderId)).Nodup := by
  rw [buildOrdersIds (fun _ _ _ one => (childOrderShape one).1) (buildPlanOrders h)]
  exact List.nodup_range'
theorem buildDecisionPlanAssembled {e nowNs config plan} (h : buildDecisionPlan e nowNs config = .ok plan) :
    assembleDecisionPlan e nowNs config = .ok plan := by
  unfold buildDecisionPlan at h
  simp only at h
  repeat replace h := (Machine.guardOk h).2
  exact h
theorem assembleDecisionPlanShape {e nowNs config plan} (h : assembleDecisionPlan e nowNs config = .ok plan) :
    ∃ orders, buildOrders (decisionChildOrder (decisionPlanHeader e nowNs config) config e.approved.intent) 0
      e.decision.legs = .ok orders ∧
      plan = {decisionPlanHeader e nowNs config with orders} := by
  obtain ⟨orders,built,h⟩ := Machine.bindOk.mp h
  refine ⟨orders,built,?_⟩
  split at h
  · cases h
    rfl
  · obtain ⟨_,_,h⟩ := Machine.bindOk.mp h
    cases h
    rfl
theorem assembleDecisionPlanUnique {e nowNs config plan} (h : assembleDecisionPlan e nowNs config = .ok plan) :
    (plan.orders.map (·.orderId)).Nodup := by
  obtain ⟨orders,built,rfl⟩ := assembleDecisionPlanShape h
  have ids := buildOrdersIds (fun _ _ _ one => decisionChildOrderId one) built
  simp only
  rw [ids]
  exact List.nodup_range'
theorem buildDecisionPlanUnique {e nowNs config plan} (h : buildDecisionPlan e nowNs config = .ok plan) :
    (plan.orders.map (·.orderId)).Nodup := assembleDecisionPlanUnique (buildDecisionPlanAssembled h)

theorem validateOrdersPositive {planId seen orders} (h : validateOrders planId seen orders = .ok ()) :
    ∀ o ∈ orders, 0 < o.quantityLots := by
  induction orders generalizing seen with
  | nil => simp
  | cons o rest ih =>
    obtain ⟨_,first,h⟩ := Machine.bindOk.mp h
    have positive : 0 < o.quantityLots := by
      unfold validateChildOrder at first
      repeat' split at first
      all_goals first
        | contradiction
        | omega
    split at h
    · cases h
    · split at h
      · cases h
      · intro x mem
        rcases List.mem_cons.mp mem with rfl | old
        · exact positive
        · exact ih h x old
theorem validatePlan {plan config} (h : validate plan config = .ok ()) :
    plan.orders ≠ [] ∧ plan.orders.length ≤ kMaxChildOrdersPerPlan ∧ ∀ o ∈ plan.orders, 0 < o.quantityLots := by
  unfold validate validateImpl at h
  obtain ⟨_,h⟩ := Machine.guardOk h
  obtain ⟨_,h⟩ := Machine.guardOk h
  obtain ⟨_,h⟩ := Machine.guardOk h
  obtain ⟨_,h⟩ := Machine.guardOk h
  obtain ⟨count,h⟩ := Machine.guardOk h
  repeat replace h := (Machine.guardOk h).2
  rw [not_or,not_or,not_lt] at count
  exact ⟨count.2.1,count.2.2.trans (min_le_right _ _),validateOrdersPositive h⟩

end Polytope.ExecutionPlanner
