import Polytope.ExecutionPlanner
import Polytope.ExecutionState
import Mathlib.Data.List.AList

/-! ExecutionGateway: build and validate a plan, hand it to the adapter, apply the polled
reports, record the plan and publish the reservation disposition. The two submit methods
differ in the envelope only, so they share one body. The adapter is any machine with the
three calls of IExecutionAdapter; publishers and the plan observer are the outcome of a step. -/
namespace Polytope.ExecutionGateway
open ExecutionTypes ExecutionPlanner ExecutionState
open Reservation (updateFirst)

structure Adapter (α : Type) where
  submitPlan : α → OrderPlan → ExecutionContext → α × AdapterSubmitResult
  pollReports : α → α × List ExecutionReport
  cancelPlan : α → UInt64 → α × AdapterCancelResult

structure PlanRuntimeState where
  plan : OrderPlan
  fillTracker : FillTracker
  config : ExecutionConfig
  deriving DecidableEq, Repr

structure Gateway (α : Type) where
  adapter : Option α := none
  hasReservationPublisher : Bool := true
  planStore : AList (fun _ : UInt64 => OrderPlan) := ∅
  runtime : AList (fun _ : UInt64 => PlanRuntimeState) := ∅
  pendingReports : List ExecutionReport := []

structure Submission where
  plan : OrderPlan
  result : AdapterSubmitResult
  reports : List ExecutionReport
  deriving DecidableEq, Repr
structure Outcome where
  result : ExecutionResult := {}
  cancel : Option CancelResult := none
  submission : Option Submission := none
  reports : List ExecutionReport := []
  dispositions : List ReservationDisposition := []
  deriving DecidableEq, Repr

def consumeReservation (status : PlanStatus) (s : PlanFillState) : Bool := status = .filled ∧ s.allFilled
def releaseReservation (status : PlanStatus) : Bool := status = .failed ∨ status = .expired ∨ status = .cancelled
def prepareChildForAdapter (status : ChildOrderStatus) : ChildOrderStatus :=
  orderTransition (orderTransition (orderTransition status .planned) .sent) .acked
def preparePlanForAdapter (status : PlanStatus) : PlanStatus :=
  planTransition (planTransition (planTransition status .planned) .sent) .acked
def prepare (plan : OrderPlan) : OrderPlan :=
  {plan with
    status := preparePlanForAdapter plan.status
    orders := plan.orders.map fun o => {o with status := prepareChildForAdapter o.status}}

def applyPlanLifecycle (result : AdapterSubmitResult) (s : PlanFillState) : PlanStatus :=
  if decidePartialFill s = .hedgeRequired then
    planTransition (planTransition .acked .partiallyFilled) .hedgeRequired
  else if result.status = .filled ∧ s.allFilled then planTransition .acked .filled
  else if result.status = .partiallyFilled ∨ s.anyPartial then planTransition .acked .partiallyFilled
  else if result.ok = false ∨ result.status = .failed ∨ 0 < result.childOrdersRejected then
    planTransition .acked .failed
  else result.status

def reportOrder (orders : List ChildOrder) (report : ExecutionReport) : List ChildOrder × ExecutionReport :=
  match orders.find? (fun o => decide (o.orderId = report.childOrderId)) with
  | none => (orders,report)
  | some o =>
    let status := orderTransition o.status report.status
    ((updateFirst (fun o => decide (o.orderId = report.childOrderId))
      (fun o => {o with status}) orders).getD orders,
      {report with status})
structure ReportPass where
  orders : List ChildOrder
  fillTracker : FillTracker
  published : List ExecutionReport := []
  deriving DecidableEq, Repr
def applyReport (p : ReportPass) (report : ExecutionReport) : ReportPass :=
  let moved := reportOrder p.orders report
  ⟨moved.1,p.fillTracker.apply moved.2,p.published ++ [moved.2]⟩

def disposition (present : Bool) (reservationId : String) (planId : UInt64) (type : ReservationDispositionType)
    (reason : String) : List ReservationDisposition :=
  if present = false ∨ type = .none then [] else [⟨reservationId,planId,type,reason⟩]

section
variable {α : Type} (A : Adapter α) (g : Gateway α)

def execute (a : α) (plan : OrderPlan) (reservationId : String) (ctx : ExecutionContext) : Gateway α × Outcome :=
  let plan := prepare plan
  let (a,result) := A.submitPlan a plan ctx
  let (a,reports) := A.pollReports a
  let pass := reports.foldl applyReport ⟨plan.orders,FillTracker.reset plan,[]⟩
  let status := applyPlanLifecycle result pass.fillTracker.planState
  let final := {plan with orders := pass.orders, status}
  let dispositions :=
    if consumeReservation status pass.fillTracker.planState then
      disposition g.hasReservationPublisher reservationId plan.planId .consume "paper plan filled"
    else if releaseReservation status then
      disposition g.hasReservationPublisher reservationId plan.planId .release
        (if result.error = "" then "execution failed" else result.error)
    else []
  ({g with
      adapter := some a
      planStore := (g.planStore.insert plan.planId plan).insert plan.planId final
      runtime := g.runtime.insert plan.planId ⟨final,pass.fillTracker,ctx.config⟩
      pendingReports := g.pendingReports ++ pass.published},
    { result :=
        { ok := result.ok && status ≠ .failed && status ≠ .expired && status ≠ .cancelled
          planId := plan.planId
          status
          childOrdersSubmitted := result.childOrdersSubmitted
          childOrdersRejected := result.childOrdersRejected
          error := result.error }
      submission := some ⟨plan,result,reports⟩
      reports := pass.published
      dispositions })

def submitBuilt (built : Except String OrderPlan) (reservationId : String) (ctx : ExecutionContext) :
    Gateway α × Outcome :=
  match g.adapter with
  | none => (g,{result := {status := .failed, error := "missing execution adapter"}})
  | some a =>
    match built with
    | .error error => (g,{result := {status := .failed, error}})
    | .ok plan =>
      match validate plan ctx.config with
      | .error error =>
        (g,{ result := {planId := plan.planId, status := .failed, error}
             dispositions := disposition g.hasReservationPublisher reservationId plan.planId .release
               "plan validation failed" })
      | .ok _ => execute A g a plan reservationId ctx

def intentReservationId (e : ApprovedIntentEnvelope) : String := toString e.approval.reservationId.toNat
def decisionReservationId (e : ApprovedOrderDecisionEnvelope) : String :=
  if e.approved.reservationId ≠ "" then e.approved.reservationId else toString e.approved.reservationIdHash.toNat
def submitApprovedIntent (e : ApprovedIntentEnvelope) (ctx : ExecutionContext) : Gateway α × Outcome :=
  submitBuilt A g (buildPlan e ctx.nowNs ctx.config) (intentReservationId e) ctx
def submitApprovedDecision (e : ApprovedOrderDecisionEnvelope) (ctx : ExecutionContext) : Gateway α × Outcome :=
  submitBuilt A g (buildDecisionPlan e ctx.nowNs ctx.config) (decisionReservationId e) ctx

def openRemainingLots (s : PlanFillState) (o : ChildOrder) : Int :=
  if orderTerminal o.status then 0
  else
    match s.children.find? (fun c => decide (c.orderId = o.orderId)) with
    | some c => c.remainingQtyLots
    | none => o.quantityLots
def cancelReports (plan : OrderPlan) (s : PlanFillState) : List ExecutionReport :=
  plan.orders.flatMap fun o =>
    let remaining := openRemainingLots s o
    if remaining ≤ 0 then []
    else
      [{planId := plan.planId, childOrderId := o.orderId, status := .cancelRequested, remainingLots := remaining},
        {planId := plan.planId, childOrderId := o.orderId, status := .cancelled}]
def cancelOpenOrders (state : PlanRuntimeState) : Option α × CancelResult :=
  if state.config.mode = .live then
    if state.config.executionEnabled = false ∨ state.config.liveEnabled = false then
      (g.adapter,{ planId := state.plan.planId, code := .liveExecutionDisabled
                   error := "live execution cancel is disabled" })
    else
      match g.adapter with
      | none => (none,{planId := state.plan.planId, code := .missingAdapter, error := "missing execution adapter"})
      | some a =>
        let (a,cancel) := A.cancelPlan a state.plan.planId
        (some a,{ok := cancel.ok, planId := cancel.planId, code := cancel.code, error := cancel.error})
  else if state.config.mode = .sandbox then
    (g.adapter,{planId := state.plan.planId, error := "sandbox execution cancel is not wired"})
  else
    (g.adapter,{ ok := true, planId := state.plan.planId, code := .ok
                 reports := cancelReports state.plan state.fillTracker.planState })

def cancelPlan (planId : UInt64) : Gateway α × Outcome :=
  match g.runtime.lookup planId with
  | none => (g,{cancel := some {planId, error := "unknown plan_id"}})
  | some state =>
    let (adapter,cancel) := cancelOpenOrders A g state
    let state := if cancel.ok then {state with plan := {state.plan with status := .cancelled}} else state
    ({g with
        adapter
        runtime := g.runtime.insert planId state
        pendingReports := g.pendingReports ++ cancel.reports},
      {cancel := some cancel, reports := cancel.reports})

inductive GatewayOp where
  | submitApprovedIntent (e : ApprovedIntentEnvelope) (ctx : ExecutionContext)
  | submitApprovedDecision (e : ApprovedOrderDecisionEnvelope) (ctx : ExecutionContext)
  | cancelPlan (planId : UInt64)
  deriving DecidableEq

def gatewayStep : GatewayOp → Gateway α × Outcome
  | .submitApprovedIntent e ctx => submitApprovedIntent A g e ctx
  | .submitApprovedDecision e ctx => submitApprovedDecision A g e ctx
  | .cancelPlan planId => cancelPlan A g planId

end

abbrev GatewayLog := List (GatewayOp × Outcome)
def runGateway {α : Type} (A : Adapter α) (a : α) (ops : List GatewayOp) : Gateway α × GatewayLog :=
  Machine.run (gatewayStep A) {adapter := some a} [] ops

end Polytope.ExecutionGateway
