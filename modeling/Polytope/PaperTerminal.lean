import Polytope.PaperTrading

/-! Terminal accounting of plans: when a plan is shown as complete, filled or failed, against the lots
recorded for its child orders. -/
namespace Polytope.PaperTerminal
open ExecutionTypes PaperAccounting PaperTrading

def planOf (planId : UInt64) : PaperInput → Option OrderPlan
  | .orderPlan plan => if plan.planId = planId then some plan else none
  | .executionReport _ | .markSnapshot _ | .observation => none
def lastPlan (planId : UInt64) (inputs : List PaperInput) : Option OrderPlan :=
  (inputs.filterMap (planOf planId)).getLast?
def recordedLots (orders : List PaperFilledOrderSnapshot) (planId : UInt64) (childOrderId : Nat) : Int :=
  ((orders.filter fun order => order.planId = planId ∧ order.childOrderId = childOrderId).map
    PaperFilledOrderSnapshot.filledLots).sum

def AllFilled (engine : PaperTradingEngine) (inputs : List PaperInput) (planId : UInt64) : Prop :=
  ∀ plan, lastPlan planId inputs = some plan →
    ∀ order ∈ plan.orders, recordedLots engine.filledOrders planId order.orderId = order.quantityLots
structure TerminalLaw (engine : PaperTradingEngine) (inputs : List PaperInput) : Prop where
  complete : ∀ planId terminal, engine.terminalByPlan.lookup planId = some terminal → terminal.complete = true →
    AllFilled engine inputs planId
  filled : ∀ planId ∈ engine.filledPlanIds, AllFilled engine inputs planId
  notBoth : ∀ planId ∈ engine.filledPlanIds, planId ∉ engine.failedPlanIds
-- Observing a plan again keeps what was recorded for it.
def KeepsRecord (engine : PaperTradingEngine) : PaperInput → Prop
  | .orderPlan plan => ∀ terminal, engine.terminalByPlan.lookup plan.planId = some terminal →
    ∃ terminal', (engine.onOrderPlan plan).terminalByPlan.lookup plan.planId = some terminal' ∧
      terminal'.filledChildOrders = terminal.filledChildOrders ∧
        terminal'.actualBuyCostTick = terminal.actualBuyCostTick
  | .executionReport _ | .markSnapshot _ | .observation => True

abbrev InputLog := List (PaperInput × Unit)
def Accounted (engine : PaperTradingEngine) (log : InputLog) (input : PaperInput) : Prop :=
  TerminalLaw (engineStep engine input).1 (log.map Prod.fst ++ [input]) ∧ KeepsRecord engine input

/-! The inputs the engine accounts for as it should. -/

def applies (engine : PaperTradingEngine) (report : ExecutionReport) : Bool :=
  match observeReport engine.adapterOrders report with
  | some fill => (applyExecutionFill engine.ledger fill).2.applied
  | none => false
-- The lots recorded for a child order once the report has been processed.
def lotsWith (engine : PaperTradingEngine) (report : ExecutionReport) (childOrderId : Nat) : Int :=
  recordedLots engine.filledOrders report.planId childOrderId +
    if applies engine report = true ∧ report.childOrderId = childOrderId then report.filledLots else 0
def Completes (engine : PaperTradingEngine) (inputs : List PaperInput) (report : ExecutionReport) : Prop :=
  ∀ plan, lastPlan report.planId inputs = some plan →
    ∀ order ∈ plan.orders, lotsWith engine report order.orderId = order.quantityLots
-- The fill brings the number of recorded fills up to the number of orders.
def reachesCount (terminal : PlanTerminalState) : Bool :=
  0 < terminal.expectedChildOrders ∧ terminal.expectedChildOrders ≤ (terminal.filledChildOrders + 1) % 65536

structure ReportInOrder (engine : PaperTradingEngine) (inputs : List PaperInput)
    (report : ExecutionReport) : Prop where
  last : isFilledReport report.status = true → Completes engine inputs report
  notFailed : isFilledReport report.status = true → report.planId ∉ engine.failedPlanIds
  notFilled : isFailedReport report.status = true → report.planId ∉ engine.filledPlanIds
  noMore : applies engine report = true → report.planId ∈ engine.filledPlanIds → Completes engine inputs report
  counted : applies engine report = true → ∀ terminal, engine.terminalByPlan.lookup report.planId = some terminal →
    reachesCount terminal = true → Completes engine inputs report
structure PlanInOrder (engine : PaperTradingEngine) (plan : OrderPlan) : Prop where
  unfilled : ∀ terminal, engine.terminalByPlan.lookup plan.planId = some terminal →
    terminal.filledChildOrders = 0 ∧ terminal.actualBuyCostTick = 0
  uncounted : plan.planId ∈ engine.filledPlanIds →
    ∀ order ∈ plan.orders, recordedLots engine.filledOrders plan.planId order.orderId = order.quantityLots
def InOrder (engine : PaperTradingEngine) (log : InputLog) : PaperInput → Prop
  | .executionReport report => ReportInOrder engine (log.map Prod.fst) report
  | .orderPlan plan => PlanInOrder engine plan
  | .markSnapshot _ | .observation => True

/-! Plans and lots after one input. -/

theorem lastPlanPlan (inputs plan planId) : lastPlan planId (inputs ++ [.orderPlan plan]) =
    if plan.planId = planId then some plan else lastPlan planId inputs := by
  unfold lastPlan
  rw [List.filterMap_append]
  by_cases own : plan.planId = planId
  · simp [planOf,own]
  · simp [planOf,own]
theorem lastPlanOther {inputs planId input} (silent : ∀ plan, input ≠ .orderPlan plan) :
    lastPlan planId (inputs ++ [input]) = lastPlan planId inputs := by
  unfold lastPlan
  rw [List.filterMap_append]
  cases input with
  | orderPlan plan => exact absurd rfl (silent plan)
  | executionReport _ | markSnapshot _ | observation => simp [planOf]
theorem recordedAppend (orders : List PaperFilledOrderSnapshot) (order planId childOrderId) :
    recordedLots (orders ++ [order]) planId childOrderId = recordedLots orders planId childOrderId +
      if order.planId = planId ∧ order.childOrderId = childOrderId then order.filledLots else 0 := by
  unfold recordedLots
  rw [List.filter_append,List.map_append,List.sum_append]
  by_cases own : order.planId = planId ∧ order.childOrderId = childOrderId
  · simp [own]
  · simp [own]

structure PlanKept (engine after : PaperTradingEngine) (plan : OrderPlan) : Prop where
  orders : after.filledOrders = engine.filledOrders
  filled : after.filledPlanIds = engine.filledPlanIds
  failed : after.failedPlanIds = engine.failedPlanIds
  terminals : after.terminalByPlan = engine.terminalByPlan.insert plan.planId (terminalOf plan)
theorem planKept (engine : PaperTradingEngine) (plan) : PlanKept engine (engine.onOrderPlan plan) plan := by
  have records : ∀ (orders : List ChildOrder) (engine : PaperTradingEngine),
      (orders.foldl (PaperTradingEngine.recordOrder plan) engine).filledOrders = engine.filledOrders ∧
        (orders.foldl (PaperTradingEngine.recordOrder plan) engine).filledPlanIds = engine.filledPlanIds ∧
        (orders.foldl (PaperTradingEngine.recordOrder plan) engine).failedPlanIds = engine.failedPlanIds ∧
        (orders.foldl (PaperTradingEngine.recordOrder plan) engine).terminalByPlan = engine.terminalByPlan := by
    intro orders
    induction orders with
    | nil => exact fun _ => ⟨rfl,rfl,rfl,rfl⟩
    | cons order rest ih => exact fun engine => ih (engine.recordOrder plan order)
  obtain ⟨orders,filled,failed,terminals⟩ :=
    records plan.orders {engine with terminalByPlan := engine.terminalByPlan.insert plan.planId (terminalOf plan)}
  exact ⟨orders,filled,failed,terminals⟩

def filledOrder (engine : PaperTradingEngine) (fill : FillApplication) : PaperFilledOrderSnapshot :=
  filledOrderOf fill (engine.childOrders.lookup (childKey fill.report.planId fill.report.childOrderId))
theorem filledOrderKeys (engine : PaperTradingEngine) (fill) :
    (filledOrder engine fill).planId = fill.report.planId ∧
    (filledOrder engine fill).childOrderId = fill.report.childOrderId ∧
    (filledOrder engine fill).filledLots = fill.report.filledLots := by
  unfold filledOrder filledOrderOf
  cases engine.childOrders.lookup (childKey fill.report.planId fill.report.childOrderId) with
  | none => exact ⟨rfl,rfl,rfl⟩
  | some observed => exact ⟨rfl,rfl,rfl⟩

inductive Filled (engine : PaperTradingEngine) (fill : FillApplication) (after : PaperTradingEngine) : Prop
  | refused (refused : (applyExecutionFill engine.ledger fill).2.applied = false)
    (orders : after.filledOrders = engine.filledOrders)
      (terminals : after.terminalByPlan = engine.terminalByPlan) : Filled engine fill after
  | applied (applied : (applyExecutionFill engine.ledger fill).2.applied = true)
      (orders : after.filledOrders = engine.filledOrders ++ [filledOrder engine fill])
      (terminals : after.terminalByPlan =
        match engine.terminalByPlan.lookup fill.report.planId with
        | some terminal =>
          engine.terminalByPlan.insert fill.report.planId (terminal.filledBy (filledOrder engine fill))
        | none => engine.terminalByPlan) : Filled engine fill after
theorem filledCases (engine : PaperTradingEngine) (fill) : Filled engine fill (engine.handleFill fill) := by
  unfold PaperTradingEngine.handleFill
  simp only
  split
  · next applied => exact .applied applied rfl rfl
  · next refused => exact .refused (Bool.eq_false_iff.mpr refused) rfl rfl
theorem plansKept (engine : PaperTradingEngine) (fill) :
    (engine.handleFill fill).filledPlanIds = engine.filledPlanIds ∧
    (engine.handleFill fill).failedPlanIds = engine.failedPlanIds := by
  unfold PaperTradingEngine.handleFill
  simp only
  split
  · exact ⟨rfl,rfl⟩
  · exact ⟨rfl,rfl⟩

/-! One report. -/

structure Reported (engine : PaperTradingEngine) (report : ExecutionReport)
    (after : PaperTradingEngine) : Prop where
  filled : ∀ planId, planId ∈ after.filledPlanIds ↔
    isFilledReport report.status = true ∧ planId = report.planId ∨ planId ∈ engine.filledPlanIds
  failed : ∀ planId, planId ∈ after.failedPlanIds ↔
    isFailedReport report.status = true ∧ planId = report.planId ∨ planId ∈ engine.failedPlanIds
  lots : ∀ planId childOrderId, recordedLots after.filledOrders planId childOrderId =
    recordedLots engine.filledOrders planId childOrderId +
      if applies engine report = true ∧ report.planId = planId ∧ report.childOrderId = childOrderId then
        report.filledLots
      else 0
  terminals : ∃ order : PaperFilledOrderSnapshot, ∀ planId, after.terminalByPlan.lookup planId =
    if applies engine report = true ∧ planId = report.planId then
      (engine.terminalByPlan.lookup planId).map fun terminal => terminal.filledBy order
    else engine.terminalByPlan.lookup planId

theorem insertIf {c : Prop} [Decidable c] {ids : List UInt64} {id planId} :
    planId ∈ (if c then ids.insert id else ids) ↔ c ∧ planId = id ∨ planId ∈ ids := by
  by_cases h : c
  · simp [h]
  · simp [h]
theorem observedReport {orders report fill} (observes : observeReport orders report = some fill) :
    fill.report = report := by
  unfold observeReport at observes
  obtain ⟨_,_,observes⟩ := Option.bind_eq_some_iff.mp observes
  obtain ⟨order,_,observes⟩ := Option.bind_eq_some_iff.mp observes
  split at observes
  · cases observes
  · cases observes
    rfl
theorem reportedFill {engine : PaperTradingEngine} {report fill}
    (observes : observeReport engine.adapterOrders report = some fill) :
    Reported engine report ((engine.countReport report).handleFill fill) := by
  have same := observedReport observes
  have applies' : applies engine report = (applyExecutionFill engine.ledger fill).2.applied := by
    rw [applies,observes]
  obtain ⟨filled,failed⟩ := plansKept (engine.countReport report) fill
  refine ⟨?_,?_,?_,?_⟩
  · intro planId
    rw [filled]
    exact insertIf
  · intro planId
    rw [failed]
    exact insertIf
  · intro planId childOrderId
    cases filledCases (engine.countReport report) fill with
    | refused refused orders _ =>
      rw [orders,applies'.trans refused]
      simp [PaperTradingEngine.countReport]
    | applied applied orders _ =>
      obtain ⟨plan,child,lots⟩ := filledOrderKeys (engine.countReport report) fill
      rw [orders,recordedAppend,plan,child,lots,same,applies'.trans applied]
      simp [PaperTradingEngine.countReport]
  · refine ⟨filledOrder (engine.countReport report) fill,fun planId => ?_⟩
    cases filledCases (engine.countReport report) fill with
    | refused refused _ terminals =>
      rw [terminals,applies'.trans refused]
      simp [PaperTradingEngine.countReport]
    | applied applied _ terminals =>
      rw [terminals,applies'.trans applied,same]
      change (match engine.terminalByPlan.lookup report.planId with
        | some terminal => engine.terminalByPlan.insert report.planId
          (terminal.filledBy (filledOrder (engine.countReport report) fill))
        | none => engine.terminalByPlan).lookup planId = _
      by_cases own : planId = report.planId
      · subst own
        cases known : engine.terminalByPlan.lookup report.planId with
        | none => simp [known]
        | some terminal => simp [AList.lookup_insert]
      · cases known : engine.terminalByPlan.lookup report.planId with
        | none => simp [own]
        | some terminal => simp [own,AList.lookup_insert_ne own]
theorem reported (engine : PaperTradingEngine) (report) :
    Reported engine report (engine.onExecutionReport report) := by
  unfold PaperTradingEngine.onExecutionReport
  cases observes : observeReport engine.adapterOrders report with
  | some fill => exact reportedFill observes
  | none =>
    have applies' : applies engine report = false := by rw [applies,observes]
    refine ⟨fun planId => insertIf,fun planId => insertIf,?_,{},?_⟩
    · simp [applies',PaperTradingEngine.countReport]
    · simp [applies',PaperTradingEngine.countReport]

theorem reportedOther {engine report after inputs planId} (step : Reported engine report after)
    (other : planId ≠ report.planId) :
    AllFilled after (inputs ++ [.executionReport report]) planId ↔ AllFilled engine inputs planId := by
  have silent : ∀ plan, PaperInput.executionReport report ≠ .orderPlan plan := by
    intro plan same
    cases same
  unfold AllFilled
  rw [lastPlanOther silent]
  simp [step.lots,Ne.symm other]
theorem reportedOwn {engine report after inputs} (step : Reported engine report after) :
    AllFilled after (inputs ++ [.executionReport report]) report.planId ↔ Completes engine inputs report := by
  have silent : ∀ plan, PaperInput.executionReport report ≠ .orderPlan plan := by
    intro plan same
    cases same
  unfold AllFilled Completes lotsWith
  rw [lastPlanOther silent]
  simp [step.lots]
theorem completesRefused {engine inputs report} (refused : applies engine report = false) :
    Completes engine inputs report ↔ AllFilled engine inputs report.planId := by
  unfold Completes AllFilled lotsWith
  simp [refused]

theorem filledByComplete (terminal : PlanTerminalState) (order) :
    (terminal.filledBy order).complete = reachesCount terminal := rfl
theorem statusApart {status : ChildOrderStatus} (filled : isFilledReport status = true) :
    isFailedReport status = false := by
  rw [isFilledReport,decide_eq_true_iff] at filled
  subst filled
  rfl

theorem reportLawIff {engine report after inputs} (step : Reported engine report after)
    (law : TerminalLaw engine inputs) :
    TerminalLaw after (inputs ++ [.executionReport report]) ↔ ReportInOrder engine inputs report := by
  obtain ⟨order,terminals⟩ := step.terminals
  constructor
  · intro kept
    refine ⟨fun filled => ?_,fun filled => ?_,fun failed counted => ?_,fun _ counted =>
      ?_,fun applied terminal found reaches => ?_⟩
    · exact (reportedOwn step).mp (kept.filled _ ((step.filled _).mpr (.inl ⟨filled,rfl⟩)))
    · have apart := kept.notBoth _ ((step.filled _).mpr (.inl ⟨filled,rfl⟩))
      exact fun failed => apart ((step.failed _).mpr (.inr failed))
    · exact kept.notBoth _ ((step.filled _).mpr (.inr counted)) ((step.failed _).mpr (.inl ⟨failed,rfl⟩))
    · exact (reportedOwn step).mp (kept.filled _ ((step.filled _).mpr (.inr counted)))
    · have after' : after.terminalByPlan.lookup report.planId = some (terminal.filledBy order) := by
        rw [terminals,if_pos ⟨applied,rfl⟩,found,Option.map_some]
      exact (reportedOwn step).mp (kept.complete _ _ after' ((filledByComplete _ _).trans reaches))
  · intro inOrder
    have ownKept : AllFilled engine inputs report.planId →
      (applies engine report = true → Completes engine inputs report) →
        AllFilled after (inputs ++ [.executionReport report]) report.planId := by
      intro before completes
      apply (reportedOwn step).mpr
      cases applied : applies engine report with
      | true => exact completes applied
      | false => exact (completesRefused applied).mpr before
    refine ⟨fun planId terminal found complete => ?_,fun planId counted => ?_,fun planId counted failed => ?_⟩
    · rw [terminals] at found
      by_cases own : planId = report.planId
      · subst own
        cases applied : applies engine report with
        | true =>
          rw [if_pos ⟨applied,rfl⟩] at found
          obtain ⟨old,known,rfl⟩ := Option.map_eq_some_iff.mp found
          exact (reportedOwn step).mpr
            (inOrder.counted applied old known ((filledByComplete _ _).symm.trans complete))
        | false =>
          rw [if_neg (by simp [applied])] at found
          exact ownKept (law.complete _ _ found complete) fun yes => by rw [applied] at yes; cases yes
      · rw [if_neg fun h => own h.2] at found
        exact (reportedOther step own).mpr (law.complete _ _ found complete)
    · rcases (step.filled planId).mp counted with ⟨filled,rfl⟩ | old
      · exact (reportedOwn step).mpr (inOrder.last filled)
      · by_cases own : planId = report.planId
        · subst own
          exact ownKept (law.filled _ old) fun applied => inOrder.noMore applied old
        · exact (reportedOther step own).mpr (law.filled _ old)
    · rcases (step.filled planId).mp counted with ⟨filled,rfl⟩ | old
      · rcases (step.failed _).mp failed with ⟨failed,_⟩ | oldFailed
        · rw [statusApart filled] at failed
          cases failed
        · exact inOrder.notFailed filled oldFailed
      · rcases (step.failed _).mp failed with ⟨failing,rfl⟩ | oldFailed
        · exact inOrder.notFilled failing old
        · exact law.notBoth _ old oldFailed

/-! One plan. -/

theorem planOther {engine after plan inputs planId} (step : PlanKept engine after plan)
    (other : planId ≠ plan.planId) :
    AllFilled after (inputs ++ [.orderPlan plan]) planId ↔ AllFilled engine inputs planId := by
  unfold AllFilled
  rw [lastPlanPlan,if_neg (Ne.symm other),step.orders]
theorem planOwn {engine after plan inputs} (step : PlanKept engine after plan) :
    AllFilled after (inputs ++ [.orderPlan plan]) plan.planId ↔
      ∀ order ∈ plan.orders, recordedLots engine.filledOrders plan.planId order.orderId = order.quantityLots := by
  unfold AllFilled
  rw [lastPlanPlan,if_pos rfl,step.orders]
  simp
theorem freshIncomplete (plan : OrderPlan) : (terminalOf plan).complete = false := by
  unfold PlanTerminalState.complete terminalOf
  rw [decide_eq_false_iff_not]
  simp only
  omega
theorem keepsRecordIff (engine : PaperTradingEngine) (plan) : KeepsRecord engine (.orderPlan plan) ↔
    ∀ terminal, engine.terminalByPlan.lookup plan.planId = some terminal →
      terminal.filledChildOrders = 0 ∧ terminal.actualBuyCostTick = 0 := by
  have after : (engine.onOrderPlan plan).terminalByPlan.lookup plan.planId = some (terminalOf plan) := by
    rw [(planKept engine plan).terminals,AList.lookup_insert]
  unfold KeepsRecord
  refine forall₂_congr fun terminal found => ?_
  constructor
  · rintro ⟨terminal',same,fills,cost⟩
    cases after.symm.trans same
    exact ⟨fills.symm,cost.symm⟩
  · rintro ⟨fills,cost⟩
    exact ⟨terminalOf plan,after,fills.symm,cost.symm⟩

theorem planLawIff {engine : PaperTradingEngine} {plan inputs} (law : TerminalLaw engine inputs) :
    TerminalLaw (engine.onOrderPlan plan) (inputs ++ [.orderPlan plan]) ∧ KeepsRecord engine (.orderPlan plan) ↔
      PlanInOrder engine plan := by
  have step := planKept engine plan
  rw [keepsRecordIff]
  constructor
  · rintro ⟨kept,unfilled⟩
    refine ⟨unfilled,fun counted => (planOwn step).mp (kept.filled _ ?_)⟩
    rw [step.filled]
    exact counted
  · intro inOrder
    refine ⟨⟨fun planId terminal found complete => ?_,fun planId counted => ?_,fun planId counted =>
      ?_⟩,inOrder.unfilled⟩
    · rw [step.terminals] at found
      by_cases own : planId = plan.planId
      · subst own
        rw [AList.lookup_insert] at found
        cases found
        rw [freshIncomplete] at complete
        cases complete
      · rw [AList.lookup_insert_ne own] at found
        exact (planOther step own).mpr (law.complete _ _ found complete)
    · rw [step.filled] at counted
      by_cases own : planId = plan.planId
      · subst own
        exact (planOwn step).mpr (inOrder.uncounted counted)
      · exact (planOther step own).mpr (law.filled _ counted)
    · rw [step.filled] at counted
      rw [step.failed]
      exact law.notBoth _ counted

/-! Runs. -/

theorem lawSilent {engine after : PaperTradingEngine} {inputs input} (law : TerminalLaw engine inputs)
    (silent : ∀ plan, input ≠ .orderPlan plan)
    (orders : after.filledOrders = engine.filledOrders) (filled : after.filledPlanIds = engine.filledPlanIds)
    (failed : after.failedPlanIds = engine.failedPlanIds)
    (terminals : after.terminalByPlan = engine.terminalByPlan) :
    TerminalLaw after (inputs ++ [input]) := by
  have same : ∀ planId, AllFilled after (inputs ++ [input]) planId ↔ AllFilled engine inputs planId := by
    intro planId
    unfold AllFilled
    rw [lastPlanOther silent,orders]
  refine ⟨fun planId terminal found complete => ?_,fun planId counted => ?_,fun planId counted => ?_⟩
  · rw [terminals] at found
    exact (same planId).mpr (law.complete _ _ found complete)
  · rw [filled] at counted
    exact (same planId).mpr (law.filled _ counted)
  · rw [filled] at counted
    rw [failed]
    exact law.notBoth _ counted
theorem accountedIff {engine : PaperTradingEngine} {log : InputLog}
    (law : TerminalLaw engine (log.map Prod.fst)) (input) :
    Accounted engine log input ↔ InOrder engine log input := by
  cases input with
  | executionReport report =>
    exact (and_iff_left trivial).trans (reportLawIff (reported engine report) law)
  | orderPlan plan => exact planLawIff law
  | markSnapshot snapshot =>
    refine iff_of_true ⟨lawSilent law ?_ rfl rfl rfl rfl,trivial⟩ trivial
    intro plan same
    cases same
  | observation =>
    refine iff_of_true ⟨lawSilent law ?_ rfl rfl rfl rfl,trivial⟩ trivial
    intro plan same
    cases same
theorem startedLaw (startingCashTick : Int) : TerminalLaw (started startingCashTick) [] := by
  refine ⟨fun planId terminal found => ?_,fun planId counted => ?_,fun planId counted => ?_⟩
  · cases found
  · cases counted
  · cases counted
theorem accountedNext {engine : PaperTradingEngine} {log : InputLog} {input} (ok : Accounted engine log input) :
    TerminalLaw (engineStep engine input).1 ((log ++ [(input,(engineStep engine input).2)]).map Prod.fst) := by
  rw [List.map_append]
  exact ok.1

theorem plansAccountedIff (startingCashTick : Int) (inputs : List PaperInput) :
    Machine.Along engineStep Accounted (started startingCashTick) [] inputs ↔
      Machine.Along engineStep InOrder (started startingCashTick) [] inputs := by
  constructor
  · exact Machine.alongImp (P := fun engine log => TerminalLaw engine (log.map Prod.fst))
      (fun engine log input _ ok => accountedNext ok)
      (fun engine log input law ok => (accountedIff law input).mp ok)
      (startedLaw startingCashTick)
  · exact Machine.alongImp (P := fun engine log => TerminalLaw engine (log.map Prod.fst))
      (fun engine log input law inOrder => accountedNext ((accountedIff law input).mpr inOrder))
      (fun engine log input law inOrder => (accountedIff law input).mpr inOrder) (startedLaw startingCashTick)

def twoOrders : OrderPlan :=
  { planId := 1
    orders := [{orderId := 0, assetId := "a", assetIndex := 0, quantityLots := 10},
      {orderId := 1, assetId := "b", assetIndex := 1, quantityLots := 10}] }
def firstFilled : ExecutionReport :=
  {planId := 1, childOrderId := 0, status := .filled, filledLots := 10, avgFillPriceTick := 400000}
theorem oneOfTwoCounted :
    ¬ Machine.Along engineStep Accounted (started 0) []
      [.orderPlan twoOrders,.executionReport firstFilled] := by
  rintro ⟨_,⟨law,_⟩,_⟩
  have counted : (1 : UInt64) ∈
    ((started 0).onOrderPlan twoOrders |>.onExecutionReport firstFilled).filledPlanIds := by decide +kernel
  have second := law.filled 1 counted twoOrders rfl
    {orderId := 1, assetId := "b", assetIndex := 1, quantityLots := 10} (by decide +kernel)
  exact absurd second (by decide +kernel)

end Polytope.PaperTerminal
