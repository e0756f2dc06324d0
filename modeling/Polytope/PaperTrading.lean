import Polytope.PaperAccounting
import Polytope.MarketDepth

/-! PaperTradingEngine: reports become fills through the observed plans, fills go to the ledger and to a
portfolio of its own, and the dashboard marks positions and filled orders from the latest depth views.
Events that carry no fill, plan or mark only move counters and are one input here. -/
namespace Polytope.PaperTrading
open ExecutionTypes PaperAccounting MarketDepth

/-! PaperEventAdapter and PaperPortfolio. -/

abbrev ByKey (β : Type) := AList (fun _ : UInt64 => β)
open Fnv in
def childKey (planId : UInt64) (childOrderId : Nat) : UInt64 := mixNat (mixU64 reportIdOffset planId) childOrderId

def observeReport (childOrders : ByKey ChildOrder) (report : ExecutionReport) : Option FillApplication := do
  guard (isFillStatus report.status = true ∧ 0 < report.filledLots)
  let order ← childOrders.lookup (childKey report.planId report.childOrderId)
  if order.assetId = "" then none
  else some {report, assetId := order.assetId, assetIndex := order.assetIndex, side := order.side}

def portfolioApply (positions : Positions) (fill : FillApplication) : Positions × PositionLedgerApplyResult :=
  if fill.side = .sell then (positions,{status := .unsupportedSell})
  else if fill.assetId = "" ∨ fill.report.filledLots ≤ 0 ∨ fill.report.avgFillPriceTick < 0 then (positions,{})
  else
    (applyBuy positions fill.assetId fill.assetIndex fill.report.filledLots
      (fill.report.filledLots * fill.report.avgFillPriceTick),
      {applied := true, status := .applied})

/-! Marks. -/

inductive MarkQuality where | good | missingBid | missingAsk | missingBook | degraded | noPosition
  deriving DecidableEq, Repr
structure MarkPrice where
  assetIndex : Nat := 0
  midMarkTick : Int := 0
  liquidationMarkTick : Int := 0
  midQuality : MarkQuality := .missingBook
  liquidationQuality : MarkQuality := .missingBook
  deriving DecidableEq, Repr
def degraded (view : MarketDepthView) : Bool :=
  !view.usableForDepth || view.recovering || view.crossed || view.closed || view.resolved
def markFromDepth (view : MarketDepthView) : MarkPrice :=
  match view.bids.head?,view.asks.head? with
  | none,none => {assetIndex := view.assetIndex, midQuality := .missingBook, liquidationQuality := .missingBid}
  | none,some _ => {assetIndex := view.assetIndex, midQuality := .missingBid, liquidationQuality := .missingBid}
  | some bid,ask =>
    let quality := if degraded view then .degraded else .good
    let mark : MarkPrice :=
      {assetIndex := view.assetIndex, liquidationMarkTick := bid.priceTick, liquidationQuality := quality}
    match ask with
    | none => {mark with midQuality := .missingAsk}
    | some ask => {mark with midMarkTick := (bid.priceTick + ask.priceTick).tdiv 2, midQuality := quality}

def findDepth (views : List MarketDepthView) (assetIndex : Nat) : Option MarketDepthView :=
  views.find? fun view => view.assetIndex = assetIndex
def worse (lhs rhs : MarkQuality) : MarkQuality := if rhs.ctorIdx ≤ lhs.ctorIdx then lhs else rhs
structure PaperPnLResult where
  equityMidTick : Int := 0
  equityLiquidationTick : Int := 0
  realizedPnlTick : Int := 0
  unrealizedPnlMidTick : Int := 0
  unrealizedPnlLiquidationTick : Int := 0
  worstMarkQuality : MarkQuality := .good
-- A position whose index has no view keeps the default mark.
def positionMark (views : List MarketDepthView) (position : Position) : MarkPrice :=
  ((findDepth views position.assetIndex).map markFromDepth).getD {}
def addPosition (views : List MarketDepthView) (result : PaperPnLResult) (position : Position) : PaperPnLResult :=
  let mark := positionMark views position
  let midValue := position.qtyLots * mark.midMarkTick
  let liquidationValue := position.qtyLots * mark.liquidationMarkTick
  { result with
    equityMidTick := result.equityMidTick + midValue
    equityLiquidationTick := result.equityLiquidationTick + liquidationValue
    unrealizedPnlMidTick := result.unrealizedPnlMidTick + (midValue - position.costBasisTick)
    unrealizedPnlLiquidationTick :=
      result.unrealizedPnlLiquidationTick + (liquidationValue - position.costBasisTick)
    worstMarkQuality := worse (worse result.worstMarkQuality mark.midQuality) mark.liquidationQuality }
def computePnl (positions : Positions) (cash : CashLedger) (views : List MarketDepthView) : PaperPnLResult :=
  (positions.entries.map Sigma.snd).foldl (addPosition views)
    {equityMidTick := cash.cashTick, equityLiquidationTick := cash.cashTick,
      realizedPnlTick := cash.realizedPnlTick}

/-! The engine. -/

structure ObservedChildOrder where
  order : ChildOrder := {}
  sourceIntentId : UInt64 := 0
  approvedIntentId : UInt64 := 0
  reservationId : UInt64 := 0
  bundleId : UInt64 := 0
structure PlanTerminalState where
  planId : UInt64 := 0
  bundleId : UInt64 := 0
  sourceIntentId : UInt64 := 0
  approvedIntentId : UInt64 := 0
  reservationId : UInt64 := 0
  expectedChildOrders : Nat := 0
  filledChildOrders : Nat := 0
  chosenBundleQty : Int := 0
  guaranteedPayoutTick : Int := 0
  expectedTerminalPnlTick : Int := 0
  actualBuyCostTick : Int := 0
  updatedTsNs : Nat := 0
  deriving DecidableEq, Repr
-- The side is the order's own; the source keeps its name as a string.
structure PaperFilledOrderSnapshot where
  executionReportId : UInt64 := 0
  planId : UInt64 := 0
  childOrderId : Nat := 0
  bundleId : UInt64 := 0
  sourceIntentId : UInt64 := 0
  approvedIntentId : UInt64 := 0
  reservationId : UInt64 := 0
  marketId : String := ""
  assetId : String := ""
  marketIndex : Nat := 0
  assetIndex : Nat := 0
  side : OrderSide := .buy
  filledLots : Int := 0
  remainingLots : Int := 0
  avgFillPriceTick : Int := 0
  limitPriceTick : Int := 0
  estimatedVwapTick : Int := 0
  worstPriceTick : Int := 0
  notionalTick : Int := 0
  markPriceTick : Int := 0
  unrealizedPnlTick : Int := 0
  markQuality : String := ""
  eventTsNs : Nat := 0
  deriving DecidableEq, Repr

structure PaperTradingEngine where
  adapterOrders : ByKey ChildOrder := ∅
  ledger : PaperLedger := {}
  portfolio : Positions := ∅
  filledNotionalTick : Int := 0
  depthViews : List MarketDepthView := []
  filledOrders : List PaperFilledOrderSnapshot := []
  filledPlanIds : List UInt64 := []
  failedPlanIds : List UInt64 := []
  childOrders : ByKey ObservedChildOrder := ∅
  terminalByPlan : ByKey PlanTerminalState := ∅
  assetIndexByAssetId : AList (fun _ : String => Nat) := ∅

def isFilledReport (status : ChildOrderStatus) : Bool := status = .filled
def isFailedReport (status : ChildOrderStatus) : Bool := status = .failed ∨ status = .expired ∨ status = .cancelled

def terminalOf (plan : OrderPlan) : PlanTerminalState :=
  { planId := plan.planId
    bundleId := plan.bundleId
    sourceIntentId := plan.sourceIntentId
    approvedIntentId := plan.approvedIntentId
    reservationId := plan.reservationId
    expectedChildOrders := plan.orders.length
    chosenBundleQty := plan.chosenBundleQty
    guaranteedPayoutTick := plan.guaranteedPayoutTick
    expectedTerminalPnlTick := plan.expectedTerminalPnlTick
    updatedTsNs := plan.createdTsNs }
def filledOrderOf (fill : FillApplication) (observed : Option ObservedChildOrder) : PaperFilledOrderSnapshot :=
  let filled : PaperFilledOrderSnapshot :=
    { executionReportId := deriveExecutionReportId fill
      planId := fill.report.planId
      childOrderId := fill.report.childOrderId
      assetId := fill.assetId
      assetIndex := fill.assetIndex
      side := fill.side
      filledLots := fill.report.filledLots
      remainingLots := fill.report.remainingLots
      avgFillPriceTick := fill.report.avgFillPriceTick
      notionalTick := fill.report.filledLots * fill.report.avgFillPriceTick
      eventTsNs := fill.report.eventTsNs
      markQuality := "MissingMark" }
  match observed with
  | none => filled
  | some observed =>
    { filled with
      bundleId := observed.bundleId
      sourceIntentId := observed.sourceIntentId
      approvedIntentId := observed.approvedIntentId
      reservationId := observed.reservationId
      marketId := observed.order.marketId
      assetId := observed.order.assetId
      marketIndex := observed.order.marketIndex
      assetIndex := observed.order.assetIndex
      side := observed.order.side
      limitPriceTick := observed.order.limitPriceTick
      estimatedVwapTick := observed.order.estimatedVwapTick
      worstPriceTick := observed.order.worstAllowedPriceTick }
-- The count of fills is a 16-bit one.
def PlanTerminalState.filledBy (terminal : PlanTerminalState) (filled : PaperFilledOrderSnapshot) :
    PlanTerminalState :=
  { terminal with
    actualBuyCostTick := terminal.actualBuyCostTick + filled.notionalTick
    filledChildOrders := (terminal.filledChildOrders + 1) % 65536
    updatedTsNs := filled.eventTsNs }

def placed (view : MarketDepthView) : List MarketDepthView → List MarketDepthView
  | [] => [view]
  | other::rest => if other.assetIndex = view.assetIndex then view::rest else other::placed view rest

namespace PaperTradingEngine

def recordOrder (plan : OrderPlan) (engine : PaperTradingEngine) (order : ChildOrder) : PaperTradingEngine :=
  { engine with
    assetIndexByAssetId :=
      if order.assetId ≠ "" then engine.assetIndexByAssetId.insert order.assetId order.assetIndex
      else engine.assetIndexByAssetId
    childOrders := engine.childOrders.insert (childKey plan.planId order.orderId)
      { order
        sourceIntentId := plan.sourceIntentId
        approvedIntentId := plan.approvedIntentId
        reservationId := plan.reservationId
        bundleId := plan.bundleId } }
def recordOrderPlan (engine : PaperTradingEngine) (plan : OrderPlan) : PaperTradingEngine :=
  plan.orders.foldl (recordOrder plan)
    {engine with terminalByPlan := engine.terminalByPlan.insert plan.planId (terminalOf plan)}
def observePlan (engine : PaperTradingEngine) (plan : OrderPlan) : PaperTradingEngine :=
  { engine with
    adapterOrders :=
      plan.orders.foldl (fun orders order => orders.insert (childKey plan.planId order.orderId) order)
        engine.adapterOrders }
def onOrderPlan (engine : PaperTradingEngine) (plan : OrderPlan) : PaperTradingEngine :=
  (engine.recordOrderPlan plan).observePlan plan

def recordFilledOrder (engine : PaperTradingEngine) (fill : FillApplication) : PaperTradingEngine :=
  let filled := filledOrderOf fill
    (engine.childOrders.lookup (childKey fill.report.planId fill.report.childOrderId))
  { engine with
    filledOrders := engine.filledOrders ++ [filled]
    terminalByPlan :=
      match engine.terminalByPlan.lookup fill.report.planId with
      | some terminal => engine.terminalByPlan.insert fill.report.planId (terminal.filledBy filled)
      | none => engine.terminalByPlan }
def handleFill (engine : PaperTradingEngine) (fill : FillApplication) : PaperTradingEngine :=
  let result := applyExecutionFill engine.ledger fill
  let engine := {engine with ledger := result.1}
  if result.2.applied then
    let engine := {engine with portfolio := (portfolioApply engine.portfolio fill).1}.recordFilledOrder fill
    {engine with
      filledNotionalTick := engine.filledNotionalTick + fill.report.filledLots * fill.report.avgFillPriceTick}
  else engine
def countReport (engine : PaperTradingEngine) (report : ExecutionReport) : PaperTradingEngine :=
  { engine with
    filledPlanIds := if isFilledReport report.status then engine.filledPlanIds.insert report.planId
      else engine.filledPlanIds
    failedPlanIds := if isFailedReport report.status then engine.failedPlanIds.insert report.planId
      else engine.failedPlanIds }
def onExecutionReport (engine : PaperTradingEngine) (report : ExecutionReport) : PaperTradingEngine :=
  match observeReport engine.adapterOrders report with
  | some fill => (engine.countReport report).handleFill fill
  | none => engine.countReport report

def onMarkSnapshot (engine : PaperTradingEngine) (snapshot : MarketStateSnapshot) : PaperTradingEngine :=
  let assetIndex := (engine.assetIndexByAssetId.lookup snapshot.entityId).getD 0
  {engine with depthViews := placed (marketDepthViewFromSnapshot snapshot assetIndex) engine.depthViews}

/-! The read side. -/

def pnl (engine : PaperTradingEngine) : PaperPnLResult :=
  computePnl engine.portfolio engine.ledger.cash engine.depthViews
def orderMark (views : List MarketDepthView) (assetIndex : Nat) : Int × String :=
  match findDepth views assetIndex with
  | none => (0,"MissingMark")
  | some view =>
    match view.bids.head?,view.asks.head? with
    | some bid,some ask => ((bid.priceTick + ask.priceTick).tdiv 2,"Mid")
    | some bid,none => (bid.priceTick,"BidOnly")
    | none,some ask => (ask.priceTick,"AskOnly")
    | none,none => (0,"MissingMark")
def markedOrder (views : List MarketDepthView) (order : PaperFilledOrderSnapshot) : PaperFilledOrderSnapshot :=
  let mark := orderMark views order.assetIndex
  let priceDelta := if order.side = .buy then mark.1 - order.avgFillPriceTick else order.avgFillPriceTick - mark.1
  {order with
    markPriceTick := mark.1
    markQuality := mark.2
    unrealizedPnlTick := order.filledLots * priceDelta}
def filledOrderSnapshots (engine : PaperTradingEngine) : List PaperFilledOrderSnapshot :=
  engine.filledOrders.map (markedOrder engine.depthViews)

end PaperTradingEngine

def PlanTerminalState.complete (terminal : PlanTerminalState) : Bool :=
  0 < terminal.expectedChildOrders ∧ terminal.expectedChildOrders ≤ terminal.filledChildOrders

inductive PaperInput where
  | executionReport (report : ExecutionReport)
  | orderPlan (plan : OrderPlan)
  | markSnapshot (snapshot : MarketStateSnapshot)
  | observation
def engineStep (engine : PaperTradingEngine) : PaperInput → PaperTradingEngine × Unit
  | .executionReport report => (engine.onExecutionReport report,())
  | .orderPlan plan => (engine.onOrderPlan plan,())
  | .markSnapshot snapshot => (engine.onMarkSnapshot snapshot,())
  | .observation => (engine,())
def started (startingCashTick : Int) : PaperTradingEngine := {ledger := opened startingCashTick}

end Polytope.PaperTrading
