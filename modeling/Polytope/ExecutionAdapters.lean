import Polytope.ExecutionGateway

/-! The adapters behind the gateway: simulated fills against the given depth, the live venue
with its signer and transport, and the sandbox that refuses everything. Signer and transport
are outside the repository's control and stay parameters. -/
namespace Polytope.ExecutionAdapters
open ExecutionTypes ExecutionGateway FixedPointMath
open MarketDepth (PriceLevel MarketStateSnapshot MarketDepthView)

/-! Paper. -/

structure FillSimulation where
  snapshotFound : Bool := false
  full : Bool := false
  isPartial : Bool := false
  filledLots : Int := 0
  remainingLots : Int := 0
  avgFillPriceTick : Int := 0
  rejectReason : String := ""
  deriving DecidableEq, Repr

-- Sizes beyond the 64-bit range are undefined in the source and clipped here.
def sizeToLots (size : Binary64.Double) : Int :=
  if Binary64.isFinite size = false ∨ Binary64.value size ≤ 0 then 0 else clampI64 (Binary64.value size).floor

structure BuyWalk where
  remaining : Int
  filled : Int := 0
  notional : Int := 0
  deriving DecidableEq, Repr
def buyLevel (limitPriceTick : Int) (w : BuyWalk) (level : PriceLevel) : BuyWalk :=
  if w.remaining ≤ 0 then w
  else if level.priceTick ≤ 0 ∨ limitPriceTick < level.priceTick then w
  else
    let available := sizeToLots level.size
    if available ≤ 0 then w
    else
      let take := min w.remaining available
      ⟨w.remaining - take,w.filled + take,wrapI64 (w.notional + take * level.priceTick)⟩
def simulateDepth (order : ChildOrder) (usable : Bool) (asks : List PriceLevel) : FillSimulation :=
  if usable = false ∨ asks = [] then
    {snapshotFound := true, remainingLots := order.quantityLots, rejectReason := "InsufficientDepth"}
  else
    let w := asks.foldl (buyLevel order.limitPriceTick) {remaining := order.quantityLots}
    let full := decide (w.filled = order.quantityLots)
    { snapshotFound := true
      full
      isPartial := decide (0 < w.filled) && !full
      filledLots := w.filled
      remainingLots := w.remaining
      avgFillPriceTick := if 0 < w.filled then w.notional.tdiv w.filled else 0
      rejectReason := if full then "" else "InsufficientDepth" }
def simulateBuy (order : ChildOrder) (ctx : ExecutionContext) : FillSimulation :=
  match ctx.depthViews.find? (fun v => decide (v.assetIndex = order.assetIndex)) with
  | some v => simulateDepth order v.usableForDepth v.asks
  | none =>
    match ctx.snapshots.find? (fun s => decide (s.entityId = order.assetId)) with
    | none => {remainingLots := order.quantityLots, rejectReason := "MissingSnapshot"}
    | some s => simulateDepth order s.usableForDepth s.asks
def simulate (ctx : ExecutionContext) (order : ChildOrder) : FillSimulation :=
  if order.side = .buy then simulateBuy order ctx
  else {remainingLots := order.quantityLots, rejectReason := "UnsupportedSide"}

def makeReport (plan : OrderPlan) (order : ChildOrder) (status : ChildOrderStatus) (fill : FillSimulation)
    (nowNs : Nat) (rejectReason : String) : ExecutionReport :=
  { planId := plan.planId
    childOrderId := order.orderId
    status
    rejectReason := if rejectReason = "" then fill.rejectReason else rejectReason
    filledLots := fill.filledLots
    remainingLots := fill.remainingLots
    avgFillPriceTick := fill.avgFillPriceTick
    eventTsNs := nowNs }
def noFill (order : ChildOrder) (fill : FillSimulation) : FillSimulation :=
  {fill with filledLots := 0, remainingLots := order.quantityLots, avgFillPriceTick := 0}

def paperAtomic (plan : OrderPlan) (ctx : ExecutionContext) : List ExecutionReport × AdapterSubmitResult :=
  if plan.orders.all fun o => (simulate ctx o).full then
    (plan.orders.map fun o => makeReport plan o .filled (simulate ctx o) ctx.nowNs "",
      { ok := true, planId := plan.planId, status := .filled
        childOrdersSubmitted := plan.orders.length, code := .ok })
  else
    (plan.orders.map fun o => makeReport plan o .failed (noFill o (simulate ctx o)) ctx.nowNs "",
      { planId := plan.planId, status := .failed, childOrdersRejected := plan.orders.length
        error := "paper atomic fill failed" })
def sequentialStatus (config : ExecutionConfig) (fill : FillSimulation) : ChildOrderStatus :=
  if fill.full then .filled
  else if fill.isPartial ∧ config.allowPartialFillPaper then .partiallyFilled
  else .failed
def paperSequential (plan : OrderPlan) (ctx : ExecutionContext) : List ExecutionReport × AdapterSubmitResult :=
  let status := fun o => sequentialStatus ctx.config (simulate ctx o)
  let count := fun s => plan.orders.countP fun o => decide (status o = s)
  let rejected := count .failed
  (plan.orders.map fun o => makeReport plan o (status o)
      (if status o = .failed then noFill o (simulate ctx o) else simulate ctx o) ctx.nowNs "",
    { ok := rejected = 0
      planId := plan.planId
      status := if 0 < count .partiallyFilled then .partiallyFilled else if rejected = 0 then .filled else .failed
      childOrdersSubmitted := count .filled + count .partiallyFilled
      childOrdersRejected := rejected
      code := if rejected = 0 then .ok else .adapterError
      error := if rejected = 0 then "" else "paper sequential fill failed" })
def paperSubmit (plan : OrderPlan) (ctx : ExecutionContext) : List ExecutionReport × AdapterSubmitResult :=
  if plan.expireAfterNs ≠ 0 ∧ plan.expireAfterNs ≤ ctx.nowNs then
    (plan.orders.map fun o => makeReport plan o .failed {remainingLots := o.quantityLots} ctx.nowNs "Expired",
      { planId := plan.planId, status := .failed, childOrdersRejected := plan.orders.length
        error := "paper plan expired" })
  else if ctx.config.paperMode = .paperAtomic then paperAtomic plan ctx
  else paperSequential plan ctx
def paper : Adapter (List ExecutionReport) where
  submitPlan _ plan ctx := paperSubmit plan ctx
  pollReports pending := ([],pending)
  cancelPlan pending planId := (pending,{ok := true, planId, code := .ok})

def sandbox : Adapter Unit where
  submitPlan _ plan _ := ((),
    {planId := plan.planId, status := .failed, error := "sandbox execution adapter is not wired"})
  pollReports _ := ((),[])
  cancelPlan _ planId := ((),{planId, error := "sandbox execution adapter is not wired"})

/-! Live. -/

structure LiveExecutionConfig where
  enabled : Bool := false
  requireExecutionEnabled : Bool := true
  requireContextLiveEnabled : Bool := true
  maxChildOrdersPerPlan : Nat := 1
  maxQuoteOrdersPerGroup : Nat := 2
  maxChildNotionalTick : Int := 0
  allowBuyOrders : Bool := true
  allowSellOrders : Bool := true
  rejectExpiredPlans : Bool := true
  makerPostOnly : Bool := true
  makerRequireRestingAck : Bool := true
  defaultOrderType : String := "GTC"
  deriving DecidableEq, Repr
structure LiveOrderRequest where
  parentId : UInt64
  childId : Nat
  clientOrderId : String
  marketId : String
  assetId : String
  side : OrderSide
  quantityLots : Int
  priceTick : Int
  createdTsNs : Nat
  expireAfterNs : Nat
  orderType : String
  postOnly : Bool
  deriving DecidableEq, Repr
structure LiveOrderSignResult where
  ok : Bool := false
  requestBodyJson : String := ""
  venueOrderIdHint : String := ""
  error : String := ""
  deriving DecidableEq, Repr
structure LiveTransportSubmitResult where
  ok : Bool := false
  venueOrderId : String := ""
  venueStatus : String := ""
  error : String := ""
  deriving DecidableEq, Repr
structure LiveTransportCancelResult where
  ok : Bool := false
  error : String := ""
  deriving DecidableEq, Repr
structure LiveBridge (β : Type) where
  signOrder : β → LiveOrderRequest → β × LiveOrderSignResult
  submitOrder : β → String → β × LiveTransportSubmitResult
  cancelOrder : β → String → β × LiveTransportCancelResult

structure LiveState (β : Type) where
  bridge : β
  pendingReports : List ExecutionReport := []
  acceptedOrdersByPlan : AList (fun _ : UInt64 => List (Nat × String)) := ∅

def liveReport (plan : OrderPlan) (order : ChildOrder) (status : ChildOrderStatus) (nowNs : Nat)
    (venueOrderId rejectReason : String) : ExecutionReport :=
  { planId := plan.planId
    childOrderId := order.orderId
    status
    venueOrderId
    rejectReason
    filledLots := 0
    remainingLots := if status = .acked then order.quantityLots else 0
    eventTsNs := nowNs }
def liveContextEnabled (config : LiveExecutionConfig) (ctx : ExecutionContext) : Bool :=
  config.enabled && decide (ctx.config.mode = .live) &&
    (!config.requireExecutionEnabled || ctx.config.executionEnabled) &&
    (!config.requireContextLiveEnabled || ctx.config.liveEnabled)
def disabledReason (config : LiveExecutionConfig) (ctx : ExecutionContext) : String :=
  if config.enabled = false then "live execution adapter is disabled"
  else if ctx.config.mode ≠ .live then "execution context is not live mode"
  else if config.requireExecutionEnabled ∧ ctx.config.executionEnabled = false then "execution is not enabled"
  else if config.requireContextLiveEnabled ∧ ctx.config.liveEnabled = false then "live execution is not enabled"
  else "live execution unavailable"
def sideAllowed (config : LiveExecutionConfig) (side : OrderSide) : Bool :=
  (decide (side = .buy) && config.allowBuyOrders) || (decide (side = .sell) && config.allowSellOrders)
def childNotionalAllowed (config : LiveExecutionConfig) (order : ChildOrder) : Bool :=
  if config.maxChildNotionalTick ≤ 0 then true
  else if order.quantityLots ≤ 0 ∨ order.limitPriceTick ≤ 0 then false
  else order.quantityLots * order.limitPriceTick ≤ config.maxChildNotionalTick
def makeRequest (config : LiveExecutionConfig) (plan : OrderPlan) (order : ChildOrder) : LiveOrderRequest :=
  { parentId := plan.planId
    childId := order.orderId
    clientOrderId := order.clientOrderId
    marketId := order.marketId
    assetId := order.assetId
    side := order.side
    quantityLots := order.quantityLots
    priceTick := order.limitPriceTick
    createdTsNs := plan.createdTsNs
    expireAfterNs := plan.expireAfterNs
    orderType := config.defaultOrderType
    postOnly := false }

section Live
variable {β : Type} (bridge : LiveBridge β) (config : LiveExecutionConfig)

def sendOrder (plan : OrderPlan) (b : β) (order : ChildOrder) : β × Except String String :=
  if sideAllowed config order.side = false then (b,.error "live order side disabled")
  else if childNotionalAllowed config order = false then (b,.error "live child notional limit exceeded")
  else
    let (b,signed) := bridge.signOrder b (makeRequest config plan order)
    if signed.ok = false then (b,.error (if signed.error = "" then "live order signing failed" else signed.error))
    else
      let (b,sent) := bridge.submitOrder b signed.requestBodyJson
      if sent.ok = false then (b,.error (if sent.error = "" then "live order submit failed" else sent.error))
      else
        let venueOrderId := if sent.venueOrderId = "" then signed.venueOrderIdHint else sent.venueOrderId
        if venueOrderId = "" then (b,.error "live order submit missing venue_order_id") else (b,.ok venueOrderId)

structure LiveWalk (β : Type) where
  bridge : β
  accepted : List (Nat × String) := []
  rejected : Nat := 0
  reports : List ExecutionReport := []
def liveOrder (plan : OrderPlan) (nowNs : Nat) (w : LiveWalk β) (order : ChildOrder) : LiveWalk β :=
  match sendOrder bridge config plan w.bridge order with
  | (b,.error reason) =>
    {w with bridge := b, rejected := w.rejected + 1
            reports := w.reports ++ [liveReport plan order .failed nowNs "" reason]}
  | (b,.ok venueOrderId) =>
    {w with bridge := b, accepted := w.accepted ++ [(order.orderId,venueOrderId)]
            reports := w.reports ++ [liveReport plan order .acked nowNs venueOrderId ""]}

def liveSubmit (s : LiveState β) (plan : OrderPlan) (ctx : ExecutionContext) : LiveState β × AdapterSubmitResult :=
  let s := {s with pendingReports := []}
  let refused : String → AdapterSubmitResult := fun error =>
    {planId := plan.planId, status := .failed, childOrdersRejected := plan.orders.length, error}
  if liveContextEnabled config ctx = false then
    (s,
      { planId := plan.planId
        status := .failed
        code := .liveExecutionDisabled
        error := disabledReason config ctx })
  else if plan.orders = [] ∨ min config.maxChildOrdersPerPlan kMaxChildOrdersPerPlan < plan.orders.length then
    (s,refused "invalid live order_count")
  else if config.rejectExpiredPlans ∧ plan.expireAfterNs ≠ 0 ∧ plan.expireAfterNs ≤ ctx.nowNs then
    ({s with pendingReports := plan.orders.map fun o => liveReport plan o .failed ctx.nowNs "" "Expired"},
      refused "live plan expired")
  else
    let w := plan.orders.foldl (liveOrder bridge config plan ctx.nowNs) {bridge := s.bridge}
    let ok := decide (w.rejected = 0) && decide (0 < w.accepted.length)
    ({s with
        bridge := w.bridge
        pendingReports := w.reports
        acceptedOrdersByPlan := if w.accepted = [] then s.acceptedOrdersByPlan
          else s.acceptedOrdersByPlan.insert plan.planId w.accepted},
      { ok
        planId := plan.planId
        status := if ok then .acked else .failed
        childOrdersSubmitted := w.accepted.length
        childOrdersRejected := w.rejected
        code := if ok then .ok else .adapterError
        error := if w.rejected = 0 then "" else "one or more live child orders failed" })

structure CancelWalk (β : Type) where
  bridge : β
  canceled : Nat := 0
  firstError : String := ""
def cancelVenueOrder (w : CancelWalk β) (order : Nat × String) : CancelWalk β :=
  let (b,result) := bridge.cancelOrder w.bridge order.2
  if result.ok then {w with bridge := b, canceled := w.canceled + 1}
  else {w with bridge := b
               firstError := if w.firstError ≠ "" then w.firstError
                 else if result.error = "" then "live cancel failed" else result.error}
def liveCancel (s : LiveState β) (planId : UInt64) : LiveState β × AdapterCancelResult :=
  if config.enabled = false then
    (s,{planId, code := .liveExecutionDisabled, error := "live execution adapter is disabled"})
  else
    match s.acceptedOrdersByPlan.lookup planId with
    | none => (s,{planId, error := "no live venue orders for plan"})
    | some orders =>
      if orders = [] then (s,{planId, error := "no live venue orders for plan"})
      else
        let w := orders.foldl (cancelVenueOrder bridge) {bridge := s.bridge}
        if w.canceled = orders.length then
          ({s with bridge := w.bridge, acceptedOrdersByPlan := s.acceptedOrdersByPlan.erase planId},
            {ok := true, planId, code := .ok})
        else
          ({s with bridge := w.bridge},
            {planId, error := if w.firstError = "" then "live cancel failed" else w.firstError})

def live : Adapter (LiveState β) where
  submitPlan := liveSubmit bridge config
  pollReports s := ({s with pendingReports := []},s.pendingReports)
  cancelPlan := liveCancel bridge config

end Live
end Polytope.ExecutionAdapters
