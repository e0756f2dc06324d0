import Polytope.ExecutionAdapters
import Polytope.QuoteRisk

/-! LiveMakerExecutionAdapter: one group of at most two resting orders a quote. A new quote first
cancels the orders of its group, and a leg that fails takes the other one back. Signer and
transport are present; the null checks of the source are not modelled. -/
namespace Polytope.LiveMakerAdapter
open ExecutionTypes ExecutionAdapters
open QuoteTypes (QuoteSide QuoteLeg)
open QuoteRisk (ApprovedQuote computePaperMakerQuoteId)

structure MakerSubmitResult where
  ok : Bool := false
  duplicateIgnored : Bool := false
  replaced : Bool := false
  quoteId : UInt64 := 0
  error : String := ""
  deriving DecidableEq, Repr
structure MakerCancelResult where
  ok : Bool := false
  quoteId : UInt64 := 0
  error : String := ""
  deriving DecidableEq, Repr
structure AcceptedMakerOrder where
  quoteId : UInt64
  side : QuoteSide
  venueOrderId : String
  deriving DecidableEq, Repr

def orderSideFromQuoteSide : QuoteSide → OrderSide
  | .bid => .buy
  | .ask => .sell
def sideSuffix : QuoteSide → String
  | .bid => "bid"
  | .ask => "ask"
def childIdForSide (quoteId : UInt64) : QuoteSide → UInt64
  | .bid => quoteId ^^^ 0x9e3779b185ebca87
  | .ask => quoteId ^^^ 0xc2b2ae3d27d4eb4f
def lowerAscii (value : String) : String := String.ofList (value.toList.map Char.toLower)
def restingStatus (status : String) : Bool := decide (lowerAscii status = "live")

structure MakerState (β : Type) where
  bridge : β
  acceptedOrdersByGroup : AList (fun _ : UInt64 => List AcceptedMakerOrder) := ∅
  submittedIdempotencyHashes : List UInt64 := []

def notionalAllowed (config : LiveExecutionConfig) (quantityLots priceTick : Int) : Bool :=
  if config.maxChildNotionalTick ≤ 0 then true
  else if quantityLots ≤ 0 ∨ priceTick ≤ 0 then false
  else quantityLots * priceTick ≤ config.maxChildNotionalTick
def makeRequest (config : LiveExecutionConfig) (quote : ApprovedQuote) (leg : QuoteLeg) (side : QuoteSide)
    (quoteId : UInt64) :
    LiveOrderRequest :=
  { parentId := quote.quoteGroupId
    childId := (childIdForSide quoteId side).toNat
    clientOrderId := "maker-" ++ toString quote.approvedQuoteId.toNat ++ "-" ++ sideSuffix side
    marketId := leg.marketId
    assetId := leg.assetId
    side := orderSideFromQuoteSide side
    quantityLots := leg.quantityLots
    priceTick := leg.priceTick
    createdTsNs := quote.approvedTsNs
    expireAfterNs := quote.expiresAtNs
    orderType := config.defaultOrderType
    postOnly := config.makerPostOnly }

section
variable {β : Type} (bridge : LiveBridge β) (config : LiveExecutionConfig)

def sendLeg (b : β) (quote : ApprovedQuote) (leg : QuoteLeg) (side : QuoteSide) (quoteId : UInt64) :
    β × Except String String :=
  if sideAllowed config (orderSideFromQuoteSide side) = false then (b,.error "live maker order side disabled")
  else if leg.marketId = "" ∨ leg.assetId = "" then (b,.error "live maker quote leg missing market or asset")
  else if leg.quantityLots ≤ 0 ∨ leg.priceTick ≤ 0 then (b,.error "live maker quote leg has invalid size or price")
  else if notionalAllowed config leg.quantityLots leg.priceTick = false then
    (b,.error "live maker quote leg notional limit exceeded")
  else
    let (b,signed) := bridge.signOrder b (makeRequest config quote leg side quoteId)
    if signed.ok = false then (b,.error (if signed.error = "" then "live maker signing failed" else signed.error))
    else
      let (b,sent) := bridge.submitOrder b signed.requestBodyJson
      if sent.ok = false then (b,.error (if sent.error = "" then "live maker submit failed" else sent.error))
      else if config.makerRequireRestingAck ∧ restingStatus sent.venueStatus = false then
        (b,.error "live maker order did not rest on book")
      else
        let venueOrderId := if sent.venueOrderId = "" then signed.venueOrderIdHint else sent.venueOrderId
        if venueOrderId = "" then (b,.error "live maker submit missing venue_order_id") else (b,.ok venueOrderId)
def submitLeg (s : MakerState β) (quote : ApprovedQuote) (leg : QuoteLeg) (side : QuoteSide) (quoteId : UInt64) :
    MakerState β × MakerSubmitResult :=
  match sendLeg bridge config s.bridge quote leg side quoteId with
  | (b,.error error) => ({s with bridge := b},{quoteId, error})
  | (b,.ok venueOrderId) =>
    let orders := (s.acceptedOrdersByGroup.lookup quote.quoteGroupId).getD []
    ({s with
        bridge := b
        acceptedOrdersByGroup := s.acceptedOrdersByGroup.insert quote.quoteGroupId
          (orders ++ [⟨quoteId,side,venueOrderId⟩])},
      {ok := true, quoteId})

structure GroupWalk (β : Type) where
  bridge : β
  canceled : Nat := 0
  quoteId : UInt64 := 0
  firstError : String := ""
def cancelGroupOrder (w : GroupWalk β) (order : AcceptedMakerOrder) : GroupWalk β :=
  let (b,result) := bridge.cancelOrder w.bridge order.venueOrderId
  if result.ok then {w with bridge := b, quoteId := order.quoteId, canceled := w.canceled + 1}
  else {w with bridge := b
               quoteId := order.quoteId
               firstError := if w.firstError ≠ "" then w.firstError
                 else if result.error = "" then "live maker cancel failed" else result.error}
def cancelExistingGroup (s : MakerState β) (quoteGroupId : UInt64) : MakerState β × MakerCancelResult :=
  match s.acceptedOrdersByGroup.lookup quoteGroupId with
  | none => (s,{error := "quote group not active"})
  | some orders =>
    if orders = [] then (s,{error := "quote group not active"})
    else
      let w := orders.foldl (cancelGroupOrder bridge) {bridge := s.bridge}
      if w.canceled = orders.length then
        ({s with bridge := w.bridge, acceptedOrdersByGroup := s.acceptedOrdersByGroup.erase quoteGroupId},
          {ok := true, quoteId := w.quoteId})
      else
        ({s with bridge := w.bridge},
          {quoteId := w.quoteId, error := if w.firstError = "" then "live maker cancel failed" else w.firstError})

-- The active legs in the order they are sent; a leg that fails takes the group back.
def activeLegs (quote : ApprovedQuote) : List (QuoteLeg × QuoteSide) :=
  (if quote.hasBid then [(quote.bid,.bid)] else []) ++ (if quote.hasAsk then [(quote.ask,.ask)] else [])
def submitLegs (quote : ApprovedQuote) (quoteId : UInt64) : MakerState β → List (QuoteLeg × QuoteSide) →
    MakerState β × Option String
  | s,[] => (s,none)
  | s,(leg,side)::rest =>
    let (s,sent) := submitLeg bridge config s quote leg side quoteId
    if sent.ok = false then ((cancelExistingGroup bridge s quote.quoteGroupId).1,some sent.error)
    else submitLegs quote quoteId s rest
def placeQuote (s : MakerState β) (quote : ApprovedQuote) (result : MakerSubmitResult) :
    MakerState β × MakerSubmitResult :=
  let legs := activeLegs quote
  if legs.length = 0 ∨ config.maxQuoteOrdersPerGroup < legs.length then
    (s,{result with error := "invalid live maker quote leg count"})
  else
    match submitLegs bridge config quote result.quoteId s legs with
    | (s,some error) => (s,{result with error})
    | (s,none) =>
      ({s with submittedIdempotencyHashes := if quote.idempotencyHash = 0 then s.submittedIdempotencyHashes
          else quote.idempotencyHash::s.submittedIdempotencyHashes},
        {result with ok := true})
def submitApprovedQuote (s : MakerState β) (quote : ApprovedQuote) (nowNs : Nat) :
    MakerState β × MakerSubmitResult :=
  let quoteId := computePaperMakerQuoteId quote
  if config.enabled = false then (s,{quoteId, error := "live maker execution adapter is disabled"})
  else if quote.hasBid = false ∧ quote.hasAsk = false then
    (s,{quoteId, error := "approved quote has no active sides"})
  else if quote.expiresAtNs ≠ 0 ∧ quote.expiresAtNs ≤ nowNs then (s,{quoteId, error := "approved quote expired"})
  else if quote.idempotencyHash ≠ 0 ∧ quote.idempotencyHash ∈ s.submittedIdempotencyHashes then
    (s,{ok := true, duplicateIgnored := true, quoteId})
  else if quote.quoteGroupId ∈ s.acceptedOrdersByGroup then
    let (s,cancel) := cancelExistingGroup bridge s quote.quoteGroupId
    if cancel.ok = false then (s,{quoteId, error := "failed to replace active live quote: " ++ cancel.error})
    else placeQuote bridge config s quote {quoteId, replaced := true}
  else placeQuote bridge config s quote {quoteId}
def cancelQuoteGroup (s : MakerState β) (quoteGroupId : UInt64) : MakerState β × MakerCancelResult :=
  if config.enabled = false then (s,{error := "live maker execution adapter is disabled"})
  else cancelExistingGroup bridge s quoteGroupId

end
end Polytope.LiveMakerAdapter
