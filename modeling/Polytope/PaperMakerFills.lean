import Mathlib.Algebra.Order.BigOperators.Group.List
import Polytope.ExecutionTypes
import Polytope.PaperQuoteBook

/-! PaperMakerExecutionAdapter on a market event: every active quote of the asset is filled against what
the event shows, by the fill model's mode. The trade's aggressor side is not read. -/
namespace Polytope.PaperMakerFills
open FixedPointMath MarketDepth QuoteTypes PaperQuoteBook
open ExecutionTypes (FillLiquidityRole)
open ActivePaperQuoteBook (filledQuote)

inductive PaperMakerFillMode where | noFill | conservative | bookCross | midCross | queueAware
  deriving DecidableEq, Repr
structure PaperMakerExecutionConfig where
  fillMode : PaperMakerFillMode := .conservative
  allowPartialFills : Bool := true
  maxFillQtyPerTrade : Int := 0
  queueMinRestNs : Nat := 250000000
structure PaperMakerMarketEvent where
  tsNs : Nat := 0
  assetIndex : Nat := 0
  depth : Option MarketDepthView := none
  hasTrade : Bool := false
  tradePriceTick : Int := 0
  tradeQtyLots : Int := 0

structure MakerFillResult where
  filled : Bool := false
  quoteId : UInt64 := 0
  approvedQuoteId : UInt64 := 0
  quoteGroupId : UInt64 := 0
  assetIndex : Nat := 0
  assetId : String := ""
  side : QuoteSide := .bid
  filledQtyLots : Int := 0
  fillPriceTick : Int := 0
  tsNs : Nat := 0
  reason : String := ""
structure MakerExecutionReport where
  reportId : UInt64 := 0
  quoteId : UInt64 := 0
  approvedQuoteId : UInt64 := 0
  quoteGroupId : UInt64 := 0
  assetIndex : Nat := 0
  assetId : String := ""
  side : QuoteSide := .bid
  status : MakerQuoteStatus := .activePaper
  liquidityRole : FillLiquidityRole := .maker
  filledQtyLots : Int := 0
  avgFillPriceTick : Int := 0
  remainingQtyLots : Int := 0
  exchangeTsNs : Nat := 0
  recvTsNs : Nat := 0
  reason : String := ""

open Fnv in
def computeMakerExecutionReportHash (r : MakerExecutionReport) : UInt64 :=
  let hash := mixNat ([r.quoteId,r.approvedQuoteId,r.quoteGroupId].foldl mixU64 offset) r.assetIndex
  let hash := [r.side.ctorIdx,r.status.ctorIdx,r.liquidityRole.ctorIdx].foldl mixNat hash
  let hash := [r.filledQtyLots,r.avgFillPriceTick,r.remainingQtyLots].foldl mixI64 hash
  let hash := mixNat (mixNat hash r.exchangeTsNs) r.recvTsNs
  if hash = 0 then 1 else hash

/-! PaperMakerFillModel. -/

-- The size is not bounded first. Beyond the words the conversion is undefined; taken is the least word, as the
-- processor gives.
def levelSizeLots (level : PriceLevel) : Int :=
  if Binary64.isFinite level.size = false ∨ Binary64.value level.size ≤ 0 then 0
  else if 9223372036854775808 ≤ Binary64.value level.size then i64Min
  else (Binary64.value level.size).floor
def hasSide (quote : PaperMakerQuote) : QuoteSide → Bool
  | .bid => quote.hasBid
  | .ask => quote.hasAsk
def legOf (quote : PaperMakerQuote) : QuoteSide → QuoteLeg
  | .bid => quote.bid
  | .ask => quote.ask
-- In the books the calls build the filled lots lie between zero and the quantity, so the difference is an int64.
def unfilled (quote : PaperMakerQuote) (side : QuoteSide) : Int :=
  (legOf quote side).quantityLots - filledLots quote side
def remainingFor (quote : PaperMakerQuote) (side : QuoteSide) : Int :=
  if hasSide quote side then max 0 (unfilled quote side) else 0

def makeFill (quote : PaperMakerQuote) (side : QuoteSide) (qty price : Int) (ts : Nat) (reason : String) :
    MakerFillResult :=
  { filled := 0 < qty
    quoteId := quote.quoteId
    approvedQuoteId := quote.approvedQuoteId
    quoteGroupId := quote.quoteGroupId
    assetIndex := quote.assetIndex
    assetId := quote.assetId
    side
    filledQtyLots := qty
    fillPriceTick := price
    tsNs := ts
    reason }

def cappedQty (remaining evidenceQty : Int) (allowPartialFills : Bool) (maxFillQtyPerTrade : Int) : Int :=
  if remaining ≤ 0 ∨ evidenceQty ≤ 0 then 0
  else
    let qty := if allowPartialFills then min remaining evidenceQty
      else if remaining ≤ evidenceQty then remaining else 0
    if 0 < maxFillQtyPerTrade then min qty maxFillQtyPerTrade else qty

-- What each mode lets an event show to one side of a quote: a quantity, and the reason of the fill.
def tradeThrough (event : PaperMakerMarketEvent) (quote : PaperMakerQuote) : QuoteSide → Option (Int × String)
  | .bid =>
    if !event.hasTrade || event.tradeQtyLots ≤ 0 || event.tradePriceTick ≤ 0 then none
    else if quote.hasBid ∧ event.tradePriceTick ≤ quote.bid.priceTick then
      some (event.tradeQtyLots,"trade_through_bid")
    else none
  | .ask =>
    if !event.hasTrade || event.tradeQtyLots ≤ 0 || event.tradePriceTick ≤ 0 then none
    else if quote.hasAsk ∧ quote.ask.priceTick ≤ event.tradePriceTick then
      some (event.tradeQtyLots,"trade_through_ask")
    else none
def opposite (depth : MarketDepthView) : QuoteSide → Option PriceLevel
  | .bid => depth.asks.head?
  | .ask => depth.bids.head?
def bookCross (event : PaperMakerMarketEvent) (quote : PaperMakerQuote) (side : QuoteSide) :
    Option (Int × String) := do
  let top ← opposite (← event.depth) side
  match side with
  | .bid =>
    if quote.hasBid ∧ 0 < top.priceTick ∧ top.priceTick ≤ quote.bid.priceTick then
      some (levelSizeLots top,"book_cross_bid")
    else none
  | .ask =>
    if quote.hasAsk ∧ 0 < top.priceTick ∧ quote.ask.priceTick ≤ top.priceTick then
      some (levelSizeLots top,"book_cross_ask")
    else none
def queueAware (queueMinRestNs : Nat) (event : PaperMakerMarketEvent) (quote : PaperMakerQuote)
    (side : QuoteSide) :
    Option (Int × String) := do
  let depth ← event.depth
  guard (quote.createdTsNs ≤ event.tsNs ∧ queueMinRestNs ≤ event.tsNs - quote.createdTsNs)
  let top ← opposite depth side
  match side with
  | .bid =>
    if quote.hasBid ∧ 0 < top.priceTick ∧ top.priceTick < quote.bid.priceTick then
      some (levelSizeLots top,"queue_aware_cross_bid")
    else none
  | .ask =>
    if quote.hasAsk ∧ 0 < top.priceTick ∧ quote.ask.priceTick < top.priceTick then
      some (levelSizeLots top,"queue_aware_cross_ask")
    else none
def midCross (event : PaperMakerMarketEvent) (quote : PaperMakerQuote) (side : QuoteSide) :
    Option (Int × String) := do
  let depth ← event.depth
  let bid ← depth.bids.head?
  let ask ← depth.asks.head?
  guard (0 < bid.priceTick ∧ 0 < ask.priceTick)
  let midTick := (addI64 bid.priceTick ask.priceTick).tdiv 2
  match side with
  | .bid =>
    if quote.hasBid ∧ midTick ≤ quote.bid.priceTick then some (max 1 (levelSizeLots ask),"mid_cross_bid") else none
  | .ask =>
    if quote.hasAsk ∧ quote.ask.priceTick ≤ midTick then some (max 1 (levelSizeLots bid),"mid_cross_ask") else none
def shown (config : PaperMakerExecutionConfig) (event : PaperMakerMarketEvent) (quote : PaperMakerQuote)
    (side : QuoteSide) :
    Option (Int × String) :=
  match config.fillMode with
  | .noFill => none
  | .conservative => tradeThrough event quote side
  | .bookCross => bookCross event quote side
  | .queueAware => queueAware config.queueMinRestNs event quote side
  | .midCross => midCross event quote side

def inactive (event : PaperMakerMarketEvent) (quote : PaperMakerQuote) : Bool :=
  quote.status = .cancelled ∨ quote.status = .expired ∨ quote.status = .filled ∨
    quote.expiresAtNs ≠ 0 ∧ quote.expiresAtNs ≤ event.tsNs
def sideFill (config : PaperMakerExecutionConfig) (event : PaperMakerMarketEvent) (quote : PaperMakerQuote)
    (side : QuoteSide) :
    Option MakerFillResult := do
  let (evidence,reason) ← shown config event quote side
  let qty := cappedQty (remainingFor quote side) evidence config.allowPartialFills config.maxFillQtyPerTrade
  if 0 < qty then some (makeFill quote side qty (legOf quote side).priceTick event.tsNs reason) else none
def evaluate (config : PaperMakerExecutionConfig) (event : PaperMakerMarketEvent) (quote : PaperMakerQuote) :
    List MakerFillResult :=
  if inactive event quote then [] else [QuoteSide.bid,QuoteSide.ask].filterMap (sideFill config event quote)

/-! PaperMakerExecutionAdapter. -/

def makeReport (fill : MakerFillResult) (remainingQtyLots : Int) : MakerExecutionReport :=
  let report : MakerExecutionReport :=
    { quoteId := fill.quoteId
      approvedQuoteId := fill.approvedQuoteId
      quoteGroupId := fill.quoteGroupId
      assetIndex := fill.assetIndex
      assetId := fill.assetId
      side := fill.side
      status := if remainingQtyLots = 0 then .filled else .partiallyFilled
      liquidityRole := .maker
      filledQtyLots := fill.filledQtyLots
      avgFillPriceTick := fill.fillPriceTick
      remainingQtyLots
      exchangeTsNs := fill.tsNs
      recvTsNs := fill.tsNs
      reason := fill.reason }
  {report with reportId := computeMakerExecutionReportHash report}
def remainingAfter (quote : PaperMakerQuote) (fill : MakerFillResult) : Int :=
  if fill.filledQtyLots < unfilled quote fill.side then unfilled quote fill.side - fill.filledQtyLots else 0
def fillStep (quote : PaperMakerQuote) (acc : ActivePaperQuoteBook × List MakerExecutionReport)
    (fill : MakerFillResult) :
    ActivePaperQuoteBook × List MakerExecutionReport :=
  let applied := acc.1.applyFill fill.quoteId fill.side fill.filledQtyLots
  (applied.1,if applied.2 then acc.2 ++ [makeReport fill (remainingAfter quote fill)] else acc.2)
def quoteStep (config : PaperMakerExecutionConfig) (event : PaperMakerMarketEvent)
    (acc : ActivePaperQuoteBook × List MakerExecutionReport) (quote : PaperMakerQuote) :
    ActivePaperQuoteBook × List MakerExecutionReport :=
  (evaluate config event quote).foldl (fillStep quote) acc
def onMarketEvent (config : PaperMakerExecutionConfig) (book : ActivePaperQuoteBook)
    (event : PaperMakerMarketEvent) :
    ActivePaperQuoteBook × List MakerExecutionReport :=
  let book := book.expireOld event.tsNs
  (book.activeQuotesForAsset event.assetIndex).foldl (quoteStep config event) (book,[])

/-! Every fill is applied and reported. -/

section
variable {config : PaperMakerExecutionConfig} {event : PaperMakerMarketEvent} {quote : PaperMakerQuote}

theorem tradeThroughHas {side found} (reached : tradeThrough event quote side = some found) :
    hasSide quote side = true ∧ event.hasTrade = true ∧ 0 < event.tradeQtyLots ∧ found.1 = event.tradeQtyLots := by
  unfold tradeThrough at reached
  cases side with
  | bid | ask =>
    simp only at reached
    split at reached
    · cases reached
    · next traded =>
      split at reached
      · next active =>
        cases reached
        simp only [Bool.or_eq_true,Bool.not_eq_true',decide_eq_true_eq,not_or,Bool.not_eq_false,not_le] at traded
        exact ⟨active.1,traded.1.1,traded.1.2,rfl⟩
      · cases reached
theorem bookCrossHas {side found} (reached : bookCross event quote side = some found) :
    hasSide quote side = true ∧ ∃ depth top, event.depth = some depth ∧ opposite depth side = some top ∧
      found.1 = levelSizeLots top := by
  unfold bookCross at reached
  obtain ⟨depth,visible,reached⟩ := Option.bind_eq_some_iff.mp reached
  obtain ⟨top,first,reached⟩ := Option.bind_eq_some_iff.mp reached
  cases side with
  | bid | ask =>
    simp only at reached
    split at reached
    · next active =>
      cases reached
      exact ⟨active.1,depth,top,visible,first,rfl⟩
    · cases reached
theorem queueAwareHas {rest side found} (reached : queueAware rest event quote side = some found) :
    hasSide quote side = true := by
  unfold queueAware at reached
  obtain ⟨_,_,reached⟩ := Option.bind_eq_some_iff.mp reached
  obtain ⟨_,_,reached⟩ := Option.bind_eq_some_iff.mp reached
  obtain ⟨_,_,reached⟩ := Option.bind_eq_some_iff.mp reached
  cases side with
  | bid | ask =>
    simp only at reached
    split at reached
    · next active => exact active.1
    · cases reached
theorem midCrossHas {side found} (reached : midCross event quote side = some found) :
    hasSide quote side = true := by
  unfold midCross at reached
  obtain ⟨_,_,reached⟩ := Option.bind_eq_some_iff.mp reached
  obtain ⟨_,_,reached⟩ := Option.bind_eq_some_iff.mp reached
  obtain ⟨_,_,reached⟩ := Option.bind_eq_some_iff.mp reached
  obtain ⟨_,_,reached⟩ := Option.bind_eq_some_iff.mp reached
  cases side with
  | bid | ask =>
    simp only at reached
    split at reached
    · next active => exact active.1
    · cases reached
theorem shownHas {side found} (reached : shown config event quote side = some found) :
    hasSide quote side = true := by
  unfold shown at reached
  split at reached
  · cases reached
  · exact (tradeThroughHas reached).1
  · exact (bookCrossHas reached).1
  · exact queueAwareHas reached
  · exact midCrossHas reached

theorem cappedBounds {remaining evidence allowed cap} (positive : 0 < cappedQty remaining evidence allowed cap) :
    0 < remaining ∧ cappedQty remaining evidence allowed cap ≤ remaining := by
  unfold cappedQty at positive ⊢
  by_cases none' : remaining ≤ 0 ∨ evidence ≤ 0
  · rw [if_pos none'] at positive
    exact absurd positive (lt_irrefl _)
  · rw [if_neg none'] at positive ⊢
    refine ⟨by omega,?_⟩
    simp only
    cases allowed <;> split <;> simp only [Bool.false_eq_true,if_false,if_true] <;> omega

structure FillOf (quote : PaperMakerQuote) (side : QuoteSide) (fill : MakerFillResult) : Prop where
  id : fill.quoteId = quote.quoteId
  own : fill.side = side
  active : hasSide quote side = true
  positive : 0 < fill.filledQtyLots
  within : fill.filledQtyLots ≤ unfilled quote side
theorem sideFillOf {side fill} (filled : sideFill config event quote side = some fill) :
    FillOf quote side fill := by
  unfold sideFill at filled
  obtain ⟨⟨evidence,reason⟩,reached,filled⟩ := Option.bind_eq_some_iff.mp filled
  have active := shownHas reached
  simp only at filled
  split at filled
  · next positive =>
    cases filled
    obtain ⟨left,below⟩ := cappedBounds positive
    have open' : remainingFor quote side = max 0 (unfilled quote side) := if_pos active
    exact ⟨rfl,rfl,active,positive,le_trans below (by omega)⟩
  · cases filled

/-! One fill in the book. -/

theorem applyOthers {book : ActivePaperQuoteBook} {id id' side qtyLots} (other : id ≠ id') :
    (book.applyFill id side qtyLots).1.quotesById.find id' = book.quotesById.find id' := by
  have apart : id.toNat ≠ id'.toNat := fun same => other (idInjective same)
  unfold ActivePaperQuoteBook.applyFill
  split
  · rfl
  · split
    · rfl
    · split
      · rfl
      · split
        · rw [(forgetMaps book id _).1,OrderedMap.findErase,if_neg apart]
        · exact (OrderedMap.findAssign _ _ _ _).trans (if_neg apart)
theorem filledHas {old side qtyLots} (active : hasSide old side = true) :
    ∃ new, filledQuote old side qtyLots = some new := by
  cases side with
  | bid => exact ⟨_,if_pos active⟩
  | ask => exact ⟨_,if_pos active⟩
theorem applyApplied {book : ActivePaperQuoteBook} {id side qtyLots old}
    (stored : book.quotesById.find id = some old)
    (active : hasSide old side = true) (positive : 0 < qtyLots) : (book.applyFill id side qtyLots).2 = true := by
  obtain ⟨new,filled⟩ : ∃ new, filledQuote old side qtyLots = some new := filledHas active
  unfold ActivePaperQuoteBook.applyFill
  rw [if_neg (not_le.mpr positive),stored]
  simp only [filled]
  split <;> rfl
-- A bid fill does not end a quote whose ask is still open.
theorem applyKeepsAsk {book : ActivePaperQuoteBook} {id qtyLots old} (stored : book.quotesById.find id = some old)
    (active : hasSide old .bid = true) (positive : 0 < qtyLots) (ask : hasSide old .ask = true)
    (left : 0 < unfilled old .ask) :
    ∃ new, (book.applyFill id .bid qtyLots).1.quotesById.find id = some new ∧ hasSide new .ask = true := by
  unfold ActivePaperQuoteBook.applyFill
  rw [if_neg (not_le.mpr positive),stored]
  have hasAsk : old.hasAsk = true := ask
  have hasBid : old.hasBid = true := active
  have unfinished : ¬ old.ask.quantityLots ≤ old.filledAskQtyLots := by
    change 0 < old.ask.quantityLots - old.filledAskQtyLots at left
    omega
  have notFull (lots) : quoteFullyFilled {old with filledBidQtyLots := lots} = false := by
    unfold quoteFullyFilled
    simp only [hasAsk,unfinished,decide_false,Bool.not_true,Bool.or_false,Bool.and_false]
  simp only [filledQuote,if_pos hasBid,notFull,Bool.false_eq_true,if_false]
  exact ⟨_,(OrderedMap.findAssign _ _ _ _).trans (if_pos rfl),hasAsk⟩

def reportOf (quote : PaperMakerQuote) (fill : MakerFillResult) : MakerExecutionReport :=
  makeReport fill (remainingAfter quote fill)
theorem fillStepReports {acc old fill side} (fillOf : FillOf quote side fill)
    (stored : acc.1.quotesById.find quote.quoteId = some old) (active : hasSide old side = true) :
    (fillStep quote acc fill).2 = acc.2 ++ [reportOf quote fill] := by
  have applied := applyApplied stored (fillOf.own ▸ active) fillOf.positive
  unfold fillStep reportOf
  simp only [fillOf.id,applied,if_true]
theorem quoteStepReports {acc} (stored : acc.1.quotesById.find quote.quoteId = some quote) :
    (quoteStep config event acc quote).2 = acc.2 ++ (evaluate config event quote).map (reportOf quote) := by
  unfold quoteStep evaluate
  split
  · exact (List.append_nil _).symm
  · cases bid : sideFill config event quote .bid with
    | none =>
      cases ask : sideFill config event quote .ask with
      | none =>
        simp only [List.filterMap_cons,bid,ask,List.filterMap_nil]
        exact (List.append_nil _).symm
      | some askFill =>
        simp only [List.filterMap_cons,bid,ask,List.filterMap_nil]
        exact fillStepReports (sideFillOf ask) stored (sideFillOf ask).active
    | some bidFill =>
      have bidOf := sideFillOf bid
      have first := fillStepReports bidOf stored bidOf.active
      cases ask : sideFill config event quote .ask with
      | none =>
        simp only [List.filterMap_cons,bid,ask,List.filterMap_nil]
        exact first
      | some askFill =>
        have askOf := sideFillOf ask
        obtain ⟨new,kept,hasAsk⟩ := applyKeepsAsk stored bidOf.active bidOf.positive askOf.active
          (lt_of_lt_of_le askOf.positive askOf.within)
        have stepped : (fillStep quote acc bidFill).1.quotesById.find quote.quoteId = some new := by
          unfold fillStep
          rw [bidOf.id,bidOf.own]
          exact kept
        simp only [List.filterMap_cons,bid,ask,List.filterMap_nil]
        refine (fillStepReports askOf stepped hasAsk).trans ?_
        rw [first,List.append_assoc]
        rfl
theorem quoteStepOthers {acc id} (other : quote.quoteId ≠ id) :
    (quoteStep config event acc quote).1.quotesById.find id = acc.1.quotesById.find id := by
  have own : ∀ fill ∈ evaluate config event quote, fill.quoteId = quote.quoteId := by
    intro fill mem
    unfold evaluate at mem
    split at mem
    · cases mem
    · obtain ⟨side,_,filled⟩ := List.mem_filterMap.mp mem
      exact (sideFillOf filled).id
  unfold quoteStep
  generalize evaluate config event quote = fills at own
  induction fills generalizing acc with
  | nil => rfl
  | cons fill rest ih =>
    refine (ih fun fill mem => own fill (List.mem_cons_of_mem _ mem)).trans ?_
    exact applyOthers (own fill List.mem_cons_self ▸ other)

theorem foldReports {acc : ActivePaperQuoteBook × List MakerExecutionReport} {quotes : List PaperMakerQuote}
    (distinct : quotes.Pairwise fun a b => a.quoteId ≠ b.quoteId)
    (stored : ∀ quote ∈ quotes, acc.1.quotesById.find quote.quoteId = some quote) :
    (quotes.foldl (quoteStep config event) acc).2 =
      acc.2 ++ quotes.flatMap fun quote => (evaluate config event quote).map (reportOf quote) := by
  induction quotes generalizing acc with
  | nil => exact (List.append_nil _).symm
  | cons quote rest ih =>
    obtain ⟨apart,others⟩ := List.pairwise_cons.mp distinct
    have first : (quoteStep config event acc quote).2 = _ := quoteStepReports (stored quote List.mem_cons_self)
    rw [List.foldl_cons,ih others fun other mem =>
      (quoteStepOthers (apart other mem)).trans
      (stored other (List.mem_cons_of_mem _ mem)),first,List.flatMap_cons,
      List.append_assoc]

end

/-! The lots filled in all, against what the event shows. -/

def restingQuotes (book : ActivePaperQuoteBook) (event : PaperMakerMarketEvent) : List PaperMakerQuote :=
  (book.expireOld event.tsNs).activeQuotesForAsset event.assetIndex
def evidenced (mode : PaperMakerFillMode) (event : PaperMakerMarketEvent) (side : QuoteSide) : Int :=
  match mode with
  | .conservative => if event.hasTrade then max 0 event.tradeQtyLots else 0
  | .bookCross =>
    ((event.depth.bind fun depth => opposite depth side).map fun top => max 0 (levelSizeLots top)).getD 0
  | _ => 0
def lotsOf (p : MakerExecutionReport → Bool) (reports : List MakerExecutionReport) : Int :=
  ((reports.filter p).map MakerExecutionReport.filledQtyLots).sum
def sideLots (side : QuoteSide) : List MakerExecutionReport → Int := lotsOf fun report => report.side = side
def quoteLots (quoteId : UInt64) (side : QuoteSide) : List MakerExecutionReport → Int :=
  lotsOf fun report => report.quoteId = quoteId ∧ report.side = side

structure FillsConserved (config : PaperMakerExecutionConfig) (event : PaperMakerMarketEvent)
    (quotes : List PaperMakerQuote)
    (reports : List MakerExecutionReport) : Prop where
  evidence : ∀ side, sideLots side reports ≤ evidenced config.fillMode event side
  remaining : ∀ quote ∈ quotes, ∀ side, quoteLots quote.quoteId side reports ≤ remainingFor quote side
  completes : config.allowPartialFills = false → ∀ report ∈ reports, report.status = .filled

def reaches (config : PaperMakerExecutionConfig) (event : PaperMakerMarketEvent) (side : QuoteSide)
    (quote : PaperMakerQuote) : Bool :=
  !inactive event quote && (shown config event quote side).isSome
-- What is left of a quote is filled from the evidence when both are positive and, without partial fills, it fits.
def admitted (config : PaperMakerExecutionConfig) (evidence remaining : Int) : Bool :=
  0 < remaining ∧ 0 < evidence ∧ (config.allowPartialFills = true ∨ remaining ≤ evidence)
def contenders (config : PaperMakerExecutionConfig) (event : PaperMakerMarketEvent) (quotes : List PaperMakerQuote)
    (side : QuoteSide) : List Int :=
  ((quotes.filter (reaches config event side)).map fun quote => remainingFor quote side).filter
    (admitted config (evidenced config.fillMode event side))
def perTrade (config : PaperMakerExecutionConfig) (remaining : Int) : Int :=
  if 0 < config.maxFillQtyPerTrade then min remaining config.maxFillQtyPerTrade else remaining
def SideFits (config : PaperMakerExecutionConfig) (event : PaperMakerMarketEvent) (quotes : List PaperMakerQuote)
    (side : QuoteSide) : Prop :=
  let rests := contenders config event quotes side
  if config.allowPartialFills then
    rests.length ≤ 1 ∨ (rests.map (perTrade config)).sum ≤ evidenced config.fillMode event side
  else rests.sum ≤ evidenced config.fillMode event side ∧ ∀ rest ∈ rests, perTrade config rest = rest

theorem cutSum {limit : Int} {wanted : List Int} (positive : ∀ w ∈ wanted, 0 < w) (some' : 0 < limit) :
    (wanted.map fun w => min w limit).sum ≤ limit ↔ wanted.length ≤ 1 ∨ wanted.sum ≤ limit := by
  constructor
  · intro fits
    by_cases small : ∀ w ∈ wanted, w ≤ limit
    · right
      rwa [List.map_congr_left fun w mem => min_eq_left (small w mem),List.map_id'] at fits
    · -- One of them takes the whole limit, so nothing is left for another.
      left
      push Not at small
      obtain ⟨big,mem,above⟩ := small
      obtain ⟨before,after,rfl⟩ := List.append_of_mem mem
      have rest : ∀ xs : List Int, (∀ w ∈ xs, 0 < w) → 0 ≤ (xs.map fun w => min w limit).sum ∧
          ((xs.map fun w => min w limit).sum ≤ 0 → xs = []) := by
        intro xs pos
        induction xs with
        | nil => exact ⟨le_refl _,fun _ => rfl⟩
        | cons x xs ih =>
          have here := pos x List.mem_cons_self
          have later := (ih fun w mem => pos w (List.mem_cons_of_mem _ mem)).1
          rw [List.map_cons,List.sum_cons]
          exact ⟨by omega,fun none' => by omega⟩
      have first := rest before fun w mem => positive w (List.mem_append_left _ mem)
      have last := rest after fun w mem => positive w (List.mem_append_right _ (List.mem_cons_of_mem _ mem))
      rw [List.map_append,List.sum_append,List.map_cons,List.sum_cons] at fits
      rw [first.2 (by omega),last.2 (by omega)]
      exact le_refl _
  · rintro (single | total)
    · match wanted,single with
      | [],_ => exact le_of_lt some'
      | [w],_ => simp
    · refine le_trans ?_ total
      calc (wanted.map fun w => min w limit).sum ≤ (wanted.map id).sum :=
            List.sum_le_sum fun w _ => min_le_left w limit
        _ = wanted.sum := by rw [List.map_id]

section
variable {config : PaperMakerExecutionConfig} {event : PaperMakerMarketEvent} {quote : PaperMakerQuote}
  {side : QuoteSide}

def Tracked (config : PaperMakerExecutionConfig) : Prop :=
  config.fillMode = .conservative ∨ config.fillMode = .bookCross
theorem shownEvidence (tracked : Tracked config) {found} (reached : shown config event quote side = some found) :
    max 0 found.1 = evidenced config.fillMode event side := by
  unfold shown at reached
  rcases tracked with mode | mode
  · rw [mode] at reached ⊢
    obtain ⟨_,traded,positive,same⟩ := tradeThroughHas reached
    simp only [evidenced,traded,if_true]
    omega
  · rw [mode] at reached ⊢
    obtain ⟨_,depth,top,visible,first,same⟩ := bookCrossHas reached
    simp only [evidenced,visible,Option.bind_some,first,Option.map_some,Option.getD_some]
    exact congrArg (max 0) same
theorem cappedEvidence (remaining evidence allowed cap) :
    cappedQty remaining (max 0 evidence) allowed cap = cappedQty remaining evidence allowed cap := by
  by_cases shown : 0 < evidence
  · rw [max_eq_right (le_of_lt shown)]
  · rw [max_eq_left (not_lt.mp shown),cappedQty,cappedQty,if_pos (.inr le_rfl),if_pos (.inr (not_lt.mp shown))]

theorem cappedNonneg (remaining evidence allowed cap) : 0 ≤ cappedQty remaining evidence allowed cap := by
  unfold cappedQty
  split
  · exact le_refl _
  · simp only
    cases allowed <;> simp only [Bool.false_eq_true,if_false,if_true] <;> split <;> (try split) <;> omega
theorem cappedRefused {remaining evidence} (refused : admitted config evidence remaining = false) :
    cappedQty remaining evidence config.allowPartialFills config.maxFillQtyPerTrade = 0 := by
  unfold admitted at refused
  simp only [decide_eq_false_iff_not] at refused
  unfold cappedQty
  split
  · rfl
  · next some' =>
    have whole : config.allowPartialFills = false ∧ ¬ remaining ≤ evidence := by
      by_contra h
      refine refused ⟨by omega,by omega,?_⟩
      cases allowed : config.allowPartialFills with
      | true => exact .inl rfl
      | false => exact .inr (not_not.mp fun exceeds => h ⟨allowed,exceeds⟩)
    simp only [whole.1,Bool.false_eq_true,if_false,if_neg whole.2]
    split
    · omega
    · rfl
theorem cappedAdmitted {remaining evidence} (ok : admitted config evidence remaining = true) :
    cappedQty remaining evidence config.allowPartialFills config.maxFillQtyPerTrade =
      if config.allowPartialFills then min (perTrade config remaining) evidence
      else perTrade config remaining := by
  unfold admitted at ok
  obtain ⟨left,shown,fits⟩ := of_decide_eq_true ok
  unfold cappedQty perTrade
  rw [if_neg (by omega)]
  cases allowed : config.allowPartialFills with
  | true =>
    simp only [if_true]
    split <;> omega
  | false =>
    have fits : remaining ≤ evidence := fits.resolve_left (by rw [allowed]; exact Bool.false_ne_true)
    simp only [Bool.false_eq_true,if_false,if_pos fits]

-- The lots one side of a quote gets.
def lots (config : PaperMakerExecutionConfig) (event : PaperMakerMarketEvent) (side : QuoteSide)
    (quote : PaperMakerQuote) : Int :=
  if reaches config event side quote then
    cappedQty (remainingFor quote side)
      (evidenced config.fillMode event side) config.allowPartialFills config.maxFillQtyPerTrade
  else 0
theorem sideFillLots (tracked : Tracked config) (live : inactive event quote = false) :
    ((sideFill config event quote side).map MakerFillResult.filledQtyLots).getD 0 =
    lots config event side quote := by
  unfold sideFill lots reaches
  rw [live]
  cases reached : shown config event quote side with
  | none => rfl
  | some found =>
    rw [← shownEvidence tracked reached,cappedEvidence]
    simp only [Option.bind_eq_bind,Option.bind_some,Option.isSome_some,Bool.not_false,Bool.and_true,if_true]
    split
    · rfl
    · next zero =>
      have nonneg := cappedNonneg
        (remainingFor quote side) found.1 config.allowPartialFills config.maxFillQtyPerTrade
      simp only [Option.map_none,Option.getD_none]
      omega

theorem lotsOfAppend (p) (first second : List MakerExecutionReport) :
    lotsOf p (first ++ second) = lotsOf p first + lotsOf p second := by
  unfold lotsOf
  rw [List.filter_append,List.map_append,List.sum_append]
theorem lotsOfFlat (p) (reports : PaperMakerQuote → List MakerExecutionReport) (quotes : List PaperMakerQuote) :
    lotsOf p (quotes.flatMap reports) = (quotes.map fun quote => lotsOf p (reports quote)).sum := by
  induction quotes with
  | nil => rfl
  | cons quote rest ih => rw [List.flatMap_cons,lotsOfAppend,ih,List.map_cons,List.sum_cons]

@[simp] theorem reportSide (fill) : (reportOf quote fill).side = fill.side := rfl
@[simp] theorem reportQuoteId (fill) : (reportOf quote fill).quoteId = fill.quoteId := rfl
@[simp] theorem reportLots (fill) : (reportOf quote fill).filledQtyLots = fill.filledQtyLots := rfl
theorem reportStatus (fill) : (reportOf quote fill).status = if remainingAfter quote fill = 0 then .filled
    else .partiallyFilled := rfl

def quoteReports (config : PaperMakerExecutionConfig) (event : PaperMakerMarketEvent) (quote : PaperMakerQuote) :
    List MakerExecutionReport := (evaluate config event quote).map (reportOf quote)
theorem quoteReportsMem {report} : report ∈ quoteReports config event quote ↔
    inactive event quote = false ∧
      ∃ side fill, sideFill config event quote side = some fill ∧ reportOf quote fill = report := by
  unfold quoteReports evaluate
  cases live : inactive event quote with
  | true => simp
  | false =>
    simp only [Bool.false_eq_true,if_false,List.mem_map,List.mem_filterMap,true_and]
    constructor
    · rintro ⟨fill,⟨side,_,filled⟩,same⟩
      exact ⟨side,fill,filled,same⟩
    · rintro ⟨side,fill,filled,same⟩
      exact ⟨fill,⟨side,by cases side <;> simp,filled⟩,same⟩
theorem quoteSideLots (tracked : Tracked config) :
    sideLots side (quoteReports config event quote) = lots config event side quote := by
  unfold quoteReports evaluate
  cases live : inactive event quote with
  | true =>
    rw [lots,reaches,live]
    rfl
  | false =>
    rw [← sideFillLots tracked live]
    unfold sideLots lotsOf
    cases bid : sideFill config event quote .bid with
    | none =>
      cases ask : sideFill config event quote .ask with
      | none => cases side <;> simp [bid,ask]
      | some askFill => cases side <;> simp [bid,ask,(sideFillOf ask).own]
    | some bidFill =>
      cases ask : sideFill config event quote .ask with
      | none => cases side <;> simp [bid,ask,(sideFillOf bid).own]
      | some askFill => cases side <;> simp [bid,ask,(sideFillOf bid).own,(sideFillOf ask).own]
theorem quoteReportsOwn {report} (mem : report ∈ quoteReports config event quote) :
    report.quoteId = quote.quoteId := by
  obtain ⟨_,side,fill,filled,rfl⟩ := quoteReportsMem.mp mem
  exact (sideFillOf filled).id
theorem quoteLotsOwn (tracked : Tracked config) (id) : quoteLots id side (quoteReports config event quote) =
    if quote.quoteId = id then lots config event side quote else 0 := by
  unfold quoteLots lotsOf
  by_cases own : quote.quoteId = id
  · rw [if_pos own,← quoteSideLots tracked,sideLots,lotsOf,List.filter_congr fun report mem => ?_]
    simp only [(quoteReportsOwn mem).trans own,true_and]
  · rw [if_neg own,List.filter_eq_nil_iff.mpr fun report mem => ?_]
    · rfl
    · simp only [quoteReportsOwn mem,own,false_and,decide_false,Bool.false_eq_true,not_false_eq_true]

theorem lotsContenders (quotes : List PaperMakerQuote) :
    (quotes.map (lots config event side)).sum =
      ((contenders config event quotes side).map fun rest =>
        if config.allowPartialFills then min (perTrade config rest) (evidenced config.fillMode event side)
        else perTrade config rest).sum := by
  induction quotes with
  | nil => rfl
  | cons quote rest ih =>
    rw [List.map_cons,List.sum_cons,ih]
    unfold contenders lots
    cases reached : reaches config event side quote with
    | false =>
      rw [List.filter_cons_of_neg (by rw [reached]; exact Bool.false_ne_true)]
      simp only [Bool.false_eq_true,if_false,zero_add]
    | true =>
      rw [List.filter_cons_of_pos reached,List.map_cons,if_pos rfl]
      cases ok : admitted config (evidenced config.fillMode event side) (remainingFor quote side) with
      | false =>
        rw [List.filter_cons_of_neg (by rw [ok]; exact Bool.false_ne_true),cappedRefused ok,zero_add]
      | true => rw [List.filter_cons_of_pos ok,List.map_cons,List.sum_cons,cappedAdmitted ok]

theorem contenderMem {quotes rest} : rest ∈ contenders config event quotes side ↔
    ∃ quote ∈ quotes, reaches config event side quote = true ∧ remainingFor quote side = rest ∧
      admitted config (evidenced config.fillMode event side) rest = true := by
  unfold contenders
  simp only [List.mem_filter,List.mem_map]
  constructor
  · rintro ⟨⟨quote,⟨mem,reached⟩,same⟩,ok⟩
    exact ⟨quote,mem,reached,same,ok⟩
  · rintro ⟨quote,mem,reached,same,ok⟩
    exact ⟨⟨quote,⟨mem,reached⟩,same⟩,ok⟩
theorem fillLots (tracked : Tracked config) (live : inactive event quote = false) {fill}
    (filled : sideFill config event quote side = some fill) :
    reaches config event side quote = true ∧
      admitted config (evidenced config.fillMode event side) (remainingFor quote side) = true ∧
      fill.filledQtyLots = lots config event side quote := by
  have same : ((sideFill config event quote side).map MakerFillResult.filledQtyLots).getD 0 = _ :=
    sideFillLots tracked live
  rw [filled] at same
  have positive : 0 < lots config event side quote := lt_of_lt_of_eq (sideFillOf filled).positive same
  refine ⟨?_,?_,same⟩
  · by_contra missed
    rw [lots,if_neg missed] at positive
    exact absurd positive (lt_irrefl _)
  · by_contra refused
    rw [lots,cappedRefused (Bool.eq_false_iff.mpr refused),ite_self] at positive
    exact absurd positive (lt_irrefl _)
theorem lotsWithin : lots config event side quote ≤ remainingFor quote side := by
  have nonneg : 0 ≤ remainingFor quote side := by
    unfold remainingFor
    split <;> omega
  unfold lots
  split
  · rcases lt_or_ge 0 (cappedQty (remainingFor quote side)
      (evidenced config.fillMode event side) config.allowPartialFills
      config.maxFillQtyPerTrade) with positive | none'
    · exact (cappedBounds positive).2
    · exact le_trans none' nonneg
  · exact nonneg
theorem reportCompletes (tracked : Tracked config) (live : inactive event quote = false) {fill}
    (whole : config.allowPartialFills = false)
    (filled : sideFill config event quote side = some fill) :
    (reportOf quote fill).status = .filled ↔
    perTrade config (remainingFor quote side) = remainingFor quote side := by
  obtain ⟨reached,ok,same⟩ := fillLots tracked live filled
  have fillOf := sideFillOf filled
  have quantity : fill.filledQtyLots = perTrade config (remainingFor quote side) := by
    rw [same,lots,if_pos reached,cappedAdmitted ok,whole,if_neg Bool.false_ne_true]
  have left : remainingFor quote side = max 0 (unfilled quote side) := if_pos fillOf.active
  have positive := fillOf.positive
  have within := fillOf.within
  rw [reportStatus,← quantity,remainingAfter,fillOf.own]
  by_cases short : fill.filledQtyLots < unfilled quote side
  · rw [if_pos short,if_neg (by omega)]
    exact ⟨nofun,fun h => by omega⟩
  · rw [if_neg short,if_pos rfl]
    exact ⟨fun _ => by omega,fun _ => rfl⟩

end

/-! One event. -/

-- Every quote is stored under its own id.
def Keyed (book : ActivePaperQuoteBook) : Prop :=
  ∀ id quote, book.quotesById.find id = some quote → quote.quoteId = id
theorem keyedExpire {book nowNs} (keyed : Keyed book) : Keyed (book.expireOld nowNs) := by
  unfold ActivePaperQuoteBook.expireOld
  generalize (book.quotesById.entries.filter _).map Prod.fst = expired
  induction expired generalizing book with
  | nil => exact keyed
  | cons id rest ih =>
    refine ih ?_
    unfold ActivePaperQuoteBook.expireOne
    split
    · exact keyed
    · next quote _ =>
      unfold Keyed
      rw [(forgetMaps book id quote).1]
      exact keyedErase keyed id
theorem restingStored {book event} (keyed : Keyed book) :
    (restingQuotes book event).Pairwise (fun a b => a.quoteId ≠ b.quoteId) ∧
      ∀ quote ∈ restingQuotes book event,
        (book.expireOld event.tsNs).quotesById.find quote.quoteId = some quote := by
  have kept : Keyed (book.expireOld event.tsNs) := keyedExpire keyed
  unfold restingQuotes ActivePaperQuoteBook.activeQuotesForAsset
  generalize book.expireOld event.tsNs = book at kept
  have own : ∀ entry ∈ book.quotesById.entries, entry.2.quoteId = entry.1 :=
    fun entry mem => kept entry.1 entry.2 (OrderedMap.findSome.mpr ⟨entry.1,rfl,mem⟩)
  constructor
  · refine List.Pairwise.filter _ (List.pairwise_map.mpr ?_)
    refine book.quotesById.sorted.imp_of_mem fun {a b} memA memB before same => ?_
    rw [own a memA,own b memB] at same
    exact absurd before (by rw [same]; exact lt_irrefl _)
  · intro quote mem
    obtain ⟨entry,stored,rfl⟩ := List.mem_map.mp (List.mem_of_mem_filter mem)
    rw [own entry stored]
    exact OrderedMap.findSome.mpr ⟨entry.1,rfl,stored⟩
theorem eventReports (config) {book event} (keyed : Keyed book) :
    (onMarketEvent config book event).2 = (restingQuotes book event).flatMap (quoteReports config event) := by
  obtain ⟨distinct,stored⟩ := @restingStored book event keyed
  exact (foldReports distinct stored).trans (List.nil_append _)

theorem ownSum {quotes : List PaperMakerQuote}
    (distinct : quotes.Pairwise fun a b => a.quoteId ≠ b.quoteId) {quote}
    (mem : quote ∈ quotes) (f : PaperMakerQuote → Int) :
    (quotes.map fun other => if other.quoteId = quote.quoteId then f other else 0).sum = f quote := by
  induction quotes with
  | nil => cases mem
  | cons head rest ih =>
    obtain ⟨apart,others⟩ := List.pairwise_cons.mp distinct
    rw [List.map_cons,List.sum_cons]
    rcases List.mem_cons.mp mem with rfl | mem
    · have nothing : ∀ other ∈ rest, (if other.quoteId = quote.quoteId then f other else 0) = 0 :=
        fun other mem => if_neg (apart other mem).symm
      rw [if_pos rfl,List.map_congr_left nothing]
      simp
    · rw [if_neg (apart quote mem),ih others mem,zero_add]

section
variable {config : PaperMakerExecutionConfig} {book : ActivePaperQuoteBook} {event : PaperMakerMarketEvent}

theorem eventSideLots (keyed : Keyed book) (tracked : Tracked config) (side) :
    sideLots side (onMarketEvent config book event).2 =
      ((contenders config event (restingQuotes book event) side).map fun rest =>
        if config.allowPartialFills then min (perTrade config rest) (evidenced config.fillMode event side)
        else perTrade config rest).sum := by
  rw [eventReports config keyed,sideLots,lotsOfFlat,← lotsContenders]
  exact congrArg List.sum (List.map_congr_left fun quote _ => quoteSideLots tracked)
theorem eventWithinRemaining (keyed : Keyed book) (tracked : Tracked config) {quote}
    (mem : quote ∈ restingQuotes book event) (side) :
    quoteLots quote.quoteId side (onMarketEvent config book event).2 ≤ remainingFor quote side := by
  obtain ⟨distinct,_⟩ := @restingStored book event keyed
  rw [eventReports config keyed,quoteLots,lotsOfFlat]
  have each : ∀ other ∈ restingQuotes book event,
      lotsOf (fun report => decide (report.quoteId = quote.quoteId ∧ report.side = side))
        (quoteReports config event other) =
        if other.quoteId = quote.quoteId then lots config event side other else 0 :=
          fun other _ => quoteLotsOwn tracked _
  rw [List.map_congr_left each,ownSum distinct mem]
  exact lotsWithin
theorem eventCompletes (keyed : Keyed book) (tracked : Tracked config) (whole : config.allowPartialFills = false) :
    (∀ report ∈ (onMarketEvent config book event).2, report.status = .filled) ↔
      ∀ side, ∀ rest ∈ contenders config event (restingQuotes book event) side, perTrade config rest = rest := by
  rw [eventReports config keyed]
  constructor
  · intro all side rest mem
    obtain ⟨quote,stored,reached,rfl,ok⟩ := contenderMem.mp mem
    have live : inactive event quote = false := by
      unfold reaches at reached
      simpa using (Bool.and_eq_true_iff.mp reached).1
    cases filled : sideFill config event quote side with
    | some fill =>
      have report := all _ (List.mem_flatMap.mpr ⟨quote,stored,quoteReportsMem.mpr ⟨live,side,fill,filled,rfl⟩⟩)
      exact (reportCompletes tracked live whole filled).mp report
    | none =>
      -- An admitted quote that gets nothing: then the cap is not positive, which perTrade does not allow.
      have nothing : ((sideFill config event quote side).map MakerFillResult.filledQtyLots).getD 0 = _ :=
        sideFillLots tracked live
      rw [filled,lots,if_pos reached,cappedAdmitted ok,whole,if_neg Bool.false_ne_true] at nothing
      have positive := (of_decide_eq_true ok).1
      unfold perTrade at nothing
      simp only [Option.map_none,Option.getD_none] at nothing
      split at nothing <;> omega
  · intro all report mem
    obtain ⟨quote,stored,here⟩ := List.mem_flatMap.mp mem
    obtain ⟨live,side,fill,filled,rfl⟩ := quoteReportsMem.mp here
    obtain ⟨reached,ok,_⟩ := fillLots tracked live filled
    exact (reportCompletes tracked live whole filled).mpr
      (all side _ (contenderMem.mpr ⟨quote,stored,reached,rfl,ok⟩))

theorem contendersPositive (quotes side) : ∀ rest ∈ contenders config event quotes side,
    0 < perTrade config rest ∧ 0 < evidenced config.fillMode event side := by
  intro rest mem
  obtain ⟨_,_,_,_,ok⟩ := contenderMem.mp mem
  obtain ⟨left,shown,_⟩ := of_decide_eq_true ok
  refine ⟨?_,shown⟩
  unfold perTrade
  split <;> omega
theorem evidencedNonneg (side) : 0 ≤ evidenced config.fillMode event side := by
  unfold evidenced
  split
  · split <;> omega
  · cases event.depth.bind fun depth => opposite depth side with
    | none => exact le_refl _
    | some top => exact le_max_left _ _
  · exact le_refl _

theorem partialFits (keyed : Keyed book) (tracked : Tracked config)
    (partial' : config.allowPartialFills = true) (side) :
    sideLots side (onMarketEvent config book event).2 ≤ evidenced config.fillMode event side ↔
      SideFits config event (restingQuotes book event) side := by
  rw [eventSideLots keyed tracked,SideFits,partial',if_pos rfl]
  simp only [if_true]
  have positive : ∀ rest ∈ contenders config event (restingQuotes book event) side, _ :=
    contendersPositive (restingQuotes book event) side
  generalize contenders config event (restingQuotes book event) side = rests at positive
  cases rests with
  | nil => exact ⟨fun _ => .inl (Nat.zero_le _),fun _ => evidencedNonneg side⟩
  | cons rest others =>
    have shown := (positive rest List.mem_cons_self).2
    generalize rest::others = rests at positive
    have each : ∀ w ∈ rests.map (perTrade config), 0 < w := by
      intro w mem
      obtain ⟨left,inside,rfl⟩ := List.mem_map.mp mem
      exact (positive left inside).1
    have cut := cutSum each shown
    rwa [List.map_map,List.length_map] at cut

theorem fillsConservedIff (config : PaperMakerExecutionConfig) (book : ActivePaperQuoteBook)
    (event : PaperMakerMarketEvent)
    (keyed : Keyed book) (tracked : Tracked config) :
    FillsConserved config event (restingQuotes book event) (onMarketEvent config book event).2 ↔
      ∀ side, SideFits config event (restingQuotes book event) side := by
  cases allowed : config.allowPartialFills with
  | true =>
    constructor
    · exact fun conserved side => (partialFits keyed tracked allowed side).mp (conserved.evidence side)
    · intro fits
      exact ⟨fun side => (partialFits keyed tracked allowed side).mpr (fits side),
        fun quote mem side => eventWithinRemaining keyed tracked mem side,fun whole =>
          nomatch whole.symm.trans allowed⟩
  | false =>
    have total (side) (complete :
      ∀ rest ∈ contenders config event (restingQuotes book event) side, perTrade config rest = rest) :
        sideLots side (onMarketEvent config book event).2 =
          (contenders config event (restingQuotes book event) side).sum := by
      rw [eventSideLots keyed tracked,allowed]
      simp only [Bool.false_eq_true,if_false]
      rw [List.map_congr_left complete,List.map_id']
    have fitsIff (side) : SideFits config event (restingQuotes book event) side ↔
        (contenders config event (restingQuotes book event) side).sum ≤ evidenced config.fillMode event side ∧
          ∀ rest ∈ contenders config event (restingQuotes book event) side, perTrade config rest = rest := by
      rw [SideFits,allowed,if_neg Bool.false_ne_true]
    constructor
    · intro conserved side
      have complete := (eventCompletes keyed tracked allowed).mp (conserved.completes allowed)
      exact (fitsIff side).mpr ⟨total side (complete side) ▸ conserved.evidence side,complete side⟩
    · intro fits
      refine ⟨fun side => ?_,fun quote mem side => eventWithinRemaining keyed tracked mem side,fun _ => ?_⟩
      · obtain ⟨below,complete⟩ := (fitsIff side).mp (fits side)
        exact (total side complete).trans_le below
      · exact (eventCompletes keyed tracked allowed).mpr fun side => ((fitsIff side).mp (fits side)).2

end

-- Two groups bid for ten lots each, and a trade of ten lots goes through both.
def tenLotBid (groupId : UInt64) : QuoteRisk.ApprovedQuote :=
  { quoteIntentId := groupId
    quoteGroupId := groupId
    hasBid := true
    bid := {priceTick := 50, quantityLots := 10}
    idempotencyHash := groupId }
def tenLotBids : List Call := [.addOrReplace (tenLotBid 1) 0,.addOrReplace (tenLotBid 2) 0]
def twoBids : ActivePaperQuoteBook := (Machine.run bookStep {} [] tenLotBids).1
theorem twoBidsKeyed : Keyed twoBids := by
  have indexed : Indexed twoBids := @runIndexed tenLotBids (by decide +kernel)
  exact IndexedBy.keyed indexed
def tenTraded : PaperMakerMarketEvent := {hasTrade := true, tradePriceTick := 50, tradeQtyLots := 10}
theorem tenTradedIff : FillsConserved {} tenTraded (restingQuotes twoBids tenTraded)
    (onMarketEvent {} twoBids tenTraded).2 ↔
    ∀ side, SideFits {} tenTraded (restingQuotes twoBids tenTraded) side :=
  fillsConservedIff {} twoBids tenTraded twoBidsKeyed (.inl rfl)
theorem tradeFilledTwice :
    ¬ FillsConserved {} tenTraded (restingQuotes twoBids tenTraded) (onMarketEvent {} twoBids tenTraded).2 := by
  intro conserved
  exact absurd (conserved.evidence .bid) (by decide +kernel)

end Polytope.PaperMakerFills
