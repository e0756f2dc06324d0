import Polytope.QuoteBuilding

/-! MarketMakingEngine: one active quote per asset, revised on every market update. The expressions the
source evaluates in long double (weighted prices, the inventory skew, the scaled sizes) are parameters;
everything that decides over quoting, cancelling and replacing is the source's. -/
namespace Polytope.MarketMaking
open FixedPointMath MarketDepth QuoteTypes QuoteBuilding

structure LongDouble where
  scaledSize : ScaledSize
  -- The weighted mean of some values, rounded: values with their weights, and the divisor.
  weightedRound : List (Int × Int) → Int → Int
  -- The skew for an inventory error, its denominator and the time to expiry.
  skewTick : MarketMakingConfig → Int → Int → Nat → Int

/-! FairValueModel. -/

def bpsToTick (fairTick bps : Int) : Int :=
  if fairTick ≤ 0 ∨ bps ≤ 0 then 0 else max 1 (wrapI64 ((fairTick * bps).tdiv 10000))
-- The average price of sweeping cumulated levels for a quantity, when they cover it.
def vwapFromPrefix (levels : List PrefixLevel) (prices : List PriceLevel) (qtyLots : Int) : Option Int := do
  guard (0 < qtyLots ∧ qtyLots ≤ (levels.getLast?.map PrefixLevel.cumQty).getD 0)
  let index ← levels.findIdx? fun level => decide (qtyLots ≤ level.cumQty)
  let before := if index = 0 then ⟨0,0⟩ else levels.getD (index - 1) ⟨0,0⟩
  let remaining := subI64 qtyLots before.cumQty
  let priceTick := (prices.map PriceLevel.priceTick).getD index 0
  guard (0 ≤ remaining ∧ 0 < priceTick)
  let part ← checkedMulI64 priceTick remaining
  let total ← checkedAddI64 before.cumCost part
  some (total.tdiv qtyLots)
def buyVwapFromPrefix (depth : MarketDepthView) (qtyLots : Int) : Option Int :=
  vwapFromPrefix depth.depthPrefix.asks depth.asks qtyLots
def sellVwapFromPrefix (depth : MarketDepthView) (qtyLots : Int) : Option Int :=
  vwapFromPrefix depth.depthPrefix.bids depth.bids qtyLots

def fairConfidenceBps (config : MarketMakingConfig)
    (midpointTick spreadTick bidQty askQty bidDepth askDepth : Int) : Int :=
  let confidence := 10000
  let confidence :=
    if 0 < midpointTick then
      subI64 confidence (min 4000 (wrapI64 (wrapI64 ((spreadTick * 10000).tdiv midpointTick) * 50)))
    else confidence
  let topTotal := addI64 bidQty askQty
  let confidence :=
    if 0 < topTotal then
      subI64 confidence (min 2000 ((wrapI64 ((absI64 (subI64 bidQty askQty) * 10000).tdiv topTotal)).tdiv 4))
    else confidence
  let confidence :=
    if 0 < config.minTotalDepthLots ∧ min bidDepth askDepth < config.minTotalDepthLots then
      subI64 confidence 3000
    else confidence
  let confidence :=
    if 0 < config.minTopDepthLots ∧ min bidQty askQty < config.minTopDepthLots then subI64 confidence 3000
    else confidence
  max 0 (min 10000 confidence)

def topLots (levels : List PriceLevel) : Int := (levels.head?.map priceLevelSizeLots).getD 0
def bookMidpoint (depth : MarketDepthView) : Int := (addI64 (bestBidTick depth) (bestAskTick depth)).tdiv 2
def micropriceTick (ld : LongDouble) (depth : MarketDepthView) : Int :=
  if 0 < addI64 (topLots depth.bids) (topLots depth.asks) then
    ld.weightedRound [(bestBidTick depth,topLots depth.asks),(bestAskTick depth,topLots depth.bids)]
      (addI64 (topLots depth.bids) (topLots depth.asks))
  else bookMidpoint depth
def vwapMidTick (depth : MarketDepthView) (config : MarketMakingConfig) : Int :=
  let qty := min (max 1 config.fairVwapLots)
    (min (bidDepthFromPrefix depth.depthPrefix) (askDepthFromPrefix depth.depthPrefix))
  match buyVwapFromPrefix depth qty,sellVwapFromPrefix depth qty with
  | some buy,some sell => (addI64 buy sell).tdiv 2
  | _,_ => bookMidpoint depth
def fairWeight (config : MarketMakingConfig) : Int :=
  addI64 (addI64 config.fairMidWeightBps config.fairMicropriceWeightBps) config.fairVwapWeightBps

def computeBookFair (ld : LongDouble) (depth : MarketDepthView) (config : MarketMakingConfig) (nowNs : Nat) :
    FairValueResult :=
  let result : FairValueResult := {source := .micropriceVwap}
  let bidDepth := bidDepthFromPrefix depth.depthPrefix
  let askDepth := askDepthFromPrefix depth.depthPrefix
  if !depth.usableForDepth || depth.recovering || depth.closed || depth.resolved then
    {result with quality := .staleBook}
  else if depth.crossed then {result with quality := .crossedBook}
  else if depth.bids = [] ∨ depth.asks = [] ∨ bestBidTick depth ≤ 0 ∨ bestAskTick depth ≤ 0 then
    {result with quality := .missingBidAsk}
  else if bestAskTick depth ≤ bestBidTick depth then {result with quality := .crossedBook}
  else
    let result := {result with
      bookSpreadTick := subI64 (bestAskTick depth) (bestBidTick depth)
      midpointTick := bookMidpoint depth}
    if 0 < config.maxBookSpreadTick ∧ config.maxBookSpreadTick < result.bookSpreadTick then
      {result with quality := .lowConfidence}
    else if 0 < bpsToTick result.midpointTick config.maxBookSpreadBps ∧
        bpsToTick result.midpointTick config.maxBookSpreadBps < result.bookSpreadTick then
      {result with quality := .lowConfidence}
    else if 0 < config.maxBookAgeNs ∧ 0 < depth.lastWsRecvNs ∧ depth.lastWsRecvNs < nowNs ∧
        config.maxBookAgeNs < castI64 (nowNs - depth.lastWsRecvNs) then
      {result with quality := .staleBook}
    else
      let result := {result with topBidQtyLots := topLots depth.bids, topAskQtyLots := topLots depth.asks}
      if (0 < config.minTopDepthLots ∧ min result.topBidQtyLots result.topAskQtyLots < config.minTopDepthLots) ∨
          (0 < config.minTotalDepthLots ∧ min bidDepth askDepth < config.minTotalDepthLots) then
        {result with quality := .lowConfidence}
      else
        let result :=
          {result with micropriceTick := micropriceTick ld depth, vwapMidTick := vwapMidTick depth config}
        if fairWeight config ≤ 0 then {result with quality := .lowConfidence}
        else
          let result := {result with
            fairValueTick := ld.weightedRound [(result.midpointTick,config.fairMidWeightBps),
              (result.micropriceTick,config.fairMicropriceWeightBps),(result.vwapMidTick,config.fairVwapWeightBps)]
              (fairWeight config)
            confidenceBps := fairConfidenceBps config result.midpointTick result.bookSpreadTick
              result.topBidQtyLots
              result.topAskQtyLots bidDepth askDepth}
          if result.confidenceBps < config.minFairConfidenceBps then {result with quality := .lowConfidence}
          else {result with ok := true, quality := .valid}

def externalFairTick (config : MarketMakingConfig) : Int :=
  if config.externalFairWeightBps ≤ 0 ∨ config.externalFairValueTick ≤ 0 then 0
  else clampTick config.externalFairValueTick config.minPriceTick config.maxPriceTick
def externalReferenceBookConfig (config : MarketMakingConfig) : MarketMakingConfig :=
  let config := {config with
    maxBookSpreadTick := 0
    maxBookSpreadBps := 0
    minTopDepthLots := 0
    minTotalDepthLots := 0
    minFairConfidenceBps := 0}
  if fairWeight config ≤ 0 then
    {config with fairMidWeightBps := 10000, fairMicropriceWeightBps := 0, fairVwapWeightBps := 0}
  else config
def blendComplement (ld : LongDouble) (config : MarketMakingConfig) (result complement : FairValueResult) :
    FairValueResult :=
  let weight := max 0 (min 10000 config.complementFairWeightBps)
  let implied := clampTick (subI64 kPriceOneTick complement.fairValueTick) config.minPriceTick config.maxPriceTick
  {result with
    complementMidpointTick := complement.midpointTick
    complementImpliedTick := implied
    fairValueTick := clampTick (ld.weightedRound [(result.fairValueTick,10000 - weight),(implied,weight)] 10000)
      config.minPriceTick config.maxPriceTick
    confidenceBps := min result.confidenceBps complement.confidenceBps
    source := .complementMarket}
def applyExternalFair (result : FairValueResult) (externalTick : Int) : FairValueResult :=
  {result with
    ok := true
    quality := .valid
    externalFairValueTick := externalTick
    fairValueTick := externalTick
    source := .external}
def computeFair (ld : LongDouble) (depth : MarketDepthView) (config : MarketMakingConfig) (nowNs : Nat)
    (complementDepth : Option MarketDepthView) : FairValueResult :=
  let externalTick := externalFairTick config
  if 0 < config.externalFairWeightBps ∧ externalTick ≤ 0 ∧ config.requireExternalFairForOpeningQuotes then
    {quality := .externalStale}
  else
    let first := computeBookFair ld depth config nowNs
    let result :=
      if first.ok = false ∧ first.quality = .lowConfidence ∧ 0 < externalTick then
        computeBookFair ld depth (externalReferenceBookConfig config) nowNs
      else first
    if result.ok = false then result
    else
      let result :=
        match complementDepth with
        | none => result
        | some view =>
          if 0 < config.complementFairWeightBps ∧ (computeBookFair ld view config nowNs).ok then
            blendComplement ld config result (computeBookFair ld view config nowNs)
          else result
      if 0 < externalTick then applyExternalFair result externalTick else result

def inventorySkew (ld : LongDouble) (config : MarketMakingConfig) (currentPositionLots : Int)
    (timeToExpiryNs : Nat) : Int :=
  if config.maxInventoryLots ≤ 0 ∨ config.maxInventorySkewTick = 0 then 0
  else
    let delta := subI64 currentPositionLots config.targetPositionLots
    ld.skewTick config delta (inventoryDenominator config delta) timeToExpiryNs

/-! The active quote of an asset, and when it is cancelled or replaced. -/

-- Status and filled quantities are written here and read by no other part of the engine.
structure ActiveQuoteState where
  quoteGroupId : UInt64 := 0
  quoteIntentId : UInt64 := 0
  assetIndex : Nat := 0
  hasBid : Bool := false
  hasAsk : Bool := false
  bid : QuoteLeg := {}
  ask : QuoteLeg := {}
  fairValueTick : Int := 0
  currentPositionLots : Int := 0
  createdTsNs : Nat := 0
  expiresAtNs : Nat := 0
  snapshotVersionHash : UInt64 := 0
  idempotencyHash : UInt64 := 0
  deriving DecidableEq
def activeQuoteFromIntent (intent : QuoteIntent) : ActiveQuoteState :=
  { quoteGroupId := intent.quoteGroupId
    quoteIntentId := intent.quoteIntentId
    assetIndex := intent.assetIndex
    hasBid := intent.hasBid
    hasAsk := intent.hasAsk
    bid := intent.bid
    ask := intent.ask
    fairValueTick := intent.fairValueTick
    currentPositionLots := intent.currentPositionLots
    createdTsNs := intent.createdTsNs
    expiresAtNs := intent.expiresAtNs
    snapshotVersionHash := intent.snapshotVersionHash
    idempotencyHash := intent.idempotencyHash }

abbrev QuoteBook := Nat → Option ActiveQuoteState
def QuoteBook.upsert (book : QuoteBook) (quote : ActiveQuoteState) : QuoteBook :=
  fun asset => if asset = quote.assetIndex then some quote else book asset
def QuoteBook.remove (book : QuoteBook) (assetIndex : Nat) : QuoteBook :=
  fun asset => if asset = assetIndex then none else book asset

structure CancelQuoteIntent where
  cancelIntentId : UInt64 := 0
  quoteGroupId : UInt64 := 0
  activeQuoteId : UInt64 := 0
  assetIndex : Nat := 0
  reason : CancelReason := .none
  createdTsNs : Nat := 0
  idempotencyHash : UInt64 := 0
  deriving DecidableEq
open Fnv in
def computeCancelQuoteIntentHash (c : CancelQuoteIntent) : UInt64 :=
  let h := mixNat (mixNat ([c.cancelIntentId,c.quoteGroupId,c.activeQuoteId].foldl mixU64 offset) c.assetIndex)
    c.reason.ctorIdx
  mixU64 (mixNat h c.createdTsNs) c.idempotencyHash
def makeCancelIntent (active : ActiveQuoteState) (reason : CancelReason) (nowNs : Nat) : CancelQuoteIntent :=
  let cancel : CancelQuoteIntent :=
    { quoteGroupId := active.quoteGroupId
      activeQuoteId := active.quoteIntentId
      assetIndex := active.assetIndex
      reason
      createdTsNs := nowNs }
  let hash := computeCancelQuoteIntentHash cancel
  {cancel with idempotencyHash := hash, cancelIntentId := hash}

structure QuoteRefreshDecision where
  shouldCancel : Bool := false
  shouldReplace : Bool := false
  reason : CancelReason := .none
  deriving DecidableEq
def legShapeMatches (active candidate : QuoteLeg) (minPriceChangeTick : Int) : Bool :=
  active.quantityLots = candidate.quantityLots ∧
    absI64 (subI64 active.priceTick candidate.priceTick) ≤ max 0 minPriceChangeTick
def quoteShapeMatches (active : ActiveQuoteState) (candidate : QuoteIntent) (minPriceChangeTick : Int) : Bool :=
  active.hasBid = candidate.hasBid ∧ active.hasAsk = candidate.hasAsk ∧
    (active.hasBid → legShapeMatches active.bid candidate.bid minPriceChangeTick) ∧
    (active.hasAsk → legShapeMatches active.ask candidate.ask minPriceChangeTick)
def insideRequoteCooldown (active : ActiveQuoteState) (config : MarketMakingConfig) (nowNs : Nat) : Bool :=
  0 < config.minRequoteIntervalNs ∧ active.createdTsNs ≤ nowNs ∧
    nowNs - active.createdTsNs < config.minRequoteIntervalNs
def quoteExpired (nowNs expiresAtNs : Nat) : Bool := expiresAtNs ≠ 0 ∧ expiresAtNs ≤ nowNs
def refresh (active : Option ActiveQuoteState) (candidate : Option QuoteIntent) (depth : MarketDepthView)
    (config : MarketMakingConfig) (currentPositionLots : Int) (nowNs : Nat) : QuoteRefreshDecision :=
  if badBook depth then
    {shouldCancel := active.isSome, reason := if depth.closed || depth.resolved then .marketHalted else .bookStale}
  else match active,candidate with
    | none,candidate => {shouldReplace := candidate.isSome}
    | some active,none =>
      {shouldCancel := true, reason := if quoteExpired nowNs active.expiresAtNs then .quoteExpired
        else .riskDegraded}
    | some active,some candidate =>
      if quoteExpired nowNs active.expiresAtNs then ⟨true,true,.quoteExpired⟩
      else if quoteShapeMatches active candidate config.minQuotePriceChangeTick then {}
      else if insideRequoteCooldown active config nowNs then {}
      else if config.requoteThresholdTick ≤ absI64 (subI64 candidate.fairValueTick active.fairValueTick) then
        ⟨true,true,.fairValueMoved⟩
      else if config.inventoryRequoteThresholdLots ≤ absI64
        (subI64 currentPositionLots active.currentPositionLots) then
        ⟨true,true,.inventoryChanged⟩
      else if candidate.idempotencyHash ≠ active.idempotencyHash then ⟨true,true,.replacedByNewQuote⟩
      else {}

/-! The engine. -/

inductive NoQuoteReason where
  | none | missingDepth | fairValueUnavailable | fairStaleBook | fairCrossedBook | fairMissingLiquidity
  | fairLowConfidence | fairExternalStale | fairUnavailableUnknown | quoteSizeUnavailable | invalidQuotePrices
  | noQuoteSides | quoteBuildFailed
  deriving DecidableEq
def reasonFromQuoteBuild (reason : String) : NoQuoteReason :=
  if reason = "fair value unavailable" then .fairValueUnavailable
  else if reason = "base quote size <= 0" ∨ reason = "no inventory room or depth" then .quoteSizeUnavailable
  else if reason = "crossed or invalid quote prices" then .invalidQuotePrices
  else if reason = "no quote sides" then .noQuoteSides
  else .quoteBuildFailed
def reasonFromFairQuality : FairValueQuality → NoQuoteReason
  | .staleBook => .fairStaleBook
  | .crossedBook => .fairCrossedBook
  | .missingBidAsk => .fairMissingLiquidity
  | .lowConfidence => .fairLowConfidence
  | .externalStale => .fairExternalStale
  | .valid | .disabled => .fairUnavailableUnknown
def fairValueQualityName : FairValueQuality → String
  | .valid => "valid"
  | .missingBidAsk => "missing_bid_ask"
  | .staleBook => "stale_book"
  | .crossedBook => "crossed_book"
  | .lowConfidence => "low_confidence"
  | .externalStale => "external_stale"
  | .disabled => "disabled"

structure MarketMakingInput where
  marketId : String := ""
  assetId : String := ""
  marketIndex : Nat := 0
  assetIndex : Nat := 0
  depth : Option MarketDepthView := none
  complementDepth : Option MarketDepthView := none
  currentPositionLots : Int := 0
  externalFairValueTick : Int := 0
  dynamicTargetPositionLots : Int := 0
  dynamicMinInventoryLots : Int := 0
  dynamicMaxInventoryLots : Int := 0
  canonicalYesFairValueTick : Int := 0
  canonicalYesPositionLots : Int := 0
  targetCanonicalYesLots : Int := 0
  dynamicHalfSpreadTick : Int := 0
  dynamicMinHalfSpreadTick : Int := 0
  dynamicMaxInventorySkewTick : Int := 0
  disableBidQuotes : Bool := false
  disableAskQuotes : Bool := false
  rewardConfig : Option RewardConfigSnapshot := none
  nowNs : Nat := 0
  timeToExpiryNs : Nat := 0

-- The counters emitted with a result are the lengths of its lists; its digest is not modelled.
structure MarketMakingResult where
  ok : Bool := true
  replacements : Nat := 0
  rejectedNoQuote : Nat := 0
  noQuoteReason : NoQuoteReason := .none
  fairValueQuality : FairValueQuality := .disabled
  fairConfidenceBps : Int := 0
  fairBookSpreadTick : Int := 0
  fairValueTick : Int := 0
  quotes : List QuoteIntent := []
  cancels : List CancelQuoteIntent := []

def effectiveConfig (config : MarketMakingConfig) (input : MarketMakingInput) : MarketMakingConfig :=
  let config :=
    if 0 < input.externalFairValueTick then
      {config with externalFairValueTick := input.externalFairValueTick}
    else config
  let config :=
    if input.dynamicTargetPositionLots ≠ 0 ∨ input.dynamicMinInventoryLots ≠ 0 ∨
      input.dynamicMaxInventoryLots ≠ 0 then
      {config with
        targetPositionLots := input.dynamicTargetPositionLots
        minInventoryLots := input.dynamicMinInventoryLots
        maxInventoryLots := input.dynamicMaxInventoryLots}
    else config
  let config :=
    if 0 < input.dynamicHalfSpreadTick then {config with minHalfSpreadTick := input.dynamicHalfSpreadTick}
    else if 0 < input.dynamicMinHalfSpreadTick then
      {config with minHalfSpreadTick := max config.minHalfSpreadTick input.dynamicMinHalfSpreadTick}
    else config
  let config :=
    if 0 < input.dynamicMaxInventorySkewTick then
      {config with maxInventorySkewTick := input.dynamicMaxInventorySkewTick}
    else config
  {config with
    enableBidQuotes := config.enableBidQuotes && !input.disableBidQuotes
    enableAskQuotes := config.enableAskQuotes && !input.disableAskQuotes}

def buildInput (ld : LongDouble) (config : MarketMakingConfig) (input : MarketMakingInput)
    (depth : MarketDepthView)
    (fair : FairValueResult) (active : Bool) : QuoteBuildInput :=
  { marketId := input.marketId
    assetId := input.assetId
    marketIndex := input.marketIndex
    assetIndex := input.assetIndex
    depth := some depth
    config := some config
    fairValue := fair
    spread := computeSpread config
    size := quoteSize ld.scaledSize config depth input.currentPositionLots
    rewardConfig := input.rewardConfig
    inventorySkewTick := inventorySkew ld config input.currentPositionLots input.timeToExpiryNs
    canonicalYesFairTick := input.canonicalYesFairValueTick
    canonicalYesPositionLots := input.canonicalYesPositionLots
    targetCanonicalYesLots := input.targetCanonicalYesLots
    currentPositionLots := input.currentPositionLots
    nowNs := input.nowNs
    intentType := if active then .replaceQuote else .placeQuote }
def candidateQuote (ld : LongDouble) (config : MarketMakingConfig) (input : MarketMakingInput)
    (depth : MarketDepthView)
    (active : Bool) : Except String QuoteIntent :=
  let fair := computeFair ld depth config input.nowNs input.complementDepth
  if fair.ok then build (buildInput ld config input depth fair active)
  else .error (fairValueQualityName fair.quality)
def noQuoteReason (fair : FairValueResult) (reason : String) : NoQuoteReason :=
  if fair.ok then reasonFromQuoteBuild reason else reasonFromFairQuality fair.quality

-- The part of an update after the refresh decision: cancel, then quote or say why not.
def carryOut (book : QuoteBook) (input : MarketMakingInput) (fair : FairValueResult)
    (candidate : Except String QuoteIntent)
    (decision : QuoteRefreshDecision) : QuoteBook × MarketMakingResult :=
  let active := book input.assetIndex
  let cancels :=
    match active with
    | some active => if decision.shouldCancel then [makeCancelIntent active decision.reason input.nowNs] else []
    | none => []
  let book := if cancels.isEmpty then book else book.remove input.assetIndex
  let result : MarketMakingResult :=
    { fairValueQuality := fair.quality
      fairConfidenceBps := fair.confidenceBps
      fairBookSpreadTick := fair.bookSpreadTick
      fairValueTick := fair.fairValueTick
      cancels }
  match candidate with
  | .ok quote =>
    if active.isNone || decision.shouldReplace then
      (book.upsert (activeQuoteFromIntent quote),
        {result with replacements := if active.isSome then 1 else 0, quotes := [quote]})
    else (book,result)
  | .error reason => (book,{result with rejectedNoQuote := 1, noQuoteReason := noQuoteReason fair reason})
def onMarketUpdate (ld : LongDouble) (config : MarketMakingConfig) (book : QuoteBook) (input : MarketMakingInput) :
    QuoteBook × MarketMakingResult :=
  match input.depth with
  | none => (book,{ok := false, rejectedNoQuote := 1, noQuoteReason := .missingDepth})
  | some depth =>
    let config := effectiveConfig config input
    let active := book input.assetIndex
    let candidate := candidateQuote ld config input depth active.isSome
    carryOut book input (computeFair ld depth config input.nowNs input.complementDepth) candidate
      (refresh active candidate.toOption depth config input.currentPositionLots input.nowNs)

inductive Call where
  | onMarketUpdate (input : MarketMakingInput)
  | removeActiveQuote (assetIndex : Nat)
inductive Answer where
  | updated (result : MarketMakingResult)
  | removed (found : Bool)
def engineStep (ld : LongDouble) (config : MarketMakingConfig) (book : QuoteBook) : Call → QuoteBook × Answer
  | .onMarketUpdate input =>
    ((onMarketUpdate ld config book input).1,.updated (onMarketUpdate ld config book input).2)
  | .removeActiveQuote assetIndex => (book.remove assetIndex,.removed (book assetIndex).isSome)

/-! What one update does. -/

theorem bookFairBad {ld depth config nowNs} (bad : badBook depth = true) :
    (computeBookFair ld depth config nowNs).ok = false ∧
    (computeBookFair ld depth config nowNs).quality ≠ .lowConfidence := by
  unfold computeBookFair
  cases stale : !depth.usableForDepth || depth.recovering || depth.closed || depth.resolved with
  | true =>
    rw [if_pos rfl]
    exact ⟨rfl,by decide⟩
  | false =>
    have crossed : depth.crossed = true := by
      unfold badBook at bad
      simp only [Bool.or_eq_false_iff] at stale
      simpa [stale] using bad
    rw [if_neg Bool.false_ne_true,if_pos crossed]
    exact ⟨rfl,by decide⟩
theorem fairBad {ld depth config nowNs complement} (bad : badBook depth = true) :
    (computeFair ld depth config nowNs complement).ok = false := by
  obtain ⟨failed,quality⟩ := @bookFairBad ld depth config nowNs bad
  unfold computeFair
  simp only
  by_cases missing : 0 < config.externalFairWeightBps ∧ externalFairTick config ≤ 0 ∧
      config.requireExternalFairForOpeningQuotes = true
  · rw [if_pos missing]
  · have low : ¬ ((computeBookFair ld depth config nowNs).ok = false ∧
        (computeBookFair ld depth config nowNs).quality = .lowConfidence ∧ 0 < externalFairTick config) :=
      fun low => quality low.2.1
    rw [if_neg missing,if_neg low,if_pos failed]
    exact failed
theorem candidateSound {ld config input depth active quote}
    (ok : candidateQuote ld config input depth active = .ok quote) :
    badBook depth = false ∧ quote.assetIndex = input.assetIndex := by
  unfold candidateQuote at ok
  simp only at ok
  split at ok
  · rename_i fair
    refine ⟨Bool.eq_false_iff.mpr fun bad => ?_,?_⟩
    · exact absurd (fairBad bad) (by rw [fair]; decide)
    · obtain ⟨_,_,_,_,built,_⟩ := buildBuilt ok
      exact built.asset
  · cases ok

theorem replaceCancels (active candidate depth config position nowNs) :
    (refresh (some active) candidate depth config position nowNs).shouldReplace = true →
    (refresh (some active) candidate depth config position nowNs).shouldCancel = true := by
  unfold refresh
  cases badBook depth with
  | true => exact fun _ => rfl
  | false =>
    rw [if_neg Bool.false_ne_true]
    cases candidate with
    | none => exact fun _ => rfl
    | some quote =>
      -- The chain of conditions ends in a decision that does both or neither.
      simp only
      repeat' split
      all_goals intro replaced; first | rfl | cases replaced

def Names (cancel : CancelQuoteIntent) (quote : ActiveQuoteState) : Prop :=
  cancel.activeQuoteId = quote.quoteIntentId ∧ cancel.quoteGroupId = quote.quoteGroupId ∧
    cancel.assetIndex = quote.assetIndex
theorem cancelNames (active reason nowNs) : Names (makeCancelIntent active reason nowNs) active := ⟨rfl,rfl,rfl⟩

-- The four things an update can do to the quote of its asset.
inductive Updated (input : MarketMakingInput) (book : QuoteBook) : QuoteBook → MarketMakingResult → Prop
  | kept {r} (quotes : r.quotes = []) (cancels : r.cancels = []) : Updated input book book r
  | cancelled {r active cancel} (stood : book input.assetIndex = some active) (names : Names cancel active)
      (quotes : r.quotes = []) (cancels : r.cancels = [cancel]) :
      Updated input book (book.remove input.assetIndex) r
  | placed {r quote} (free : book input.assetIndex = none) (asset : quote.assetIndex = input.assetIndex)
      (quotes : r.quotes = [quote]) (cancels : r.cancels = []) :
      Updated input book (book.upsert (activeQuoteFromIntent quote)) r
  | replaced {r active cancel quote} (stood : book input.assetIndex = some active) (names : Names cancel active)
      (asset : quote.assetIndex = input.assetIndex) (quotes : r.quotes = [quote])
      (cancels : r.cancels = [cancel]) :
      Updated input book ((book.remove input.assetIndex).upsert (activeQuoteFromIntent quote)) r

theorem carriedOut {book input fair candidate decision}
    (asset : ∀ quote, candidate = .ok quote → quote.assetIndex = input.assetIndex)
    (coherent : ∀ active, book input.assetIndex = some active → decision.shouldReplace = true →
      decision.shouldCancel = true) :
    Updated input book (carryOut book input fair candidate decision).1
      (carryOut book input fair candidate decision).2 := by
  unfold carryOut
  obtain ⟨shouldCancel,shouldReplace,reason⟩ := decision
  cases stood : book input.assetIndex with
  | none =>
    cases candidate with
    | error reason => exact .kept rfl rfl
    | ok quote => exact .placed stood (asset quote rfl) rfl rfl
  | some active =>
    have names := cancelNames active reason input.nowNs
    have together : shouldReplace = true → shouldCancel = true := coherent active stood
    cases candidate with
    | error _ =>
      cases shouldCancel with
      | true => exact .cancelled stood names rfl rfl
      | false => exact .kept rfl rfl
    | ok quote =>
      cases shouldCancel with
      | true =>
        cases shouldReplace with
        | true => exact .replaced stood names (asset quote rfl) rfl rfl
        | false => exact .cancelled stood names rfl rfl
      | false =>
        cases shouldReplace with
        | true => exact absurd (together rfl) Bool.false_ne_true
        | false => exact .kept rfl rfl

theorem updateUpdated (ld config book input) :
    Updated input book (onMarketUpdate ld config book input).1 (onMarketUpdate ld config book input).2 := by
  unfold onMarketUpdate
  cases shown : input.depth with
  | none => exact .kept rfl rfl
  | some depth =>
    refine carriedOut (fun quote made => (candidateSound made).2) fun active stood => ?_
    rw [stood]
    exact replaceCancels _ _ _ _ _ _

theorem updateSound {ld config book input} (quoted : (onMarketUpdate ld config book input).2.quotes ≠ []) :
    ∃ depth, input.depth = some depth ∧ badBook depth = false := by
  unfold onMarketUpdate at quoted
  cases shown : input.depth with
  | none =>
    rw [shown] at quoted
    exact absurd rfl quoted
  | some depth =>
    refine ⟨depth,rfl,?_⟩
    rw [shown] at quoted
    cases made : candidateQuote ld (effectiveConfig config input) input depth (book input.assetIndex).isSome with
    | ok quote => exact (candidateSound made).1
    | error reason =>
      simp only [made] at quoted
      exact absurd rfl quoted

/-! The quotes and cancels of one asset over a run, in the order they are emitted: in an update the
cancels come first. -/

abbrev CallLog := List (Call × Answer)
inductive QuoteEvent where
  | quoted (quote : QuoteIntent)
  | cancelled (cancel : CancelQuoteIntent)
  | removed
def entryEvents (asset : Nat) : Call × Answer → List QuoteEvent
  | (.onMarketUpdate _,.updated r) =>
    (r.cancels.filter fun cancel => cancel.assetIndex = asset).map .cancelled ++
      (r.quotes.filter fun quote => quote.assetIndex = asset).map .quoted
  | (.removeActiveQuote assetIndex,_) => if assetIndex = asset then [.removed] else []
  | (.onMarketUpdate _,.removed _) => []
def trace (asset : Nat) (log : CallLog) : List QuoteEvent := log.flatMap (entryEvents asset)

def standingStep : Option QuoteIntent → QuoteEvent → Option QuoteIntent
  | _,.quoted quote => some quote
  | some quote,.cancelled cancel => if cancel.activeQuoteId = quote.quoteIntentId then none else some quote
  | none,.cancelled _ => none
  | _,.removed => none
-- The last quote emitted, unless it was cancelled or removed since.
def lastStanding (events : List QuoteEvent) : Option QuoteIntent := events.foldl standingStep none
def Ends (quote : QuoteIntent) : QuoteEvent → Prop
  | .quoted _ => False
  | .cancelled cancel => cancel.activeQuoteId = quote.quoteIntentId ∧ cancel.quoteGroupId = quote.quoteGroupId
  | .removed => True
def quotes (id : UInt64) : QuoteEvent → Bool
  | .quoted quote => quote.quoteIntentId = id
  | _ => false
def cancels (id : UInt64) : QuoteEvent → Bool
  | .cancelled cancel => cancel.activeQuoteId = id
  | _ => false

structure BookConsistent (book : QuoteBook) (log : CallLog) : Prop where
  active : ∀ asset, book asset = (lastStanding (trace asset log)).map activeQuoteFromIntent
  ended : ∀ asset before quote after, trace asset log = before ++ .quoted quote::after →
    after = [] ∨ ∃ event rest, after = event::rest ∧ Ends quote event
  sameUpdate : ∀ before input r after, log = before ++ (.onMarketUpdate input,.updated r)::after → ∀ asset quote,
    lastStanding (trace asset before) = some quote →
    lastStanding (trace asset (before ++ [(.onMarketUpdate input,.updated r)])) ≠ some quote →
    ∃ cancel ∈ r.cancels, Ends quote (.cancelled cancel)
  once : ∀ asset id, (trace asset log).countP (cancels id) ≤ (trace asset log).countP (quotes id)
  sound : ∀ input r, (.onMarketUpdate input,.updated r) ∈ log → r.quotes ≠ [] →
    ∃ depth, input.depth = some depth ∧ badBook depth = false

-- A quote is emitted only when none stands, and a cancel names the one that stands.
inductive Bracketed : List QuoteEvent → Option QuoteIntent → Prop
  | nil : Bracketed [] none
  | quoted {events} (free : Bracketed events none) (quote) : Bracketed (events ++ [.quoted quote]) (some quote)
  | cancelled {events quote cancel} (stood : Bracketed events (some quote))
    (ends : Ends quote (.cancelled cancel)) :
      Bracketed (events ++ [.cancelled cancel]) none
  | removed {events standing} (stood : Bracketed events standing) : Bracketed (events ++ [.removed]) none

theorem standingQuoted {before quote} : lastStanding (before ++ [.quoted quote]) = some quote := by
  rw [lastStanding,List.foldl_append]
  cases before.foldl standingStep none <;> rfl
theorem bracketedStanding {events standing} (bracketed : Bracketed events standing) :
    lastStanding events = standing := by
  induction bracketed with
  | nil => rfl
  | quoted free quote ih => exact standingQuoted
  | cancelled stood ends ih =>
    rw [lastStanding,List.foldl_append,← lastStanding,ih]
    exact if_pos ends.1
  | removed stood ih =>
    rw [lastStanding,List.foldl_append]
    cases events.foldl standingStep none <;> rfl

theorem snocSplit {α : Type} {xs : List α} {last before x after} (split : xs ++ [last] = before ++ x::after) :
    after = [] ∨ ∃ earlier, xs = before ++ x::earlier ∧ after = earlier ++ [last] := by
  rcases List.eq_nil_or_concat after with rfl | ⟨earlier,end',rfl⟩
  · exact .inl rfl
  · rw [List.concat_eq_append,← List.cons_append,← List.append_assoc] at split
    obtain ⟨same,one⟩ := List.append_inj' split rfl
    cases one
    exact .inr ⟨earlier,same,List.concat_eq_append⟩
theorem endedNext {standing before quote last} (bracketed : Bracketed (before ++ [.quoted quote]) standing)
    (ends : standing = some quote → Ends quote last) : Ends quote last :=
  ends ((bracketedStanding bracketed).symm.trans standingQuoted)
theorem bracketedEnded {events standing} (bracketed : Bracketed events standing) {before quote after}
    (split : events = before ++ .quoted quote::after) : after = [] ∨
    ∃ event rest, after = event::rest ∧ Ends quote event := by
  induction bracketed generalizing after with
  | nil => cases before <;> cases split
  | quoted free made ih =>
    rcases snocSplit split with last | ⟨earlier,rfl,rfl⟩
    · exact .inl last
    · rcases ih rfl with rfl | ⟨event,rest,rfl,ends⟩
      · exact .inr ⟨_,[],rfl,endedNext free nofun⟩
      · exact .inr ⟨event,rest ++ _,rfl,ends⟩
  | cancelled stood ends ih =>
    rcases snocSplit split with last | ⟨earlier,rfl,rfl⟩
    · exact .inl last
    · rcases ih rfl with rfl | ⟨event,rest,rfl,ended⟩
      · exact .inr ⟨_,[],rfl,endedNext stood fun same => Option.some.inj same ▸ ends⟩
      · exact .inr ⟨event,rest ++ _,rfl,ended⟩
  | removed stood ih =>
    rcases snocSplit split with last | ⟨earlier,rfl,rfl⟩
    · exact .inl last
    · rcases ih rfl with rfl | ⟨event,rest,rfl,ended⟩
      · exact .inr ⟨_,[],rfl,trivial⟩
      · exact .inr ⟨event,rest ++ _,rfl,ended⟩

theorem bracketedOnce {events standing} (bracketed : Bracketed events standing) (id : UInt64) :
    events.countP (cancels id) + (standing.toList.countP fun quote => quote.quoteIntentId = id) ≤ events.countP
      (quotes id) := by
  induction bracketed with
  | nil => exact le_refl _
  | quoted free quote ih =>
    have new : [QuoteEvent.quoted quote].countP (quotes id) = [quote].countP fun quote =>
      quote.quoteIntentId = id := rfl
    rw [List.countP_append,List.countP_append,new]
    exact Nat.add_le_add_right ih _
  | @cancelled events quote cancel stood ends ih =>
    have new : [QuoteEvent.cancelled cancel].countP (cancels id) = [quote].countP fun quote =>
      quote.quoteIntentId = id := by
      simp only [List.countP_singleton,cancels,ends.1]
    rw [List.countP_append,List.countP_append,new]
    exact ih
  | removed stood ih =>
    rw [List.countP_append,List.countP_append]
    exact le_trans (Nat.le_add_right _ _) ih

/-! What an entry of the log does to one asset. -/

inductive Revised (asset : Nat) (r : MarketMakingResult) :
    Option ActiveQuoteState → List QuoteEvent → Option ActiveQuoteState → Prop
  | kept {standing} : Revised asset r standing [] standing
  | cancelled {active cancel} (names : Names cancel active) (emitted : cancel ∈ r.cancels) :
      Revised asset r (some active) [.cancelled cancel] none
  | placed {quote} (own : quote.assetIndex = asset) :
    Revised asset r none [.quoted quote] (some (activeQuoteFromIntent quote))
  | replaced {active cancel quote} (names : Names cancel active) (emitted : cancel ∈ r.cancels)
    (own : quote.assetIndex = asset) :
      Revised asset r (some active) [.cancelled cancel,.quoted quote] (some (activeQuoteFromIntent quote))

theorem entryEventsUpdate (asset input r) : entryEvents asset (.onMarketUpdate input,.updated r) =
    (r.cancels.filter fun cancel => cancel.assetIndex = asset).map .cancelled ++
      (r.quotes.filter fun quote => quote.assetIndex = asset).map .quoted := rfl
theorem entryEventsOther {asset input r} (cancels : ∀ cancel ∈ r.cancels, cancel.assetIndex ≠ asset)
    (quotes : ∀ quote ∈ r.quotes, quote.assetIndex ≠ asset) :
    entryEvents asset (.onMarketUpdate input,.updated r) = [] := by
  rw [entryEventsUpdate,List.filter_eq_nil_iff.mpr fun cancel mem => by simpa using cancels cancel mem,
    List.filter_eq_nil_iff.mpr fun quote mem => by simpa using quotes quote mem]
  rfl

theorem upsertSelf {book : QuoteBook} {quote : QuoteIntent} {asset} (own : quote.assetIndex = asset) :
    book.upsert (activeQuoteFromIntent quote) asset = some (activeQuoteFromIntent quote) := if_pos own.symm
theorem updatedRevised {input book book' r} (updated : Updated input book book' r)
    (own : ∀ active, book input.assetIndex = some active → active.assetIndex = input.assetIndex) (asset) :
    Revised asset r (book asset) (entryEvents asset (.onMarketUpdate input,.updated r)) (book' asset) := by
  by_cases here : asset = input.assetIndex
  · subst here
    cases updated with
    | kept quotes cancels =>
      rw [entryEventsUpdate,quotes,cancels]
      exact .kept
    | @cancelled _ active cancel stood names quotes cancels =>
      have events : entryEvents input.assetIndex (.onMarketUpdate input,.updated r) = [.cancelled cancel] := by
        simp only [entryEventsUpdate,quotes,cancels,List.filter_cons,names.2.2.trans
          (own active stood),decide_true]
        rfl
      rw [events,stood,QuoteBook.remove,if_pos rfl]
      exact .cancelled names (by rw [cancels]; exact List.mem_singleton_self _)
    | @placed _ quote free asset quotes cancels =>
      have events : entryEvents input.assetIndex (.onMarketUpdate input,.updated r) = [.quoted quote] := by
        simp only [entryEventsUpdate,quotes,cancels,List.filter_cons,asset,decide_true]
        rfl
      rw [events,free,upsertSelf asset]
      exact .placed asset
    | @replaced _ active cancel quote stood names asset quotes cancels =>
      have events : entryEvents input.assetIndex
        (.onMarketUpdate input,.updated r) = [.cancelled cancel,.quoted quote] := by
        simp only [entryEventsUpdate,quotes,cancels,List.filter_cons,names.2.2.trans
          (own active stood),asset,decide_true]
        rfl
      rw [events,stood,upsertSelf asset]
      exact .replaced names (by rw [cancels]; exact List.mem_singleton_self _) asset
  · have elsewhere {index : Nat} (same : index = input.assetIndex) : index ≠ asset :=
      fun h => here (h.symm.trans same)
    cases updated with
    | kept quotes cancels =>
      rw [entryEventsUpdate,quotes,cancels]
      exact .kept
    | @cancelled _ active cancel stood names quotes cancels =>
      rw [entryEventsOther (by simpa [cancels] using elsewhere (names.2.2.trans (own active stood)))
        (by simp [quotes]),
        QuoteBook.remove,if_neg here]
      exact .kept
    | @placed _ quote free own' quotes cancels =>
      rw [entryEventsOther (by simp [cancels]) (by simpa [quotes] using elsewhere own'),
        QuoteBook.upsert,if_neg fun same => elsewhere own' same.symm]
      exact .kept
    | @replaced _ active cancel quote stood names own' quotes cancels =>
      rw [entryEventsOther (by simpa [cancels] using elsewhere (names.2.2.trans (own active stood)))
        (by simpa [quotes] using elsewhere own'),QuoteBook.upsert,if_neg fun same => elsewhere own' same.symm,
        QuoteBook.remove,if_neg here]
      exact .kept

def Stands (asset : Nat) (events : List QuoteEvent) (active : Option ActiveQuoteState) : Prop :=
  ∃ standing, Bracketed events standing ∧ (∀ quote, standing = some quote → quote.assetIndex = asset) ∧
    active = standing.map activeQuoteFromIntent

section
variable {asset : Nat} {events : List QuoteEvent} {active : ActiveQuoteState} {cancel : CancelQuoteIntent}

theorem standsFree (bracketed : Bracketed events none) : Stands asset events none :=
  ⟨none,bracketed,(fun _ same => nomatch same),(Option.map_none _).symm⟩
theorem standsOwn (stands : Stands asset events (some active)) : active.assetIndex = asset := by
  obtain ⟨standing,_,own,same⟩ := stands
  obtain ⟨quote,rfl,rfl⟩ := Option.map_eq_some_iff.mp same.symm
  exact own quote rfl
theorem namesEnds {quote : QuoteIntent} (names : Names cancel (activeQuoteFromIntent quote)) :
    Ends quote (.cancelled cancel) :=
  ⟨names.1,names.2.1⟩
theorem standsQuoted {quote : QuoteIntent} (stands : Stands asset events none) (own : quote.assetIndex = asset) :
    Stands asset (events ++ [.quoted quote]) (some (activeQuoteFromIntent quote)) := by
  obtain ⟨standing,bracketed,_,same⟩ := stands
  rw [Option.map_eq_none_iff.mp same.symm] at bracketed
  refine ⟨some quote,.quoted bracketed quote,fun other h => ?_,rfl⟩
  cases h
  exact own
theorem standsCancelled (stands : Stands asset events (some active)) (names : Names cancel active) :
    Stands asset (events ++ [.cancelled cancel]) none := by
  obtain ⟨standing,bracketed,_,same⟩ := stands
  obtain ⟨quote,rfl,rfl⟩ := Option.map_eq_some_iff.mp same.symm
  exact standsFree (.cancelled bracketed (namesEnds names))
theorem standsRemoved {active} (stands : Stands asset events active) :
    Stands asset (events ++ [.removed]) none := by
  obtain ⟨standing,bracketed,_⟩ := stands
  exact standsFree (.removed bracketed)
theorem revisedStands {r standing new standing'} (revised : Revised asset r standing new standing')
    (stands : Stands asset events standing) : Stands asset (events ++ new) standing' := by
  cases revised with
  | kept =>
    rw [List.append_nil]
    exact stands
  | cancelled names emitted => exact standsCancelled stands names
  | placed own => exact standsQuoted stands own
  | replaced names emitted own =>
    rw [List.append_cons]
    exact standsQuoted (standsCancelled stands names) own

theorem revisedCancels {r standing new standing' quote} (revised : Revised asset r standing new standing')
    (stands : Stands asset events standing) (stood : lastStanding events = some quote)
    (gone : lastStanding (events ++ new) ≠ some quote) : ∃ cancel ∈ r.cancels, Ends quote (.cancelled cancel) := by
  obtain ⟨last,bracketed,_,rfl⟩ := stands
  obtain rfl := (bracketedStanding bracketed).symm.trans stood
  generalize active : Option.map activeQuoteFromIntent (some quote) = standing at revised
  cases revised with
  | kept => exact absurd stood (by rwa [List.append_nil] at gone)
  | placed own => cases active
  | cancelled names emitted =>
    cases active
    exact ⟨_,emitted,namesEnds names⟩
  | replaced names emitted own =>
    cases active
    exact ⟨_,emitted,namesEnds names⟩

end

/-! Runs. -/

theorem traceAppend (asset : Nat) (log : CallLog) (entry) :
    trace asset (log ++ [entry]) = trace asset log ++ entryEvents asset entry := by
  simp [trace]

structure BookKept (book : QuoteBook) (log : CallLog) : Prop where
  stands : ∀ asset, Stands asset (trace asset log) (book asset)
  sameUpdate : ∀ before input r after, log = before ++ (.onMarketUpdate input,.updated r)::after → ∀ asset quote,
    lastStanding (trace asset before) = some quote →
    lastStanding (trace asset (before ++ [(.onMarketUpdate input,.updated r)])) ≠ some quote →
    ∃ cancel ∈ r.cancels, Ends quote (.cancelled cancel)
  sound : ∀ input r, (.onMarketUpdate input,.updated r) ∈ log → r.quotes ≠ [] →
    ∃ depth, input.depth = some depth ∧ badBook depth = false

theorem keptStart : BookKept (fun _ => none) [] where
  stands _ := standsFree .nil
  sameUpdate before _ _ _ split := by cases before <;> cases split
  sound _ _ mem := nomatch mem

theorem engineRevised {ld config book log} (kept : BookKept book log) (input asset) :
    Revised asset (onMarketUpdate ld config book input).2 (book asset)
      (entryEvents asset (.onMarketUpdate input,.updated (onMarketUpdate ld config book input).2))
      ((onMarketUpdate ld config book input).1 asset) :=
  updatedRevised (updateUpdated ld config book input)
    (fun _ stood => standsOwn (stood ▸ kept.stands input.assetIndex)) asset

theorem keptNext {ld config book log} (kept : BookKept book log) (call) :
    BookKept (engineStep ld config book call).1 (log ++ [(call,(engineStep ld config book call).2)]) where
  stands asset := by
    rw [traceAppend]
    cases call with
    | onMarketUpdate input => exact revisedStands (engineRevised kept input asset) (kept.stands asset)
    | removeActiveQuote assetIndex =>
      change Stands asset (_ ++ if assetIndex = asset then [.removed] else [])
        (if asset = assetIndex then none else book asset)
      by_cases here : asset = assetIndex
      · rw [if_pos here,if_pos here.symm]
        exact standsRemoved (kept.stands asset)
      · rw [if_neg here,if_neg fun same => here same.symm,List.append_nil]
        exact kept.stands asset
  sameUpdate before input r after split asset quote stood gone := by
    rcases List.eq_nil_or_concat after with rfl | ⟨earlier,last,rfl⟩
    · obtain ⟨rfl,one⟩ := List.append_inj' split rfl
      cases call with
      | removeActiveQuote assetIndex => cases one
      | onMarketUpdate input =>
        cases one
        rw [traceAppend] at gone
        exact revisedCancels (engineRevised kept input asset) (kept.stands asset) stood gone
    · rw [List.concat_eq_append,← List.cons_append,← List.append_assoc] at split
      exact kept.sameUpdate before input r earlier (List.append_inj_left' split rfl) asset quote stood gone
  sound input r mem quoted := by
    rcases List.mem_append.mp mem with old | new
    · exact kept.sound input r old quoted
    · cases call with
      | removeActiveQuote assetIndex => cases List.mem_singleton.mp new
      | onMarketUpdate input' =>
        cases List.mem_singleton.mp new
        exact updateSound quoted

theorem keptConsistent {book log} (kept : BookKept book log) : BookConsistent book log where
  active asset := by
    obtain ⟨standing,bracketed,_,same⟩ := kept.stands asset
    rw [same,bracketedStanding bracketed]
  ended asset _ _ _ split := by
    obtain ⟨_,bracketed,_⟩ := kept.stands asset
    exact bracketedEnded bracketed split
  sameUpdate := kept.sameUpdate
  once asset id := by
    obtain ⟨_,bracketed,_⟩ := kept.stands asset
    exact le_trans (Nat.le_add_right _ _) (bracketedOnce bracketed id)
  sound := kept.sound

end Polytope.MarketMaking
