import Polytope.QuoteRisk
import Polytope.Machine

/-! QuoteEngine::build with the size model and the reward constraint it works with, and what a built
quote looks like to the risk evaluator. -/
namespace Polytope.QuoteBuilding
open FixedPointMath MarketDepth QuoteTypes QuoteRisk

/-! QuoteSizeModel. A scaled size is computed in long double and rounded; it is a parameter. -/

structure QuoteSizeResult where
  ok : Bool := false
  bidQtyLots : Int := 0
  askQtyLots : Int := 0
  reason : String := ""
-- base, inventory error, its denominator and the largest multiplier in bps.
abbrev ScaledSize := QuoteSide → Int → Int → Int → Int → Int
def bidDepthFromPrefix (p : DepthPrefix) : Int := (p.bids.getLast?.map PrefixLevel.cumQty).getD 0
def inventoryDenominator (config : MarketMakingConfig) (error : Int) : Int :=
  if 0 ≤ error then max 1 (subI64 config.maxInventoryLots config.targetPositionLots)
  else max 1 (subI64 config.targetPositionLots config.minInventoryLots)
def quoteSize (scaledSize : ScaledSize) (config : MarketMakingConfig) (depth : MarketDepthView)
    (currentPositionLots : Int) :
    QuoteSizeResult :=
  if config.baseQuoteSizeLots ≤ 0 then {reason := "base quote size <= 0"}
  else
    let bidRoom := max 0 (subI64 config.maxInventoryLots currentPositionLots)
    let askRoom := max 0 (subI64 currentPositionLots config.minInventoryLots)
    let error := subI64 currentPositionLots config.targetPositionLots
    let scaled := fun side => scaledSize side config.baseQuoteSizeLots error (inventoryDenominator config error)
      config.maxQuoteSizeMultiplierBps
    let askDepth := askDepthFromPrefix depth.depthPrefix
    let bidDepth := bidDepthFromPrefix depth.depthPrefix
    let bidQtyLots :=
      if config.enableBidQuotes ∧ 0 < bidRoom ∧ 0 < askDepth ∧ 0 < scaled .bid then
        min (scaled .bid) (min bidRoom askDepth)
      else 0
    let askQtyLots :=
      if config.enableAskQuotes ∧ 0 < askRoom ∧ 0 < bidDepth ∧ 0 < scaled .ask then
        min (scaled .ask) (min askRoom bidDepth)
      else 0
    let ok := decide (0 < bidQtyLots ∨ 0 < askQtyLots)
    {ok, bidQtyLots, askQtyLots, reason := if ok then "" else "no inventory room or depth"}

/-! Inputs of a build. -/

structure FairValueResult where
  ok : Bool := false
  fairValueTick : Int := 0
  midpointTick : Int := 0
  micropriceTick : Int := 0
  vwapMidTick : Int := 0
  complementMidpointTick : Int := 0
  complementImpliedTick : Int := 0
  externalFairValueTick : Int := 0
  bookSpreadTick : Int := 0
  confidenceBps : Int := 0
  topBidQtyLots : Int := 0
  topAskQtyLots : Int := 0
  quality : FairValueQuality := .disabled
  source : FairValueSourceKind := .mid
structure SpreadResult where
  halfSpreadTick : Int := 0
def computeSpread (config : MarketMakingConfig) : SpreadResult :=
  { halfSpreadTick := [config.feeBufferTick,config.latencyBufferTick,config.volatilityBufferTick,
      config.liquidityBufferTick,config.uncertaintyBufferTick].foldl max config.minHalfSpreadTick }

structure RewardTokenConfig where
  tokenId : String
  eligible : Bool := false
structure RewardMarketConfig where
  conditionId : String
  rewardsMaxSpreadTick : Int := 0
  rewardsMinSizeLots : Int := 0
  tokens : List RewardTokenConfig := []
structure RewardConfigSnapshot where
  markets : List RewardMarketConfig := []

structure QuoteBuildInput where
  marketId : String := ""
  assetId : String := ""
  marketIndex : Nat := 0
  assetIndex : Nat := 0
  depth : Option MarketDepthView := none
  config : Option MarketMakingConfig := none
  fairValue : FairValueResult := {}
  spread : SpreadResult := {}
  size : QuoteSizeResult := {}
  rewardConfig : Option RewardConfigSnapshot := none
  inventorySkewTick : Int := 0
  canonicalYesFairTick : Int := 0
  canonicalYesPositionLots : Int := 0
  targetCanonicalYesLots : Int := 0
  currentPositionLots : Int := 0
  nowNs : Nat := 0
  intentType : QuoteIntentType := .placeQuote

open Fnv in
def quoteGroupId (strategyId assetIndex : Nat) : UInt64 := mixNat (mixNat offset strategyId) assetIndex

/-! The builder's own view of the inventory. -/

section
variable (config : MarketMakingConfig) (depth : MarketDepthView) (input : QuoteBuildInput)

def bidReduces : Bool := input.currentPositionLots < config.targetPositionLots
def askReduces : Bool := config.targetPositionLots < input.currentPositionLots
def positionError : Int := subI64 input.currentPositionLots config.targetPositionLots
def inventoryErrorBps : Int :=
  min 10000 ((absI64 (positionError config input) * 10000).tdiv
    (inventoryDenominator config (positionError config input)))
def inventoryExcessLots : Int := absI64 (positionError config input)
def forcedUnwind : Bool :=
  0 < config.forcedUnwindPositionBps ∧ config.forcedUnwindPositionBps ≤ inventoryErrorBps config input
def urgentUnwind : Bool :=
  forcedUnwind config input = false ∧ 0 < config.urgentReduceExcessLots ∧
    config.urgentReduceExcessLots ≤ inventoryExcessLots config input
def passiveUnwind : Bool :=
  forcedUnwind config input = false ∧ urgentUnwind config input = false ∧
    ((0 < config.passiveUnwindPositionBps ∧ config.passiveUnwindPositionBps ≤ inventoryErrorBps config input) ∨
      (0 < config.passiveReduceExcessLots ∧ config.passiveReduceExcessLots ≤ inventoryExcessLots config input))
def unwinding : Bool := forcedUnwind config input || urgentUnwind config input || passiveUnwind config input
def quoteType : QuoteIntentType :=
  if forcedUnwind config input then .forcedUnwind
  else if urgentUnwind config input || passiveUnwind config input then .passiveUnwind
  else input.intentType
def quoteReason : String :=
  if forcedUnwind config input then "forced_unwind_quote"
  else if urgentUnwind config input then "urgent_unwind_quote"
  else if passiveUnwind config input then "passive_unwind_quote"
  else "reservation_fair_quote"

def reduceQtyCap (side : QuoteSide) : Int :=
  let beyondTarget := forcedUnwind config input || !config.reduceOnlyQuoteToTarget
  match side with
  | .ask =>
    if input.currentPositionLots ≤ config.targetPositionLots then 0
    else max 0 (subI64 input.currentPositionLots
      (if beyondTarget then config.minInventoryLots else config.targetPositionLots))
  | .bid =>
    if config.targetPositionLots ≤ input.currentPositionLots then 0
    else max 0 (subI64 (if beyondTarget then config.maxInventoryLots else config.targetPositionLots)
      input.currentPositionLots)

def midpointTick : Int :=
  if 0 < bestBidTick depth ∧ 0 < bestAskTick depth ∧ bestBidTick depth ≤ bestAskTick depth then
    (addI64 (bestBidTick depth) (bestAskTick depth)).tdiv 2
  else 0
def passiveJoinAskTick : Int :=
  if bestAskTick depth ≤ 0 then 0
  else max config.minPriceTick (subI64 (bestAskTick depth) (max 1 config.passiveReduceJoinTick))
def passiveJoinBidTick : Int :=
  if bestBidTick depth ≤ 0 then 0
  else min config.maxPriceTick (addI64 (bestBidTick depth) (max 1 config.passiveReduceJoinTick))
def requiredEdgeTick : Int :=
  max 0 (addI64 (addI64 (addI64 config.minQuoteEdgeTick config.feeBufferTick) config.latencyBufferTick)
    config.adverseSelectionBufferTick)

def makeLeg (side : QuoteSide) (priceTick quantityLots : Int) (riskReducing : Bool) : QuoteLeg :=
  { marketId := input.marketId
    assetId := input.assetId
    marketIndex := input.marketIndex
    assetIndex := input.assetIndex
    side
    priceTick
    quantityLots
    fairValueTick := input.fairValue.fairValueTick
    edgeToFairTick :=
      match side with
      | .bid => subI64 input.fairValue.fairValueTick priceTick
      | .ask => subI64 priceTick input.fairValue.fairValueTick
    riskReducing
    allowFairDeviationExemption := riskReducing
    allowSpreadExemption := riskReducing
    bookVersion := depth.bookVersion
    snapshotVersionHash := depth.snapshotVersionHash }

/-! Prices: the clamped reservation prices, kept off the fair value on a side that opens inventory. -/

def reservationTick : Int := subI64 input.fairValue.fairValueTick input.inventorySkewTick
def clampedBid : Int :=
  clampTick (subI64 (reservationTick input) input.spread.halfSpreadTick) config.minPriceTick config.maxPriceTick
def clampedAsk : Int :=
  clampTick (addI64 (reservationTick input) input.spread.halfSpreadTick) config.minPriceTick config.maxPriceTick
def bidTick : Int :=
  if bidReduces config input then clampedBid config input
  else min (clampedBid config input) (subI64 input.fairValue.fairValueTick 1)
def askTick : Int :=
  if askReduces config input then clampedAsk config input
  else max (clampedAsk config input) (addI64 input.fairValue.fairValueTick 1)

def externalFairOpeningOk : Bool :=
  !config.requireExternalFairForOpeningQuotes || 0 < input.fairValue.externalFairValueTick
def allowBid : Bool :=
  (unwinding config input = false ∧ (externalFairOpeningOk config input ∨ bidReduces config input) ∧
      requiredEdgeTick config ≤ subI64 input.fairValue.fairValueTick (bidTick config input)) ∨
    (positionError config input < 0 ∧ unwinding config input)
def allowAsk : Bool :=
  (unwinding config input = false ∧ (externalFairOpeningOk config input ∨ askReduces config input) ∧
      requiredEdgeTick config ≤ subI64 (askTick config input) input.fairValue.fairValueTick) ∨
    (0 < positionError config input ∧ unwinding config input)

def bidQty : Int :=
  if bidReduces config input then min input.size.bidQtyLots (reduceQtyCap config input .bid)
  else input.size.bidQtyLots
def askQty : Int :=
  if askReduces config input then min input.size.askQtyLots (reduceQtyCap config input .ask)
  else input.size.askQtyLots

def steppedBidTick : Int :=
  let tick := bidTick config input
  let reduces := bidReduces config input
  if forcedUnwind config input ∧ reduces ∧ 0 < bestAskTick depth then bestAskTick depth
  else if urgentUnwind config input ∧ reduces then
    let tick := if 0 < midpointTick depth then max tick (midpointTick depth) else tick
    if 0 < config.urgentUnwindAggressionTick then
      min config.maxPriceTick (addI64 tick config.urgentUnwindAggressionTick)
    else tick
  else if reduces ∧ 0 < passiveJoinBidTick config depth then max tick (passiveJoinBidTick config depth)
  else tick
def finalBidTick : Int :=
  let tick := steppedBidTick config depth input
  if bidQty config input ≤ 0 then 0
  else if passiveUnwind config input ∧ bidReduces config input ∧ 0 < config.passiveUnwindAggressionTick then
    min config.maxPriceTick (addI64 tick config.passiveUnwindAggressionTick)
  else tick
def steppedAskTick : Int :=
  let tick := askTick config input
  let reduces := askReduces config input
  if forcedUnwind config input ∧ reduces ∧ 0 < bestBidTick depth then bestBidTick depth
  else if urgentUnwind config input ∧ reduces then
    let tick := if 0 < midpointTick depth then min tick (midpointTick depth) else tick
    if 0 < config.urgentUnwindAggressionTick then
      max config.minPriceTick (subI64 tick config.urgentUnwindAggressionTick)
    else tick
  else if reduces ∧ 0 < passiveJoinAskTick config depth then min tick (passiveJoinAskTick config depth)
  else tick
def finalAskTick : Int :=
  let tick := steppedAskTick config depth input
  if askQty config input ≤ 0 then 0
  else if passiveUnwind config input ∧ askReduces config input ∧ 0 < config.passiveUnwindAggressionTick then
    max config.minPriceTick (subI64 tick config.passiveUnwindAggressionTick)
  else tick

def bidQuoted : Bool :=
  config.enableBidQuotes ∧ 0 < input.size.bidQtyLots ∧ config.minPriceTick ≤ bidTick config input ∧
    allowBid config input ∧ 0 < finalBidTick config depth input
def askQuoted : Bool :=
  config.enableAskQuotes ∧ 0 < input.size.askQtyLots ∧ askTick config input ≤ config.maxPriceTick ∧
    allowAsk config input ∧ 0 < finalAskTick config depth input
def bidLeg : QuoteLeg :=
  makeLeg depth input .bid (clampTick (finalBidTick config depth input) config.minPriceTick config.maxPriceTick)
    (bidQty config input) (bidReduces config input)
def askLeg : QuoteLeg :=
  makeLeg depth input .ask (clampTick (finalAskTick config depth input) config.minPriceTick config.maxPriceTick)
    (askQty config input) (askReduces config input)

def draft : QuoteIntent :=
  { type := quoteType config input
    strategyId := config.strategyId
    quoteGroupId := quoteGroupId config.strategyId input.assetIndex
    marketId := input.marketId
    assetId := input.assetId
    marketIndex := input.marketIndex
    assetIndex := input.assetIndex
    fairValueTick := input.fairValue.fairValueTick
    assetFairTick := input.fairValue.fairValueTick
    canonicalYesFairTick := input.canonicalYesFairTick
    canonicalYesPositionLots := input.canonicalYesPositionLots
    targetCanonicalYesLots := input.targetCanonicalYesLots
    edgeTick :=
      if 0 < input.canonicalYesFairTick then subI64 input.canonicalYesFairTick input.fairValue.fairValueTick else 0
    halfSpreadTick := input.spread.halfSpreadTick
    inventorySkewTick := input.inventorySkewTick
    targetPositionLots := config.targetPositionLots
    currentPositionLots := input.currentPositionLots
    createdTsNs := input.nowNs
    expiresAtNs := (input.nowNs + config.quoteTtlNs) % 2^64
    snapshotVersionHash := depth.snapshotVersionHash
    oracleArtifactHash := config.oracleArtifactHash
    policyHash := config.policyHash
    reason := quoteReason config input
    hasBid := bidQuoted config depth input
    bid := if bidQuoted config depth input then bidLeg config depth input else {}
    hasAsk := askQuoted config depth input
    ask := if askQuoted config depth input then askLeg config depth input else {} }

end

def resolveSelfCrossedMixedQuote (quote : QuoteIntent) : Option QuoteIntent :=
  if quote.hasBid = false ∨ quote.hasAsk = false ∨ quote.bid.priceTick < quote.ask.priceTick then some quote
  else if quote.bid.riskReducing ∧ quote.ask.riskReducing = false then
    some {quote with hasAsk := false, ask := {}, reason := "reduce_only_bid_self_cross_resolved"}
  else if quote.ask.riskReducing ∧ quote.bid.riskReducing = false then
    some {quote with hasBid := false, bid := {}, reason := "reduce_only_ask_self_cross_resolved"}
  else none

/-! RewardAwareQuoteConstraint. -/

def findRewardMarket (snapshot : RewardConfigSnapshot) (quote : QuoteIntent) : Option RewardMarketConfig :=
  snapshot.markets.find? fun market =>
    (quote.assetId ≠ "" ∧ market.tokens.any fun token => token.tokenId = quote.assetId ∧ token.eligible) ∨
      (quote.marketId ≠ "" ∧ market.conditionId = quote.marketId)
def raiseLeg (present : Bool) (minSizeLots : Int) (leg : QuoteLeg) : QuoteLeg :=
  if present ∧ leg.riskReducing = false then {leg with quantityLots := max leg.quantityLots minSizeLots} else leg
def raiseOpeningSize (minSizeLots : Int) (quote : QuoteIntent) : QuoteIntent :=
  if minSizeLots ≤ 0 then quote
  else
    { quote with
      bid := raiseLeg quote.hasBid minSizeLots quote.bid
      ask := raiseLeg quote.hasAsk minSizeLots quote.ask }
def narrowedPrices (config : MarketMakingConfig) (fairValueTick maxSpreadTick : Int) : Int × Int :=
  let half := max 1 (maxSpreadTick.tdiv 2)
  let clamp := fun tick => clampTick tick config.minPriceTick config.maxPriceTick
  let bid := clamp (subI64 fairValueTick half)
  let ask := clamp (addI64 bid maxSpreadTick)
  if maxSpreadTick < subI64 ask bid then
    let ask := clamp (addI64 fairValueTick half)
    (clamp (subI64 ask maxSpreadTick),ask)
  else (bid,ask)
def clampTwoSidedSpread (config : MarketMakingConfig) (maxSpreadTick : Int) (quote : QuoteIntent) :
    Option QuoteIntent :=
  if quote.hasBid = false ∨ quote.hasAsk = false ∨ maxSpreadTick ≤ 0 ∨
      subI64 quote.ask.priceTick quote.bid.priceTick ≤ maxSpreadTick then some quote
  else
    let prices := narrowedPrices config quote.fairValueTick maxSpreadTick
    if prices.2 ≤ prices.1 then none
    else some { quote with
      bid := {quote.bid with priceTick := prices.1, edgeToFairTick := subI64 quote.fairValueTick prices.1}
      ask := {quote.ask with priceTick := prices.2, edgeToFairTick := subI64 prices.2 quote.fairValueTick}
      halfSpreadTick := (subI64 prices.2 prices.1).tdiv 2 }
def activeOpeningSidesEligible (quote : QuoteIntent) (minSizeLots maxSpreadTick : Int) : Bool :=
  ¬ ((quote.hasBid ∧ quote.bid.riskReducing = false ∧ quote.bid.quantityLots < minSizeLots) ∨
    (quote.hasAsk ∧ quote.ask.riskReducing = false ∧ quote.ask.quantityLots < minSizeLots) ∨
    (quote.hasBid ∧ quote.hasAsk ∧ 0 < maxSpreadTick ∧
      maxSpreadTick < subI64 quote.ask.priceTick quote.bid.priceTick))
def rewardQuote (config : MarketMakingConfig) (market : RewardMarketConfig) (quote : QuoteIntent) : QuoteIntent :=
  { quote with
    rewardConfigPresent := true
    rewardConditionId := market.conditionId
    rewardMaxSpreadTick := market.rewardsMaxSpreadTick
    rewardMinSizeLots := max market.rewardsMinSizeLots config.rewardMinSizeLotsFloor }
def applyReward (config : MarketMakingConfig) (rewardConfig : Option RewardConfigSnapshot) (quote : QuoteIntent) :
    Option QuoteIntent :=
  if config.rewardAwareQuotesEnabled = false then some quote
  else if isUnwindQuote quote ∧ config.rewardAllowUnwindExemption then
    some {quote with rewardReason := "reward_exempt_unwind"}
  else match rewardConfig with
    | none => some {quote with rewardReason := "reward_config_missing"}
    | some snapshot =>
      match findRewardMarket snapshot quote with
      | none => some {quote with rewardReason := "reward_market_missing"}
      | some market => do
        let maxSpreadTick :=
          if 0 < market.rewardsMaxSpreadTick then
            max 1 (subI64 market.rewardsMaxSpreadTick config.rewardMaxSpreadTickBuffer)
          else 0
        let minSize := max market.rewardsMinSizeLots config.rewardMinSizeLotsFloor
        let quote ← clampTwoSidedSpread config maxSpreadTick
          (raiseOpeningSize minSize (rewardQuote config market quote))
        let eligible := activeOpeningSidesEligible quote minSize maxSpreadTick
        some {quote with
          rewardEligible := eligible
          rewardReason := if eligible then "reward_eligible" else "reward_not_eligible"}

/-! QuoteEngine::build. -/

def classifyRiskMode (quote : QuoteIntent) : QuoteIntentRiskMode :=
  let reducing := (quote.hasBid && quote.bid.riskReducing) || (quote.hasAsk && quote.ask.riskReducing)
  let opening := (quote.hasBid && !quote.bid.riskReducing) || (quote.hasAsk && !quote.ask.riskReducing)
  if quote.type = .forcedUnwind ∧ reducing ∧ opening = false then .forcedReduce
  else if reducing ∧ opening = false then .reduceOnly
  else if reducing ∧ opening then .mixed
  else .opening
def finish (quote : QuoteIntent) : QuoteIntent :=
  let quote := {quote with riskMode := classifyRiskMode quote}
  let hash := computeQuoteIntentHash quote
  {quote with idempotencyHash := hash, quoteIntentId := hash}

def crossedPrices : String := "crossed or invalid quote prices"
def orReason {α : Type} (reason : String) : Option α → Except String α
  | some a => .ok a
  | none => .error reason
def build (input : QuoteBuildInput) : Except String QuoteIntent :=
  match input.depth,input.config with
  | some depth,some config => do
    if input.fairValue.ok = false then .error "fair value unavailable"
    else if input.size.ok = false then .error input.size.reason
    else if ¬ (0 < clampedBid config input ∧ 0 < clampedAsk config input ∧
      clampedBid config input < clampedAsk config input) then
      .error crossedPrices
    else
      let quote ← orReason crossedPrices (resolveSelfCrossedMixedQuote (draft config depth input))
      if quote.hasBid = false ∧ quote.hasAsk = false then .error "no quote sides"
      else
        let quote ← orReason "reward quote constraint failed" (applyReward config input.rewardConfig quote)
        let quote ← orReason crossedPrices (resolveSelfCrossedMixedQuote quote)
        .ok (finish quote)
  | _,_ => .error "missing depth or config"

/-! What a built quote looks like to the evaluator. -/

section
variable (config : MarketMakingConfig) (depth : MarketDepthView) (input : QuoteBuildInput)

-- A crossed pair of legs loses the side that opens inventory.
def crossedLegs : Bool :=
  bidQuoted config depth input ∧ askQuoted config depth input ∧
    (askLeg config depth input).priceTick ≤ (bidLeg config depth input).priceTick
def bidStands : Bool := bidQuoted config depth input ∧ ¬ (crossedLegs config depth input ∧ askReduces config input)
def askStands : Bool := askQuoted config depth input ∧ ¬ (crossedLegs config depth input ∧ bidReduces config input)

structure Built (quote : QuoteIntent) : Prop where
  type : quote.type = quoteType config input
  target : quote.targetPositionLots = config.targetPositionLots
  expires : quote.expiresAtNs = (input.nowNs + config.quoteTtlNs) % 2^64
  asset : quote.assetIndex = input.assetIndex
  fair : quote.fairValueTick = input.fairValue.fairValueTick
  hasBid : quote.hasBid = bidStands config depth input
  hasAsk : quote.hasAsk = askStands config depth input
  bidFlag : quote.hasBid = true → quote.bid.riskReducing = bidReduces config input
  askFlag : quote.hasAsk = true → quote.ask.riskReducing = askReduces config input
  bidQty : quote.hasBid = true → bidReduces config input = true → quote.bid.quantityLots = bidQty config input
  askQty : quote.hasAsk = true → askReduces config input = true → quote.ask.quantityLots = askQty config input
  uncrossed : quote.hasBid = true → quote.hasAsk = true → quote.bid.priceTick < quote.ask.priceTick

end

theorem resolveCases {quote resolved : QuoteIntent} (h : resolveSelfCrossedMixedQuote quote = some resolved) :
    (¬ (quote.hasBid = true ∧ quote.hasAsk = true ∧ quote.ask.priceTick ≤ quote.bid.priceTick) ∧
      resolved = quote) ∨
    ((quote.hasBid = true ∧ quote.hasAsk = true ∧ quote.ask.priceTick ≤ quote.bid.priceTick) ∧
      ((quote.bid.riskReducing = true ∧ quote.ask.riskReducing = false ∧
          resolved = {quote with hasAsk := false, ask := {}, reason := "reduce_only_bid_self_cross_resolved"}) ∨
        (quote.ask.riskReducing = true ∧ quote.bid.riskReducing = false ∧
          resolved =
            {quote with hasBid := false, bid := {}, reason := "reduce_only_ask_self_cross_resolved"}))) := by
  unfold resolveSelfCrossedMixedQuote at h
  split at h
  · rename_i apart
    refine .inl ⟨?_,(Option.some.inj h).symm⟩
    rintro ⟨bid,ask,crossed⟩
    rcases apart with none | none | apart
    · exact absurd (none.symm.trans bid) Bool.false_ne_true
    · exact absurd (none.symm.trans ask) Bool.false_ne_true
    · exact absurd crossed (not_le.mpr apart)
  · rename_i crossed
    rw [not_or,not_or,Bool.not_eq_false,Bool.not_eq_false,not_lt] at crossed
    refine .inr ⟨crossed,?_⟩
    split at h
    · rename_i bid
      exact .inl ⟨bid.1,bid.2,(Option.some.inj h).symm⟩
    · split at h
      · rename_i ask
        exact .inr ⟨ask.1,ask.2,(Option.some.inj h).symm⟩
      · cases h

theorem resolvedBuilt {config depth input quote}
    (resolved : resolveSelfCrossedMixedQuote (draft config depth input) = some quote) :
    Built config depth input quote := by
  have bid : (draft config depth input).hasBid = true →
    (draft config depth input).bid = bidLeg config depth input :=
    fun quoted => if_pos quoted
  have ask : (draft config depth input).hasAsk = true →
    (draft config depth input).ask = askLeg config depth input :=
    fun quoted => if_pos quoted
  have crossing : (draft config depth input).hasBid = true ∧ (draft config depth input).hasAsk = true ∧
      (draft config depth input).ask.priceTick ≤ (draft config depth input).bid.priceTick ↔
      crossedLegs config depth input = true := by
    unfold crossedLegs
    rw [decide_eq_true_iff]
    constructor
    · rintro ⟨hasBid,hasAsk,crossed⟩
      rw [bid hasBid,ask hasAsk] at crossed
      exact ⟨hasBid,hasAsk,crossed⟩
    · rintro ⟨hasBid,hasAsk,crossed⟩
      refine ⟨hasBid,hasAsk,?_⟩
      rw [bid hasBid,ask hasAsk]
      exact crossed
  rcases resolveCases resolved with ⟨apart,rfl⟩ | ⟨crossed,⟨bidFlag,askFlag,rfl⟩ | ⟨askFlag,bidFlag,rfl⟩⟩
  · have whole : ¬ crossedLegs config depth input = true := fun crossed => apart (crossing.mpr crossed)
    refine ⟨rfl,rfl,rfl,rfl,rfl,?_,?_,fun has => by rw [bid has]; rfl,fun has => by rw [ask has]; rfl,
      fun has _ => by rw [bid has]; rfl,fun has _ => by rw [ask has]; rfl,fun hasBid hasAsk => ?_⟩
    · simp [bidStands,whole,draft]
    · simp [askStands,whole,draft]
    · exact not_le.mp fun crossed => apart ⟨hasBid,hasAsk,crossed⟩
  · have both := crossing.mp crossed
    rw [bid crossed.1] at bidFlag
    rw [ask crossed.2.1] at askFlag
    have bidFlag' : bidReduces config input = true := bidFlag
    have askFlag' : askReduces config input = false := askFlag
    refine ⟨rfl,rfl,rfl,rfl,rfl,?_,?_,fun has => by rw [bid has]; rfl,
      fun has => absurd has Bool.false_ne_true,fun has
        _ => by rw [bid has]; rfl,fun has => absurd has Bool.false_ne_true,
      fun _ has => absurd has Bool.false_ne_true⟩
    · simp [bidStands,askFlag',draft]
    · simp [askStands,both,bidFlag']
  · have both := crossing.mp crossed
    rw [bid crossed.1] at bidFlag
    rw [ask crossed.2.1] at askFlag
    have bidFlag' : bidReduces config input = false := bidFlag
    have askFlag' : askReduces config input = true := askFlag
    refine ⟨rfl,rfl,rfl,rfl,rfl,?_,?_,fun has => absurd has Bool.false_ne_true,fun has => by rw [ask has]; rfl,
      fun has => absurd has Bool.false_ne_true,fun has
        _ => by rw [ask has]; rfl,fun has => absurd has Bool.false_ne_true⟩
    · simp [bidStands,both,askFlag']
    · simp [askStands,bidFlag',draft]

-- What the reward constraint may change of a leg: its price, its edge, and the size of a side that opens
-- inventory.
def LegKept (leg leg' : QuoteLeg) : Prop :=
  leg'.riskReducing = leg.riskReducing ∧ (leg.riskReducing = true → leg'.quantityLots = leg.quantityLots)
structure RewardKept (quote quote' : QuoteIntent) : Prop where
  type : quote'.type = quote.type
  target : quote'.targetPositionLots = quote.targetPositionLots
  expires : quote'.expiresAtNs = quote.expiresAtNs
  asset : quote'.assetIndex = quote.assetIndex
  fair : quote'.fairValueTick = quote.fairValueTick
  hasBid : quote'.hasBid = quote.hasBid
  hasAsk : quote'.hasAsk = quote.hasAsk
  bid : LegKept quote.bid quote'.bid
  ask : LegKept quote.ask quote'.ask
  uncrossed : (quote.hasBid = true → quote.hasAsk = true → quote.bid.priceTick < quote.ask.priceTick) →
    quote'.hasBid = true → quote'.hasAsk = true → quote'.bid.priceTick < quote'.ask.priceTick

theorem legKept (leg : QuoteLeg) : LegKept leg leg := ⟨rfl,fun _ => rfl⟩
theorem rewardKeptSelf (quote : QuoteIntent) : RewardKept quote quote :=
  ⟨rfl,rfl,rfl,rfl,rfl,rfl,rfl,legKept _,legKept _,fun apart => apart⟩
theorem judgedKept (quote : QuoteIntent) (eligible reason) :
    RewardKept quote {quote with rewardEligible := eligible, rewardReason := reason} :=
  ⟨rfl,rfl,rfl,rfl,rfl,rfl,rfl,legKept _,legKept _,fun apart => apart⟩
theorem rewardKeptTrans {a b c} (first : RewardKept a b) (second : RewardKept b c) : RewardKept a c where
  type := second.type.trans first.type
  target := second.target.trans first.target
  expires := second.expires.trans first.expires
  asset := second.asset.trans first.asset
  fair := second.fair.trans first.fair
  hasBid := second.hasBid.trans first.hasBid
  hasAsk := second.hasAsk.trans first.hasAsk
  bid := ⟨second.bid.1.trans first.bid.1,fun flag =>
    (second.bid.2 (first.bid.1.trans flag)).trans (first.bid.2 flag)⟩
  ask := ⟨second.ask.1.trans first.ask.1,fun flag =>
    (second.ask.2 (first.ask.1.trans flag)).trans (first.ask.2 flag)⟩
  uncrossed apart := second.uncrossed (first.uncrossed apart)

theorem raiseLegKept (present minSizeLots) (leg : QuoteLeg) :
    LegKept leg (raiseLeg present minSizeLots leg) ∧
      (raiseLeg present minSizeLots leg).priceTick = leg.priceTick := by
  unfold raiseLeg
  split
  · rename_i opening
    exact ⟨⟨rfl,fun flag => absurd (opening.2.symm.trans flag) Bool.false_ne_true⟩,rfl⟩
  · exact ⟨legKept leg,rfl⟩
theorem raiseKept (minSizeLots) (quote : QuoteIntent) : RewardKept quote (raiseOpeningSize minSizeLots quote) := by
  unfold raiseOpeningSize
  split
  · exact rewardKeptSelf quote
  · obtain ⟨bid,bidPrice⟩ := raiseLegKept quote.hasBid minSizeLots quote.bid
    obtain ⟨ask,askPrice⟩ := raiseLegKept quote.hasAsk minSizeLots quote.ask
    refine ⟨rfl,rfl,rfl,rfl,rfl,rfl,rfl,bid,ask,fun apart hasBid hasAsk => ?_⟩
    rw [bidPrice,askPrice]
    exact apart hasBid hasAsk
theorem clampKept {config maxSpreadTick} {quote quote' : QuoteIntent}
    (clamped : clampTwoSidedSpread config maxSpreadTick quote = some quote') : RewardKept quote quote' := by
  unfold clampTwoSidedSpread at clamped
  split at clamped
  · cases Option.some.inj clamped
    exact rewardKeptSelf quote
  · simp only at clamped
    split at clamped
    · cases clamped
    · rename_i apart
      cases Option.some.inj clamped
      exact ⟨rfl,rfl,rfl,rfl,rfl,rfl,rfl,⟨rfl,fun _ => rfl⟩,⟨rfl,fun _ => rfl⟩,fun _ _ _ => not_le.mp apart⟩
theorem rewardKept {config rewardConfig} {quote quote' : QuoteIntent}
    (applied : applyReward config rewardConfig quote = some quote') : RewardKept quote quote' := by
  unfold applyReward at applied
  split at applied
  · cases Option.some.inj applied
    exact rewardKeptSelf quote
  · split at applied
    · cases Option.some.inj applied
      exact judgedKept quote _ _
    · split at applied
      · cases Option.some.inj applied
        exact judgedKept quote _ _
      · split at applied
        · cases Option.some.inj applied
          exact judgedKept quote _ _
        · rename_i market _
          obtain ⟨clamped,narrowed,last⟩ := Option.bind_eq_some_iff.mp applied
          cases Option.some.inj last
          have marked : RewardKept quote (rewardQuote config market quote) :=
            ⟨rfl,rfl,rfl,rfl,rfl,rfl,rfl,legKept _,legKept _,fun apart => apart⟩
          exact rewardKeptTrans (rewardKeptTrans (rewardKeptTrans marked (raiseKept _ _)) (clampKept narrowed))
            (judgedKept clamped _ _)

theorem builtKept {config depth input quote quote'} (built : Built config depth input quote)
    (kept : RewardKept quote quote') :
    Built config depth input quote' where
  type := kept.type.trans built.type
  target := kept.target.trans built.target
  expires := kept.expires.trans built.expires
  asset := kept.asset.trans built.asset
  fair := kept.fair.trans built.fair
  hasBid := kept.hasBid.trans built.hasBid
  hasAsk := kept.hasAsk.trans built.hasAsk
  bidFlag has := kept.bid.1.trans (built.bidFlag (kept.hasBid.symm.trans has))
  askFlag has := kept.ask.1.trans (built.askFlag (kept.hasAsk.symm.trans has))
  bidQty has reduces := by
    have before := kept.hasBid.symm.trans has
    rw [kept.bid.2 ((built.bidFlag before).trans reduces)]
    exact built.bidQty before reduces
  askQty has reduces := by
    have before := kept.hasAsk.symm.trans has
    rw [kept.ask.2 ((built.askFlag before).trans reduces)]
    exact built.askQty before reduces
  uncrossed := kept.uncrossed built.uncrossed

theorem resolveUncrossed {quote resolved : QuoteIntent}
    (apart : quote.hasBid = true → quote.hasAsk = true → quote.bid.priceTick < quote.ask.priceTick)
    (h : resolveSelfCrossedMixedQuote quote = some resolved) : resolved = quote := by
  rcases resolveCases h with ⟨_,same⟩ | ⟨⟨bid,ask,crossed⟩,_⟩
  · exact same
  · exact absurd crossed (not_le.mpr (apart bid ask))

theorem orReasonOk {α : Type} {reason} {x : Option α} {a} : orReason reason x = .ok a ↔ x = some a := by
  cases x <;> simp [orReason]

theorem stampedKept (quote : QuoteIntent) (riskMode hash) :
    RewardKept quote {quote with riskMode, idempotencyHash := hash, quoteIntentId := hash} :=
  ⟨rfl,rfl,rfl,rfl,rfl,rfl,rfl,legKept _,legKept _,fun apart => apart⟩
theorem finishKept (quote : QuoteIntent) : RewardKept quote (finish quote) := stampedKept quote _ _

structure Stages (config : MarketMakingConfig) (depth : MarketDepthView) (input : QuoteBuildInput)
    (resolved rewarded : QuoteIntent) : Prop where
  prices : 0 < clampedBid config input ∧ 0 < clampedAsk config input ∧
    clampedBid config input < clampedAsk config input
  drafted : resolveSelfCrossedMixedQuote (draft config depth input) = some resolved
  sided : resolved.hasBid = true ∨ resolved.hasAsk = true
  applied : applyReward config input.rewardConfig resolved = some rewarded
theorem stagesBuilt {config depth input resolved rewarded} (stages : Stages config depth input resolved rewarded) :
    Built config depth input rewarded ∧ (rewarded.hasBid = true ∨ rewarded.hasAsk = true) := by
  have kept := rewardKept stages.applied
  refine ⟨builtKept (resolvedBuilt stages.drafted) kept,?_⟩
  rw [kept.hasBid,kept.hasAsk]
  exact stages.sided
theorem buildStages {input quote} (ok : build input = .ok quote) :
    ∃ config depth resolved rewarded, input.config = some config ∧ input.depth = some depth ∧
      Stages config depth input resolved rewarded ∧ quote = finish rewarded := by
  unfold build at ok
  split at ok
  · rename_i depth config shown configured
    split at ok
    · cases ok
    · split at ok
      · cases ok
      · split at ok
        · cases ok
        · rename_i prices
          obtain ⟨resolved,first,ok⟩ := Machine.bindOk.mp ok
          split at ok
          · cases ok
          · rename_i sided
            obtain ⟨rewarded,applied,ok⟩ := Machine.bindOk.mp ok
            obtain ⟨again,second,ok⟩ := Machine.bindOk.mp ok
            rw [not_and_or,Bool.not_eq_false,Bool.not_eq_false] at sided
            have stages : Stages config depth input resolved rewarded :=
              ⟨not_not.mp prices,orReasonOk.mp first,sided,orReasonOk.mp applied⟩
            have same := resolveUncrossed (stagesBuilt stages).1.uncrossed (orReasonOk.mp second)
            cases Except.ok.inj ok
            rw [same]
            exact ⟨config,depth,resolved,rewarded,configured,shown,stages,rfl⟩
  · cases ok
theorem buildBuilt {input quote} (ok : build input = .ok quote) :
    ∃ config depth, input.config = some config ∧ input.depth = some depth ∧ Built config depth input quote ∧
      (quote.hasBid = true ∨ quote.hasAsk = true) := by
  obtain ⟨config,depth,resolved,rewarded,configured,shown,stages,rfl⟩ := buildStages ok
  obtain ⟨built,sided⟩ := stagesBuilt stages
  have finished := finishKept rewarded
  refine ⟨config,depth,configured,shown,builtKept built finished,?_⟩
  rw [finished.hasBid,finished.hasAsk]
  exact sided

/-! Sizes and a book for inputs written out. -/

-- The scaled size without rounding errors.
def exactScaledSize : ScaledSize := fun side base error denominator maxMultiplierBps =>
  let ratio : Rat := max (-1) (min 1 (mkRat error denominator.toNat))
  let multiplier := max 0 (min (max 1 (mkRat maxMultiplierBps 10000))
    (match side with | .bid => 1 - ratio | .ask => 1 + ratio))
  (base * multiplier + mkRat 1 2).floor
def deepBook : MarketDepthView := {calmBook with depthPrefix := {bids := [⟨100,0⟩], asks := [⟨100,0⟩]}}

end Polytope.QuoteBuilding
