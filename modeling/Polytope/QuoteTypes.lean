import Polytope.MarketDepth

/-! The vocabulary of market making: quote legs and intents with their hashes, and the
configuration the quoting engine runs under. -/
namespace Polytope.QuoteTypes
open FixedPointMath MarketDepth

def kPriceOneTick : Int := 1000000

inductive QuoteIntentType where
  | none | placeQuote | replaceQuote | passiveUnwind | forcedUnwind | cancelQuote | cancelOnly
  deriving DecidableEq, Repr
inductive QuoteIntentRiskMode where | opening | mixed | reduceOnly | forcedReduce
  deriving DecidableEq, Repr
inductive QuoteSide where | bid | ask
  deriving DecidableEq, Repr
inductive CancelReason where
  | none | quoteExpired | fairValueMoved | inventoryChanged | bookStale | marketHalted | riskDegraded |
    replacedByNewQuote
  deriving DecidableEq, Repr
inductive FairValueQuality where
  | valid | missingBidAsk | staleBook | crossedBook | lowConfidence | externalStale | disabled
  deriving DecidableEq, Repr
inductive FairValueSourceKind where
  | mid | micropriceVwap | complementMarket | external | oracleBand | conservativeFallback
  deriving DecidableEq, Repr

def clampTick (value minValue maxValue : Int) : Int := max minValue (min maxValue value)

structure QuoteLeg where
  marketId : String := ""
  assetId : String := ""
  marketIndex : Nat := 0
  assetIndex : Nat := 0
  side : QuoteSide := .bid
  priceTick : Int := 0
  quantityLots : Int := 0
  fairValueTick : Int := 0
  edgeToFairTick : Int := 0
  riskReducing : Bool := false
  allowFairDeviationExemption : Bool := false
  allowSpreadExemption : Bool := false
  bookVersion : Nat := 0
  snapshotVersionHash : UInt64 := 0
  deriving DecidableEq, Repr

structure QuoteIntent where
  quoteIntentId : UInt64 := 0
  type : QuoteIntentType := .none
  strategyId : Nat := 0
  quoteGroupId : UInt64 := 0
  marketId : String := ""
  assetId : String := ""
  marketIndex : Nat := 0
  assetIndex : Nat := 0
  riskMode : QuoteIntentRiskMode := .opening
  hasBid : Bool := false
  hasAsk : Bool := false
  bid : QuoteLeg := {}
  ask : QuoteLeg := {}
  fairValueTick : Int := 0
  assetFairTick : Int := 0
  canonicalYesFairTick : Int := 0
  canonicalYesPositionLots : Int := 0
  targetCanonicalYesLots : Int := 0
  edgeTick : Int := 0
  halfSpreadTick : Int := 0
  inventorySkewTick : Int := 0
  targetPositionLots : Int := 0
  currentPositionLots : Int := 0
  rewardConfigPresent : Bool := false
  rewardEligible : Bool := false
  rewardConditionId : String := ""
  rewardMaxSpreadTick : Int := 0
  rewardMinSizeLots : Int := 0
  rewardReason : String := ""
  createdTsNs : Nat := 0
  expiresAtNs : Nat := 0
  snapshotVersionHash : UInt64 := 0
  oracleArtifactHash : UInt64 := 0
  policyHash : UInt64 := 0
  idempotencyHash : UInt64 := 0
  reason : String := ""
  deriving DecidableEq, Repr

-- Every flag is mixed as a whole word here.
open Fnv in
def mixFlag (h : UInt64) (flag : Bool) : UInt64 := mixNat h (if flag then 1 else 0)
open Fnv in
def computeQuoteLegHash (leg : QuoteLeg) : UInt64 :=
  let h := mixNat (mixNat (mixString (mixString offset leg.marketId) leg.assetId) leg.marketIndex) leg.assetIndex
  let h := mixNat h leg.side.ctorIdx
  let h := [leg.priceTick,leg.quantityLots,leg.fairValueTick,leg.edgeToFairTick].foldl mixI64 h
  let h := [leg.riskReducing,leg.allowFairDeviationExemption,leg.allowSpreadExemption].foldl mixFlag h
  mixU64 (mixNat h leg.bookVersion) leg.snapshotVersionHash
open Fnv in
def computeQuoteIntentHash (i : QuoteIntent) : UInt64 :=
  let h := mixU64 (mixNat (mixNat (mixU64 offset i.quoteIntentId) i.type.ctorIdx) i.strategyId) i.quoteGroupId
  let h := mixNat (mixNat (mixString (mixString h i.marketId) i.assetId) i.marketIndex) i.assetIndex
  let h := mixFlag (mixFlag (mixNat h i.riskMode.ctorIdx) i.hasBid) i.hasAsk
  let h := if i.hasBid then mixU64 h (computeQuoteLegHash i.bid) else h
  let h := if i.hasAsk then mixU64 h (computeQuoteLegHash i.ask) else h
  let h := [i.fairValueTick,i.assetFairTick,i.canonicalYesFairTick,i.canonicalYesPositionLots,
    i.targetCanonicalYesLots,i.edgeTick,i.halfSpreadTick,i.inventorySkewTick,i.targetPositionLots,
    i.currentPositionLots].foldl mixI64 h
  let h := mixString (mixFlag (mixFlag h i.rewardConfigPresent) i.rewardEligible) i.rewardConditionId
  let h := mixString (mixI64 (mixI64 h i.rewardMaxSpreadTick) i.rewardMinSizeLots) i.rewardReason
  [i.snapshotVersionHash,i.oracleArtifactHash,i.policyHash,i.idempotencyHash].foldl mixU64
    (mixNat (mixNat h i.createdTsNs) i.expiresAtNs)

structure MarketMakingConfig where
  strategyId : Nat := 1
  oracleArtifactHash : UInt64 := 0
  policyHash : UInt64 := 0
  minPriceTick : Int := 1
  maxPriceTick : Int := kPriceOneTick - 1
  minHalfSpreadTick : Int := 25000
  feeBufferTick : Int := 0
  latencyBufferTick : Int := 0
  volatilityBufferTick : Int := 0
  liquidityBufferTick : Int := 0
  uncertaintyBufferTick : Int := 0
  maxInventorySkewTick : Int := 75000
  inventorySkewNonlinearStartBps : Int := 10000
  inventorySkewExponent : Binary64.Double := ⟨0x3FF0000000000000⟩ -- 1.0
  tteSkewStartNs : Nat := 0
  ttePukeStartNs : Nat := 0
  tteMaxSkewMultiplier : Binary64.Double := ⟨0x3FF0000000000000⟩ -- 1.0
  targetPositionLots : Int := 0
  minInventoryLots : Int := 0
  maxInventoryLots : Int := 100
  baseQuoteSizeLots : Int := 9
  minQuoteEdgeTick : Int := 0
  adverseSelectionBufferTick : Int := 0
  minTopDepthLots : Int := 1
  minTotalDepthLots : Int := 1
  maxBookSpreadTick : Int := 0
  maxBookSpreadBps : Int := 0
  minFairConfidenceBps : Int := 6000
  fairMidWeightBps : Int := 4000
  fairMicropriceWeightBps : Int := 4000
  fairVwapWeightBps : Int := 2000
  fairVwapLots : Int := 10
  complementFairWeightBps : Int := 0
  externalFairValueTick : Int := 0
  externalFairWeightBps : Int := 0
  requireExternalFairForOpeningQuotes : Bool := false
  maxQuoteSizeMultiplierBps : Int := 20000
  passiveUnwindPositionBps : Int := 7000
  forcedUnwindPositionBps : Int := 9000
  passiveUnwindAggressionTick : Int := 0
  passiveReduceExcessLots : Int := 20
  urgentReduceExcessLots : Int := 50
  passiveReduceJoinTick : Int := 1
  urgentUnwindAggressionTick : Int := 0
  reduceOnlyQuoteToTarget : Bool := true
  rewardAwareQuotesEnabled : Bool := false
  rewardMinSizeLotsFloor : Int := 0
  rewardMaxSpreadTickBuffer : Int := 0
  rewardAllowUnwindExemption : Bool := true
  quoteTtlNs : Nat := 5000000000
  requoteThresholdTick : Int := 1000
  minQuotePriceChangeTick : Int := 0
  minRequoteIntervalNs : Nat := 0
  inventoryRequoteThresholdLots : Int := 1
  maxBookAgeNs : Int := 1000000000
  enableBidQuotes : Bool := true
  enableAskQuotes : Bool := true
  deriving DecidableEq, Repr

def bestBidTick (depth : MarketDepthView) : Int := (depth.bids.head?.map PriceLevel.priceTick).getD 0
def bestAskTick (depth : MarketDepthView) : Int := (depth.asks.head?.map PriceLevel.priceTick).getD 0
-- What every consumer of a depth view refuses to trade on.
def badBook (depth : MarketDepthView) : Bool :=
  !depth.usableForDepth || depth.recovering || depth.crossed || depth.closed || depth.resolved

end Polytope.QuoteTypes
