import Polytope.QuoteBuilding

/-! What a built quote keeps to: its prices are in range and apart, and what reduces inventory stays within its cap. The
edge and the inventory room of a side that opens inventory hold for the draft; the reward constraint comes after
them, raises the size of such a side and narrows the prices of a quote with both sides. -/
namespace Polytope.QuoteSoundness
open FixedPointMath MarketDepth QuoteTypes QuoteRisk QuoteBuilding

section
variable (config : MarketMakingConfig) (depth : MarketDepthView) (input : QuoteBuildInput)

structure Bounded : Prop where
  target : config.minInventoryLots ≤ config.targetPositionLots ∧
    config.targetPositionLots ≤ config.maxInventoryLots
  position : config.minInventoryLots ≤ input.currentPositionLots ∧
    input.currentPositionLots ≤ config.maxInventoryLots
-- The differences that decide about a side fit into 64 bits.
structure QuoteFits : Prop where
  position : InI64 (input.currentPositionLots - config.targetPositionLots)
  below : InI64 (input.fairValue.fairValueTick - 1)
  above : InI64 (input.fairValue.fairValueTick + 1)
  bid : InI64 (input.fairValue.fairValueTick - bidTick config input)
  ask : InI64 (askTick config input - input.fairValue.fairValueTick)

def BidEdge (priceTick : Int) : Prop :=
  priceTick < input.fairValue.fairValueTick ∧ priceTick + requiredEdgeTick config ≤ input.fairValue.fairValueTick
def AskEdge (priceTick : Int) : Prop :=
  input.fairValue.fairValueTick < priceTick ∧ input.fairValue.fairValueTick + requiredEdgeTick config ≤ priceTick
instance (priceTick) : Decidable (BidEdge config input priceTick) := by unfold BidEdge; infer_instance
instance (priceTick) : Decidable (AskEdge config input priceTick) := by unfold AskEdge; infer_instance
def PriceInRange (priceTick : Int) : Prop := config.minPriceTick ≤ priceTick ∧ priceTick ≤ config.maxPriceTick
def WithinInventory (positionLots : Int) : Prop :=
  config.minInventoryLots ≤ positionLots ∧ positionLots ≤ config.maxInventoryLots

structure QuoteSound (quote : QuoteIntent) : Prop where
  bidPrice : quote.hasBid = true → PriceInRange config quote.bid.priceTick
  askPrice : quote.hasAsk = true → PriceInRange config quote.ask.priceTick
  apart : quote.hasBid = true → quote.hasAsk = true → quote.bid.priceTick < quote.ask.priceTick
  bidEdge : quote.hasBid = true → quote.bid.riskReducing = false → BidEdge config input quote.bid.priceTick
  askEdge : quote.hasAsk = true → quote.ask.riskReducing = false → AskEdge config input quote.ask.priceTick
  bidRoom : quote.hasBid = true → WithinInventory config (input.currentPositionLots + quote.bid.quantityLots)
  askRoom : quote.hasAsk = true → WithinInventory config (input.currentPositionLots - quote.ask.quantityLots)
  bidTarget : quote.hasBid = true → quote.bid.riskReducing = true → config.reduceOnlyQuoteToTarget = true →
    quote.type ≠ .forcedUnwind → input.currentPositionLots + quote.bid.quantityLots ≤ config.targetPositionLots
  askTarget : quote.hasAsk = true → quote.ask.riskReducing = true → config.reduceOnlyQuoteToTarget = true →
    quote.type ≠ .forcedUnwind → config.targetPositionLots ≤ input.currentPositionLots - quote.ask.quantityLots

/-! What the reward constraint asks of a quote for this input. -/

def rewardMarket : Option RewardMarketConfig :=
  if config.rewardAwareQuotesEnabled = false then none
  else if isUnwindQuote {type := quoteType config input} ∧ config.rewardAllowUnwindExemption then none
  else input.rewardConfig.bind fun snapshot =>
    findRewardMarket snapshot {marketId := input.marketId, assetId := input.assetId}
def minSizeLots (market : RewardMarketConfig) : Int := max market.rewardsMinSizeLots config.rewardMinSizeLotsFloor
def maxSpreadTick (market : RewardMarketConfig) : Int :=
  if 0 < market.rewardsMaxSpreadTick then
    max 1 (subI64 market.rewardsMaxSpreadTick config.rewardMaxSpreadTickBuffer)
  else 0
def rewardMinSize : Int := ((rewardMarket config input).map (minSizeLots config)).getD 0
def rewardMaxSpread : Int := ((rewardMarket config input).map (maxSpreadTick config)).getD 0
def raisedLots (lots : Int) : Int :=
  if rewardMinSize config input ≤ 0 then lots else max lots (rewardMinSize config input)
def narrows : Bool :=
  bidStands config depth input ∧ askStands config depth input ∧ 0 < rewardMaxSpread config input ∧
    rewardMaxSpread config input < subI64 (askLeg config depth input).priceTick
      (bidLeg config depth input).priceTick
def rewardPrices : Int × Int := narrowedPrices config input.fairValue.fairValueTick (rewardMaxSpread config input)

-- What the reward constraint could undo is not undone.
structure Undisturbed : Prop where
  bidRoom : bidStands config depth input = true → bidReduces config input = false →
    input.currentPositionLots + raisedLots config input input.size.bidQtyLots ≤ config.maxInventoryLots
  askRoom : askStands config depth input = true → askReduces config input = false →
    config.minInventoryLots ≤ input.currentPositionLots - raisedLots config input input.size.askQtyLots
  bidEdge : narrows config depth input = true → bidReduces config input = false →
    BidEdge config input (rewardPrices config input).1
  askEdge : narrows config depth input = true → askReduces config input = false →
    AskEdge config input (rewardPrices config input).2

/-! The quote that comes out. -/

def shownPrices : Int × Int :=
  if narrows config depth input then rewardPrices config input
  else ((bidLeg config depth input).priceTick,(askLeg config depth input).priceTick)
def bidLots : Int := if bidReduces config input then bidQty config input
    else raisedLots config input input.size.bidQtyLots
def askLots : Int := if askReduces config input then askQty config input
    else raisedLots config input input.size.askQtyLots

structure Drafted (quote : QuoteIntent) : Prop where
  built : Built config depth input quote
  marketId : quote.marketId = input.marketId
  assetId : quote.assetId = input.assetId
  fair : quote.fairValueTick = input.fairValue.fairValueTick
  bid : quote.hasBid = true → quote.bid = bidLeg config depth input
  ask : quote.hasAsk = true → quote.ask = askLeg config depth input
structure ShownLeg (flag : Bool) (priceTick lots : Int) (leg : QuoteLeg) : Prop where
  flag : leg.riskReducing = flag
  price : leg.priceTick = priceTick
  lots : leg.quantityLots = lots
structure Shown (quote : QuoteIntent) : Prop where
  type : quote.type = quoteType config input
  hasBid : quote.hasBid = bidStands config depth input
  hasAsk : quote.hasAsk = askStands config depth input
  bid : quote.hasBid = true →
    ShownLeg (bidReduces config input) (shownPrices config depth input).1 (bidLots config input) quote.bid
  ask : quote.hasAsk = true →
    ShownLeg (askReduces config input) (shownPrices config depth input).2 (askLots config input) quote.ask

end

section
variable {config : MarketMakingConfig} {depth : MarketDepthView} {input : QuoteBuildInput}
  {quote quote' : QuoteIntent}

theorem drafted (resolved : resolveSelfCrossedMixedQuote (draft config depth input) = some quote) :
    Drafted config depth input quote := by
  have built := resolvedBuilt resolved
  have bid : (draft config depth input).hasBid = true →
    (draft config depth input).bid = bidLeg config depth input := fun quoted => if_pos quoted
  have ask : (draft config depth input).hasAsk = true →
    (draft config depth input).ask = askLeg config depth input := fun quoted => if_pos quoted
  rcases resolveCases resolved with ⟨_,rfl⟩ | ⟨_,⟨_,_,rfl⟩ | ⟨_,_,rfl⟩⟩
  · exact ⟨built,rfl,rfl,rfl,bid,ask⟩
  · exact ⟨built,rfl,rfl,rfl,bid,fun has => absurd has Bool.false_ne_true⟩
  · exact ⟨built,rfl,rfl,rfl,fun has => absurd has Bool.false_ne_true,ask⟩

theorem marketSame (drafted : Drafted config depth input quote) (snapshot : RewardConfigSnapshot) :
    findRewardMarket snapshot quote = findRewardMarket snapshot
      {marketId := input.marketId, assetId := input.assetId} := by
  unfold findRewardMarket
  rw [drafted.marketId,drafted.assetId]
inductive Applied (config : MarketMakingConfig) (input : QuoteBuildInput) (quote : QuoteIntent) :
    QuoteIntent → Prop
  | idle (none : rewardMarket config input = none) (reason : String) :
    Applied config input quote {quote with rewardReason := reason}
  | applied {market clamped} (found : rewardMarket config input = some market)
    (narrowed : clampTwoSidedSpread config (maxSpreadTick config market)
      (raiseOpeningSize (minSizeLots config market)
      (rewardQuote config market quote)) = some clamped) (eligible : Bool) (reason : String) :
    Applied config input quote {clamped with rewardEligible := eligible, rewardReason := reason}
theorem rewardApplied (drafted : Drafted config depth input quote)
    (applied : applyReward config input.rewardConfig quote = some quote') :
    Applied config input quote quote' := by
  have type : isUnwindQuote quote = isUnwindQuote {type := quoteType config input} := by
    unfold isUnwindQuote
    rw [drafted.built.type]
  unfold applyReward at applied
  split at applied
  · next off =>
    cases applied
    exact .idle (if_pos off) quote.rewardReason
  next aware =>
  split at applied
  · next exempt =>
    cases applied
    rw [type] at exempt
    refine .idle ?_ _
    unfold rewardMarket
    rw [if_neg aware,if_pos exempt]
  next bound =>
  rw [type] at bound
  have looked : rewardMarket config input = input.rewardConfig.bind fun snapshot =>
    findRewardMarket snapshot quote := by
    unfold rewardMarket
    rw [if_neg aware,if_neg bound]
    simp only [marketSame drafted]
  split at applied
  · next missing =>
    cases applied
    exact .idle (looked.trans (by rw [missing]; rfl)) _
  next snapshot given =>
  split at applied
  · next missing =>
    cases applied
    exact .idle (looked.trans (by rw [given]; exact missing)) _
  next market found =>
  obtain ⟨clamped,narrowed,last⟩ := Option.bind_eq_some_iff.mp applied
  cases last
  exact .applied (looked.trans (by rw [given]; exact found)) narrowed _ _

/-! The reward constraint on the drafted legs. -/

theorem raisedLeg {leg : QuoteLeg} {present flag : Bool} {priceTick lots minSize : Int}
    (shown : ShownLeg flag priceTick lots leg)
    (has : present = true) : ShownLeg flag priceTick
    (if flag then lots else if minSize ≤ 0 then lots else max lots minSize)
      (if minSize ≤ 0 then leg else raiseLeg present minSize leg) := by
  obtain ⟨own,rfl,rfl⟩ := shown
  by_cases none : minSize ≤ 0
  · rw [if_pos none,if_pos none,ite_self]
    exact ⟨own,rfl,rfl⟩
  · rw [if_neg none,if_neg none]
    unfold raiseLeg
    cases flag with
    | true =>
      have kept : ¬ (present = true ∧ leg.riskReducing = false) :=
        fun both => Bool.false_ne_true (both.2.symm.trans own)
      rw [if_neg kept,if_pos rfl]
      exact ⟨own,rfl,rfl⟩
    | false =>
      have raised : present = true ∧ leg.riskReducing = false := ⟨has,own⟩
      rw [if_pos raised,if_neg Bool.false_ne_true]
      exact ⟨own,rfl,rfl⟩
theorem raisedLegs (minSize : Int) (quote : QuoteIntent) :
    (raiseOpeningSize minSize quote).bid =
    (if minSize ≤ 0 then quote.bid else raiseLeg quote.hasBid minSize quote.bid) ∧
    (raiseOpeningSize minSize quote).ask =
    (if minSize ≤ 0 then quote.ask else raiseLeg quote.hasAsk minSize quote.ask) ∧
    (raiseOpeningSize minSize quote).fairValueTick = quote.fairValueTick := by
  unfold raiseOpeningSize
  split
  · exact ⟨rfl,rfl,rfl⟩
  · exact ⟨rfl,rfl,rfl⟩
theorem bidLotsRaised (config : MarketMakingConfig) (input : QuoteBuildInput) : bidLots config input =
    if bidReduces config input then bidQty config input
    else if rewardMinSize config input ≤ 0 then bidQty config input
    else max (bidQty config input) (rewardMinSize config input) := by
  unfold bidLots raisedLots bidQty
  cases bidReduces config input with
  | true => rfl
  | false => rfl
theorem askLotsRaised (config : MarketMakingConfig) (input : QuoteBuildInput) : askLots config input =
    if askReduces config input then askQty config input
    else if rewardMinSize config input ≤ 0 then askQty config input
    else max (askQty config input) (rewardMinSize config input) := by
  unfold askLots raisedLots askQty
  cases askReduces config input with
  | true => rfl
  | false => rfl

-- A quote with both sides and a wider spread than allowed.
def Wide (maxSpread : Int) (quote : QuoteIntent) : Prop :=
  quote.hasBid = true ∧ quote.hasAsk = true ∧ 0 < maxSpread ∧
    maxSpread < subI64 quote.ask.priceTick quote.bid.priceTick
theorem spreadCases {maxSpread : Int} (clamped : clampTwoSidedSpread config maxSpread quote = some quote') :
    (¬ Wide maxSpread quote ∧ quote' = quote) ∨
    (Wide maxSpread quote ∧ ∃ bidEdge askEdge halfSpread, quote' = { quote with
      bid :=
        { quote.bid with
          priceTick := (narrowedPrices config quote.fairValueTick maxSpread).1
          edgeToFairTick := bidEdge }
      ask :=
        { quote.ask with
          priceTick := (narrowedPrices config quote.fairValueTick maxSpread).2
          edgeToFairTick := askEdge }
      halfSpreadTick := halfSpread }) := by
  unfold clampTwoSidedSpread at clamped
  split at clamped
  · next close =>
    cases clamped
    refine .inl ⟨?_,rfl⟩
    rintro ⟨bid,ask,some,wide⟩
    rcases close with none | none | none | close
    · exact absurd (none.symm.trans bid) Bool.false_ne_true
    · exact absurd (none.symm.trans ask) Bool.false_ne_true
    · omega
    · omega
  next wide =>
  simp only at clamped
  split at clamped
  · cases clamped
  cases clamped
  rw [not_or,not_or,not_or,Bool.not_eq_false,Bool.not_eq_false,not_le,not_le] at wide
  exact .inr ⟨wide,_,_,_,rfl⟩

theorem idleReward (none : rewardMarket config input = none) : rewardMinSize config input = 0 ∧
    rewardMaxSpread config input = 0 := by
  unfold rewardMinSize rewardMaxSpread
  rw [none]
  exact ⟨rfl,rfl⟩
theorem idleClose (none : rewardMaxSpread config input = 0) : ¬ narrows config depth input = true := by
  intro narrow
  have wide := of_decide_eq_true narrow
  rw [none] at wide
  exact absurd wide.2.2.1 (lt_irrefl 0)
theorem foundReward {market} (found : rewardMarket config input = some market) :
    rewardMinSize config input = minSizeLots config market ∧
      rewardMaxSpread config input = maxSpreadTick config market := by
  unfold rewardMinSize rewardMaxSpread
  rw [found]
  exact ⟨rfl,rfl⟩

theorem draftedBid (drafted : Drafted config depth input quote) (has : quote.hasBid = true) :
    ShownLeg (bidReduces config input) (bidLeg config depth input).priceTick (bidQty config input) quote.bid := by
  rw [drafted.bid has]
  exact ⟨rfl,rfl,rfl⟩
theorem draftedAsk (drafted : Drafted config depth input quote) (has : quote.hasAsk = true) :
    ShownLeg (askReduces config input) (askLeg config depth input).priceTick (askQty config input) quote.ask := by
  rw [drafted.ask has]
  exact ⟨rfl,rfl,rfl⟩
structure Raised (config : MarketMakingConfig) (depth : MarketDepthView) (input : QuoteBuildInput)
    (quote : QuoteIntent) : Prop where
  built : Built config depth input quote
  fair : quote.fairValueTick = input.fairValue.fairValueTick
  bid : quote.hasBid = true →
    ShownLeg (bidReduces config input) (bidLeg config depth input).priceTick (bidLots config input) quote.bid
  ask : quote.hasAsk = true →
    ShownLeg (askReduces config input) (askLeg config depth input).priceTick (askLots config input) quote.ask
theorem raised (drafted : Drafted config depth input quote) :
    Raised config depth input (raiseOpeningSize (rewardMinSize config input) quote) := by
  have kept := raiseKept (rewardMinSize config input) quote
  obtain ⟨bid,ask,fair⟩ := raisedLegs (rewardMinSize config input) quote
  refine ⟨builtKept drafted.built kept,fair.trans drafted.fair,fun has => ?_,fun has => ?_⟩
  · have before := kept.hasBid.symm.trans has
    rw [bid,bidLotsRaised]
    exact raisedLeg (draftedBid drafted before) before
  · have before := kept.hasAsk.symm.trans has
    rw [ask,askLotsRaised]
    exact raisedLeg (draftedAsk drafted before) before
theorem raisedWide (raised : Raised config depth input quote) :
    Wide (rewardMaxSpread config input) quote ↔ narrows config depth input = true := by
  unfold Wide narrows
  rw [decide_eq_true_iff,← raised.built.hasBid,← raised.built.hasAsk]
  refine and_congr_right fun hasBid => and_congr_right fun hasAsk => ?_
  rw [(raised.bid hasBid).price,(raised.ask hasAsk).price]
theorem spreadShown (raised : Raised config depth input quote)
    (clamped : clampTwoSidedSpread config (rewardMaxSpread config input) quote = some quote') :
    Shown config depth input quote' := by
  have wide := raisedWide raised
  have fair := raised.fair
  rcases spreadCases clamped with ⟨close,rfl⟩ | ⟨far,_,_,_,rfl⟩
  · have same : shownPrices config depth input =
        ((bidLeg config depth input).priceTick,(askLeg config depth input).priceTick) :=
      if_neg fun narrow => close (wide.mpr narrow)
    refine ⟨raised.built.type,raised.built.hasBid,raised.built.hasAsk,fun has => ?_,fun has => ?_⟩
    · rw [same]
      exact raised.bid has
    · rw [same]
      exact raised.ask has
  · have prices : rewardPrices config input = narrowedPrices config quote.fairValueTick
      (rewardMaxSpread config input) := by
      unfold rewardPrices
      rw [fair]
    have same : shownPrices config depth input = _ := (if_pos (wide.mp far)).trans prices
    refine ⟨raised.built.type,raised.built.hasBid,raised.built.hasAsk,fun has => ?_,fun has => ?_⟩
    · rw [same]
      exact ⟨(raised.bid has).flag,rfl,(raised.bid has).lots⟩
    · rw [same]
      exact ⟨(raised.ask has).flag,rfl,(raised.ask has).lots⟩

theorem idleShown (drafted : Drafted config depth input quote) (none : rewardMarket config input = none) :
    Shown config depth input quote := by
  obtain ⟨minSize,maxSpread⟩ := idleReward none
  have close := @idleClose config depth input maxSpread
  have bid := bidLotsRaised config input
  have ask := askLotsRaised config input
  rw [minSize,if_pos le_rfl,ite_self] at bid ask
  refine ⟨drafted.built.type,drafted.built.hasBid,drafted.built.hasAsk,fun has => ?_,fun has => ?_⟩
  · rw [shownPrices,if_neg close,bid]
    exact draftedBid drafted has
  · rw [shownPrices,if_neg close,ask]
    exact draftedAsk drafted has
theorem markedDrafted (drafted : Drafted config depth input quote) (market : RewardMarketConfig) :
    Drafted config depth input (rewardQuote config market quote) :=
  ⟨builtKept drafted.built ⟨rfl,rfl,rfl,rfl,rfl,rfl,rfl,legKept _,legKept _,fun apart =>
    apart⟩,drafted.marketId,drafted.assetId,drafted.fair,
    drafted.bid,drafted.ask⟩
theorem judgedShown (shown : Shown config depth input quote) (eligible : Bool) (reason : String) :
    Shown config depth input {quote with rewardEligible := eligible, rewardReason := reason} :=
  ⟨shown.type,shown.hasBid,shown.hasAsk,shown.bid,shown.ask⟩
theorem rewardShown (drafted : Drafted config depth input quote) (applied : Applied config input quote quote') :
    Shown config depth input quote' := by
  cases applied with
  | idle none reason => exact judgedShown (idleShown drafted none) quote.rewardEligible reason
  | @applied market clamped found narrowed eligible reason =>
    obtain ⟨minSize,maxSpread⟩ := foundReward found
    rw [← minSize,← maxSpread] at narrowed
    exact judgedShown (spreadShown (raised (markedDrafted drafted market)) narrowed) eligible reason

theorem stampedShown (shown : Shown config depth input quote) (riskMode hash) :
    Shown config depth input {quote with riskMode, idempotencyHash := hash, quoteIntentId := hash} :=
  ⟨shown.type,shown.hasBid,shown.hasAsk,shown.bid,shown.ask⟩
theorem buildShown (configured : input.config = some config) (seen : input.depth = some depth)
    (made : build input = .ok quote) :
    Shown config depth input quote ∧
      (quote.hasBid = true → quote.hasAsk = true → quote.bid.priceTick < quote.ask.priceTick) ∧
      clampedBid config input < clampedAsk config input := by
  obtain ⟨config',depth',resolved,rewarded,configured',seen',stages,rfl⟩ := buildStages made
  cases configured.symm.trans configured'
  cases seen.symm.trans seen'
  have first := drafted stages.drafted
  have built := (stagesBuilt stages).1
  exact ⟨stampedShown (rewardShown first (rewardApplied first stages.applied)) _
    _,(builtKept built (finishKept rewarded)).uncrossed,
    stages.prices.2.2⟩

/-! Prices. -/

theorem clampWithin {low high : Int} (le : low ≤ high) (v : Int) : low ≤ clampTick v low high ∧
    clampTick v low high ≤ high := by
  unfold clampTick
  omega
theorem clampSame {low high v : Int} (above : low ≤ v) (below : v ≤ high) : clampTick v low high = v := by
  unfold clampTick
  omega
theorem rangeSome (apart : clampedBid config input < clampedAsk config input) :
    config.minPriceTick ≤ config.maxPriceTick := by
  unfold clampedBid clampedAsk clampTick at apart
  omega
theorem narrowedWithin (range : config.minPriceTick ≤ config.maxPriceTick) (fair maxSpread : Int) :
    PriceInRange config (narrowedPrices config fair maxSpread).1 ∧
      PriceInRange config (narrowedPrices config fair maxSpread).2 := by
  unfold narrowedPrices
  simp only
  split
  · exact ⟨clampWithin range _,clampWithin range _⟩
  · exact ⟨clampWithin range _,clampWithin range _⟩
theorem shownWithin (range : config.minPriceTick ≤ config.maxPriceTick) :
    PriceInRange config (shownPrices config depth input).1 ∧
      PriceInRange config (shownPrices config depth input).2 := by
  unfold shownPrices
  split
  · exact narrowedWithin range _ _
  · exact ⟨clampWithin range _,clampWithin range _⟩

-- A side that opens inventory is drafted at the clamped price, off the fair value.
theorem openingBid (fits : QuoteFits config input) (range : config.minPriceTick ≤ config.maxPriceTick)
    (quoted : bidQuoted config depth input = true) (opening : bidReduces config input = false) :
    BidEdge config input (bidLeg config depth input).priceTick := by
  obtain ⟨_,_,least,allowed,price⟩ := of_decide_eq_true quoted
  have tick : bidTick config input = min (clampedBid config input) (input.fairValue.fairValueTick - 1) := by
    unfold bidTick subI64
    rw [opening,if_neg Bool.false_ne_true,wrapExact fits.below]
  have clamped := (clampWithin range (subI64 (reservationTick input) input.spread.halfSpreadTick)).2
  change clampedBid config input ≤ _ at clamped
  have final : finalBidTick config depth input = bidTick config input := by
    unfold finalBidTick at price ⊢
    unfold steppedBidTick at price ⊢
    simp only [opening,Bool.false_eq_true,false_and,and_false,if_false] at price ⊢
    split at price
    · exact absurd price (lt_irrefl 0)
    · next some => rw [if_neg some]
  have shown : (bidLeg config depth input).priceTick = bidTick config input := by
    change clampTick (finalBidTick config depth input) _ _ = _
    rw [final]
    exact clampSame least (by omega)
  have edge : requiredEdgeTick config ≤ input.fairValue.fairValueTick - bidTick config input := by
    rcases of_decide_eq_true allowed with ⟨_,_,edge⟩ | ⟨behind,_⟩
    · unfold subI64 at edge
      rwa [wrapExact fits.bid] at edge
    · unfold positionError subI64 at behind
      rw [wrapExact fits.position] at behind
      exact absurd (of_decide_eq_false opening) (not_not.mpr (by omega))
  rw [shown]
  exact ⟨by omega,by omega⟩
theorem openingAsk (fits : QuoteFits config input) (range : config.minPriceTick ≤ config.maxPriceTick)
    (quoted : askQuoted config depth input = true) (opening : askReduces config input = false) :
    AskEdge config input (askLeg config depth input).priceTick := by
  obtain ⟨_,_,most,allowed,price⟩ := of_decide_eq_true quoted
  have tick : askTick config input = max (clampedAsk config input) (input.fairValue.fairValueTick + 1) := by
    unfold askTick addI64
    rw [opening,if_neg Bool.false_ne_true,wrapExact fits.above]
  have clamped := (clampWithin range (addI64 (reservationTick input) input.spread.halfSpreadTick)).1
  change _ ≤ clampedAsk config input at clamped
  have final : finalAskTick config depth input = askTick config input := by
    unfold finalAskTick at price ⊢
    unfold steppedAskTick at price ⊢
    simp only [opening,Bool.false_eq_true,false_and,and_false,if_false] at price ⊢
    split at price
    · exact absurd price (lt_irrefl 0)
    · next some => rw [if_neg some]
  have shown : (askLeg config depth input).priceTick = askTick config input := by
    change clampTick (finalAskTick config depth input) _ _ = _
    rw [final]
    exact clampSame (by omega) most
  have edge : requiredEdgeTick config ≤ askTick config input - input.fairValue.fairValueTick := by
    rcases of_decide_eq_true allowed with ⟨_,_,edge⟩ | ⟨ahead,_⟩
    · unfold subI64 at edge
      rwa [wrapExact fits.ask] at edge
    · unfold positionError subI64 at ahead
      rw [wrapExact fits.position] at ahead
      exact absurd (of_decide_eq_false opening) (not_not.mpr (by omega))
  rw [shown]
  exact ⟨by omega,by omega⟩

/-! Sizes. -/

theorem bidSome (quoted : bidQuoted config depth input = true) : 0 < bidQty config input ∧
    0 < bidLots config input := by
  obtain ⟨_,size,_,_,price⟩ := of_decide_eq_true quoted
  have some : 0 < bidQty config input := by
    unfold finalBidTick at price
    simp only at price
    split at price
    · exact absurd price (lt_irrefl 0)
    · next some => exact not_le.mp some
  refine ⟨some,?_⟩
  rw [bidLotsRaised]
  split
  · exact some
  split
  · exact some
  · exact lt_of_lt_of_le some (le_max_left _ _)
theorem askSome (quoted : askQuoted config depth input = true) : 0 < askQty config input ∧
    0 < askLots config input := by
  obtain ⟨_,size,_,_,price⟩ := of_decide_eq_true quoted
  have some : 0 < askQty config input := by
    unfold finalAskTick at price
    simp only at price
    split at price
    · exact absurd price (lt_irrefl 0)
    · next some => exact not_le.mp some
  refine ⟨some,?_⟩
  rw [askLotsRaised]
  split
  · exact some
  split
  · exact some
  · exact lt_of_lt_of_le some (le_max_left _ _)

theorem differenceLe {a b : Int} (le : b ≤ a) : max 0 (subI64 a b) ≤ a - b := by
  have least : i64Min ≤ 0 := by decide
  have wraps : subI64 a b ≤ a - b := wrapLe (by omega)
  omega
theorem reducedBid (bounded : Bounded config input) (reduces : bidReduces config input = true) :
    bidLots config input ≤ config.maxInventoryLots - input.currentPositionLots ∧
    (config.reduceOnlyQuoteToTarget = true → forcedUnwind config input = false →
      bidLots config input ≤ config.targetPositionLots - input.currentPositionLots) := by
  have behind : input.currentPositionLots < config.targetPositionLots := of_decide_eq_true reduces
  have target := bounded.target
  have lots : bidLots config input ≤ reduceQtyCap config input .bid := by
    unfold bidLots bidQty
    rw [if_pos reduces,if_pos reduces]
    exact min_le_right _ _
  unfold reduceQtyCap at lots
  simp only at lots
  rw [if_neg (not_le.mpr behind)] at lots
  have toTarget := @differenceLe config.targetPositionLots _ (le_of_lt behind)
  have toMax := @differenceLe config.maxInventoryLots input.currentPositionLots bounded.position.2
  constructor
  · split at lots
    · omega
    · omega
  · intro only calm
    rw [only,calm,if_neg (by decide)] at lots
    omega
theorem reducedAsk (bounded : Bounded config input) (reduces : askReduces config input = true) :
    askLots config input ≤ input.currentPositionLots - config.minInventoryLots ∧
    (config.reduceOnlyQuoteToTarget = true → forcedUnwind config input = false →
      askLots config input ≤ input.currentPositionLots - config.targetPositionLots) := by
  have ahead : config.targetPositionLots < input.currentPositionLots := of_decide_eq_true reduces
  have target := bounded.target
  have lots : askLots config input ≤ reduceQtyCap config input .ask := by
    unfold askLots askQty
    rw [if_pos reduces,if_pos reduces]
    exact min_le_right _ _
  unfold reduceQtyCap at lots
  simp only at lots
  rw [if_neg (not_le.mpr ahead)] at lots
  have toTarget := @differenceLe input.currentPositionLots _ (le_of_lt ahead)
  have toMin := @differenceLe input.currentPositionLots config.minInventoryLots bounded.position.1
  constructor
  · split at lots
    · omega
    · omega
  · intro only calm
    rw [only,calm,if_neg (by decide)] at lots
    omega
theorem calmType (placed : quoteType config input ≠ .forcedUnwind) : forcedUnwind config input = false := by
  unfold quoteType at placed
  split at placed
  · exact absurd rfl placed
  · next calm => exact Bool.eq_false_iff.mpr calm

-- Without a reward market, the sizes of the size model leave nothing to undo.
theorem sizedFits {scaledSize : ScaledSize} (bounded : Bounded config input)
    (sized : input.size = quoteSize scaledSize config depth input.currentPositionLots) :
    input.size.bidQtyLots ≤ config.maxInventoryLots - input.currentPositionLots ∧
    input.size.askQtyLots ≤ input.currentPositionLots - config.minInventoryLots := by
  have position := bounded.position
  have bidRoom := differenceLe position.2
  have askRoom := differenceLe position.1
  rw [sized]
  unfold quoteSize
  split
  · exact ⟨by simp only; omega,by simp only; omega⟩
  simp only
  constructor
  · split
    · exact le_trans (min_le_right _ _) (le_trans (min_le_left _ _) bidRoom)
    · omega
  · split
    · exact le_trans (min_le_right _ _) (le_trans (min_le_left _ _) askRoom)
    · omega
theorem plainUndisturbed {scaledSize : ScaledSize} (bounded : Bounded config input)
    (sized : input.size = quoteSize scaledSize config depth input.currentPositionLots)
    (plain : rewardMarket config input = none) :
    Undisturbed config depth input := by
  obtain ⟨minSize,maxSpread⟩ := idleReward plain
  obtain ⟨bid,ask⟩ := sizedFits bounded sized
  have same : ∀ lots, raisedLots config input lots = lots := by
    intro lots
    unfold raisedLots
    rw [minSize,if_pos le_rfl]
  have close := @idleClose config depth input maxSpread
  refine ⟨fun _ _ => ?_,fun _ _ => ?_,fun narrow => absurd narrow close,fun narrow => absurd narrow close⟩
  · rw [same]
    omega
  · rw [same]
    omega

/-! The sides that stand. -/

section
variable (bounded : Bounded config input)

theorem bidEdgeExact (fits : QuoteFits config input) (range : config.minPriceTick ≤ config.maxPriceTick)
    (stands : bidStands config depth input = true) (opening : bidReduces config input = false) :
    BidEdge config input (shownPrices config depth input).1 ↔
      (narrows config depth input = true → BidEdge config input (rewardPrices config input).1) := by
  have plain := openingBid fits range (of_decide_eq_true stands).1 opening
  unfold shownPrices
  by_cases narrow : narrows config depth input = true
  · rw [if_pos narrow]
    exact ⟨fun edge _ => edge,fun edge => edge narrow⟩
  · rw [if_neg narrow]
    exact ⟨fun _ wide => absurd wide narrow,fun _ => plain⟩
theorem askEdgeExact (fits : QuoteFits config input) (range : config.minPriceTick ≤ config.maxPriceTick)
    (stands : askStands config depth input = true) (opening : askReduces config input = false) :
    AskEdge config input (shownPrices config depth input).2 ↔
      (narrows config depth input = true → AskEdge config input (rewardPrices config input).2) := by
  have plain := openingAsk fits range (of_decide_eq_true stands).1 opening
  unfold shownPrices
  by_cases narrow : narrows config depth input = true
  · rw [if_pos narrow]
    exact ⟨fun edge _ => edge,fun edge => edge narrow⟩
  · rw [if_neg narrow]
    exact ⟨fun _ wide => absurd wide narrow,fun _ => plain⟩

include bounded
theorem bidRoomExact (stands : bidStands config depth input = true) :
    WithinInventory config (input.currentPositionLots + bidLots config input) ↔
    (bidReduces config input = false →
      input.currentPositionLots + raisedLots config input input.size.bidQtyLots ≤ config.maxInventoryLots) := by
  have some := (bidSome (of_decide_eq_true stands).1).2
  have position := bounded.position
  cases own : bidReduces config input with
  | true =>
    have room := (reducedBid bounded own).1
    exact ⟨fun _ opening => (by cases opening),fun _ => ⟨by omega,by omega⟩⟩
  | false =>
    have lots : bidLots config input = raisedLots config input input.size.bidQtyLots := by
      rw [bidLots,own]
      rfl
    rw [lots] at some ⊢
    exact ⟨fun room _ => room.2,fun room => ⟨by omega,room rfl⟩⟩
theorem askRoomExact (stands : askStands config depth input = true) :
    WithinInventory config (input.currentPositionLots - askLots config input) ↔
    (askReduces config input = false →
      config.minInventoryLots ≤ input.currentPositionLots - raisedLots config input input.size.askQtyLots) := by
  have some := (askSome (of_decide_eq_true stands).1).2
  have position := bounded.position
  cases own : askReduces config input with
  | true =>
    have room := (reducedAsk bounded own).1
    exact ⟨fun _ opening => (by cases opening),fun _ => ⟨by omega,by omega⟩⟩
  | false =>
    have lots : askLots config input = raisedLots config input input.size.askQtyLots := by
      rw [askLots,own]
      rfl
    rw [lots] at some ⊢
    exact ⟨fun room _ => room.1,fun room => ⟨room rfl,by omega⟩⟩

end

theorem soundUndisturbed (configured : input.config = some config) (seen : input.depth = some depth)
    (made : build input = .ok quote)
    (bounded : Bounded config input) (fits : QuoteFits config input) : QuoteSound config input quote ↔
    Undisturbed config depth input := by
  obtain ⟨shown,apart,clamped⟩ := buildShown configured seen made
  have range := rangeSome clamped
  have prices := @shownWithin config depth input range
  constructor
  · intro sound
    have bidRoom : bidStands config depth input = true →
      WithinInventory config (input.currentPositionLots + bidLots config input) := by
      intro stands
      have has := shown.hasBid.trans stands
      exact (shown.bid has).lots ▸ sound.bidRoom has
    have askRoom : askStands config depth input = true →
      WithinInventory config (input.currentPositionLots - askLots config input) := by
      intro stands
      have has := shown.hasAsk.trans stands
      exact (shown.ask has).lots ▸ sound.askRoom has
    refine ⟨fun stands => (bidRoomExact bounded stands).mp (bidRoom stands),fun stands =>
      (askRoomExact bounded stands).mp (askRoom stands),
      fun narrow opening => ?_,fun narrow opening => ?_⟩
    · have stands : bidStands config depth input = true := (of_decide_eq_true narrow).1
      have has := shown.hasBid.trans stands
      have edge := sound.bidEdge has ((shown.bid has).flag.trans opening)
      rw [(shown.bid has).price] at edge
      exact (bidEdgeExact fits range stands opening).mp edge narrow
    · have stands : askStands config depth input = true := (of_decide_eq_true narrow).2.1
      have has := shown.hasAsk.trans stands
      have edge := sound.askEdge has ((shown.ask has).flag.trans opening)
      rw [(shown.ask has).price] at edge
      exact (askEdgeExact fits range stands opening).mp edge narrow
  · intro calm
    have bidIn : quote.hasBid = true → bidStands config depth input = true :=
      fun has => shown.hasBid.symm.trans has
    have askIn : quote.hasAsk = true → askStands config depth input = true :=
      fun has => shown.hasAsk.symm.trans has
    refine ⟨fun has => ?_,fun has => ?_,apart,fun has opening => ?_,fun has opening => ?_,fun has =>
      ?_,fun has => ?_,
      fun has reducing only placed => ?_,fun has reducing only placed => ?_⟩
    · rw [(shown.bid has).price]
      exact prices.1
    · rw [(shown.ask has).price]
      exact prices.2
    · have own := (shown.bid has).flag.symm.trans opening
      rw [(shown.bid has).price]
      exact (bidEdgeExact fits range (bidIn has) own).mpr fun narrow => calm.bidEdge narrow own
    · have own := (shown.ask has).flag.symm.trans opening
      rw [(shown.ask has).price]
      exact (askEdgeExact fits range (askIn has) own).mpr fun narrow => calm.askEdge narrow own
    · rw [(shown.bid has).lots]
      exact (bidRoomExact bounded (bidIn has)).mpr (calm.bidRoom (bidIn has))
    · rw [(shown.ask has).lots]
      exact (askRoomExact bounded (askIn has)).mpr (calm.askRoom (askIn has))
    · have own := (shown.bid has).flag.symm.trans reducing
      have room := (reducedBid bounded own).2 only (calmType (shown.type ▸ placed))
      rw [(shown.bid has).lots]
      omega
    · have own := (shown.ask has).flag.symm.trans reducing
      have room := (reducedAsk bounded own).2 only (calmType (shown.type ▸ placed))
      rw [(shown.ask has).lots]
      omega

theorem quoteSoundIff (configured : input.config = some config) (seen : input.depth = some depth)
    (made : build input = .ok quote)
    (bounded : Bounded config input) (fits : QuoteFits config input) :
    (QuoteSound config input quote ↔ Undisturbed config depth input) ∧
      ∀ scaledSize : ScaledSize, input.size = quoteSize scaledSize config depth input.currentPositionLots →
        rewardMarket config input = none → Undisturbed config depth input :=
  ⟨soundUndisturbed configured seen made bounded fits,fun _ sized plain => plainUndisturbed bounded sized plain⟩

end

-- A market that rewards twelve lots within 20000 ticks, and a quote on it with the sizes of the size model.
def rewards : RewardConfigSnapshot :=
  {markets := [{conditionId := "vote", rewardsMaxSpreadTick := 20000, rewardsMinSizeLots := 12}]}
def rewardConfig (targetPositionLots minQuoteEdgeTick : Int) : MarketMakingConfig :=
  {targetPositionLots, minQuoteEdgeTick, rewardAwareQuotesEnabled := true}
def rewardInput (targetPositionLots minQuoteEdgeTick : Int) : QuoteBuildInput :=
  { marketId := "vote"
    depth := some deepBook
    config := some (rewardConfig targetPositionLots minQuoteEdgeTick)
    fairValue := {ok := true, fairValueTick := 400000}
    spread := computeSpread (rewardConfig targetPositionLots minQuoteEdgeTick)
    size := quoteSize exactScaledSize
      (rewardConfig targetPositionLots minQuoteEdgeTick) deepBook targetPositionLots
    rewardConfig := some rewards
    currentPositionLots := targetPositionLots
    nowNs := 1000 }
theorem roomyRewardSound : ∃ quote, build (rewardInput 20 0) = .ok quote ∧ quote.hasBid = true ∧
    quote.hasAsk = true ∧
    QuoteSound (rewardConfig 20 0) (rewardInput 20 0) quote := by
  have made : ∃ quote ∈ (build (rewardInput 20 0)).toOption, quote.hasBid = true ∧ quote.hasAsk = true := by
    decide +kernel
  obtain ⟨quote,found,hasBid,hasAsk⟩ := made
  have built := Machine.memToOption.mp found
  refine ⟨quote,built,hasBid,hasAsk,(quoteSoundIff rfl rfl built ⟨by decide,by decide⟩
    ⟨by decide,by decide,by decide,by decide +kernel,by decide +kernel⟩).1.mpr ?_⟩
  exact ⟨by decide +kernel,by decide +kernel,by decide +kernel,by decide +kernel⟩

-- Five lots under the limit the bid is raised to twelve; and an edge of 20000 is narrowed down to 10000.
theorem rewardUndoesRoomAndEdge :
    (∃ quote, build (rewardInput 95 0) = .ok quote ∧ ¬ QuoteSound (rewardConfig 95 0) (rewardInput 95 0) quote) ∧
    ∃ quote, build (rewardInput 20 20000) = .ok quote ∧
      ¬ QuoteSound (rewardConfig 20 20000) (rewardInput 20 20000) quote := by
  have raised : ∃ quote ∈ (build (rewardInput 95 0)).toOption, quote.hasBid = true ∧
    100 < 95 + quote.bid.quantityLots := by decide +kernel
  have narrowed : ∃ quote ∈ (build (rewardInput 20 20000)).toOption, quote.hasBid = true ∧
    quote.bid.riskReducing = false ∧
      ¬ BidEdge (rewardConfig 20 20000) (rewardInput 20 20000) quote.bid.priceTick := by decide +kernel
  obtain ⟨quote,found,hasBid,more⟩ := raised
  obtain ⟨quote',found',hasBid',opening,short⟩ := narrowed
  refine ⟨⟨quote,Machine.memToOption.mp found,fun sound => ?_⟩,quote',Machine.memToOption.mp
    found',fun sound => ?_⟩
  · exact absurd (sound.bidRoom hasBid).2 (not_le.mpr more)
  · exact short (sound.bidEdge hasBid' opening)

end Polytope.QuoteSoundness
