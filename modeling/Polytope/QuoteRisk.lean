import Polytope.QuoteTypes
import Polytope.RiskTypes

/-! QuoteRiskEvaluator: a quote against a book, a position and a policy. The source returns at the
first check that refuses; the checks are listed here in its order, each with its decision and reason. -/
namespace Polytope.QuoteRisk
open FixedPointMath MarketDepth QuoteTypes
open RiskTypes (QuoteRiskPolicy computePolicyHash)

inductive QuoteRiskDecisionType where
  | approve | rejectInvalidQuote | rejectExpiredQuote | rejectStaleBook | rejectCrossedBook | rejectBookNotUsable
  | rejectInventoryLimit | rejectExposureLimit | rejectDuplicateQuote | rejectQuoteTooFrequent | rejectKillSwitch
  | rejectLowEdgeToFair | rejectUnsupportedSide | rejectSpreadTooTight | rejectSpreadTooWide
  | rejectFairValueDeviation | rejectRewardConfigMissing | rejectRewardSpreadTooWide | rejectRewardSizeTooSmall
  | rejectStaleSpot | rejectStaleVol | rejectLowExternalConfidence | rejectCanonicalExposureLimit
  | rejectPortfolioTouchLimit
  deriving DecidableEq, Repr

structure QuoteRiskInput where
  quote : Option QuoteIntent := none
  depth : Option MarketDepthView := none
  policy : Option QuoteRiskPolicy := none
  currentPositionLots : Int := 0
  projectedCanonicalYesPositionLots : Int := 0
  portfolioTouchExposureLots : Int := 0
  spotAgeMs : Int := 0
  volAgeMs : Int := 0
  externalConfidenceBps : Int := 0
  activeQuotesForAsset : Nat := 0
  lastReplaceTsNs : Nat := 0
  nowNs : Nat := 0

structure QuoteRiskDecision where
  decisionId : UInt64 := 0
  quoteIntentId : UInt64 := 0
  quoteGroupId : UInt64 := 0
  decision : QuoteRiskDecisionType := .rejectInvalidQuote
  policyHash : UInt64 := 0
  snapshotVersionHash : UInt64 := 0
  idempotencyHash : UInt64 := 0
  decisionTsNs : Nat := 0
  bidNotionalTick : Int := 0
  askNotionalTick : Int := 0
  totalNotionalTick : Int := 0
  reason : String := ""
structure ApprovedQuote where
  approvedQuoteId : UInt64 := 0
  quoteIntentId : UInt64 := 0
  quoteGroupId : UInt64 := 0
  hasBid : Bool := false
  hasAsk : Bool := false
  bid : QuoteLeg := {}
  ask : QuoteLeg := {}
  approvedTsNs : Nat := 0
  expiresAtNs : Nat := 0
  idempotencyHash : UInt64 := 0
  policyHash : UInt64 := 0
  snapshotVersionHash : UInt64 := 0
  deriving DecidableEq, Repr
structure QuoteRiskResult where
  decision : QuoteRiskDecision := {}
  approvedQuote : Option ApprovedQuote := none

open Fnv in
def computeQuoteRiskDecisionHash (d : QuoteRiskDecision) : UInt64 :=
  let h := mixNat (mixU64 (mixU64 offset d.quoteIntentId) d.quoteGroupId) d.decision.ctorIdx
  let h := mixNat ([d.policyHash,d.snapshotVersionHash,d.idempotencyHash].foldl mixU64 h) d.decisionTsNs
  [d.bidNotionalTick,d.askNotionalTick,d.totalNotionalTick].foldl mixI64 h
open Fnv in
def computePaperMakerQuoteId (q : ApprovedQuote) : UInt64 :=
  let hash := [q.approvedQuoteId,q.quoteIntentId,q.quoteGroupId,q.idempotencyHash,q.policyHash,
    q.snapshotVersionHash].foldl mixU64 offset
  if hash = 0 then 1 else hash
open Fnv in
def computeApprovedQuoteHash (q : ApprovedQuote) : UInt64 :=
  let h := mixFlag (mixFlag (mixU64 (mixU64 offset q.quoteIntentId) q.quoteGroupId) q.hasBid) q.hasAsk
  let h := if q.hasBid then mixU64 h (computeQuoteLegHash q.bid) else h
  let h := if q.hasAsk then mixU64 h (computeQuoteLegHash q.ask) else h
  [q.idempotencyHash,q.policyHash,q.snapshotVersionHash].foldl mixU64
  (mixNat (mixNat h q.approvedTsNs) q.expiresAtNs)

def saturatingMul (lhs rhs : Int) : Int := clampI64 (lhs * rhs)
def activeSideValid (leg : QuoteLeg) : Bool := 0 < leg.priceTick ∧ 0 < leg.quantityLots
def notional (leg : QuoteLeg) : Int :=
  if activeSideValid leg then saturatingMul leg.priceTick leg.quantityLots else 0
def bidNotional (quote : QuoteIntent) : Int := if quote.hasBid then notional quote.bid else 0
def askNotional (quote : QuoteIntent) : Int := if quote.hasAsk then notional quote.ask else 0

def fairDeviationThreshold (fairValueTick maxDeviationTick maxDeviationBps : Int) : Int :=
  let threshold := max 0 maxDeviationTick
  if 0 < fairValueTick ∧ 0 < maxDeviationBps then
    let bpsThreshold := max 1 (wrapI64 ((fairValueTick * maxDeviationBps).tdiv 10000))
    if 0 < threshold then min threshold bpsThreshold else bpsThreshold
  else threshold
def quoteDeviatesTooFar (leg : QuoteLeg) (fairValueTick maxDeviationTick maxDeviationBps : Int) : Bool :=
  let threshold := fairDeviationThreshold fairValueTick maxDeviationTick maxDeviationBps
  0 < threshold ∧ threshold < absI64 (subI64 leg.priceTick fairValueTick)
def spreadBps (spreadTick fairValueTick : Int) : Int :=
  if spreadTick ≤ 0 ∨ fairValueTick ≤ 0 then 0 else wrapI64 ((spreadTick * 10000).tdiv fairValueTick)
def bookSpreadTick (depth : MarketDepthView) : Int := subI64 (bestAskTick depth) (bestBidTick depth)

def isUnwindQuote (quote : QuoteIntent) : Bool := quote.type = .passiveUnwind ∨ quote.type = .forcedUnwind
-- A side reduces inventory when it moves the position towards the quote's target.
def bidReducesInventory (input : QuoteRiskInput) (quote : QuoteIntent) : Bool :=
  quote.hasBid ∧ input.currentPositionLots < quote.targetPositionLots
def askReducesInventory (input : QuoteRiskInput) (quote : QuoteIntent) : Bool :=
  quote.hasAsk ∧ quote.targetPositionLots < input.currentPositionLots
def allowsFairExemption (quote : QuoteIntent) (leg : QuoteLeg) (reduces : Bool) : Bool :=
  reduces ∧ (leg.riskReducing ∨ leg.allowFairDeviationExemption ∨ isUnwindQuote quote)
def allowsSpreadExemption (leg : QuoteLeg) (reduces : Bool) : Bool :=
  reduces ∧ leg.riskReducing ∧ leg.allowSpreadExemption
def bidQtyExempt (input : QuoteRiskInput) (quote : QuoteIntent) : Bool :=
  bidReducesInventory input quote ∧ quote.bid.riskReducing
def askQtyExempt (input : QuoteRiskInput) (quote : QuoteIntent) : Bool :=
  askReducesInventory input quote ∧ quote.ask.riskReducing

def reducibleQtyLots (input : QuoteRiskInput) (quote : QuoteIntent) (side : QuoteSide) (reduces : Bool) : Int :=
  if reduces = false then 0
  else match side with
    | .ask =>
      if input.currentPositionLots ≤ quote.targetPositionLots then 0
      else if quote.type = .forcedUnwind then max 0 input.currentPositionLots
      else subI64 input.currentPositionLots quote.targetPositionLots
    | .bid =>
      if quote.targetPositionLots ≤ input.currentPositionLots then 0
      else if quote.type = .forcedUnwind ∧ input.currentPositionLots < 0 then wrapI64 (-input.currentPositionLots)
      else subI64 quote.targetPositionLots input.currentPositionLots

def rewardGateExempt (policy : QuoteRiskPolicy) (quote : QuoteIntent) : Bool :=
  policy.allowRewardExemptionForReduceOnly ∧
    (quote.riskMode = .reduceOnly ∨ quote.riskMode = .forcedReduce ∨ isUnwindQuote quote)
def openingSideBelowRewardMinSize (quote : QuoteIntent) (minSizeLots : Int) : Bool :=
  0 < minSizeLots ∧ ((quote.hasBid ∧ quote.bid.riskReducing = false ∧ quote.bid.quantityLots < minSizeLots) ∨
    (quote.hasAsk ∧ quote.ask.riskReducing = false ∧ quote.ask.quantityLots < minSizeLots))

/-! The checks the properties are about, under names of their own. -/

def crossesItself (quote : QuoteIntent) : Bool :=
  quote.hasBid ∧ quote.hasAsk ∧ quote.ask.priceTick ≤ quote.bid.priceTick
def invalidSides (quote : QuoteIntent) : Bool :=
  (quote.hasBid && !activeSideValid quote.bid) || (quote.hasAsk && !activeSideValid quote.ask)
def crossesFair (input : QuoteRiskInput) (quote : QuoteIntent) : Bool :=
  (quote.hasBid ∧ allowsFairExemption quote quote.bid (bidReducesInventory input quote) = false ∧
      quote.fairValueTick ≤ quote.bid.priceTick) ∨
    (quote.hasAsk ∧ allowsFairExemption quote quote.ask (askReducesInventory input quote) = false ∧
      quote.ask.priceTick ≤ quote.fairValueTick)
def nonReducingUnwind (input : QuoteRiskInput) (quote : QuoteIntent) : Bool :=
  isUnwindQuote quote ∧ ((quote.hasBid ∧ bidReducesInventory input quote = false) ∨
    (quote.hasAsk ∧ askReducesInventory input quote = false))
def bidOverReduces (input : QuoteRiskInput) (quote : QuoteIntent) : Bool :=
  bidReducesInventory input quote ∧
    reducibleQtyLots input quote .bid (bidReducesInventory input quote) < quote.bid.quantityLots
def askOverReduces (input : QuoteRiskInput) (quote : QuoteIntent) : Bool :=
  askReducesInventory input quote ∧
    reducibleQtyLots input quote .ask (askReducesInventory input quote) < quote.ask.quantityLots
def breachesInventory (input : QuoteRiskInput) (quote : QuoteIntent) (policy : QuoteRiskPolicy) : Bool :=
  0 < policy.maxAssetInventoryLots ∧
    ((quote.hasBid ∧ bidReducesInventory input quote = false ∧
        policy.maxAssetInventoryLots < absI64 (addI64 input.currentPositionLots quote.bid.quantityLots)) ∨
      (quote.hasAsk ∧ askReducesInventory input quote = false ∧
        policy.maxAssetInventoryLots < absI64 (subI64 input.currentPositionLots quote.ask.quantityLots)))
def openingBidNotional (input : QuoteRiskInput) (quote : QuoteIntent) : Int :=
  if quote.hasBid ∧ bidQtyExempt input quote = false then bidNotional quote else 0
def openingAskNotional (input : QuoteRiskInput) (quote : QuoteIntent) : Int :=
  if quote.hasAsk ∧ askQtyExempt input quote = false then askNotional quote else 0
def breachesNotional (input : QuoteRiskInput) (quote : QuoteIntent) (policy : QuoteRiskPolicy) : Bool :=
  0 < policy.maxQuoteNotionalTick ∧
    policy.maxQuoteNotionalTick < addI64 (openingBidNotional input quote) (openingAskNotional input quote)

structure QuoteCheck where
  refused : Bool
  decision : QuoteRiskDecisionType
  reason : String

def policyChecks (input : QuoteRiskInput) (quote : QuoteIntent) (policy : QuoteRiskPolicy) : List QuoteCheck :=
  [ ⟨policy.quoteKillSwitchEnabled,.rejectKillSwitch,"quote kill switch enabled"⟩,
    ⟨0 < policy.maxSpotAgeMs ∧ castI64 policy.maxSpotAgeMs < input.spotAgeMs,.rejectStaleSpot,"stale spot"⟩,
    ⟨0 < policy.maxVolAgeMs ∧ castI64 policy.maxVolAgeMs < input.volAgeMs,.rejectStaleVol,"stale vol"⟩,
    ⟨0 < policy.minExternalConfidenceBps ∧ input.externalConfidenceBps < policy.minExternalConfidenceBps,
      .rejectLowExternalConfidence,"external fair confidence below policy minimum"⟩,
    ⟨0 < policy.maxCanonicalYesExposureLots ∧
        policy.maxCanonicalYesExposureLots < absI64 input.projectedCanonicalYesPositionLots,
      .rejectCanonicalExposureLimit,"canonical yes exposure limit exceeded"⟩,
    ⟨0 < policy.maxPortfolioTouchExposureLots ∧
        policy.maxPortfolioTouchExposureLots < absI64 input.portfolioTouchExposureLots,
      .rejectPortfolioTouchLimit,"portfolio touch exposure limit exceeded"⟩,
    ⟨quote.expiresAtNs ≤ input.nowNs,.rejectExpiredQuote,"quote expired"⟩ ]
def bookChecks (input : QuoteRiskInput) (quote : QuoteIntent) (policy : QuoteRiskPolicy)
    (depth : MarketDepthView) :
    List QuoteCheck :=
  [ ⟨!depth.usableForDepth,.rejectBookNotUsable,"book not usable"⟩,
    ⟨depth.crossed,.rejectCrossedBook,"crossed book"⟩,
    ⟨depth.recovering || depth.closed || depth.resolved,.rejectBookNotUsable,"bad book state"⟩,
    ⟨depth.bids = [] ∨ depth.asks = [] ∨ bestBidTick depth ≤ 0 ∨ bestAskTick depth ≤ 0,.rejectBookNotUsable,
      "missing or invalid top of book"⟩,
    ⟨bestAskTick depth ≤ bestBidTick depth,.rejectCrossedBook,"crossed top of book"⟩,
    ⟨0 < policy.maxBookSpreadTick ∧ policy.maxBookSpreadTick < bookSpreadTick depth,.rejectSpreadTooWide,
      "book spread above quote risk maximum"⟩,
    ⟨0 < policy.maxBookSpreadBps ∧ policy.maxBookSpreadBps < spreadBps (bookSpreadTick depth) quote.fairValueTick,
      .rejectSpreadTooWide,"book spread bps above quote risk maximum"⟩,
    ⟨0 < policy.maxBookAgeNs ∧ depth.lastWsRecvNs < input.nowNs ∧
        policy.maxBookAgeNs < input.nowNs - depth.lastWsRecvNs,.rejectStaleBook,"stale book"⟩ ]
def sideChecks (input : QuoteRiskInput) (quote : QuoteIntent) : List QuoteCheck :=
  [ ⟨!quote.hasBid && !quote.hasAsk,.rejectInvalidQuote,"quote has no active sides"⟩,
    ⟨invalidSides quote,.rejectInvalidQuote,"invalid side price or quantity"⟩,
    ⟨crossesItself quote,.rejectCrossedBook,"quote crosses itself"⟩,
    ⟨nonReducingUnwind input quote,.rejectInvalidQuote,"unwind quote contains non-reducing side"⟩ ]
def rewardChecks (quote : QuoteIntent) (policy : QuoteRiskPolicy) : List QuoteCheck :=
  if policy.rewardEligibilityRequired ∧ rewardGateExempt policy quote = false then
    let spreadLimit := if 0 < policy.rewardMaxSpreadTick then policy.rewardMaxSpreadTick
      else quote.rewardMaxSpreadTick
    let minSize := if 0 < policy.rewardMinQuoteSizeLots then policy.rewardMinQuoteSizeLots
      else quote.rewardMinSizeLots
    [ ⟨!quote.rewardConfigPresent,.rejectRewardConfigMissing,"reward config required but missing"⟩,
      ⟨quote.hasBid ∧ quote.hasAsk ∧ 0 < spreadLimit ∧
        spreadLimit < subI64 quote.ask.priceTick quote.bid.priceTick,
        .rejectRewardSpreadTooWide,"quote spread exceeds reward spread cap"⟩,
      ⟨openingSideBelowRewardMinSize quote minSize,.rejectRewardSizeTooSmall,"quote size below reward minimum"⟩ ]
  else []
def fairChecks (input : QuoteRiskInput) (quote : QuoteIntent) (policy : QuoteRiskPolicy)
    (depth : MarketDepthView) :
    List QuoteCheck :=
  let bidReduces := bidReducesInventory input quote
  let askReduces := askReducesInventory input quote
  let bidHeld := quote.hasBid && !allowsFairExemption quote quote.bid bidReduces
  let askHeld := quote.hasAsk && !allowsFairExemption quote quote.ask askReduces
  let deviates := fun leg => quoteDeviatesTooFar leg quote.fairValueTick policy.maxQuoteFairDeviationTick
    policy.maxQuoteFairDeviationBps
  [ ⟨0 < policy.minBookSpreadTick ∧ bookSpreadTick depth < policy.minBookSpreadTick ∧
        ¬ ((quote.hasBid → allowsSpreadExemption quote.bid bidReduces) ∧
          (quote.hasAsk → allowsSpreadExemption quote.ask askReduces)),
      .rejectSpreadTooTight,"book spread below quote risk minimum"⟩,
    ⟨crossesFair input quote,.rejectFairValueDeviation,"quote side crosses fair value"⟩,
    ⟨(bidHeld && deviates quote.bid) || (askHeld && deviates quote.ask),.rejectFairValueDeviation,
      "quote price deviates too far from fair value"⟩,
    ⟨(quote.hasBid && !policy.allowBidQuotes && !bidReduces) ||
      (quote.hasAsk && !policy.allowAskQuotes && !askReduces),
      .rejectUnsupportedSide,"quote side disabled by policy"⟩ ]
def limitChecks (input : QuoteRiskInput) (quote : QuoteIntent) (policy : QuoteRiskPolicy) : List QuoteCheck :=
  [ ⟨bidOverReduces input quote || askOverReduces input quote,.rejectInvalidQuote,
      "reduce-only quantity exceeds reducible inventory"⟩,
    ⟨0 < policy.maxQuoteQtyLots ∧
        ((quote.hasBid ∧ policy.maxQuoteQtyLots < quote.bid.quantityLots ∧ bidQtyExempt input quote = false) ∨
          (quote.hasAsk ∧ policy.maxQuoteQtyLots < quote.ask.quantityLots ∧ askQtyExempt input quote = false)),
      .rejectExposureLimit,"quote quantity exceeds limit"⟩,
    ⟨breachesInventory input quote policy,.rejectInventoryLimit,"inventory limit exceeded"⟩,
    ⟨breachesNotional input quote policy,.rejectExposureLimit,"quote notional exceeds limit"⟩,
    ⟨policy.maxActiveQuotesPerAsset ≤ input.activeQuotesForAsset,.rejectDuplicateQuote,
      "too many active quotes for asset"⟩,
    ⟨quote.type = .replaceQuote ∧ 0 < input.lastReplaceTsNs ∧ input.lastReplaceTsNs < input.nowNs ∧
        input.nowNs - input.lastReplaceTsNs < policy.minReplaceIntervalNs,
      .rejectQuoteTooFrequent,"replace interval too short"⟩,
    ⟨isUnwindQuote quote = false ∧
        ((quote.hasBid ∧ bidReducesInventory input quote = false ∧
            subI64 quote.fairValueTick quote.bid.priceTick < policy.minEdgeToFairTick) ∨
          (quote.hasAsk ∧ askReducesInventory input quote = false ∧
            subI64 quote.ask.priceTick quote.fairValueTick < policy.minEdgeToFairTick)),
      .rejectLowEdgeToFair,"edge to fair below threshold"⟩ ]
def checks (input : QuoteRiskInput) (quote : QuoteIntent) (policy : QuoteRiskPolicy) : List QuoteCheck :=
  policyChecks input quote policy ++
    match input.depth with
    | none => [⟨true,.rejectBookNotUsable,"book not usable"⟩]
    | some depth => bookChecks input quote policy depth ++ sideChecks input quote ++ rewardChecks quote policy ++
        fairChecks input quote policy depth ++ limitChecks input quote policy

def quotable (quote : QuoteIntent) : Bool :=
  quote.quoteIntentId ≠ 0 ∧ (quote.type = .placeQuote ∨ quote.type = .replaceQuote ∨ isUnwindQuote quote)

def baseDecision (input : QuoteRiskInput) : QuoteRiskDecision :=
  let quote := input.quote.getD {}
  { quoteIntentId := quote.quoteIntentId
    quoteGroupId := quote.quoteGroupId
    snapshotVersionHash := quote.snapshotVersionHash
    idempotencyHash := quote.idempotencyHash
    policyHash := (input.policy.map fun policy => computePolicyHash {quoteRisk := policy}).getD 0
    decisionTsNs := input.nowNs }
def quoteDecision (input : QuoteRiskInput) (decision : QuoteRiskDecisionType) (reason : String) (bid ask : Int) :
    QuoteRiskDecision :=
  let d : QuoteRiskDecision :=
    { baseDecision input with
      decision
      reason
      bidNotionalTick := bid
      askNotionalTick := ask
      totalNotionalTick := addI64 bid ask }
  {d with decisionId := computeQuoteRiskDecisionHash d}
def approvedQuote (input : QuoteRiskInput) (quote : QuoteIntent) (policyHash : UInt64) : ApprovedQuote :=
  let approved : ApprovedQuote :=
    { quoteIntentId := quote.quoteIntentId
      quoteGroupId := quote.quoteGroupId
      hasBid := quote.hasBid
      hasAsk := quote.hasAsk
      bid := quote.bid
      ask := quote.ask
      approvedTsNs := input.nowNs
      expiresAtNs := quote.expiresAtNs
      idempotencyHash := quote.idempotencyHash
      policyHash
      snapshotVersionHash := quote.snapshotVersionHash }
  {approved with approvedQuoteId := computeApprovedQuoteHash approved}

def evaluate (input : QuoteRiskInput) : QuoteRiskResult :=
  match input.quote,input.policy with
  | some quote,some policy =>
    if quotable quote = false then {decision := quoteDecision input .rejectInvalidQuote "invalid quote input" 0 0}
    else match (checks input quote policy).find? QuoteCheck.refused with
      | some check =>
        {decision := quoteDecision input check.decision check.reason (bidNotional quote) (askNotional quote)}
      | none =>
        let decision := quoteDecision input .approve "approved" (bidNotional quote) (askNotional quote)
        {decision, approvedQuote := some (approvedQuote input quote decision.policyHash)}
  | _,_ => {decision := quoteDecision input .rejectInvalidQuote "invalid quote input" 0 0}

/-! An approval has passed every check. -/

def Refusing (cs : List QuoteCheck) : Prop := ∀ c ∈ cs, c.decision ≠ .approve
theorem refusingCons {refused decision reason rest} (refuses : decision ≠ .approve) (others : Refusing rest) :
    Refusing (⟨refused,decision,reason⟩::rest) := List.forall_mem_cons.mpr ⟨refuses,others⟩
theorem refusingNil : Refusing [] := fun _ none => nomatch none
theorem refusingAppend {left right} (first : Refusing left) (second : Refusing right) : Refusing (left ++ right) :=
  List.forall_mem_append.mpr ⟨first,second⟩

theorem checksRefuse (input quote policy) : Refusing (checks input quote policy) := by
  unfold checks
  refine refusingAppend ?_ ?_
  · repeat' first | exact refusingNil | refine refusingCons (by decide) ?_
  · cases input.depth with
    | none => exact refusingCons (by decide) refusingNil
    | some depth =>
      refine refusingAppend (refusingAppend (refusingAppend (refusingAppend ?_ ?_) ?_) ?_) ?_
      · repeat' first | exact refusingNil | refine refusingCons (by decide) ?_
      · repeat' first | exact refusingNil | refine refusingCons (by decide) ?_
      · unfold rewardChecks
        split <;> repeat' first | exact refusingNil | refine refusingCons (by decide) ?_
      · repeat' first | exact refusingNil | refine refusingCons (by decide) ?_
      · repeat' first | exact refusingNil | refine refusingCons (by decide) ?_

theorem evaluateQuoted {input quote policy} (quoted : input.quote = some quote)
    (governed : input.policy = some policy) :
    (evaluate input).decision.decision =
      if quotable quote = false then .rejectInvalidQuote
      else (((checks input quote policy).find? QuoteCheck.refused).map QuoteCheck.decision).getD .approve := by
  unfold evaluate
  rw [quoted,governed]
  simp only
  split
  · rfl
  · cases (checks input quote policy).find? QuoteCheck.refused with
    | none => rfl
    | some check => rfl
theorem evaluateReason {input quote policy} (quoted : input.quote = some quote)
    (governed : input.policy = some policy) :
    (evaluate input).decision.reason =
      if quotable quote = false then "invalid quote input"
      else (((checks input quote policy).find? QuoteCheck.refused).map QuoteCheck.reason).getD "approved" := by
  unfold evaluate
  rw [quoted,governed]
  simp only
  split
  · rfl
  · cases (checks input quote policy).find? QuoteCheck.refused with
    | none => rfl
    | some check => rfl

theorem approvedPasses {input quote policy} (quoted : input.quote = some quote)
    (governed : input.policy = some policy)
    (approved : (evaluate input).decision.decision = .approve) :
    ∀ c ∈ checks input quote policy, c.refused = false := by
  rw [evaluateQuoted quoted governed] at approved
  split at approved
  · exact absurd approved (by decide)
  · cases found : (checks input quote policy).find? QuoteCheck.refused with
    | some c =>
      rw [found] at approved
      exact absurd approved (checksRefuse input quote policy c (List.mem_of_find?_eq_some found))
    | none =>
      intro c mem
      exact (Bool.not_eq_true _).mp (List.find?_eq_none.mp found c mem)

structure Passed (input : QuoteRiskInput) (quote : QuoteIntent) (policy : QuoteRiskPolicy) : Prop where
  bidValid : quote.hasBid = true → activeSideValid quote.bid = true
  askValid : quote.hasAsk = true → activeSideValid quote.ask = true
  uncrossed : crossesItself quote = false
  reducing : nonReducingUnwind input quote = false
  bidReducible : bidOverReduces input quote = false
  askReducible : askOverReduces input quote = false
  inventory : breachesInventory input quote policy = false
  notional : breachesNotional input quote policy = false

theorem approvedPassed {input quote policy} (quoted : input.quote = some quote)
    (governed : input.policy = some policy)
    (approved : (evaluate input).decision.decision = .approve) : Passed input quote policy := by
  have passes := approvedPasses quoted governed approved
  unfold checks at passes
  cases shown : input.depth with
  | none =>
    rw [shown] at passes
    exact absurd (passes _ (List.mem_append_right _ (.head _))) Bool.true_eq_false_eq_False
  | some depth =>
    rw [shown] at passes
    obtain ⟨_,shownPass⟩ := List.forall_mem_append.mp passes
    obtain ⟨upToFair,limits⟩ := List.forall_mem_append.mp shownPass
    obtain ⟨upToReward,_⟩ := List.forall_mem_append.mp upToFair
    obtain ⟨upToSides,_⟩ := List.forall_mem_append.mp upToReward
    obtain ⟨_,sides⟩ := List.forall_mem_append.mp upToSides
    obtain ⟨_,afterActive⟩ := List.forall_mem_cons.mp sides
    obtain ⟨valid,afterValid⟩ := List.forall_mem_cons.mp afterActive
    obtain ⟨uncrossed,afterCross⟩ := List.forall_mem_cons.mp afterValid
    obtain ⟨reducing,_⟩ := List.forall_mem_cons.mp afterCross
    obtain ⟨exceeds,afterOver⟩ := List.forall_mem_cons.mp limits
    obtain ⟨_,afterQty⟩ := List.forall_mem_cons.mp afterOver
    obtain ⟨inventory,afterInventory⟩ := List.forall_mem_cons.mp afterQty
    obtain ⟨notional,_⟩ := List.forall_mem_cons.mp afterInventory
    obtain ⟨bidValid,askValid⟩ := Bool.or_eq_false_iff.mp valid
    obtain ⟨bidOver,askOver⟩ := Bool.or_eq_false_iff.mp exceeds
    refine ⟨fun has => ?_,fun has => ?_,uncrossed,reducing,bidOver,askOver,inventory,notional⟩
    · rwa [has,Bool.true_and,Bool.not_eq_false'] at bidValid
    · rwa [has,Bool.true_and,Bool.not_eq_false'] at askValid

/-! What the limits mean in exact integers. -/

def exactNotional (leg : QuoteLeg) : Int := leg.priceTick * leg.quantityLots
def exactOpeningNotional (input : QuoteRiskInput) (quote : QuoteIntent) : Int :=
  (if quote.hasBid ∧ bidQtyExempt input quote = false then exactNotional quote.bid else 0) +
    if quote.hasAsk ∧ askQtyExempt input quote = false then exactNotional quote.ask else 0
-- The two saturated notionals add up within 64 bits, and the cap lies below the value they saturate at.
def NotionalFits (input : QuoteRiskInput) (quote : QuoteIntent) (policy : QuoteRiskPolicy) : Prop :=
  openingBidNotional input quote + openingAskNotional input quote ≤ i64Max ∧ policy.maxQuoteNotionalTick < i64Max
instance (input quote policy) : Decidable (NotionalFits input quote policy) := by
  unfold NotionalFits; infer_instance

theorem saturatedPart {leg : QuoteLeg} (valid : activeSideValid leg = true) :
    0 ≤ notional leg ∧ (notional leg < i64Max → exactNotional leg = notional leg) := by
  obtain ⟨price,quantity⟩ := of_decide_eq_true valid
  have positive : 0 < leg.priceTick * leg.quantityLots := mul_pos price quantity
  rw [notional,if_pos valid,saturatingMul,clampI64,exactNotional]
  unfold i64Min i64Max
  omega
theorem openingBidExact {input quote} (valid : quote.hasBid = true → activeSideValid quote.bid = true) :
    0 ≤ openingBidNotional input quote ∧ (openingBidNotional input quote < i64Max →
      (if quote.hasBid ∧ bidQtyExempt input quote = false then exactNotional quote.bid else 0) =
      openingBidNotional input quote) := by
  unfold openingBidNotional
  split
  · rename_i opening
    rw [bidNotional,if_pos opening.1]
    exact saturatedPart (valid opening.1)
  · exact ⟨le_refl _,fun _ => rfl⟩
theorem openingAskExact {input quote} (valid : quote.hasAsk = true → activeSideValid quote.ask = true) :
    0 ≤ openingAskNotional input quote ∧ (openingAskNotional input quote < i64Max →
      (if quote.hasAsk ∧ askQtyExempt input quote = false then exactNotional quote.ask else 0) =
      openingAskNotional input quote) := by
  unfold openingAskNotional
  split
  · rename_i opening
    rw [askNotional,if_pos opening.1]
    exact saturatedPart (valid opening.1)
  · exact ⟨le_refl _,fun _ => rfl⟩

theorem notionalBound {input quote policy} (passed : Passed input quote policy)
    (capped : 0 < policy.maxQuoteNotionalTick)
    (fits : NotionalFits input quote policy) : exactOpeningNotional input quote ≤ policy.maxQuoteNotionalTick := by
  obtain ⟨sum,cap⟩ := fits
  obtain ⟨bidNonneg,bidExact⟩ := @openingBidExact input quote passed.bidValid
  obtain ⟨askNonneg,askExact⟩ := @openingAskExact input quote passed.askValid
  have within := of_decide_eq_false passed.notional
  have exact' : addI64 (openingBidNotional input quote) (openingAskNotional input quote) =
      openingBidNotional input quote + openingAskNotional input quote :=
    wrapExact ⟨by unfold i64Min; omega,sum⟩
  rw [exact'] at within
  rw [exactOpeningNotional,bidExact (by omega),askExact (by omega)]
  omega

theorem uncrossedSides {input quote policy} (passed : Passed input quote policy) (bid : quote.hasBid = true)
    (ask : quote.hasAsk = true) : quote.bid.priceTick < quote.ask.priceTick := by
  have apart := of_decide_eq_false passed.uncrossed
  by_contra crossed
  exact apart ⟨bid,ask,not_lt.mp crossed⟩

-- What a reducing side may take: to the target, or in a forced unwind of a short position to nothing.
theorem bidReducible {input quote policy} (passed : Passed input quote policy)
    (reduces : bidReducesInventory input quote = true) :
    quote.bid.quantityLots ≤ if quote.type = .forcedUnwind ∧ input.currentPositionLots < 0 then
      -input.currentPositionLots
      else quote.targetPositionLots - input.currentPositionLots := by
  obtain ⟨_,below⟩ := of_decide_eq_true reduces
  have within := of_decide_eq_false passed.bidReducible
  rw [not_and,not_lt,reduces,reducibleQtyLots,if_neg (by decide)] at within
  refine (within rfl).trans ?_
  rw [if_neg (not_le.mpr below)]
  split
  · exact wrapLe (by unfold i64Min; omega)
  · exact wrapLe (by unfold i64Min; omega)
theorem askReducible {input quote policy} (passed : Passed input quote policy)
    (reduces : askReducesInventory input quote = true) :
    quote.ask.quantityLots ≤ if quote.type = .forcedUnwind then max 0 input.currentPositionLots
      else input.currentPositionLots - quote.targetPositionLots := by
  obtain ⟨_,above⟩ := of_decide_eq_true reduces
  have within := of_decide_eq_false passed.askReducible
  rw [not_and,not_lt,reduces,reducibleQtyLots,if_neg (by decide)] at within
  refine (within rfl).trans ?_
  rw [if_neg (not_le.mpr above)]
  split
  · exact le_refl _
  · exact wrapLe (by unfold i64Min; omega)

theorem withinAbs {v : Int} (fits : |v| ≤ i64Max) : absI64 v = |v| ∧ wrapI64 v = v := by
  have size := abs_nonneg v
  have bounds := abs_le.mp fits
  exact ⟨wrapExact ⟨by unfold i64Min; omega,fits⟩,wrapExact
    ⟨by unfold i64Min; unfold i64Max at bounds; omega,bounds.2⟩⟩

-- The positions a partial fill of one side can lead to.
structure InventoryWithin (input : QuoteRiskInput) (quote : QuoteIntent) (cap : Int) : Prop where
  bidOpens : quote.hasBid = true → bidReducesInventory input quote = false →
    |input.currentPositionLots + quote.bid.quantityLots| ≤ i64Max → ∀ filled, 0 ≤ filled →
      filled ≤ quote.bid.quantityLots →
      |input.currentPositionLots + filled| ≤ max cap |input.currentPositionLots|
  askOpens : quote.hasAsk = true → askReducesInventory input quote = false →
    |input.currentPositionLots - quote.ask.quantityLots| ≤ i64Max → ∀ filled, 0 ≤ filled →
      filled ≤ quote.ask.quantityLots →
      |input.currentPositionLots - filled| ≤ max cap |input.currentPositionLots|
  bidReduces : bidReducesInventory input quote = true → ∀ filled, 0 ≤ filled → filled ≤ quote.bid.quantityLots →
    |input.currentPositionLots + filled| ≤ max |quote.targetPositionLots| |input.currentPositionLots|
  askReduces : askReducesInventory input quote = true → ∀ filled, 0 ≤ filled → filled ≤ quote.ask.quantityLots →
    |input.currentPositionLots - filled| ≤ max |quote.targetPositionLots| |input.currentPositionLots|

theorem betweenAbs {start stop mid : Int} (low : min start stop ≤ mid) (high : mid ≤ max start stop) :
    |mid| ≤ max |stop| |start| := by
  have startAbove := le_abs_self start
  have stopAbove := le_abs_self stop
  have startBelow := neg_abs_le start
  have stopBelow := neg_abs_le stop
  exact abs_le.mpr ⟨by omega,by omega⟩
theorem openingAbs {cap start stop mid : Int} (fits : |stop| ≤ i64Max) (within : ¬ cap < absI64 (wrapI64 stop))
    (low : min start stop ≤ mid) (high : mid ≤ max start stop) : |mid| ≤ max cap |start| := by
  obtain ⟨size,whole⟩ := withinAbs fits
  rw [whole,size,not_lt] at within
  exact (betweenAbs low high).trans (max_le_max_right _ within)

theorem inventoryWithin {input quote policy} (passed : Passed input quote policy)
    (capped : 0 < policy.maxAssetInventoryLots) :
    InventoryWithin input quote policy.maxAssetInventoryLots := by
  have within := of_decide_eq_false passed.inventory
  rw [not_and,not_or] at within
  obtain ⟨bidWithin,askWithin⟩ := within capped
  constructor
  · intro has opens fits filled positive part
    exact openingAbs fits (fun above => bidWithin ⟨has,opens,above⟩) (by omega) (by omega)
  · intro has opens fits filled positive part
    exact openingAbs fits (fun above => askWithin ⟨has,opens,above⟩) (by omega) (by omega)
  · intro reduces filled positive part
    obtain ⟨_,below⟩ := of_decide_eq_true reduces
    have most := bidReducible passed reduces
    split at most
    · -- A forced unwind of a short position stops at nothing at the latest.
      have nothing : |(0 : Int)| ≤ |quote.targetPositionLots| := by rw [abs_zero]; exact abs_nonneg _
      exact (@betweenAbs input.currentPositionLots 0 _ (by omega) (by omega)).trans (max_le_max_right _ nothing)
    · exact betweenAbs (by omega) (by omega)
  · intro reduces filled positive part
    obtain ⟨_,above⟩ := of_decide_eq_true reduces
    have most := askReducible passed reduces
    split at most
    · have nothing : |(0 : Int)| ≤ |quote.targetPositionLots| := by rw [abs_zero]; exact abs_nonneg _
      exact (@betweenAbs input.currentPositionLots 0 _ (by omega) (by omega)).trans (max_le_max_right _ nothing)
    · exact betweenAbs (by omega) (by omega)

theorem approvedQuoteWithinLimits (input : QuoteRiskInput) (quote : QuoteIntent) (policy : QuoteRiskPolicy)
    (quoted : input.quote = some quote) (governed : input.policy = some policy)
    (approved : (evaluate input).decision.decision = .approve) :
    (0 < policy.maxQuoteNotionalTick → NotionalFits input quote policy →
      exactOpeningNotional input quote ≤ policy.maxQuoteNotionalTick) ∧
    (quote.hasBid = true → quote.hasAsk = true → quote.bid.priceTick < quote.ask.priceTick) ∧
    (quote.type ≠ .forcedUnwind →
      (bidReducesInventory input quote = true →
        input.currentPositionLots + quote.bid.quantityLots ≤ quote.targetPositionLots) ∧
      (askReducesInventory input quote = true →
        quote.targetPositionLots ≤ input.currentPositionLots - quote.ask.quantityLots)) ∧
    (0 < policy.maxAssetInventoryLots → InventoryWithin input quote policy.maxAssetInventoryLots) := by
  have passed := approvedPassed quoted governed approved
  refine ⟨notionalBound passed,uncrossedSides passed,fun unforced =>
    ⟨fun reduces => ?_,fun reduces => ?_⟩,inventoryWithin passed⟩
  · have most := bidReducible passed reduces
    rw [if_neg fun forced => unforced forced.1] at most
    omega
  · have most := askReducible passed reduces
    rw [if_neg unforced] at most
    omega

def calmBook : MarketDepthView :=
  { usableForDepth := true
    bids := [⟨390000,⟨0x4059000000000000⟩⟩]
    asks := [⟨410000,⟨0x4059000000000000⟩⟩] }
def reducingBid (quantityLots targetPositionLots : Int) : QuoteIntent :=
  { quoteIntentId := 1
    type := .placeQuote
    hasBid := true
    bid := {priceTick := 400000, quantityLots, riskReducing := true}
    fairValueTick := 405000
    targetPositionLots
    expiresAtNs := 2000 }
def cappedInput (quantityLots targetPositionLots : Int) : QuoteRiskInput :=
  { quote := some (reducingBid quantityLots targetPositionLots)
    depth := some calmBook
    policy := some {maxAssetInventoryLots := 10, maxQuoteNotionalTick := 1000}
    nowNs := 1000 }
def smallQuote : QuoteIntent :=
  { reducingBid 5 0 with
    bid := {priceTick := 400000, quantityLots := 5}
    hasAsk := true
    ask := {priceTick := 408000, quantityLots := 5} }
def smallQuotePolicy : QuoteRiskPolicy := {maxAssetInventoryLots := 10, maxQuoteNotionalTick := 5000000}
def smallQuoteInput : QuoteRiskInput :=
  {cappedInput 5 0 with quote := some smallQuote, policy := some smallQuotePolicy}
-- Neither side moves the position towards the target: both count.
theorem smallQuoteWithinLimits : exactOpeningNotional smallQuoteInput smallQuote ≤ 5000000 ∧
    InventoryWithin smallQuoteInput smallQuote 10 :=
  have limits := approvedQuoteWithinLimits smallQuoteInput smallQuote smallQuotePolicy rfl rfl (by decide +kernel)
  ⟨limits.1 (by decide) (by decide +kernel),limits.2.2.2 (by decide)⟩

-- A side that moves the position towards the target is exempt from the inventory cap.
theorem targetBeyondInventoryCap : (evaluate (cappedInput 100 100)).decision.decision = .approve ∧
    ¬ |(cappedInput 100 100).currentPositionLots + 100| ≤ max 10 |(cappedInput 100 100).currentPositionLots| := by
  decide +kernel

end Polytope.QuoteRisk
