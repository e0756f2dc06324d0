import Polytope.CostRevalidator
import Polytope.Reservation

/-! The checks of the risk pipeline, each with every branch and message of its source.
Two of them carry state between evaluations: the duplicate guard's sets only grow, and the
rate guard counts within the current clock second. Reject flags are not read anywhere in
the pipeline and are left out. -/
namespace Polytope.RiskGuards
open FixedPointMath MarketDepth RiskTypes Tally CostRevalidator
open Intent (OpportunityIntent IntentLeg kMaxIntentLegs)
open Reservation (RiskLedgerSnapshot)

structure GuardResult where
  pass : Bool := false
  requiresReprice : Bool := false
  rejection : RiskDecisionType := .rejectInternalError
  reason : String := ""
  deriving DecidableEq, Repr
def passGuard : GuardResult := {pass := true, rejection := .pass}
def refuse (rejection : RiskDecisionType) (reason : String) : GuardResult := {rejection, reason}

def killSwitchGuard (enabled : Bool) : GuardResult :=
  if enabled then refuse .rejectKillSwitch "kill switch enabled" else passGuard
def intentExpiryGuard (i : OpportunityIntent) (nowNs : Nat) : GuardResult :=
  if nowNs < i.expiresAtNs then passGuard else refuse .rejectExpiredIntent "intent expired"

structure DuplicateIntentGuard where
  seenIdempotencyHashes : List UInt64 := []
  seenIdempotencyKeys : List String := []
  deriving DecidableEq, Repr
def DuplicateIntentGuard.check (g : DuplicateIntentGuard) (i : OpportunityIntent) :
    DuplicateIntentGuard × GuardResult :=
  if i.idempotencyHash ≠ 0 then
    if i.idempotencyHash ∈ g.seenIdempotencyHashes then
      (g,refuse .rejectDuplicateIntent "duplicate idempotency_hash")
    else ({g with seenIdempotencyHashes := i.idempotencyHash::g.seenIdempotencyHashes},passGuard)
  else if i.idempotencyKey = "" then (g,refuse .rejectInternalError "missing idempotency_key")
  else if i.idempotencyKey ∈ g.seenIdempotencyKeys then
    (g,refuse .rejectDuplicateIntent "duplicate idempotency_key")
  else ({g with seenIdempotencyKeys := i.idempotencyKey::g.seenIdempotencyKeys},passGuard)

def kNsPerSecond : Nat := 1000000000
structure RateLimitGuard where
  maxPerSecond : Nat := 0
  windowSecond : Nat := 0
  usedInWindow : Nat := 0
  deriving DecidableEq, Repr
def RateLimitGuard.setMaxPerSecond (g : RateLimitGuard) (max : Nat) : RateLimitGuard :=
  {g with maxPerSecond := max}
def RateLimitGuard.check (g : RateLimitGuard) (nowNs : Nat) : RateLimitGuard × GuardResult :=
  let second := nowNs / kNsPerSecond
  let g := if second ≠ g.windowSecond then {g with windowSecond := second, usedInWindow := 0} else g
  if g.usedInWindow < g.maxPerSecond then ({g with usedInWindow := g.usedInWindow + 1},passGuard)
  else (g,refuse .rejectRateLimited "risk approval rate limit exceeded")

def marketStateGuardSnapshot : Option MarketStateSnapshot → GuardResult
  | none => refuse .rejectBadMarketState "snapshot missing"
  | some s =>
    if s.entityId = "" then refuse .rejectBadMarketState "snapshot missing"
    else if s.live = false then refuse .rejectBadMarketState "snapshot not live or market halted"
    else if s.usableForDepth = false then refuse .rejectBadMarketState "snapshot not usable for depth"
    else if s.recovering then refuse .rejectBadMarketState "snapshot recovering"
    else if s.crossed then refuse .rejectBadMarketState "snapshot crossed"
    else if s.closed then refuse .rejectBadMarketState "snapshot closed"
    else if s.resolved then refuse .rejectBadMarketState "snapshot resolved"
    else passGuard
def marketStateGuardView (v : MarketDepthView) : GuardResult :=
  if v.usableForDepth = false then refuse .rejectBadMarketState "depth view not usable for depth"
  else if v.recovering then refuse .rejectBadMarketState "depth view recovering"
  else if v.crossed then refuse .rejectBadMarketState "depth view crossed"
  else if v.closed then refuse .rejectBadMarketState "depth view closed"
  else if v.resolved then refuse .rejectBadMarketState "depth view resolved"
  else passGuard

def freshnessGuard (what : String) (updateNs version : Nat) (evidenceHash : UInt64) (i : OpportunityIntent)
    (policy : RiskPolicySnapshot) (nowNs : Nat) : GuardResult :=
  if updateNs = 0 ∨ nowNs < updateNs then refuse .rejectStaleSnapshot ("invalid " ++ what ++ " update timestamp")
  else if 0 ≤ policy.maxBookAgeNs ∧ policy.maxBookAgeNs < castI64 (nowNs - updateNs) then
    refuse .rejectStaleSnapshot (what ++ " too old")
  else if evidenceHash ≠ i.snapshotVersionHash then
    let drift := if i.snapshotVersion < version then version - i.snapshotVersion else i.snapshotVersion - version
    if 0 ≤ policy.maxSnapshotSkewNs ∧ policy.maxSnapshotSkewNs < drift then
      refuse .rejectStaleSnapshot (what ++ " version drift exceeds tolerance")
    else {passGuard with requiresReprice := true, reason := what ++ " hash changed; reprice required"}
  else passGuard
def snapshotFreshnessGuard (s : MarketStateSnapshot) (i : OpportunityIntent) (policy : RiskPolicySnapshot)
    (nowNs : Nat) : GuardResult :=
  freshnessGuard "snapshot" s.lastBookUpdateNs s.version
    (if s.snapshotVersionHash ≠ 0 then s.snapshotVersionHash else s.stateHash) i policy nowNs
def depthViewFreshnessGuard (v : MarketDepthView) (i : OpportunityIntent) (policy : RiskPolicySnapshot)
    (nowNs : Nat) : GuardResult :=
  freshnessGuard "depth view" v.lastWsRecvNs v.bookVersion v.snapshotVersionHash i policy nowNs

structure PostRiskEdge where
  postRiskEdgeTick : Int
  unitEdgeTick : Int
  edgeBps : Int
  deriving DecidableEq, Repr
def computePostRiskEdge (payoutPerBundle riskBundleQty totalCost fee slippage latency : Int) :
    Option PostRiskEdge :=
  if riskBundleQty ≤ 0 then none else do
    let payout ← checkedMulI64 payoutPerBundle riskBundleQty
    let edge ← checkedSubI64 payout totalCost
    let edge ← checkedSubI64 edge fee
    let edge ← checkedSubI64 edge slippage
    let edge ← checkedSubI64 edge latency
    some ⟨edge,edge.tdiv riskBundleQty,ratioBps edge totalCost⟩

structure EdgeGuardResult extends GuardResult where
  postRiskEdgeTick : Int := 0
  unitEdgeTick : Int := 0
  edgeBps : Int := 0
  deriving DecidableEq, Repr
def payoutPerBundle (i : OpportunityIntent) : Int :=
  if 0 < i.bundleQty then i.guaranteedPayoutTick.tdiv i.bundleQty else i.guaranteedPayoutTick
def edgeGuard (i : OpportunityIntent) (cost : CostRevalidationResult) (policy : RiskPolicySnapshot) :
    EdgeGuardResult :=
  if cost.ok = false ∨ cost.riskBundleQty ≤ 0 then
    {refuse .rejectInternalError "invalid cost revalidation result" with}
  else
    match computePostRiskEdge (payoutPerBundle i) cost.riskBundleQty cost.riskTotalCostTick cost.feeTick
        cost.slippageBufferTick cost.latencyBufferTick with
    | none => {refuse .rejectInternalError "post-risk edge overflow" with}
    | some edge =>
      let result := fun g : GuardResult =>
        ({toGuardResult := g, postRiskEdgeTick := edge.postRiskEdgeTick, unitEdgeTick := edge.unitEdgeTick,
          edgeBps := edge.edgeBps} : EdgeGuardResult)
      if edge.postRiskEdgeTick < policy.minPostRiskTotalEdgeTick then
        result (refuse .rejectLowTotalEdge "post-risk total edge below threshold")
      else if edge.unitEdgeTick < policy.minPostRiskUnitEdgeTick then
        result (refuse .rejectLowUnitEdge "post-risk unit edge below threshold")
      else if edge.edgeBps < policy.minEdgeBps then
        result (refuse .rejectLowEdgeBps "post-risk edge bps below threshold")
      else result passGuard

structure MaxLossGuardResult extends GuardResult where
  maxLossTick : Int := 0
  deriving DecidableEq, Repr
def maxLossGuard (i : OpportunityIntent) (cost : CostRevalidationResult) (policy : RiskPolicySnapshot) :
    MaxLossGuardResult :=
  if cost.ok = false then {refuse .rejectInternalError "invalid cost revalidation result" with}
  else if i.legs.any (·.side ≠ .buy) then
    {refuse .rejectInternalError "SELL leg max loss unsupported in risk v0" with}
  else if 0 < policy.maxTotalCostTick ∧ policy.maxTotalCostTick < cost.riskTotalCostTick then
    {refuse .rejectCostLimit "risk total cost exceeds policy max" with maxLossTick := cost.riskTotalCostTick}
  else {passGuard with maxLossTick := cost.riskTotalCostTick}

-- operator[] and += on a map of 64-bit counters.
def creditI64 (t : Totals String) (k : String) (v : Int) : Totals String := t.insert k (addI64 (figure t k) v)
-- Cost per market from the signal's own leg estimates; with a single market the repriced
-- total takes its place.
def estimatedMarketCosts (legs : List IntentLeg) : Totals String :=
  legs.foldl (fun out leg =>
    if leg.marketId = "" then out else creditI64 out leg.marketId (max leg.estimatedCostTick 0)) ∅
def marketCosts (i : OpportunityIntent) (cost : CostRevalidationResult) : List (String × Int) :=
  match entries (estimatedMarketCosts i.legs) with
  | [(marketId,_)] => [(marketId,max cost.riskTotalCostTick 0)]
  | several => several

structure ExposureGuardResult extends GuardResult where
  postTotalExposureTick : Int := 0
  rejectedMarketId : String := ""
  postMarketExposureTick : Int := 0
  deriving DecidableEq, Repr
def exposureGuard (ledger : RiskLedgerSnapshot) (i : OpportunityIntent) (cost : CostRevalidationResult)
    (policy : RiskPolicySnapshot) : ExposureGuardResult :=
  if cost.ok = false then {refuse .rejectInternalError "invalid cost revalidation result" with}
  else
    let postTotal := addI64 ledger.totalReservedExposureTick (max cost.riskTotalCostTick 0)
    if 0 < policy.maxTotalExposureTick ∧ policy.maxTotalExposureTick < postTotal then
      {refuse .rejectTotalExposureLimit "total exposure limit exceeded" with postTotalExposureTick := postTotal}
    else
      let excess := if 0 < policy.maxSingleMarketExposureTick then
          (marketCosts i cost).find? (fun m => decide
            (policy.maxSingleMarketExposureTick < addI64 (figure ledger.reservedMarketExposureTick m.1) m.2))
        else none
      match excess with
      | some (marketId,marketCost) =>
        {refuse .rejectSingleMarketExposureLimit "single market exposure limit exceeded" with
          postTotalExposureTick := postTotal
          rejectedMarketId := marketId
          postMarketExposureTick := addI64 (figure ledger.reservedMarketExposureTick marketId) marketCost}
      | none => {passGuard with postTotalExposureTick := postTotal}

def incomingLots (legs : List IntentLeg) : Totals String :=
  legs.foldl (fun out leg =>
    if leg.assetId = "" then out else creditI64 out leg.assetId (max leg.quantityLots 0)) ∅
structure InventoryGuardResult extends GuardResult where
  rejectedAssetId : String := ""
  postAssetLots : Int := 0
  deriving DecidableEq, Repr
def inventoryGuard (ledger : RiskLedgerSnapshot) (i : OpportunityIntent) (cost : CostRevalidationResult)
    (policy : RiskPolicySnapshot) : InventoryGuardResult :=
  if cost.ok = false then {refuse .rejectInternalError "invalid cost revalidation result" with}
  else if policy.maxInventoryLotsPerAsset ≤ 0 then {passGuard with}
  else
    match (entries (incomingLots i.legs)).find? (fun a => decide
        (policy.maxInventoryLotsPerAsset < addI64 (figure ledger.reservedAssetLots a.1) a.2)) with
    | some (assetId,lots) =>
      {refuse .rejectInventoryLimit "asset inventory limit exceeded" with
        rejectedAssetId := assetId
        postAssetLots := addI64 (figure ledger.reservedAssetLots assetId) lots}
    | none => {passGuard with}

def requiredWithMarginBps (requested marginBps : Int) : Int :=
  if requested ≤ 0 then 0 else min ((requested * max marginBps 10000 + 9999).tdiv 10000) i64Max

-- The double literals 1.20, 1e-6 and 1.0 of the source.
def kDefaultRatio : Binary64.Double := ⟨0x3FF3333333333333⟩
def kRatioTolerance : Binary64.Double := ⟨0x3EB0C6F7A0B5ED8D⟩
def kDefaultBps : Int := 12000
def effectiveMinDepthMarginBps (policy : RiskPolicySnapshot) : Int :=
  let ratio := policy.minDepthMarginRatio
  let near := Binary64.isFinite ratio ∧
    |Binary64.roundNearest (Binary64.value ratio - Binary64.value kDefaultRatio)| < Binary64.value kRatioTolerance
  if 0 < policy.minDepthMarginBps ∧ (policy.minDepthMarginBps ≠ kDefaultBps ∨ near) then policy.minDepthMarginBps
  else
    let clipped : Rat := if Binary64.isFinite ratio = false ∨ Binary64.value ratio < 1 then 1
      else Binary64.value ratio
    let bps := (Binary64.roundNearest (clipped * 10000)).ceil
    if 9223372036854775808 ≤ bps then i64Max else bps

structure PartialFillGuardResult extends GuardResult where
  depthMarginChecked : Bool := false
  rejectedAssetId : String := ""
  requestedQtyLots : Int := 0
  availableDepthLots : Int := 0
  requiredDepthWithMarginLots : Int := 0
  maxUnhedgedLossTick : Int := 0
  deriving DecidableEq, Repr

def partialFillLeg (minMarginBps riskBundleQty : Int) (base : PartialFillGuardResult) (leg : IntentLeg)
    (legCost : RevalidatedLegCost) : Option PartialFillGuardResult :=
  if leg.side ≠ .buy ∨ leg.assetId = "" ∨ leg.quantityLots ≤ 0 then
    some {base with
      rejection := .rejectPartialFillRisk, reason := "unsupported or invalid leg for partial fill guard"}
  else if legCost.assetId ≠ "" ∧ legCost.assetId ≠ leg.assetId then
    some {base with
      rejection := .rejectPartialFillRisk, reason := "revalidated leg asset mismatch",
        rejectedAssetId := leg.assetId}
  else
    match (if legCost.requestedQtyLots ≤ 0 then checkedMulI64 leg.quantityLots riskBundleQty
      else some legCost.requestedQtyLots) with
    | none => some {base with
        rejection := .rejectPartialFillRisk, reason := "requested quantity overflow",
          rejectedAssetId := leg.assetId}
    | some requested =>
      let margin := if 0 < legCost.depthMarginBps then legCost.depthMarginBps
        else depthMarginBps legCost.executableQtyLots requested
      if legCost.enoughDepth = false ∨ margin < minMarginBps then
        some {base with
          rejection := .rejectPartialFillRisk
          reason := "depth margin below policy"
          rejectedAssetId := leg.assetId
          requestedQtyLots := requested
          availableDepthLots := legCost.executableQtyLots
          requiredDepthWithMarginLots := requiredWithMarginBps requested minMarginBps}
      else none
def partialFillGuard (i : OpportunityIntent) (cost : CostRevalidationResult) (policy : RiskPolicySnapshot) :
    PartialFillGuardResult :=
  let base : PartialFillGuardResult := {maxUnhedgedLossTick := policy.maxUnhedgedLossTick}
  if cost.ok = false ∨ cost.riskBundleQty ≤ 0 then {base with reason := "invalid cost revalidation result"}
  else if i.legs = [] ∨ kMaxIntentLegs < i.legs.length then {base with reason := "invalid intent legs"}
  else if i.legs.length = 1 then {base with pass := true, rejection := .pass}
  else
    let checked := {base with depthMarginChecked := true}
    if cost.legs.length < i.legs.length then
      {checked with rejection := .rejectPartialFillRisk, reason := "missing revalidated leg depth"}
    else
      match (i.legs.zip cost.legs).findSome? (fun l =>
          partialFillLeg (effectiveMinDepthMarginBps policy) cost.riskBundleQty checked l.1 l.2) with
      | some refused => refused
      | none => {checked with pass := true, rejection := .pass}

/-! Validation of the intent itself. -/

structure IntentValidationResult where
  ok : Bool := false
  rejectReason : RiskRejectReason := .notEvaluated
  detail : String := ""
  deriving DecidableEq, Repr
def acceptIntent : IntentValidationResult := {ok := true, rejectReason := .none}
def rejectIntent (rejectReason : RiskRejectReason) (detail : String) : IntentValidationResult :=
  {ok := false, rejectReason, detail}

def intentValidator (i : OpportunityIntent) (nowNs : Nat) : IntentValidationResult :=
  if i.intentId = 0 then rejectIntent .invalidIntent "missing intent_id"
  else if i.bundleId = 0 then rejectIntent .invalidIntent "missing bundle_id"
  else if i.status ≠ .paperOpportunity then rejectIntent .invalidIntent "intent is not PaperOpportunity"
  else if i.bundleQty ≤ 0 then rejectIntent .invalidIntent "missing bundle_qty"
  else if i.totalEdgeTick ≤ 0 then rejectIntent .lowTotalEdge "missing or non-positive total_edge_tick"
  else if i.expiresAtNs ≤ nowNs then rejectIntent .expiredIntent "intent expired"
  else if i.idempotencyHash = 0 ∧ i.idempotencyKey = "" then
    rejectIntent .missingEvidence "missing idempotency evidence"
  else if i.legs = [] ∨ kMaxIntentLegs < i.legs.length then rejectIntent .invalidIntent "invalid leg_count"
  else acceptIntent
def intentEvidenceVerifier (i : OpportunityIntent) : IntentValidationResult :=
  if i.oracleArtifactHash = 0 then rejectIntent .missingEvidence "missing oracle_artifact_hash"
  else if i.bundleHash = 0 then rejectIntent .missingEvidence "missing bundle_hash"
  else if i.snapshotVersionHash = 0 then rejectIntent .missingEvidence "missing snapshot_version_hash"
  else if i.createdTsNs = 0 then rejectIntent .missingEvidence "missing created_ts_ns"
  else if i.expiresAtNs = 0 then rejectIntent .missingEvidence "missing expires_at_ns"
  else if i.expiresAtNs ≤ i.createdTsNs then
    rejectIntent .missingEvidence "expires_at_ns must be greater than created_ts_ns"
  else if i.idempotencyHash = 0 ∧ i.idempotencyKey = "" then
    rejectIntent .missingEvidence "missing idempotency evidence"
  else acceptIntent

/-! What each check leaves behind when it passes, and what it can refuse with. -/

def Seen (g : DuplicateIntentGuard) : Intent.Evidence → Prop
  | .hash h => h ∈ g.seenIdempotencyHashes
  | .key k => k ∈ g.seenIdempotencyKeys

theorem duplicateCases (g : DuplicateIntentGuard) (i) :
    ((g.check i).1 = g ∧ (g.check i).2.pass = false ∧ (g.check i).2.rejection = .rejectDuplicateIntent ∧
      Seen g (Intent.evidence i)) ∨
    ((g.check i).1 = g ∧ (g.check i).2.pass = false ∧ (g.check i).2.rejection = .rejectInternalError) ∨
    ((g.check i).2 = passGuard ∧ ¬ Seen g (Intent.evidence i) ∧
      ∀ e, Seen (g.check i).1 e ↔ e = Intent.evidence i ∨ Seen g e) := by
  unfold DuplicateIntentGuard.check Intent.evidence
  split
  · split
    · next seen => exact .inl ⟨rfl,rfl,rfl,seen⟩
    · next fresh =>
      refine .inr (.inr ⟨rfl,fresh,?_⟩)
      rintro (h | k) <;> simp [Seen]
  · split
    · exact .inr (.inl ⟨rfl,rfl,rfl⟩)
    · split
      · next seen => exact .inl ⟨rfl,rfl,rfl,seen⟩
      · next fresh =>
        refine .inr (.inr ⟨rfl,fresh,?_⟩)
        rintro (h | k) <;> simp [Seen]

def RateLimitGuard.usedAt (g : RateLimitGuard) (nowNs : Nat) : Nat :=
  if nowNs / kNsPerSecond = g.windowSecond then g.usedInWindow else 0
theorem rateCases (g : RateLimitGuard) (nowNs) :
    ((g.check nowNs).2 = passGuard ∧ g.usedAt nowNs < g.maxPerSecond ∧
      (g.check nowNs).1 = ⟨g.maxPerSecond,nowNs / kNsPerSecond,g.usedAt nowNs + 1⟩) ∨
    ((g.check nowNs).2.pass = false ∧ (g.check nowNs).2.rejection = .rejectRateLimited ∧
      g.maxPerSecond ≤ g.usedAt nowNs ∧
      (g.check nowNs).1 = ⟨g.maxPerSecond,nowNs / kNsPerSecond,g.usedAt nowNs⟩) := by
  unfold RateLimitGuard.check RateLimitGuard.usedAt
  by_cases same : nowNs / kNsPerSecond = g.windowSecond
  · simp only [same,ne_eq,not_true_eq_false,if_false,if_true]
    split
    · next room => exact .inl ⟨rfl,room,rfl⟩
    · next full => exact .inr ⟨rfl,rfl,not_lt.mp full,rfl⟩
  · simp only [same,ne_eq,not_false_eq_true,if_true,if_false]
    split
    · next room => exact .inl ⟨rfl,room,rfl⟩
    · next full => exact .inr ⟨rfl,rfl,not_lt.mp full,rfl⟩

theorem postRiskEdgeExact {payout qty total fee slippage latency edge}
    (h : computePostRiskEdge payout qty total fee slippage latency = some edge) :
    0 < qty ∧ edge.postRiskEdgeTick = payout * qty - total - fee - slippage - latency ∧
    edge.unitEdgeTick = edge.postRiskEdgeTick.tdiv qty := by
  unfold computePostRiskEdge at h
  split at h
  · contradiction
  · next positive =>
    simp only [bind,Option.bind_eq_some_iff] at h
    obtain ⟨a,ha,b,hb,c,hc,d,hd,e,he,last⟩ := h
    obtain ⟨_,rfl⟩ := checkedMulExact.mp ha
    obtain ⟨_,rfl⟩ := checkedSubExact.mp hb
    obtain ⟨_,rfl⟩ := checkedSubExact.mp hc
    obtain ⟨_,rfl⟩ := checkedSubExact.mp hd
    obtain ⟨_,rfl⟩ := checkedSubExact.mp he
    cases Option.some.inj last
    exact ⟨by omega,rfl,rfl⟩

theorem edgeGuardPass {i cost policy} (pass : (edgeGuard i cost policy).pass = true) :
    0 < cost.riskBundleQty ∧
    policy.minPostRiskTotalEdgeTick ≤ payoutPerBundle i * cost.riskBundleQty - cost.riskTotalCostTick -
      cost.feeTick - cost.slippageBufferTick - cost.latencyBufferTick ∧
    policy.minPostRiskUnitEdgeTick ≤ (payoutPerBundle i * cost.riskBundleQty - cost.riskTotalCostTick -
      cost.feeTick - cost.slippageBufferTick - cost.latencyBufferTick).tdiv cost.riskBundleQty := by
  unfold edgeGuard at pass
  split at pass
  · cases pass
  · split at pass
    · cases pass
    · next edge computed =>
      obtain ⟨positive,total,unit⟩ := postRiskEdgeExact computed
      simp only at pass
      split at pass
      · cases pass
      · split at pass
        · cases pass
        · rw [total] at unit
          exact ⟨positive,by omega,by omega⟩

theorem exposureGuardPass {ledger i cost policy} (pass : (exposureGuard ledger i cost policy).pass = true) :
    (0 < policy.maxTotalExposureTick →
      addI64 ledger.totalReservedExposureTick (max cost.riskTotalCostTick 0) ≤ policy.maxTotalExposureTick) ∧
    (0 < policy.maxSingleMarketExposureTick → ∀ m ∈ marketCosts i cost,
      addI64 (figure ledger.reservedMarketExposureTick m.1) m.2 ≤ policy.maxSingleMarketExposureTick) := by
  unfold exposureGuard at pass
  split at pass
  · cases pass
  · simp only at pass
    split at pass
    · cases pass
    · next total =>
      split at pass
      · cases pass
      · next markets =>
        refine ⟨fun capped => by omega,fun capped m mem => ?_⟩
        rw [if_pos capped,List.find?_eq_none] at markets
        have := markets m mem
        simp only [decide_eq_true_eq] at this
        omega

theorem inventoryGuardPass {ledger i cost policy} (pass : (inventoryGuard ledger i cost policy).pass = true)
    (capped : 0 < policy.maxInventoryLotsPerAsset) : ∀ a ∈ entries (incomingLots i.legs),
    addI64 (figure ledger.reservedAssetLots a.1) a.2 ≤ policy.maxInventoryLotsPerAsset := by
  unfold inventoryGuard at pass
  split at pass
  · cases pass
  · split at pass
    · omega
    · split at pass
      · cases pass
      · next assets =>
        intro a mem
        rw [List.find?_eq_none] at assets
        have := assets a mem
        simp only [decide_eq_true_eq] at this
        omega

def Charged (t : RiskDecisionType) : Prop := t = .rejectDuplicateIntent ∨ t = .rejectRateLimited
instance (t) : Decidable (Charged t) := by unfold Charged; infer_instance

theorem killSwitchUncharged (enabled) : ¬ Charged (killSwitchGuard enabled).rejection := by
  cases enabled <;> decide
theorem expiryUncharged (i nowNs) : ¬ Charged (intentExpiryGuard i nowNs).rejection := by
  unfold intentExpiryGuard
  split <;> decide
theorem marketSnapshotUncharged (s) : ¬ Charged (marketStateGuardSnapshot s).rejection := by
  unfold marketStateGuardSnapshot
  repeat' split
  all_goals decide
theorem marketViewUncharged (v) : ¬ Charged (marketStateGuardView v).rejection := by
  unfold marketStateGuardView
  repeat' split
  all_goals decide
theorem freshnessUncharged (what updateNs version hash i policy nowNs) :
    ¬ Charged (freshnessGuard what updateNs version hash i policy nowNs).rejection := by
  unfold freshnessGuard
  simp only
  repeat' split
  all_goals simp [Charged,refuse,passGuard]
theorem edgeUncharged (i cost policy) : ¬ Charged (edgeGuard i cost policy).rejection := by
  unfold edgeGuard
  simp only
  repeat' split
  all_goals simp [Charged,refuse,passGuard]
theorem maxLossUncharged (i cost policy) : ¬ Charged (maxLossGuard i cost policy).rejection := by
  unfold maxLossGuard
  repeat' split
  all_goals simp [Charged,refuse,passGuard]
theorem exposureUncharged (ledger i cost policy) : ¬ Charged (exposureGuard ledger i cost policy).rejection := by
  unfold exposureGuard
  simp only
  repeat' split
  all_goals simp [Charged,refuse,passGuard]
theorem inventoryUncharged (ledger i cost policy) : ¬ Charged (inventoryGuard ledger i cost policy).rejection := by
  unfold inventoryGuard
  repeat' split
  all_goals simp [Charged,refuse,passGuard]
theorem partialFillLegUncharged {margin qty base leg cost refused}
    (h : partialFillLeg margin qty base leg cost = some refused) : refused.rejection = .rejectPartialFillRisk := by
  unfold partialFillLeg at h
  simp only at h
  repeat' split at h
  all_goals first
    | contradiction
    | cases h; rfl
theorem partialFillUncharged (i cost policy) : ¬ Charged (partialFillGuard i cost policy).rejection := by
  unfold partialFillGuard
  simp only
  split
  · simp [Charged]
  · split
    · simp [Charged]
    · split
      · simp [Charged]
      · split
        · simp [Charged]
        · split
          · next refused found =>
            obtain ⟨_,_,here⟩ := List.exists_of_findSome?_eq_some found
            rw [partialFillLegUncharged here]
            decide
          · simp [Charged]

theorem validatorUncharged (i nowNs) :
    (intentValidator i nowNs).rejectReason ≠ .duplicateIntent ∧
    (intentValidator i nowNs).rejectReason ≠ .duplicateReservation ∧
    (intentValidator i nowNs).rejectReason ≠ .approvalRateLimit := by
  unfold intentValidator
  repeat' split
  all_goals decide
theorem evidenceUncharged (i) :
    (intentEvidenceVerifier i).rejectReason ≠ .duplicateIntent ∧
    (intentEvidenceVerifier i).rejectReason ≠ .duplicateReservation ∧
    (intentEvidenceVerifier i).rejectReason ≠ .approvalRateLimit := by
  unfold intentEvidenceVerifier
  repeat' split
  all_goals decide

theorem validatorPass {i nowNs} (ok : (intentValidator i nowNs).ok = true) :
    0 < i.bundleQty ∧ nowNs < i.expiresAtNs ∧ ¬ (i.idempotencyHash = 0 ∧ i.idempotencyKey = "") ∧
    i.legs ≠ [] ∧ i.legs.length ≤ kMaxIntentLegs := by
  unfold intentValidator at ok
  split at ok
  · cases ok
  · split at ok
    · cases ok
    · split at ok
      · cases ok
      · split at ok
        · cases ok
        · split at ok
          · cases ok
          · split at ok
            · cases ok
            · split at ok
              · cases ok
              · split at ok
                · cases ok
                · next qty _ expiry evidence legs =>
                  rw [not_or,not_lt] at legs
                  exact ⟨by omega,by omega,evidence,legs.1,legs.2⟩

end Polytope.RiskGuards
