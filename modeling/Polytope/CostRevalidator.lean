import Polytope.MarketDepth
import Polytope.RiskTypes
import Polytope.Machine

/-! Repricing an intent against the latest depth. When the snapshot evidence still matches,
Risk reuses the cost Signal estimated; otherwise every leg is priced again for the intent's
bundle quantity. The snapshot and depth-view overloads differ only in how a leg finds its
book, when that book was updated and how one leg is walked, so they share one body. -/
namespace Polytope.CostRevalidator
open FixedPointMath MarketDepth RiskTypes
open Intent (OpportunityIntent IntentLeg kMaxIntentLegs)

def kMaxRevalidatedLegCosts : Nat := 16

structure RevalidatedLegCost where
  assetId : String := ""
  assetIndex : Nat := 0
  requestedQtyLots : Int := 0
  executableQtyLots : Int := 0
  depthMarginBps : Int := 0
  enoughDepth : Bool := false
  deriving DecidableEq, Repr
structure CostRevalidationResult where
  ok : Bool := false
  riskTotalCostTick : Int := 0
  riskBundleQty : Int := 0
  feeTick : Int := 0
  slippageBufferTick : Int := 0
  latencyBufferTick : Int := 0
  maxLegSlippageTick : Int := 0
  costDriftTick : Int := 0
  vwapMode : RiskVWAPMode := .recomputedFromSnapshot
  legs : List RevalidatedLegCost := []
  rejection : RiskDecisionType := .pass
  reason : String := ""
  deriving DecidableEq, Repr

def reject (type : RiskDecisionType) (reason : String) : CostRevalidationResult :=
  {ok := false, rejection := type, reason}

def depthMarginBps (executable requested : Int) : Int :=
  if requested ≤ 0 ∨ executable ≤ 0 then 0 else ratioBps executable requested

structure LegReprice where
  executableLots : Int := 0
  costTick : Int := 0
  deriving DecidableEq, Repr
abbrev LegOutcome := LegReprice × Option (RiskDecisionType × String)

def repriceLinear (asks : List PriceLevel) (planned : Int) : LegOutcome :=
  let priced := buyVwapLinear (asks.take kMaxSnapshotDepth) planned
  if priced.executableQtyLots ≤ 0 then
    (⟨priced.executableQtyLots,0⟩,some (.rejectInsufficientDepth,"no executable depth"))
  else if priced.ok = false then
    (⟨priced.executableQtyLots,0⟩,
      some (.rejectReducedBundleQty,"latest depth cannot fill original bundle quantity"))
  else (⟨priced.executableQtyLots,priced.totalCostTick⟩,none)

def repriceBuyLegSnapshot (s : MarketStateSnapshot) (planned : Int) : LegOutcome :=
  if planned ≤ 0 then ({},some (.rejectInsufficientDepth,"invalid planned quantity"))
  else if s.hasAsk = false ∨ s.asks = [] then ({},some (.rejectInsufficientDepth,"missing ask side"))
  else repriceLinear s.asks planned

def repriceBuyLegView (v : MarketDepthView) (planned : Int) : LegOutcome :=
  if planned ≤ 0 then ({},some (.rejectInsufficientDepth,"invalid planned quantity"))
  else if v.asks = [] then ({},some (.rejectInsufficientDepth,"missing ask side"))
  else if v.depthPrefix.asks = [] then repriceLinear v.asks planned
  else
    let executable := askDepthFromPrefix v.depthPrefix
    if executable ≤ 0 then (⟨executable,0⟩,some (.rejectInsufficientDepth,"no executable depth"))
    else if executable < planned then
      (⟨executable,0⟩,some (.rejectReducedBundleQty,"latest depth cannot fill original bundle quantity"))
    else
      let priced := buyVwapPrefix v.depthPrefix v.asks planned
      if priced.ok = false then (⟨executable,0⟩,some (.rejectInsufficientDepth,"prefix vwap failed"))
      else (⟨executable,priced.totalCostTick⟩,none)

def findSnapshot (snapshots : List MarketStateSnapshot) (leg : IntentLeg) : Option MarketStateSnapshot :=
  snapshots.find? (·.entityId = leg.assetId)
def findDepthView (views : List MarketDepthView) (leg : IntentLeg) : Option MarketDepthView :=
  views.find? (·.assetIndex = leg.assetIndex)

-- Where the overloads differ: the book of a leg, and how that book is read.
structure BookSource (β : Type) where
  find : IntentLeg → Option β
  missing : String
  repriceBuyLeg : β → Int → LegOutcome
  updateNs : β → Nat
def snapshotSource (snapshots : List MarketStateSnapshot) : BookSource MarketStateSnapshot :=
  ⟨findSnapshot snapshots,"missing latest snapshot",repriceBuyLegSnapshot,(·.lastBookUpdateNs)⟩
def depthViewSource (views : List MarketDepthView) : BookSource MarketDepthView :=
  ⟨findDepthView views,"missing latest depth view",repriceBuyLegView,(·.lastWsRecvNs)⟩

section Source
variable {β : Type} (source : BookSource β) (intent : OpportunityIntent)

def legCost (leg : IntentLeg) (planned : Int) (priced : LegReprice) : RevalidatedLegCost :=
  { assetId := leg.assetId
    assetIndex := leg.assetIndex
    requestedQtyLots := planned
    executableQtyLots := priced.executableLots
    depthMarginBps := depthMarginBps priced.executableLots planned
    enoughDepth := planned ≤ priced.executableLots }
-- The leg array keeps its full count even when the loop stops early.
def padLegs (legs : List RevalidatedLegCost) : List RevalidatedLegCost :=
  let count := min intent.legs.length kMaxRevalidatedLegCosts
  legs ++ List.replicate (count - legs.length) ({} : RevalidatedLegCost)

def repriceLeg (acc : CostRevalidationResult) (leg : IntentLeg) :
    Except CostRevalidationResult CostRevalidationResult :=
  if leg.side ≠ .buy then
    .error (reject .rejectInsufficientDepth "SELL leg repricing is unsupported in risk v0")
  else if leg.assetId = "" ∨ leg.quantityLots ≤ 0 then
    .error (reject .rejectInsufficientDepth "invalid intent leg")
  else
    match source.find leg with
    | none => .error (reject .rejectInsufficientDepth source.missing)
    | some book =>
      match checkedMulI64 leg.quantityLots intent.bundleQty with
      | none => .error (reject .rejectInsufficientDepth "planned quantity overflow")
      | some planned =>
        match source.repriceBuyLeg book planned with
        | (priced,some (type,reason)) =>
          .error {reject type reason with
            legs := padLegs intent (acc.legs ++ [legCost leg planned priced])
            riskBundleQty := priced.executableLots.tdiv leg.quantityLots}
        | (priced,none) =>
          match checkedAddI64 acc.riskTotalCostTick priced.costTick with
          | none => .error (reject .rejectInsufficientDepth "total cost overflow")
          | some total =>
            .ok {acc with
              legs := acc.legs ++ [legCost leg planned priced]
              riskBundleQty := min acc.riskBundleQty (priced.executableLots.tdiv leg.quantityLots)
              riskTotalCostTick := total}

def reprice : CostRevalidationResult :=
  if intent.bundleQty ≤ 0 ∨ intent.legs = [] ∨ kMaxIntentLegs < intent.legs.length then
    reject .rejectInsufficientDepth "invalid intent quantity or legs"
  else
    match intent.legs.foldlM (repriceLeg source intent) {ok := true, riskBundleQty := i64Max} with
    | .error refused => refused
    | .ok result =>
      if result.riskBundleQty = i64Max then reject .rejectInsufficientDepth "no repriced legs"
      else if result.riskBundleQty < intent.bundleQty then
        {result with
          ok := false
          rejection := .rejectReducedBundleQty
          reason := "latest bundle quantity below signal bundle quantity"}
      else result

-- A leg whose asset appeared earlier is not looked at again.
def legsAreFresh (policy : RiskPolicySnapshot) (nowNs : Nat) : List String → List IntentLeg → Bool
  | _,[] => true
  | seen,leg::rest =>
    if leg.assetId = "" ∨ leg.assetId ∈ seen then legsAreFresh policy nowNs (leg.assetId::seen) rest
    else
      match source.find leg with
      | none => false
      | some book =>
        if source.updateNs book = 0 ∨ nowNs < source.updateNs book then false
        else if 0 ≤ policy.maxBookAgeNs ∧ policy.maxBookAgeNs < castI64 (nowNs - source.updateNs book) then false
        else legsAreFresh policy nowNs (leg.assetId::seen) rest

def combinedSnapshotHashMatches (snapshotVersionHash : UInt64) : Bool :=
  intent.snapshotVersionHash ≠ 0 ∧ intent.legs ≠ [] ∧ intent.legs.length ≤ kMaxIntentLegs ∧
    snapshotVersionHash ≠ 0 ∧ snapshotVersionHash = intent.snapshotVersionHash

def canReuseSignal (policy : RiskPolicySnapshot) (nowNs : Nat) (snapshotVersionHash : UInt64) : Bool :=
  decide (nowNs < intent.expiresAtNs) && decide (0 < intent.bundleQty) &&
    decide (0 ≤ intent.estimatedCostTick) && decide (intent.legs ≠ []) &&
    decide (intent.legs.length ≤ kMaxIntentLegs) &&
    decide (intent.bundleQty ≤ if 0 < intent.originalBundleQty then intent.originalBundleQty
      else intent.bundleQty) &&
    intent.legs.all (fun leg => decide (leg.side = .buy) && decide (leg.assetId ≠ "") &&
      decide (0 < leg.quantityLots) && leg.enoughDepth) &&
    combinedSnapshotHashMatches intent snapshotVersionHash &&
    (decide (nowNs ≠ 0) && legsAreFresh source policy nowNs [] intent.legs)

def reuseLeg (leg : IntentLeg) : RevalidatedLegCost :=
  let requested := if 0 < leg.requestedQtyLots then leg.requestedQtyLots
    else clampI64 (leg.quantityLots * intent.bundleQty)
  let executable := if 0 < leg.executableQtyLots then leg.executableQtyLots
    else if leg.enoughDepth then requested else 0
  { assetId := leg.assetId
    assetIndex := leg.assetIndex
    requestedQtyLots := requested
    executableQtyLots := executable
    depthMarginBps := if 0 < leg.depthMarginBps then leg.depthMarginBps else depthMarginBps executable requested
    enoughDepth := leg.enoughDepth && decide (requested ≤ executable) }
def reuseSignalSnapshot : CostRevalidationResult :=
  { ok := true
    vwapMode := .reuseSignalSnapshot
    riskTotalCostTick := intent.estimatedCostTick
    riskBundleQty := intent.bundleQty
    maxLegSlippageTick := intent.maxLegSlippageTick
    legs := (intent.legs.take kMaxRevalidatedLegCosts).map (reuseLeg intent) }

def latestCost (policy : RiskPolicySnapshot) (nowNs : Nat) (snapshotVersionHash : UInt64) :
    CostRevalidationResult :=
  if canReuseSignal source intent policy nowNs snapshotVersionHash
    then reuseSignalSnapshot intent else reprice source intent
def revalidate (policy : RiskPolicySnapshot) (nowNs : Nat) (snapshotVersionHash : UInt64) :
    CostRevalidationResult :=
  let priced := latestCost source intent policy nowNs snapshotVersionHash
  if priced.ok = false then priced else
    let costed := {priced with
      feeTick := intent.estimatedFeeTick
      slippageBufferTick := intent.slippageBufferTick
      latencyBufferTick := intent.latencyBufferTick
      costDriftTick := priced.riskTotalCostTick - intent.estimatedCostTick}
    if policy.maxAllowedCostDriftTick < costed.costDriftTick then
      {costed with ok := false, rejection := .rejectCostDrift, reason := "cost drift exceeds policy"}
    else {costed with ok := true, rejection := .pass}

end Source

/-! What a successful reprice says about the books it read. -/

def snapshotDepth (s : MarketStateSnapshot) : Int := visibleAskLots (s.asks.take kMaxSnapshotDepth)
def viewDepth (v : MarketDepthView) : Int :=
  if v.depthPrefix.asks = [] then visibleAskLots (v.asks.take kMaxSnapshotDepth)
  else askDepthFromPrefix v.depthPrefix
def Reads {β : Type} (source : BookSource β) (depth : β → Int) : Prop :=
  ∀ book planned priced, source.repriceBuyLeg book planned = (priced,none) →
    priced.executableLots = depth book ∧ 0 < depth book

theorem repriceLinearDepth {asks planned priced} (h : repriceLinear asks planned = (priced,none)) :
    priced.executableLots = visibleAskLots (asks.take kMaxSnapshotDepth) ∧
    0 < visibleAskLots (asks.take kMaxSnapshotDepth) := by
  unfold repriceLinear at h
  simp only at h
  split at h
  · cases h
  · next positive =>
    split at h
    · cases h
    · next filled =>
      rw [Bool.not_eq_false] at filled
      have depth := buyVwapLinearDepth filled
      cases h
      exact ⟨depth,by omega⟩

theorem snapshotReads (snapshots) : Reads (snapshotSource snapshots) snapshotDepth := by
  intro s planned priced h
  simp only [snapshotSource,repriceBuyLegSnapshot] at h
  split at h
  · cases h
  · split at h
    · cases h
    · exact repriceLinearDepth h

theorem depthViewReads (views) : Reads (depthViewSource views) viewDepth := by
  intro v planned priced h
  simp only [depthViewSource,repriceBuyLegView] at h
  unfold viewDepth
  split at h
  · cases h
  · split at h
    · cases h
    · split at h
      · next empty =>
        rw [if_pos empty]
        exact repriceLinearDepth h
      · next full =>
        rw [if_neg full]
        split at h
        · cases h
        · next positive =>
          split at h
          · cases h
          · split at h
            · cases h
            · cases h
              exact ⟨rfl,by omega⟩

def DepthRejection (t : RiskDecisionType) : Prop := t = .rejectInsufficientDepth ∨ t = .rejectReducedBundleQty
def Refuses {β : Type} (source : BookSource β) : Prop :=
  ∀ book planned, ∀ refusal ∈ (source.repriceBuyLeg book planned).2, DepthRejection refusal.1

theorem repriceLinearRefuses (asks planned) :
    ∀ refusal ∈ (repriceLinear asks planned).2, DepthRejection refusal.1 := by
  unfold repriceLinear DepthRejection
  simp only
  split
  · simp
  · split <;> simp
theorem snapshotRefuses (snapshots) : Refuses (snapshotSource snapshots) := by
  intro s planned
  simp only [snapshotSource,repriceBuyLegSnapshot]
  split
  · simp [DepthRejection]
  · split
    · simp [DepthRejection]
    · exact repriceLinearRefuses s.asks planned
theorem depthViewRefuses (views) : Refuses (depthViewSource views) := by
  intro v planned
  simp only [depthViewSource,repriceBuyLegView]
  split
  · simp [DepthRejection]
  · split
    · simp [DepthRejection]
    · split
      · exact repriceLinearRefuses v.asks planned
      · split
        · simp [DepthRejection]
        · split
          · simp [DepthRejection]
          · split <;> simp [DepthRejection]

section Facts
variable {β : Type} {source : BookSource β} {depth : β → Int} {intent : OpportunityIntent}

theorem repriceLegPriced {acc leg out} (h : repriceLeg source intent acc leg = .ok out) :
    leg.side = .buy ∧ leg.assetId ≠ "" ∧ 0 < leg.quantityLots ∧ ∃ book planned priced total,
      source.find leg = some book ∧ checkedMulI64 leg.quantityLots intent.bundleQty = some planned ∧
      source.repriceBuyLeg book planned = (priced,none) ∧
      checkedAddI64 acc.riskTotalCostTick priced.costTick = some total ∧
      out = {acc with
        legs := acc.legs ++ [legCost leg planned priced]
        riskBundleQty := min acc.riskBundleQty (priced.executableLots.tdiv leg.quantityLots)
        riskTotalCostTick := total} := by
  unfold repriceLeg at h
  split at h
  · cases h
  · next buy =>
    split at h
    · cases h
    · next valid =>
      rw [not_or,not_le] at valid
      split at h
      · cases h
      · next book found =>
        split at h
        · cases h
        · next planned qty =>
          split at h
          · cases h
          · next priced walk =>
            split at h
            · cases h
            · next total sum =>
              cases h
              exact ⟨not_not.mp buy,valid.1,valid.2,book,planned,priced,total,found,qty,walk,sum,rfl⟩

theorem repriceLegSource (reads : Reads source depth) {acc leg out}
    (h : repriceLeg source intent acc leg = .ok out) :
    ∃ book, source.find leg = some book ∧ 0 < leg.quantityLots ∧ 0 < depth book ∧
      out.riskBundleQty = min acc.riskBundleQty ((depth book).tdiv leg.quantityLots) := by
  obtain ⟨_,_,ratio,book,planned,priced,total,found,_,walk,_,rfl⟩ := repriceLegPriced h
  obtain ⟨executable,positive⟩ := reads book planned priced walk
  exact ⟨book,found,ratio,positive,by rw [executable]⟩

theorem repriceFold (reads : Reads source depth) {legs : List IntentLeg} {acc out}
    (h : legs.foldlM (repriceLeg source intent) acc = .ok out) :
    out.riskBundleQty ≤ acc.riskBundleQty ∧
    (∀ leg ∈ legs, ∃ book, source.find leg = some book ∧ 0 < leg.quantityLots ∧ 0 < depth book ∧
      out.riskBundleQty ≤ (depth book).tdiv leg.quantityLots) ∧
    (out.riskBundleQty = acc.riskBundleQty ∨ ∃ leg ∈ legs, ∃ book, source.find leg = some book ∧
      0 < leg.quantityLots ∧ 0 < depth book ∧ out.riskBundleQty = (depth book).tdiv leg.quantityLots) := by
  induction legs generalizing acc with
  | nil =>
    cases h
    exact ⟨le_rfl,by simp,.inl rfl⟩
  | cons leg rest ih =>
    rw [List.foldlM_cons] at h
    cases first : repriceLeg source intent acc leg with
    | error refused =>
      rw [first] at h
      cases h
    | ok next =>
      rw [first] at h
      obtain ⟨book,found,ratio,positive,qty⟩ := repriceLegSource reads first
      obtain ⟨below,each,attained⟩ := ih h
      refine ⟨by omega,?_,?_⟩
      · intro x mem
        rcases List.mem_cons.mp mem with rfl | later
        · exact ⟨book,found,ratio,positive,by omega⟩
        · exact each x later
      · rcases attained with same | ⟨x,mem,rest⟩
        · rcases min_choice acc.riskBundleQty ((depth book).tdiv leg.quantityLots) with left | right
          · exact .inl (by omega)
          · exact .inr ⟨leg,List.mem_cons_self,book,found,ratio,positive,by omega⟩
        · exact .inr ⟨x,List.mem_cons_of_mem leg mem,rest⟩

theorem repriceLegRefused (refuses : Refuses source) {acc leg out}
    (h : repriceLeg source intent acc leg = .error out) : out.ok = false ∧ DepthRejection out.rejection := by
  unfold repriceLeg at h
  split at h
  · cases h
    exact ⟨rfl,.inl rfl⟩
  · split at h
    · cases h
      exact ⟨rfl,.inl rfl⟩
    · split at h
      · cases h
        exact ⟨rfl,.inl rfl⟩
      · next book found =>
        split at h
        · cases h
          exact ⟨rfl,.inl rfl⟩
        · next planned _ =>
          split at h
          · next priced type reason walk =>
            have kind := refuses book planned (type,reason) (by simp [walk])
            cases h
            exact ⟨rfl,kind⟩
          · split at h
            · cases h
              exact ⟨rfl,.inl rfl⟩
            · cases h

theorem repriceOutcome (refuses : Refuses source) :
    (∀ out, intent.legs.foldlM (repriceLeg source intent) {ok := true, riskBundleQty := i64Max} = .ok out →
      out.ok = true) ∧
    (∀ refused, intent.legs.foldlM (repriceLeg source intent)
      {ok := true, riskBundleQty := i64Max} = .error refused →
      refused.ok = false ∧ DepthRejection refused.rejection) := by
  refine Machine.loopOutcome (P := fun acc : CostRevalidationResult => acc.ok = true) ?_ ?_ rfl intent.legs
  · intro acc leg out kept priced
    obtain ⟨_,_,_,_,_,_,_,_,_,_,_,rfl⟩ := repriceLegPriced priced
    exact kept
  · intro acc leg refused _ stopped
    exact repriceLegRefused refuses stopped

-- What ran when reprice accepts.
theorem repriceRan (refuses : Refuses source) (ok : (reprice source intent).ok = true) :
    0 < intent.bundleQty ∧
    intent.legs.foldlM (repriceLeg source intent) {ok := true, riskBundleQty := i64Max} = .ok
      (reprice source intent) ∧
    (reprice source intent).riskBundleQty ≠ i64Max ∧ intent.bundleQty ≤ (reprice source intent).riskBundleQty := by
  unfold reprice at ok ⊢
  split at ok
  · cases ok
  · next valid =>
    rw [if_neg valid]
    cases walk : intent.legs.foldlM (repriceLeg source intent) {ok := true, riskBundleQty := i64Max} with
    | error refused =>
      rw [walk] at ok
      exact absurd ok (by simp [((repriceOutcome refuses).2 refused walk).1])
    | ok result =>
      rw [walk] at ok
      simp only at ok ⊢
      split at ok
      · cases ok
      · next legs =>
        split at ok
        · cases ok
        · next enough =>
          rw [if_neg legs,if_neg enough]
          exact ⟨by omega,rfl,legs,not_lt.mp enough⟩

theorem tdivLtSucc {d q n : Int} (hd : 0 < d) (hq : 0 < q) : d.tdiv q ≤ n ↔ d < q * (n + 1) := by
  rw [Int.tdiv_eq_ediv_of_nonneg (le_of_lt hd),← Int.lt_add_one_iff,Int.ediv_lt_iff_lt_mul hq,Int.mul_comm]

def ThinDepth (source : BookSource β) (depth : β → Int) (intent : OpportunityIntent) : Prop :=
  ∃ leg ∈ intent.legs, ∃ book, source.find leg = some book ∧ depth book < leg.quantityLots * (intent.bundleQty + 1)

theorem repriceQty (reads : Reads source depth) (refuses : Refuses source)
    (ok : (reprice source intent).ok = true) :
    (reprice source intent).riskBundleQty = intent.bundleQty ↔ ThinDepth source depth intent := by
  obtain ⟨_,walk,legs,enough⟩ := repriceRan refuses ok
  obtain ⟨_,each,attained⟩ := repriceFold reads walk
  constructor
  · intro same
    rcases attained with top | ⟨leg,mem,book,found,ratio,positive,qty⟩
    · exact absurd top legs
    · exact ⟨leg,mem,book,found,(tdivLtSucc positive ratio).mp (by omega)⟩
  · rintro ⟨leg,mem,book,found,thin⟩
    obtain ⟨book',found',ratio,positive,qty⟩ := each leg mem
    rw [found] at found'
    cases Option.some.inj found'
    have := (tdivLtSucc positive ratio).mpr thin
    omega

def pricedLeg (source : BookSource β) (intent : OpportunityIntent) (leg : IntentLeg) : Int :=
  match source.find leg with
  | none => 0
  | some book => (source.repriceBuyLeg book (leg.quantityLots * intent.bundleQty)).1.costTick

theorem pricedLegSource {acc leg out} (h : repriceLeg source intent acc leg = .ok out) :
    out.riskTotalCostTick = acc.riskTotalCostTick + pricedLeg source intent leg := by
  obtain ⟨_,_,_,book,planned,priced,total,found,qty,walk,sum,rfl⟩ := repriceLegPriced h
  obtain ⟨_,rfl⟩ := checkedMulExact.mp qty
  obtain ⟨_,rfl⟩ := checkedAddExact.mp sum
  simp [pricedLeg,found,walk]

theorem pricedFold {legs : List IntentLeg} {acc out} (h : legs.foldlM (repriceLeg source intent) acc = .ok out) :
    (∀ leg ∈ legs, leg.assetId ≠ "" ∧ 0 < leg.quantityLots) ∧
    out.riskTotalCostTick = acc.riskTotalCostTick + (legs.map (pricedLeg source intent)).sum := by
  induction legs generalizing acc with
  | nil =>
    cases h
    simp
  | cons leg rest ih =>
    rw [List.foldlM_cons] at h
    obtain ⟨mid,first,later⟩ := Machine.bindOk.mp h
    obtain ⟨_,asset,ratio,_⟩ := repriceLegPriced first
    obtain ⟨valid,total⟩ := ih later
    have step := pricedLegSource first
    constructor
    · intro x mem
      rcases List.mem_cons.mp mem with rfl | old
      · exact ⟨asset,ratio⟩
      · exact valid x old
    · rw [total,step,List.map_cons,List.sum_cons,Int.add_assoc]

theorem repricePriced (refuses : Refuses source) (ok : (reprice source intent).ok = true) :
    (∀ leg ∈ intent.legs, leg.assetId ≠ "" ∧ 0 < leg.quantityLots) ∧
    (reprice source intent).riskTotalCostTick = (intent.legs.map (pricedLeg source intent)).sum := by
  obtain ⟨_,walk,_,_⟩ := repriceRan refuses ok
  have priced := pricedFold walk
  rw [Int.zero_add] at priced
  exact priced

theorem repriceRefused (refuses : Refuses source) (bad : (reprice source intent).ok = false) :
    DepthRejection (reprice source intent).rejection := by
  unfold reprice at bad ⊢
  split at bad
  · next invalid =>
    rw [if_pos invalid]
    exact .inl rfl
  · next valid =>
    rw [if_neg valid]
    cases walk : intent.legs.foldlM (repriceLeg source intent) {ok := true, riskBundleQty := i64Max} with
    | error refused => exact ((repriceOutcome refuses).2 refused walk).2
    | ok result =>
      rw [walk] at bad
      have kept := (repriceOutcome refuses).1 result walk
      simp only at bad ⊢
      split
      · exact .inl rfl
      · split
        · exact .inr rfl
        · next legs enough =>
          rw [if_neg legs,if_neg enough,kept] at bad
          cases bad

variable {policy : RiskPolicySnapshot} {nowNs : Nat} {hash : UInt64}

theorem revalidateAccepted (ok : (revalidate source intent policy nowNs hash).ok = true) :
    (latestCost source intent policy nowNs hash).ok = true ∧
    (latestCost source intent policy nowNs hash).riskTotalCostTick - intent.estimatedCostTick ≤
      policy.maxAllowedCostDriftTick ∧
    revalidate source intent policy nowNs hash =
      {latestCost source intent policy nowNs hash with
        feeTick := intent.estimatedFeeTick
        slippageBufferTick := intent.slippageBufferTick
        latencyBufferTick := intent.latencyBufferTick
        costDriftTick := (latestCost source intent policy nowNs hash).riskTotalCostTick - intent.estimatedCostTick
        ok := true
        rejection := .pass} := by
  unfold revalidate at ok ⊢
  simp only at ok ⊢
  split at ok
  · next bad =>
    rw [bad] at ok
    cases ok
  · next good =>
    split at ok
    · cases ok
    · next drift =>
      rw [Bool.not_eq_false] at good
      exact ⟨good,by omega,by simp [good,drift]⟩

theorem latestLegsValid (refuses : Refuses source) (ok : (latestCost source intent policy nowNs hash).ok = true) :
    ∀ leg ∈ intent.legs, leg.assetId ≠ "" ∧ 0 < leg.quantityLots := by
  unfold latestCost at ok
  split at ok
  · next reused =>
    intro leg mem
    simp only [canReuseSignal,Bool.and_eq_true,List.all_eq_true] at reused
    have usable := reused.1.1.2 leg mem
    simp only [decide_eq_true_eq] at usable
    exact ⟨usable.1.1.2,usable.1.2⟩
  · exact (repricePriced refuses ok).1

theorem revalidateRefused (refuses : Refuses source)
    (bad : (revalidate source intent policy nowNs hash).ok = false) :
    DepthRejection (revalidate source intent policy nowNs hash).rejection ∨
    (revalidate source intent policy nowNs hash).rejection = .rejectCostDrift := by
  unfold revalidate at bad ⊢
  simp only at bad ⊢
  split
  · next stopped =>
    unfold latestCost at stopped ⊢
    split
    · next reused =>
      rw [if_pos reused] at stopped
      cases stopped
    · next recomputed =>
      rw [if_neg recomputed] at stopped
      exact .inl (repriceRefused refuses stopped)
  · next good =>
    split
    · exact .inr rfl
    · next drift =>
      rw [if_neg good,if_neg drift] at bad
      cases bad

end Facts
end Polytope.CostRevalidator
