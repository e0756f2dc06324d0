import Polytope.RiskEvaluation
import Polytope.LinearSweep

/-! Which bundles an approval was priced for. The edge check multiplies the payout of one
bundle by the bundle quantity of the revalidated cost. A reused signal cost keeps the
quantity of the intent, while a repriced one reports how many bundles the visible depth
could fill, and its cost is still that of the intent's own quantity. -/
namespace Polytope.RiskEdge
open FixedPointMath MarketDepth RiskTypes CostRevalidator RiskGuards Reservation Pipeline RiskEvaluation
open AskSweep SizingState PrefixSweep LinearSweep
open Intent (OpportunityIntent IntentLeg)

/-! What bundles cost on the books: every leg buys its lots from its own book, best level first. -/

def askSweep (asks : List PriceLevel) (q : Int) : Int := sweep (askSteps (asks.take kMaxSnapshotDepth)) q
def PrefixOfAsks (v : MarketDepthView) : Prop :=
  v.asks.length ≤ kMaxSnapshotDepth ∧ v.depthPrefix = buildDepthPrefix v.bids v.asks
instance (v) : Decidable (PrefixOfAsks v) := by unfold PrefixOfAsks; infer_instance
-- A cumulative depth that is not that of the asks beside it is taken at its word.
def prefixSweep : PrefixLevel → List (PrefixLevel × Int) → Int → Int
  | _,[],_ => 0
  | before,(entry,price)::rest,q =>
    if q ≤ entry.cumQty then before.cumCost + price * (q - before.cumQty) else prefixSweep entry rest q
def snapshotCost (s : MarketStateSnapshot) (q : Int) : Int := askSweep s.asks q
def viewCost (v : MarketDepthView) (q : Int) : Int :=
  if v.depthPrefix.asks = [] ∨ PrefixOfAsks v then askSweep v.asks q
  else prefixSweep ⟨0,0⟩ (v.depthPrefix.asks.zip (v.asks.map PriceLevel.priceTick)) q
def legCostOn {β : Type} (source : BookSource β) (cost : β → Int → Int) (bundles : Int) (leg : IntentLeg) : Int :=
  match source.find leg with
  | none => 0
  | some book => cost book (leg.quantityLots * bundles)
def bundlesCost {β : Type} (source : BookSource β) (cost : β → Int → Int) (i : OpportunityIntent) : Int :=
  (i.legs.map (legCostOn source cost i.bundleQty)).sum

def signalReused (i : OpportunityIntent) (input : RiskInputView) : Bool :=
  if input.depthViews.items ≠ [] then
    canReuseSignal (depthViewSource input.depthViews.items) i (effectivePolicy input) input.nowNs
      input.snapshotVersionHash
  else
    canReuseSignal (snapshotSource input.snapshots.items) i (effectivePolicy input) input.nowNs
      input.snapshotVersionHash
def BooksThin (i : OpportunityIntent) (input : RiskInputView) : Prop :=
  if input.depthViews.items ≠ [] then ThinDepth (depthViewSource input.depthViews.items) viewDepth i
  else ThinDepth (snapshotSource input.snapshots.items) snapshotDepth i

/-! The edge of the intent's own bundles. -/

-- A reused signal cost is the one the intent names for its bundles.
def ownCost (i : OpportunityIntent) (input : RiskInputView) : Int :=
  if signalReused i input = true then i.estimatedCostTick
  else if input.depthViews.items ≠ [] then bundlesCost (depthViewSource input.depthViews.items) viewCost i
  else bundlesCost (snapshotSource input.snapshots.items) snapshotCost i
def ownEdge (i : OpportunityIntent) (input : RiskInputView) (payout : Int) : Int :=
  payout - ownCost i input - i.estimatedFeeTick - i.slippageBufferTick - i.latencyBufferTick
def EdgeMet (policy : RiskPolicySnapshot) (bundles edge : Int) : Prop :=
  policy.minPostRiskTotalEdgeTick ≤ edge ∧ policy.minPostRiskUnitEdgeTick * bundles ≤ edge
structure EdgeSound (i : OpportunityIntent) (input : RiskInputView) (cost : CostRevalidationResult) : Prop where
  perBundle : EdgeMet (effectivePolicy input) i.bundleQty (ownEdge i input (payoutPerBundle i * i.bundleQty))
  guaranteed : 0 ≤ i.guaranteedPayoutTick →
    EdgeMet (effectivePolicy input) i.bundleQty (ownEdge i input i.guaranteedPayoutTick)
  sameCost : cost.riskTotalCostTick = ownCost i input
  sameBundles : cost.riskBundleQty = i.bundleQty
-- A loss that is not quite the minimum per bundle, and is it once the quotient is cut toward zero.
def RoundedUp (policy : RiskPolicySnapshot) (bundles edge : Int) : Prop :=
  edge < 0 ∧ edge.tdiv bundles = policy.minPostRiskUnitEdgeTick ∧ policy.minPostRiskUnitEdgeTick * bundles ≠ edge
def UnitRounded (i : OpportunityIntent) (input : RiskInputView) : Prop :=
  RoundedUp (effectivePolicy input) i.bundleQty (ownEdge i input (payoutPerBundle i * i.bundleQty))

theorem unitMet {policy : RiskPolicySnapshot} {bundles edge : Int} (positive : 0 < bundles)
    (unit : policy.minPostRiskUnitEdgeTick ≤ edge.tdiv bundles) :
    policy.minPostRiskUnitEdgeTick * bundles ≤ edge ↔ ¬ RoundedUp policy bundles edge := by
  have whole := Int.mul_tdiv_add_tmod edge bundles
  rw [Int.mul_comm] at whole
  unfold RoundedUp
  rcases lt_or_ge edge 0 with loss | gain
  · -- cut toward zero, the quotient lies above the edge by less than a bundle
    have cut : -bundles < edge.tmod bundles := by
      have := Int.lt_tmod_of_pos edge positive
      omega
    have rest : edge.tmod bundles ≤ 0 := by
      have := Int.tmod_nonneg bundles (show 0 ≤ -edge by omega)
      rw [Int.neg_tmod] at this
      omega
    rcases lt_or_eq_of_le unit with above | same
    · have step : (policy.minPostRiskUnitEdgeTick + 1) * bundles ≤ edge.tdiv bundles * bundles :=
        Int.mul_le_mul_of_nonneg_right (by omega) (le_of_lt positive)
      rw [Int.add_mul,Int.one_mul] at step
      exact iff_of_true (by omega) fun rounded => by omega
    · rw [same]
      constructor
      · intro met rounded
        exact rounded.2.2 (by omega)
      · intro exact
        by_contra short
        exact exact ⟨loss,rfl,by omega⟩
  · have rest := Int.tmod_nonneg bundles gain
    have below := Int.mul_le_mul_of_nonneg_right unit (le_of_lt positive)
    exact iff_of_true (by omega) fun rounded => by omega

/-! A leg that is repriced pays the sweep of its book. -/

def Pays {β : Type} (source : BookSource β) (cost : β → Int → Int) : Prop :=
  ∀ book planned priced, source.repriceBuyLeg book planned = (priced,none) → priced.costTick = cost book planned

theorem repriceLinearPays {asks planned priced} (h : repriceLinear asks planned = (priced,none)) :
    priced.costTick = askSweep asks planned := by
  unfold repriceLinear at h
  simp only at h
  split at h
  · cases h
  split at h
  · cases h
  next filled =>
  cases h
  exact (linearCost (by simpa using filled)).2
theorem snapshotPays (snapshots) : Pays (snapshotSource snapshots) snapshotCost := by
  intro s planned priced h
  simp only [snapshotSource,repriceBuyLegSnapshot] at h
  split at h
  · cases h
  split at h
  · cases h
  exact repriceLinearPays h

theorem prefixSweepFound {entries : List PrefixLevel} {prices : List Int} {before : PrefixLevel}
    {q : Int} {index : Nat}
    (long : entries.length ≤ prices.length)
    (found : entries.findIdx? (fun entry => decide (q ≤ entry.cumQty)) = some index) :
    prefixSweep before (entries.zip prices) q =
      (if index = 0 then before else entries.getD (index - 1) ⟨0,0⟩).cumCost +
        prices.getD index 0 * (q - (if index = 0 then before else entries.getD (index - 1) ⟨0,0⟩).cumQty) := by
  induction entries generalizing prices before index with
  | nil => cases found
  | cons entry rest ih =>
    obtain ⟨price,others,rfl⟩ := List.exists_cons_of_length_pos (show 0 < prices.length by simp at long; omega)
    rw [List.findIdx?_cons] at found
    rw [List.zip_cons_cons,prefixSweep]
    by_cases here : q ≤ entry.cumQty
    · rw [if_pos (decide_eq_true here)] at found
      cases found
      rw [if_pos here,if_pos rfl]
      rfl
    · rw [if_neg (by simpa using here)] at found
      obtain ⟨later,foundLater,rfl⟩ := Option.map_eq_some_iff.mp found
      rw [if_neg here,ih (by simp at long; omega) foundLater,if_neg (Nat.succ_ne_zero later)]
      cases later <;> rfl
theorem buyVwapPrefixPays {p : DepthPrefix} {asks : List PriceLevel} {q : Int}
    (ok : (buyVwapPrefix p asks q).ok = true) :
    (buyVwapPrefix p asks q).totalCostTick = prefixSweep ⟨0,0⟩ (p.asks.zip (asks.map PriceLevel.priceTick)) q := by
  unfold buyVwapPrefix at ok ⊢
  split at ok
  · cases ok
  next shape =>
  rw [if_neg shape]
  simp only at ok ⊢
  split at ok
  · cases ok
  next within =>
  rw [if_neg within]
  split at ok
  · cases ok
  next index found =>
  rw [prefixSweepFound (by simp; omega) found]
  generalize (if index = 0 then (⟨0,0⟩ : PrefixLevel) else p.asks.getD (index - 1) ⟨0,0⟩) = before at ok ⊢
  split at ok
  · cases ok
  next priced =>
  rw [if_neg priced]
  split at ok
  · cases ok
  next partialCost product =>
  split at ok
  · cases ok
  next total sum =>
  obtain ⟨-,rfl⟩ := checkedMulExact.mp product
  obtain ⟨-,rfl⟩ := checkedAddExact.mp sum
  rfl
theorem depthViewPays (views) : Pays (depthViewSource views) viewCost := by
  intro v planned priced h
  simp only [depthViewSource,repriceBuyLegView] at h
  unfold viewCost
  split at h
  · cases h
  next some =>
  split at h
  · cases h
  split at h
  · next empty =>
    rw [if_pos (.inl empty)]
    exact repriceLinearPays h
  next full =>
  split at h
  · cases h
  split at h
  · cases h
  next enough =>
  split at h
  · cases h
  next filled =>
  cases h
  have ok : (buyVwapPrefix v.depthPrefix v.asks planned).ok = true := by simpa using filled
  by_cases built : PrefixOfAsks v
  · rw [if_pos (.inr built)]
    obtain ⟨few,own⟩ := built
    have within := not_lt.mp enough
    rw [own] at within ok ⊢
    rw [prefixCapped few] at within
    rw [prefixSold few (not_le.mp some) within] at ok ⊢
    split at ok
    · next fits =>
      rw [if_pos fits,askSweep,List.take_of_length_le few]
    · cases ok
  · rw [if_neg (fun either => either.elim full built)]
    exact buyVwapPrefixPays ok

section
variable {β : Type} {source : BookSource β} {depth : β → Int} {i : OpportunityIntent}
  {policy : RiskPolicySnapshot} {nowNs : Nat} {hash : UInt64}

theorem latestQty (reads : Reads source depth) (refuses : Refuses source)
    (ok : (latestCost source i policy nowNs hash).ok = true) :
    (latestCost source i policy nowNs hash).riskBundleQty = i.bundleQty ↔
      canReuseSignal source i policy nowNs hash = true ∨ ThinDepth source depth i := by
  unfold latestCost at ok ⊢
  split
  · next reused => exact iff_of_true rfl (.inl reused)
  · next recomputed =>
    rw [if_neg recomputed] at ok
    rw [repriceQty reads refuses ok]
    exact (or_iff_right recomputed).symm

theorem revalidateQty (reads : Reads source depth) (refuses : Refuses source)
    (ok : (revalidate source i policy nowNs hash).ok = true) :
    (revalidate source i policy nowNs hash).riskBundleQty = i.bundleQty ↔
      canReuseSignal source i policy nowNs hash = true ∨ ThinDepth source depth i := by
  obtain ⟨priced,_,shape⟩ := revalidateAccepted ok
  rw [shape]
  exact latestQty reads refuses priced

theorem foldPays {cost : β → Int → Int} (pays : Pays source cost) {legs : List IntentLeg} {acc out}
    (h : legs.foldlM (repriceLeg source i) acc = .ok out) :
    ∀ leg ∈ legs, pricedLeg source i leg = legCostOn source cost i.bundleQty leg := by
  induction legs generalizing acc with
  | nil => simp
  | cons leg rest ih =>
    rw [List.foldlM_cons] at h
    obtain ⟨mid,first,later⟩ := Machine.bindOk.mp h
    obtain ⟨_,_,_,book,planned,priced,total,found,qty,walk,_⟩ := repriceLegPriced first
    obtain ⟨_,rfl⟩ := checkedMulExact.mp qty
    refine List.forall_mem_cons.mpr ⟨?_,ih later⟩
    have paid := pays book _ priced walk
    simp only [pricedLeg,legCostOn,found,walk]
    exact paid
theorem latestPays {cost : β → Int → Int} (pays : Pays source cost) (refuses : Refuses source)
    (ok : (latestCost source i policy nowNs hash).ok = true) :
    (latestCost source i policy nowNs hash).riskTotalCostTick =
      if canReuseSignal source i policy nowNs hash = true then i.estimatedCostTick
      else bundlesCost source cost i := by
  unfold latestCost at ok ⊢
  split
  · rfl
  next recomputed =>
  rw [if_neg recomputed] at ok
  obtain ⟨_,walk,_⟩ := repriceRan refuses ok
  rw [(repricePriced refuses ok).2,bundlesCost,List.map_congr_left (foldPays pays walk)]

end

theorem revalidatedQty {i input} (ok : (revalidatedCost i input).ok = true) :
    (revalidatedCost i input).riskBundleQty = i.bundleQty ↔ signalReused i input = true ∨ BooksThin i input := by
  unfold revalidatedCost signalReused BooksThin at *
  split at ok
  · next views =>
    simp only [if_pos views]
    exact revalidateQty (depthViewReads _) (depthViewRefuses _) ok
  · next snapshots =>
    simp only [if_neg snapshots]
    exact revalidateQty (snapshotReads _) (snapshotRefuses _) ok

theorem revalidatedPaid {i input} (ok : (revalidatedCost i input).ok = true) :
    (revalidatedCost i input).riskTotalCostTick = ownCost i input ∧
    (revalidatedCost i input).feeTick = i.estimatedFeeTick ∧
      (revalidatedCost i input).slippageBufferTick = i.slippageBufferTick ∧
      (revalidatedCost i input).latencyBufferTick = i.latencyBufferTick := by
  unfold revalidatedCost ownCost signalReused at *
  split at ok
  · next views =>
    simp only [if_pos views]
    obtain ⟨priced,_,shape⟩ := revalidateAccepted ok
    rw [shape]
    exact ⟨latestPays (depthViewPays _) (depthViewRefuses _) priced,rfl,rfl,rfl⟩
  · next snapshots =>
    simp only [if_neg snapshots]
    obtain ⟨priced,_,shape⟩ := revalidateAccepted ok
    rw [shape]
    exact ⟨latestPays (snapshotPays _) (snapshotRefuses _) priced,rfl,rfl,rfl⟩

theorem payoutPerBundleLe {i : OpportunityIntent} (bundles : 0 < i.bundleQty)
    (payout : 0 ≤ i.guaranteedPayoutTick) :
    payoutPerBundle i * i.bundleQty ≤ i.guaranteedPayoutTick := by
  rw [payoutPerBundle,if_pos bundles,Int.tdiv_eq_ediv_of_nonneg payout]
  exact Int.ediv_mul_le _ (by omega)

theorem EdgeMet.mono {policy bundles} {edge more : Int} (met : EdgeMet policy bundles edge) (le : edge ≤ more) :
    EdgeMet policy bundles more :=
  ⟨met.1.trans le,met.2.trans le⟩

theorem checkedEdge {i input} (checked : Checked i input) :
    EdgeSound i input (revalidatedCost i input) ↔
      (signalReused i input = true ∨ BooksThin i input) ∧ ¬ UnitRounded i input := by
  rw [← revalidatedQty checked.cost]
  obtain ⟨bundles,_⟩ := validatorPass checked.validator
  obtain ⟨_,total,unit⟩ := edgeGuardPass checked.edge
  obtain ⟨paid,fee,slippage,latency⟩ := revalidatedPaid checked.cost
  rw [paid,fee,slippage,latency] at total unit
  constructor
  · intro sound
    rw [sound.sameBundles] at unit
    exact ⟨sound.sameBundles,(unitMet bundles unit).mp sound.perBundle.2⟩
  · rintro ⟨same,exact⟩
    rw [same] at total unit
    have met : EdgeMet (effectivePolicy input) i.bundleQty (ownEdge i input (payoutPerBundle i * i.bundleQty)) :=
      ⟨total,(unitMet bundles unit).mpr exact⟩
    refine ⟨met,fun payout => met.mono ?_,paid,same⟩
    have := payoutPerBundleLe bundles payout
    unfold ownEdge
    omega

theorem approvedChecked {p input book full i} (intent : input.intent = some i)
    (approved : (evaluateView p input book full).2.2.decision.approved = true) :
    Checked i input ∧ (evaluateView p input book full).2.2.cost = revalidatedCost i input := by
  have evaluated := evaluateViewEvaluated p input book full
  generalize evaluateView p input book full = out at *
  obtain ⟨p',book',r⟩ := out
  cases evaluated with
  | early refused => exact absurd approved (by simp [refused.1])
  | duplicate _ _ rejected _ => exact absurd approved (by simp [rejected])
  | rateLimited _ _ _ rejected _ => exact absurd approved (by simp [rejected])
  | later _ _ _ refused => exact absurd approved (by simp [refused.1])
  | unreserved _ _ _ _ rejected => exact absurd approved (by simp [rejected])
  | approved same _ _ checked _ _ _ cost _ _ =>
    rw [intent] at same
    cases Option.some.inj same
    exact ⟨checked,cost⟩

theorem approvedEdgeSound (p input book full i) (intent : input.intent = some i)
    (approved : (evaluateView p input book full).2.2.decision.approved = true) :
    EdgeSound i input (evaluateView p input book full).2.2.cost ↔
      (signalReused i input = true ∨ BooksThin i input) ∧ ¬ UnitRounded i input := by
  obtain ⟨checked,cost⟩ := approvedChecked intent approved
  rw [cost]
  exact checkedEdge checked

def losingIntent (payout : Int) : OpportunityIntent :=
  { intentId := 1, bundleId := 1, status := .paperOpportunity, guaranteedPayoutTick := payout
    estimatedCostTick := 60, oracleArtifactHash := 1, bundleHash := 1, snapshotVersionHash := 1
    idempotencyHash := 1, bundleQty := 1, totalEdgeTick := 1, createdTsNs := 1, expiresAtNs := 1000
    legs := [{marketId := "m", assetId := "a", quantityLots := 1, estimatedCostTick := 60}] }
def askBook (lots : UInt64) : MarketStateSnapshot :=
  { entityId := "a", lastBookUpdateNs := 5, live := true, hasAsk := true, usableForDepth := true
    snapshotVersionHash := 1, asks := [⟨60,⟨lots⟩⟩] }
def oneLot : UInt64 := 0x3FF0000000000000
def tenLots : UInt64 := 0x4024000000000000
def edgeView (payout : Int) (lots : UInt64) : RiskInputView :=
  { intent := some (losingIntent payout), snapshots := .data [askBook lots], nowNs := 10, policy := some {}
    ledger := some {} }

theorem thinBookEdge :
    EdgeSound (losingIntent 100) (edgeView 100 oneLot)
      (evaluateView {} (edgeView 100 oneLot) (some {}) false).2.2.cost :=
  (approvedEdgeSound {} (edgeView 100 oneLot) (some {}) false (losingIntent 100) rfl (by decide +kernel)).mpr
    ⟨.inr ⟨_,List.mem_singleton_self _,askBook oneLot,by decide +kernel,by decide +kernel⟩,
      fun rounded => absurd rounded.1 (by decide +kernel)⟩

-- The depth of ten lots turns the loss of 10 into an edge of 440, and a loss of one tick on two bundles counts
-- as a unit edge of zero.
def twoBundles : OpportunityIntent := {losingIntent 120 with bundleQty := 2, estimatedFeeTick := 1}
def twoLots : UInt64 := 0x4000000000000000
def twoBundleView : RiskInputView :=
  { edgeView 120 twoLots with
    intent := some twoBundles
    policy := some {minPostRiskTotalEdgeTick := -5, minEdgeBps := -1000, maxAllowedCostDriftTick := 100} }
theorem deepBookOverstatesEdge :
    ((evaluateView {} (edgeView 50 tenLots) (some {}) false).2.2.decision.approved = true ∧
      ¬ (effectivePolicy (edgeView 50 tenLots)).minPostRiskTotalEdgeTick ≤
        ownEdge (losingIntent 50) (edgeView 50 tenLots)
          (payoutPerBundle (losingIntent 50) * (losingIntent 50).bundleQty)) ∧
    (evaluateView {} twoBundleView (some {}) false).2.2.decision.approved = true ∧
      ¬ (effectivePolicy twoBundleView).minPostRiskUnitEdgeTick * twoBundles.bundleQty ≤
        ownEdge twoBundles twoBundleView (payoutPerBundle twoBundles * twoBundles.bundleQty) := by
  decide +kernel

end Polytope.RiskEdge
