import Polytope.SharedSweep
import Polytope.PricingPaths
import Polytope.FixedShapeDomination

/-! Several legs of a bundle on one asset. Signal and the size optimizer look at every leg on its own, against the whole
book of its asset, so what two such legs take is not there twice. -/
namespace Polytope.SharedDepth
open FixedPointMath MarketDepth AskSweep SharedSweep SizingState PrefixSweep LinearSweep SignalPricing
open BundleSizing SizingWalk SizeOptimizer OrderDecisionEngine ListRelation
open CombinatorialBundles (BundleLeg CandidateBundle)
open PricingPaths (fiveAt planOf)

/-! The book of an asset. -/

def assetView (views : List MarketDepthView) (asset : Nat) : Option MarketDepthView :=
  views.find? fun view => decide (view.assetIndex = asset)
def assetAsks (views : List MarketDepthView) (asset : Nat) : List PriceLevel :=
  ((assetView views asset).map MarketDepthView.asks).getD []
def assetBook (views : List MarketDepthView) (asset : Nat) : List Step := askSteps (assetAsks views asset)
def assetRoom (views : List MarketDepthView) (asset : Nat) : Int := capped (visibleAskLots (assetAsks views asset))

-- The levels of a view rise in price and fit its array, and the prefix is made from them or left out.
structure RisingBook (view : MarketDepthView) : Prop where
  few : view.asks.length ≤ kMaxSnapshotDepth
  indexed : view.depthPrefix = buildDepthPrefix view.bids view.asks ∨ view.depthPrefix.asks = []
  ascending : Ascending (askSteps view.asks)

section
variable {views : List MarketDepthView}

theorem assetFound {asset : Nat} {view} (found : assetView views asset = some view) :
    assetBook views asset = askSteps view.asks ∧ assetRoom views asset = capped (visibleAskLots view.asks) := by
  unfold assetBook assetRoom assetAsks
  rw [found]
  exact ⟨rfl,rfl⟩
theorem booksSized (asset : Nat) : Sized (assetBook views asset) := askSized _
theorem booksAscending (booked : ∀ view ∈ views, RisingBook view) (asset : Nat) :
    Ascending (assetBook views asset) := by
  cases found : assetView views asset with
  | none =>
    unfold assetBook assetAsks
    rw [found]
    exact List.Pairwise.nil
  | some view =>
    rw [(assetFound found).1]
    exact (booked view (List.mem_of_find?_eq_some found)).ascending
theorem roomWithin (asset : Nat) : assetRoom views asset ≤ depth (assetBook views asset) := by
  unfold assetRoom assetBook
  rw [askDepth]
  exact min_le_left _ _
theorem roomOf {demand : Demand Nat} {q : Int} (ratio : 0 < demand.ratio) (some : 0 < q)
    (within : demand.ratio * q ≤ assetRoom views demand.key) :
    q ≤ units (assetRoom views) demand := by
  have lots := Int.mul_pos ratio some
  unfold units
  rw [Int.tdiv_eq_ediv_of_nonneg (by omega)]
  exact (Int.le_ediv_iff_mul_le ratio).mpr (Int.mul_comm _ _ ▸ within)
theorem unitsWithin {demand : Demand Nat} {q : Int} (ratio : 0 < demand.ratio)
    (below : q ≤ units (assetRoom views) demand) :
    demand.ratio * q ≤ assetRoom views demand.key := by
  have room : 0 ≤ assetRoom views demand.key := by
    unfold assetRoom
    rw [← askDepth]
    exact cappedNonneg (depthNonneg (askSized _))
  unfold units at below
  rw [Int.tdiv_eq_ediv_of_nonneg room] at below
  rw [Int.mul_comm]
  exact (Int.le_ediv_iff_mul_le ratio).mp below

end

/-! One leg of Signal. -/

theorem prefixAsked {p : DepthPrefix} {asks : List PriceLevel} {q : Int}
    (ok : (buyVwapPrefix p asks q).ok = true) :
    0 < q ∧ q ≤ askDepthFromPrefix p := by
  unfold buyVwapPrefix at ok
  split at ok
  · cases ok
  next shape =>
  rw [not_or,not_le] at shape
  simp only at ok
  split at ok
  · cases ok
  next enough => exact ⟨shape.1,not_lt.mp enough⟩
theorem viewPriced {view : MarketDepthView} (booked : RisingBook view) {q : Int}
    (ok : ((LegBook.depth view).vwap q).ok = true) :
    ((LegBook.depth view).vwap q).totalCostTick = sweep (askSteps view.asks) q := by
  unfold LegBook.vwap at ok ⊢
  simp only at ok ⊢
  split at ok
  · next full =>
    have indexed := booked.indexed.resolve_right full
    rw [if_pos full]
    rw [indexed] at ok ⊢
    obtain ⟨some,within⟩ := prefixAsked ok
    rw [prefixCapped booked.few] at within
    rw [prefixSold booked.few some within] at ok ⊢
    split at ok
    · next fits => rw [if_pos fits]
    · cases ok
  · next bare =>
    rw [if_neg bare,List.take_of_length_le booked.few]
    rw [List.take_of_length_le booked.few] at ok
    exact (linearCost ok).2

theorem scanTotal {asks : List PriceLevel} {start out : LegCapacity} (fits : start.leg.executableQtyLots ≤ i64Max)
    (scanned : asks.foldlM scanLevel start = .ok out) : out.leg.requestedQtyLots = start.leg.requestedQtyLots ∧
      out.leg.executableQtyLots = start.leg.executableQtyLots + visibleAskLots asks ∧
        out.leg.executableQtyLots ≤ i64Max := by
  induction asks generalizing start with
  | nil =>
    cases scanned
    exact ⟨rfl,by simp [visibleAskLots],fits⟩
  | cons level rest ih =>
    have counted : visibleAskLots (level::rest) = levelLots level + visibleAskLots rest := by simp [visibleAskLots]
    rw [List.foldlM_cons] at scanned
    obtain ⟨next,first,later⟩ := Machine.bindOk.mp scanned
    have size := sizeLotsNonneg level
    unfold scanLevel at first
    simp only at first
    split at first
    · next skipped =>
      cases first
      have none : levelLots level = 0 := by
        unfold levelLots
        split <;> omega
      obtain ⟨requested,total,small⟩ := ih fits later
      exact ⟨requested,by omega,small⟩
    next taken =>
    rw [not_or,not_le,not_le] at taken
    have lots : levelLots level = priceLevelSizeLots level := if_pos taken.1
    split at first
    · cases first
    next executable sum =>
    obtain ⟨here,rfl⟩ := checkedAddExact.mp sum
    cases first
    obtain ⟨requested,total,small⟩ := ih here.2 later
    simp only at requested total
    exact ⟨requested,by omega,small⟩
theorem viewCapacity {view : MarketDepthView} (booked : RisingBook view) {assetId ratio side capacity}
    (found : calculateBuyCapacity assetId ratio side (.depth view) = (.none,capacity)) :
    capacity.leg.requestedQtyLots = ratio ∧
      capacity.leg.executableQtyLots = capped (visibleAskLots view.asks) := by
  unfold calculateBuyCapacity at found
  split at found
  · cases found
  split at found
  · cases found
  split at found
  · cases found
  simp only at found
  split at found
  · next full =>
    have indexed := booked.indexed.resolve_right full
    cases found
    refine ⟨rfl,?_⟩
    simp only
    rw [indexed,prefixCapped booked.few,askDepth]
  · unfold scanLevels at found
    rw [List.take_of_length_le booked.few] at found
    split at found
    · cases found
    next out scanned =>
    cases found
    obtain ⟨requested,total,small⟩ := scanTotal (show (0 : Int) ≤ i64Max by decide) scanned
    simp only [Int.zero_add] at requested total
    refine ⟨requested,?_⟩
    simp only
    rw [total,cappedExact (total ▸ small)]

/-! All legs of Signal. -/

theorem minimumLe {works : List LegWork} {start : Int} : minimum start works ≤ start ∧
    ∀ work ∈ works, minimum start works ≤
      work.capacity.leg.executableQtyLots.tdiv work.capacity.leg.requestedQtyLots := by
  induction works generalizing start with
  | nil => exact ⟨le_rfl,fun work mem => (by cases mem)⟩
  | cons first rest ih =>
    obtain ⟨below,each⟩ := @ih
      (min start (first.capacity.leg.executableQtyLots.tdiv first.capacity.leg.requestedQtyLots))
    exact ⟨le_trans below (min_le_left _ _),List.forall_mem_cons.mpr ⟨le_trans below (min_le_right _ _),each⟩⟩
theorem minimumReached {works : List LegWork} {start : Int} : minimum start works = start ∨
    ∃ work ∈ works, minimum start works =
      work.capacity.leg.executableQtyLots.tdiv work.capacity.leg.requestedQtyLots := by
  induction works generalizing start with
  | nil => exact .inl rfl
  | cons first rest ih =>
    rcases @ih (min start (first.capacity.leg.executableQtyLots.tdiv
      first.capacity.leg.requestedQtyLots)) with same | ⟨work,mem,same⟩
    · rcases min_choice start
        (first.capacity.leg.executableQtyLots.tdiv first.capacity.leg.requestedQtyLots) with old | new
      · exact .inl (same.trans old)
      · exact .inr ⟨first,List.mem_cons_self,same.trans new⟩
    · exact .inr ⟨work,List.mem_cons_of_mem _ mem,same⟩

def planDemand (leg : RuntimeLeg) : Demand Nat := ⟨leg.assetIndex,leg.ratioQtyLots⟩
def planDemands (plan : BundleRuntimePlan) : List (Demand Nat) := plan.legs.map planDemand
-- The lots planned for a leg are its ratio times the bundles.
def pricedTake (bundleQty : Int) (leg : RuntimeLeg) (priced : FillSimulationLeg) : Take Nat :=
  ⟨leg.assetIndex,leg.ratioQtyLots * bundleQty,priced.totalCostTick⟩
def pricedTakes (plan : BundleRuntimePlan) (cost : CostResult) : List (Take Nat) :=
  List.zipWith (pricedTake cost.bundleQty) plan.legs cost.fixedLegs

structure Looked (views : List MarketDepthView) (leg : RuntimeLeg) (work : LegWork) : Prop where
  ratio : work.input.ratio = leg.ratioQtyLots
  book : ∃ view, assetView views leg.assetIndex = some view ∧ work.input.book = .depth view
theorem looked {views : List MarketDepthView} {leg : RuntimeLeg} {work : LegWork}
    (made : planInput (depthForAsset views) leg = .ok work.input) :
    Looked views leg work := by
  unfold planInput at made
  split at made
  · cases made
  split at made
  · cases made
  next book found =>
  have same := Except.ok.inj made
  obtain ⟨view,inside,rfl⟩ := Option.map_eq_some_iff.mp found
  exact ⟨congrArg LegInput.ratio same.symm,view,inside,congrArg LegInput.book same.symm⟩

theorem lookedAll {views : List MarketDepthView} {legs : List RuntimeLeg} {works : List LegWork}
    (inputs : legs.map (planInput (depthForAsset views)) = works.map fun work => .ok work.input) :
    List.Forall₂ (Looked views) legs works := by
  have same : List.Forall₂ (· = ·) (legs.map (planInput (depthForAsset views)))
    (works.map fun work => .ok work.input) := by
    rw [inputs]
    exact List.forall₂_refl _
  rw [List.forall₂_map_left_iff,List.forall₂_map_right_iff] at same
  exact same.imp fun leg work made => looked made

section
variable {views : List MarketDepthView} (booked : ∀ view ∈ views, RisingBook view)
include booked

theorem lookedTake {leg : RuntimeLeg} {work : LegWork} {priced : FillSimulationLeg} {q : Int}
    (here : Looked views leg work)
    (price : PricedAt q work priced) : pricedTake q leg priced = takeAt (assetBook views) q (planDemand leg) := by
  obtain ⟨ratio,view,found,book⟩ := here
  obtain ⟨ok,same⟩ := price
  rw [book,ratio] at ok
  have cost := viewPriced (booked view (List.mem_of_find?_eq_some found)) ok
  unfold pricedTake takeAt planDemand
  rw [same]
  simp only
  rw [book,ratio,cost,(assetFound found).1]
theorem lookedRoom {leg : RuntimeLeg} {work : LegWork} (here : Looked views leg work) (capable : Capable work) :
    0 < (planDemand leg).ratio ∧
    work.capacity.leg.executableQtyLots.tdiv work.capacity.leg.requestedQtyLots = units (assetRoom views)
      (planDemand leg) := by
  obtain ⟨ratio,view,found,book⟩ := here
  have positive := capable.ratio
  have capacity := capable.capacity
  rw [book] at capacity
  obtain ⟨requested,executable⟩ := viewCapacity (booked view (List.mem_of_find?_eq_some found)) capacity
  rw [ratio] at positive
  refine ⟨positive,?_⟩
  rw [requested,executable,ratio]
  unfold units
  rw [show assetRoom views (planDemand leg).key = _ from (assetFound found).2]
  rfl

theorem lookedTakes {legs : List RuntimeLeg} {works : List LegWork} {priced : List FillSimulationLeg} {q : Int}
    (here : List.Forall₂ (Looked views) legs works) (prices : List.Forall₂ (PricedAt q) works priced) :
    List.zipWith (pricedTake q) legs priced = (legs.map planDemand).map (takeAt (assetBook views) q) := by
  induction here generalizing priced with
  | nil => rfl
  | cons first later ih =>
    obtain _ | ⟨price,others⟩ := prices
    rw [List.zipWith_cons_cons,List.map_cons,List.map_cons,ih others,lookedTake booked first price]
theorem pricedExact {plan : BundleRuntimePlan} {ok : Bool}
    (ran : (priceRuntimePlanDepth plan ⟨ok,views⟩).executable = true) :
    CountedOnce (assetBook views) (pricedTakes plan (priceRuntimePlanDepth plan ⟨ok,views⟩)) ↔
      Shares (assetBook views) (assetRoom views) (planDemands plan) := by
  unfold priceRuntimePlanDepth pricePlan at ran ⊢
  split at ran
  · cases ran
  next shape =>
  rw [if_neg shape]
  obtain ⟨works,done⟩ := executed (executedSettled ran)
  generalize Machine.settled (priceInputs (plan.legs.map (planInput (depthForAsset views)))) = out at done
  have inputs := lookedAll done.inputs
  have takes : pricedTakes plan {out with fixedLegs := out.legs, legs := []} =
      (planDemands plan).map (takeAt (assetBook views) out.bundleQty) := lookedTakes booked inputs done.legs
  have each : ∀ demand ∈ planDemands plan, 0 < demand.ratio ∧ out.bundleQty ≤ units (assetRoom views) demand := by
    intro demand mem
    obtain ⟨leg,inside,rfl⟩ := List.mem_map.mp mem
    obtain ⟨work,there,here⟩ := forallLeft inputs leg inside
    obtain ⟨ratio,room⟩ := lookedRoom booked here (done.capable work there)
    refine ⟨ratio,?_⟩
    rw [← room,done.qty]
    exact minimumLe.2 work there
  have reached : ∃ demand ∈ planDemands plan, out.bundleQty = units (assetRoom views) demand := by
    rcases @minimumReached works i64Max with top | ⟨work,there,same⟩
    · exact absurd (done.qty.trans top) done.bounded
    · obtain ⟨leg,inside,here⟩ := forallLeft inputs.flip work there
      refine ⟨planDemand leg,List.mem_map_of_mem inside,?_⟩
      rw [← (lookedRoom booked here (done.capable work there)).2,done.qty]
      exact same
  have ratios : ∀ demand ∈ planDemands plan, 0 < demand.ratio := fun demand mem => (each demand mem).1
  have within : ∀ demand ∈ planDemands plan, demand.ratio * out.bundleQty ≤ depth (assetBook views demand.key) :=
    fun demand mem => le_trans (unitsWithin (ratios demand mem) (each demand mem).2) (roomWithin _)
  rw [takes,countedExact booksSized (booksAscending booked) ratios done.some within]
  exact sharesExact (booksAscending booked) ratios done.some (fun demand mem => (each demand mem).2) reached

end

/-! The size optimizer. -/

def callDemand (call : DecideCall) (leg : BundleLeg × Nat) : Demand Nat :=
  ⟨((viewFor call leg.2).map MarketDepthView.assetIndex).getD 0,ratioForLeg leg.1 call.intent.legs[leg.2]?⟩
def callDemands (call : DecideCall) : List (Demand Nat) := call.bundle.legs.zipIdx.map (callDemand call)
def sizedTake (leg : Intent.OrderDecisionLegLite) : Take Nat :=
  ⟨leg.assetIndex,leg.quantityLots,leg.estimatedCostTick⟩
def sizedTakes (size : BundleSize) : List (Take Nat) := size.legs.map sizedTake

theorem viewOwn {views : List MarketDepthView} (apart : (views.map MarketDepthView.assetIndex).Nodup) {view}
    (mem : view ∈ views) :
    assetView views view.assetIndex = some view := by
  induction views with
  | nil => cases mem
  | cons first rest ih =>
    obtain ⟨fresh,others⟩ := List.nodup_cons.mp apart
    unfold assetView
    rcases List.mem_cons.mp mem with rfl | later
    · exact List.find?_cons_of_pos (decide_eq_true rfl)
    · have other : first.assetIndex ≠ view.assetIndex := fun same => fresh (same ▸ List.mem_map_of_mem later)
      rw [List.find?_cons_of_neg (by simpa using other)]
      exact ih others later

section
variable {call : DecideCall} (booked : ∀ view ∈ call.depthViews, RisingBook view)
  (apart : (call.depthViews.map MarketDepthView.assetIndex).Nodup)

include apart in
theorem preparedOwn {leg : BundleLeg × Nat} {made : SizingLeg} (prepared : PreparedLeg call leg made) :
    callDemand call leg = ⟨made.depth.assetIndex,made.ratio⟩ ∧
      assetView call.depthViews made.depth.assetIndex = some made.depth := by
  have mem : made.depth ∈ call.depthViews := FixedShapeDomination.viewMem prepared.view
  unfold callDemand
  rw [prepared.view,prepared.ratio]
  exact ⟨rfl,viewOwn apart mem⟩
include apart in
theorem preparedTake {leg : BundleLeg × Nat} {made : SizingLeg} (prepared : PreparedLeg call leg made)
    {fill : LegFill} {q m : Int} (some : 0 < q)
    (filled : LegAt made (made.ratio * q) fill) (fits : InI64 (made.ratio * q))
    (deep : ceilRatioBps (made.ratio * q) m ≤ made.curve.totalQtyLots) :
    sizedTake (sizedLeg made fill) = takeAt (assetBook call.depthViews) q (callDemand call leg) ∧
      0 < (callDemand call leg).ratio ∧
        (callDemand call leg).ratio * q ≤ assetRoom call.depthViews (callDemand call leg).key := by
  obtain ⟨demand,own⟩ := preparedOwn apart prepared
  obtain ⟨book,room⟩ := assetFound own
  have curve := curveOf prepared.curve
  have positive : 0 < made.ratio := prepared.ratio ▸ ratioPositive leg.1 _
  have lots : 0 < made.ratio * q := Int.mul_pos positive some
  have within := le_trans (ceilRatioLe fits m) deep
  rw [demand]
  refine ⟨?_,positive,?_⟩
  · unfold sizedTake sizedLeg takeAt
    simp only
    rw [filled.qty,filled.cost,book,curveSweep curve (le_of_lt lots) within]
  · simp only
    rw [room]
    exact le_min (within.trans (curveWithin curve)) fits.2
include apart in
theorem preparedTakes {pairs : List (BundleLeg × Nat)} {legs : List SizingLeg} {fills : List LegFill}
    {q m : Int} (some : 0 < q)
    (prepared : List.Forall₂ (PreparedLeg call) pairs legs) (filled : FilledAt q legs fills)
    (deep : Deep m legs q) :
    (List.zipWith sizedLeg legs fills).map sizedTake = (pairs.map (callDemand call)).map
    (takeAt (assetBook call.depthViews) q) ∧
      ∀ demand ∈ pairs.map (callDemand call), 0 < demand.ratio ∧
        demand.ratio * q ≤ assetRoom call.depthViews demand.key := by
  induction prepared generalizing fills with
  | nil => exact ⟨rfl,fun demand mem => (by cases mem)⟩
  | cons here later ih =>
    obtain _ | ⟨filledHere,filledLater⟩ := filled
    obtain ⟨⟨fits,deepHere⟩,deepLater⟩ := deepCons.mp deep
    obtain ⟨take,ratio,room⟩ := preparedTake apart here some filledHere fits deepHere
    obtain ⟨takes,each⟩ := ih filledLater deepLater
    rw [List.zipWith_cons_cons,List.map_cons,List.map_cons,List.map_cons,takes,take]
    exact ⟨rfl,List.forall_mem_cons.mpr ⟨⟨ratio,room⟩,each⟩⟩
include booked apart in
theorem sizedExact {config : OrderDecisionConfig} {cache : OrderDecisionCache} {size}
    (sized : (optimize config cache call).2 = .ok size) :
    (CountedOnce (assetBook call.depthViews) (sizedTakes size) ↔
      SharedAtBest (assetBook call.depthViews) (callDemands call) size.bestBundleQty) ∧
    (Shares (assetBook call.depthViews) (assetRoom call.depthViews) (callDemands call) →
      CountedOnce (assetBook call.depthViews) (sizedTakes size)) := by
  obtain ⟨legs,candidates,found,sized⟩ := optimizeSized sized
  obtain ⟨_,prepared⟩ := legsForExact.mp found
  obtain ⟨best,state,chosen,rfl⟩ := sizeChosen (preparedCurved prepared) sized
  have least := chosen.priced.least
  have one := leastPositive config
  simp only at least
  have some : 0 < best.bundleQty := by omega
  obtain ⟨takes,each⟩ := preparedTakes apart some prepared chosen.state.filled chosen.priced.deep
  have ratios : ∀ demand ∈ callDemands call, 0 < demand.ratio := fun demand mem => (each demand mem).1
  have exact : CountedOnce (assetBook call.depthViews) (sizedTakes (bestSize call legs best state)) ↔
      SharedAtBest (assetBook call.depthViews) (callDemands call) best.bundleQty := by
    rw [show sizedTakes (bestSize call legs best state) = _ from takes]
    exact countedExact booksSized (booksAscending booked) ratios some fun demand mem =>
      le_trans (each demand mem).2 (roomWithin _)
  refine ⟨exact,fun shares => exact.mpr ?_⟩
  exact sharesAt (booksAscending booked) ratios some
    (fun demand mem => roomOf (ratios demand mem) some (each demand mem).2) shares

end

/-! Both. -/

theorem sharedDepthExact (plan : BundleRuntimePlan) (ok : Bool) (config : OrderDecisionConfig)
    (cache : OrderDecisionCache) (call : DecideCall)
    (booked : ∀ view ∈ call.depthViews, RisingBook view)
    (apart : (call.depthViews.map MarketDepthView.assetIndex).Nodup) :
    ((priceRuntimePlanDepth plan ⟨ok,call.depthViews⟩).executable = true →
      (CountedOnce (assetBook call.depthViews)
        (pricedTakes plan (priceRuntimePlanDepth plan ⟨ok,call.depthViews⟩)) ↔
        Shares (assetBook call.depthViews) (assetRoom call.depthViews) (planDemands plan))) ∧
    ∀ size, (optimize config cache call).2 = .ok size →
      (CountedOnce (assetBook call.depthViews) (sizedTakes size) ↔
        SharedAtBest (assetBook call.depthViews) (callDemands call) size.bestBundleQty) ∧
      (Shares (assetBook call.depthViews) (assetRoom call.depthViews) (callDemands call) →
        CountedOnce (assetBook call.depthViews) (sizedTakes size)) :=
  ⟨pricedExact booked,fun _ sized => sizedExact booked apart sized⟩

-- Two legs on the asset "yes", and a third on "no" whose book may hold everything back.
def legOn (assetId : String) : BundleLeg := {marketId := "vote", assetId, quantityLots := 1}
def onYes (others : List BundleLeg) : CandidateBundle :=
  {bundleId := 1, guaranteedPayoutTick := 1000, legs := legOn "yes"::legOn "yes"::others}
def viewOf (assetIndex : Nat) (asks : List PriceLevel) : MarketDepthView :=
  {assetIndex, usableForDepth := true, asks, depthPrefix := buildDepthPrefix [] asks}
def yesView : MarketDepthView := viewOf 0 [fiveAt 40,fiveAt 50]
def callOn (bundle : CandidateBundle) (views : List MarketDepthView) : DecideCall :=
  { intent := { bundleId := 1, status := .paperOpportunity,
                legs := (planOf bundle).legs.map fun leg =>
                  {assetIndex := leg.assetIndex, quantityLots := leg.ratioQtyLots} }
    bundle, depthViews := views, policy := {minDepthMarginBps := 10000}, nowNs := 1000 }
def twoAt (priceTick : Int) : PriceLevel := ⟨priceTick,⟨0x4000000000000000⟩⟩
def threeAt (priceTick : Int) : PriceLevel := ⟨priceTick,⟨0x4008000000000000⟩⟩
def priceOn (bundle : CandidateBundle) (views : List MarketDepthView) : CostResult :=
  priceRuntimePlanDepth (planOf bundle) ⟨true,views⟩

-- Two bundles take four of the five lots at 40.
def twoBundles : List MarketDepthView := [yesView,viewOf 1 [twoAt 30]]
theorem fourAtBest : CountedOnce (assetBook twoBundles)
    (pricedTakes (planOf (onYes [legOn "no"])) (priceOn (onYes [legOn "no"]) twoBundles)) := by
  have booked : ∀ view ∈ twoBundles, RisingBook view :=
    List.forall_mem_cons.mpr ⟨⟨by decide,.inl rfl,by unfold Ascending; decide +kernel⟩,
      List.forall_mem_singleton.mpr ⟨by decide,.inl rfl,by unfold Ascending; decide +kernel⟩⟩
  have demands : planDemands (planOf (onYes [legOn "no"])) = [⟨0,1⟩,⟨0,1⟩,⟨1,1⟩] := by decide +kernel
  refine ((sharedDepthExact (planOf (onYes [legOn "no"])) true {} {}
    (callOn (onYes [legOn "no"]) twoBundles) booked (by decide)).1
    (by decide +kernel)).mpr ?_
  rw [demands]
  intro key several
  match key with
  | 0 => exact ⟨⟨1,1⟩,by decide,by decide +kernel⟩
  | 1 => exact absurd several (by decide)
  | key + 2 =>
    unfold demandsOn at several
    simp at several

-- Alone the legs take the ten lots twice, for Signal and in the size. With three lots of "no" they take six,
-- the sixth at the price of the first.
def threeBundles : List MarketDepthView := [yesView,viewOf 1 [threeAt 30]]
theorem lotsTakenTwice :
    CombinatorialBundles.validate ["vote"] ["yes","no"] [] [onYes []] = [] ∧
      (priceOn (onYes []) [yesView]).executable = true ∧
    ¬ CountedOnce (assetBook [yesView]) (pricedTakes (planOf (onYes [])) (priceOn (onYes []) [yesView])) ∧
    (∃ size, (optimize {} {} (callOn (onYes []) [yesView])).2 = .ok size ∧
      ¬ CountedOnce (assetBook [yesView]) (sizedTakes size)) ∧
    CombinatorialBundles.validate ["vote"] ["yes","no"] [] [onYes [legOn "no"]] = [] ∧
      (priceOn (onYes [legOn "no"]) threeBundles).executable = true ∧
    ¬ CountedOnce (assetBook threeBundles)
      (pricedTakes (planOf (onYes [legOn "no"])) (priceOn (onYes [legOn "no"]) threeBundles)) := by
  have sized : ∃ size ∈ (optimize {} {} (callOn (onYes []) [yesView])).2.toOption,
    depth (assetBook [yesView] 0) < lotsOn (sizedTakes size) 0 := by
    decide +kernel
  obtain ⟨size,found,more⟩ := sized
  refine ⟨by decide +kernel,by decide +kernel,fun counted =>
    ?_,⟨size,Machine.memToOption.mp found,fun counted => ?_⟩,by decide +kernel,
    by decide +kernel,fun counted => ?_⟩
  · exact absurd (counted 0).1 (by decide +kernel)
  · exact absurd (counted 0).1 (not_le.mpr more)
  · exact absurd (counted 0).2 (by decide +kernel)

end Polytope.SharedDepth
