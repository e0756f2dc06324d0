import Polytope.PricingAgreement

/-! How the three pricing paths find the books of a loaded bundle: by asset id, or by the index its runtime plan gives
the asset. The indices of a plan tell its assets apart, so every path prices the same books. -/
namespace Polytope.PricingPaths
open FixedPointMath MarketDepth SignalPricing PricingAgreement
open Intent (kMaxIntentLegs)
open CombinatorialBundles (BundleLeg CandidateBundle kMaxBundleLegs)

/-! Indices. -/

theorem noteMem (seen : List String) (assetId : String) : assetId ∈ noteAsset seen assetId := by
  unfold noteAsset
  split
  · next known => exact known
  · exact List.mem_append_right _ (List.mem_singleton_self _)
theorem noteGrows (seen : List String) (assetId : String) : ∃ more, noteAsset seen assetId = seen ++ more := by
  unfold noteAsset
  split
  · exact ⟨[],(List.append_nil seen).symm⟩
  · exact ⟨[assetId],rfl⟩
theorem indexStable {seen : List String} (more : List String) {assetId : String} (known : assetId ∈ seen) :
    assetIndexOf (seen ++ more) assetId = assetIndexOf seen assetId := List.idxOf_append_of_mem known
theorem indexApart {seen : List String} {a b : String} (known : a ∈ seen) :
    assetIndexOf seen a = assetIndexOf seen b ↔ a = b :=
  List.idxOf_inj known

structure Indexed (legs : List BundleLeg) (made : List RuntimeLeg) (all : List String) : Prop where
  made : made = legs.map (runtimeLeg all)
  known : ∀ leg ∈ legs, leg.assetId ∈ all
theorem legsIndexed (seen : List String) (unique : List (String × Nat)) (legs : List BundleLeg) :
    Indexed legs (runtimeLegs seen unique legs).2.2 (runtimeLegs seen unique legs).1 ∧
      ∃ more, (runtimeLegs seen unique legs).1 = seen ++ more := by
  induction legs generalizing seen unique with
  | nil => exact ⟨⟨rfl,fun leg mem => (by cases mem)⟩,[],(List.append_nil seen).symm⟩
  | cons leg rest ih =>
    obtain ⟨added,grown⟩ := noteGrows seen leg.assetId
    have member := noteMem seen leg.assetId
    obtain ⟨⟨made,known⟩,more,all⟩ := ih (noteAsset seen leg.assetId)
      (noteUnique unique leg.assetId (runtimeLeg (noteAsset seen leg.assetId) leg).assetIndex)
    rw [runtimeLegs]
    simp only
    generalize runtimeLegs (noteAsset seen leg.assetId)
      (noteUnique unique leg.assetId (runtimeLeg (noteAsset seen leg.assetId) leg).assetIndex) rest =
      out at made known all ⊢
    have stable : runtimeLeg (noteAsset seen leg.assetId) leg = runtimeLeg out.1 leg := by
      unfold runtimeLeg
      rw [all,indexStable more member]
    refine ⟨⟨?_,List.forall_mem_cons.mpr ⟨?_,known⟩⟩,added ++ more,?_⟩
    · rw [made,List.map_cons,stable]
    · rw [all]
      exact List.mem_append_left _ member
    · rw [all,grown,List.append_assoc]

structure Planned (bundle : CandidateBundle) (plan : BundleRuntimePlan) (all : List String) : Prop where
  legs : Indexed (bundle.legs.take kMaxIntentLegs) plan.legs all
  bundle : plan.bundle = some bundle
theorem plansPlanned {bundles : List CandidateBundle} {seen : List String} {artifactHash constraintHash plan}
    (mem : plan ∈ plansFrom artifactHash constraintHash seen bundles) :
    ∃ bundle ∈ bundles, ∃ all, Planned bundle plan all := by
  induction bundles generalizing seen with
  | nil => cases mem
  | cons bundle rest ih =>
    rcases List.mem_cons.mp mem with rfl | later
    · exact ⟨bundle,List.mem_cons_self,_,⟨(legsIndexed seen [] (bundle.legs.take kMaxIntentLegs)).1,rfl⟩⟩
    · obtain ⟨other,inside,planned⟩ := ih later
      exact ⟨other,List.mem_cons_of_mem _ inside,planned⟩

/-! Books. -/

def planAssetIndex (plan : BundleRuntimePlan) (assetId : String) : Option Nat :=
  (plan.legs.find? fun leg => decide (leg.assetId = some assetId)).map RuntimeLeg.assetIndex
-- The depth views of the plan's assets, made from the snapshots that are there.
def depthViewsOf (plan : BundleRuntimePlan) (snapshots : List MarketStateSnapshot) : List MarketDepthView :=
  snapshots.filterMap fun s => (planAssetIndex plan s.entityId).map (marketDepthViewFromSnapshot s)

theorem planMissing {find : String → RuntimeLeg → Option LegBook} {leg : RuntimeLeg} {assetId}
    (named : leg.assetId = some assetId)
    (missing : find assetId leg = none) : planInput find leg = .error .missingSnapshot := by
  unfold planInput
  rw [named]
  simp only
  rw [missing]
theorem planFound {find : String → RuntimeLeg → Option LegBook} {leg : RuntimeLeg} {assetId book}
    (named : leg.assetId = some assetId)
    (found : find assetId leg = some book) :
    planInput find leg = .ok ⟨assetId,leg.ratioQtyLots,leg.executableSide,book⟩ := by
  unfold planInput
  rw [named]
  simp only
  rw [found]

section
variable {bundle : CandidateBundle} {plan : BundleRuntimePlan} {all : List String}
  (planned : Planned bundle plan all)
include planned

theorem indexFound {assetId : String} {index} (found : planAssetIndex plan assetId = some index) :
    assetId ∈ all ∧ index = assetIndexOf all assetId := by
  unfold planAssetIndex at found
  rw [planned.legs.made,List.find?_map,Option.map_map,Option.map_eq_some_iff] at found
  obtain ⟨leg,first,same⟩ := found
  have asset := List.find?_some first
  simp only [Function.comp_apply,decide_eq_true_eq] at asset
  have named : leg.assetId = assetId := Option.some.inj asset
  have known := planned.legs.known leg (List.mem_of_find?_eq_some first)
  rw [named] at known
  refine ⟨known,?_⟩
  rw [← same,← named]
  rfl
theorem indexOfLeg {leg : BundleLeg} (mem : leg ∈ bundle.legs.take kMaxIntentLegs) :
    planAssetIndex plan leg.assetId = some (assetIndexOf all leg.assetId) := by
  cases found : planAssetIndex plan leg.assetId with
  | some index => rw [(indexFound planned found).2]
  | none =>
    unfold planAssetIndex at found
    rw [planned.legs.made,Option.map_eq_none_iff,List.find?_eq_none] at found
    exact absurd (decide_eq_true rfl) (found (runtimeLeg all leg) (List.mem_map_of_mem mem))
theorem depthFound (snapshots : List MarketStateSnapshot) {leg : BundleLeg}
    (mem : leg ∈ bundle.legs.take kMaxIntentLegs) :
    (depthViewsOf plan snapshots).find? (fun view => decide (view.assetIndex = assetIndexOf all leg.assetId)) =
      (snapshots.find? fun s => decide (s.entityId = leg.assetId)).map fun s =>
      marketDepthViewFromSnapshot s (assetIndexOf all leg.assetId) := by
  have known := planned.legs.known leg mem
  have same : ∀ s : MarketStateSnapshot, ((planAssetIndex plan s.entityId).map (marketDepthViewFromSnapshot s)).any
      (fun view => decide (view.assetIndex = assetIndexOf all leg.assetId)) = decide
      (s.entityId = leg.assetId) := by
    intro s
    by_cases own : s.entityId = leg.assetId
    · rw [own,indexOfLeg planned mem,decide_eq_true rfl]
      exact decide_eq_true rfl
    · rw [decide_eq_false own]
      cases found : planAssetIndex plan s.entityId with
      | none => rfl
      | some index =>
        obtain ⟨other,rfl⟩ := indexFound planned found
        exact decide_eq_false fun clash => own ((indexApart other).mp clash)
  unfold depthViewsOf
  rw [List.find?_filterMap,funext same]
  cases found : snapshots.find? fun s => decide (s.entityId = leg.assetId) with
  | none => rfl
  | some s =>
    have own : s.entityId = leg.assetId := by simpa using List.find?_some found
    simp only [Option.bind_some,Option.map_some]
    rw [own,indexOfLeg planned mem]
    rfl

-- Both lookups of a leg miss, or find the same book.
theorem foundSame {W : Prop} {snapshots : List MarketStateSnapshot} (regular : ∀ s ∈ snapshots, Regular s)
    (rising : W → ∀ s ∈ snapshots, Rising (s.asks.take kMaxSnapshotDepth)) : List.Forall₂ (SameFound W)
      (plan.legs.map (planInput (snapshotForAsset snapshots)))
      (plan.legs.map (planInput (depthForAsset (depthViewsOf plan snapshots)))) := by
  rw [List.forall₂_map_left_iff,List.forall₂_map_right_iff,planned.legs.made,List.forall₂_map_left_iff,
    List.forall₂_map_right_iff,
    List.forall₂_same]
  intro leg mem
  have depth := depthFound planned snapshots mem
  cases found : snapshots.find? fun s => decide (s.entityId = leg.assetId) with
  | none =>
    rw [found] at depth
    have first : snapshotForAsset snapshots leg.assetId (runtimeLeg all leg) = none :=
      congrArg (Option.map LegBook.snapshot) found
    have second : depthForAsset (depthViewsOf plan snapshots) leg.assetId (runtimeLeg all leg) = none :=
      congrArg (Option.map LegBook.depth) depth
    rw [planMissing rfl first,planMissing rfl second]
    exact .missing _
  | some s =>
    rw [found] at depth
    have inside := List.mem_of_find?_eq_some found
    have first : snapshotForAsset snapshots leg.assetId (runtimeLeg all leg) = some _ :=
      congrArg (Option.map LegBook.snapshot) found
    have second : depthForAsset (depthViewsOf plan snapshots) leg.assetId (runtimeLeg all leg) = some _ :=
      congrArg (Option.map LegBook.depth) depth
    rw [planFound rfl first,planFound rfl second]
    exact .found (bookSame (regular s inside) _ (fun w => rising w s inside) leg.assetId leg.quantityLots
      (resolveSide leg.side))

end

/-! The price vector of a bundle is what its plan looks up, except that it refuses some legs at once. -/

theorem planLooked (snapshots : List MarketStateSnapshot) (all : List String) (leg : BundleLeg) :
    planInput (snapshotForAsset snapshots) (runtimeLeg all leg) =
      match snapshots.find? fun s => decide (s.entityId = leg.assetId) with
      | none => .error .missingSnapshot
      | some s => .ok ⟨leg.assetId,leg.quantityLots,resolveSide leg.side,.snapshot s⟩ := by
  unfold planInput snapshotForAsset runtimeLeg
  simp only
  cases snapshots.find? fun s => decide (s.entityId = leg.assetId) with
  | none => rfl
  | some s => rfl
theorem vectorLeg {snapshots : List MarketStateSnapshot} {all : List String} {leg : BundleLeg} {input}
    (made : priceVectorLeg snapshots leg = .ok input) :
    planInput (snapshotForAsset snapshots) (runtimeLeg all leg) = .ok input := by
  unfold priceVectorLeg at made
  obtain ⟨_,made⟩ := Machine.guardOk made
  obtain ⟨_,made⟩ := Machine.guardOk made
  obtain ⟨_,made⟩ := Machine.guardOk made
  rw [planLooked]
  cases found : snapshots.find? fun s => decide (s.entityId = leg.assetId) with
  | none =>
    rw [found] at made
    cases made
  | some s =>
    rw [found] at made
    exact made
theorem vectorDone {snapshots : List MarketStateSnapshot} {all : List String} {leg : BundleLeg} {work : LegWork}
    (named : leg.assetId ≠ "" ∧ leg.marketId ≠ "")
    (found : planInput (snapshotForAsset snapshots) (runtimeLeg all leg) = .ok work.input)
    (capable : Capable work) : priceVectorLeg snapshots leg = .ok work.input := by
  have ratio := capable.ratio
  have side := capable.side
  rw [planLooked] at found
  unfold priceVectorLeg
  cases looked : snapshots.find? fun s => decide (s.entityId = leg.assetId) with
  | none =>
    rw [looked] at found
    cases found
  | some s =>
    rw [looked] at found
    have same := Except.ok.inj found
    rw [← same] at ratio side ⊢
    simp only at ratio side
    rw [if_neg (not_or.mpr named),if_neg (by omega),side,if_neg (by decide)]
theorem vectorLegs {snapshots : List MarketStateSnapshot} {all : List String} {legs : List BundleLeg} {inputs}
    (made : legs.mapM (priceVectorLeg snapshots) = .ok inputs) :
    (legs.map (runtimeLeg all)).map (planInput (snapshotForAsset snapshots)) = inputs.map .ok := by
  induction legs generalizing inputs with
  | nil =>
    cases made
    rfl
  | cons leg rest ih =>
    rw [List.mapM_cons] at made
    obtain ⟨first,here,made⟩ := Machine.bindOk.mp made
    obtain ⟨later,others,made⟩ := Machine.bindOk.mp made
    cases made
    rw [List.map_cons,List.map_cons,List.map_cons,vectorLeg here,ih others]
theorem vectorsDone {snapshots : List MarketStateSnapshot} {all : List String} {legs : List BundleLeg}
    {works : List LegWork}
    (named : ∀ leg ∈ legs, leg.assetId ≠ "" ∧ leg.marketId ≠ "") (capable : ∀ work ∈ works, Capable work)
    (found : (legs.map (runtimeLeg all)).map (planInput (snapshotForAsset snapshots)) = works.map fun work =>
      .ok work.input) :
    ∃ inputs, legs.mapM (priceVectorLeg snapshots) = .ok inputs := by
  induction legs generalizing works with
  | nil => exact ⟨[],rfl⟩
  | cons leg rest ih =>
    cases works with
    | nil => cases found
    | cons work works =>
      obtain ⟨name,names⟩ := List.forall_mem_cons.mp named
      obtain ⟨here,others⟩ := List.forall_mem_cons.mp capable
      rw [List.map_cons,List.map_cons,List.map_cons] at found
      obtain ⟨first,later⟩ := List.cons.inj found
      obtain ⟨inputs,done⟩ := ih names others later
      refine ⟨work.input::inputs,?_⟩
      rw [List.mapM_cons,vectorDone name first here,done]
      rfl

-- What the price vector refuses, the plan cannot execute either.
theorem vectorRefused {snapshots : List MarketStateSnapshot} {all : List String} {legs : List BundleLeg} {reason}
    (named : ∀ leg ∈ legs, leg.assetId ≠ "" ∧ leg.marketId ≠ "")
    (refused : legs.mapM (priceVectorLeg snapshots) = .error reason) :
    (Machine.settled (priceInputs
      ((legs.map (runtimeLeg all)).map (planInput (snapshotForAsset snapshots))))).executable = false := by
  cases ran : (Machine.settled
    (priceInputs ((legs.map (runtimeLeg all)).map (planInput (snapshotForAsset snapshots))))).executable with
  | false => rfl
  | true =>
    obtain ⟨works,done⟩ := executed (executedSettled ran)
    obtain ⟨found,ok⟩ := vectorsDone named done.capable done.inputs
    rw [refused] at ok
    cases ok
theorem executedLegs {inputs : List LegInput}
    (ran : (Machine.settled (priceInputs (inputs.map .ok))).executable = true) :
    (Machine.settled (priceInputs (inputs.map .ok))).fixedLegs = [] ∧
      (Machine.settled (priceInputs (inputs.map .ok))).legs.length = inputs.length := by
  obtain ⟨works,done⟩ := executed (executedSettled ran)
  have count := congrArg List.length done.inputs
  rw [List.length_map,List.length_map] at count
  exact ⟨done.fixed,done.legs.length_eq.symm.trans count.symm⟩

/-! The paths. -/

-- What an executable result reports, worst prices and slippage only where W holds.
structure PricesAlike (W : Prop) (a b : CostResult) : Prop where
  qty : a.bundleQty = b.bundleQty
  cost : a.totalCostTick = b.totalCostTick
  average : a.avgCostTick = b.avgCostTick
  slippage : W → a.maxLegSlippageTick = b.maxLegSlippageTick
  legs : List.Forall₂ (LegAlike W) (costLegs a) (costLegs b)
def PathsAgree (W : Prop) (a b : CostResult) : Prop :=
  a.executable = b.executable ∧ (a.executable = true → PricesAlike W a b)

section
variable {bundle : CandidateBundle} {plan : BundleRuntimePlan} {all : List String}
  (planned : Planned bundle plan all)
  (short : bundle.legs.length ≤ kMaxIntentLegs)
include planned

theorem pathDepth {W : Prop} {snapshots : List MarketStateSnapshot} (regular : ∀ s ∈ snapshots, Regular s)
    (rising : W → ∀ s ∈ snapshots, Rising (s.asks.take kMaxSnapshotDepth)) :
    PathsAgree W (priceRuntimePlanSnapshots plan ⟨true,snapshots⟩)
      (priceRuntimePlanDepth plan ⟨true,depthViewsOf plan snapshots⟩) := by
  have alike := settledAlike (inputsAlike (foundSame planned regular rising))
  unfold priceRuntimePlanSnapshots priceRuntimePlanDepth pricePlan
  simp only
  split
  · exact ⟨rfl,fun ran => (by cases ran)⟩
  · refine ⟨alike.executable,fun _ => ⟨alike.qty,alike.cost,alike.average,alike.slippage,?_⟩⟩
    unfold costLegs
    simp only
    have legs := alike.legs
    have nil : (Machine.settled (priceInputs (plan.legs.map (planInput (snapshotForAsset snapshots))))).legs = [] ↔
        (Machine.settled (priceInputs
          (plan.legs.map (planInput (depthForAsset (depthViewsOf plan snapshots)))))).legs = [] := by
      rw [← List.length_eq_zero_iff,← List.length_eq_zero_iff,legs.length_eq]
    by_cases empty : (Machine.settled
      (priceInputs (plan.legs.map (planInput (snapshotForAsset snapshots))))).legs = []
    · rw [if_neg (not_not.mpr empty),if_neg (not_not.mpr (nil.mp empty))]
      exact .nil
    · rw [if_pos empty,if_pos (fun gone => empty (nil.mpr gone))]
      exact legs

include short

theorem pathBundle (named : ∀ leg ∈ bundle.legs, leg.assetId ≠ "" ∧ leg.marketId ≠ "")
    (snapshots : List MarketStateSnapshot) (W : Prop) :
    PathsAgree W (priceBundle bundle snapshots) (priceRuntimePlanSnapshots plan ⟨true,snapshots⟩) := by
  have legs : plan.legs = bundle.legs.map (runtimeLeg all) := by
    rw [planned.legs.made,List.take_of_length_le short]
  have length : plan.legs.length = bundle.legs.length := by rw [legs,List.length_map]
  unfold priceRuntimePlanSnapshots pricePlan priceBundle priceVector
  rw [length]
  by_cases shape : bundle.legs.length = 0 ∨ kMaxIntentLegs < bundle.legs.length
  · rw [if_pos shape,if_pos (.inr (by tauto))]
    exact ⟨rfl,fun ran => (by cases ran)⟩
  have whole : ¬ (plan.bundle = none ∨ bundle.legs.length = 0 ∨ kMaxIntentLegs < bundle.legs.length ∨
    true = false) := by
    rw [planned.bundle]
    rintro (gone | none | many | off)
    · cases gone
    · exact shape (.inl none)
    · exact shape (.inr many)
    · cases off
  rw [if_neg shape,if_neg whole]
  simp only
  cases vector : bundle.legs.mapM (priceVectorLeg snapshots) with
  | error reason =>
    simp only
    have idle := @vectorRefused _ all _ _ named vector
    rw [← legs] at idle
    exact ⟨idle.symm,fun ran => (by cases ran)⟩
  | ok inputs =>
    have same := @vectorLegs _ all _ _ vector
    have count := congrArg List.length same
    rw [List.length_map,List.length_map,List.length_map] at count
    simp only
    rw [legs,same]
    refine ⟨rfl,fun ran => ⟨rfl,rfl,rfl,fun _ => rfl,?_⟩⟩
    obtain ⟨fixed,counted⟩ := executedLegs ran
    rw [← count] at counted
    have whole : (Machine.settled (priceInputs (inputs.map .ok))).legs ≠ [] := by
      intro none
      rw [none] at counted
      exact shape (.inl counted.symm)
    unfold costLegs
    rw [if_neg (not_not.mpr fixed),List.take_of_length_le (counted ▸ short),if_pos whole]
    exact List.forall₂_same.mpr fun leg _ => legRefl leg

end

/-- Whatever the loaded bundles: where their legs name a market and an asset, the bundle and the snapshot batch are
priced alike on any books, worst prices and slippage included. Where the books also say that they have asks and hold
no more lots than fit, the depth views execute the same bundles for the same quantity and cost, leg by leg; on books
whose prices do not fall the worst prices and the slippage are the same too. -/
theorem pricingPathsAgree (bundles : List CandidateBundle) (loaded : validateBundles bundles = true)
    (artifactHash constraintHash : UInt64)
    (plan : BundleRuntimePlan) (made : plan ∈ buildRuntimePlans bundles artifactHash constraintHash)
    (bundle : CandidateBundle)
    (own : plan.bundle = some bundle) (named : ∀ leg ∈ bundle.legs, leg.assetId ≠ "" ∧ leg.marketId ≠ "")
    (snapshots : List MarketStateSnapshot) :
    PathsAgree True (priceBundle bundle snapshots) (priceRuntimePlanSnapshots plan ⟨true,snapshots⟩) ∧
    ((∀ s ∈ snapshots, Regular s) →
      PathsAgree (∀ s ∈ snapshots, Rising (s.asks.take kMaxSnapshotDepth))
        (priceRuntimePlanSnapshots plan ⟨true,snapshots⟩)
        (priceRuntimePlanDepth plan ⟨true,depthViewsOf plan snapshots⟩)) := by
  obtain ⟨source,inside,all,planned⟩ := plansPlanned made
  cases Option.some.inj (planned.bundle.symm.trans own)
  have short : bundle.legs.length ≤ kMaxIntentLegs := by
    unfold validateBundles at loaded
    rw [Bool.and_eq_true,List.all_eq_true] at loaded
    exact of_decide_eq_true (loaded.1 bundle inside)
  exact ⟨pathBundle planned short named snapshots True,fun regular => pathDepth planned regular id⟩

def soldAsset (marketId assetId : String) (quantityLots : Int) : CandidateBundle :=
  {bundleId := 1, guaranteedPayoutTick := 100, legs := [{marketId, assetId, quantityLots}]}
def bookOf (assetId : String) (hasAsk : Bool) (asks : List PriceLevel) : List MarketStateSnapshot :=
  [{entityId := assetId, hasAsk, asks}]
def fiveAt (priceTick : Int) : PriceLevel := ⟨priceTick,⟨0x4014000000000000⟩⟩
def planOf (bundle : CandidateBundle) : BundleRuntimePlan := (buildRuntimePlans [bundle] 0 0).headD {}
def onBatch (bundle : CandidateBundle) (snapshots : List MarketStateSnapshot) : CostResult :=
  priceRuntimePlanSnapshots (planOf bundle) ⟨true,snapshots⟩
def onDepth (bundle : CandidateBundle) (snapshots : List MarketStateSnapshot) : CostResult :=
  priceRuntimePlanDepth (planOf bundle) ⟨true,depthViewsOf (planOf bundle) snapshots⟩

theorem pairPathsAgree : (priceBundle (soldAsset "vote" "yes" 2)
    (bookOf "yes" true [fiveAt 30,fiveAt 40])).executable = true ∧
    PathsAgree True
      (priceBundle (soldAsset "vote" "yes" 2) (bookOf "yes" true [fiveAt 30,fiveAt 40]))
      (onBatch (soldAsset "vote" "yes" 2) (bookOf "yes" true [fiveAt 30,fiveAt 40])) ∧
    PathsAgree (∀ s ∈ bookOf "yes" true [fiveAt 30,fiveAt 40], Rising (s.asks.take kMaxSnapshotDepth))
      (onBatch (soldAsset "vote" "yes" 2) (bookOf "yes" true [fiveAt 30,fiveAt 40]))
      (onDepth (soldAsset "vote" "yes" 2) (bookOf "yes" true [fiveAt 30,fiveAt 40])) := by
  have regular : ∀ s ∈ bookOf "yes" true [fiveAt 30,fiveAt 40], Regular s :=
    List.forall_mem_singleton.mpr ⟨fun _ => rfl,by decide +kernel⟩
  obtain ⟨batch,depth⟩ := pricingPathsAgree [soldAsset "vote" "yes" 2] (by decide +kernel) 0 0
    (planOf (soldAsset "vote" "yes" 2)) List.mem_cons_self (soldAsset "vote" "yes" 2) rfl (by decide)
    (bookOf "yes" true [fiveAt 30,fiveAt 40])
  exact ⟨by decide +kernel,batch,depth regular⟩

-- A leg without a market, a leg without an asset, a book that denies its asks, more lots than fit, and prices
-- that fall.
def vast : PriceLevel := ⟨1,⟨0x43e0000000000000⟩⟩
def worsts (cost : CostResult) : List Int := (costLegs cost).map FillSimulationLeg.worstPriceTick
theorem pathsDisagree :
    ((priceBundle (soldAsset "" "yes" 1) (bookOf "yes" true [fiveAt 30])).executable = false ∧
      (onBatch (soldAsset "" "yes" 1) (bookOf "yes" true [fiveAt 30])).executable = true) ∧
    ((priceBundle (soldAsset "vote" "" 1) (bookOf "" true [fiveAt 30])).executable = false ∧
      (onBatch (soldAsset "vote" "" 1) (bookOf "" true [fiveAt 30])).executable = true) ∧
    ((onBatch (soldAsset "vote" "yes" 1) (bookOf "yes" false [fiveAt 30])).executable = false ∧
      (onDepth (soldAsset "vote" "yes" 1) (bookOf "yes" false [fiveAt 30])).executable = true) ∧
    ((onBatch (soldAsset "vote" "yes" 2) (bookOf "yes" true [vast,vast])).executable = false ∧
      (onDepth (soldAsset "vote" "yes" 2) (bookOf "yes" true [vast,vast])).executable = true) ∧
    worsts (onBatch (soldAsset "vote" "yes" 10) (bookOf "yes" true [fiveAt 50,fiveAt 30])) = [50] ∧
    worsts (onDepth (soldAsset "vote" "yes" 10) (bookOf "yes" true [fiveAt 50,fiveAt 30])) = [30] := by
  decide +kernel

end Polytope.PricingPaths
