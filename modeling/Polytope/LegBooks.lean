import Polytope.DecisionSoundness
import Polytope.FixedShapeDomination
import Polytope.CacheTransparency

/-! The book a leg is priced from. Both lookups take the view at the leg's position where no view carries the
leg's asset index, so a missing view is made up for by the book of another asset. -/
namespace Polytope.LegBooks
open ListRelation FixedPointMath MarketDepth SizeCandidates BundleSizing AskSweep SizingState SizingWalk
  SizeOptimizer DecisionSoundness
open FixedShapeDomination CacheTransparency OrderDecisionEngine
open Intent (OrderDecisionType OrderDecisionLite OrderDecisionLegLite IntentLeg kMaxOrderDecisionLegs)
open CombinatorialBundles (BundleLeg)

def lookup : OrderDecisionImplMode → List MarketDepthView → Nat → Nat → Option MarketDepthView
  | .generic => findDepthView
  | .fastFixedShape => findFixedShapeDepth
def intentIndex (call : DecideCall) (index : Nat) : Option Nat := call.intent.legs[index]?.map IntentLeg.assetIndex
def legIndices (call : DecideCall) : List (Option Nat) :=
  call.bundle.legs.zipIdx.map fun leg => intentIndex call leg.2

-- The cost of the leg is that of its lots in the asks of the view, swept or read off the prefix.
def PricedOn (view : MarketDepthView) (out : OrderDecisionLegLite) : Prop :=
  out.assetIndex = view.assetIndex ∧ (out.estimatedCostTick = sweep (askSteps view.asks) out.quantityLots ∨
    (buyVwap view out.quantityLots).ok = true ∧
    out.estimatedCostTick = (buyVwap view out.quantityLots).totalCostTick)
def Own (views : List MarketDepthView) (named : Option Nat) (out : OrderDecisionLegLite) : Prop :=
  ∃ index ∈ named, out.assetIndex = index ∧ ∃ view ∈ views, view.assetIndex = index ∧ PricedOn view out
def OwnBooks (views : List MarketDepthView) (call : DecideCall) (decision : OrderDecisionLite) : Prop :=
  List.Forall₂ (Own views) (legIndices call) decision.legs

-- Every leg of the bundle is named by the intent, and what the lookup finds for it is its own view.
def Named (mode : OrderDecisionImplMode) (call : DecideCall) : Prop :=
  ∀ leg ∈ call.bundle.legs.zipIdx, ∃ index ∈ intentIndex call leg.2,
    ∀ view ∈ lookup mode call.depthViews index leg.2, view.assetIndex = index
instance (mode call) : Decidable (Named mode call) := by unfold Named; infer_instance
-- Calls whose answers or specs are stored under one key ask for the same assets.
def Agreeing (config : OrderDecisionConfig) (log : List Answered) (call : DecideCall) : Prop :=
  ∀ entry ∈ log, (makeDecisionMemoKey config entry.1 = makeDecisionMemoKey config call →
    legIndices entry.1 = legIndices call) ∧
    (config.implMode = .fastFixedShape → specCacheKey entry.1 = specCacheKey call →
      (buildSpec entry.1).legs.map SpecLeg.assetIndex = (buildSpec call).legs.map SpecLeg.assetIndex)
instance (config log call) : Decidable (Agreeing config log call) := by unfold Agreeing; infer_instance

theorem lookupMem {mode views assetIndex index view} (found : lookup mode views assetIndex index = some view) :
    view ∈ views := by
  cases mode with
  | generic => exact viewMem found
  | fastFixedShape =>
    change findFixedShapeDepth views assetIndex index = some view at found
    unfold findFixedShapeDepth at found
    split at found
    · exact viewMem found
    · exact List.mem_of_getElem? found
theorem ownMore {views more : List MarketDepthView} (subset : views ⊆ more) {call decision}
    (own : OwnBooks views call decision) :
    OwnBooks more call decision :=
  List.Forall₂.imp (fun _ _ ⟨index,named,asset,view,mem,same,priced⟩ =>
    ⟨index,named,asset,view,subset mem,same,priced⟩) own

/-! What a lookup found, the leg is priced on. -/

def Found (mode : OrderDecisionImplMode) (call : DecideCall) (outs : List OrderDecisionLegLite) : Prop :=
  List.Forall₂ (fun leg out =>
    ∃ view, lookup mode call.depthViews ((intentIndex call leg.2).getD 0) leg.2 = some view ∧ PricedOn view out)
    call.bundle.legs.zipIdx outs

section
variable {mode : OrderDecisionImplMode} {config : OrderDecisionConfig} {call : DecideCall}
  {cache : OrderDecisionCache}

theorem foundOwn {outs : List OrderDecisionLegLite} (found : Found mode call outs) (named : Named mode call) :
    List.Forall₂ (Own call.depthViews) (legIndices call) outs := by
  unfold Found at found
  unfold Named at named
  unfold legIndices
  rw [List.forall₂_map_left_iff]
  generalize call.bundle.legs.zipIdx = pairs at found named
  induction found with
  | nil => exact .nil
  | cons here later ih =>
    obtain ⟨⟨index,own,same⟩,others⟩ := List.forall_mem_cons.mp named
    obtain ⟨view,looked,priced⟩ := here
    have given : intentIndex call _ = some index := own
    rw [given,Option.getD_some] at looked
    have asset := same view looked
    exact .cons ⟨index,own,priced.1.trans asset,view,lookupMem looked,asset,priced⟩ (ih others)
theorem foundNamed {outs : List OrderDecisionLegLite} (found : Found mode call outs)
    (own : List.Forall₂ (Own call.depthViews) (legIndices call) outs) : Named mode call := by
  unfold Found at found
  unfold Named
  unfold legIndices at own
  rw [List.forall₂_map_left_iff] at own
  generalize call.bundle.legs.zipIdx = pairs at found own
  induction found with
  | nil => exact fun leg mem => (by cases mem)
  | cons here later ih =>
    obtain _ | ⟨⟨index,named,asset,_⟩,others⟩ := own
    refine List.forall_mem_cons.mpr ⟨⟨index,named,fun view looked => ?_⟩,ih others⟩
    obtain ⟨found,same,priced⟩ := here
    have given : intentIndex call _ = some index := named
    rw [given,Option.getD_some] at same
    cases same.symm.trans looked
    exact priced.1.symm.trans asset

-- The fixed shape is the pickier of the two.
theorem namedGeneric (named : Named .fastFixedShape call) : Named .generic call := by
  intro leg mem
  obtain ⟨index,given,own⟩ := named leg mem
  refine ⟨index,given,fun view looked => ?_⟩
  change findDepthView call.depthViews index leg.2 = some view at looked
  have fast : ∀ view, findFixedShapeDepth call.depthViews index leg.2 = some view → view.assetIndex = index := own
  unfold findFixedShapeDepth at fast
  by_cases zero : index = 0
  · rw [if_neg (not_ne_iff.mpr zero)] at fast
    unfold findDepthView at looked
    split at looked
    · next found =>
      cases looked
      exact eq_of_beq (List.find?_some (p := fun view : MarketDepthView => view.assetIndex == index) found)
    · exact fast view looked
  · rw [if_pos zero] at fast
    exact fast view looked

theorem genericFound (valid : validate call = none)
    (miss : cache.decisions (makeDecisionMemoKey config call) = none)
    (ok : (genericDecide config cache call).2.ok = true) :
    Found .generic call (genericDecide config cache call).2.decision.legs := by
  unfold genericDecide at ok ⊢
  simp only [valid,miss] at ok ⊢
  unfold genericCompute at ok ⊢
  split at ok
  · cases ok
  next size optimized =>
  unfold settle at ok ⊢
  split at ok
  · cases ok
  next decision built =>
  obtain ⟨legs,candidates,found,sized⟩ := optimizeSized optimized
  obtain ⟨_,prepared⟩ := legsForExact.mp found
  have curved := preparedCurved prepared
  obtain ⟨best,state,chosen,rfl⟩ := sizeChosen curved sized
  obtain ⟨outs,limited,built⟩ := Machine.bindOk.mp built
  have least := chosen.priced.least
  have one := leastPositive config
  simp only at least
  have some : 0 < best.bundleQty := by omega
  obtain ⟨sound,_⟩ := soundLegs some prepared chosen.state.filled chosen.priced.deep limited
  cases built
  exact List.Forall₂.imp (fun leg out ⟨view,sound⟩ => ⟨view,sound.found,sound.assetIndex,.inl sound.cost⟩) sound

theorem fastFound {views : List MarketDepthView} {index : Nat} {legs : List SpecLeg} {outs}
    (same : call.depthViews = views)
    (made : fixedShapeLegs call index legs = .ok outs) :
    List.Forall₂ (fun leg (out : FixedShapeLeg) => findFixedShapeDepth views leg.1 leg.2 = some out.depth)
      ((legs.map SpecLeg.assetIndex).zipIdx index) outs := by
  subst same
  induction legs generalizing index outs with
  | nil =>
    cases made
    exact .nil
  | cons leg rest ih =>
    rw [fixedShapeLegs] at made
    obtain ⟨first,here,made⟩ := Machine.bindOk.mp made
    obtain ⟨later,others,made⟩ := Machine.bindOk.mp made
    cases made
    rw [List.map_cons,List.zipIdx_cons]
    refine .cons ?_ (ih others)
    unfold fixedShapeLeg at here
    obtain ⟨_,here⟩ := Machine.guardOk here
    split at here
    · cases here
    next depth found =>
    obtain ⟨_,here⟩ := Machine.guardOk here
    obtain ⟨_,here⟩ := Machine.guardOk here
    cases here
    exact found
theorem fastPriced {m q total : Int} {fast : List FixedShapeLeg} {out}
    (priced : priceLegs m q fast total = .ok out) :
    List.Forall₂ (fun leg out => PricedOn leg.depth out) fast out.1 := by
  induction fast generalizing total out with
  | nil =>
    cases priced
    exact .nil
  | cons leg rest ih =>
    unfold priceLegs at priced
    split at priced
    · cases priced
    next legQty lots =>
    obtain ⟨_,priced⟩ := Machine.guardOk priced
    simp only at priced
    split at priced
    · cases priced
    next sum added =>
    obtain ⟨⟨outs,last⟩,later,priced⟩ := Machine.bindOk.mp priced
    cases priced
    refine .cons ⟨rfl,.inr ⟨?_,rfl⟩⟩ (ih later)
    split at added
    · next ok => exact ok
    · cases added
theorem limitedPriced {legs : List BundleLeg} {outs done} (limited : limitLegs config legs outs = .ok done) :
    List.Forall₂ (fun out after => ∀ view, PricedOn view out → PricedOn view after) outs done := by
  induction outs generalizing legs done with
  | nil =>
    rw [limitLegs] at limited
    cases limited
    exact .nil
  | cons out rest ih =>
    rw [limitLegs] at limited
    obtain ⟨limit,_,limited⟩ := Machine.bindOk.mp limited
    obtain ⟨later,others,limited⟩ := Machine.bindOk.mp limited
    cases limited
    exact .cons (fun view priced => priced) (ih others)
theorem zipIdxMap {α β : Type} (f : α × Nat → β) (xs : List α) (index : Nat) :
    ((xs.zipIdx index).map f).zipIdx index = (xs.zipIdx index).map fun x => (f x,x.2) := by
  induction xs generalizing index with
  | nil => rfl
  | cons x rest ih => rw [List.zipIdx_cons,List.map_cons,List.zipIdx_cons,List.map_cons,ih]
theorem specIndices (valid : validate call = none) :
    (buildSpec call).legs.map SpecLeg.assetIndex = call.bundle.legs.zipIdx.map fun leg =>
    (intentIndex call leg.2).getD 0 := by
  rw [specLegs (validShape valid).2,List.map_map]
  rfl

theorem fixedShapeFound (valid : validate call = none)
    (miss : cache.decisions (makeDecisionMemoKey config call) = none)
    (specs : (fixedShapeSpec cache call).2.legs.map SpecLeg.assetIndex =
      (buildSpec call).legs.map SpecLeg.assetIndex)
    (ok : (fixedShapeDecide config cache call).2.ok = true) :
    Found .fastFixedShape call (fixedShapeDecide config cache call).2.decision.legs := by
  unfold fixedShapeDecide at ok ⊢
  simp only [valid,miss] at ok ⊢
  unfold fixedShapeCompute at ok ⊢
  split at ok
  · cases ok
  next size sized =>
  unfold settle at ok ⊢
  split at ok
  · cases ok
  next decision built =>
  obtain ⟨fast,shaped⟩ := fixedShaped sized
  obtain ⟨outs,legCost,cost,priced,_,_,made⟩ := shaped.priced
  obtain ⟨_,_,_,same,_⟩ := edgeSame made
  obtain ⟨done,limited,built⟩ := Machine.bindOk.mp built
  rw [same] at limited
  cases built
  have looked := fastFound rfl shaped.legs
  rw [specs,specIndices valid,zipIdxMap,List.forall₂_map_left_iff] at looked
  exact List.Forall₂.imp (fun leg out ⟨view,found,before,pricedBefore,keeps⟩ =>
    ⟨view.depth,found,keeps _ pricedBefore⟩)
    (forallTrans looked (forallTrans (fastPriced priced) (limitedPriced limited)))

theorem engineOwn (valid : validate call = none) (miss : cache.decisions (makeDecisionMemoKey config call) = none)
    (specs : config.implMode = .fastFixedShape →
      (fixedShapeSpec cache call).2.legs.map SpecLeg.assetIndex = (buildSpec call).legs.map SpecLeg.assetIndex)
    (named : Named config.implMode call) (ok : (engineDecide config cache call).2.ok = true) :
    OwnBooks call.depthViews call (engineDecide config cache call).2.decision := by
  unfold engineDecide at ok ⊢
  by_cases mode : config.implMode = .fastFixedShape
  · rw [mode] at named
    simp only [if_pos mode] at ok ⊢
    by_cases done : (fixedShapeDecide config cache call).2.ok = true ∨
      config.fastFixedShapeFallbackToGeneric = false
    · rw [if_pos done] at ok ⊢
      exact foundOwn (fixedShapeFound valid miss (specs mode) ok) named
    · rw [if_neg done] at ok ⊢
      rw [not_or,Bool.not_eq_true] at done
      exact foundOwn (genericFound valid ((congrFun (fixedShapeRefused done.1).1 _).trans miss) ok)
        (namedGeneric named)
  · have generic : config.implMode = .generic := by
      cases shape : config.implMode with
      | generic => rfl
      | fastFixedShape => exact absurd shape mode
    rw [generic] at named
    simp only [if_neg mode] at ok ⊢
    exact foundOwn (genericFound valid miss ok) named
-- With one implementation at work, an accepted call is priced on its own books exactly when its legs are named.
theorem engineNamed (alone : config.implMode = .generic ∨ config.fastFixedShapeFallbackToGeneric = false)
    (ok : (engineDecide config {} call).2.ok = true)
    (own : OwnBooks call.depthViews call (engineDecide config {} call).2.decision) :
    Named config.implMode call := by
  have valid : validate call = none := by
    cases found : validate call with
    | none => rfl
    | some refused =>
      rw [refusedAnswer found,validateRefuses found] at ok
      cases ok
  unfold engineDecide at ok own
  cases mode : config.implMode with
  | generic =>
    rw [if_neg (by rw [mode]; exact OrderDecisionImplMode.noConfusion)] at ok own
    exact foundNamed (genericFound valid rfl ok) own
  | fastFixedShape =>
    have last : config.fastFixedShapeFallbackToGeneric = false :=
      alone.resolve_left (by rw [mode]; exact OrderDecisionImplMode.noConfusion)
    simp only [if_pos mode,if_pos (Or.inr last : (fixedShapeDecide config {} call).2.ok = true ∨ _)] at ok own
    exact foundNamed (fixedShapeFound valid rfl rfl ok) own

/-! Runs. -/

def seen (log : List Answered) : List MarketDepthView := log.flatMap fun entry => entry.1.depthViews
-- What the cache holds was decided on own books, or says what a logged call asks for.
structure Kept (config : OrderDecisionConfig) (cache : OrderDecisionCache) (log : List Answered) : Prop where
  decisions : ∀ key decision, cache.decisions key = some decision →
    ∃ entry ∈ log, makeDecisionMemoKey config entry.1 = key ∧ OwnBooks (seen log) entry.1 decision
  specs : ∀ key spec, cache.specs key = some spec →
    ∃ entry ∈ log, specCacheKey entry.1 = key ∧ buildSpec entry.1 = spec
theorem keptEmpty (config) : Kept config {} [] := ⟨fun _ _ none => (nomatch none),fun _ _ none => (nomatch none)⟩

variable {log : List Answered}

theorem stepOwn (kept : Kept config cache log) (named : Named config.implMode call)
    (agreeing : Agreeing config log call)
    (ok : (engineDecide config cache call).2.ok = true) :
    OwnBooks (seen log ++ call.depthViews) call (engineDecide config cache call).2.decision := by
  cases valid : validate call with
  | some refused =>
    rw [refusedAnswer valid,validateRefuses valid] at ok
    cases ok
  | none =>
    cases hit : cache.decisions (makeDecisionMemoKey config call) with
    | some decision =>
      obtain ⟨entry,inside,key,own⟩ := kept.decisions _ _ hit
      have same := (agreeing entry inside).1 key
      rw [memoAnswer valid hit]
      unfold OwnBooks at own ⊢
      rw [← same]
      exact ownMore (List.subset_append_left _ _) own
    | none =>
      have specs : config.implMode = .fastFixedShape →
          (fixedShapeSpec cache call).2.legs.map SpecLeg.assetIndex =
          (buildSpec call).legs.map SpecLeg.assetIndex := by
        intro mode
        unfold fixedShapeSpec
        split
        · next spec stored =>
          obtain ⟨entry,inside,key,built⟩ := kept.specs _ _ stored
          rw [← built]
          exact (agreeing entry inside).2 mode key
        · rfl
      exact ownMore (List.subset_append_right _ _) (engineOwn valid hit specs named ok)
theorem stepKept (kept : Kept config cache log) (named : Named config.implMode call)
    (agreeing : Agreeing config log call) :
    Kept config (engineDecide config cache call).1 (log ++ [(call,(engineDecide config cache call).2)]) := by
  have adds := engineAdds config call cache
  have views : seen (log ++ [(call,(engineDecide config cache call).2)]) = seen log ++ call.depthViews := by
    unfold seen
    rw [List.flatMap_append,List.flatMap_singleton]
  have old {entry} (inside : entry ∈ log) : entry ∈ log ++ [(call,(engineDecide config cache call).2)] :=
    List.mem_append_left _ inside
  have new : (call,(engineDecide config cache call).2) ∈ log ++ [(call,(engineDecide config cache call).2)] :=
    List.mem_append_right _ List.mem_cons_self
  constructor
  · intro key decision found
    rcases adds.decisions key decision found with before | ⟨same,taken⟩
    · obtain ⟨entry,inside,source,own⟩ := kept.decisions key decision before
      exact ⟨entry,old inside,source,ownMore (views ▸ List.subset_append_left _ _) own⟩
    · have own := stepOwn kept named agreeing (by rw [taken]; rfl)
      rw [taken] at own
      exact ⟨_,new,same.symm,views ▸ own⟩
  · intro key spec found
    rcases adds.specs key spec found with before | ⟨_,same,built⟩
    · obtain ⟨entry,inside,source⟩ := kept.specs key spec before
      exact ⟨entry,old inside,source⟩
    · exact ⟨_,new,same.symm,built.symm⟩

end

theorem ownBooksAlong (config : OrderDecisionConfig) :
    (∀ calls, Machine.Along (engineDecide config)
      (fun _ log call => Named config.implMode call ∧ Agreeing config log call) {} [] calls →
      Machine.Along (engineDecide config) (fun cache log call => (engineDecide config cache call).2.ok = true →
        OwnBooks (seen log ++ call.depthViews) call (engineDecide config cache call).2.decision) {} [] calls) ∧
    (config.implMode = .generic ∨ config.fastFixedShapeFallbackToGeneric = false →
      ∀ call, (engineDecide config {} call).2.ok = true →
        (OwnBooks call.depthViews call (engineDecide config {} call).2.decision ↔
          Named config.implMode call)) := by
  refine ⟨fun calls along => ?_,fun alone call ok => ⟨engineNamed alone ok,fun named => ?_⟩⟩
  · exact Machine.alongImp (P := Kept config) (fun _ _ _ kept step => stepKept kept step.1 step.2)
      (fun _ _ _ kept step => stepOwn kept step.1 step.2) (keptEmpty config) along
  · exact stepOwn (keptEmpty config) named (fun entry none => (nomatch none)) ok

-- The same bundle twice on complete views in another order: the second answer comes from the memo.
theorem repeatedLegsOwn :
    Machine.Along (engineDecide {}) (fun cache log call => (engineDecide {} cache call).2.ok = true →
      OwnBooks (seen log ++ call.depthViews) call (engineDecide {} cache call).2.decision) {} []
        [twoLegs,twoLegs] ∧
    (OwnBooks twoLegs.depthViews twoLegs (engineDecide {} {} twoLegs).2.decision ↔ Named .generic twoLegs) ∧
    (Machine.run (engineDecide {}) {} [] [twoLegs,twoLegs]).2.all (fun entry => entry.2.ok) = true :=
  ⟨(ownBooksAlong {}).1 [twoLegs,twoLegs] (by decide +kernel),(ownBooksAlong {}).2 (.inl rfl) twoLegs
    (by decide +kernel),by decide +kernel⟩

-- The view of asset 4 is missing, and that of asset 9 stands at its leg's position.
def strayed : DecideCall :=
  { twoLegs with
    depthViews := [book 9 20 21 0x4024000000000000,book 3 40 41 0x4014000000000000]
    policy := {minDepthMarginBps := 10000} }
theorem strayedNotOwn :
    ((engineDecide {} {} strayed).2.ok = true ∧ legIndices strayed = [some 4,some 9] ∧
      (engineDecide {} {} strayed).2.decision.legs.map OrderDecisionLegLite.assetIndex = [9,9] ∧
      ¬ OwnBooks strayed.depthViews strayed (engineDecide {} {} strayed).2.decision) ∧
    (engineDecide {implMode := .fastFixedShape, fastFixedShapeFallbackToGeneric := false} {} strayed).2.ok = true ∧
      ¬ OwnBooks strayed.depthViews strayed
        (engineDecide {implMode := .fastFixedShape, fastFixedShapeFallbackToGeneric := false}
          {} strayed).2.decision := by
  have generic : (engineDecide {} {} strayed).2.ok = true := by decide +kernel
  have fast : (engineDecide {implMode := .fastFixedShape, fastFixedShapeFallbackToGeneric := false} {}
      strayed).2.ok = true := by decide +kernel
  refine ⟨⟨generic,by decide,by decide +kernel,fun own => ?_⟩,fast,fun own => ?_⟩
  · exact absurd (engineNamed (.inl rfl) generic own) (by decide +kernel)
  · exact absurd (engineNamed (.inr rfl) fast own) (by decide +kernel)

end Polytope.LegBooks
