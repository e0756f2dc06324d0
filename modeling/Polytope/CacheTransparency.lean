import Polytope.OrderDecisionEngine
import Polytope.Machine

/-! What a cache kept between decide calls may change. Three stores can answer for another
call: the decision memo, whose key holds no depth, no bundle contents and only the declared
hash of a policy; the candidate sets, which were cut by the depth margin of the call that
stored them; and the fixed-shape specs, whose key leaves out the payout. -/
namespace Polytope.CacheTransparency
open SizeCandidates BundleSizing OrderDecisionEngine

abbrev Answered := DecideCall × OrderDecisionResult
def fresh (config : OrderDecisionConfig) (call : DecideCall) : OrderDecisionResult :=
  (engineDecide config {} call).2

-- The signatures of an earlier call and of this one collide only on equal breakpoints.
def NoCollision (log : List Answered) (call : DecideCall) : Prop :=
  ∀ entry ∈ log, ∀ old ∈ (legsFor entry.1).toOption, ∀ legs ∈ (legsFor call).toOption,
    depthBreakpointSignature (old.map legBreakpoints) = depthBreakpointSignature (legs.map legBreakpoints) →
    old.map legBreakpoints = legs.map legBreakpoints
instance (log call) : Decidable (NoCollision log call) := by unfold NoCollision; infer_instance

def CacheCovered (config : OrderDecisionConfig) (cache : OrderDecisionCache) (log : List Answered)
    (call : DecideCall) :
    Prop :=
  (∀ entry ∈ log, entry.2.ok = true → makeDecisionMemoKey config entry.1 = makeDecisionMemoKey config call →
    entry.1 = call) ∧
  (∀ legs ∈ (legsFor call).toOption, ∀ stored ∈ cache.candidateSets (makeCandidateSetKey config call legs),
    (streamed config call legs (candidatesFor config legs)).length ≤ stored.length) ∧
  (config.implMode = .fastFixedShape → ∀ entry ∈ log, validate entry.1 = none →
    specCacheKey entry.1 = specCacheKey call → buildSpec entry.1 = buildSpec call)
instance (config cache log call) : Decidable (CacheCovered config cache log call) := by
  unfold CacheCovered; infer_instance

/-! What one call may add to the cache. -/

structure Adds (config : OrderDecisionConfig) (call : DecideCall) (result : OrderDecisionResult)
    (cache next : OrderDecisionCache) : Prop where
  decisions : ∀ key decision, next.decisions key = some decision → cache.decisions key = some decision ∨
    (key = makeDecisionMemoKey config call ∧ result = accept decision)
  candidateSets : ∀ key stored, next.candidateSets key = some stored → cache.candidateSets key = some stored ∨
    (stored ≠ [] ∧ ∃ legs, legsFor call = .ok legs ∧ key = makeCandidateSetKey config call legs ∧
      ∃ count, stored = (candidatesFor config legs).take count)
  specs : ∀ key spec, next.specs key = some spec → cache.specs key = some spec ∨
    (validate call = none ∧ key = specCacheKey call ∧ spec = buildSpec call)

variable {config : OrderDecisionConfig} {call : DecideCall}

theorem addsNothing {cache result} : Adds config call result cache cache :=
  ⟨fun _ _ => .inl,fun _ _ => .inl,fun _ _ => .inl⟩

theorem addsThen {cache middle next result} (first : OrderDecisionResult) (refused : first.ok = false)
    (early : Adds config call first cache middle) (late : Adds config call result middle next) :
    Adds config call result cache next := by
  constructor
  · intro key decision found
    rcases late.decisions key decision found with old | new
    · rcases early.decisions key decision old with older | ⟨_,taken⟩
      · exact .inl older
      · rw [taken] at refused
        cases refused
    · exact .inr new
  · intro key stored found
    rcases late.candidateSets key stored found with old | new
    · exact early.candidateSets key stored old
    · exact .inr new
  · intro key spec found
    rcases late.specs key spec found with old | new
    · exact early.specs key spec old
    · exact .inr new

theorem updateFound {α β : Type} [DecidableEq α] {map : α → Option β} {key at' : α} {value found : β}
    (h : Function.update map key (some value) at' = some found) :
    map at' = some found ∨ (at' = key ∧ found = value) := by
  by_cases same : at' = key
  · subst same
    rw [Function.update_self] at h
    exact .inr ⟨rfl,(Option.some.inj h).symm⟩
  · rw [Function.update_of_ne same] at h
    exact .inl h

theorem storeDecisionAdds {cache decision} :
    Adds config call (accept decision) cache (cache.storeDecision (makeDecisionMemoKey config call) decision) := by
  refine ⟨?_,fun _ _ => .inl,fun _ _ => .inl⟩
  intro key found h
  rcases updateFound h with old | ⟨same,new⟩
  · exact .inl old
  · exact .inr ⟨same,by rw [new]⟩

theorem optimizeAdds (result : OrderDecisionResult) (cache) :
    Adds config call result cache (optimize config cache call).1 := by
  unfold optimize
  cases prepared : legsFor call with
  | error reason => exact addsNothing
  | ok legs =>
    simp only
    cases hit : cache.candidateSets (makeCandidateSetKey config call legs) with
    | some stored => exact addsNothing
    | none =>
      simp only
      split
      · exact addsNothing
      · next some =>
        refine ⟨fun _ _ => .inl,?_,fun _ _ => .inl⟩
        intro key stored h
        rcases updateFound h with old | ⟨same,new⟩
        · exact .inl old
        · refine .inr ⟨by rw [new]; exact some,legs,prepared,same,?_⟩
          rw [new,streamed,visitedTake,List.take_take]
          exact ⟨_,rfl⟩

theorem settleAdds {cache middle size hash} (early : ∀ result, Adds config call result cache middle) :
    Adds config call (settle config middle call size hash).2 cache (settle config middle call size hash).1 := by
  unfold settle
  cases buildDecision config call size hash with
  | error reason => exact early _
  | ok decision => exact addsThen (reject .noTrade "") rfl (early _) storeDecisionAdds

theorem genericAdds (cache) :
    Adds config call (genericDecide config cache call).2 cache (genericDecide config cache call).1 := by
  unfold genericDecide
  cases validate call with
  | some refused => exact addsNothing
  | none =>
    simp only
    cases cache.decisions (makeDecisionMemoKey config call) with
    | some memo => exact addsNothing
    | none =>
      simp only [genericCompute]
      cases sized : (optimize config cache call).2 with
      | error reason => exact optimizeAdds _ cache
      | ok size => exact settleAdds fun result => optimizeAdds result cache

theorem specAdds (result : OrderDecisionResult) (valid : validate call = none) (cache) :
    Adds config call result cache (fixedShapeSpec cache call).1 := by
  unfold fixedShapeSpec
  cases cache.specs (specCacheKey call) with
  | some spec => exact addsNothing
  | none =>
    refine ⟨fun _ _ => .inl,fun _ _ => .inl,?_⟩
    intro key spec h
    rcases updateFound h with old | ⟨same,new⟩
    · exact .inl old
    · exact .inr ⟨valid,same,new⟩

theorem fixedShapeAdds (cache) :
    Adds config call (fixedShapeDecide config cache call).2 cache (fixedShapeDecide config cache call).1 := by
  unfold fixedShapeDecide
  cases valid : validate call with
  | some refused => exact addsNothing
  | none =>
    simp only
    cases cache.decisions (makeDecisionMemoKey config call) with
    | some memo => exact addsNothing
    | none =>
      simp only [fixedShapeCompute]
      cases fixedShapeSize config call (fixedShapeSpec cache call).2 with
      | error refusal => exact specAdds _ valid cache
      | ok size => exact settleAdds fun result => specAdds result valid cache

theorem engineAdds (config : OrderDecisionConfig) (call : DecideCall) (cache) :
    Adds config call (engineDecide config cache call).2 cache (engineDecide config cache call).1 := by
  unfold engineDecide
  split
  · simp only
    split
    · exact fixedShapeAdds cache
    · next goesOn =>
      rw [not_or,Bool.not_eq_true] at goesOn
      exact addsThen _ goesOn.1 (fixedShapeAdds cache) (genericAdds _)
  · exact genericAdds cache

/-! Where nothing is reused, and what is reused equals what the call would compute, the
answer does not depend on the cache. -/

def SetUsable (config : OrderDecisionConfig) (cache : OrderDecisionCache) (call : DecideCall) : Prop :=
  ∀ legs stored, legsFor call = .ok legs →
    cache.candidateSets (makeCandidateSetKey config call legs) = some stored →
    stored ≠ [] ∧ ∃ count, stored = (candidatesFor config legs).take count ∧
      (streamed config call legs (candidatesFor config legs)).length ≤ count
def SpecUsable (cache : OrderDecisionCache) (call : DecideCall) : Prop :=
  ∀ spec, cache.specs (specCacheKey call) = some spec → spec = buildSpec call

theorem optimizeAgrees {cache} (usable : SetUsable config cache call) :
    (optimize config cache call).2 = (optimize config {} call).2 := by
  unfold optimize
  cases prepared : legsFor call with
  | error reason => rfl
  | ok legs =>
    simp only
    cases hit : cache.candidateSets (makeCandidateSetKey config call legs) with
    | none => rfl
    | some stored =>
      obtain ⟨some,count,same,enough⟩ := usable legs stored prepared hit
      have positive : 0 < count := by
        rcases Nat.eq_zero_or_pos count with rfl | positive
        · exact absurd (by rw [same,List.take_zero]) some
        · exact positive
      simp only [if_neg some]
      rw [same,sizeOverTake positive enough]

theorem settleAnswer (cache size hash) :
    (settle config cache call size hash).2 = (settle config {} call size hash).2 := by
  unfold settle
  cases buildDecision config call size hash <;> rfl

theorem genericAgrees {cache} (usable : SetUsable config cache call)
    (miss : cache.decisions (makeDecisionMemoKey config call) = none) :
    (genericDecide config cache call).2 = (genericDecide config {} call).2 := by
  unfold genericDecide
  cases validate call with
  | some refused => rfl
  | none =>
    simp only [miss,genericCompute]
    rw [optimizeAgrees usable]
    cases (optimize config {} call).2 with
    | error reason => rfl
    | ok size =>
      simp only
      rw [settleAnswer,settleAnswer (optimize config {} call).1]

theorem specStored {cache} (usable : SpecUsable cache call) : (fixedShapeSpec cache call).2 = buildSpec call := by
  unfold fixedShapeSpec
  cases hit : cache.specs (specCacheKey call) with
  | some spec => exact usable spec hit
  | none => rfl

theorem specKeeps (cache call) : (fixedShapeSpec cache call).1.decisions = cache.decisions ∧
    (fixedShapeSpec cache call).1.candidateSets = cache.candidateSets := by
  unfold fixedShapeSpec
  cases cache.specs (specCacheKey call) <;> exact ⟨rfl,rfl⟩

theorem fixedShapeAgrees {cache} (usable : SpecUsable cache call)
    (miss : cache.decisions (makeDecisionMemoKey config call) = none) :
    (fixedShapeDecide config cache call).2 = (fixedShapeDecide config {} call).2 := by
  have empty : SpecUsable {} call := fun _ none => nomatch none
  unfold fixedShapeDecide
  cases validate call with
  | some refused => rfl
  | none =>
    simp only [miss,fixedShapeCompute,specStored usable,specStored empty]
    cases fixedShapeSize config call (buildSpec call) with
    | error refusal => rfl
    | ok size =>
      simp only
      rw [settleAnswer,settleAnswer (fixedShapeSpec {} call).1]

-- A refused fixed-shape attempt leaves the memo and the candidate sets as they were.
theorem fixedShapeRefused {cache} (refused : (fixedShapeDecide config cache call).2.ok = false) :
    (fixedShapeDecide config cache call).1.decisions = cache.decisions ∧
    (fixedShapeDecide config cache call).1.candidateSets = cache.candidateSets := by
  unfold fixedShapeDecide at refused ⊢
  cases valid : validate call with
  | some result => exact ⟨rfl,rfl⟩
  | none =>
    simp only [valid] at refused ⊢
    cases hit : cache.decisions (makeDecisionMemoKey config call) with
    | some memo => exact ⟨rfl,rfl⟩
    | none =>
      simp only [hit,fixedShapeCompute] at refused ⊢
      cases sized : fixedShapeSize config call (fixedShapeSpec cache call).2 with
      | error refusal => exact specKeeps cache call
      | ok size =>
        simp only [sized,settle] at refused ⊢
        cases built : buildDecision config call size (fixedShapeSnapshotHash call) with
        | error reason => exact specKeeps cache call
        | ok decision =>
          simp only [built] at refused
          cases refused

theorem setUsableOf {cache next : OrderDecisionCache} (same : next.candidateSets = cache.candidateSets)
    (usable : SetUsable config cache call) : SetUsable config next call := by
  unfold SetUsable at usable ⊢
  rw [same]
  exact usable

theorem engineAgrees {cache} (sets : SetUsable config cache call)
    (specs : config.implMode = .fastFixedShape → SpecUsable cache call)
    (miss : cache.decisions (makeDecisionMemoKey config call) = none) :
    (engineDecide config cache call).2 = fresh config call := by
  unfold fresh engineDecide
  by_cases mode : config.implMode = .fastFixedShape
  · have empty : SetUsable config {} call := fun _ _ _ none => nomatch none
    have same := fixedShapeAgrees (specs mode) miss
    simp only [if_pos mode,same]
    by_cases done : (fixedShapeDecide config {} call).2.ok = true ∨ config.fastFixedShapeFallbackToGeneric = false
    · rw [if_pos done,if_pos done,same]
    · rw [if_neg done,if_neg done]
      rw [not_or,Bool.not_eq_true] at done
      obtain ⟨memo,candidates⟩ := fixedShapeRefused (by rw [same]; exact done.1)
      obtain ⟨freshMemo,freshCandidates⟩ := fixedShapeRefused done.1
      rw [genericAgrees (setUsableOf candidates sets) (by rw [memo]; exact miss),
        genericAgrees (setUsableOf freshCandidates empty) (by rw [freshMemo])]
  · simp only [if_neg mode]
    exact genericAgrees sets miss

/-! Every stored value was put there by a logged call. -/

structure Faithful (config : OrderDecisionConfig) (cache : OrderDecisionCache) (log : List Answered) : Prop where
  decisions : ∀ key decision, cache.decisions key = some decision →
    ∃ entry ∈ log, makeDecisionMemoKey config entry.1 = key ∧ entry.2 = accept decision
  candidateSets : ∀ key stored, cache.candidateSets key = some stored → stored ≠ [] ∧
    ∃ entry ∈ log, ∃ legs, legsFor entry.1 = .ok legs ∧ makeCandidateSetKey config entry.1 legs = key ∧
      ∃ count, stored = (candidatesFor config legs).take count
  specs : ∀ key spec, cache.specs key = some spec →
    ∃ entry ∈ log, validate entry.1 = none ∧ specCacheKey entry.1 = key ∧ buildSpec entry.1 = spec
  answers : ∀ entry ∈ log, entry.2 = fresh config entry.1

theorem faithfulEmpty (config) : Faithful config {} [] :=
  ⟨fun _ _ none => (nomatch none),fun _ _ none => (nomatch none),fun _ _ none => (nomatch none),
    fun _ none => (nomatch none)⟩

-- The cursor reads the ratios and the curves of the legs, and both are in the signature.
theorem candidatesOfBreakpoints {old legs : List SizingLeg}
    (same : old.map legBreakpoints = legs.map legBreakpoints) :
    candidatesFor config old = candidatesFor config legs := by
  have cursors (legs : List SizingLeg) : legs.map SizingLeg.cursor =
      (legs.map legBreakpoints).map fun leg => ⟨leg.ratio,leg.curveQty⟩ := by
    rw [List.map_map]
    rfl
  rw [candidatesFor,candidatesFor,cursors old,cursors legs,same]

theorem setUsable {cache log} (faithful : Faithful config cache log) (apart : NoCollision log call)
    (covered : CacheCovered config cache log call) : SetUsable config cache call := by
  intro legs stored prepared hit
  obtain ⟨some,entry,inside,old,oldPrepared,key,count,cut⟩ := faithful.candidateSets _ _ hit
  have signature := congrArg CandidateSetKey.depthBreakpointSignature key
  have breakpoints := apart entry inside old (Machine.memToOption.mpr oldPrepared) legs
    (Machine.memToOption.mpr prepared) signature
  have reach := covered.2.1 legs (Machine.memToOption.mpr prepared) stored hit
  refine ⟨some,count,by rw [cut,candidatesOfBreakpoints breakpoints],?_⟩
  have cutLength : stored.length ≤ count := by
    rw [cut]
    exact List.length_take_le _ _
  omega

theorem specUsable {cache log} (faithful : Faithful config cache log)
    (covered : CacheCovered config cache log call)
    (mode : config.implMode = .fastFixedShape) : SpecUsable cache call := by
  intro spec hit
  obtain ⟨entry,inside,valid,key,built⟩ := faithful.specs _ _ hit
  rw [← built]
  exact covered.2.2 mode entry inside valid key

theorem memoAnswer {cache decision} (valid : validate call = none)
    (hit : cache.decisions (makeDecisionMemoKey config call) = some decision) :
    (engineDecide config cache call).2 = accept decision := by
  have generic : genericDecide config cache call = (cache,accept decision) := by
    simp only [genericDecide,valid,hit]
  have fast : fixedShapeDecide config cache call = (cache,accept decision) := by
    simp only [fixedShapeDecide,valid,hit]
  unfold engineDecide
  split
  · simp only [fast,accept,true_or,if_true]
  · rw [generic]

theorem refusedAnswer {cache refused} (invalid : validate call = some refused) :
    (engineDecide config cache call).2 = refused := by
  have generic (cache) : genericDecide config cache call = (cache,refused) := by simp only [genericDecide,invalid]
  have fast : fixedShapeDecide config cache call = (cache,refused) := by simp only [fixedShapeDecide,invalid]
  unfold engineDecide
  simp only [fast,generic]
  split
  · split <;> rfl
  · rfl

theorem stepAnswer {cache log} (faithful : Faithful config cache log) (apart : NoCollision log call)
    (covered : CacheCovered config cache log call) : (engineDecide config cache call).2 = fresh config call := by
  cases valid : validate call with
  | some refused => rw [refusedAnswer valid,fresh,refusedAnswer valid]
  | none =>
    cases hit : cache.decisions (makeDecisionMemoKey config call) with
    | none => exact engineAgrees (setUsable faithful apart covered) (specUsable faithful covered) hit
    | some decision =>
      obtain ⟨entry,inside,key,taken⟩ := faithful.decisions _ _ hit
      have same : entry.1 = call := covered.1 entry inside (by rw [taken]; rfl) key
      rw [memoAnswer valid hit,← taken,faithful.answers entry inside,same]

theorem stepFaithful {cache log} (faithful : Faithful config cache log) (apart : NoCollision log call)
    (covered : CacheCovered config cache log call) :
    Faithful config (engineDecide config cache call).1 (log ++ [(call,(engineDecide config cache call).2)]) := by
  have adds := engineAdds config call cache
  have old {entry} (inside : entry ∈ log) : entry ∈ log ++ [(call,(engineDecide config cache call).2)] :=
    List.mem_append_left _ inside
  have new : (call,(engineDecide config cache call).2) ∈ log ++ [(call,(engineDecide config cache call).2)] :=
    List.mem_append_right _ List.mem_cons_self
  constructor
  · intro key decision found
    rcases adds.decisions key decision found with kept | ⟨same,taken⟩
    · obtain ⟨entry,inside,source⟩ := faithful.decisions key decision kept
      exact ⟨entry,old inside,source⟩
    · exact ⟨_,new,same.symm,taken⟩
  · intro key stored found
    rcases adds.candidateSets key stored found with kept | ⟨some,legs,prepared,same,cut⟩
    · obtain ⟨some,entry,inside,source⟩ := faithful.candidateSets key stored kept
      exact ⟨some,entry,old inside,source⟩
    · exact ⟨some,_,new,legs,prepared,same.symm,cut⟩
  · intro key spec found
    rcases adds.specs key spec found with kept | ⟨valid,same,built⟩
    · obtain ⟨entry,inside,source⟩ := faithful.specs key spec kept
      exact ⟨entry,old inside,source⟩
    · exact ⟨_,new,valid,same.symm,built.symm⟩
  · intro entry inside
    rcases List.mem_append.mp inside with kept | last
    · exact faithful.answers entry kept
    · cases List.mem_singleton.mp last
      exact stepAnswer faithful apart covered

theorem cacheTransparentAlong (config : OrderDecisionConfig) (calls : List DecideCall)
    (along : Machine.Along (engineDecide config)
      (fun cache log call => NoCollision log call ∧ CacheCovered config cache log call) {} [] calls) :
    ∀ entry ∈ (Machine.run (engineDecide config) {} [] calls).2, entry.2 = fresh config entry.1 :=
  (Machine.invariantAlong (P := Faithful config)
    (fun _ _ _ faithful step => stepFaithful faithful step.1 step.2) (faithfulEmpty config) along).answers

open Intent (OpportunityIntent)
open CombinatorialBundles (CandidateBundle)
open MarketDepth (MarketDepthView PriceLevel)

-- One leg on a book of two levels of five lots each.
def pricedView (first second : Int) : MarketDepthView :=
  let asks : List PriceLevel := [⟨first,⟨0x4014000000000000⟩⟩,⟨second,⟨0x4014000000000000⟩⟩]
  {assetIndex := 1, usableForDepth := true, asks, depthPrefix := MarketDepth.buildDepthPrefix [] asks}
def singleLegIntent (intentId : UInt64) : OpportunityIntent :=
  { intentId
    bundleId := 1
    status := .paperOpportunity
    bundleHash := 3
    snapshotVersionHash := 7
    legs := [{assetIndex := 1, quantityLots := 1}] }
def singleLegBundle (payout : Int) : CandidateBundle :=
  {bundleId := 1, guaranteedPayoutTick := payout, legs := [{marketId := "m", assetId := "a", quantityLots := 1}]}
def callAt (intentId : UInt64) (payout : Int) (view : MarketDepthView) (policyHash : UInt64)
    (minDepthMarginBps : Int) : DecideCall :=
  ⟨singleLegIntent intentId,singleLegBundle payout,[view],{policyHash, minDepthMarginBps},1000⟩

-- A repeated call, then another intent on moved prices: a memo hit and a candidate set hit.
def repricedCalls : List DecideCall :=
  [callAt 1 100 (pricedView 40 41) 5 0,callAt 1 100 (pricedView 40 41) 5 0,callAt 2 100 (pricedView 60 70) 5 0]

theorem repeatedAndRepricedTransparent :
    (∀ entry ∈ (Machine.run (engineDecide {}) {} [] repricedCalls).2, entry.2 = fresh {} entry.1) ∧
    (Machine.run (engineDecide {}) {} [] repricedCalls).2.all (fun entry => entry.2.ok) = true :=
  ⟨cacheTransparentAlong {} repricedCalls (by decide +kernel),by decide +kernel⟩

/-- First the memo answers for a book whose prices moved, then a candidate set cut by one
policy's depth margin is used under another, then a spec keeps the payout of an older bundle. -/
theorem cachedAnswersDiffer :
    (Machine.Along (engineDecide {}) (fun _ log call => NoCollision log call) {} []
        [callAt 1 100 (pricedView 40 41) 5 0,callAt 1 100 (pricedView 60 70) 5 0] ∧
      ∃ entry ∈ (Machine.run (engineDecide {}) {} []
        [callAt 1 100 (pricedView 40 41) 5 0,callAt 1 100 (pricedView 60 70) 5 0]).2,
        entry.2 ≠ fresh {} entry.1) ∧
    (Machine.Along (engineDecide {}) (fun _ log call => NoCollision log call) {} []
        [callAt 1 100 (pricedView 40 41) 5 30000,callAt 1 100 (pricedView 40 41) 6 0] ∧
      ∃ entry ∈ (Machine.run (engineDecide {}) {} []
        [callAt 1 100 (pricedView 40 41) 5 30000,callAt 1 100 (pricedView 40 41) 6 0]).2,
        entry.2 ≠ fresh {} entry.1) ∧
    (Machine.Along (engineDecide {implMode := .fastFixedShape}) (fun _ log call => NoCollision log call) {} []
        [callAt 1 100 (pricedView 40 41) 5 0,callAt 2 90 (pricedView 40 41) 5 0] ∧
      ∃ entry ∈ (Machine.run (engineDecide {implMode := .fastFixedShape}) {} []
        [callAt 1 100 (pricedView 40 41) 5 0,callAt 2 90 (pricedView 40 41) 5 0]).2,
        entry.2 ≠ fresh {implMode := .fastFixedShape} entry.1) := by
  decide +kernel

end Polytope.CacheTransparency
