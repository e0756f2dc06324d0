import Polytope.Engine
import Polytope.ExecutionPlanner

/-! The intent an order decision is judged as. Its legs are written with one lot each and the
bundle quantity of the decision, so a repricing walks the book for the bundle quantity and the
inventory guard counts one lot, whatever the leg orders. Where the signal's cost is reused
nothing is walked and the lots of the leg itself are reported. -/
namespace Polytope.DecisionTranslation
open FixedPointMath MarketDepth RiskTypes CostRevalidator RiskGuards Pipeline Engine
open Intent (OpportunityIntent IntentLeg OrderDecisionLite OrderDecisionLegLite computeOrderDecisionHash)
open ExecutionTypes (OrderPlan)
open ExecutionPlanner (buildDecisionPlan buildOrders decisionChildOrder)

def decisionLots (d : OrderDecisionLite) : List Int := d.legs.map (·.quantityLots)

/-! What a leg counts for, from stage to stage. -/

-- Whether the revalidator takes over the signal's cost instead of walking the books.
def reuses (view : RiskInputView) (i : OpportunityIntent) : Bool :=
  if view.depthViews.items ≠ [] then
    canReuseSignal (depthViewSource view.depthViews.items) i
      (effectivePolicy view) view.nowNs view.snapshotVersionHash
  else canReuseSignal (snapshotSource view.snapshots.items) i
    (effectivePolicy view) view.nowNs view.snapshotVersionHash
def legLots (reused : Bool) (i : OpportunityIntent) (leg : IntentLeg) : Int :=
  if reused then (reuseLeg i leg).requestedQtyLots else leg.quantityLots * i.bundleQty
def revalidatedLots (view : RiskInputView) (i : OpportunityIntent) : List Int :=
  i.legs.map (legLots (reuses view i) i)

-- The exposure guard reads costs: those of a repricing are the books' costs for these lots.
def bookCost {β : Type} (source : BookSource β) (leg : IntentLeg) (lots : Int) : Int :=
  match source.find leg with
  | none => 0
  | some book => (source.repriceBuyLeg book lots).1.costTick
def repricedCost (view : RiskInputView) (i : OpportunityIntent) (lots : List Int) : Int :=
  if view.depthViews.items ≠ [] then
    (List.zipWith (bookCost (depthViewSource view.depthViews.items)) i.legs lots).sum
  else (List.zipWith (bookCost (snapshotSource view.snapshots.items)) i.legs lots).sum

def inventoryLots (i : OpportunityIntent) : List Int := i.legs.map fun leg => max leg.quantityLots 0
def fillLots (cost : CostRevalidationResult) (leg : IntentLeg) (legCost : RevalidatedLegCost) : Option Int :=
  if legCost.requestedQtyLots ≤ 0 then checkedMulI64 leg.quantityLots cost.riskBundleQty
  else some legCost.requestedQtyLots

structure SeesOrdered (d : OrderDecisionLite) (view : RiskInputView) (i : OpportunityIntent) : Prop where
  revalidated : revalidatedLots view i = decisionLots d
  exposure : reuses view i = false → (revalidatedCost i view).ok = true →
    (revalidatedCost i view).riskTotalCostTick = repricedCost view i (decisionLots d)
  inventory : inventoryLots i = decisionLots d
  partialFill : (revalidatedCost i view).ok = true →
    List.zipWith (fillLots (revalidatedCost i view)) i.legs
      (revalidatedCost i view).legs = (decisionLots d).map some

-- One bundle of one lot a leg; with the cost reused the bundle quantity does not matter.
def Unscaled (d : OrderDecisionLite) (reused : Bool) : Prop :=
  (∀ leg ∈ d.legs, leg.quantityLots = 1) ∧ (reused = true ∨ d.chosenBundleQty = 1)
instance (d reused) : Decidable (Unscaled d reused) := by unfold Unscaled; infer_instance

/-! The stages read those lots. -/

section
variable {β : Type} {source : BookSource β} {i : OpportunityIntent}

theorem repricedRun {legs : List IntentLeg} {acc out} (h : legs.foldlM (repriceLeg source i) acc = .ok out) :
    out.legs.map (·.requestedQtyLots) =
      acc.legs.map (·.requestedQtyLots) ++ legs.map fun leg => leg.quantityLots * i.bundleQty := by
  induction legs generalizing acc with
  | nil =>
    cases h
    simp
  | cons leg rest ih =>
    rw [List.foldlM_cons] at h
    obtain ⟨mid,first,later⟩ := Machine.bindOk.mp h
    obtain ⟨_,_,_,_,_,_,_,_,qty,_,_,rfl⟩ := repriceLegPriced first
    obtain ⟨_,rfl⟩ := checkedMulExact.mp qty
    rw [ih later]
    simp [legCost]
theorem repricedAs (refuses : Refuses source) (ok : (reprice source i).ok = true) :
    0 < i.bundleQty ∧
    (reprice source i).legs.map (·.requestedQtyLots) = i.legs.map fun leg => leg.quantityLots * i.bundleQty := by
  obtain ⟨positive,walk,_,_⟩ := repriceRan refuses ok
  exact ⟨positive,repricedRun walk⟩

variable {policy : RiskPolicySnapshot} {nowNs : Nat} {hash : UInt64}

theorem reusedAs (reused : canReuseSignal source i policy nowNs hash = true) :
    0 < i.bundleQty ∧ (∀ leg ∈ i.legs, 0 < leg.quantityLots) ∧
    (reuseSignalSnapshot i).legs.map (·.requestedQtyLots) = i.legs.map fun leg =>
    (reuseLeg i leg).requestedQtyLots := by
  simp only [canReuseSignal,Bool.and_eq_true,List.all_eq_true,decide_eq_true_eq] at reused
  obtain ⟨⟨⟨⟨⟨⟨⟨⟨_,qty⟩,_⟩,_⟩,few⟩,_⟩,legs⟩,_⟩,_⟩ := reused
  refine ⟨qty,fun leg mem => (legs leg mem).1.2,?_⟩
  rw [reuseSignalSnapshot,List.take_of_length_le
    (show i.legs.length ≤ kMaxRevalidatedLegCosts from few),List.map_map]
  rfl
theorem latestAs (refuses : Refuses source) (ok : (latestCost source i policy nowNs hash).ok = true) :
    0 < i.bundleQty ∧ (latestCost source i policy nowNs hash).legs.map (·.requestedQtyLots) =
      i.legs.map (legLots (canReuseSignal source i policy nowNs hash) i) := by
  unfold latestCost at ok ⊢
  cases reused : canReuseSignal source i policy nowNs hash with
  | true =>
    obtain ⟨qty,_,lots⟩ := reusedAs reused
    exact ⟨qty,lots⟩
  | false =>
    rw [reused] at ok
    exact repricedAs refuses ok

theorem revalidateAs (refuses : Refuses source) (ok : (revalidate source i policy nowNs hash).ok = true) :
    0 < i.bundleQty ∧ (∀ leg ∈ i.legs, 0 < leg.quantityLots) ∧
    (revalidate source i policy nowNs hash).legs.map (·.requestedQtyLots) =
      i.legs.map (legLots (canReuseSignal source i policy nowNs hash) i) ∧
    (canReuseSignal source i policy nowNs hash = false →
      (revalidate source i policy nowNs hash).riskTotalCostTick =
        (i.legs.map fun leg => bookCost source leg (leg.quantityLots * i.bundleQty)).sum) := by
  obtain ⟨latest,_,same⟩ := revalidateAccepted ok
  obtain ⟨qty,lots⟩ := latestAs refuses latest
  rw [same]
  refine ⟨qty,fun leg mem => (latestLegsValid refuses latest leg mem).2,lots,fun walked => ?_⟩
  rw [latestCost,walked] at latest
  simp only [latestCost,walked]
  exact (repricePriced refuses latest).2

end

theorem revalidatedAs {i view} (ok : (revalidatedCost i view).ok = true) :
    0 < i.bundleQty ∧ (∀ leg ∈ i.legs, 0 < leg.quantityLots) ∧
    (revalidatedCost i view).legs.map (·.requestedQtyLots) = revalidatedLots view i ∧
    (reuses view i = false → (revalidatedCost i view).riskTotalCostTick = repricedCost view i
      (revalidatedLots view i)) := by
  have zipped : ∀ {β : Type} (source : BookSource β),
      List.zipWith (bookCost source) i.legs (i.legs.map fun leg => leg.quantityLots * i.bundleQty) =
        i.legs.map fun leg => bookCost source leg (leg.quantityLots * i.bundleQty) := fun source => by
    rw [List.zipWith_map_right,List.zipWith_self]
  unfold revalidatedCost at ok ⊢
  unfold revalidatedLots reuses repricedCost
  by_cases shown : view.depthViews.items ≠ []
  · simp only [if_pos shown] at ok ⊢
    obtain ⟨qty,ratio,lots,cost⟩ := revalidateAs (depthViewRefuses _) ok
    refine ⟨qty,ratio,lots,fun walked => ?_⟩
    rw [cost walked,walked,← zipped]
    rfl
  · simp only [if_neg shown] at ok ⊢
    obtain ⟨qty,ratio,lots,cost⟩ := revalidateAs (snapshotRefuses _) ok
    refine ⟨qty,ratio,lots,fun walked => ?_⟩
    rw [cost walked,walked,← zipped]
    rfl

theorem legLotsPositive {reused i leg} (qty : 0 < i.bundleQty) (ratio : 0 < leg.quantityLots) :
    0 < legLots reused i leg := by
  have product := Int.mul_pos ratio qty
  have fits : (0 : Int) < i64Max := by decide
  unfold legLots reuseLeg clampI64
  split
  · simp only
    split
    · assumption
    · exact lt_max_of_lt_right (lt_min product fits)
  · exact product

theorem fillLotsAs {cost : CostRevalidationResult} {legs : List IntentLeg} {legCosts : List RevalidatedLegCost}
    (paired : legCosts.length = legs.length) (positive : ∀ c ∈ legCosts, 0 < c.requestedQtyLots) :
    List.zipWith (fillLots cost) legs legCosts = (legCosts.map (·.requestedQtyLots)).map some := by
  induction legCosts generalizing legs with
  | nil => simp
  | cons c rest ih =>
    obtain ⟨leg,others,rfl⟩ := List.exists_cons_of_length_eq_add_one paired.symm
    obtain ⟨here,later⟩ := List.forall_mem_cons.mp positive
    rw [List.zipWith_cons_cons,List.map_cons,List.map_cons,ih (Nat.succ.inj paired) later,fillLots,if_neg
      (not_le.mpr here)]
theorem partialFillAs {i view} (ok : (revalidatedCost i view).ok = true) :
    List.zipWith (fillLots (revalidatedCost i view)) i.legs
      (revalidatedCost i view).legs = (revalidatedLots view i).map some := by
  obtain ⟨qty,ratio,lots,_⟩ := revalidatedAs ok
  have paired : (revalidatedCost i view).legs.length = i.legs.length := by
    simpa [revalidatedLots] using congrArg List.length lots
  rw [fillLotsAs paired fun c mem => ?_,lots]
  have listed : c.requestedQtyLots ∈ revalidatedLots view i := by
    rw [← lots]
    exact List.mem_map_of_mem mem
  obtain ⟨leg,here,same⟩ := List.mem_map.mp listed
  rw [← same]
  exact legLotsPositive qty (ratio leg here)

/-! The translated legs. -/

section
variable {source : OpportunityIntent} {d : OrderDecisionLite} {policy : RiskPolicySnapshot}

theorem translatedMap {α : Type} (f : IntentLeg → α) (g : OrderDecisionLegLite → α)
    (same : ∀ target leg, f (legFromDecision policy target leg) = g leg) :
    (intentFromDecision source d policy).legs.map f = d.legs.map g := by
  refine List.ext_getElem? fun k => ?_
  simp only [intentFromDecision,List.getElem?_map,List.getElem?_mapIdx,Option.map_map]
  exact congrArg (fun h => Option.map h d.legs[k]?) (funext fun leg => same _ leg)

theorem revalidatedIff {reused} (qty : 0 < d.chosenBundleQty) :
    (intentFromDecision source d policy).legs.map
    (legLots reused (intentFromDecision source d policy)) = decisionLots d ↔
      ∀ leg ∈ d.legs, leg.quantityLots = d.chosenBundleQty ∨ reused = true ∧ 0 < leg.quantityLots := by
  have clamped : 0 < clampI64 d.chosenBundleQty := lt_max_of_lt_right (lt_min qty (by decide))
  rw [translatedMap _ (fun leg => if reused then
    (if 0 < leg.quantityLots then leg.quantityLots else clampI64 d.chosenBundleQty)
    else d.chosenBundleQty) fun target leg => by simp [legLots,reuseLeg,legFromDecision,intentFromDecision],
    decisionLots,List.map_inj_left]
  refine forall₂_congr fun leg _ => ?_
  cases reused with
  | true =>
    simp only [if_true,true_and]
    split
    · next positive => simp [positive]
    · next empty => exact iff_of_false (by omega) (by omega)
  | false => simp [eq_comm]
theorem inventoryIff : inventoryLots (intentFromDecision source d policy) = decisionLots d ↔
    ∀ leg ∈ d.legs, leg.quantityLots = 1 := by
  rw [inventoryLots,translatedMap _
    (fun _ => 1) fun target leg => by simp [legFromDecision],decisionLots,List.map_inj_left]
  exact forall₂_congr fun leg _ => eq_comm

end

theorem decisionAccepted {e i d input view} (h : decisionView e i d input = .ok view) :
    ∃ policy, view.intent = some (intentFromDecision i d policy) ∧ 0 < d.chosenBundleQty ∧ d.legs ≠ [] := by
  obtain ⟨policy,found,same⟩ := decisionViewShape h
  unfold decisionView at h
  rw [found] at h
  obtain ⟨_,h⟩ := Machine.guardOk h
  obtain ⟨sized,_⟩ := Machine.guardOk h
  refine ⟨policy,by rw [same],?_⟩
  simp only [not_or,not_le] at sized
  exact ⟨sized.1,sized.2.2.1⟩

-- The planner orders the lots of the decision itself.
theorem plannedLots {e nowNs config plan} (h : buildDecisionPlan e nowNs config = .ok plan) :
    plan.orders.map (·.quantityLots) = decisionLots e.decision := by
  obtain ⟨orders,built,rfl⟩ :=
    ExecutionPlanner.assembleDecisionPlanShape (ExecutionPlanner.buildDecisionPlanAssembled h)
  have run : ∀ {plan config intent index legs orders},
    buildOrders (decisionChildOrder plan config intent) index legs = .ok orders →
      orders.map (·.quantityLots) = legs.map (·.quantityLots) := by
    intro plan config intent index legs
    induction legs generalizing index with
    | nil =>
      intro orders h
      cases h
      rfl
    | cons leg rest ih =>
      intro orders h
      obtain ⟨o,first,h⟩ := Machine.bindOk.mp h
      obtain ⟨later,tail,h⟩ := Machine.bindOk.mp h
      cases h
      obtain ⟨_,first⟩ := Machine.guardOk first
      obtain ⟨_,first⟩ := Machine.guardOk first
      cases first
      rw [List.map_cons,List.map_cons,ih tail]
  exact run built

-- Every later stage sees the lots that are ordered exactly for one bundle of one lot a leg, or one lot a leg at
-- a reused cost.
theorem decisionSeen (e : RiskEngine) (i : OpportunityIntent) (d : OrderDecisionLite) (input view : RiskInputView)
    (intent : OpportunityIntent) (accepted : decisionView e i d input = .ok view)
    (judged : view.intent = some intent) :
    (∀ envelope nowNs config plan, envelope.decision = d → buildDecisionPlan envelope nowNs config = .ok plan →
      plan.orders.map (·.quantityLots) = decisionLots d) ∧
    (revalidatedLots view intent = decisionLots d ↔ ∀ leg ∈ d.legs,
      leg.quantityLots = d.chosenBundleQty ∨ reuses view intent = true ∧ 0 < leg.quantityLots) ∧
    (inventoryLots intent = decisionLots d ↔ ∀ leg ∈ d.legs, leg.quantityLots = 1) ∧
    (SeesOrdered d view intent ↔ Unscaled d (reuses view intent)) := by
  obtain ⟨policy,given,qty,legs⟩ := decisionAccepted accepted
  rw [given] at judged
  cases judged
  have walked := @revalidatedIff i d policy (reuses view (intentFromDecision i d policy)) qty
  have counted := @inventoryIff i d policy
  refine ⟨?_,walked,counted,?_⟩
  · rintro envelope nowNs config plan rfl built
    exact plannedLots built
  · constructor
    · intro sees
      have ones := counted.mp sees.inventory
      refine ⟨ones,?_⟩
      obtain ⟨leg,mem⟩ := List.exists_mem_of_ne_nil _ legs
      rcases walked.mp sees.revalidated leg mem with same | reused
      · exact .inr (same.symm.trans (ones leg mem))
      · exact .inl reused.1
    · rintro ⟨ones,single⟩
      have lots : revalidatedLots view (intentFromDecision i d policy) = decisionLots d :=
        walked.mpr fun leg mem => by
        rcases single with reused | one
        · exact .inr ⟨reused,by rw [ones leg mem]; decide⟩
        · exact .inl ((ones leg mem).trans one.symm)
      refine ⟨lots,fun booked ok => ?_,counted.mpr ones,fun ok => ?_⟩
      · rw [(revalidatedAs ok).2.2.2 booked,lots]
      · rw [partialFillAs ok,lots]

-- Three lots on each book, and no more than three allowed of an asset.
def thinBook (assetIndex : Nat) : MarketDepthView :=
  { assetIndex
    bookVersion := 1
    snapshotVersionHash := 8
    lastWsRecvNs := 900
    usableForDepth := true
    asks := [⟨10,⟨0x4008000000000000⟩⟩]
    depthPrefix := buildDepthPrefix [] [⟨10,⟨0x4008000000000000⟩⟩] }
def thinView : RiskInputView :=
  { depthViews := .data [thinBook 1,thinBook 2]
    nowNs := 1000
    policy := some {policyHash := 7, maxInventoryLotsPerAsset := 3, maxAllowedCostDriftTick := 1000} }
def scaledIntent : OpportunityIntent :=
  { intentId := 1
    bundleId := 1
    bundleHash := 4
    oracleArtifactHash := 5
    snapshotVersionHash := 8
    idempotencyHash := 1
    createdTsNs := 900
    expiresAtNs := 2000
    legs := [{marketId := "m1", assetId := "a1", assetIndex := 1},
      {marketId := "m2", assetId := "a2", assetIndex := 2}] }
def decisionOf (bundleQty x y : Int) : OrderDecisionLite :=
  let d : OrderDecisionLite :=
    { sourceIntentId := 1
      bundleId := 1
      type := .paperOrderDecision
      chosenBundleQty := bundleQty
      guaranteedPayoutTick := 200
      estimatedTotalCostTick := 100
      totalEdgeTick := 100
      unitEdgeTick := 50
      edgeBps := 100
      legs := [⟨1,1,.buy,x,10,10,10,10 * x⟩,⟨2,2,.buy,y,10,10,10,10 * y⟩]
      snapshotVersionHash := 8
      oracleArtifactHash := 5
      bundleHash := 4
      policyHash := 7
      expiresAtNs := 2000 }
  {d with decisionHash := computeOrderDecisionHash d}

theorem singleLotsSeen : ∃ view intent, decisionView {} scaledIntent (decisionOf 1 1 1) thinView = .ok view ∧
    view.intent = some intent ∧ SeesOrdered (decisionOf 1 1 1) view intent := by
  have judged : ∃ view ∈ (decisionView {} scaledIntent (decisionOf 1 1 1) thinView).toOption,
    ∃ intent ∈ view.intent,
      Unscaled (decisionOf 1 1 1) (reuses view intent) := by
    decide +kernel
  obtain ⟨view,accepted,intent,given,unscaled⟩ := judged
  rw [Machine.memToOption] at accepted
  exact ⟨view,intent,accepted,given,(decisionSeen
    {} scaledIntent _ thinView view intent accepted given).2.2.2.mpr unscaled⟩

theorem scaledLotsUnseen : ∃ view intent, decisionView {} scaledIntent (decisionOf 2 6 4) thinView = .ok view ∧
    view.intent = some intent ∧ decisionLots (decisionOf 2 6 4) = [6,4] ∧ revalidatedLots view intent = [2,2] ∧
    inventoryLots intent = [1,1] ∧ ¬ SeesOrdered (decisionOf 2 6 4) view intent ∧
    (evaluateDecision {} scaledIntent (decisionOf 2 6 4) thinView false).2.decision.approved = true := by
  have judged : ∃ view ∈ (decisionView {} scaledIntent (decisionOf 2 6 4) thinView).toOption,
    ∃ intent ∈ view.intent,
      revalidatedLots view intent = [2,2] ∧ inventoryLots intent = [1,1] := by
    decide +kernel
  obtain ⟨view,accepted,intent,given,walked,counted⟩ := judged
  rw [Machine.memToOption] at accepted
  refine ⟨view,intent,accepted,given,rfl,walked,counted,fun sees => ?_,by decide +kernel⟩
  have six := walked.symm.trans sees.revalidated
  simp [decisionLots,decisionOf] at six

end Polytope.DecisionTranslation
