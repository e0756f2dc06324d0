import Polytope.SignalPricing
import Polytope.LinearSweep
import Polytope.ListRelation

/-! The three pricing paths of Signal compared: first the book of a leg as a snapshot and as the depth view made
from it, then all legs, then the ways the legs find their books. -/
namespace Polytope.PricingAgreement
open FixedPointMath MarketDepth AskSweep SizingState PrefixSweep LinearSweep SignalPricing
open FixedShapeKernel (bestAskFromPrefix)
open Intent (kMaxIntentLegs)
open CombinatorialBundles (BundleLeg CandidateBundle)

/-! Prices that agree except for the worst price, which agrees where W holds. -/

structure LegAlike (W : Prop) (a b : FillSimulationLeg) : Prop where
  assetId : a.assetId = b.assetId
  requested : a.requestedQtyLots = b.requestedQtyLots
  executable : a.executableQtyLots = b.executableQtyLots
  vwap : a.vwapPriceTick = b.vwapPriceTick
  cost : a.totalCostTick = b.totalCostTick
  enough : a.enoughDepth = b.enoughDepth
  worst : W → a.worstPriceTick = b.worstPriceTick
structure Alike (W : Prop) (a b : CostResult) : Prop where
  executable : a.executable = b.executable
  qty : a.bundleQty = b.bundleQty
  cost : a.totalCostTick = b.totalCostTick
  average : a.avgCostTick = b.avgCostTick
  reason : a.failureReason = b.failureReason
  slippage : W → a.maxLegSlippageTick = b.maxLegSlippageTick
  legs : List.Forall₂ (LegAlike W) a.legs b.legs
-- Two outcomes of a loop: refused alike, or gone on alike.
inductive Outcomes {α β : Type} (W : Prop) (R : α → β → Prop) : Except CostResult α → Except CostResult β → Prop
  | refused {a b} (alike : Alike W a b) : Outcomes W R (.error a) (.error b)
  | went {a b} (alike : R a b) : Outcomes W R (.ok a) (.ok b)

def SameInput (W : Prop) (a b : LegInput) : Prop :=
  a.assetId = b.assetId ∧ a.ratio = b.ratio ∧ a.executableSide = b.executableSide ∧
  calculateBuyCapacity a.assetId a.ratio a.executableSide a.book =
    calculateBuyCapacity b.assetId b.ratio b.executableSide b.book ∧
  ∀ q leg leg', LegAlike W leg leg' →
    (priceBuyLegForQuantity a.assetId a.book q leg).1 = (priceBuyLegForQuantity b.assetId b.book q leg').1 ∧
    LegAlike W (priceBuyLegForQuantity a.assetId a.book q leg).2 (priceBuyLegForQuantity b.assetId b.book q leg').2
inductive SameFound (W : Prop) : Except CostFailureReason LegInput → Except CostFailureReason LegInput → Prop
  | missing (reason) : SameFound W (.error reason) (.error reason)
  | found {a b} (same : SameInput W a b) : SameFound W (.ok a) (.ok b)
def SameWork (W : Prop) (a b : LegWork) : Prop := SameInput W a.input b.input ∧ a.capacity = b.capacity

section
variable {W : Prop}

theorem legRefl (leg : FillSimulationLeg) : LegAlike W leg leg := ⟨rfl,rfl,rfl,rfl,rfl,rfl,fun _ => rfl⟩
theorem failureAlike (reason : CostFailureReason) : Alike W (failure reason) (failure reason) :=
  ⟨rfl,rfl,rfl,rfl,rfl,fun _ => rfl,.nil⟩
theorem bindOutcomes {α β γ δ : Type} {R : α → β → Prop} {S : γ → δ → Prop} {x : Except CostResult α}
    {y : Except CostResult β}
    {f : α → Except CostResult γ} {g : β → Except CostResult δ} (first : Outcomes W R x y)
      (later : ∀ a b, R a b → Outcomes W S (f a) (g b)) :
    Outcomes W S (x >>= f) (y >>= g) := by
  cases first with
  | refused alike => exact .refused alike
  | went alike => exact later _ _ alike

theorem capacityAlike {inputs inputs' : List (Except CostFailureReason LegInput)} {r r' : CostResult}
    (same : List.Forall₂ (SameFound W) inputs inputs') (alike : Alike W r r') :
    Outcomes W (fun a b => Alike W a.1 b.1 ∧ List.Forall₂ (SameWork W) a.2 b.2) (capacityLoop r inputs)
      (capacityLoop r' inputs') := by
  induction same generalizing r r' with
  | nil => exact .went ⟨alike,.nil⟩
  | @cons x y inputs inputs' here later ih =>
    cases here with
    | missing reason => exact .refused (failureAlike reason)
    | @found a b same =>
      rw [capacityLoop,capacityLoop,same.2.2.2.1]
      cases calculateBuyCapacity b.assetId b.ratio b.executableSide b.book with
      | mk reason capacity =>
      have more : Alike W {r with legs := r.legs ++ [capacity.leg]} {r' with legs := r'.legs ++ [capacity.leg]} :=
        ⟨alike.executable,alike.qty,alike.cost,alike.average,alike.reason,alike.slippage,
          List.rel_append alike.legs (.cons (legRefl capacity.leg) .nil)⟩
      simp only
      by_cases refused : reason ≠ .none
      · rw [if_pos refused,if_pos refused]
        exact .refused ⟨more.executable,more.qty,more.cost,more.average,rfl,more.slippage,more.legs⟩
      · rw [if_neg refused,if_neg refused]
        refine bindOutcomes (ih more) fun out out' next => ?_
        exact .went ⟨next.1,.cons ⟨same,rfl⟩ next.2⟩
theorem quantityAlike {legs legs' : List FillSimulationLeg} {r r' : CostResult}
    (same : List.Forall₂ (LegAlike W) legs legs')
    (alike : Alike W r r') : Outcomes W (Alike W) (quantityLoop r legs) (quantityLoop r' legs') := by
  induction same generalizing r r' with
  | nil => exact .went alike
  | @cons leg leg' legs legs' here later ih =>
    rw [quantityLoop,quantityLoop,here.enough,here.requested,here.executable,alike.qty]
    split
    · exact .refused ⟨alike.executable,rfl,alike.cost,alike.average,rfl,alike.slippage,alike.legs⟩
    · exact ih ⟨alike.executable,rfl,alike.cost,alike.average,alike.reason,alike.slippage,alike.legs⟩
theorem priceAlike {works works' : List LegWork} {r r' : CostResult} {lots : Int} {index : Nat}
    (same : List.Forall₂ (SameWork W) works works') (alike : Alike W r r') :
    Outcomes W (fun a b => Alike W a.1 b.1 ∧ a.2 = b.2) (priceLoop r lots index works)
      (priceLoop r' lots index works') := by
  induction same generalizing r r' lots index with
  | nil => exact .went ⟨alike,rfl⟩
  | @cons work work' works works' here later ih =>
    obtain ⟨⟨asset,ratio,_,_,prices⟩,capacity⟩ := here
    rw [priceLoop,priceLoop,ratio,alike.qty,capacity]
    cases checkedMulI64 work'.input.ratio r'.bundleQty with
    | none => exact .refused (failureAlike _)
    | some planned =>
      obtain ⟨reasons,priced⟩ := prices planned work'.capacity.leg work'.capacity.leg (legRefl _)
      simp only
      generalize priceBuyLegForQuantity work.input.assetId work.input.book planned work'.capacity.leg =
        left at reasons priced
      generalize priceBuyLegForQuantity work'.input.assetId work'.input.book planned work'.capacity.leg =
        right at reasons priced
      obtain ⟨reason,leg⟩ := left
      obtain ⟨reason',leg'⟩ := right
      cases reasons
      have legs : List.Forall₂ (LegAlike W) (r.legs.set index leg) (r'.legs.set index leg') :=
        ListRelation.forallSet alike.legs index priced
      simp only
      by_cases refused : reason ≠ .none
      · rw [if_pos refused,if_pos refused]
        exact .refused ⟨alike.executable,rfl,alike.cost,alike.average,rfl,alike.slippage,legs⟩
      · rw [if_neg refused,if_neg refused,alike.cost,priced.cost]
        cases checkedAddI64 r'.totalCostTick leg'.totalCostTick with
        | none => exact .refused (failureAlike _)
        | some total =>
          simp only
          cases checkedAddI64 lots planned with
          | none => exact .refused (failureAlike _)
          | some sum =>
            refine ih ⟨alike.executable,rfl,rfl,alike.average,alike.reason,fun w => ?_,legs⟩
            simp only
            rw [alike.slippage w,priced.worst w]
theorem inputsAlike {inputs inputs' : List (Except CostFailureReason LegInput)}
    (same : List.Forall₂ (SameFound W) inputs inputs') :
    Outcomes W (Alike W) (priceInputs inputs) (priceInputs inputs') := by
  have start : Alike W {} {} := ⟨rfl,rfl,rfl,rfl,rfl,fun _ => rfl,.nil⟩
  refine bindOutcomes (capacityAlike same start) fun a b ⟨first,works⟩ => ?_
  refine bindOutcomes (quantityAlike first.legs
    ⟨first.executable,rfl,first.cost,first.average,first.reason,first.slippage,first.legs⟩)
    fun c d second => ?_
  rw [second.qty]
  split
  · exact .refused ⟨second.executable,rfl,second.cost,second.average,rfl,second.slippage,second.legs⟩
  · refine bindOutcomes (priceAlike works second) fun ⟨e,lots⟩ ⟨f,lots'⟩ ⟨third,same⟩ => ?_
    simp only at third same ⊢
    subst same
    split
    · exact .refused (failureAlike _)
    · refine .went ⟨rfl,third.qty,third.cost,?_,rfl,third.slippage,third.legs⟩
      rw [third.qty,third.cost]
theorem settledAlike {x y : Except CostResult CostResult} (outcomes : Outcomes W (Alike W) x y) :
    Alike W (Machine.settled x) (Machine.settled y) := by
  cases outcomes with
  | refused alike => exact alike
  | went alike => exact alike

end

/-! The book of one leg. -/

structure Regular (s : MarketStateSnapshot) : Prop where
  flagged : s.asks ≠ [] → s.hasAsk = true
  lots : depth (askSteps (s.asks.take kMaxSnapshotDepth)) ≤ i64Max
def Rising (asks : List PriceLevel) : Prop := asks.Pairwise fun a b => a.priceTick ≤ b.priceTick

-- The price of the first level with a price and a lot.
def firstPrice : List PriceLevel → Int
  | [] => 0
  | level::rest => if 0 < levelLots level then level.priceTick else firstPrice rest
theorem scanned {asks : List PriceLevel} {out : LegCapacity} (nonneg : 0 ≤ out.leg.executableQtyLots)
    (fits : out.leg.executableQtyLots + depth (askSteps asks) ≤ i64Max) : asks.foldlM scanLevel out =
      .ok ⟨{out.leg with executableQtyLots := out.leg.executableQtyLots + depth (askSteps asks)},
        if out.bestPriceTick = 0 then firstPrice asks else out.bestPriceTick⟩ := by
  induction asks generalizing out with
  | nil =>
    have none : depth (askSteps []) = 0 := rfl
    obtain ⟨leg,best⟩ := out
    rw [none,Int.add_zero]
    change Except.ok _ = _
    simp only [firstPrice]
    split
    · next zero => rw [zero]
    · rfl
  | cons level rest ih =>
    have steps : depth (askSteps (level::rest)) = levelLots level + depth (askSteps rest) :=
      (wholeCons level rest).1
    have here := levelLotsNonneg level
    have later := depthNonneg (askSized rest)
    have least : i64Min ≤ 0 := by decide
    rw [steps] at fits
    rw [List.foldlM_cons,scanLevel,steps,firstPrice]
    simp only
    by_cases skipped : level.priceTick ≤ 0 ∨ priceLevelSizeLots level ≤ 0
    · have none : levelLots level = 0 := by
        have size := sizeLotsNonneg level
        unfold levelLots
        split
        · omega
        · rfl
      rw [if_pos skipped,none,Int.zero_add,if_neg (lt_irrefl 0)]
      exact ih nonneg (by omega)
    · rw [not_or,not_le,not_le] at skipped
      have lots : levelLots level = priceLevelSizeLots level := if_pos skipped.1
      have add : checkedAddI64 out.leg.executableQtyLots (priceLevelSizeLots level) = some _ :=
        checkedAddExact.mpr ⟨⟨by omega,by omega⟩,rfl⟩
      rw [if_neg (by omega),add,lots,if_pos skipped.2]
      have next := @ih ⟨{out.leg with executableQtyLots := out.leg.executableQtyLots + priceLevelSizeLots level},
        if out.bestPriceTick = 0 then level.priceTick else out.bestPriceTick⟩ (by simp only; omega)
          (by simp only; omega)
      refine next.trans ?_
      have priced : ¬ (if out.bestPriceTick = 0 then level.priceTick else out.bestPriceTick) = 0 := by
        split <;> omega
      rw [if_neg priced]
      simp only
      rw [Int.add_assoc]
theorem firstInPrefix {asks : List PriceLevel} {qty cost : Int} (nonneg : 0 ≤ qty) (paid : 0 ≤ cost)
    (fits : qty + depth (askSteps asks) ≤ i64Max) :
    bestAskFromPrefix qty asks (prefixFrom (capped qty) (capped cost) asks) = firstPrice asks := by
  induction asks generalizing qty cost with
  | nil => rfl
  | cons level rest ih =>
    have steps : depth (askSteps (level::rest)) = levelLots level + depth (askSteps rest) :=
      (wholeCons level rest).1
    have here := levelLotsNonneg level
    have later := depthNonneg (askSized rest)
    have price := lotsPriced level
    rw [steps] at fits
    rw [prefixCons rest nonneg paid,bestAskFromPrefix,firstPrice]
    simp only
    rw [cappedExact (show qty + levelLots level ≤ i64Max by omega)]
    by_cases some : 0 < levelLots level
    · rw [if_pos ⟨by omega,levelPriced some⟩,if_pos some]
    · have next := @ih (qty + levelLots level) (cost + level.priceTick * levelLots level) (by omega)
        (by omega) (by omega)
      rw [cappedExact (show qty + levelLots level ≤ i64Max by omega)] at next
      rw [if_neg (by omega),if_neg some]
      exact next

theorem viewPrefix (s : MarketStateSnapshot) (index : Nat) :
    (marketDepthViewFromSnapshot s index).depthPrefix.asks = prefixFrom 0 0 (s.asks.take kMaxSnapshotDepth) :=
  prefixWhole (List.length_take_le _ _)
theorem takenEmpty {asks : List PriceLevel} : asks.take kMaxSnapshotDepth = [] ↔ asks = [] := by
  simp [kMaxSnapshotDepth]
theorem viewFull {s : MarketStateSnapshot} (some : s.asks ≠ []) (index : Nat) :
    (marketDepthViewFromSnapshot s index).depthPrefix.asks ≠ [] := by
  intro gone
  have length := congrArg List.length gone
  rw [viewPrefix,prefixLength] at length
  exact some (takenEmpty.mp (List.length_eq_zero_iff.mp length))

section
variable {s : MarketStateSnapshot} (regular : Regular s) (index : Nat)
include regular

theorem viewDepth : askDepthFromPrefix (marketDepthViewFromSnapshot s index).depthPrefix = depth
    (askSteps (s.asks.take kMaxSnapshotDepth)) :=
  @prefixDepth (s.bids.take kMaxSnapshotDepth) _ (List.length_take_le _ _) regular.lots
theorem capacitySame (assetId : String) (ratio : Int) (side : ExecutableBookSide) :
    calculateBuyCapacity assetId ratio side (.snapshot s) =
      calculateBuyCapacity assetId ratio side (.depth (marketDepthViewFromSnapshot s index)) := by
  have taken : (marketDepthViewFromSnapshot s index).asks = s.asks.take kMaxSnapshotDepth := rfl
  unfold calculateBuyCapacity
  split
  · rfl
  split
  · rfl
  by_cases none : s.asks = []
  · have snapshot : (LegBook.snapshot s).hasAsks = false := by simp [LegBook.hasAsks,none]
    have view : (LegBook.depth (marketDepthViewFromSnapshot s index)).hasAsks = false := by
      simp [LegBook.hasAsks,taken,none]
    rw [snapshot,view,if_pos rfl,if_pos rfl]
  · have snapshot : (LegBook.snapshot s).hasAsks = true := by simp [LegBook.hasAsks,none,regular.flagged none]
    have view : (LegBook.depth (marketDepthViewFromSnapshot s index)).hasAsks = true := by
      simp only [LegBook.hasAsks,taken]
      exact decide_eq_true fun gone => none (takenEmpty.mp gone)
    have best : bestAskFromPrefix 0 (s.asks.take kMaxSnapshotDepth)
      (prefixFrom 0 0 (s.asks.take kMaxSnapshotDepth)) = _ :=
      firstInPrefix le_rfl le_rfl (by rw [Int.zero_add]; exact regular.lots)
    rw [snapshot,view,if_neg Bool.noConfusion,if_neg Bool.noConfusion]
    simp only
    rw [if_pos (viewFull none index),viewDepth regular,taken,viewPrefix,best,scanLevels,
      scanned le_rfl (by simp only [Int.zero_add]; exact regular.lots)]
    simp only [Int.zero_add,if_true]

-- Both books refuse a quantity, or price it alike.
theorem vwapSame (q : Int) (some : 0 < q) :
    ((LegBook.snapshot s).vwap q).ok = ((LegBook.depth (marketDepthViewFromSnapshot s index)).vwap q).ok ∧
    (((LegBook.snapshot s).vwap q).ok = true →
      ((LegBook.snapshot s).vwap q).totalCostTick =
      ((LegBook.depth (marketDepthViewFromSnapshot s index)).vwap q).totalCostTick ∧
      ((LegBook.snapshot s).vwap q).vwapTick =
      ((LegBook.depth (marketDepthViewFromSnapshot s index)).vwap q).vwapTick ∧
      (Rising (s.asks.take kMaxSnapshotDepth) →
        ((LegBook.snapshot s).vwap q).worstPriceTick =
        ((LegBook.depth (marketDepthViewFromSnapshot s index)).vwap q).worstPriceTick)) := by
  have few : (s.asks.take kMaxSnapshotDepth).length ≤ kMaxSnapshotDepth := List.length_take_le _ _
  have linear : (LegBook.snapshot s).vwap q = buyVwapLinear (s.asks.take kMaxSnapshotDepth) q := rfl
  have looked : (LegBook.depth (marketDepthViewFromSnapshot s index)).vwap q =
      if (marketDepthViewFromSnapshot s index).depthPrefix.asks ≠ [] then
        buyVwapPrefix (marketDepthViewFromSnapshot s index).depthPrefix (s.asks.take kMaxSnapshotDepth) q
      else buyVwapLinear ((s.asks.take kMaxSnapshotDepth).take kMaxSnapshotDepth) q := rfl
  rw [linear]
  by_cases none : s.asks = []
  · have gone : s.asks.take kMaxSnapshotDepth = [] := takenEmpty.mpr none
    have unindexed : ¬ (marketDepthViewFromSnapshot s index).depthPrefix.asks ≠ [] := by
      rw [viewPrefix,gone]
      exact not_not.mpr rfl
    rw [looked,if_neg unindexed,gone]
    exact ⟨rfl,fun _ => ⟨rfl,rfl,fun _ => rfl⟩⟩
  rw [looked,if_pos (viewFull none index)]
  by_cases within : q ≤ depth (askSteps (s.asks.take kMaxSnapshotDepth))
  · have swept : buyVwapPrefix (marketDepthViewFromSnapshot s index).depthPrefix
      (s.asks.take kMaxSnapshotDepth) q = _ :=
      @prefixSwept (s.bids.take kMaxSnapshotDepth) _ few regular.lots _ some within
    rw [linearSwept some regular.lots within,swept]
    split
    · refine ⟨rfl,fun _ => ⟨rfl,rfl,fun rising => ?_⟩⟩
      have ascending : Ascending (askSteps (s.asks.take kMaxSnapshotDepth)) := by
        unfold Ascending askSteps
        rw [List.pairwise_map]
        exact rising.imp fun le _ _ => le
      exact worstIsLast (askSized _) (askPriced _) ascending some within
    · exact ⟨rfl,fun ok => (by cases ok)⟩
  · have short := linearShort (not_le.mp within)
    have refused : (buyVwapPrefix (marketDepthViewFromSnapshot s index).depthPrefix
      (s.asks.take kMaxSnapshotDepth) q).ok = false := by
      unfold buyVwapPrefix
      split
      · rfl
      · rw [viewDepth regular,if_pos (not_le.mp within)]
    rw [short,refused]
    exact ⟨rfl,fun ok => (by cases ok)⟩
theorem bookSame {W : Prop} (rising : W → Rising (s.asks.take kMaxSnapshotDepth)) (assetId : String)
    (ratio : Int) (side : ExecutableBookSide) :
    SameInput W ⟨assetId,ratio,side,.snapshot s⟩
      ⟨assetId,ratio,side,.depth (marketDepthViewFromSnapshot s index)⟩ := by
  refine ⟨rfl,rfl,rfl,capacitySame regular index assetId ratio side,fun q leg leg' alike => ?_⟩
  unfold priceBuyLegForQuantity
  by_cases idle : q ≤ 0
  · rw [if_pos idle,if_pos idle]
    exact ⟨rfl,alike⟩
  rw [if_neg idle,if_neg idle]
  obtain ⟨ok,prices⟩ := vwapSame regular index q (not_le.mp idle)
  simp only
  rw [← ok]
  by_cases refused : ((LegBook.snapshot s).vwap q).ok = false
  · rw [if_pos refused,if_pos refused]
    exact ⟨rfl,alike⟩
  · obtain ⟨cost,vwap,worst⟩ := prices (by simpa using refused)
    rw [if_neg refused,if_neg refused]
    exact ⟨rfl,rfl,alike.requested,alike.executable,vwap,cost,rfl,fun w => worst (rising w)⟩

end

end Polytope.PricingAgreement
