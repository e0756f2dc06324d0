import Polytope.LinearSweep
import Polytope.CurvePricing

/-! The five ways a quantity is priced against an ask side: a walk over the levels, three look-ups in the
depth prefix and one in the cost curve. On a book whose prices do not fall and whose sums fit, they
accept the same quantities and give the same cost, average price and worst price. -/
namespace Polytope.VwapAgreement
open FixedPointMath MarketDepth SizeCandidates AskSweep SizingState PrefixSweep LinearSweep CurvePricing
open CombinatorialBundles (BundleLeg)

-- The level a quantity ends in, with the cost up to it: what the three prefix look-ups share.
def prefixLookup (p : DepthPrefix) (asks : List PriceLevel) (qtyLots : Int) : Option (Int × Int × Nat) :=
  if askDepthFromPrefix p < qtyLots then none else do
    let index ← p.asks.findIdx? fun level => decide (qtyLots ≤ level.cumQty)
    let before := if index = 0 then ⟨0,0⟩ else p.asks.getD (index - 1) ⟨0,0⟩
    let remaining := qtyLots - before.cumQty
    let price := (asks.map PriceLevel.priceTick).getD index 0
    if remaining < 0 ∨ price ≤ 0 then none else
      let partialCost ← checkedMulI64 price remaining
      let total ← checkedAddI64 before.cumCost partialCost
      some (total,price,index)

namespace State

structure PrefixVwapResult where
  ok : Bool := false
  qtyLots : Int := 0
  totalCostTick : Int := 0
  vwapTick : Int := 0
  worstPriceTick : Int := 0
  deriving DecidableEq, Repr
def buyVwapFromPrefix (asks : List PriceLevel) (p : DepthPrefix) (qtyLots : Int) : PrefixVwapResult :=
  if qtyLots ≤ 0 ∨ p.asks = [] then {qtyLots}
  else match prefixLookup p asks qtyLots with
    | none => {qtyLots}
    | some (total,price,_) => ⟨true,qtyLots,total,total.tdiv qtyLots,price⟩

end State

namespace OrderDecision

structure PrefixVwapResult where
  ok : Bool := false
  qtyLots : Int := 0
  totalCostTick : Int := 0
  vwapTick : Int := 0
  worstPriceTick : Int := 0
  levelIndex : Nat := 0
  deriving DecidableEq, Repr
def buyVwapFromPrefix (view : MarketDepthView) (qtyLots : Int) : PrefixVwapResult :=
  if qtyLots ≤ 0 ∨ view.asks = [] ∨ view.depthPrefix.asks = [] ∨
    view.asks.length < view.depthPrefix.asks.length then {qtyLots}
  else match prefixLookup view.depthPrefix view.asks qtyLots with
    | none => {qtyLots}
    | some (total,price,index) => ⟨true,qtyLots,total,total.tdiv qtyLots,price,index⟩

end OrderDecision

/-! What a caller takes from an accepted quantity. -/

structure Quote where
  totalCostTick : Int
  vwapTick : Int
  worstPriceTick : Int
  deriving DecidableEq, Repr
def accepted (ok : Bool) (quote : Quote) : Option Quote := if ok then some quote else none

def quoteLinear (view : MarketDepthView) (qtyLots : Int) : Option Quote :=
  let r := buyVwapLinear view.asks qtyLots
  accepted r.ok ⟨r.totalCostTick,r.vwapTick,r.worstPriceTick⟩
def quotePrefix (view : MarketDepthView) (qtyLots : Int) : Option Quote :=
  let r := buyVwapPrefix view.depthPrefix view.asks qtyLots
  accepted r.ok ⟨r.totalCostTick,r.vwapTick,r.worstPriceTick⟩
def quoteState (view : MarketDepthView) (qtyLots : Int) : Option Quote :=
  let r := State.buyVwapFromPrefix view.asks view.depthPrefix qtyLots
  accepted r.ok ⟨r.totalCostTick,r.vwapTick,r.worstPriceTick⟩
def quoteDecision (view : MarketDepthView) (qtyLots : Int) : Option Quote :=
  let r := OrderDecision.buyVwapFromPrefix view qtyLots
  accepted r.ok ⟨r.totalCostTick,r.vwapTick,r.worstPriceTick⟩
-- A book without a level worth a lot has the empty curve.
def quoteCurve (leg : BundleLeg) (view : MarketDepthView) (qtyLots : Int) : Option Quote :=
  let r := costForQuantity ((buildBuyCurve leg view).toOption.getD {}) qtyLots
  accepted r.ok ⟨r.totalCostTick,r.vwapTick,r.worstPriceTick⟩

-- The quote of the book itself.
def quoteBook (asks : List PriceLevel) (qtyLots : Int) : Option Quote :=
  if 0 < qtyLots ∧ qtyLots ≤ depth (askSteps asks) then
    some ⟨sweep (askSteps asks) qtyLots,(sweep (askSteps asks) qtyLots).tdiv qtyLots,lastPrice
      (askSteps asks) qtyLots⟩
  else none

structure ExactBook (view : MarketDepthView) : Prop where
  few : view.asks.length ≤ kMaxSnapshotDepth
  rising : view.asks.Pairwise fun a b => a.priceTick ≤ b.priceTick
  built : view.depthPrefix = buildDepthPrefix view.bids view.asks
  lots : depth (askSteps view.asks) ≤ i64Max
  costs : wholeCost view.asks ≤ i64Max

theorem bookAscending {view : MarketDepthView} (booked : ExactBook view) : Ascending (askSteps view.asks) := by
  unfold Ascending askSteps
  rw [List.pairwise_map]
  exact booked.rising.imp fun le _ _ => le

/-! The prefix. -/

theorem prefixQuote {p : DepthPrefix} {asks : List PriceLevel} {q : Int}
    (shape : ¬ (q ≤ 0 ∨ p.asks = [] ∨ asks = [] ∨ asks.length < p.asks.length)) :
    accepted (buyVwapPrefix p asks q).ok
      ⟨(buyVwapPrefix p asks q).totalCostTick,(buyVwapPrefix p asks q).vwapTick,(buyVwapPrefix p asks
        q).worstPriceTick⟩ =
      (prefixLookup p asks q).map fun out => ⟨out.1,out.1.tdiv q,out.2.1⟩ := by
  unfold buyVwapPrefix prefixLookup
  rw [if_neg shape]
  simp only
  split
  · rfl
  cases p.asks.findIdx? fun level => decide (q ≤ level.cumQty) with
  | none => rfl
  | some index =>
    simp only [bind,Option.bind_some]
    generalize (if index = 0 then (⟨0,0⟩ : PrefixLevel) else p.asks.getD (index - 1) ⟨0,0⟩) = before
    generalize (asks.map PriceLevel.priceTick).getD index 0 = price
    by_cases refused : q - before.cumQty < 0 ∨ price ≤ 0
    · rw [if_pos refused,if_pos refused]
      rfl
    rw [if_neg refused,if_neg refused]
    cases checkedMulI64 price (q - before.cumQty) with
    | none => rfl
    | some partialCost =>
      simp only [Option.bind_some]
      cases checkedAddI64 before.cumCost partialCost with
      | none => rfl
      | some total => rfl
theorem quoteNothing {asks : List PriceLevel} {q : Int} (none : q ≤ 0 ∨ asks = []) : quoteBook asks q = .none := by
  refine if_neg fun inside => ?_
  rcases none with small | empty
  · omega
  · rw [empty] at inside
    have within : q ≤ 0 := inside.2
    omega

section
variable {view : MarketDepthView} (booked : ExactBook view)
include booked

theorem bookedLength : view.depthPrefix.asks.length = view.asks.length := by
  rw [booked.built,prefixWhole booked.few,prefixLength]
theorem bookedShape {q : Int} (some : 0 < q) (asks : view.asks ≠ []) :
    ¬ (q ≤ 0 ∨ view.depthPrefix.asks = [] ∨ view.asks = [] ∨ view.asks.length < view.depthPrefix.asks.length) := by
  have length := bookedLength booked
  have full : view.depthPrefix.asks ≠ [] := by
    intro none
    rw [none] at length
    exact asks (List.length_eq_zero_iff.mp length.symm)
  rintro (small | none | none | longer)
  · omega
  · exact full none
  · exact asks none
  · omega
theorem quotePrefixBook (q : Int) : quotePrefix view q = quoteBook view.asks q := by
  have visible : askDepthFromPrefix view.depthPrefix = depth (askSteps view.asks) := by
    rw [booked.built]
    exact prefixDepth booked.few booked.lots
  unfold quotePrefix quoteBook
  by_cases inside : 0 < q ∧ q ≤ depth (askSteps view.asks)
  · rw [if_pos inside,booked.built,prefixPriced booked.few booked.lots booked.costs inside.1 inside.2]
    rfl
  · rw [if_neg inside]
    unfold buyVwapPrefix
    split
    · rfl
    · rw [visible,if_pos (by omega)]
      rfl
theorem quoteLookup {q : Int} (some : 0 < q) (asks : view.asks ≠ []) :
    (prefixLookup view.depthPrefix view.asks q).map
    (fun out => (⟨out.1,out.1.tdiv q,out.2.1⟩ : Quote)) = quoteBook view.asks q := by
  rw [← prefixQuote (bookedShape booked some asks)]
  exact quotePrefixBook booked q
theorem quoteStateBook (q : Int) : quoteState view q = quoteBook view.asks q := by
  have length := bookedLength booked
  unfold quoteState State.buyVwapFromPrefix
  by_cases none : q ≤ 0 ∨ view.asks = []
  · have refused : q ≤ 0 ∨ view.depthPrefix.asks = [] := none.imp_right fun empty => by
      rw [empty] at length
      exact List.length_eq_zero_iff.mp length
    rw [quoteNothing none,if_pos refused]
    rfl
  · rw [not_or,not_le] at none
    have shape := bookedShape booked none.1 none.2
    rw [← quoteLookup booked none.1 none.2,if_neg fun refused => shape (refused.imp_right .inl)]
    cases prefixLookup view.depthPrefix view.asks q with
    | none => rfl
    | some out => rfl
theorem quoteDecisionBook (q : Int) : quoteDecision view q = quoteBook view.asks q := by
  unfold quoteDecision OrderDecision.buyVwapFromPrefix
  by_cases none : q ≤ 0 ∨ view.asks = []
  · rw [quoteNothing none,if_pos (none.imp_right .inl)]
    rfl
  · rw [not_or,not_le] at none
    have shape := bookedShape booked none.1 none.2
    rw [← quoteLookup booked none.1 none.2,if_neg fun refused => shape (by tauto)]
    cases prefixLookup view.depthPrefix view.asks q with
    | none => rfl
    | some out => rfl

end

/-! The walk. -/

theorem quoteLinearBook {view : MarketDepthView} (booked : ExactBook view) (q : Int) :
    quoteLinear view q = quoteBook view.asks q := by
  have sized := askSized view.asks
  have priced := askPriced view.asks
  have costs := booked.costs
  unfold quoteLinear quoteBook
  by_cases some : 0 < q
  · by_cases within : q ≤ depth (askSteps view.asks)
    · have below : sweep (askSteps view.asks) q ≤ wholeCost view.asks :=
        sweepMono sized priced (le_of_lt some) within
      rw [linearSwept some booked.lots within,if_pos (le_trans below costs),if_pos ⟨some,within⟩,
        worstIsLast sized priced (bookAscending booked) some within]
      rfl
    · rw [if_neg fun inside => within inside.2]
      simp only
      rw [linearShort (not_le.mp within)]
      rfl
  · have idle : buyVwapLinear view.asks q = {} := if_pos (.inr (not_lt.mp some))
    rw [idle,if_neg fun inside => some inside.1]
    rfl

/-! The curve. -/

theorem quoteCurveBook {leg : BundleLeg} {view : MarketDepthView} (buy : leg.side = .buy)
    (booked : ExactBook view) (q : Int) :
    quoteCurve leg view q = quoteBook view.asks q := by
  have whole : bookDepth view.asks = depth (askSteps view.asks) :=
    (bookWhole booked.few).trans (askDepth view.asks).symm
  have lots := booked.lots
  have costs := booked.costs
  unfold quoteCurve
  by_cases some : 0 < depth (askSteps view.asks)
  · have bookCosts : bookCost view.asks = wholeCost view.asks := by
      unfold bookCost wholeCost
      rw [bookSweep (by omega) le_rfl,whole]
    obtain ⟨curve,built⟩ := curveDone buy (by omega) (by omega) (show bookCost view.asks ≤ i64Max by omega)
    have of := curveOf built
    have total := of.total
    rw [built]
    change accepted (costForQuantity curve q).ok _ = _
    unfold quoteBook
    by_cases inside : 0 < q ∧ q ≤ depth (askSteps view.asks)
    · have within : q ≤ curve.totalQtyLots := by omega
      have same := curveSweep of (le_of_lt inside.1) within
      have upper := sweepMono (askSized view.asks) (askPriced view.asks) (le_of_lt inside.1) inside.2
      change sweep (askSteps view.asks) q ≤ wholeCost view.asks at upper
      have fits : sweep (curveSteps curve.levels) q ≤ i64Max := by omega
      change accepted (costForQuantity curve q).ok
        ⟨(costForQuantity curve q).totalCostTick,(costForQuantity curve q).vwapTick,
        (costForQuantity curve q).worstPriceTick⟩ = _
      rw [if_pos inside,pricedDirect built inside.1 within fits,same,curveLast of inside.1 within]
      rfl
    · have refused : q ≤ 0 ∨ curve.levels = [] ∨ curve.totalQtyLots < q := by omega
      rw [if_neg inside]
      unfold costForQuantity
      rw [if_pos refused]
      rfl
  · have none : ∃ reject, buildBuyCurve leg view = .error reject := by
      cases built : buildBuyCurve leg view with
      | error reject => exact ⟨reject,rfl⟩
      | ok curve =>
        have of := curveOf built
        have total := of.total
        have positive := of.some
        omega
    obtain ⟨reject,refused⟩ := none
    rw [refused]
    unfold quoteBook
    rw [if_neg fun inside => some (by omega)]
    change accepted (costForQuantity {} q).ok _ = _
    unfold costForQuantity
    rw [if_pos (.inr (.inl rfl))]
    rfl

theorem vwapAgreement (leg : BundleLeg) (buy : leg.side = .buy) (view : MarketDepthView)
    (booked : ExactBook view) (qtyLots : Int) :
    quoteLinear view qtyLots = quotePrefix view qtyLots ∧ quoteState view qtyLots = quotePrefix view qtyLots ∧
    quoteDecision view qtyLots = quotePrefix view qtyLots ∧
      quoteCurve leg view qtyLots = quotePrefix view qtyLots := by
  rw [quotePrefixBook booked,quoteLinearBook booked,quoteStateBook booked,quoteDecisionBook
    booked,quoteCurveBook buy booked]
  exact ⟨rfl,rfl,rfl,rfl⟩

-- A level without a price and one of half a lot stand before and between the levels bought from.
def raggedAsks : List PriceLevel :=
  [⟨0,⟨0x4014000000000000⟩⟩,⟨30,⟨0x4014000000000000⟩⟩,⟨40,⟨0x3fe0000000000000⟩⟩,⟨50,⟨0x4014000000000000⟩⟩]
def raggedView : MarketDepthView := {asks := raggedAsks, depthPrefix := buildDepthPrefix [] raggedAsks}
theorem raggedAgreement : quotePrefix raggedView 7 = some ⟨250,35,50⟩ ∧
    quoteLinear raggedView 7 = quotePrefix raggedView 7 ∧ quoteState raggedView 7 = quotePrefix raggedView 7 ∧
    quoteDecision raggedView 7 = quotePrefix raggedView 7 ∧
      quoteCurve {} raggedView 7 = quotePrefix raggedView 7 := by
  have booked : ExactBook raggedView := ⟨by decide,by decide,rfl,by decide +kernel,by decide +kernel⟩
  exact ⟨by decide +kernel,vwapAgreement {} rfl raggedView booked 7⟩

end Polytope.VwapAgreement
