import Polytope.PrefixSweep

/-! The level by level walk over an ask side: as long as the sums fit, it is the sweep of the book, and where
they do not it refuses. -/
namespace Polytope.LinearSweep
open FixedPointMath MarketDepth AskSweep SizingState PrefixSweep

theorem linearTaken {w : LinearWalk} {level : PriceLevel} (left : 0 ≤ w.remaining)
    (seen : 0 ≤ w.result.executableQtyLots)
    (paid : 0 ≤ w.result.totalCostTick) (lots : w.result.executableQtyLots + levelLots level ≤ i64Max)
    (costs : w.result.totalCostTick + level.priceTick * min w.remaining (levelLots level) ≤ i64Max) :
    linearLevel w level = some ⟨w.remaining - min w.remaining (levelLots level),
      {w.result with
        executableQtyLots := w.result.executableQtyLots + levelLots level
        totalCostTick := w.result.totalCostTick + level.priceTick * min w.remaining (levelLots level)
        worstPriceTick := if 0 < min w.remaining (levelLots level) then max w.result.worstPriceTick level.priceTick
          else w.result.worstPriceTick}⟩ := by
  have least : i64Min ≤ 0 := by decide
  unfold linearLevel
  simp only
  split
  · next skipped =>
    have none : levelLots level = 0 := by
      have size := sizeLotsNonneg level
      unfold levelLots
      split
      · omega
      · rfl
    rw [none,min_eq_right left,Int.mul_zero,Int.add_zero,Int.add_zero,Int.sub_zero,if_neg (lt_irrefl 0)]
  · next counted =>
    rw [not_or,not_le,not_le] at counted
    obtain ⟨price,size⟩ := counted
    have same : levelLots level = priceLevelSizeLots level := if_pos price
    rw [same] at lots costs ⊢
    have add : checkedAddI64 w.result.executableQtyLots (priceLevelSizeLots level) = some _ :=
      checkedAddExact.mpr ⟨⟨by omega,by omega⟩,rfl⟩
    simp only [add,bind,Option.bind_some]
    split
    · next done =>
      rw [show w.remaining = 0 by omega,min_eq_left
        (le_of_lt size),Int.mul_zero,Int.add_zero,Int.sub_zero,if_neg (lt_irrefl 0)]
    · next more =>
      have nonneg : 0 ≤ level.priceTick * min w.remaining (priceLevelSizeLots level) :=
        Int.mul_nonneg (le_of_lt price) (by omega)
      have mul : checkedMulI64 level.priceTick (min w.remaining (priceLevelSizeLots level)) = some _ :=
        checkedMulExact.mpr ⟨⟨by omega,by omega⟩,rfl⟩
      have sum : checkedAddI64 w.result.totalCostTick
        (level.priceTick * min w.remaining (priceLevelSizeLots level)) = some _ :=
        checkedAddExact.mpr ⟨⟨by omega,by omega⟩,rfl⟩
      simp only [mul,sum,Option.bind_some]
      rw [if_pos (show 0 < min w.remaining (priceLevelSizeLots level) by omega)]
theorem linearWalked {asks : List PriceLevel} {w : LinearWalk} (left : 0 ≤ w.remaining)
    (seen : 0 ≤ w.result.executableQtyLots)
    (paid : 0 ≤ w.result.totalCostTick) (worst : 0 ≤ w.result.worstPriceTick)
    (lots : w.result.executableQtyLots + depth (askSteps asks) ≤ i64Max)
    (costs : w.result.totalCostTick + sweep (askSteps asks) w.remaining ≤ i64Max) :
    asks.foldlM linearLevel w = some ⟨w.remaining - min w.remaining (depth (askSteps asks)),
      {w.result with
        executableQtyLots := w.result.executableQtyLots + depth (askSteps asks)
        totalCostTick := w.result.totalCostTick + sweep (askSteps asks) w.remaining
        worstPriceTick := max w.result.worstPriceTick (worstPrice (askSteps asks) w.remaining)}⟩ := by
  induction asks generalizing w with
  | nil =>
    have none : depth (askSteps []) = 0 := rfl
    have free : sweep (askSteps []) w.remaining = 0 := rfl
    have unpriced : worstPrice (askSteps []) w.remaining = 0 := rfl
    rw [none,free,unpriced,min_eq_right left,max_eq_left worst,Int.add_zero,Int.add_zero,Int.sub_zero]
    rfl
  | cons level rest ih =>
    have steps : askSteps (level::rest) = (level.priceTick,levelLots level)::askSteps rest := rfl
    have here := levelLotsNonneg level
    have later := depthNonneg (askSized rest)
    have price := lotsPriced level
    have taken : 0 ≤ level.priceTick * min w.remaining (levelLots level) := by
      rcases Int.lt_or_eq_of_le here with some | none
      · exact Int.mul_nonneg (le_of_lt (levelPriced some)) (by omega)
      · rw [← none,min_eq_right left,Int.mul_zero]
    have others := sweepNonneg (askSized rest) (askPriced rest)
      (show 0 ≤ w.remaining - min w.remaining (levelLots level) by omega)
    rw [steps,depthCons] at lots
    rw [steps,sweep] at costs
    simp only at lots
    rw [List.foldlM_cons,linearTaken left seen paid (by omega) (by omega)]
    simp only [bind,Option.bind_some]
    rw [ih (by simp only; omega) (by simp only; omega) (by simp only; omega) (by simp only; split <;> omega)
      (by simp only; omega) (by simp only; omega)]
    rw [steps,depthCons,sweep,worstPrice]
    simp only
    congr 2
    · omega
    · congr 1
      · omega
      · split
        · omega
        · rfl
      · omega

/-! What a walk that ends has paid. -/

theorem linearLevelPaid {w : LinearWalk} {level next} (left : 0 ≤ w.remaining)
    (paid : InI64 w.result.totalCostTick)
    (taken : linearLevel w level = some next) : next.remaining = w.remaining - min w.remaining (levelLots level) ∧
      next.result.totalCostTick = w.result.totalCostTick + level.priceTick * min w.remaining (levelLots level) ∧
      InI64 next.result.totalCostTick ∧ next.result.ok = w.result.ok := by
  have size := sizeLotsNonneg level
  unfold linearLevel at taken
  simp only at taken
  split at taken
  · next skipped =>
    cases taken
    have none : levelLots level = 0 := by
      unfold levelLots
      split
      · omega
      · rfl
    rw [none,min_eq_right left,Int.mul_zero,Int.add_zero,Int.sub_zero]
    exact ⟨rfl,rfl,paid,rfl⟩
  · next counted =>
    rw [not_or,not_le,not_le] at counted
    have same : levelLots level = priceLevelSizeLots level := if_pos counted.1
    rw [same]
    obtain ⟨_,_,taken⟩ := Option.bind_eq_some_iff.mp taken
    split at taken
    · cases taken
      rw [show w.remaining = 0 by omega,min_eq_left size,Int.mul_zero,Int.add_zero,Int.sub_zero]
      exact ⟨rfl,rfl,paid,rfl⟩
    · obtain ⟨levelCost,product,taken⟩ := Option.bind_eq_some_iff.mp taken
      obtain ⟨total,sum,taken⟩ := Option.bind_eq_some_iff.mp taken
      obtain ⟨_,rfl⟩ := checkedMulExact.mp product
      obtain ⟨fits,rfl⟩ := checkedAddExact.mp sum
      cases taken
      exact ⟨rfl,rfl,fits,rfl⟩
theorem linearPaid {asks : List PriceLevel} {w out : LinearWalk} (left : 0 ≤ w.remaining)
    (paid : InI64 w.result.totalCostTick)
    (walked : asks.foldlM linearLevel w = some out) :
    out.remaining = w.remaining - min w.remaining (depth (askSteps asks)) ∧
      out.result.totalCostTick = w.result.totalCostTick + sweep (askSteps asks) w.remaining ∧
        InI64 out.result.totalCostTick ∧
      out.result.ok = w.result.ok := by
  induction asks generalizing w with
  | nil =>
    cases walked
    have none : depth (askSteps []) = 0 := rfl
    have free : sweep (askSteps []) out.remaining = 0 := rfl
    rw [none,free,min_eq_right left,Int.add_zero,Int.sub_zero]
    exact ⟨rfl,rfl,paid,rfl⟩
  | cons level rest ih =>
    rw [List.foldlM_cons] at walked
    obtain ⟨next,taken,later⟩ := Option.bind_eq_some_iff.mp walked
    obtain ⟨remaining,total,fits,ok⟩ := linearLevelPaid left paid taken
    have steps : askSteps (level::rest) = (level.priceTick,levelLots level)::askSteps rest := rfl
    have here := levelLotsNonneg level
    have others := depthNonneg (askSized rest)
    obtain ⟨left',total',paid',ok'⟩ := ih (by omega) fits later
    rw [total,remaining] at total'
    rw [steps,depthCons,sweep,← Int.add_assoc]
    exact ⟨by simp only; omega,total',paid',ok'.trans ok⟩
theorem linearSwept {asks : List PriceLevel} {q : Int} (some : 0 < q) (lots : depth (askSteps asks) ≤ i64Max)
    (within : q ≤ depth (askSteps asks)) : buyVwapLinear asks q =
      if sweep (askSteps asks) q ≤ i64Max then
        ⟨true,sweep (askSteps asks) q,(sweep (askSteps asks) q).tdiv q,worstPrice (askSteps asks) q,depth
          (askSteps asks)⟩
      else {} := by
  have full : asks ≠ [] := by
    rintro rfl
    have none : q ≤ 0 := within
    omega
  have zero : InI64 0 := by decide
  unfold buyVwapLinear
  rw [if_neg (not_or.mpr ⟨full,by omega⟩)]
  by_cases fits : sweep (askSteps asks) q ≤ i64Max
  · have walked : asks.foldlM linearLevel ⟨q,{}⟩ = _ :=
      linearWalked (le_of_lt some) le_rfl le_rfl le_rfl (by simp only; omega) (by simp only; omega)
    have nonneg : 0 ≤ worstPrice (askSteps asks) q := worstNonneg _ _
    rw [walked,if_pos fits]
    simp only [Int.zero_add]
    rw [min_eq_left within,Int.sub_self,if_neg (lt_irrefl 0),max_eq_right nonneg]
  · rw [if_neg fits]
    cases walked : asks.foldlM linearLevel ⟨q,{}⟩ with
    | none => rfl
    | some out =>
      obtain ⟨_,total,paid,_⟩ := linearPaid (le_of_lt some) zero walked
      rw [total,Int.zero_add] at paid
      exact absurd paid.2 fits
theorem linearShort {asks : List PriceLevel} {q : Int} (short : depth (askSteps asks) < q) :
    (buyVwapLinear asks q).ok = false := by
  unfold buyVwapLinear
  split
  · rfl
  · have nonneg := depthNonneg (askSized asks)
    have zero : InI64 0 := by decide
    cases walked : asks.foldlM linearLevel ⟨q,{}⟩ with
    | none => rfl
    | some out =>
      obtain ⟨left,_,_,ok⟩ := linearPaid (by simp only; omega) zero walked
      simp only at left ⊢
      rw [if_pos (by omega)]
      exact ok
theorem linearCost {asks : List PriceLevel} {q : Int} (ok : (buyVwapLinear asks q).ok = true) :
    0 < q ∧ (buyVwapLinear asks q).totalCostTick = sweep (askSteps asks) q := by
  have zero : InI64 0 := by decide
  unfold buyVwapLinear at ok ⊢
  split at ok
  · cases ok
  next some =>
  rw [if_neg some]
  rw [not_or,not_le] at some
  cases walked : asks.foldlM linearLevel ⟨q,{}⟩ with
  | none =>
    rw [walked] at ok
    cases ok
  | some out =>
    obtain ⟨_,total,_,unset⟩ := linearPaid (le_of_lt some.2) zero walked
    rw [walked] at ok
    simp only at ok total unset ⊢
    rw [Int.zero_add] at total
    split at ok
    · rw [unset] at ok
      cases ok
    · next done =>
      rw [if_neg done]
      exact ⟨some.2,total⟩

end Polytope.LinearSweep
