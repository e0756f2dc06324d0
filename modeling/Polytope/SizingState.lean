import Polytope.BundleSizing
import Polytope.AskSweep
import Polytope.CandidateCursor

/-! The curves and the incrementally filled state of the size optimizer against the sweep of the ask books:
whatever candidates came before, a state at a bundle quantity holds what sweeping each book once
for that quantity costs. -/
namespace Polytope.SizingState
open FixedPointMath MarketDepth SizeCandidates BundleSizing AskSweep
open CombinatorialBundles (BundleLeg)

def askSteps (asks : List PriceLevel) : List Step := asks.map fun level => (level.priceTick,levelLots level)
def curveSteps (levels : List CostCurveLevel) : List Step :=
  levels.map fun level => (level.priceTick,level.sizeLots)
-- The levels of a book a curve has room for.
def bookSteps (asks : List PriceLevel) : List Step := (filled (askSteps asks)).take kMaxCostCurveLevels
def bookDepth (asks : List PriceLevel) : Int := depth (bookSteps asks)
def bookCost (asks : List PriceLevel) : Int := sweep (bookSteps asks) (bookDepth asks)

theorem levelLotsNonneg (level : PriceLevel) : 0 ≤ levelLots level := by
  unfold levelLots
  split
  · exact sizeLotsNonneg level
  · exact le_rfl
theorem levelPriced {level : PriceLevel} (some : 0 < levelLots level) : 0 < level.priceTick := by
  unfold levelLots at some
  split at some
  · next priced => exact priced
  · exact absurd some (lt_irrefl 0)
theorem askSized (asks : List PriceLevel) : Sized (askSteps asks) := by
  intro step mem
  obtain ⟨level,_,rfl⟩ := List.mem_map.mp mem
  exact levelLotsNonneg level
theorem askPriced (asks : List PriceLevel) : Priced (askSteps asks) := by
  intro step mem some
  obtain ⟨level,_,rfl⟩ := List.mem_map.mp mem
  exact levelPriced some
theorem askDepth (asks : List PriceLevel) : depth (askSteps asks) = visibleAskLots asks := by
  unfold depth askSteps visibleAskLots
  rw [List.map_map]
  rfl

theorem bookSized (asks : List PriceLevel) : Sized (bookSteps asks) :=
  fun step mem => filledSized (askSized asks) step (List.mem_of_mem_take mem)
theorem bookPriced (asks : List PriceLevel) : Priced (bookSteps asks) :=
  fun step mem => askPriced asks step (List.mem_of_mem_filter (List.mem_of_mem_take mem))
theorem bookFront (asks more : List PriceLevel) : ∃ rest, bookSteps (asks ++ more) = bookSteps asks ++ rest := by
  have split : filled (askSteps (asks ++ more)) = filled (askSteps asks) ++ filled (askSteps more) := by
    unfold filled askSteps
    rw [List.map_append,List.filter_append]
  refine ⟨(filled (askSteps more)).take (kMaxCostCurveLevels - (filled (askSteps asks)).length),?_⟩
  unfold bookSteps
  rw [split,List.take_append]
theorem bookGrows (asks more : List PriceLevel) : bookDepth asks ≤ bookDepth (asks ++ more) ∧
    bookCost asks ≤ bookCost (asks ++ more) := by
  obtain ⟨rest,front⟩ := bookFront asks more
  have sized := front ▸ bookSized (asks ++ more)
  have priced := front ▸ bookPriced (asks ++ more)
  have later := depthNonneg (sizedAppend.mp sized).2
  unfold bookCost bookDepth
  rw [front,depthAppend,sweepCut (sizedAppend.mp sized).1 (by omega)]
  have costs : 0 ≤ sweep rest (depth (bookSteps asks) + depth rest - depth (bookSteps asks)) :=
    sweepNonneg (sizedAppend.mp sized).2 (fun step mem => priced step (List.mem_append_right _ mem)) (by omega)
  constructor
  · omega
  · omega

theorem bookParts (asks : List PriceLevel) :
    bookSteps asks ++ (filled (askSteps asks)).drop kMaxCostCurveLevels = filled (askSteps asks) :=
  List.take_append_drop kMaxCostCurveLevels (filled (askSteps asks))
theorem bookPartsSized (asks : List PriceLevel) :
    Sized (bookSteps asks ++ (filled (askSteps asks)).drop kMaxCostCurveLevels) := by
  rw [bookParts]
  exact filledSized (askSized asks)
theorem bookPositive {asks : List PriceLevel} : ∀ step ∈ bookSteps asks, 0 < step.1 ∧ 0 < step.2 := by
  intro step mem
  obtain ⟨inside,lots⟩ := List.mem_filter.mp (List.mem_of_mem_take mem)
  exact ⟨askPriced asks step inside (of_decide_eq_true lots),of_decide_eq_true lots⟩
theorem bookSplit (asks : List PriceLevel) :
    bookDepth asks + depth ((filled (askSteps asks)).drop kMaxCostCurveLevels) = visibleAskLots asks := by
  unfold bookDepth
  rw [← depthAppend,bookParts,filledDepth (askSized asks),askDepth]
theorem bookWithin (asks : List PriceLevel) : bookDepth asks ≤ visibleAskLots asks := by
  have split := bookSplit asks
  have left := depthNonneg (sizedAppend.mp (bookPartsSized asks)).2
  omega
theorem bookWhole {asks : List PriceLevel} (few : asks.length ≤ kMaxCostCurveLevels) :
    bookDepth asks = visibleAskLots asks := by
  have short : (filled (askSteps asks)).length ≤ kMaxCostCurveLevels :=
    le_trans (List.length_filter_le _ _) (by rw [askSteps,List.length_map]; exact few)
  have none : depth ((filled (askSteps asks)).drop kMaxCostCurveLevels) = 0 := by
    rw [List.drop_of_length_le short]
    rfl
  have split := bookSplit asks
  omega
theorem bookSweep {asks : List PriceLevel} {q : Int} (nonneg : 0 ≤ q) (within : q ≤ bookDepth asks) :
    sweep (bookSteps asks) q = sweep (askSteps asks) q := by
  rw [← filledSweep (askSized asks) nonneg,← bookParts]
  exact (sweepFrontOf (bookPartsSized asks) nonneg within).symm
theorem bookLast {asks : List PriceLevel} {q : Int} (some : 0 < q) (within : q ≤ bookDepth asks) :
    lastPrice (bookSteps asks) q = lastPrice (askSteps asks) q := by
  rw [← filledLast (askSized asks) some,← bookParts]
  exact (lastFrontOf within some).symm

/-! The curve of a book. -/

structure Built (asks : List PriceLevel) (levels : List CostCurveLevel) (qty cost : Int) : Prop where
  steps : curveSteps levels = bookSteps asks
  ends : levels.map CostCurveLevel.cumulativeQtyLots = breakpoints 0 (curveSteps levels)
  qty : qty = depth (curveSteps levels)
  cost : cost = sweep (curveSteps levels) (depth (curveSteps levels))

theorem takeSnoc {steps : List Step} {n : Nat} (step : Step) (room : (steps.take n).length < n) :
    (steps ++ [step]).take n = steps.take n ++ [step] := by
  rw [List.length_take] at room
  rw [List.take_of_length_le
    (by rw [List.length_append,List.length_singleton]; omega),List.take_of_length_le (by omega)]
theorem filledSnoc (asks : List PriceLevel) (level) : filled (askSteps (asks ++ [level])) =
    filled (askSteps asks) ++ (if 0 < levelLots level then [(level.priceTick,levelLots level)] else []) := by
  unfold filled askSteps
  rw [List.map_append,List.filter_append]
  congr 1
  by_cases some : 0 < levelLots level
  · simp [some]
  · simp [some]
theorem bookTaken {asks : List PriceLevel} {level} (room : (bookSteps asks).length < kMaxCostCurveLevels)
    (some : 0 < levelLots level) :
    bookSteps (asks ++ [level]) = bookSteps asks ++ [(level.priceTick,levelLots level)] := by
  unfold bookSteps at room ⊢
  rw [filledSnoc,if_pos some,takeSnoc _ room]
theorem bookSkipped {asks : List PriceLevel} {level}
    (skipped : kMaxCostCurveLevels ≤ (bookSteps asks).length ∨ ¬ 0 < levelLots level) :
    bookSteps (asks ++ [level]) = bookSteps asks := by
  unfold bookSteps at skipped ⊢
  rw [filledSnoc]
  rcases skipped with full | none
  · rw [List.length_take] at full
    rw [List.take_append_of_le_length (by omega)]
  · rw [if_neg none,List.append_nil]
theorem curveSized {asks levels qty cost} (built : Built asks levels qty cost) : Sized (curveSteps levels) := by
  rw [built.steps]
  exact bookSized asks
theorem builtLevel {asks : List PriceLevel} {b : CurveBuild} {level b'}
    (built : Built asks b.levels b.cumulativeQty b.cumulativeCost)
    (added : addLevel b level = some b') :
    Built (asks ++ [level]) b'.levels b'.cumulativeQty b'.cumulativeCost := by
  have counted : b.levels.length = (bookSteps asks).length := by rw [← built.steps,curveSteps,List.length_map]
  unfold addLevel at added
  simp only at added
  split at added
  · next skipped =>
    cases added
    refine ⟨?_,built.ends,built.qty,built.cost⟩
    rw [built.steps,bookSkipped]
    rcases skipped with full | free | empty
    · exact .inl (counted ▸ full)
    · right
      unfold levelLots
      rw [if_neg (by omega)]
      exact lt_irrefl 0
    · right
      unfold levelLots
      split <;> omega
  · next taken =>
    rw [not_or,not_or,not_le,not_le,not_le] at taken
    obtain ⟨room,priced,some⟩ := taken
    have lots : levelLots level = priceLevelSizeLots level := if_pos priced
    obtain ⟨levelCost,costs,added⟩ := Option.bind_eq_some_iff.mp added
    obtain ⟨qty,qtys,added⟩ := Option.bind_eq_some_iff.mp added
    obtain ⟨cost,total,added⟩ := Option.bind_eq_some_iff.mp added
    obtain ⟨_,rfl⟩ := checkedMulExact.mp costs
    obtain ⟨_,rfl⟩ := checkedAddExact.mp qtys
    obtain ⟨_,rfl⟩ := checkedAddExact.mp total
    cases added
    have steps : curveSteps (b.levels ++
      [⟨level.priceTick,priceLevelSizeLots level,b.cumulativeQty + priceLevelSizeLots level,
        b.cumulativeCost + level.priceTick * priceLevelSizeLots level⟩]) =
        curveSteps b.levels ++ [(level.priceTick,priceLevelSizeLots level)] := by
      unfold curveSteps
      rw [List.map_append]
      rfl
    refine ⟨?_,?_,?_,?_⟩
    · rw [steps,built.steps,bookTaken (counted ▸ room) (lots ▸ some),lots]
    · rw [steps,breakpointsAppend,List.map_append,built.ends,built.qty,Int.zero_add]
      rfl
    · rw [steps,depthAppend,← built.qty]
      simp [depth]
    · have sized : Sized (curveSteps b.levels ++ [(level.priceTick,priceLevelSizeLots level)]) :=
        sizedAppend.mpr ⟨curveSized built,fun step mem =>
          (by cases List.mem_singleton.mp mem; exact le_of_lt some)⟩
      have whole := depthNonneg (sizedAppend.mp sized).2
      rw [steps,depthAppend]
      have last : depth [(level.priceTick,priceLevelSizeLots level)] = priceLevelSizeLots level := by simp [depth]
      rw [last,sweepSegment sized (by omega) le_rfl,← built.cost]
      ring
theorem builtAll {asks more : List PriceLevel} {b b' : CurveBuild}
    (built : Built asks b.levels b.cumulativeQty b.cumulativeCost)
    (added : more.foldlM addLevel b = some b') :
    Built (asks ++ more) b'.levels b'.cumulativeQty b'.cumulativeCost := by
  induction more generalizing asks b with
  | nil =>
    cases added
    rw [List.append_nil]
    exact built
  | cons level rest ih =>
    rw [List.foldlM_cons] at added
    obtain ⟨mid,first,later⟩ := Option.bind_eq_some_iff.mp added
    rw [← List.singleton_append,← List.append_assoc]
    exact ih (builtLevel built first) later
theorem builtNone : Built [] [] 0 0 := ⟨rfl,rfl,rfl,rfl⟩

structure CurveOf (asks : List PriceLevel) (curve : CostCurve) : Prop where
  book : curveSteps curve.levels = bookSteps asks
  ends : curve.breakpoints = breakpoints 0 (curveSteps curve.levels)
  total : curve.totalQtyLots = bookDepth asks
  some : 0 < curve.totalQtyLots
theorem curveOf {leg : BundleLeg} {view curve} (built : buildBuyCurve leg view = .ok curve) :
    CurveOf view.asks curve := by
  unfold buildBuyCurve at built
  split at built
  · cases built
  split at built
  · cases built
  split at built
  · cases built
  next b added =>
  split at built
  · cases built
  next some =>
  cases built
  have all := builtAll builtNone added
  rw [List.nil_append] at all
  refine ⟨all.steps,all.ends,all.qty.trans (congrArg depth all.steps),?_⟩
  simp only
  omega

section
variable {asks : List PriceLevel} {curve : CostCurve}

theorem curvePositive (of : CurveOf asks curve) : ∀ step ∈ curveSteps curve.levels, 0 < step.1 ∧ 0 < step.2 :=
  of.book ▸ bookPositive
theorem curveDepth (of : CurveOf asks curve) : curve.totalQtyLots = depth (curveSteps curve.levels) :=
  of.total.trans (congrArg depth of.book.symm)
theorem curveEnd (of : CurveOf asks curve) : curve.totalQtyLots ∈ curve.breakpoints := by
  have positive := of.some
  have total := curveDepth of
  rw [of.ends,total,← Int.zero_add (depth _)]
  refine depthBreakpoint fun none => ?_
  rw [none] at total
  exact absurd positive (total ▸ lt_irrefl 0)
theorem curveWithin (of : CurveOf asks curve) : curve.totalQtyLots ≤ visibleAskLots asks :=
  of.total ▸ bookWithin asks
theorem curveSweep (of : CurveOf asks curve) {q : Int} (nonneg : 0 ≤ q) (within : q ≤ curve.totalQtyLots) :
    sweep (curveSteps curve.levels) q = sweep (askSteps asks) q := by
  rw [of.book]
  exact bookSweep nonneg (of.total ▸ within)
theorem curveLast (of : CurveOf asks curve) {q : Int} (some : 0 < q) (within : q ≤ curve.totalQtyLots) :
    lastPrice (curveSteps curve.levels) q = lastPrice (askSteps asks) q := by
  rw [of.book]
  exact bookLast some (of.total ▸ within)

end

theorem builtNext {asks more : List PriceLevel} {level} {b : CurveBuild}
    (built : Built asks b.levels b.cumulativeQty b.cumulativeCost)
    (lots : bookDepth (asks ++ level::more) ≤ i64Max) (costs : bookCost (asks ++ level::more) ≤ i64Max) :
    ∃ b', addLevel b level = some b' := by
  unfold addLevel
  simp only
  split
  · exact ⟨_,rfl⟩
  next taken =>
  rw [not_or,not_or,not_le,not_le,not_le] at taken
  obtain ⟨room,priced,some⟩ := taken
  have size : levelLots level = priceLevelSizeLots level := if_pos priced
  have counted : b.levels.length = (bookSteps asks).length := by rw [← built.steps,curveSteps,List.length_map]
  have steps := bookTaken (counted ▸ room) (size ▸ some)
  rw [size] at steps
  have last : depth [(level.priceTick,priceLevelSizeLots level)] = priceLevelSizeLots level := by simp [depth]
  have sized := steps ▸ bookSized (asks ++ [level])
  have front := bookGrows (asks ++ [level]) more
  rw [List.append_assoc,List.singleton_append] at front
  have lotsHere : bookDepth (asks ++ [level]) = b.cumulativeQty + priceLevelSizeLots level := by
    unfold bookDepth
    rw [steps,depthAppend,last,built.qty,built.steps]
  have costHere : bookCost (asks ++ [level]) = b.cumulativeCost + level.priceTick * priceLevelSizeLots level := by
    have qty := built.qty
    have cost := built.cost
    rw [built.steps] at qty cost
    unfold bookCost
    rw [lotsHere,steps,qty,sweepSegment sized (by omega) le_rfl,cost]
    ring
  have lotsBefore : 0 ≤ b.cumulativeQty := by
    rw [built.qty,built.steps]
    exact depthNonneg (bookSized asks)
  have costBefore : 0 ≤ b.cumulativeCost := by
    rw [built.cost,built.steps]
    exact sweepNonneg (bookSized asks) (bookPriced asks) (depthNonneg (bookSized asks))
  have least : i64Min ≤ 0 := by decide
  have levelCost : 0 ≤ level.priceTick * priceLevelSizeLots level :=
    Int.mul_nonneg (le_of_lt priced) (le_of_lt some)
  have mul : checkedMulI64 level.priceTick (priceLevelSizeLots level) = .some _ :=
    checkedMulExact.mpr ⟨⟨by omega,by omega⟩,rfl⟩
  have qty : checkedAddI64 b.cumulativeQty (priceLevelSizeLots level) = .some _ :=
    checkedAddExact.mpr ⟨⟨by omega,by omega⟩,rfl⟩
  have cost : checkedAddI64 b.cumulativeCost (level.priceTick * priceLevelSizeLots level) = .some _ :=
    checkedAddExact.mpr ⟨⟨by omega,by omega⟩,rfl⟩
  simp only [mul,qty,cost,Option.bind_some,bind]
  exact ⟨_,rfl⟩
theorem builtDone {asks more : List PriceLevel} {b : CurveBuild}
    (built : Built asks b.levels b.cumulativeQty b.cumulativeCost)
    (lots : bookDepth (asks ++ more) ≤ i64Max) (costs : bookCost (asks ++ more) ≤ i64Max) :
    ∃ b', more.foldlM addLevel b = some b' := by
  induction more generalizing asks b with
  | nil => exact ⟨b,rfl⟩
  | cons level rest ih =>
    obtain ⟨mid,added⟩ := builtNext built lots costs
    rw [List.foldlM_cons,added]
    rw [← List.singleton_append,← List.append_assoc] at lots costs
    exact ih (builtLevel built added) lots costs
theorem curveDone {leg : BundleLeg} {view : MarketDepthView} (buy : leg.side = .buy)
    (some : 0 < bookDepth view.asks)
    (lots : bookDepth view.asks ≤ i64Max) (costs : bookCost view.asks ≤ i64Max) :
    ∃ curve, buildBuyCurve leg view = .ok curve := by
  have asks : view.asks ≠ [] := by
    intro none
    rw [none] at some
    exact absurd some (lt_irrefl 0)
  obtain ⟨b,added⟩ : ∃ b, view.asks.foldlM addLevel {} = .some b := builtDone builtNone lots costs
  have all := builtAll builtNone added
  rw [List.nil_append] at all
  have qty : b.cumulativeQty = bookDepth view.asks := all.qty.trans (congrArg depth all.steps)
  have levels : b.levels ≠ [] := by
    intro none
    have steps := all.steps
    rw [none] at steps
    unfold bookDepth at some
    rw [← steps] at some
    exact absurd some (lt_irrefl 0)
  unfold buildBuyCurve
  rw [if_neg (not_ne_iff.mpr buy),if_neg asks,added]
  simp only
  rw [if_neg (not_or.mpr ⟨levels,by omega⟩)]
  exact ⟨_,rfl⟩

/-! Filling a leg. -/

theorem cumulativeAt {levels used rest : List CostCurveLevel} {level}
    (ends : levels.map CostCurveLevel.cumulativeQtyLots = breakpoints 0 (curveSteps levels))
    (split : levels = used ++ level::rest) :
    level.cumulativeQtyLots = depth (curveSteps used) + level.sizeLots := by
  subst split
  unfold curveSteps at ends ⊢
  rw [List.map_append,List.map_append,breakpointsAppend,Int.zero_add] at ends
  have same := (List.append_inj ends (by rw [breakpointsLength,List.length_map,List.length_map])).2
  exact (List.cons.inj same).1

structure LegAt (leg : SizingLeg) (target : Int) (fill : LegFill) : Prop where
  levels : ∃ used, leg.curve.levels = used ++ fill.levels ∧ depth (curveSteps used) ≤ target
  qty : fill.qtyLots = target
  cost : fill.costTick = sweep (curveSteps leg.curve.levels) target
  worst : 0 < target → fill.worstPriceTick = lastPrice (curveSteps leg.curve.levels) target

section
variable {leg : SizingLeg} {asks : List PriceLevel}

theorem curveOfSized (curve : CurveOf asks leg.curve) : Sized (curveSteps leg.curve.levels) :=
  fun step mem => le_of_lt (curvePositive curve step mem).2
theorem curveOfPriced (curve : CurveOf asks leg.curve) : Priced (curveSteps leg.curve.levels) :=
  fun step mem _ => (curvePositive curve step mem).1

-- One level bought up to x, somewhere inside it.
theorem levelCost (curve : CurveOf asks leg.curve) {used rest level x}
    (split : leg.curve.levels = used ++ level::rest)
    (lower : depth (curveSteps used) ≤ x) (upper : x ≤ level.cumulativeQtyLots) :
    sweep (curveSteps leg.curve.levels) x =
      sweep (curveSteps used) (depth (curveSteps used)) + level.priceTick * (x - depth (curveSteps used)) := by
  have sized := curveOfSized curve
  have cumulative := cumulativeAt curve.ends split
  have steps : curveSteps leg.curve.levels = curveSteps used ++
    (level.priceTick,level.sizeLots)::curveSteps rest := by
    rw [split]
    simp [curveSteps]
  rw [steps] at sized ⊢
  exact sweepSegment sized lower (by omega)
theorem levelLast (curve : CurveOf asks leg.curve) {used rest level x}
    (split : leg.curve.levels = used ++ level::rest)
    (lower : depth (curveSteps used) < x) (upper : x ≤ level.cumulativeQtyLots) :
    lastPrice (curveSteps leg.curve.levels) x = level.priceTick := by
  have sized := curveOfSized curve
  have cumulative := cumulativeAt curve.ends split
  have steps : curveSteps leg.curve.levels = curveSteps used ++
    (level.priceTick,level.sizeLots)::curveSteps rest := by
    rw [split]
    simp [curveSteps]
  rw [steps] at sized ⊢
  exact lastSegment sized lower (by omega)
theorem levelNext (curve : CurveOf asks leg.curve) {used rest level}
    (split : leg.curve.levels = used ++ level::rest) :
    leg.curve.levels = (used ++ [level]) ++ rest ∧ depth (curveSteps (used ++ [level])) = level.cumulativeQtyLots ∧
      0 < level.priceTick ∧ 0 < level.sizeLots := by
  have mem : (level.priceTick,level.sizeLots) ∈ curveSteps leg.curve.levels := by
    rw [split]
    simp [curveSteps]
  refine ⟨by rw [split,List.append_assoc]; rfl,?_,curvePositive curve _ mem⟩
  rw [cumulativeAt curve.ends split]
  simp [curveSteps,depth]
-- The next level is not used up yet.
def Open (qty : Int) (levels : List CostCurveLevel) : Prop := ∀ level ∈ levels.head?, qty < level.cumulativeQtyLots
theorem openNext (curve : CurveOf asks leg.curve) {used rest level qty}
    (split : leg.curve.levels = used ++ level::rest)
    (le : qty ≤ level.cumulativeQtyLots) : Open qty rest := by
  intro next first
  obtain ⟨after,start,_,_⟩ := levelNext curve split
  obtain ⟨others,rfl⟩ : ∃ others, rest = next::others := List.head?_eq_some_iff.mp first
  have cumulative := cumulativeAt curve.ends after
  have some := (levelNext curve after).2.2.2
  omega

theorem fillSound (curve : CurveOf asks leg.curve) {used levels fill total target out}
    (split : leg.curve.levels = used ++ levels)
    (past : depth (curveSteps used) ≤ fill.qtyLots) (first : Open fill.qtyLots levels)
    (cost : fill.costTick = sweep (curveSteps leg.curve.levels) fill.qtyLots)
    (worst : 0 < fill.qtyLots → fill.worstPriceTick = lastPrice (curveSteps leg.curve.levels) fill.qtyLots)
    (le : fill.qtyLots ≤ target) (filled : fillLevels target levels fill total = some out) :
    LegAt leg target out.1 ∧ out.2 = total + (sweep (curveSteps leg.curve.levels) target - fill.costTick) := by
  induction levels generalizing used fill total with
  | nil =>
    unfold fillLevels at filled
    split at filled
    · cases filled
    · next done =>
      cases filled
      have same : fill.qtyLots = target := by omega
      subst same
      exact ⟨⟨⟨used,split,past⟩,rfl,cost,worst⟩,by rw [cost]; ring⟩
  | cons level rest ih =>
    unfold fillLevels at filled
    split at filled
    · next short =>
      simp only at filled
      split at filled
      · cases filled
      obtain ⟨costDelta,costs,filled⟩ := Option.bind_eq_some_iff.mp filled
      obtain ⟨newCost,costSum,filled⟩ := Option.bind_eq_some_iff.mp filled
      obtain ⟨newTotal,totalSum,filled⟩ := Option.bind_eq_some_iff.mp filled
      obtain ⟨_,rfl⟩ := checkedMulExact.mp costs
      obtain ⟨_,rfl⟩ := checkedAddExact.mp costSum
      obtain ⟨_,rfl⟩ := checkedAddExact.mp totalSum
      obtain ⟨after,start,_,_⟩ := levelNext curve split
      have here := first level rfl
      have grown : fill.costTick + level.priceTick * min (level.cumulativeQtyLots - fill.qtyLots)
        (target - fill.qtyLots) =
          sweep (curveSteps leg.curve.levels)
            (fill.qtyLots + min (level.cumulativeQtyLots - fill.qtyLots) (target - fill.qtyLots)) := by
        rw [cost,levelCost curve split past (le_of_lt here),levelCost curve split (by omega) (by omega)]
        ring
      have lastHere : lastPrice (curveSteps leg.curve.levels)
          (fill.qtyLots + min (level.cumulativeQtyLots - fill.qtyLots) (target - fill.qtyLots)) =
          level.priceTick :=
        levelLast curve split (by omega) (by omega)
      split at filled
      · next usedUp =>
        have reached := ih after (by simp only; omega) (openNext curve split (by simp only; omega)) grown
          (fun _ => lastHere.symm) (by simp only; omega) filled
        refine ⟨reached.1,?_⟩
        rw [reached.2]
        ring
      · next inside =>
        cases filled
        have same : fill.qtyLots + min (level.cumulativeQtyLots - fill.qtyLots)
          (target - fill.qtyLots) = target := by omega
        rw [same] at grown lastHere
        refine ⟨⟨⟨used,split,by omega⟩,same,grown,fun _ => lastHere.symm⟩,?_⟩
        rw [← grown]
        ring
    · next done =>
      cases filled
      have same : fill.qtyLots = target := by omega
      subst same
      exact ⟨⟨⟨used,split,past⟩,rfl,cost,worst⟩,by rw [cost]; ring⟩

theorem fillDone (curve : CurveOf asks leg.curve) {used levels fill total target}
    (split : leg.curve.levels = used ++ levels)
    (past : depth (curveSteps used) ≤ fill.qtyLots) (first : Open fill.qtyLots levels) (nonneg : 0 ≤ fill.qtyLots)
    (cost : fill.costTick = sweep (curveSteps leg.curve.levels) fill.qtyLots) (le : fill.qtyLots ≤ target)
    (within : target ≤ leg.curve.totalQtyLots) (costFits : sweep (curveSteps leg.curve.levels) target ≤ i64Max)
    (start : 0 ≤ total)
    (totalFits : total + (sweep (curveSteps leg.curve.levels) target - fill.costTick) ≤ i64Max) :
    ∃ out, fillLevels target levels fill total = some out := by
  have sized := curveOfSized curve
  have priced := curveOfPriced curve
  induction levels generalizing used fill total with
  | nil =>
    rw [List.append_nil] at split
    rw [curveDepth curve,split] at within
    exact ⟨_,if_neg (by omega)⟩
  | cons level rest ih =>
    unfold fillLevels
    split
    · next short =>
      obtain ⟨after,start',price,_⟩ := levelNext curve split
      have here := first level rfl
      have grown : fill.costTick + level.priceTick * min (level.cumulativeQtyLots - fill.qtyLots)
        (target - fill.qtyLots) =
          sweep (curveSteps leg.curve.levels)
            (fill.qtyLots + min (level.cumulativeQtyLots - fill.qtyLots) (target - fill.qtyLots)) := by
        rw [cost,levelCost curve split past (le_of_lt here),levelCost curve split (by omega) (by omega)]
        ring
      have before := sweepNonneg sized priced nonneg
      have delta : 0 ≤ level.priceTick * min (level.cumulativeQtyLots - fill.qtyLots) (target - fill.qtyLots) :=
        Int.mul_nonneg (le_of_lt price) (by omega)
      have below : sweep (curveSteps leg.curve.levels)
          (fill.qtyLots + min (level.cumulativeQtyLots - fill.qtyLots) (target - fill.qtyLots)) ≤
            sweep (curveSteps leg.curve.levels) target := sweepMono sized priced (by omega) (by omega)
      have least : i64Min ≤ 0 := by decide
      have mul : checkedMulI64 level.priceTick
        (min (level.cumulativeQtyLots - fill.qtyLots) (target - fill.qtyLots)) = some _ :=
        checkedMulExact.mpr ⟨⟨by omega,by omega⟩,rfl⟩
      have add : checkedAddI64 fill.costTick
          (level.priceTick * min (level.cumulativeQtyLots - fill.qtyLots) (target - fill.qtyLots)) = some _ :=
        checkedAddExact.mpr ⟨⟨by omega,by omega⟩,rfl⟩
      have sum : checkedAddI64 total
          (level.priceTick * min (level.cumulativeQtyLots - fill.qtyLots) (target - fill.qtyLots)) = some _ :=
        checkedAddExact.mpr ⟨⟨by omega,by omega⟩,rfl⟩
      simp only [mul,add,sum,Option.bind_some,bind]
      rw [if_neg (by omega)]
      split
      · exact ih after (by simp only; omega) (openNext curve split (by simp only; omega))
          (by simp only; omega) grown
          (by simp only; omega) (by omega) (by simp only; omega)
      · exact ⟨_,rfl⟩
    · exact ⟨_,rfl⟩

theorem skipUsed (curve : CurveOf asks leg.curve) {used levels qty} (split : leg.curve.levels = used ++ levels)
    (past : depth (curveSteps used) ≤ qty) : ∃ used', leg.curve.levels =
      used' ++ levels.dropWhile (fun level => decide (level.cumulativeQtyLots ≤ qty)) ∧
        depth (curveSteps used') ≤ qty ∧
      Open qty (levels.dropWhile fun level => decide (level.cumulativeQtyLots ≤ qty)) := by
  induction levels generalizing used with
  | nil => exact ⟨used,split,past,fun level none => (by cases none)⟩
  | cons level rest ih =>
    by_cases usedUp : level.cumulativeQtyLots ≤ qty
    · obtain ⟨after,start,_,_⟩ := levelNext curve split
      have dropped : (level::rest).dropWhile (fun level => decide (level.cumulativeQtyLots ≤ qty)) =
          rest.dropWhile fun level => decide (level.cumulativeQtyLots ≤ qty) :=
            List.dropWhile_cons_of_pos (decide_eq_true usedUp)
      rw [dropped]
      exact ih after (by omega)
    · have kept : (level::rest).dropWhile (fun level => decide (level.cumulativeQtyLots ≤ qty)) = level::rest :=
        List.dropWhile_cons_of_neg (by simpa using usedUp)
      rw [kept]
      refine ⟨used,split,past,fun next first => ?_⟩
      cases first
      omega
theorem advanceSound (curve : CurveOf asks leg.curve) {bundleQty currentQ fill total out}
    (at' : LegAt leg (leg.ratio * currentQ) fill)
    (advanced : advanceIncrementalLeg leg bundleQty currentQ fill total = some out) :
    LegAt leg (leg.ratio * bundleQty) out.1 ∧ out.2 = total + (out.1.costTick - fill.costTick) ∧
      leg.ratio * bundleQty ≤ leg.curve.totalQtyLots := by
  unfold advanceIncrementalLeg at advanced
  split at advanced
  · cases advanced
  obtain ⟨target,lots,advanced⟩ := Option.bind_eq_some_iff.mp advanced
  obtain ⟨_,rfl⟩ := checkedMulExact.mp lots
  simp only at advanced
  split at advanced
  · cases advanced
  next room =>
  rw [not_or,not_lt,not_lt] at room
  obtain ⟨used,split,past⟩ := at'.levels
  rw [← at'.qty] at past
  obtain ⟨used',split',past',first⟩ := skipUsed curve split past
  have cost := at'.cost
  have worst := at'.worst
  rw [← at'.qty] at cost worst
  obtain ⟨reached,sum⟩ := fillSound curve split' past' first cost worst room.1 advanced
  exact ⟨reached,by rw [sum,reached.cost],room.2⟩
theorem advanceDone (curve : CurveOf asks leg.curve) (bundleQty total : Int) {currentQ fill}
    (at' : LegAt leg (leg.ratio * currentQ) fill)
    (ratio : 0 < leg.ratio) (nonneg : 0 ≤ currentQ) (le : currentQ ≤ bundleQty)
    (lots : InI64 (leg.ratio * bundleQty))
    (within : leg.ratio * bundleQty ≤ leg.curve.totalQtyLots)
    (costFits : sweep (curveSteps leg.curve.levels) (leg.ratio * bundleQty) ≤ i64Max) (start : 0 ≤ total)
    (totalFits : total + (sweep (curveSteps leg.curve.levels) (leg.ratio * bundleQty) - fill.costTick) ≤ i64Max) :
    ∃ out, advanceIncrementalLeg leg bundleQty currentQ fill total = some out := by
  have more : leg.ratio * currentQ ≤ leg.ratio * bundleQty := Int.mul_le_mul_of_nonneg_left le (le_of_lt ratio)
  have some := Int.mul_nonneg (le_of_lt ratio) nonneg
  have target : checkedMulI64 leg.ratio bundleQty = .some (leg.ratio * bundleQty) := checkedMulExact.mpr ⟨lots,rfl⟩
  obtain ⟨used,split,past⟩ := at'.levels
  rw [← at'.qty] at past more some
  obtain ⟨used',split',past',first⟩ := skipUsed curve split past
  have cost := at'.cost
  rw [← at'.qty] at cost
  unfold advanceIncrementalLeg
  rw [if_neg (by omega),target]
  simp only [bind,Option.bind_some]
  rw [if_neg (by omega)]
  exact fillDone curve split' past' first some cost more within costFits start totalFits

end

end Polytope.SizingState
