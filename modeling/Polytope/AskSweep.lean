import Mathlib.Algebra.Order.BigOperators.Group.List
import Mathlib.Algebra.Order.Ring.Int
import Mathlib.Tactic.Linarith
import Mathlib.Tactic.Ring

/-! Buying from a list of steps, each a price and a number of lots, front to back. What a quantity costs
is linear between two quantities with no end of a step between them, and the price of the last lot
only rises when the prices do. -/
namespace Polytope.AskSweep

abbrev Step := Int × Int
def depth (steps : List Step) : Int := (steps.map Prod.snd).sum
def sweep : List Step → Int → Int
  | [],_ => 0
  | (price,size)::rest,q => price * min q size + sweep rest (q - min q size)
def lastPrice : List Step → Int → Int
  | [],_ => 0
  | (price,size)::rest,q => if q ≤ size then price else lastPrice rest (q - size)
def worstPrice : List Step → Int → Int
  | [],_ => 0
  | (price,size)::rest,q =>
    if 0 < min q size then max price (worstPrice rest (q - min q size)) else worstPrice rest (q - min q size)
-- The quantities that use up a step.
def breakpoints (before : Int) : List Step → List Int
  | [] => []
  | (_,size)::rest => (before + size)::breakpoints (before + size) rest

def Sized (steps : List Step) : Prop := ∀ step ∈ steps, 0 ≤ step.2
def Priced (steps : List Step) : Prop := ∀ step ∈ steps, 0 < step.2 → 0 < step.1
def Ascending (steps : List Step) : Prop := steps.Pairwise fun a b => 0 < a.2 → 0 < b.2 → a.1 ≤ b.1

theorem sizedCons {step : Step} {rest : List Step} : Sized (step::rest) ↔ 0 ≤ step.2 ∧ Sized rest :=
  List.forall_mem_cons
theorem sizedAppend {a b : List Step} : Sized (a ++ b) ↔ Sized a ∧ Sized b := List.forall_mem_append
theorem pricedCons {step : Step} {rest : List Step} : Priced (step::rest) ↔
    (0 < step.2 → 0 < step.1) ∧ Priced rest := List.forall_mem_cons
theorem depthCons (step : Step) (rest) : depth (step::rest) = step.2 + depth rest := by simp [depth]
theorem depthAppend (a b : List Step) : depth (a ++ b) = depth a + depth b := by simp [depth]
theorem depthNonneg {steps : List Step} (sized : Sized steps) : 0 ≤ depth steps := by
  apply List.sum_nonneg
  intro size mem
  obtain ⟨step,inside,rfl⟩ := List.mem_map.mp mem
  exact sized step inside

theorem sweepZero {steps : List Step} (sized : Sized steps) : sweep steps 0 = 0 := by
  induction steps with
  | nil => rfl
  | cons step rest ih =>
    obtain ⟨here,later⟩ := sizedCons.mp sized
    rw [sweep,min_eq_left here,Int.mul_zero,Int.sub_zero,ih later,Int.add_zero]
theorem sweepCut {a b : List Step} {q : Int} (sized : Sized a) (beyond : depth a ≤ q) :
    sweep (a ++ b) q = sweep a (depth a) + sweep b (q - depth a) := by
  induction a generalizing q with
  | nil => simp [sweep,depth]
  | cons step rest ih =>
    obtain ⟨here,later⟩ := sizedCons.mp sized
    have left := depthNonneg later
    rw [depthCons] at beyond ⊢
    have whole : min q step.2 = step.2 := by omega
    have all : min (step.2 + depth rest) step.2 = step.2 := by omega
    rw [List.cons_append,sweep,whole,sweep,all,ih later (by omega)]
    ring_nf
theorem sweepWithin {price size q : Int} {rest : List Step} (sized : Sized rest) (within : q ≤ size) :
    sweep ((price,size)::rest) q = price * q := by
  rw [sweep,min_eq_left within,Int.sub_self,sweepZero sized,Int.add_zero]
theorem sweepFrontOf {a b : List Step} {q : Int} (sized : Sized (a ++ b)) (nonneg : 0 ≤ q) (within : q ≤ depth a) :
    sweep (a ++ b) q = sweep a q := by
  induction a generalizing q with
  | nil =>
    have zero : q = 0 := by
      simp only [depth,List.map_nil,List.sum_nil] at within
      omega
    rw [zero]
    exact sweepZero sized
  | cons step rest ih =>
    obtain ⟨here,later⟩ := sizedCons.mp sized
    have left := depthNonneg (sizedAppend.mp later).1
    rw [depthCons] at within
    rw [List.cons_append,sweep,sweep,ih later (by omega) (by omega)]

-- Inside a step the cost grows by its price.
theorem sweepSegment {used rest : List Step} {price size x : Int} (sized : Sized (used ++ (price,size)::rest))
    (lower : depth used ≤ x) (upper : x ≤ depth used + size) :
    sweep (used ++ (price,size)::rest) x = sweep used (depth used) + price * (x - depth used) := by
  obtain ⟨before,after⟩ := sizedAppend.mp sized
  rw [sweepCut before lower,sweepWithin (sizedCons.mp after).2 (by omega)]
theorem sweepNonneg {steps : List Step} {q : Int} (sized : Sized steps) (priced : Priced steps)
    (nonneg : 0 ≤ q) : 0 ≤ sweep steps q := by
  induction steps generalizing q with
  | nil => exact le_rfl
  | cons step rest ih =>
    obtain ⟨here,later⟩ := sizedCons.mp sized
    obtain ⟨price,prices⟩ := pricedCons.mp priced
    have tail : 0 ≤ sweep rest (q - min q step.2) := ih later prices (by omega)
    have head : 0 ≤ step.1 * min q step.2 := by
      rcases Int.lt_or_eq_of_le here with some | none
      · exact Int.mul_nonneg (le_of_lt (price some)) (by omega)
      · rw [show min q step.2 = 0 by omega,Int.mul_zero]
    rw [sweep]
    omega
theorem sweepMono {steps : List Step} {q q' : Int} (sized : Sized steps) (priced : Priced steps)
    (nonneg : 0 ≤ q) (le : q ≤ q') :
    sweep steps q ≤ sweep steps q' := by
  induction steps generalizing q q' with
  | nil => exact le_rfl
  | cons step rest ih =>
    obtain ⟨here,later⟩ := sizedCons.mp sized
    obtain ⟨price,prices⟩ := pricedCons.mp priced
    have tail : sweep rest (q - min q step.2) ≤ sweep rest (q' - min q' step.2) :=
      ih later prices (by omega) (by omega)
    have head : step.1 * min q step.2 ≤ step.1 * min q' step.2 := by
      rcases Int.lt_or_eq_of_le here with some | none
      · exact Int.mul_le_mul_of_nonneg_left (by omega) (le_of_lt (price some))
      · rw [show min q step.2 = 0 by omega,show min q' step.2 = 0 by omega]
    rw [sweep,sweep]
    omega

/-! The price of the last lot. -/

theorem lastSegment {used rest : List Step} {price size x : Int} (sized : Sized (used ++ (price,size)::rest))
    (lower : depth used < x) (upper : x ≤ depth used + size) :
    lastPrice (used ++ (price,size)::rest) x = price := by
  induction used generalizing x with
  | nil =>
    simp only [depth,List.map_nil,List.sum_nil] at upper
    exact if_pos (by omega)
  | cons step others ih =>
    obtain ⟨here,later⟩ := sizedCons.mp sized
    have nonneg := depthNonneg (sizedAppend.mp later).1
    rw [depthCons] at lower upper
    rw [List.cons_append,lastPrice,if_neg (by omega)]
    exact ih later (by omega) (by omega)
theorem lastFound (steps : List Step) (x : Int) (some : 0 < x) (within : x ≤ depth steps) :
    ∃ used price size rest, steps = used ++ (price,size)::rest ∧ depth used < x ∧ x ≤ depth used + size := by
  induction steps generalizing x with
  | nil =>
    simp only [depth,List.map_nil,List.sum_nil] at within
    omega
  | cons step others ih =>
    by_cases inside : x ≤ step.2
    · exact ⟨[],step.1,step.2,others,rfl,by simpa [depth] using some,by simpa [depth] using inside⟩
    · rw [depthCons] at within
      obtain ⟨used,price,size,rest,rfl,lower,upper⟩ := ih (x - step.2) (by omega) (by omega)
      refine ⟨step::used,price,size,rest,rfl,?_,?_⟩
      · rw [depthCons]
        omega
      · rw [depthCons]
        omega
theorem lastMem (steps : List Step) (x : Int) (some : 0 < x) (within : x ≤ depth steps) :
    ∃ size, 0 < size ∧ (lastPrice steps x,size) ∈ steps := by
  induction steps generalizing x with
  | nil =>
    simp only [depth,List.map_nil,List.sum_nil] at within
    omega
  | cons step others ih =>
    rw [lastPrice]
    split
    · next inside => exact ⟨step.2,by omega,List.mem_cons_self⟩
    · rw [depthCons] at within
      obtain ⟨size,sized,mem⟩ := ih (x - step.2) (by omega) (by omega)
      exact ⟨size,sized,List.mem_cons_of_mem _ mem⟩
theorem lastMono {steps : List Step} {x y : Int} (ascending : Ascending steps) (some : 0 < x) (le : x ≤ y)
    (within : y ≤ depth steps) : lastPrice steps x ≤ lastPrice steps y := by
  induction steps generalizing x y with
  | nil => exact le_rfl
  | cons step others ih =>
    obtain ⟨first,later⟩ := List.pairwise_cons.mp ascending
    rw [depthCons] at within
    rw [lastPrice,lastPrice]
    split
    · next inside =>
      split
      · exact le_rfl
      · obtain ⟨size,sized,mem⟩ := lastMem others (y - step.2) (by omega) (by omega)
        exact first _ mem (by omega) sized
    · rw [if_neg (by omega)]
      exact ih later (by omega) (by omega) (by omega)
theorem worstZero {steps : List Step} (sized : Sized steps) : worstPrice steps 0 = 0 := by
  induction steps with
  | nil => rfl
  | cons step rest ih =>
    obtain ⟨here,later⟩ := sizedCons.mp sized
    rw [worstPrice,min_eq_left here,if_neg (lt_irrefl 0),Int.sub_zero,ih later]
theorem worstNonneg (steps : List Step) (q : Int) : 0 ≤ worstPrice steps q := by
  induction steps generalizing q with
  | nil => exact le_rfl
  | cons step rest ih =>
    have later := ih (q - min q step.2)
    rw [worstPrice]
    split
    · exact le_trans later (le_max_right _ _)
    · exact later
theorem worstIsLast {steps : List Step} {q : Int} (sized : Sized steps) (priced : Priced steps)
    (ascending : Ascending steps)
    (some : 0 < q) (within : q ≤ depth steps) : worstPrice steps q = lastPrice steps q := by
  induction steps generalizing q with
  | nil =>
    simp only [depth,List.map_nil,List.sum_nil] at within
    omega
  | cons step rest ih =>
    obtain ⟨here,later⟩ := sizedCons.mp sized
    obtain ⟨price,prices⟩ := pricedCons.mp priced
    obtain ⟨first,others⟩ := List.pairwise_cons.mp ascending
    rw [depthCons] at within
    rw [worstPrice,lastPrice]
    by_cases inside : q ≤ step.2
    · have positive := price (by omega)
      rw [min_eq_left inside,if_pos some,if_pos inside,Int.sub_self,worstZero later]
      omega
    · rw [min_eq_right (by omega),if_neg inside,ih later prices others (by omega) (by omega)]
      split
      · next sizedHere =>
        obtain ⟨size,positive,mem⟩ := lastMem rest (q - step.2) (by omega) (by omega)
        exact max_eq_right (first _ mem sizedHere positive)
      · rfl

theorem lastFrontOf {a b : List Step} {q : Int} (within : q ≤ depth a) (some : 0 < q) :
    lastPrice (a ++ b) q = lastPrice a q := by
  induction a generalizing q with
  | nil =>
    simp only [depth,List.map_nil,List.sum_nil] at within
    omega
  | cons step rest ih =>
    rw [depthCons] at within
    rw [List.cons_append,lastPrice,lastPrice]
    split
    · rfl
    · exact ih (by omega) (by omega)

/-! Between the ends of steps. -/

theorem breakpointsSplit {before : Int} {used rest : List Step} {price size : Int} :
    before + depth used + size ∈ breakpoints before (used ++ (price,size)::rest) := by
  induction used generalizing before with
  | nil => simp [breakpoints,depth]
  | cons step others ih =>
    rw [depthCons,show before + (step.2 + depth others) + size = before + step.2 + depth others + size by ring]
    exact List.mem_cons_of_mem _ ih
theorem depthBreakpoint {before : Int} {steps : List Step} (some : steps ≠ []) :
    before + depth steps ∈ breakpoints before steps := by
  obtain ⟨used,⟨price,size⟩,rfl⟩ := (List.eq_nil_or_concat steps).resolve_left some
  have ends : before + depth used + size ∈ breakpoints before (used ++ [(price,size)]) := breakpointsSplit
  have last : depth [(price,size)] = size := by simp [depth]
  rw [List.concat_eq_append,depthAppend,last,← Int.add_assoc]
  exact ends
theorem sweepLinear {steps : List Step} {low high : Int} (sized : Sized steps) (nonneg : 0 ≤ low) (le : low < high)
    (within : high ≤ depth steps) (apart : ∀ b ∈ breakpoints 0 steps, b ≤ low ∨ high ≤ b) :
    ∃ price, ∀ x, low ≤ x → x ≤ high → sweep steps x = sweep steps low + price * (x - low) := by
  obtain ⟨used,price,size,rest,rfl,lower,upper⟩ := lastFound steps (low + 1) (by omega) (by omega)
  have ends : 0 + depth used + size ∈ breakpoints 0 (used ++ (price,size)::rest) := breakpointsSplit
  have later := apart _ ends
  refine ⟨price,fun x above below => ?_⟩
  rw [sweepSegment sized (by omega) (by omega),sweepSegment sized (by omega) (by omega)]
  ring

theorem breakpointsAbove {before : Int} {steps : List Step} (sized : Sized steps) :
    ∀ b ∈ breakpoints before steps, before ≤ b := by
  induction steps generalizing before with
  | nil => exact fun b mem => (by cases mem)
  | cons step others ih =>
    obtain ⟨here,later⟩ := sizedCons.mp sized
    refine List.forall_mem_cons.mpr ⟨by omega,fun b mem => ?_⟩
    have above := ih later b mem
    omega
theorem breakpointsRising {before : Int} {steps : List Step} (sized : Sized steps) :
    (breakpoints before steps).Pairwise (· ≤ ·) := by
  induction steps generalizing before with
  | nil => exact .nil
  | cons step others ih => exact .cons (breakpointsAbove (sizedCons.mp sized).2) (ih (sizedCons.mp sized).2)
theorem breakpointsLength (before : Int) (steps : List Step) :
    (breakpoints before steps).length = steps.length := by
  induction steps generalizing before with
  | nil => rfl
  | cons step others ih => rw [breakpoints,List.length_cons,List.length_cons,ih]
theorem breakpointsAppend (before : Int) (a b : List Step) :
    breakpoints before (a ++ b) = breakpoints before a ++ breakpoints (before + depth a) b := by
  induction a generalizing before with
  | nil => simp [breakpoints,depth]
  | cons first rest ih =>
    rw [List.cons_append,breakpoints,breakpoints,ih,depthCons,List.cons_append,Int.add_assoc before first.2]

/-! Steps without lots do not matter. -/

def filled (steps : List Step) : List Step := steps.filter fun step => decide (0 < step.2)
theorem filledPos {step : Step} (rest : List Step) (some : 0 < step.2) : filled (step::rest) = step::filled rest :=
  List.filter_cons_of_pos (decide_eq_true some)
theorem filledZero {step : Step} (rest : List Step) (none : ¬ 0 < step.2) : filled (step::rest) = filled rest :=
  List.filter_cons_of_neg (by simpa using none)
theorem filledSized {steps : List Step} (sized : Sized steps) : Sized (filled steps) :=
  fun step mem => sized step (List.mem_of_mem_filter mem)
theorem filledDepth {steps : List Step} (sized : Sized steps) : depth (filled steps) = depth steps := by
  induction steps with
  | nil => rfl
  | cons step rest ih =>
    obtain ⟨here,later⟩ := sizedCons.mp sized
    rw [depthCons,← ih later]
    by_cases some : 0 < step.2
    · rw [filledPos rest some,depthCons]
    · rw [filledZero rest some]
      omega
theorem filledSweep {steps : List Step} (sized : Sized steps) {q : Int} (nonneg : 0 ≤ q) :
    sweep (filled steps) q = sweep steps q := by
  induction steps generalizing q with
  | nil => rfl
  | cons step rest ih =>
    obtain ⟨here,later⟩ := sizedCons.mp sized
    rw [sweep]
    by_cases some : 0 < step.2
    · rw [filledPos rest some,sweep,ih later (by omega)]
    · rw [filledZero rest some,show min q step.2 =
        0 by omega,Int.mul_zero,Int.zero_add,Int.sub_zero,ih later nonneg]
theorem filledLast {steps : List Step} (sized : Sized steps) {q : Int} (some : 0 < q) :
    lastPrice (filled steps) q = lastPrice steps q := by
  induction steps generalizing q with
  | nil => rfl
  | cons step rest ih =>
    obtain ⟨here,later⟩ := sizedCons.mp sized
    rw [lastPrice]
    by_cases lots : 0 < step.2
    · rw [filledPos rest lots,lastPrice]
      split
      · rfl
      · exact ih later (by omega)
    · rw [filledZero rest lots,if_neg (by omega),show q - step.2 = q by omega,ih later some]

end Polytope.AskSweep
