import Polytope.ExecutionState
import Polytope.Machine
import Polytope.ListRelation

/-! FillTracker over any sequence of reports, next to an account of the lots each report credited to a child.
Filled lots are cut at the requested quantity, the cost is not, and the remaining lots may be the report's. -/
namespace Polytope.FillAccounting
open ListRelation ExecutionTypes ExecutionState FixedPointMath
open Reservation (updateFirst)

structure Credit where
  lots : Int
  priceTick : Int
  deriving DecidableEq, Repr
-- The lots a report adds to the filled lots of a child, at the price it reports.
def creditOf (r : ExecutionReport) (c : ChildFillState) : Credit :=
  ⟨(applyFill r c).filledQtyLots - c.filledQtyLots,r.avgFillPriceTick⟩
def bookCredit (r : ExecutionReport) : List ChildFillState → List (List Credit) → List (List Credit)
  | c::children,credits::rest =>
    if c.orderId = r.childOrderId then (credits ++ [creditOf r c])::rest else credits::bookCredit r children rest
  | _,rest => rest

structure Audit where
  tracker : FillTracker
  credits : List (List Credit)
  deriving DecidableEq
def audit (plan : OrderPlan) : Audit :=
  ⟨FillTracker.reset plan,(FillTracker.reset plan).planState.children.map fun _ => []⟩
def auditStep (s : Audit) (r : ExecutionReport) : Audit × Unit :=
  (⟨s.tracker.apply r,bookCredit r s.tracker.planState.children s.credits⟩,())

structure ChildAccounted (c : ChildFillState) (credits : List Credit) : Prop where
  filled : 0 ≤ c.filledQtyLots ∧ c.filledQtyLots ≤ c.requestedQtyLots
  remaining : c.filledQtyLots + c.remainingQtyLots = c.requestedQtyLots
  cost : c.totalCostTick = (credits.map fun credit => credit.lots * credit.priceTick).sum
  average : ∀ least most, (∀ credit ∈ credits, 0 < credit.lots →
    least ≤ credit.priceTick ∧ credit.priceTick ≤ most) →
    0 < c.filledQtyLots → least ≤ c.avgFillPriceTick ∧ c.avgFillPriceTick ≤ most
structure Aggregated (p : PlanFillState) : Prop where
  any : p.anyFilled = true ↔ ∃ c ∈ p.children, 0 < c.filledQtyLots
  all : p.allFilled = true ↔
    p.children ≠ [] ∧ ∀ c ∈ p.children, 0 < c.requestedQtyLots ∧ c.requestedQtyLots ≤ c.filledQtyLots
  anyPartial : p.anyPartial = true ↔ ∃ c ∈ p.children, 0 < c.filledQtyLots ∧ c.filledQtyLots < c.requestedQtyLots
  cost : p.totalCostTick = (p.children.map ChildFillState.totalCostTick).sum
structure Accounted (s : Audit) : Prop where
  children : List.Forall₂ ChildAccounted s.tracker.planState.children s.credits
  plan : Aggregated s.tracker.planState

-- The part of the reported lots that the child still has room for.
def credited (r : ExecutionReport) (c : ChildFillState) : Int :=
  min (c.requestedQtyLots - c.filledQtyLots) (max 0 r.filledLots)
-- What the tracker takes a report at its word for. The lots beyond the room are paid for as well,
-- which a 64-bit cost does not show when they cost a multiple of 2^64.
structure Fits (r : ExecutionReport) (c : ChildFillState) : Prop where
  filled : c.filledQtyLots + max 0 r.filledLots ≤ i64Max
  priced : 0 < r.avgFillPriceTick → 0 < r.filledLots →
    (18446744073709551616 : Int) ∣ (r.filledLots - credited r c) * r.avgFillPriceTick ∧
    c.totalCostTick + credited r c * r.avgFillPriceTick ≤ i64Max
  unpriced : r.avgFillPriceTick < 0 → 0 < r.filledLots → c.filledQtyLots = c.requestedQtyLots
  remaining : 0 < r.remainingLots → c.requestedQtyLots ≤ c.filledQtyLots + max 0 r.filledLots + r.remainingLots
structure Fitting (s : Audit) (r : ExecutionReport) : Prop where
  ordered : ∀ c ∈ s.tracker.planState.children, 0 ≤ c.requestedQtyLots
  child : ∀ c ∈ s.tracker.planState.children.find? (fun c => decide (c.orderId = r.childOrderId)), Fits r c
  plan : ∀ c ∈ s.tracker.planState.children.find? (fun c => decide (c.orderId = r.childOrderId)),
    0 < r.avgFillPriceTick → 0 < r.filledLots →
      s.tracker.planState.totalCostTick + credited r c * r.avgFillPriceTick ≤ i64Max

/-! The plan's figures are taken from the children after every report. -/

theorem wrapSum (start : Int) (children : List ChildFillState) :
    children.foldl (fun total c => addI64 total c.totalCostTick) (wrapI64 start) =
      wrapI64 (start + (children.map ChildFillState.totalCostTick).sum) := by
  induction children generalizing start with
  | nil => simp
  | cons c rest ih =>
    have step : addI64 (wrapI64 start) c.totalCostTick = wrapI64 (start + c.totalCostTick) := by
      unfold addI64 wrapI64
      omega
    rw [List.foldl_cons,step,ih,List.map_cons,List.sum_cons,Int.add_assoc]
theorem refreshCost (p : PlanFillState) :
    (refreshPlanFlags p).totalCostTick = wrapI64 (p.children.map ChildFillState.totalCostTick).sum := by
  have start := wrapSum 0 p.children
  rw [wrapExact (by decide),Int.zero_add] at start
  exact start
theorem wrapSame {v : Int} : wrapI64 v = v ↔ InI64 v :=
  ⟨fun same => same ▸ wrapRange v,wrapExact⟩

theorem refreshAggregated (p : PlanFillState) :
    Aggregated (refreshPlanFlags p) ↔ InI64 (p.children.map ChildFillState.totalCostTick).sum := by
  constructor
  · intro aggregated
    have cost := aggregated.cost
    rw [refreshCost] at cost
    exact wrapSame.mp cost
  · intro fits
    exact ⟨by simp [refreshPlanFlags],by simp [refreshPlanFlags],by simp [refreshPlanFlags],
      (refreshCost p).trans (wrapExact fits)⟩
theorem applyFirst (t : FillTracker) (r) : (t.apply r).planState.children =
    (updateFirst (fun c => decide (c.orderId = r.childOrderId)) (applyFill r) t.planState.children).getD
    t.planState.children := by
  unfold FillTracker.apply
  simp only
  split
  · next missed =>
    rw [missed]
    rfl
  · next found =>
    rw [found]
    rfl
theorem updateFirstNone {α : Type} {hit : α → Bool} {update : α → α} {xs : List α} :
    updateFirst hit update xs = none ↔ xs.find? hit = none := by
  induction xs with
  | nil => simp [updateFirst]
  | cons x rest ih =>
    unfold updateFirst
    cases here : hit x with
    | true => simp [here]
    | false => simpa [here] using ih
theorem updateFirstSum {α : Type} {hit : α → Bool} {update : α → α} {xs out : List α} {x} (f : α → Int)
    (updated : updateFirst hit update xs = some out) (found : xs.find? hit = some x) :
    (out.map f).sum = (xs.map f).sum + (f (update x) - f x) := by
  induction xs generalizing out with
  | nil => cases found
  | cons y rest ih =>
    unfold updateFirst at updated
    cases here : hit y with
    | true =>
      rw [List.find?_cons_of_pos here] at found
      rw [here,if_pos rfl] at updated
      cases found
      cases updated
      simp only [List.map_cons,List.sum_cons]
      omega
    | false =>
      rw [List.find?_cons_of_neg (by simp [here])] at found
      rw [here,if_neg (by simp)] at updated
      cases later : updateFirst hit update rest with
      | none =>
        rw [later] at updated
        cases updated
      | some changed =>
        rw [later] at updated
        cases updated
        simp only [List.map_cons,List.sum_cons,ih later found]
        omega
-- Over the children as they stand, the plan's cost changes by what the child of the report changes.
theorem applyAggregated {t : FillTracker} (fresh : Aggregated t.planState) (r) : Aggregated (t.apply r).planState ↔
    ∀ c ∈ t.planState.children.find? (fun c => decide (c.orderId = r.childOrderId)),
      InI64 (t.planState.totalCostTick + ((applyFill r c).totalCostTick - c.totalCostTick)) := by
  unfold FillTracker.apply
  simp only
  cases updated : updateFirst (fun c => decide (c.orderId = r.childOrderId))
    (applyFill r) t.planState.children with
  | none =>
    rw [updateFirstNone.mp updated]
    exact iff_of_true fresh (fun _ missing => (by cases missing))
  | some children =>
    cases found : t.planState.children.find? (fun c => decide (c.orderId = r.childOrderId)) with
    | none =>
      rw [updateFirstNone.mpr found] at updated
      cases updated
    | some c =>
      simp only
      rw [refreshAggregated,updateFirstSum ChildFillState.totalCostTick updated found,← fresh.cost]
      exact ⟨fun fits other same => Option.some.inj same ▸ fits,fun fits => fits c rfl⟩

/-! One child. -/

structure Kept (c : ChildFillState) (credits : List Credit) : Prop extends ChildAccounted c credits where
  typed : c.requestedQtyLots ≤ i64Max ∧ c.totalCostTick ≤ i64Max
  spent : 0 ≤ c.totalCostTick
  fresh : c.filledQtyLots = 0 → c.avgFillPriceTick = 0
  counted : (credits.map Credit.lots).sum = c.filledQtyLots
  added : ∀ credit ∈ credits, 0 ≤ credit.lots

section
variable {r : ExecutionReport} {c : ChildFillState} {credits : List Credit}

theorem filledAfter (kept : Kept c credits) (fits : c.filledQtyLots + max 0 r.filledLots ≤ i64Max) :
    (applyFill r c).filledQtyLots = min c.requestedQtyLots (c.filledQtyLots + max 0 r.filledLots) := by
  have bounds := kept.filled
  have exact : addI64 c.filledQtyLots (max 0 r.filledLots) = c.filledQtyLots + max 0 r.filledLots :=
    wrapExact ⟨by unfold i64Min; omega,fits⟩
  change min c.requestedQtyLots (addI64 c.filledQtyLots (max 0 r.filledLots)) = _
  rw [exact]
-- A sum of lots that does not fit is negative, and so are the filled lots.
theorem overflowNegative (kept : Kept c credits) (typed : r.filledLots ≤ i64Max)
    (beyond : ¬ c.filledQtyLots + max 0 r.filledLots ≤ i64Max) : (applyFill r c).filledQtyLots < 0 := by
  have bounds := kept.filled
  have requested := kept.typed.1
  change min c.requestedQtyLots (addI64 c.filledQtyLots (max 0 r.filledLots)) < 0
  unfold addI64 wrapI64
  unfold i64Max at *
  omega
theorem requestedAfter : (applyFill r c).requestedQtyLots = c.requestedQtyLots := rfl
theorem costAfter : (applyFill r c).totalCostTick = if 0 < r.filledLots ∧ 0 < r.avgFillPriceTick
    then wrapI64 (c.totalCostTick + r.filledLots * r.avgFillPriceTick) else c.totalCostTick := by
  unfold applyFill addI64
  simp only [lt_max_iff,lt_self_iff_false,false_or]
  split
  · next priced =>
    rw [max_eq_right (le_of_lt priced.1)]
    unfold wrapI64
    omega
  · rfl
theorem averageAfter : (applyFill r c).avgFillPriceTick =
    if (0 < r.filledLots ∧ 0 < r.avgFillPriceTick) ∧ 0 < (applyFill r c).filledQtyLots
    then (applyFill r c).totalCostTick.tdiv (applyFill r c).filledQtyLots else c.avgFillPriceTick := by
  simp only [applyFill,lt_max_iff,lt_self_iff_false,false_or]
theorem remainingAfter (kept : Kept c credits) (fits : c.filledQtyLots + max 0 r.filledLots ≤ i64Max) :
    (applyFill r c).filledQtyLots + (applyFill r c).remainingQtyLots = c.requestedQtyLots ↔
      (0 < r.remainingLots → c.requestedQtyLots ≤ c.filledQtyLots + max 0 r.filledLots + r.remainingLots) := by
  have bounds := kept.filled
  have requested := kept.typed.1
  have filled := filledAfter kept fits
  have open_ : subI64 c.requestedQtyLots
    (applyFill r c).filledQtyLots = c.requestedQtyLots - (applyFill r c).filledQtyLots :=
    wrapExact ⟨by unfold i64Min; omega,by omega⟩
  have remaining : (applyFill r c).remainingQtyLots =
      if 0 < r.remainingLots ∨ c.requestedQtyLots ≤ (applyFill r c).filledQtyLots
      then min (max 0 (subI64 c.requestedQtyLots (applyFill r c).filledQtyLots)) (max 0 r.remainingLots)
      else max 0 (subI64 c.requestedQtyLots (applyFill r c).filledQtyLots) := rfl
  rw [remaining,open_,filled]
  split <;> omega

theorem creditLots : (creditOf r c).lots = (applyFill r c).filledQtyLots - c.filledQtyLots := rfl
theorem creditPrice : (creditOf r c).priceTick = r.avgFillPriceTick := rfl
theorem creditRoom (kept : Kept c credits) (fits : c.filledQtyLots + max 0 r.filledLots ≤ i64Max) :
    (creditOf r c).lots = credited r c := by
  have bounds := kept.filled
  rw [creditLots,filledAfter kept fits,credited]
  omega

theorem bookedCost (old new : List Credit) : ((old ++ new).map fun credit => credit.lots * credit.priceTick).sum =
    (old.map fun credit => credit.lots * credit.priceTick).sum +
    (new.map fun credit => credit.lots * credit.priceTick).sum := by
  rw [List.map_append,List.sum_append]
-- A cost that wraps is the exact one when they differ by a multiple of 2^64 and the exact one fits.
theorem wrapReaches {paid due : Int} : wrapI64 paid = due ↔
    (18446744073709551616 : Int) ∣ paid - due ∧ InI64 due := by
  unfold wrapI64 InI64 i64Min i64Max
  omega
theorem costExact (kept : Kept c credits) (fits : c.filledQtyLots + max 0 r.filledLots ≤ i64Max) :
    (applyFill r c).totalCostTick =
    ((credits ++ [creditOf r c]).map fun credit => credit.lots * credit.priceTick).sum ↔
      (0 < r.avgFillPriceTick → 0 < r.filledLots →
        (18446744073709551616 : Int) ∣ (r.filledLots - credited r c) * r.avgFillPriceTick ∧
        c.totalCostTick + credited r c * r.avgFillPriceTick ≤ i64Max) ∧
      (r.avgFillPriceTick < 0 → 0 < r.filledLots → c.filledQtyLots = c.requestedQtyLots) := by
  have bounds := kept.filled
  have spent := kept.spent
  have lots := creditRoom kept fits
  have nonneg : 0 ≤ credited r c := by
    unfold credited
    omega
  rw [bookedCost,← kept.cost,costAfter,List.map_singleton,List.sum_singleton,lots,creditPrice]
  rcases lt_trichotomy r.avgFillPriceTick 0 with below | free | above
  · rw [if_neg (by omega)]
    constructor
    · intro same
      have none : credited r c * r.avgFillPriceTick = 0 := by omega
      have zero := (Int.mul_eq_zero.mp none).resolve_right (by omega)
      unfold credited at zero
      exact ⟨fun _ => by omega,fun _ some => by omega⟩
    · rintro ⟨-,full⟩
      have zero : credited r c = 0 := by
        unfold credited
        by_cases some : 0 < r.filledLots
        · have := full below some
          omega
        · omega
      rw [zero,Int.zero_mul,Int.add_zero]
  · rw [if_neg (by omega),free,Int.mul_zero,Int.add_zero]
    exact ⟨fun _ => ⟨fun _ => by omega,fun _ => by omega⟩,fun _ => rfl⟩
  · by_cases some : 0 < r.filledLots
    · have due : 0 ≤ credited r c * r.avgFillPriceTick := Int.mul_nonneg nonneg (le_of_lt above)
      have beyond : c.totalCostTick + r.filledLots * r.avgFillPriceTick -
        (c.totalCostTick + credited r c * r.avgFillPriceTick) =
          (r.filledLots - credited r c) * r.avgFillPriceTick := by ring
      rw [if_pos ⟨some,above⟩,wrapReaches,beyond]
      constructor
      · rintro ⟨multiple,range⟩
        exact ⟨fun _ _ => ⟨multiple,range.2⟩,fun _ => by omega⟩
      · rintro ⟨paid,-⟩
        obtain ⟨multiple,room⟩ := paid above some
        exact ⟨multiple,by unfold i64Min; omega,room⟩
    · have zero : credited r c = 0 := by
        unfold credited
        omega
      rw [if_neg (by omega),zero,Int.zero_mul,Int.add_zero]
      exact ⟨fun _ => ⟨fun _ => by omega,fun _ => by omega⟩,fun _ => rfl⟩

-- A weighted sum of prices lies between the bounds of the prices.
theorem weighted {least most : Int} (added : ∀ credit ∈ credits, 0 ≤ credit.lots)
    (bounds : ∀ credit ∈ credits, 0 < credit.lots → least ≤ credit.priceTick ∧ credit.priceTick ≤ most) :
    least * (credits.map Credit.lots).sum ≤ (credits.map fun credit => credit.lots * credit.priceTick).sum ∧
    (credits.map fun credit => credit.lots * credit.priceTick).sum ≤ most * (credits.map Credit.lots).sum := by
  induction credits with
  | nil => simp
  | cons credit rest ih =>
    obtain ⟨here,later⟩ := List.forall_mem_cons.mp added
    obtain ⟨bound,others⟩ := List.forall_mem_cons.mp bounds
    obtain ⟨lower,upper⟩ := ih later others
    simp only [List.map_cons,List.sum_cons]
    rcases lt_or_eq_of_le here with some | none
    · obtain ⟨above,below⟩ := bound some
      constructor <;> nlinarith
    · rw [← none]
      constructor <;> linarith
theorem tdivBetween {least most cost lots : Int} (some : 0 < lots) (lower : least * lots ≤ cost)
    (upper : cost ≤ most * lots) :
    least ≤ cost.tdiv lots ∧ cost.tdiv lots ≤ most := by
  rcases le_or_gt 0 cost with nonneg | negative
  · rw [Int.tdiv_eq_ediv_of_nonneg nonneg]
    exact ⟨(Int.le_ediv_iff_mul_le some).mpr lower,Int.ediv_le_of_le_mul some upper⟩
  · have flipped : cost.tdiv lots = -((-cost) / lots) := by
      rw [← Int.tdiv_eq_ediv_of_nonneg (by omega),Int.neg_tdiv,Int.neg_neg]
    rw [flipped]
    have above : (-cost) / lots ≤ -least := Int.ediv_le_of_le_mul some (by rw [Int.neg_mul]; omega)
    have below : -most ≤ (-cost) / lots := (Int.le_ediv_iff_mul_le some).mpr (by rw [Int.neg_mul]; omega)
    omega

-- What a fitting report adds to the cost of the child.
theorem paidAfter (kept : Kept c credits) (fits : Fits r c) : (applyFill r c).totalCostTick - c.totalCostTick =
    if 0 < r.filledLots ∧ 0 < r.avgFillPriceTick then credited r c * r.avgFillPriceTick else 0 := by
  have cost := (costExact kept fits.filled).mpr ⟨fits.priced,fits.unpriced⟩
  rw [bookedCost,← kept.cost,List.map_singleton,List.sum_singleton,creditRoom kept fits.filled,creditPrice] at cost
  split
  · omega
  · next unpaid => rw [costAfter,if_neg unpaid,Int.sub_self]
theorem paidNonneg (kept : Kept c credits) (fits : Fits r c) : c.totalCostTick ≤ (applyFill r c).totalCostTick ∧
    0 ≤ (applyFill r c).totalCostTick := by
  have bounds := kept.filled
  have spent := kept.spent
  have paid := paidAfter kept fits
  have room : 0 ≤ credited r c := by
    unfold credited
    omega
  split at paid
  · next priced =>
    have due := Int.mul_nonneg room (le_of_lt priced.2)
    omega
  · omega

theorem keptAfter (kept : Kept c credits) (fits : Fits r c) :
    Kept (applyFill r c) (credits ++ [creditOf r c]) := by
  have bounds := kept.filled
  have counted : ((credits ++ [creditOf r c]).map Credit.lots).sum = (applyFill r c).filledQtyLots := by
    rw [List.map_append,List.sum_append,kept.counted,List.map_singleton,List.sum_singleton,creditLots]
    ring
  have added : ∀ credit ∈ credits ++ [creditOf r c], 0 ≤ credit.lots := by
    intro credit mem
    rcases List.mem_append.mp mem with old | new
    · exact kept.added credit old
    · cases List.mem_singleton.mp new
      rw [creditRoom kept fits.filled,credited]
      omega
  have filled := filledAfter kept fits.filled
  have cost := (costExact kept fits.filled).mpr ⟨fits.priced,fits.unpriced⟩
  refine ⟨⟨?_,(remainingAfter kept fits.filled).mpr fits.remaining,cost,?_⟩,⟨kept.typed.1,?_⟩,?_,?_,counted,added⟩
  · rw [filled,requestedAfter]
    omega
  · intro least most within some
    rw [averageAfter]
    split
    · have range := weighted added within
      rw [counted,← cost] at range
      exact tdivBetween some range.1 range.2
    · next unpriced =>
      by_cases before : 0 < c.filledQtyLots
      · exact kept.average least most (fun credit mem => within credit (List.mem_append_left _ mem)) before
      · -- The first lots came without a price, so the average still stands at zero.
        have zero := kept.fresh (by omega)
        have credited : 0 < (creditOf r c).lots := by
          rw [creditLots]
          omega
        have price := within (creditOf r c) (List.mem_append_right _ List.mem_cons_self) credited
        have free : r.avgFillPriceTick = 0 := by
          have full := fits.unpriced
          omega
        rw [creditPrice] at price
        omega
  · rw [costAfter]
    split
    · exact (wrapRange _).2
    · exact kept.typed.2
  · have due := paidNonneg kept fits
    omega
  · intro none
    rw [averageAfter,if_neg (by omega)]
    rw [filled] at none
    exact kept.fresh (by omega)

theorem accountedAfter (kept : Kept c credits) (typed : r.filledLots ≤ i64Max) :
    ChildAccounted (applyFill r c) (credits ++ [creditOf r c]) ↔ Fits r c := by
  constructor
  · intro accounted
    have filled : c.filledQtyLots + max 0 r.filledLots ≤ i64Max := by
      by_contra beyond
      have negative := overflowNegative kept typed beyond
      have nonneg := accounted.filled.1
      omega
    obtain ⟨priced,unpriced⟩ := (costExact kept filled).mp accounted.cost
    exact ⟨filled,priced,unpriced,(remainingAfter kept filled).mp accounted.remaining⟩
  · exact fun fits => (keptAfter kept fits).toChildAccounted

end

/-! All children of a plan. -/

theorem bookedFirst {R : ChildFillState → List Credit → Prop} {r : ExecutionReport} {children credits}
    (kept : List.Forall₂ Kept children credits) (weaken : ∀ c own, Kept c own → R c own)
    (each : ∀ c own, Kept c own → (R (applyFill r c) (own ++ [creditOf r c]) ↔ Fits r c)) :
    List.Forall₂ R ((updateFirst (fun c => decide (c.orderId = r.childOrderId))
      (applyFill r) children).getD children)
      (bookCredit r children credits) ↔
    ∀ c ∈ children.find? (fun c => decide (c.orderId = r.childOrderId)), Fits r c := by
  induction kept with
  | nil => simp [updateFirst,bookCredit]
  | @cons c own children credits here later ih =>
    have rest : List.Forall₂ R children credits := later.imp weaken
    unfold updateFirst bookCredit
    by_cases hit : c.orderId = r.childOrderId
    · have found : (c::children).find? (fun c => decide (c.orderId = r.childOrderId)) = some c :=
        List.find?_cons_of_pos (decide_eq_true hit)
      rw [found,if_pos (decide_eq_true hit),if_pos hit]
      constructor
      · intro all other found
        cases found
        exact (each c own here).mp (List.forall₂_cons.mp all).1
      · exact fun fits => .cons ((each c own here).mpr (fits c rfl)) rest
    · have miss : ¬ decide (c.orderId = r.childOrderId) = true := by simpa using hit
      have later : (c::children).find? (fun c => decide (c.orderId = r.childOrderId)) =
          children.find? (fun c => decide (c.orderId = r.childOrderId)) := List.find?_cons_of_neg miss
      rw [later,if_neg miss,if_neg hit,← ih]
      cases updateFirst (fun c => decide (c.orderId = r.childOrderId)) (applyFill r) children with
      | none => exact ⟨fun all => (List.forall₂_cons.mp all).2,fun all => .cons (weaken c own here) all⟩
      | some changed => exact ⟨fun all => (List.forall₂_cons.mp all).2,fun all => .cons (weaken c own here) all⟩

structure AuditKept (s : Audit) : Prop where
  children : List.Forall₂ Kept s.tracker.planState.children s.credits
  plan : Aggregated s.tracker.planState
  bounded : InI64 s.tracker.planState.totalCostTick

-- Once the child of the report is right, the plan is right when its own cost fits.
theorem planAfter {s r} (kept : AuditKept s)
    (fits : ∀ c ∈ s.tracker.planState.children.find? (fun c => decide (c.orderId = r.childOrderId)), Fits r c) :
    Aggregated (s.tracker.apply r).planState ↔
      ∀ c ∈ s.tracker.planState.children.find? (fun c => decide (c.orderId = r.childOrderId)),
        0 < r.avgFillPriceTick → 0 < r.filledLots →
          s.tracker.planState.totalCostTick + credited r c * r.avgFillPriceTick ≤ i64Max := by
  rw [applyAggregated kept.plan]
  refine forall_congr' fun c => forall_congr' fun found => ?_
  obtain ⟨own,_,here⟩ := forallLeft kept.children c (List.mem_of_find?_eq_some found)
  have paid := paidAfter here (fits c found)
  have grows := (paidNonneg here (fits c found)).1
  have bounded := kept.bounded
  rw [paid]
  split
  · next priced =>
    rw [if_pos priced] at paid
    exact ⟨fun range _ _ => range.2,fun range => ⟨by unfold InI64 at bounded; omega,range priced.2 priced.1⟩⟩
  · next unpaid =>
    rw [Int.add_zero]
    exact iff_of_true bounded fun price lots => absurd ⟨lots,price⟩ unpaid

theorem accountedStep {s r} (kept : AuditKept s) (typed : r.filledLots ≤ i64Max) :
    Accounted (auditStep s r).1 ↔ Fitting s r := by
  have first := bookedFirst (r := r) kept.children (fun _ _ => Kept.toChildAccounted) fun _ _ here =>
    accountedAfter here typed
  have ordered : ∀ c ∈ s.tracker.planState.children, 0 ≤ c.requestedQtyLots := by
    intro c mem
    obtain ⟨own,_,here⟩ := forallLeft kept.children c mem
    have := here.filled
    omega
  constructor
  · rintro ⟨children,plan⟩
    unfold auditStep at children plan
    simp only at children plan
    rw [applyFirst] at children
    have fits := first.mp children
    exact ⟨ordered,fits,(planAfter kept fits).mp plan⟩
  · rintro ⟨-,fits,paid⟩
    refine ⟨?_,(planAfter kept fits).mpr paid⟩
    unfold auditStep
    simp only
    rw [applyFirst]
    exact first.mpr fits
theorem applyBounded {t : FillTracker} (bounded : InI64 t.planState.totalCostTick) (r) :
    InI64 (t.apply r).planState.totalCostTick := by
  unfold FillTracker.apply
  simp only
  split
  · exact bounded
  · rw [refreshCost]
    exact wrapRange _
theorem keptStep {s r} (kept : AuditKept s) (typed : r.filledLots ≤ i64Max) (fits : Fitting s r) :
    AuditKept (auditStep s r).1 := by
  have first := bookedFirst (r := r) kept.children (fun _ _ here => here) fun c own here =>
    ⟨fun after => (accountedAfter here typed).mp after.toChildAccounted,keptAfter here⟩
  refine ⟨?_,(planAfter kept fits.child).mpr fits.plan,applyBounded kept.bounded r⟩
  unfold auditStep
  simp only
  rw [applyFirst]
  exact first.mpr fits.child
theorem auditStart {plan : OrderPlan}
    (ordered : ∀ o ∈ plan.orders.take kMaxChildOrdersPerPlan, 0 ≤ o.quantityLots ∧ o.quantityLots ≤ i64Max) :
    AuditKept (audit plan) := by
  refine ⟨?_,(refreshAggregated _).mpr ?_,?_⟩
  · unfold audit
    rw [List.forall₂_map_right_iff,List.forall₂_same]
    intro c mem
    obtain ⟨o,inside,rfl⟩ := List.mem_map.mp mem
    refine ⟨⟨⟨le_rfl,(ordered o inside).1⟩,Int.zero_add _,rfl,fun _ _ _ some => absurd some (lt_irrefl 0)⟩,
      ⟨(ordered o inside).2,(by decide : (0 : Int) ≤ i64Max)⟩,le_rfl,fun _ => rfl,rfl,?_⟩
    exact fun credit none => (by cases none)
  · have free : ((plan.orders.take kMaxChildOrdersPerPlan).map fun _ => (0 : Int)).sum = 0 := by simp
    rw [List.map_map]
    change InI64 ((plan.orders.take kMaxChildOrdersPerPlan).map fun _ => (0 : Int)).sum
    rw [free]
    decide
  · unfold audit FillTracker.reset
    rw [refreshCost]
    exact wrapRange _

theorem updateFirstMap {α β : Type} {hit : α → Bool} {update : α → α} (f : α → β)
    (same : ∀ x, f (update x) = f x) (xs : List α) :
    ((updateFirst hit update xs).getD xs).map f = xs.map f := by
  induction xs with
  | nil => rfl
  | cons x rest ih =>
    unfold updateFirst
    split
    · simp [same]
    · cases found : updateFirst hit update rest with
      | none => rfl
      | some changed =>
        rw [found] at ih
        simpa using ih
theorem requestedStep (s : Audit) (r) :
    (auditStep s r).1.tracker.planState.children.map ChildFillState.requestedQtyLots =
    s.tracker.planState.children.map ChildFillState.requestedQtyLots := by
  unfold auditStep
  simp only
  rw [applyFirst]
  exact updateFirstMap ChildFillState.requestedQtyLots (fun _ => requestedAfter) _
theorem auditRequested (plan : OrderPlan) :
    (audit plan).tracker.planState.children.map ChildFillState.requestedQtyLots =
    (plan.orders.take kMaxChildOrdersPerPlan).map ChildOrder.quantityLots := by
  unfold audit FillTracker.reset refreshPlanFlags
  rw [List.map_map]
  rfl

-- Orders and reports carry 64-bit numbers.
theorem fillsAccountedIff (plan : OrderPlan) (reports : List ExecutionReport)
    (orders : ∀ o ∈ plan.orders, o.quantityLots ≤ i64Max) (lots : ∀ r ∈ reports, r.filledLots ≤ i64Max) :
    Machine.Along auditStep (fun s _ r => Accounted (auditStep s r).1) (audit plan) [] reports ↔
      Machine.Along auditStep (fun s _ r => Fitting s r) (audit plan) [] reports := by
  cases reports with
  | nil => exact Iff.rfl
  | cons r rest =>
    have run : (∀ o ∈ plan.orders.take kMaxChildOrdersPerPlan, 0 ≤ o.quantityLots) →
        (Machine.Along auditStep (fun s _ r => Accounted (auditStep s r).1) (audit plan) [] (r::rest) ↔
          Machine.Along auditStep (fun s _ r => Fitting s r) (audit plan) [] (r::rest)) := fun ordered =>
      Machine.alongUnder (P := fun s _ => AuditKept s) (fun x mem _ _ kept => accountedStep kept (lots x mem))
        (fun x mem _ _ kept fits => keptStep kept (lots x mem) fits)
        (auditStart fun o mem => ⟨ordered o mem,orders o (List.mem_of_mem_take mem)⟩)
    -- Either side rules a negative order out: both ask it of the requested quantities, which no report changes.
    have ordered : (∀ q ∈ (audit plan).tracker.planState.children.map ChildFillState.requestedQtyLots, 0 ≤ q) →
        ∀ o ∈ plan.orders.take kMaxChildOrdersPerPlan, 0 ≤ o.quantityLots := by
      rw [auditRequested]
      exact fun nonneg o mem => nonneg _ (List.mem_map_of_mem mem)
    constructor
    · intro accounted
      refine (run (ordered ?_)).mp accounted
      rw [← requestedStep (audit plan) r]
      intro q mem
      obtain ⟨c,inside,rfl⟩ := List.mem_map.mp mem
      obtain ⟨own,_,here⟩ := forallLeft accounted.1.children c inside
      have := here.filled
      omega
    · intro fits
      refine (run (ordered ?_)).mpr fits
      intro q mem
      obtain ⟨c,inside,rfl⟩ := List.mem_map.mp mem
      exact fits.1.ordered c inside

def singleLot : OrderPlan := {planId := 1, orders := [{orderId := 1, quantityLots := 1}]}
def oneLotFilled : ExecutionReport :=
  {planId := 1, childOrderId := 1, status := .filled, filledLots := 1, avgFillPriceTick := 10}
theorem oneLotAccounted :
    Machine.Along auditStep (fun s _ r => Accounted (auditStep s r).1) (audit singleLot) [] [oneLotFilled] := by
  refine (fillsAccountedIff singleLot [oneLotFilled] (by decide) (by decide)).mpr ⟨⟨by decide,?_,?_⟩,trivial⟩
  · rintro c found
    cases found
    exact ⟨by decide,fun _ _ => by decide,by decide,by decide⟩
  · rintro c found
    cases found
    exact fun _ _ => by decide

def twoLotsFilled : ExecutionReport :=
  {planId := 1, childOrderId := 1, status := .filled, filledLots := 2, avgFillPriceTick := 10}
theorem overfillCostsDouble :
    ¬ Machine.Along auditStep (fun s _ r => Accounted (auditStep s r).1) (audit singleLot) [] [twoLotsFilled] ∧
    (((tracked singleLot [twoLotsFilled]).children.map fun c =>
      (c.filledQtyLots,c.totalCostTick,c.avgFillPriceTick)) = [(1,20,20)]) := by
  refine ⟨fun accounted => ?_,by decide⟩
  have start : AuditKept (audit singleLot) := auditStart (by decide)
  have fits : Fitting (audit singleLot) twoLotsFilled := (accountedStep start (by decide)).mp accounted.1
  have priced := (fits.child ⟨1,1,0,1,0,0⟩ (by decide)).priced (by decide) (by decide)
  exact absurd priced (by decide)

end Polytope.FillAccounting
