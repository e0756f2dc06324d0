import Polytope.ExecutionAdapters

/-! What the paper adapter reports of a plan. Every child is simulated against one book, level by level up to its
limit; in atomic mode the reports are rewritten to none filled as soon as one child is short. The notional
may wrap around, which can only lower an average price. -/
namespace Polytope.PaperAtomicity
open ExecutionTypes ExecutionAdapters FixedPointMath
open MarketDepth (PriceLevel)

-- The ask levels a child is simulated against: by asset index in the depth views, else by asset id.
def asksFor (ctx : ExecutionContext) (order : ChildOrder) : List PriceLevel :=
  match ctx.depthViews.find? fun v => decide (v.assetIndex = order.assetIndex) with
  | some v => v.asks
  | none =>
    match ctx.snapshots.find? fun s => decide (s.entityId = order.assetId) with
    | none => []
    | some s => s.asks
def lotsAt (limitPriceTick : Int) (level : PriceLevel) : Int :=
  if 0 < level.priceTick ∧ level.priceTick ≤ limitPriceTick then max (sizeToLots level.size) 0 else 0
def lotsWithin (limitPriceTick : Int) (asks : List PriceLevel) : Int := (asks.map (lotsAt limitPriceTick)).sum

structure Reported (ctx : ExecutionContext) (order : ChildOrder) (r : ExecutionReport) : Prop where
  child : r.childOrderId = order.orderId
  split : r.filledLots + r.remainingLots = order.quantityLots
  covered : r.filledLots ≤ lotsWithin order.limitPriceTick (asksFor ctx order)
-- The average price of no lots is zero, whatever the limit.
structure FilledWhole (order : ChildOrder) (r : ExecutionReport) : Prop where
  status : r.status = .filled
  whole : r.filledLots = order.quantityLots
  price : 0 < order.quantityLots → r.avgFillPriceTick ≤ order.limitPriceTick
  free : order.quantityLots = 0 → r.avgFillPriceTick = 0

/-! One simulation. -/

structure Walked (limit quantity within : Int) (w : BuyWalk) : Prop where
  split : w.filled + w.remaining = quantity
  nonneg : 0 ≤ w.filled
  covered : w.filled ≤ within
  paid : ∃ paid, 0 ≤ paid ∧ paid ≤ w.filled * limit ∧ w.notional = wrapI64 paid
  priced : 0 < w.filled → 0 < limit

theorem lotsAtNonneg (limit : Int) (level : PriceLevel) : 0 ≤ lotsAt limit level := by
  unfold lotsAt
  split
  · exact le_max_right _ _
  · exact le_refl 0

theorem buyLevelWalked {limit quantity within : Int} {w : BuyWalk} (walked : Walked limit quantity within w)
    (level : PriceLevel) :
    Walked limit quantity (within + lotsAt limit level) (buyLevel limit w level) := by
  have more := lotsAtNonneg limit level
  have passed : Walked limit quantity (within + lotsAt limit level) w :=
    ⟨walked.split,walked.nonneg,by linarith [walked.covered],walked.paid,walked.priced⟩
  unfold buyLevel
  split
  · exact passed
  · next wanted =>
    split
    · exact passed
    · next priced =>
      rw [not_or,not_le,not_lt] at priced
      simp only
      split
      · exact passed
      · next available =>
        have here : lotsAt limit level = sizeToLots level.size := by
          rw [lotsAt,if_pos priced]
          exact max_eq_left (by omega)
        obtain ⟨paid,nonneg,bounded,wrapped⟩ := walked.paid
        have taken : 0 < min w.remaining (sizeToLots level.size) := lt_min (by omega) (by omega)
        have least := min_le_right w.remaining (sizeToLots level.size)
        have split := walked.split
        have filled := walked.nonneg
        have covered := walked.covered
        generalize min w.remaining (sizeToLots level.size) = take at taken least ⊢
        refine ⟨?_,?_,?_,⟨paid + take * level.priceTick,?_,?_,?_⟩,?_⟩
        · simp only
          omega
        · simp only
          omega
        · simp only
          omega
        · have := Int.mul_nonneg taken.le priced.1.le
          omega
        · have cost := Int.mul_le_mul_of_nonneg_left priced.2 taken.le
          simp only [Int.add_mul]
          omega
        · simp only [wrapped,wrapAdd]
        · exact fun _ => lt_of_lt_of_le priced.1 priced.2
theorem buyLevelsWalked {limit quantity within : Int} {w : BuyWalk} (walked : Walked limit quantity within w)
    (asks : List PriceLevel) :
    Walked limit quantity (within + lotsWithin limit asks) (asks.foldl (buyLevel limit) w) := by
  induction asks generalizing within w with
  | nil => simpa [lotsWithin] using walked
  | cons level rest ih =>
    have next := ih (buyLevelWalked walked level)
    rw [Int.add_assoc] at next
    exact next
theorem averageWithin {limit quantity within : Int} {w : BuyWalk} (walked : Walked limit quantity within w)
    (filled : 0 < w.filled) :
    w.notional.tdiv w.filled ≤ limit := by
  obtain ⟨paid,nonneg,bounded,wrapped⟩ := walked.paid
  have least : i64Min ≤ paid := le_trans (by decide) nonneg
  have below : w.notional ≤ limit * w.filled := by
    rw [wrapped]
    exact le_trans (wrapLe least) (by rw [Int.mul_comm]; exact bounded)
  have limited := walked.priced filled
  rcases Int.le_total 0 w.notional with positive | negative
  · rw [Int.tdiv_eq_ediv_of_nonneg positive]
    exact Int.ediv_le_of_le_mul filled below
  · have := Int.tdiv_nonneg (Int.neg_nonneg_of_nonpos negative) filled.le
    rw [Int.neg_tdiv] at this
    omega

structure Simulated (ctx : ExecutionContext) (order : ChildOrder) (fill : FillSimulation) : Prop where
  split : fill.filledLots + fill.remainingLots = order.quantityLots
  nonneg : 0 ≤ fill.filledLots
  covered : fill.filledLots ≤ lotsWithin order.limitPriceTick (asksFor ctx order)
  whole : fill.full = true → fill.filledLots = order.quantityLots
  price : 0 < fill.filledLots → fill.avgFillPriceTick ≤ order.limitPriceTick
  free : fill.filledLots = 0 → fill.avgFillPriceTick = 0

theorem lotsWithinNonneg (limit : Int) (asks : List PriceLevel) : 0 ≤ lotsWithin limit asks :=
  List.sum_nonneg fun lots mem => by
    obtain ⟨level,-,rfl⟩ := List.mem_map.mp mem
    exact lotsAtNonneg limit level
theorem unfilled (ctx : ExecutionContext) (order : ChildOrder) (snapshotFound : Bool) (rejectReason : String) :
    Simulated ctx order {snapshotFound, remainingLots := order.quantityLots, rejectReason} where
  split := Int.zero_add _
  nonneg := le_refl 0
  covered := lotsWithinNonneg _ _
  whole := fun full => (nomatch full)
  price := fun filled => absurd filled (lt_irrefl 0)
  free := fun _ => rfl
theorem depthSimulated {ctx : ExecutionContext} {order : ChildOrder} {asks : List PriceLevel}
    (own : asksFor ctx order = asks)
    (usable : Bool) : Simulated ctx order (simulateDepth order usable asks) := by
  unfold simulateDepth
  split
  · exact unfilled ctx order true "InsufficientDepth"
  · have start : Walked order.limitPriceTick order.quantityLots 0 {remaining := order.quantityLots} :=
      ⟨Int.zero_add _,le_refl 0,le_refl 0,⟨0,le_refl 0,by simp,rfl⟩,fun filled => absurd filled (lt_irrefl 0)⟩
    have walked := buyLevelsWalked start asks
    rw [Int.zero_add] at walked
    subst own
    refine ⟨walked.split,walked.nonneg,walked.covered,fun full => of_decide_eq_true full,fun filled =>
      ?_,fun none => ?_⟩
    · exact (if_pos filled).trans_le (averageWithin walked filled)
    · exact if_neg (by simpa using Int.le_of_eq none)
theorem simulated (ctx : ExecutionContext) (order : ChildOrder) : Simulated ctx order (simulate ctx order) := by
  unfold simulate
  split
  · unfold simulateBuy
    cases view : ctx.depthViews.find? fun v => decide (v.assetIndex = order.assetIndex) with
    | some v => exact depthSimulated (by rw [asksFor,view]) v.usableForDepth
    | none =>
      cases snapshot : ctx.snapshots.find? fun s => decide (s.entityId = order.assetId) with
      | some s => exact depthSimulated (by rw [asksFor,view]; simp only [snapshot]) s.usableForDepth
      | none => exact unfilled ctx order false "MissingSnapshot"
  · exact unfilled ctx order false "UnsupportedSide"

/-! The reports of a plan. -/

section
variable {ctx : ExecutionContext} {order : ChildOrder} {fill : FillSimulation} (plan : OrderPlan)
  (status : ChildOrderStatus) (reason : String)

theorem fillReported (sound : Simulated ctx order fill) :
    Reported ctx order (makeReport plan order status fill ctx.nowNs reason) :=
  ⟨rfl,sound.split,sound.covered⟩
theorem noFillReported : Reported ctx order (makeReport plan order status (noFill order fill) ctx.nowNs reason) :=
  ⟨rfl,Int.zero_add _,lotsWithinNonneg _ _⟩
theorem wholeReported (sound : Simulated ctx order fill) (full : fill.full = true) :
    FilledWhole order (makeReport plan order .filled fill ctx.nowNs reason) where
  status := rfl
  whole := sound.whole full
  price := fun positive => sound.price (by rw [sound.whole full]; exact positive)
  free := fun none => sound.free ((sound.whole full).trans none)
end

theorem sequentialReported (plan : OrderPlan) (ctx : ExecutionContext) :
    List.Forall₂ (Reported ctx) plan.orders (paperSequential plan ctx).1 := by
  refine List.forall₂_map_right_iff.mpr (List.forall₂_same.mpr fun order _ => ?_)
  split
  · exact noFillReported plan _ _
  · exact fillReported plan _ _ (simulated ctx order)
theorem atomicReported (plan : OrderPlan) (ctx : ExecutionContext) :
    List.Forall₂ (Reported ctx) plan.orders (paperAtomic plan ctx).1 := by
  unfold paperAtomic
  split
  · exact List.forall₂_map_right_iff.mpr
      (List.forall₂_same.mpr fun order _ => fillReported plan _ _ (simulated ctx order))
  · exact List.forall₂_map_right_iff.mpr (List.forall₂_same.mpr fun order _ => noFillReported plan _ _)
theorem atomicWhole (plan : OrderPlan) (ctx : ExecutionContext) :
    List.Forall₂ FilledWhole plan.orders (paperAtomic plan ctx).1 ∨
      ∀ r ∈ (paperAtomic plan ctx).1, r.filledLots = 0 := by
  unfold paperAtomic
  split
  · next full =>
    refine .inl (List.forall₂_map_right_iff.mpr (List.forall₂_same.mpr fun order mem => ?_))
    exact wholeReported plan _ (simulated ctx order) (List.all_eq_true.mp full order mem)
  · refine .inr fun r mem => ?_
    obtain ⟨order,-,rfl⟩ := List.mem_map.mp mem
    rfl

theorem paperFillsAtomic (plan : OrderPlan) (ctx : ExecutionContext) :
    List.Forall₂ (Reported ctx) plan.orders (paperSubmit plan ctx).1 ∧
      (ctx.config.paperMode = .paperAtomic →
        List.Forall₂ FilledWhole plan.orders (paperSubmit plan ctx).1 ∨
          ∀ r ∈ (paperSubmit plan ctx).1, r.filledLots = 0) := by
  unfold paperSubmit
  split
  · refine ⟨List.forall₂_map_right_iff.mpr (List.forall₂_same.mpr fun order _ => ?_),fun _ => .inr fun r mem => ?_⟩
    · exact fillReported plan _ _ (unfilled ctx order false "")
    · obtain ⟨order,-,rfl⟩ := List.mem_map.mp mem
      rfl
  · split
    · exact ⟨atomicReported plan ctx,fun _ => atomicWhole plan ctx⟩
    · next sequential => exact ⟨sequentialReported plan ctx,fun atomic => absurd atomic sequential⟩

def tenAtFive : ExecutionContext :=
  { depthViews :=
      [{assetIndex := 0, usableForDepth := true, asks := [{priceTick := 5, size := ⟨0x4024000000000000⟩}]}] }
def threeAndNone : OrderPlan :=
  {orders := [{orderId := 1, quantityLots := 3, limitPriceTick := 5},
    {orderId := 2, quantityLots := 0, limitPriceTick := -1}]}
theorem noLotsAboveLimit :
    ¬ ∀ (plan : OrderPlan) (ctx : ExecutionContext), ctx.config.paperMode = .paperAtomic →
      List.Forall₂
        (fun order r => r.filledLots = order.quantityLots ∧ r.avgFillPriceTick ≤ order.limitPriceTick) plan.orders
        (paperSubmit plan ctx).1 ∨ ∀ r ∈ (paperSubmit plan ctx).1, r.filledLots = 0 := by
  intro claimed
  have either := claimed threeAndNone tenAtFive rfl
  revert either
  decide +kernel

end Polytope.PaperAtomicity
