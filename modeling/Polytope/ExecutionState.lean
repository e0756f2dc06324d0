import Polytope.ExecutionTypes
import Polytope.Reservation

/-! Order and plan lifecycles, fill tracking and the partial fill policy. The tracker adds up
reported fills per child order and never counts more than was requested. -/
namespace Polytope.ExecutionState
open ExecutionTypes FixedPointMath
open Reservation (updateFirst)

def orderTerminal : ChildOrderStatus → Bool
  | .filled | .cancelled | .failed | .expired => true
  | .created | .planned | .sent | .acked | .partiallyFilled | .cancelRequested => false
def orderCanTransition (current next : ChildOrderStatus) : Bool :=
  if current = next then true
  else if orderTerminal current then false
  else if next = .failed ∨ next = .expired then true
  else
    match current with
    | .created => next = .planned
    | .planned => next = .sent
    | .sent => next = .acked
    | .acked => next = .partiallyFilled ∨ next = .filled
    | .partiallyFilled => next = .filled ∨ next = .cancelRequested
    | .cancelRequested => next = .cancelled
    | .filled | .cancelled | .failed | .expired => false
def orderTransition (current next : ChildOrderStatus) : ChildOrderStatus :=
  if orderCanTransition current next then next else current

def planTerminal : PlanStatus → Bool
  | .filled | .cancelled | .failed | .expired => true
  | .created | .planned | .sent | .acked | .partiallyFilled | .hedgeRequired | .cancelRequested => false
def planCanTransition (current next : PlanStatus) : Bool :=
  if current = next then true
  else if planTerminal current then false
  else if next = .failed ∨ next = .expired then true
  else
    match current with
    | .created => next = .planned
    | .planned => next = .sent
    | .sent => next = .acked
    | .acked => next = .partiallyFilled ∨ next = .filled
    | .partiallyFilled => next = .hedgeRequired ∨ next = .cancelRequested
    | .cancelRequested => next = .cancelled
    | .hedgeRequired => next = .cancelRequested
    | .filled | .cancelled | .failed | .expired => false
def planTransition (current next : PlanStatus) : PlanStatus :=
  if planCanTransition current next then next else current

structure ChildFillState where
  orderId : Nat := 0
  requestedQtyLots : Int := 0
  filledQtyLots : Int := 0
  remainingQtyLots : Int := 0
  totalCostTick : Int := 0
  avgFillPriceTick : Int := 0
  deriving DecidableEq, Repr
structure PlanFillState where
  planId : UInt64 := 0
  children : List ChildFillState := []
  anyFilled : Bool := false
  allFilled : Bool := false
  anyPartial : Bool := false
  totalCostTick : Int := 0
  deriving DecidableEq, Repr
structure FillTracker where
  filledLots : Int := 0
  avgFillPriceTick : Int := 0
  planState : PlanFillState := {}
  deriving DecidableEq, Repr

def refreshPlanFlags (s : PlanFillState) : PlanFillState :=
  {s with
    anyFilled := s.children.any fun c => 0 < c.filledQtyLots
    allFilled := s.children ≠ [] && s.children.all fun c =>
      decide (0 < c.requestedQtyLots) && decide (c.requestedQtyLots ≤ c.filledQtyLots)
    anyPartial := s.children.any fun c =>
      decide (0 < c.filledQtyLots) && decide (c.filledQtyLots < c.requestedQtyLots)
    totalCostTick := s.children.foldl (fun total c => addI64 total c.totalCostTick) 0}
def FillTracker.reset (plan : OrderPlan) : FillTracker :=
  {planState := refreshPlanFlags
    { planId := plan.planId
      children := (plan.orders.take kMaxChildOrdersPerPlan).map fun o =>
        {orderId := o.orderId, requestedQtyLots := o.quantityLots, remainingQtyLots := o.quantityLots} }}

def applyFill (report : ExecutionReport) (c : ChildFillState) : ChildFillState :=
  let fillLots := max 0 report.filledLots
  let filled := min c.requestedQtyLots (addI64 c.filledQtyLots fillLots)
  let remaining := max 0 (subI64 c.requestedQtyLots filled)
  let remaining := if 0 < report.remainingLots ∨ c.requestedQtyLots ≤ filled
    then min remaining (max 0 report.remainingLots) else remaining
  let priced := 0 < fillLots ∧ 0 < report.avgFillPriceTick
  let totalCost := if priced then addI64 c.totalCostTick (wrapI64 (fillLots * report.avgFillPriceTick))
    else c.totalCostTick
  {c with
    filledQtyLots := filled
    remainingQtyLots := remaining
    totalCostTick := totalCost
    avgFillPriceTick := if priced ∧ 0 < filled then totalCost.tdiv filled else c.avgFillPriceTick}
def FillTracker.apply (t : FillTracker) (report : ExecutionReport) : FillTracker :=
  let t := {t with
    filledLots := addI64 t.filledLots (max 0 report.filledLots)
    avgFillPriceTick := if 0 < report.avgFillPriceTick then report.avgFillPriceTick else t.avgFillPriceTick}
  match updateFirst (fun c => decide (c.orderId = report.childOrderId))
    (applyFill report) t.planState.children with
  | none => t
  | some children => {t with planState := refreshPlanFlags {t.planState with children}}

inductive PartialFillAction where | none | markPartiallyFilled | cancelRemaining | hedgeRequired
  deriving DecidableEq, Repr
def decidePartialFill (s : PlanFillState) : PartialFillAction :=
  if s.anyFilled = false ∨ s.allFilled then .none
  else if 1 < s.children.length then .hedgeRequired
  else if s.anyPartial then .cancelRemaining
  else .markPartiallyFilled

/-! What the tracker knows after a sequence of reports. -/

def reportedLots (reports : List ExecutionReport) (orderId : Nat) : Int :=
  (reports.map fun r => if r.childOrderId = orderId then max 0 r.filledLots else 0).sum

theorem reportedNil (id) : reportedLots [] id = 0 := rfl
theorem reportedCons (r reports id) :
    reportedLots (r::reports) id =
      (if r.childOrderId = id then max 0 r.filledLots else 0) + reportedLots reports id := by
  simp [reportedLots]
theorem reportedNonneg (reports id) : 0 ≤ reportedLots reports id := by
  induction reports with
  | nil => exact le_rfl
  | cons r rest ih =>
    rw [reportedCons]
    split <;> omega

theorem updateFirstUnique {α : Type} {hit : α → Bool} {xs : List α} (update : α → α)
    (unique : xs.Pairwise fun x y => ¬ (hit x = true ∧ hit y = true)) :
    (updateFirst hit update xs).getD xs = xs.map fun x => if hit x then update x else x := by
  induction xs with
  | nil => rfl
  | cons x rest ih =>
    obtain ⟨apart,later⟩ := List.pairwise_cons.mp unique
    unfold updateFirst
    split
    · next here =>
      have others : ∀ y ∈ rest, (if hit y = true then update y else y) = y := by
        intro y mem
        rw [if_neg fun there => apart y mem ⟨here,there⟩]
      simp [here,List.map_congr_left others]
    · next miss =>
      have tail := ih later
      cases found : updateFirst hit update rest with
      | none =>
        rw [found] at tail
        simpa [miss] using tail
      | some out =>
        rw [found] at tail
        simpa [miss] using tail

theorem applyChildren {t : FillTracker} (r : ExecutionReport)
    (unique : (t.planState.children.map (·.orderId)).Nodup) :
    (t.apply r).planState.children =
      t.planState.children.map fun c => if c.orderId = r.childOrderId then applyFill r c else c := by
  have pairs : t.planState.children.Pairwise fun x y =>
      ¬ (decide (x.orderId = r.childOrderId) = true ∧ decide (y.orderId = r.childOrderId) = true) := by
    refine (List.pairwise_map.mp unique).imp fun apart both => ?_
    simp only [decide_eq_true_eq] at both
    exact apart (both.1.trans both.2.symm)
  have mapped := updateFirstUnique (applyFill r) pairs
  unfold FillTracker.apply
  simp only
  cases found : updateFirst (fun c => decide (c.orderId = r.childOrderId)) (applyFill r) t.planState.children with
  | none =>
    rw [found] at mapped
    simpa using mapped
  | some children =>
    rw [found] at mapped
    simpa [refreshPlanFlags] using mapped

def childKey (c : ChildFillState) : Nat × Int × Int := (c.orderId,c.requestedQtyLots,c.filledQtyLots)
theorem applyAllKeys {reports : List ExecutionReport} {t : FillTracker}
    (unique : (t.planState.children.map (·.orderId)).Nodup)
    (capped : ∀ c ∈ t.planState.children, 0 ≤ c.filledQtyLots ∧ c.filledQtyLots ≤ c.requestedQtyLots)
    (fit : ∀ c ∈ t.planState.children, c.filledQtyLots + reportedLots reports c.orderId ≤ i64Max) :
    (reports.foldl FillTracker.apply t).planState.children.map childKey =
      t.planState.children.map fun c =>
        (c.orderId,c.requestedQtyLots,min c.requestedQtyLots
          (c.filledQtyLots + reportedLots reports c.orderId)) := by
  induction reports generalizing t with
  | nil =>
    refine List.map_congr_left fun c mem => ?_
    have := capped c mem
    rw [reportedNil,Int.add_zero,min_eq_right this.2]
    rfl
  | cons r rest ih =>
    have step := applyChildren r unique
    have ids : (t.apply r).planState.children.map (·.orderId) = t.planState.children.map (·.orderId) := by
      rw [step,List.map_map]
      refine List.map_congr_left fun c _ => ?_
      simp only [Function.comp]
      split <;> rfl
    have added : ∀ c ∈ t.planState.children, c.orderId = r.childOrderId →
        addI64 c.filledQtyLots (max 0 r.filledLots) = c.filledQtyLots + max 0 r.filledLots := by
      intro c mem same
      have within := capped c mem
      have whole := fit c mem
      have nonneg := reportedNonneg rest c.orderId
      rw [reportedCons,if_pos same.symm] at whole
      exact wrapExact ⟨by unfold i64Min; omega,by omega⟩
    rw [List.foldl_cons,ih (by rwa [ids]) ?_ ?_,step,List.map_map]
    · refine List.map_congr_left fun c mem => ?_
      have nonneg := reportedNonneg rest c.orderId
      rw [reportedCons]
      simp only [Function.comp]
      split
      · next same =>
        rw [if_pos same.symm]
        simp only [applyFill,added c mem same,Prod.mk.injEq,true_and]
        omega
      · next other =>
        rw [if_neg fun same => other same.symm]
        simp only [Prod.mk.injEq,true_and]
        omega
    · intro c mem
      rw [step] at mem
      obtain ⟨d,there,rfl⟩ := List.mem_map.mp mem
      have within := capped d there
      split
      · next same =>
        simp only [applyFill,added d there same]
        omega
      · exact within
    · intro c mem
      rw [step] at mem
      obtain ⟨d,there,rfl⟩ := List.mem_map.mp mem
      have whole := fit d there
      rw [reportedCons] at whole
      split
      · next same =>
        rw [if_pos same.symm] at whole
        simp only [applyFill,added d there same]
        omega
      · next other =>
        rw [if_neg fun same => other same.symm] at whole
        omega

theorem flagsFresh (plan) (reports : List ExecutionReport) :
    (reports.foldl FillTracker.apply (FillTracker.reset plan)).planState =
      refreshPlanFlags (reports.foldl FillTracker.apply (FillTracker.reset plan)).planState := by
  have loop : ∀ (reports : List ExecutionReport) (t : FillTracker), t.planState = refreshPlanFlags t.planState →
      (reports.foldl FillTracker.apply t).planState = refreshPlanFlags
      (reports.foldl FillTracker.apply t).planState := by
    intro reports
    induction reports with
    | nil => exact fun _ fresh => fresh
    | cons r rest ih =>
      intro t fresh
      refine ih (t.apply r) ?_
      unfold FillTracker.apply
      simp only
      split
      · exact fresh
      · rfl
  exact loop reports _ rfl

structure Trackable (plan : OrderPlan) : Prop where
  some : plan.orders ≠ []
  few : plan.orders.length ≤ kMaxChildOrdersPerPlan
  unique : (plan.orders.map (·.orderId)).Nodup
  positive : ∀ o ∈ plan.orders, 0 < o.quantityLots

def tracked (plan : OrderPlan) (reports : List ExecutionReport) : PlanFillState :=
  (reports.foldl FillTracker.apply (FillTracker.reset plan)).planState

theorem trackedKeys {plan} (ok : Trackable plan) {reports : List ExecutionReport}
    (fit : ∀ o ∈ plan.orders, reportedLots reports o.orderId ≤ i64Max) :
    (tracked plan reports).children.map childKey = plan.orders.map fun o =>
      (o.orderId,o.quantityLots,min o.quantityLots (reportedLots reports o.orderId)) := by
  have start : (FillTracker.reset plan).planState.children = plan.orders.map fun o =>
      {orderId := o.orderId, requestedQtyLots := o.quantityLots, remainingQtyLots := o.quantityLots} := by
    simp [FillTracker.reset,refreshPlanFlags,List.take_of_length_le ok.few]
  have keys := @applyAllKeys reports (FillTracker.reset plan)
  rw [start] at keys
  rw [tracked,keys,List.map_map]
  · refine List.map_congr_left fun o _ => ?_
    simp
  · simpa [List.map_map,Function.comp_def] using ok.unique
  · intro c mem
    obtain ⟨o,there,rfl⟩ := List.mem_map.mp mem
    exact ⟨le_rfl,le_of_lt (ok.positive o there)⟩
  · intro c mem
    obtain ⟨o,there,rfl⟩ := List.mem_map.mp mem
    simpa using fit o there

section Flags
variable {plan : OrderPlan} (ok : Trackable plan) {reports : List ExecutionReport}
  (fit : ∀ o ∈ plan.orders, reportedLots reports o.orderId ≤ i64Max)
include ok fit

theorem trackedLength : (tracked plan reports).children.length = plan.orders.length := by
  have := congrArg List.length (trackedKeys ok fit)
  simpa using this
theorem trackedAny : (tracked plan reports).anyFilled = true ↔
    ∃ o ∈ plan.orders, 0 < reportedLots reports o.orderId := by
  have keys := trackedKeys ok fit
  have flag : (tracked plan reports).anyFilled =
      ((tracked plan reports).children.map childKey).any fun k => decide (0 < k.2.2) := by
    rw [tracked,flagsFresh,List.any_map]
    rfl
  rw [flag,keys,List.any_map,List.any_eq_true]
  refine exists_congr fun o => and_congr_right fun mem => ?_
  have := ok.positive o mem
  simp only [Function.comp,decide_eq_true_eq]
  omega
theorem trackedAll : (tracked plan reports).allFilled = true ↔
    ∀ o ∈ plan.orders, o.quantityLots ≤ reportedLots reports o.orderId := by
  have keys := trackedKeys ok fit
  have flag : (tracked plan reports).allFilled = (decide ((tracked plan reports).children ≠ []) &&
      ((tracked plan reports).children.map childKey).all fun k =>
      decide (0 < k.2.1) && decide (k.2.1 ≤ k.2.2)) := by
    rw [tracked,flagsFresh,List.all_map]
    rfl
  have some : (tracked plan reports).children ≠ [] := by
    intro none
    have := trackedLength ok fit
    rw [none] at this
    exact ok.some (List.length_eq_zero_iff.mp this.symm)
  rw [flag,keys,List.all_map,decide_eq_true some,Bool.true_and,List.all_eq_true]
  refine forall_congr' fun o => imp_congr_right fun mem => ?_
  have := ok.positive o mem
  simp only [Function.comp,Bool.and_eq_true,decide_eq_true_eq]
  omega
theorem trackedPartial : (tracked plan reports).anyPartial = true ↔
    ∃ o ∈ plan.orders, 0 < reportedLots reports o.orderId ∧ reportedLots reports o.orderId < o.quantityLots := by
  have keys := trackedKeys ok fit
  have flag : (tracked plan reports).anyPartial = ((tracked plan reports).children.map childKey).any fun k =>
      decide (0 < k.2.2) && decide (k.2.2 < k.2.1) := by
    rw [tracked,flagsFresh,List.any_map]
    rfl
  rw [flag,keys,List.any_map,List.any_eq_true]
  refine exists_congr fun o => and_congr_right fun mem => ?_
  have := ok.positive o mem
  simp only [Function.comp,Bool.and_eq_true,decide_eq_true_eq]
  omega

end Flags

end Polytope.ExecutionState
