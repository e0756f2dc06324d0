import Polytope.ExecutionAdapters
import Mathlib.Data.Multiset.AddSub
import Mathlib.Data.Multiset.Filter

/-! What the venue holds, told from the calls it answered. Any bridge can be watched: the watched
bridge answers the same and keeps the list of its answers, and the list alone says which orders
were accepted and not yet cancelled. -/
namespace Polytope.VenueAccount
open ExecutionAdapters

inductive VenueCall where
  | sign (answer : LiveOrderSignResult)
  | submit (answer : LiveTransportSubmitResult)
  | cancel (venueOrderId : String) (answer : LiveTransportCancelResult)
  deriving DecidableEq

def observed {β : Type} (bridge : LiveBridge β) : LiveBridge (β × List VenueCall) where
  signOrder s request :=
    let (b,answer) := bridge.signOrder s.1 request
    ((b,s.2 ++ [.sign answer]),answer)
  submitOrder s body :=
    let (b,answer) := bridge.submitOrder s.1 body
    ((b,s.2 ++ [.submit answer]),answer)
  cancelOrder s venueOrderId :=
    let (b,answer) := bridge.cancelOrder s.1 venueOrderId
    ((b,s.2 ++ [.cancel venueOrderId answer]),answer)

def acceptedId (hint : String) (answer : LiveTransportSubmitResult) : String :=
  if answer.venueOrderId = "" then hint else answer.venueOrderId
-- The hint of the last signed order and the open orders.
def venueStep (v : String × Multiset String) : VenueCall → String × Multiset String
  | .sign answer => (answer.venueOrderIdHint,v.2)
  | .submit answer =>
    if answer.ok = true ∧ acceptedId v.1 answer ≠ "" then (v.1,v.2 + {acceptedId v.1 answer}) else v
  | .cancel id answer => if answer.ok then (v.1,v.2.erase id) else v
def openOrders (orders : Multiset String) (calls : List VenueCall) : Multiset String :=
  (calls.foldl venueStep ("",orders)).2

structure Observed where
  calls : List VenueCall := []
  ok : Bool := false
  deriving DecidableEq
-- The open orders of one plan or quote group; every call belongs to the one its operation names.
def outstanding {ι : Type} (parent : ι → Option UInt64) (log : List (ι × Observed)) (p : UInt64) :
    Multiset String :=
  log.foldl (fun orders x => if parent x.1 = some p then openOrders orders x.2.calls else orders) 0
theorem outstandingAppend {ι : Type} (parent : ι → Option UInt64) (log x p) :
    outstanding parent (log ++ [x]) p =
      if parent x.1 = some p then openOrders (outstanding parent log p) x.2.calls
      else outstanding parent log p := by
  simp [outstanding]

def Uniform (calls : List VenueCall) : Prop :=
  (∀ id answer, .cancel id answer ∈ calls → answer.ok = true) ∨
  ∀ id answer, .cancel id answer ∈ calls → answer.ok = false
def cancelTargets (calls : List VenueCall) : List String :=
  calls.filterMap fun
    | .cancel id _ => some id
    | _ => none

/-! Calls that only add orders. -/

def Adds (calls : List VenueCall) (ids : List String) : Prop :=
  ∀ h orders, (calls.foldl venueStep (h,orders)).2 = orders + (ids : Multiset String)

theorem addsNil : Adds [] [] := by
  intro h orders
  simp
theorem addsAppend {calls ids calls' ids'} (first : Adds calls ids) (second : Adds calls' ids') :
    Adds (calls ++ calls') (ids ++ ids') := by
  intro h orders
  rw [List.foldl_append]
  have here := first h orders
  generalize calls.foldl venueStep (h,orders) = v at here ⊢
  obtain ⟨h',orders'⟩ := v
  simp only at here
  rw [second h' orders',here,← Multiset.coe_add,Multiset.add_assoc]
theorem addsSigned (signed : LiveOrderSignResult) : Adds [.sign signed] [] := by
  intro h orders
  simp [venueStep]
theorem addsSent (signed : LiveOrderSignResult) (sent : LiveTransportSubmitResult) :
    Adds [.sign signed,.submit sent]
      (if sent.ok = true ∧ acceptedId signed.venueOrderIdHint sent ≠ "" then
          [acceptedId signed.venueOrderIdHint sent]
        else []) := by
  intro h orders
  simp only [List.foldl_cons,List.foldl_nil,venueStep]
  split <;> simp

/-! A pass that asks the venue to cancel a list of orders. -/

def okIds (answers : List (String × LiveTransportCancelResult)) : List String :=
  (answers.filter fun x => x.2.ok).map (·.1)
def cancelCalls (answers : List (String × LiveTransportCancelResult)) : List VenueCall :=
  answers.map fun x => .cancel x.1 x.2

structure Pass (ids : List String) (calls : List VenueCall) (canceled : Nat)
    (answers : List (String × LiveTransportCancelResult)) : Prop where
  asked : answers.map (·.1) = ids
  calls : calls = cancelCalls answers
  canceled : canceled = (okIds answers).length

theorem cancelCallsDrop (answers : List (String × LiveTransportCancelResult)) (h : String)
    (orders : Multiset String) :
    ((cancelCalls answers).foldl venueStep (h,orders)).2 = orders - (okIds answers : Multiset String) := by
  unfold cancelCalls okIds
  induction answers generalizing orders with
  | nil => simp
  | cons x rest ih =>
    simp only [List.map_cons,List.foldl_cons,venueStep,List.filter_cons]
    cases x.2.ok with
    | true =>
      simp only [if_true]
      rw [ih,List.map_cons,← Multiset.cons_coe,Multiset.sub_cons]
    | false =>
      simp only [Bool.false_eq_true,if_false]
      exact ih orders
theorem cancelTargetsCalls (answers : List (String × LiveTransportCancelResult)) :
    cancelTargets (cancelCalls answers) = answers.map (·.1) := by
  unfold cancelTargets cancelCalls
  induction answers with
  | nil => rfl
  | cons x rest ih => simp
theorem okIdsAll {answers : List (String × LiveTransportCancelResult)} :
    (okIds answers).length = answers.length ↔ ∀ x ∈ answers, x.2.ok = true := by
  rw [okIds,List.length_map,List.length_filter_eq_length_iff]
theorem okIdsNone {answers : List (String × LiveTransportCancelResult)} : okIds answers = [] ↔
    ∀ x ∈ answers, x.2.ok = false := by
  simp [okIds,List.filter_eq_nil_iff]
theorem uniformCalls {answers : List (String × LiveTransportCancelResult)} : Uniform (cancelCalls answers) ↔
    (okIds answers).length = answers.length ∨ okIds answers = [] := by
  rw [okIdsAll,okIdsNone]
  have member : ∀ id answer, VenueCall.cancel id answer ∈ cancelCalls answers ↔ (id,answer) ∈ answers := by
    intro id answer
    simp [cancelCalls]
  simp only [Uniform,member,Prod.forall]

section
variable {ids : List String} {calls : List VenueCall} {canceled : Nat}
  {answers : List (String × LiveTransportCancelResult)}
  (pass : Pass ids calls canceled answers)
include pass

theorem passLength : answers.length = ids.length := by rw [← pass.asked,List.length_map]
theorem passUniform : Uniform calls ↔ canceled = ids.length ∨ canceled = 0 := by
  rw [pass.calls,uniformCalls,pass.canceled,passLength pass,List.length_eq_zero_iff]
theorem passAll : (∀ id answer, .cancel id answer ∈ calls → answer.ok = true) ↔ canceled = ids.length := by
  rw [pass.canceled,← passLength pass,okIdsAll,pass.calls]
  simp [cancelCalls]
theorem passFew : canceled ≤ ids.length := by
  rw [pass.canceled,← passLength pass,okIds,List.length_map]
  exact List.length_filter_le _ _
theorem passSingle (few : ids.length ≤ 1) : Uniform calls := by
  have := passFew pass
  rw [passUniform pass]
  omega
-- What stays recorded is what stays open, with any other open orders left alone.
theorem passKeeps (uniform : Uniform calls) (h : String) (others : Multiset String) :
    (calls.foldl venueStep (h,(ids : Multiset String) + others)).2 =
      ((if canceled = ids.length then [] else ids : List String) : Multiset String) + others := by
  rw [pass.calls,cancelCallsDrop]
  split
  · next all =>
    have every : okIds answers = ids := by
      rw [← pass.asked,okIds,List.filter_eq_self.mpr]
      rw [← okIdsAll,← pass.canceled,all,passLength pass]
    rw [every,Multiset.add_comm,Multiset.add_sub_cancel_right]
    simp
  · next some =>
    have none : okIds answers = [] := by
      rcases (passUniform pass).mp uniform with all | zero
      · exact absurd all some
      · exact List.length_eq_zero_iff.mp (pass.canceled.symm.trans zero)
    rw [none]
    simp
theorem passMixed {h : String}
    (kept : (calls.foldl venueStep (h,(ids : Multiset String))).2 =
      ((if canceled = ids.length then [] else ids : List String) : Multiset String)) :
    Uniform calls := by
  rw [passUniform pass]
  by_cases all : canceled = ids.length
  · exact .inl all
  · right
    rw [if_neg all,pass.calls,cancelCallsDrop] at kept
    have below : (okIds answers : Multiset String) ≤ ids := by
      rw [← pass.asked,okIds,Multiset.coe_le]
      exact (List.filter_sublist.map _).subperm
    have sizes := congrArg Multiset.card kept
    rw [Multiset.card_sub below,Multiset.coe_card,Multiset.coe_card] at sizes
    have few := Multiset.card_le_card below
    rw [Multiset.coe_card,Multiset.coe_card] at few
    rw [pass.canceled]
    rw [pass.canceled] at all
    omega

end

-- Any loop that asks for its orders one by one and counts the granted ones is such a pass.
theorem walkPass {β ω χ : Type} (bridge : LiveBridge β) (step : ω → χ → ω) (bridgeOf : ω → β × List VenueCall)
    (count : ω → Nat)
    (idOf : χ → String)
    (asks : ∀ w x, bridgeOf (step w x) = ((observed bridge).cancelOrder (bridgeOf w) (idOf x)).1 ∧
      count (step w x) = count w + if ((observed bridge).cancelOrder (bridgeOf w) (idOf x)).2.ok then 1 else 0)
    (orders : List χ) (w : ω) :
    ∃ answers calls, Pass (orders.map idOf) calls ((okIds answers).length) answers ∧
      (bridgeOf (orders.foldl step w)).2 = (bridgeOf w).2 ++ calls ∧
      count (orders.foldl step w) = count w + (okIds answers).length := by
  induction orders generalizing w with
  | nil => exact ⟨[],[],⟨rfl,rfl,rfl⟩,by simp,by simp [okIds]⟩
  | cons x rest ih =>
    obtain ⟨moved,counted⟩ := asks w x
    obtain ⟨answers,calls,pass,log,total⟩ := ih (step w x)
    generalize granted : ((observed bridge).cancelOrder (bridgeOf w) (idOf x)).2 = answer at counted
    have logged : (bridgeOf (step w x)).2 = (bridgeOf w).2 ++ [.cancel (idOf x) answer] := by
      rw [moved,← granted]
      rfl
    have ids : okIds ((idOf x,answer)::answers) = (if answer.ok then [idOf x] else []) ++ okIds answers := by
      unfold okIds
      rw [List.filter_cons]
      split <;> rfl
    refine ⟨(idOf x,answer)::answers,_,⟨?_,rfl,rfl⟩,?_,?_⟩
    · rw [List.map_cons,pass.asked,List.map_cons]
    · rw [List.foldl_cons,log,logged,pass.calls]
      simp [cancelCalls]
    · rw [List.foldl_cons,total,counted,ids,List.length_append]
      split
      · simp
        omega
      · simp

end Polytope.VenueAccount
