import Polytope.LiveMakerAdapter
import Polytope.VenueAccount

/-! The orders the live adapters record against the orders the venue holds. They stay the same
as long as no plan that has open orders is submitted again, no cancel pass is granted in part and
no accepted maker order is dropped because it did not rest. -/
namespace Polytope.LiveOrderTracking
open ExecutionTypes ExecutionAdapters LiveMakerAdapter VenueAccount
open QuoteTypes (QuoteSide QuoteLeg)
open QuoteRisk (ApprovedQuote)

/-! LiveExecutionAdapter. -/

inductive LiveOp where
  | submitPlan (plan : OrderPlan) (ctx : ExecutionContext)
  | pollReports
  | cancelPlan (planId : UInt64)
  deriving DecidableEq
def LiveOp.parent : LiveOp → Option UInt64
  | .submitPlan plan _ => some plan.planId
  | .pollReports => none
  | .cancelPlan planId => some planId

def recordedIds {β : Type} (s : LiveState β) (planId : UInt64) : List String :=
  ((s.acceptedOrdersByPlan.lookup planId).getD []).map (·.2)

section
variable {β : Type} (bridge : LiveBridge β) (config : LiveExecutionConfig)

abbrev WatchedLive (β : Type) := LiveState (β × List VenueCall)
def WatchedLive.fresh (s : WatchedLive β) : WatchedLive β := {s with bridge := (s.bridge.1,[])}
def liveStep (s : WatchedLive β) : LiveOp → WatchedLive β × Observed
  | .submitPlan plan ctx =>
    let (s,result) := liveSubmit (observed bridge) config (WatchedLive.fresh s) plan ctx
    (s,⟨s.bridge.2,result.ok⟩)
  | .pollReports => ({s with pendingReports := []},{})
  | .cancelPlan planId =>
    let (s,result) := liveCancel (observed bridge) config (WatchedLive.fresh s) planId
    (s,⟨s.bridge.2,result.ok⟩)

structure LiveTracked (s : WatchedLive β) (log : List (LiveOp × Observed)) : Prop where
  recorded : ∀ p, (recordedIds s p : Multiset String) = outstanding LiveOp.parent log p
  attempted : config.enabled = true →
    ∀ p, cancelTargets (liveStep bridge config s (.cancelPlan p)).2.calls = recordedIds s p
  granted : config.enabled = true → ∀ p, (liveStep bridge config s (.cancelPlan p)).2.ok = true ↔
    recordedIds s p ≠ [] ∧ ∀ id answer,
      .cancel id answer ∈ (liveStep bridge config s (.cancelPlan p)).2.calls → answer.ok = true
def LiveTracking (s : WatchedLive β) (log : List (LiveOp × Observed)) (op : LiveOp) : Prop :=
  LiveTracked bridge config (liveStep bridge config s op).1 (log ++ [(op,(liveStep bridge config s op).2)])
def LiveCareful (s : WatchedLive β) (_ : List (LiveOp × Observed)) (op : LiveOp) : Prop :=
  match op with
  | .submitPlan plan _ => recordedIds s plan.planId = [] ∨ openOrders 0 (liveStep bridge config s op).2.calls = 0
  | .pollReports => True
  | .cancelPlan _ => Uniform (liveStep bridge config s op).2.calls

end

section
variable {β : Type} {bridge : LiveBridge β} {config : LiveExecutionConfig}

theorem observedSign (bridge : LiveBridge β) (b : β × List VenueCall) (request : LiveOrderRequest) :
    ∃ b' signed, (observed bridge).signOrder b request = ((b',b.2 ++ [.sign signed]),signed) := ⟨_,_,rfl⟩
theorem observedSubmit (bridge : LiveBridge β) (b : β × List VenueCall) (body : String) :
    ∃ b' sent, (observed bridge).submitOrder b body = ((b',b.2 ++ [.submit sent]),sent) := ⟨_,_,rfl⟩

theorem sendOrderAdds (bridge : LiveBridge β) (config : LiveExecutionConfig) (plan : OrderPlan)
    (b : β × List VenueCall) (order : ChildOrder) :
    ∃ calls, (sendOrder (observed bridge) config plan b order).1.2 = b.2 ++ calls ∧
      Adds calls (sendOrder (observed bridge) config plan b order).2.toOption.toList := by
  unfold sendOrder
  split
  · exact ⟨[],by simp,addsNil⟩
  split
  · exact ⟨[],by simp,addsNil⟩
  obtain ⟨b',signed,signing⟩ := observedSign bridge b (ExecutionAdapters.makeRequest config plan order)
  obtain ⟨b'',sent,sending⟩ := observedSubmit bridge (b',b.2 ++ [.sign signed]) signed.requestBodyJson
  simp only [signing,sending]
  split
  · exact ⟨[.sign signed],rfl,addsSigned signed⟩
  have adds := addsSent signed sent
  unfold acceptedId at adds
  generalize (if sent.venueOrderId = "" then signed.venueOrderIdHint else sent.venueOrderId) = id at adds ⊢
  split
  · next refused =>
    rw [if_neg fun accepted => by simp [refused] at accepted] at adds
    exact ⟨[.sign signed,.submit sent],by simp,adds⟩
  · next accepted =>
    rw [Bool.not_eq_false] at accepted
    split
    · next unnamed =>
      rw [if_neg fun named => named.2 unnamed] at adds
      exact ⟨[.sign signed,.submit sent],by simp,adds⟩
    · next named =>
      rw [if_pos ⟨accepted,named⟩] at adds
      exact ⟨[.sign signed,.submit sent],by simp,adds⟩

theorem liveOrderAdds (bridge : LiveBridge β) (config : LiveExecutionConfig) (plan : OrderPlan) (nowNs : Nat)
    (orders : List ChildOrder) (w : LiveWalk (β × List VenueCall)) :
    ∃ calls new, (orders.foldl (liveOrder (observed bridge) config plan nowNs) w).bridge.2 = w.bridge.2 ++ calls ∧
      (orders.foldl (liveOrder (observed bridge) config plan nowNs) w).accepted = w.accepted ++ new ∧
      Adds calls (new.map (·.2)) := by
  induction orders generalizing w with
  | nil => exact ⟨[],[],by simp,by simp,addsNil⟩
  | cons order rest ih =>
    obtain ⟨sent,logged,adds⟩ := sendOrderAdds bridge config plan w.bridge order
    obtain ⟨calls,new,log,accepted,later⟩ := ih (liveOrder (observed bridge) config plan nowNs w order)
    generalize answer : sendOrder (observed bridge) config plan w.bridge order = r at logged adds
    obtain ⟨b,outcome⟩ := r
    rw [List.foldl_cons,log,accepted]
    cases outcome with
    | error reason =>
      have step : (liveOrder (observed bridge) config plan nowNs w order).bridge = b ∧
          (liveOrder (observed bridge) config plan nowNs w order).accepted = w.accepted := by
        rw [liveOrder,answer]
        exact ⟨rfl,rfl⟩
      rw [step.1,step.2,logged]
      exact ⟨sent ++ calls,new,by simp,rfl,addsAppend adds later⟩
    | ok id =>
      have step : (liveOrder (observed bridge) config plan nowNs w order).bridge = b ∧
          (liveOrder (observed bridge) config plan nowNs w order).accepted = w.accepted ++
          [(order.orderId,id)] := by
        rw [liveOrder,answer]
        exact ⟨rfl,rfl⟩
      rw [step.1,step.2,logged]
      exact ⟨sent ++ calls,(order.orderId,id)::new,by simp,by simp,addsAppend adds later⟩

-- A submission adds the accepted orders to what the venue holds, and replaces what is recorded.
theorem liveSubmitted (bridge : LiveBridge β) (config : LiveExecutionConfig) (s : WatchedLive β)
    (plan : OrderPlan) (ctx : ExecutionContext) :
    ∃ new, Adds (liveStep bridge config s (.submitPlan plan ctx)).2.calls new ∧
      ∀ p, recordedIds (liveStep bridge config s (.submitPlan plan ctx)).1 p =
        if p = plan.planId ∧ new ≠ [] then new else recordedIds s p := by
  unfold liveStep liveSubmit
  simp only
  split
  · exact ⟨[],addsNil,by simp [recordedIds,WatchedLive.fresh]⟩
  split
  · exact ⟨[],addsNil,by simp [recordedIds,WatchedLive.fresh]⟩
  split
  · exact ⟨[],addsNil,by simp [recordedIds,WatchedLive.fresh]⟩
  obtain ⟨calls,new,log,accepted,adds⟩ :=
    liveOrderAdds bridge config plan ctx.nowNs plan.orders {bridge := (WatchedLive.fresh s).bridge}
  rw [List.nil_append] at accepted
  refine ⟨new.map (·.2),?_,fun p => ?_⟩
  · simp only [log]
    exact adds
  · unfold recordedIds
    simp only [accepted]
    by_cases none : new = []
    · simp [none,WatchedLive.fresh]
    · by_cases same : p = plan.planId
      · subst same
        simp [none]
      · simp [same,none,WatchedLive.fresh]

theorem cancelVenuePass (bridge : LiveBridge β) (orders : List (Nat × String)) (b : β × List VenueCall) :
    ∃ answers calls, Pass (orders.map (·.2)) calls ((okIds answers).length) answers ∧
      (orders.foldl (cancelVenueOrder (observed bridge)) {bridge := b}).bridge.2 = b.2 ++ calls ∧
      (orders.foldl (cancelVenueOrder (observed bridge)) {bridge := b}).canceled = (okIds answers).length := by
  have walk := walkPass bridge (cancelVenueOrder (observed bridge)) CancelWalk.bridge CancelWalk.canceled
    (fun o => o.2) ?_ orders {bridge := b}
  · simpa using walk
  · intro w x
    unfold cancelVenueOrder
    generalize (observed bridge).cancelOrder w.bridge x.2 = r
    obtain ⟨b',result⟩ := r
    simp only
    split <;> simp

-- What one cancel pass does to the records of its plan.
structure LiveCancelled (bridge : LiveBridge β) (config : LiveExecutionConfig) (s : WatchedLive β)
    (planId : UInt64)
    (answers : List (String × LiveTransportCancelResult)) (canceled : Nat) : Prop where
  pass : Pass (recordedIds s planId) (liveStep bridge config s (.cancelPlan planId)).2.calls canceled answers
  ok : (liveStep bridge config s (.cancelPlan planId)).2.ok = true ↔
    recordedIds s planId ≠ [] ∧ canceled = (recordedIds s planId).length
  kept : recordedIds (liveStep bridge config s (.cancelPlan planId)).1 planId =
    if canceled = (recordedIds s planId).length then [] else recordedIds s planId
  others : ∀ p ≠ planId, recordedIds (liveStep bridge config s (.cancelPlan planId)).1 p = recordedIds s p

theorem idleCancelled {s : WatchedLive β} {planId} (empty : recordedIds s planId = [])
    (idle : liveStep bridge config s (.cancelPlan planId) = (WatchedLive.fresh s,{})) :
    LiveCancelled bridge config s planId [] 0 := by
  refine ⟨⟨by simp [empty],by rw [idle]; rfl,rfl⟩,by simp [idle,empty],?_,fun p _ => by rw [idle]; rfl⟩
  have same : recordedIds (WatchedLive.fresh s) planId = [] := empty
  rw [idle]
  simp [same,empty]
theorem liveCancelled (bridge : LiveBridge β) (config : LiveExecutionConfig) (enabled : config.enabled = true)
    (s : WatchedLive β) (planId : UInt64) :
    ∃ answers canceled, LiveCancelled bridge config s planId answers canceled := by
  have records : recordedIds s planId =
    (((WatchedLive.fresh s).acceptedOrdersByPlan.lookup planId).getD []).map (·.2) := rfl
  cases known : (WatchedLive.fresh s).acceptedOrdersByPlan.lookup planId with
  | none =>
    refine ⟨[],0,idleCancelled (by rw [records,known]; rfl) ?_⟩
    simp only [liveStep,liveCancel,enabled,known,Bool.true_eq_false,if_false]
    rfl
  | some orders =>
    rw [known] at records
    simp only [Option.getD_some] at records
    by_cases filled : orders = []
    · refine ⟨[],0,idleCancelled (by rw [records,filled]; rfl) ?_⟩
      simp only [liveStep,liveCancel,enabled,known,filled,Bool.true_eq_false,if_false,if_true]
      rfl
    · obtain ⟨answers,calls,pass,log,counted⟩ := cancelVenuePass bridge orders (WatchedLive.fresh s).bridge
      have size : (recordedIds s planId).length = orders.length := by rw [records,List.length_map]
      have some : recordedIds s planId ≠ [] := by
        rw [records,Ne,List.map_eq_nil_iff]
        exact filled
      refine ⟨answers,(okIds answers).length,?_⟩
      by_cases all : (okIds answers).length = orders.length
      · have step : liveStep bridge config s (.cancelPlan planId) =
            ({WatchedLive.fresh s with
                bridge := (orders.foldl (cancelVenueOrder (observed bridge))
                  {bridge := (WatchedLive.fresh s).bridge}).bridge
                acceptedOrdersByPlan := (WatchedLive.fresh s).acceptedOrdersByPlan.erase
                  planId},⟨calls,true⟩) := by
          simp only [liveStep,liveCancel,enabled,known,filled,counted,all,log,Bool.true_eq_false,if_false,if_true]
          rfl
        refine ⟨by rw [records,step]; exact pass,by simp [step,some,all,size],?_,?_⟩
        · rw [step,size,if_pos all]
          simp [recordedIds]
        · intro p other
          rw [step]
          simp [recordedIds,other,WatchedLive.fresh]
      · have step : liveStep bridge config s (.cancelPlan planId) =
            ({WatchedLive.fresh s with
                bridge := (orders.foldl (cancelVenueOrder (observed bridge))
                  {bridge := (WatchedLive.fresh s).bridge}).bridge},
              ⟨calls,false⟩) := by
          simp only [liveStep,liveCancel,enabled,known,filled,counted,all,log,Bool.true_eq_false,if_false]
          rfl
        refine ⟨by rw [records,step]; exact pass,by simp [step,all,size],?_,fun p _ => by rw [step]; rfl⟩
        rw [step,size,if_neg all]
        rfl

theorem liveAttempts (enabled : config.enabled = true) (s : WatchedLive β) (p) :
    cancelTargets (liveStep bridge config s (.cancelPlan p)).2.calls = recordedIds s p ∧
    ((liveStep bridge config s (.cancelPlan p)).2.ok = true ↔
      recordedIds s p ≠ [] ∧ ∀ id answer,
        .cancel id answer ∈ (liveStep bridge config s (.cancelPlan p)).2.calls → answer.ok = true) := by
  obtain ⟨answers,canceled,done⟩ := liveCancelled bridge config enabled s p
  refine ⟨?_,done.ok.trans (and_congr_right fun _ => ?_)⟩
  · rw [done.pass.calls,cancelTargetsCalls,done.pass.asked]
  · rw [passAll done.pass]

theorem liveSubmitIff {s : WatchedLive β} {log}
    (ok : ∀ p, (recordedIds s p : Multiset String) = outstanding LiveOp.parent log p)
    (plan ctx) : (∀ p, (recordedIds (liveStep bridge config s (.submitPlan plan ctx)).1 p : Multiset String) =
      outstanding LiveOp.parent
        (log ++ [(.submitPlan plan ctx,(liveStep bridge config s (.submitPlan plan ctx)).2)]) p) ↔
      recordedIds s plan.planId = [] ∨
        openOrders 0 (liveStep bridge config s (.submitPlan plan ctx)).2.calls = 0 := by
  obtain ⟨new,adds,kept⟩ := liveSubmitted bridge config s plan ctx
  have opened : ∀ orders, openOrders orders
    (liveStep bridge config s (.submitPlan plan ctx)).2.calls = orders + (new : Multiset String) :=
    adds ""
  have accepted : openOrders 0 (liveStep bridge config s (.submitPlan plan ctx)).2.calls = 0 ↔ new = [] := by
    rw [opened]
    simp
  rw [accepted]
  simp only [outstandingAppend,kept,opened,LiveOp.parent,Option.some.injEq,← ok]
  constructor
  · intro tracked
    have here := tracked plan.planId
    by_cases none : new = []
    · exact .inr none
    · rw [if_pos ⟨rfl,none⟩,if_pos rfl] at here
      have sizes := congrArg Multiset.card here
      rw [Multiset.card_add,Multiset.coe_card,Multiset.coe_card] at sizes
      exact .inl (List.length_eq_zero_iff.mp (by omega))
  · intro free p
    by_cases same : plan.planId = p
    · subst same
      rcases free with empty | none
      · by_cases none : new = []
        · simp [none]
        · simp [none,empty]
      · simp [none]
    · rw [if_neg fun both => same both.1.symm,if_neg same]

theorem liveCancelIff {s : WatchedLive β} {log}
    (ok : ∀ p, (recordedIds s p : Multiset String) = outstanding LiveOp.parent log p)
    (planId) : (∀ p, (recordedIds (liveStep bridge config s (.cancelPlan planId)).1 p : Multiset String) =
      outstanding LiveOp.parent
        (log ++ [(.cancelPlan planId,(liveStep bridge config s (.cancelPlan planId)).2)]) p) ↔
      Uniform (liveStep bridge config s (.cancelPlan planId)).2.calls := by
  simp only [outstandingAppend,LiveOp.parent,Option.some.injEq,← ok]
  cases enabled : config.enabled with
  | false =>
    have idle : liveStep bridge config s (.cancelPlan planId) = (WatchedLive.fresh s,{}) := by
      simp only [liveStep,liveCancel,enabled,if_true]
      rfl
    rw [idle]
    refine iff_of_true (fun p => ?_) (.inl (by simp))
    split <;> rfl
  | true =>
    obtain ⟨answers,canceled,done⟩ := liveCancelled bridge config enabled s planId
    constructor
    · intro tracked
      have here := tracked planId
      rw [if_pos rfl,done.kept] at here
      exact passMixed done.pass here.symm
    · intro uniform p
      by_cases same : planId = p
      · subst same
        have kept := passKeeps done.pass uniform "" 0
        rw [if_pos rfl,done.kept,openOrders]
        simpa using kept.symm
      · rw [if_neg same,done.others p (Ne.symm same)]

theorem liveTrackedIff (s : WatchedLive β) (log) : LiveTracked bridge config s log ↔
    ∀ p, (recordedIds s p : Multiset String) = outstanding LiveOp.parent log p :=
  ⟨LiveTracked.recorded,fun recorded =>
    ⟨recorded,fun enabled p => (liveAttempts enabled s p).1,fun enabled p => (liveAttempts enabled s p).2⟩⟩
theorem liveStepIff {s : WatchedLive β} {log} (ok : LiveTracked bridge config s log) (op) :
    LiveTracking bridge config s log op ↔ LiveCareful bridge config s log op := by
  unfold LiveTracking
  rw [liveTrackedIff]
  cases op with
  | submitPlan plan ctx => exact liveSubmitIff ok.recorded plan ctx
  | cancelPlan planId => exact liveCancelIff ok.recorded planId
  | pollReports =>
    refine iff_of_true (fun p => ?_) trivial
    rw [outstandingAppend]
    exact ok.recorded p

end

/-! LiveMakerExecutionAdapter. -/

inductive MakerOp where
  | submitApprovedQuote (quote : ApprovedQuote) (nowNs : Nat)
  | cancelQuoteGroup (quoteGroupId : UInt64)
  deriving DecidableEq
def MakerOp.parent : MakerOp → Option UInt64
  | .submitApprovedQuote quote _ => some quote.quoteGroupId
  | .cancelQuoteGroup quoteGroupId => some quoteGroupId

def groupIds {β : Type} (s : MakerState β) (quoteGroupId : UInt64) : List String :=
  ((s.acceptedOrdersByGroup.lookup quoteGroupId).getD []).map (·.venueOrderId)
-- An order the venue accepted, and that is refused because it did not rest.
def strays (config : LiveExecutionConfig) : String → List VenueCall → Bool
  | _,[] => false
  | _,.sign answer::rest => strays config answer.venueOrderIdHint rest
  | hint,.submit answer::rest =>
    (answer.ok && decide (acceptedId hint answer ≠ "") && config.makerRequireRestingAck &&
      !restingStatus answer.venueStatus) ||
      strays config hint rest
  | hint,.cancel _ _::rest => strays config hint rest

section
variable {β : Type} (bridge : LiveBridge β) (config : LiveExecutionConfig)

abbrev WatchedMaker (β : Type) := MakerState (β × List VenueCall)
def WatchedMaker.fresh (s : WatchedMaker β) : WatchedMaker β := {s with bridge := (s.bridge.1,[])}
def makerStep (s : WatchedMaker β) : MakerOp → WatchedMaker β × Observed
  | .submitApprovedQuote quote nowNs =>
    let (s,result) := submitApprovedQuote (observed bridge) config (WatchedMaker.fresh s) quote nowNs
    (s,⟨s.bridge.2,result.ok⟩)
  | .cancelQuoteGroup quoteGroupId =>
    let (s,result) := cancelQuoteGroup (observed bridge) config (WatchedMaker.fresh s) quoteGroupId
    (s,⟨s.bridge.2,result.ok⟩)

structure MakerTracked (s : WatchedMaker β) (log : List (MakerOp × Observed)) : Prop where
  recorded : ∀ p, (groupIds s p : Multiset String) = outstanding MakerOp.parent log p
  attempted : config.enabled = true →
    ∀ p, cancelTargets (makerStep bridge config s (.cancelQuoteGroup p)).2.calls = groupIds s p
  granted : config.enabled = true → ∀ p, (makerStep bridge config s (.cancelQuoteGroup p)).2.ok = true ↔
    groupIds s p ≠ [] ∧ ∀ id answer,
      .cancel id answer ∈ (makerStep bridge config s (.cancelQuoteGroup p)).2.calls → answer.ok = true
def MakerTracking (s : WatchedMaker β) (log : List (MakerOp × Observed)) (op : MakerOp) : Prop :=
  MakerTracked bridge config (makerStep bridge config s op).1 (log ++ [(op,(makerStep bridge config s op).2)])
-- The first calls of an operation go to the recorded orders of its group.
def MakerCareful (s : WatchedMaker β) (_ : List (MakerOp × Observed)) (op : MakerOp) : Prop :=
  match op with
  | .submitApprovedQuote quote _ =>
    Uniform ((makerStep bridge config s op).2.calls.take (groupIds s quote.quoteGroupId).length) ∧
      strays config "" (makerStep bridge config s op).2.calls = false
  | .cancelQuoteGroup _ => Uniform (makerStep bridge config s op).2.calls

end

section
variable {β : Type} {bridge : LiveBridge β} {config : LiveExecutionConfig}

theorem straysAppend {config : LiveExecutionConfig} {calls calls' : List VenueCall} {found : Bool}
    (later : ∀ h, strays config h calls' = found) (h) :
    strays config h (calls ++ calls') = (strays config h calls || found) := by
  induction calls generalizing h with
  | nil => simp [strays,later]
  | cons call rest ih => cases call <;> simp [strays,ih,Bool.or_assoc]
theorem straysCancels (config) (answers : List (String × LiveTransportCancelResult)) (h) :
    strays config h (cancelCalls answers) = false := by
  unfold cancelCalls
  induction answers with
  | nil => rfl
  | cons x rest ih => simpa [strays] using ih

def Filled (s : WatchedMaker β) : Prop := ∀ p orders, s.acceptedOrdersByGroup.lookup p = some orders → orders ≠ []
theorem filledMember {s : WatchedMaker β} (filled : Filled s) (p) : p ∈ s.acceptedOrdersByGroup ↔
    groupIds s p ≠ [] := by
  rw [← AList.lookup_isSome,groupIds]
  cases here : s.acceptedOrdersByGroup.lookup p with
  | none => simp
  | some orders => simpa using filled p orders here

-- A stretch of calls for one group: what the venue holds beyond the records afterwards.
structure Moves (config : LiveExecutionConfig) (group : UInt64) (s s' : WatchedMaker β) (calls : List VenueCall)
    (lost : Multiset String) : Prop where
  log : s'.bridge.2 = s.bridge.2 ++ calls
  account : ∀ h, (calls.foldl venueStep (h,(groupIds s group : Multiset String))).2 =
    (groupIds s' group : Multiset String) + lost
  strays : ∀ h, strays config h calls = decide (lost ≠ 0)
  others : ∀ p ≠ group, groupIds s' p = groupIds s p
  filled : Filled s'

theorem movesNone (config : LiveExecutionConfig) {group} {s : WatchedMaker β} (filled : Filled s) :
    Moves config group s s [] 0 :=
  ⟨by simp,by simp,by simp [strays],fun _ _ => rfl,filled⟩
theorem movesAppend {group} {s t u : WatchedMaker β} {calls calls' lost} (first : Moves config group s t calls 0)
    (second : Moves config group t u calls' lost) : Moves config group s u (calls ++ calls') lost := by
  refine ⟨?_,?_,?_,?_,second.filled⟩
  · rw [second.log,first.log,List.append_assoc]
  · intro h
    have here := first.account h
    rw [List.foldl_append]
    generalize calls.foldl venueStep (h,(groupIds s group : Multiset String)) = v at here ⊢
    obtain ⟨h',orders⟩ := v
    rw [Multiset.add_zero] at here
    simp only at here
    rw [here,second.account]
  · intro h
    rw [straysAppend second.strays,first.strays]
    simp
  · intro p other
    rw [second.others p other,first.others p other]

structure GroupCancelled (s s' : WatchedMaker β) (group : UInt64) (ok : Bool) (calls : List VenueCall)
    (answers : List (String × LiveTransportCancelResult)) (canceled : Nat) : Prop where
  pass : Pass (groupIds s group) calls canceled answers
  log : s'.bridge.2 = s.bridge.2 ++ calls
  ok : ok = true ↔ groupIds s group ≠ [] ∧ canceled = (groupIds s group).length
  kept : groupIds s' group = if canceled = (groupIds s group).length then [] else groupIds s group
  others : ∀ p ≠ group, groupIds s' p = groupIds s p
  filled : Filled s → Filled s'

theorem cancelGroupPass (bridge : LiveBridge β) (orders : List AcceptedMakerOrder) (b : β × List VenueCall) :
    ∃ answers calls, Pass (orders.map (·.venueOrderId)) calls ((okIds answers).length) answers ∧
      (orders.foldl (cancelGroupOrder (observed bridge)) {bridge := b}).bridge.2 = b.2 ++ calls ∧
      (orders.foldl (cancelGroupOrder (observed bridge)) {bridge := b}).canceled = (okIds answers).length := by
  have walk := walkPass bridge (cancelGroupOrder (observed bridge)) GroupWalk.bridge GroupWalk.canceled
    (fun o => o.venueOrderId) ?_ orders {bridge := b}
  · simpa using walk
  · intro w x
    unfold cancelGroupOrder
    generalize (observed bridge).cancelOrder w.bridge x.venueOrderId = r
    obtain ⟨b',result⟩ := r
    simp only
    split <;> simp
theorem idleGroup {s : WatchedMaker β} {group} (empty : groupIds s group = []) :
    GroupCancelled s s group false [] [] 0 :=
  ⟨⟨by simp [empty],rfl,rfl⟩,by simp,by simp [empty],by simp [empty],fun _ _ => rfl,id⟩
theorem groupCancelled (bridge : LiveBridge β) (s : WatchedMaker β) (group : UInt64) :
    ∃ calls answers canceled, GroupCancelled s (cancelExistingGroup (observed bridge) s group).1 group
      (cancelExistingGroup (observed bridge) s group).2.ok calls answers canceled := by
  have records : groupIds s group = ((s.acceptedOrdersByGroup.lookup group).getD []).map (·.venueOrderId) := rfl
  cases known : s.acceptedOrdersByGroup.lookup group with
  | none =>
    rw [known] at records
    simp only [cancelExistingGroup,known]
    exact ⟨[],[],0,idleGroup records⟩
  | some orders =>
    rw [known] at records
    simp only [Option.getD_some] at records
    by_cases none : orders = []
    · rw [none] at records
      simp only [cancelExistingGroup,known,none,if_true]
      exact ⟨[],[],0,idleGroup records⟩
    · obtain ⟨answers,calls,pass,log,counted⟩ := cancelGroupPass bridge orders s.bridge
      have size : (groupIds s group).length = orders.length := by rw [records,List.length_map]
      have some : groupIds s group ≠ [] := by
        rw [records,Ne,List.map_eq_nil_iff]
        exact none
      refine ⟨calls,answers,(okIds answers).length,?_⟩
      simp only [cancelExistingGroup,known,none,counted,if_false]
      by_cases all : (okIds answers).length = orders.length
      · rw [if_pos all]
        refine ⟨records ▸ pass,log,by simp [some,all,size],?_,?_,?_⟩
        · rw [size,if_pos all]
          simp [groupIds]
        · intro p other
          simp [groupIds,other]
        · intro filled p kept here
          by_cases same : p = group
          · subst same
            simp at here
          · exact filled p kept (by simpa [same] using here)
      · rw [if_neg all]
        refine ⟨records ▸ pass,log,by simp [all,size],?_,fun _ _ => rfl,fun filled => filled⟩
        rw [size,if_neg all]
        rfl

-- With an order beyond the records already lost, a uniform pass loses no other.
theorem movesCancel {group} {s s' : WatchedMaker β} {ok calls answers canceled}
    (done : GroupCancelled s s' group ok calls answers canceled) (filled : Filled s) (uniform : Uniform calls) :
    Moves config group s s' calls 0 := by
  refine ⟨done.log,?_,?_,done.others,done.filled filled⟩
  · intro h
    have kept := passKeeps done.pass uniform h 0
    rw [Multiset.add_zero] at kept
    rw [kept,done.kept]
  · intro h
    rw [done.pass.calls,straysCancels]
    simp

inductive LegSent (config : LiveExecutionConfig) (calls : List VenueCall) : Except String String → Prop where
  | recorded {id} (adds : Adds calls [id]) (clean : ∀ h, strays config h calls = false) :
    LegSent config calls (.ok id)
  | refused {error} (adds : Adds calls []) (clean : ∀ h, strays config h calls = false) :
    LegSent config calls (.error error)
  | stray {error} (id) (adds : Adds calls [id]) (lost : ∀ h, strays config h calls = true) :
    LegSent config calls (.error error)

theorem sendLegSent (bridge : LiveBridge β) (config : LiveExecutionConfig) (b : β × List VenueCall)
    (quote leg side quoteId) :
    ∃ calls, (sendLeg (observed bridge) config b quote leg side quoteId).1.2 = b.2 ++ calls ∧
      LegSent config calls (sendLeg (observed bridge) config b quote leg side quoteId).2 := by
  have unsent : ∀ error, LegSent config [] (.error error) := fun error => .refused addsNil fun _ => rfl
  unfold sendLeg
  split
  · exact ⟨[],by simp,unsent _⟩
  split
  · exact ⟨[],by simp,unsent _⟩
  split
  · exact ⟨[],by simp,unsent _⟩
  split
  · exact ⟨[],by simp,unsent _⟩
  obtain ⟨b',signed,signing⟩ := observedSign bridge b (LiveMakerAdapter.makeRequest config quote leg side quoteId)
  obtain ⟨b'',sent,sending⟩ := observedSubmit bridge (b',b.2 ++ [.sign signed]) signed.requestBodyJson
  simp only [signing,sending]
  split
  · exact ⟨[.sign signed],rfl,.refused (addsSigned signed) fun _ => rfl⟩
  have adds := addsSent signed sent
  have marked : ∀ h, strays config h
    [.sign signed,.submit sent] = (sent.ok && decide (acceptedId signed.venueOrderIdHint sent ≠ "") &&
      config.makerRequireRestingAck && !restingStatus sent.venueStatus) := by
    intro h
    simp [strays]
  unfold acceptedId at adds marked
  generalize (if sent.venueOrderId = "" then signed.venueOrderIdHint else sent.venueOrderId) = id at adds marked ⊢
  split
  · next refused =>
    rw [if_neg fun accepted => by simp [refused] at accepted] at adds
    exact ⟨[.sign signed,.submit sent],by simp,.refused adds fun h => by simp [marked,refused]⟩
  next accepted =>
  rw [Bool.not_eq_false] at accepted
  by_cases named : id = ""
  · rw [if_neg fun both => both.2 named] at adds
    refine ⟨[.sign signed,.submit sent],?_,?_⟩
    · split <;> simp
    · split <;> exact .refused adds fun h => by simp [marked,named]
  · rw [if_pos ⟨accepted,named⟩] at adds
    split
    · next moved =>
        exact ⟨[.sign signed,.submit sent],by simp,.stray id adds fun h => by
          simp [marked,accepted,named,moved]⟩
    · next rests =>
      refine ⟨[.sign signed,.submit sent],by simp,.recorded adds fun h => ?_⟩
      simpa [marked,accepted,named] using rests

theorem recordedMoves (bridge : LiveBridge β) {quote : ApprovedQuote} {leg side quoteId} {s : WatchedMaker β}
    (filled : Filled s)
    {b : β × List VenueCall} {id calls}
      (answer : sendLeg (observed bridge) config s.bridge quote leg side quoteId = (b,.ok id))
    (log : b.2 = s.bridge.2 ++ calls) (adds : Adds calls [id]) (clean : ∀ h, strays config h calls = false) :
    Moves config quote.quoteGroupId s (submitLeg (observed bridge) config s quote leg side quoteId).1 calls 0 ∧
      groupIds (submitLeg (observed bridge) config s quote leg side quoteId).1 quote.quoteGroupId =
        groupIds s quote.quoteGroupId ++ [id] := by
  have records : groupIds (submitLeg (observed bridge) config s quote leg side quoteId).1 quote.quoteGroupId =
      groupIds s quote.quoteGroupId ++ [id] := by
    simp [submitLeg,answer,groupIds]
  refine ⟨⟨?_,?_,by simpa using clean,?_,?_⟩,records⟩
  · simp [submitLeg,answer,log]
  · intro h
    rw [adds h,records,Multiset.add_zero,← Multiset.coe_add]
  · intro p other
    simp [submitLeg,answer,groupIds,other]
  · intro p orders here
    by_cases same : p = quote.quoteGroupId
    · subst same
      simp only [submitLeg,answer,AList.lookup_insert,Option.some.injEq] at here
      simp [← here]
    · simp only [submitLeg,answer,AList.lookup_insert_ne same] at here
      exact filled p orders here
-- The order a leg lost stays at the venue when the records of its group are taken back.
theorem strayMoves {group} {s s' : WatchedMaker β} {b : β × List VenueCall} {calls id} (filled : Filled s)
    (log : b.2 = s.bridge.2 ++ calls)
    (adds : Adds calls [id]) (lost : ∀ h, strays config h calls = true) {ok asked answers canceled}
    (done : GroupCancelled {s with bridge := b} s' group ok asked answers canceled)
    (few : (groupIds s group).length ≤ 1) :
    Moves config group s s' (calls ++ asked) {id} := by
  have uniform : Uniform asked := passSingle done.pass few
  refine ⟨?_,?_,?_,done.others,done.filled filled⟩
  · rw [done.log,log,List.append_assoc]
  · intro h
    have here := adds h (groupIds s group)
    rw [List.foldl_append]
    generalize calls.foldl venueStep (h,(groupIds s group : Multiset String)) = v at here ⊢
    obtain ⟨h',orders⟩ := v
    simp only at here
    rw [here,done.kept]
    exact passKeeps done.pass uniform h' {id}
  · intro h
    have quiet : ∀ h, strays config h asked = false := by
      intro h
      rw [done.pass.calls,straysCancels]
    rw [straysAppend quiet,lost]
    simp
theorem submitLegsMoves (bridge : LiveBridge β) (config : LiveExecutionConfig) (quote : ApprovedQuote)
    (quoteId : UInt64) {s : WatchedMaker β} {legs} (filled : Filled s)
    (few : (groupIds s quote.quoteGroupId).length + legs.length ≤ 2) :
    ∃ calls lost, Moves config quote.quoteGroupId s
      (submitLegs (observed bridge) config quote quoteId s legs).1 calls lost := by
  induction legs generalizing s with
  | nil => exact ⟨[],0,movesNone config filled⟩
  | cons x rest ih =>
    obtain ⟨leg,side⟩ := x
    rw [List.length_cons] at few
    have single : (groupIds s quote.quoteGroupId).length ≤ 1 := by omega
    obtain ⟨calls,log,outcome⟩ := sendLegSent bridge config s.bridge quote leg side quoteId
    generalize answer : sendLeg (observed bridge) config s.bridge quote leg side quoteId = r at log outcome
    obtain ⟨b,sent⟩ := r
    simp only at log outcome
    have takenBack : ∀ error, sent = .error error →
        (submitLegs (observed bridge) config quote quoteId s ((leg,side)::rest)).1 =
          (cancelExistingGroup (observed bridge) {s with bridge := b} quote.quoteGroupId).1 := by
      intro error here
      rw [here] at answer
      simp [submitLegs,submitLeg,answer]
    cases outcome with
    | recorded adds clean =>
      have step : submitLegs (observed bridge) config quote quoteId s ((leg,side)::rest) =
          submitLegs (observed bridge) config quote quoteId
            (submitLeg (observed bridge) config s quote leg side quoteId).1 rest := by
        simp [submitLegs,submitLeg,answer]
      obtain ⟨first,records⟩ := recordedMoves bridge filled answer log adds clean
      obtain ⟨later,lost,moves⟩ :=
        ih first.filled (by rw [records,List.length_append,List.length_singleton]; omega)
      rw [step]
      exact ⟨_,lost,movesAppend first moves⟩
    | refused adds clean =>
      rw [takenBack _ rfl]
      obtain ⟨asked,answers,canceled,done⟩ :=
        groupCancelled bridge ({s with bridge := b} : WatchedMaker β) quote.quoteGroupId
      have first : Moves config quote.quoteGroupId s {s with bridge := b} calls 0 := by
        refine ⟨log,fun h => ?_,by simpa using clean,fun _ _ => rfl,filled⟩
        rw [adds h]
        rfl
      exact ⟨_,0,movesAppend first (movesCancel done filled (passSingle done.pass single))⟩
    | stray id adds lost =>
      rw [takenBack _ rfl]
      obtain ⟨asked,answers,canceled,done⟩ :=
        groupCancelled bridge ({s with bridge := b} : WatchedMaker β) quote.quoteGroupId
      exact ⟨_,{id},strayMoves filled log adds lost done single⟩

theorem placeQuoteMoves (bridge : LiveBridge β) (config : LiveExecutionConfig) {s : WatchedMaker β}
    {quote : ApprovedQuote} (filled : Filled s) (empty : groupIds s quote.quoteGroupId = [])
    (result) : ∃ calls lost, Moves config quote.quoteGroupId s
    (placeQuote (observed bridge) config s quote result).1 calls lost := by
  unfold placeQuote
  simp only
  split
  · exact ⟨[],0,movesNone config filled⟩
  · have few : (groupIds s quote.quoteGroupId).length + (activeLegs quote).length ≤ 2 := by
      rw [empty,activeLegs,List.length_append]
      split <;> split <;> simp
    obtain ⟨calls,lost,moves⟩ := submitLegsMoves bridge config quote result.quoteId filled few
    generalize submitLegs (observed bridge) config quote result.quoteId s (activeLegs quote) = r at moves ⊢
    obtain ⟨t,error⟩ := r
    cases error with
    | some error => exact ⟨calls,lost,moves⟩
    | none => exact ⟨calls,lost,moves.log,moves.account,moves.strays,moves.others,moves.filled⟩

def MakerMatches (s : WatchedMaker β) (log : List (MakerOp × Observed)) : Prop :=
  ∀ p, (groupIds s p : Multiset String) = outstanding MakerOp.parent log p

theorem movesMatch {s s' : WatchedMaker β} {log op o group lost} (ok : MakerMatches s log)
    (named : op.parent = some group)
    (moves : Moves config group s s' o.calls lost) :
    MakerMatches s' (log ++ [(op,o)]) ↔ strays config "" o.calls = false := by
  rw [moves.strays,decide_eq_false_iff_not,not_not]
  simp only [MakerMatches,outstandingAppend,named,Option.some.injEq,← ok _]
  constructor
  · intro tracked
    have here := tracked group
    rw [if_pos rfl,openOrders,moves.account] at here
    have sizes := congrArg Multiset.card here
    rw [Multiset.card_add] at sizes
    exact Multiset.card_eq_zero.mp (by omega)
  · rintro rfl p
    by_cases same : group = p
    · subst same
      rw [if_pos rfl,openOrders,moves.account,Multiset.add_zero]
    · rw [if_neg same,moves.others p (Ne.symm same)]

-- A pass that is not granted as a whole leaves the records as they are.
theorem passMatch {s s' : WatchedMaker β} {log op o group ok' answers canceled} (ok : MakerMatches s log)
    (named : op.parent = some group) (done : GroupCancelled s s' group ok' o.calls answers canceled) :
    MakerMatches s' (log ++ [(op,o)]) ↔ Uniform o.calls := by
  simp only [MakerMatches,outstandingAppend,named,Option.some.injEq,← ok _]
  constructor
  · intro tracked
    have here := tracked group
    rw [if_pos rfl,done.kept] at here
    exact passMixed done.pass here.symm
  · intro uniform p
    by_cases same : group = p
    · subst same
      have kept := passKeeps done.pass uniform "" 0
      rw [if_pos rfl,done.kept,openOrders]
      simpa using kept.symm
    · rw [if_neg same,done.others p (Ne.symm same)]

theorem cancelTake {s s' : WatchedMaker β} {group ok calls answers canceled}
    (done : GroupCancelled s s' group ok calls answers canceled) (rest : List VenueCall) :
    (calls ++ rest).take (groupIds s group).length = calls := by
  have size : calls.length = (groupIds s group).length := by
    rw [done.pass.calls,cancelCalls,List.length_map,passLength done.pass]
  rw [← size,List.take_left]

-- The step keeps the records filled, and matching exactly when its calls meet the condition.
def MakerSteps (bridge : LiveBridge β) (config : LiveExecutionConfig) (s : WatchedMaker β)
    (log : List (MakerOp × Observed))
    (op : MakerOp) : Prop :=
  Filled (makerStep bridge config s op).1 ∧
    (MakerMatches (makerStep bridge config s op).1 (log ++ [(op,(makerStep bridge config s op).2)]) ↔
      MakerCareful bridge config s log op)

theorem placedSteps {s t : WatchedMaker β} {log quote nowNs calls} (ok : MakerMatches s log)
    (first : Moves config quote.quoteGroupId (WatchedMaker.fresh s) t calls 0)
    (empty : groupIds t quote.quoteGroupId = [])
    (uniform : Uniform calls)
    (taken : ∀ rest, (calls ++ rest).take (groupIds s quote.quoteGroupId).length = calls) (result)
    (run : submitApprovedQuote (observed bridge) config (WatchedMaker.fresh s) quote nowNs =
      placeQuote (observed bridge) config t quote result) :
        MakerSteps bridge config s log (.submitApprovedQuote quote nowNs) := by
  obtain ⟨later,lost,second⟩ := placeQuoteMoves bridge config first.filled empty result
  have moves := movesAppend first second
  have step : makerStep bridge config s (.submitApprovedQuote quote nowNs) =
      ((placeQuote (observed bridge) config t quote result).1,⟨calls ++
        later,(placeQuote (observed bridge) config t quote result).2.ok⟩) := by
    simp only [makerStep,run,moves.log]
    rfl
  unfold MakerSteps MakerCareful
  rw [step]
  refine ⟨moves.filled,?_⟩
  simp only [taken]
  rw [movesMatch (o := ⟨calls ++ later,_⟩) (s := WatchedMaker.fresh s) ok rfl moves]
  exact ⟨fun clean => ⟨uniform,clean⟩,And.right⟩
theorem idleSteps {s : WatchedMaker β} {log quote nowNs result} (filled : Filled s) (ok : MakerMatches s log)
    (run : submitApprovedQuote (observed bridge) config
      (WatchedMaker.fresh s) quote nowNs = (WatchedMaker.fresh s,result)) :
    MakerSteps bridge config s log (.submitApprovedQuote quote nowNs) := by
  have step : makerStep bridge config s
    (.submitApprovedQuote quote nowNs) = (WatchedMaker.fresh s,⟨[],result.ok⟩) := by
    simp only [makerStep,run]
    rfl
  unfold MakerSteps MakerCareful
  rw [step]
  refine ⟨filled,?_⟩
  rw [movesMatch (o := ⟨[],_⟩) (s := WatchedMaker.fresh s) ok rfl (movesNone config filled)]
  exact iff_of_true rfl ⟨.inl (by simp),rfl⟩
theorem unreplacedSteps {s : WatchedMaker β} {log quote nowNs} (filled : Filled s) (ok : MakerMatches s log)
    (result : MakerSubmitResult)
    (run : submitApprovedQuote (observed bridge) config (WatchedMaker.fresh s) quote nowNs =
      ((cancelExistingGroup (observed bridge) (WatchedMaker.fresh s) quote.quoteGroupId).1,result)) :
    MakerSteps bridge config s log (.submitApprovedQuote quote nowNs) := by
  obtain ⟨calls,answers,canceled,done⟩ := groupCancelled bridge (WatchedMaker.fresh s) quote.quoteGroupId
  generalize cancelExistingGroup (observed bridge) (WatchedMaker.fresh s) quote.quoteGroupId = r at done run
  have step : makerStep bridge config s (.submitApprovedQuote quote nowNs) = (r.1,⟨calls,result.ok⟩) := by
    simp only [makerStep,run,done.log]
    rfl
  have whole : calls.take (groupIds s quote.quoteGroupId).length = calls := by
    have taken := cancelTake done []
    rwa [List.append_nil] at taken
  have quiet : strays config "" calls = false := by rw [done.pass.calls,straysCancels]
  unfold MakerSteps MakerCareful
  rw [step]
  refine ⟨done.filled filled,?_⟩
  rw [passMatch (o := ⟨calls,_⟩) (s := WatchedMaker.fresh s) ok rfl done]
  simp only [whole,quiet,and_true]

theorem makerSubmitSteps {s : WatchedMaker β} {log} (filled : Filled s) (ok : MakerMatches s log) (quote nowNs) :
    MakerSteps bridge config s log (.submitApprovedQuote quote nowNs) := by
  have run := submitApprovedQuote.eq_def (observed bridge) config (WatchedMaker.fresh s) quote nowNs
  simp only at run
  by_cases disabled : config.enabled = false
  · rw [if_pos disabled] at run
    exact idleSteps filled ok run
  rw [if_neg disabled] at run
  by_cases none : quote.hasBid = false ∧ quote.hasAsk = false
  · rw [if_pos none] at run
    exact idleSteps filled ok run
  rw [if_neg none] at run
  by_cases late : quote.expiresAtNs ≠ 0 ∧ quote.expiresAtNs ≤ nowNs
  · rw [if_pos late] at run
    exact idleSteps filled ok run
  rw [if_neg late] at run
  by_cases repeated : quote.idempotencyHash ≠ 0 ∧
    quote.idempotencyHash ∈ (WatchedMaker.fresh s).submittedIdempotencyHashes
  · rw [if_pos repeated] at run
    exact idleSteps filled ok run
  rw [if_neg repeated] at run
  have start : Filled (WatchedMaker.fresh s) := filled
  by_cases known : quote.quoteGroupId ∈ (WatchedMaker.fresh s).acceptedOrdersByGroup
  · rw [if_pos known] at run
    by_cases refused : (cancelExistingGroup (observed bridge) (WatchedMaker.fresh s) quote.quoteGroupId).2.ok =
      false
    · rw [if_pos refused] at run
      exact unreplacedSteps filled ok _ run
    · rw [if_neg refused] at run
      obtain ⟨calls,answers,canceled,done⟩ := groupCancelled bridge (WatchedMaker.fresh s) quote.quoteGroupId
      rw [Bool.not_eq_false] at refused
      have all := (done.ok.mp refused).2
      have uniform : Uniform calls := (passUniform done.pass).mpr (.inl all)
      exact placedSteps ok (movesCancel done start uniform) (by rw [done.kept,if_pos all]) uniform
        (cancelTake (s := WatchedMaker.fresh s) done) _ run
  · rw [if_neg known] at run
    have empty : groupIds (WatchedMaker.fresh s) quote.quoteGroupId = [] := by
      by_contra some
      exact known ((filledMember start _).mpr some)
    have none : groupIds s quote.quoteGroupId = [] := empty
    exact placedSteps ok (movesNone config start) empty (.inl (by simp)) (by simp [none]) _ run

theorem makerCancelRun (bridge : LiveBridge β) (config : LiveExecutionConfig) (enabled : config.enabled = true)
    (s : WatchedMaker β) (group) :
    ∃ calls answers canceled, (makerStep bridge config s (.cancelQuoteGroup group)).2.calls = calls ∧
      GroupCancelled (WatchedMaker.fresh s) (makerStep bridge config s (.cancelQuoteGroup group)).1 group
        (makerStep bridge config s (.cancelQuoteGroup group)).2.ok calls answers canceled := by
  obtain ⟨calls,answers,canceled,done⟩ := groupCancelled bridge (WatchedMaker.fresh s) group
  refine ⟨calls,answers,canceled,?_,?_⟩
  · simp only [makerStep,cancelQuoteGroup,enabled,Bool.true_eq_false,if_false,done.log]
    rfl
  · simp only [makerStep,cancelQuoteGroup,enabled,Bool.true_eq_false,if_false]
    exact done
theorem makerCancelSteps {s : WatchedMaker β} {log} (filled : Filled s) (ok : MakerMatches s log) (group) :
    MakerSteps bridge config s log (.cancelQuoteGroup group) := by
  unfold MakerSteps MakerCareful
  cases enabled : config.enabled with
  | false =>
    have step : makerStep bridge config s (.cancelQuoteGroup group) = (WatchedMaker.fresh s,{}) := by
      simp only [makerStep,cancelQuoteGroup,enabled,if_true]
      rfl
    rw [step]
    refine ⟨filled,?_⟩
    rw [movesMatch (s := WatchedMaker.fresh s) ok rfl (movesNone config (s := WatchedMaker.fresh s) filled)]
    exact iff_of_true rfl (.inl (by simp))
  | true =>
    obtain ⟨calls,answers,canceled,here,done⟩ := makerCancelRun bridge config enabled s group
    rw [← here] at done
    exact ⟨done.filled filled,passMatch (s := WatchedMaker.fresh s) ok rfl done⟩

theorem makerTrackedIff (s : WatchedMaker β) (log) : MakerTracked bridge config s log ↔ MakerMatches s log := by
  refine ⟨MakerTracked.recorded,fun recorded => ⟨recorded,fun enabled p => ?_,fun enabled p => ?_⟩⟩
  · obtain ⟨calls,answers,canceled,here,done⟩ := makerCancelRun bridge config enabled s p
    rw [here,done.pass.calls,cancelTargetsCalls,done.pass.asked]
    rfl
  · obtain ⟨calls,answers,canceled,here,done⟩ := makerCancelRun bridge config enabled s p
    rw [here,passAll done.pass]
    exact done.ok
theorem makerStepIff {s : WatchedMaker β} {log} (filled : Filled s) (ok : MakerTracked bridge config s log) (op) :
    Filled (makerStep bridge config s op).1 ∧
      (MakerTracking bridge config s log op ↔ MakerCareful bridge config s log op) := by
  unfold MakerTracking
  rw [makerTrackedIff]
  cases op with
  | submitApprovedQuote quote nowNs => exact makerSubmitSteps filled ok.recorded quote nowNs
  | cancelQuoteGroup group => exact makerCancelSteps filled ok.recorded group

end

/-! Whole runs. -/

section
variable {β : Type}

def LiveRunTracked (bridge : LiveBridge β) (config : LiveExecutionConfig) (b : β) (ops : List LiveOp) : Prop :=
  Machine.Along (liveStep bridge config) (LiveTracking bridge config) {bridge := (b,[])} [] ops
def MakerRunTracked (bridge : LiveBridge β) (config : LiveExecutionConfig) (b : β) (ops : List MakerOp) : Prop :=
  Machine.Along (makerStep bridge config) (MakerTracking bridge config) {bridge := (b,[])} [] ops

theorem liveRunIff (bridge : LiveBridge β) (config b ops) : LiveRunTracked bridge config b ops ↔
    Machine.Along (liveStep bridge config) (LiveCareful bridge config) {bridge := (b,[])} [] ops := by
  have start : LiveTracked bridge config {bridge := (b,[])} [] := (liveTrackedIff _ _).mpr fun _ => rfl
  constructor
  · exact Machine.alongImp (P := LiveTracked bridge config) (fun s log op ok tracking => tracking)
      (fun s log op ok => (liveStepIff ok op).mp) start
  · exact Machine.alongImp (P := LiveTracked bridge config)
      (fun s log op ok careful => (liveStepIff ok op).mpr careful)
      (fun s log op ok => (liveStepIff ok op).mpr) start
theorem makerRunIff (bridge : LiveBridge β) (config b ops) : MakerRunTracked bridge config b ops ↔
    Machine.Along (makerStep bridge config) (MakerCareful bridge config) {bridge := (b,[])} [] ops := by
  have start : Filled ({bridge := (b,[])} : WatchedMaker β) ∧ MakerTracked bridge config {bridge := (b,[])} [] :=
    ⟨(fun _ _ here => by cases here),(makerTrackedIff _ _).mpr fun _ => rfl⟩
  constructor
  · exact Machine.alongImp (P := fun s log => Filled s ∧ MakerTracked bridge config s log)
      (fun s log op ok tracking => ⟨(makerStepIff ok.1 ok.2 op).1,tracking⟩)
      (fun s log op ok => (makerStepIff ok.1 ok.2 op).2.mp) start
  · exact Machine.alongImp (P := fun s log => Filled s ∧ MakerTracked bridge config s log)
      (fun s log op ok careful => ⟨(makerStepIff ok.1 ok.2 op).1,(makerStepIff ok.1 ok.2 op).2.mpr careful⟩)
      (fun s log op ok => (makerStepIff ok.1 ok.2 op).2.mpr) start

theorem trackedOrdersIff (bridge : LiveBridge β) (config : LiveExecutionConfig) (b : β) :
    (∀ ops, LiveRunTracked bridge config b ops ↔
      Machine.Along (liveStep bridge config) (LiveCareful bridge config) {bridge := (b,[])} [] ops) ∧
    ∀ ops, MakerRunTracked bridge config b ops ↔
      Machine.Along (makerStep bridge config) (MakerCareful bridge config) {bridge := (b,[])} [] ops :=
  ⟨liveRunIff bridge config b,makerRunIff bridge config b⟩

end

-- Numbers its orders; accepts everything, but the second order it is sent is matched at once.
def numbering : LiveBridge Nat where
  signOrder n _ := (n,{ok := true, requestBodyJson := "order"})
  submitOrder n _ := (n + 1,{ok := true, venueOrderId := toString n, venueStatus := if n = 1 then
      "matched"
    else "live"})
  cancelOrder n _ := (n,{ok := true})
def samplePlan : OrderPlan :=
  {planId := 7, orders := [{orderId := 1, assetId := "a", quantityLots := 1, limitPriceTick := 60}]}
def sampleContext : ExecutionContext :=
  {nowNs := 10, config := {mode := .live, executionEnabled := true, liveEnabled := true}}
def sampleQuote : ApprovedQuote :=
  { quoteGroupId := 7, hasBid := true, hasAsk := true
    bid := {marketId := "m", assetId := "a", priceTick := 40, quantityLots := 1}
    ask := {marketId := "m", assetId := "a", priceTick := 60, quantityLots := 1} }
def twiceSubmitted : List LiveOp := [.submitPlan samplePlan sampleContext,.submitPlan samplePlan sampleContext]

-- The second submission replaces the order the first one left at the venue; the ask that does not
-- rest is accepted and not recorded.
theorem ordersLost :
    ¬ LiveRunTracked numbering {enabled := true} 0 twiceSubmitted ∧
    ¬ MakerRunTracked numbering {enabled := true} 0 [.submitApprovedQuote sampleQuote 10] := by
  constructor
  · intro tracked
    have sizes := congrArg Multiset.card (tracked.2.1.recorded 7)
    revert sizes
    decide +kernel
  · intro tracked
    have sizes := congrArg Multiset.card (tracked.1.recorded 7)
    revert sizes
    decide +kernel

end Polytope.LiveOrderTracking
