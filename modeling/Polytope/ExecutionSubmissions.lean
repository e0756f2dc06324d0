import Polytope.ExecutionAdapters

/-! Which plans reach the adapter. The plan id is a function of the envelope and its context,
and the gateway submits every plan that is built and validated without looking at the plans
it has recorded; so plan ids are submitted once exactly when no two accepted envelopes of the
run carry the same id. -/
namespace Polytope.ExecutionSubmissions
open ExecutionTypes ExecutionPlanner ExecutionState ExecutionGateway

def opBuilt : GatewayOp → Option (Except String OrderPlan × String × ExecutionContext)
  | .submitApprovedIntent e ctx => some (buildPlan e ctx.nowNs ctx.config,intentReservationId e,ctx)
  | .submitApprovedDecision e ctx => some (buildDecisionPlan e ctx.nowNs ctx.config,decisionReservationId e,ctx)
  | .cancelPlan _ => none
def acceptedPlan (op : GatewayOp) : Option OrderPlan :=
  match opBuilt op with
  | some (.ok plan,_,ctx) =>
    match validate plan ctx.config with
    | .ok _ => some plan
    | .error _ => none
  | _ => none
def acceptedId (op : GatewayOp) : Option UInt64 := (acceptedPlan op).map (·.planId)
def submittedId (o : Outcome) : Option UInt64 := o.submission.map (·.plan.planId)
def submittedIds (log : GatewayLog) : List UInt64 := log.filterMap fun x => submittedId x.2

section
variable {α : Type} {A : Adapter α}

inductive Handled (A : Adapter α) (g : Gateway α) (op : GatewayOp) : Gateway α → Outcome → Prop where
  | unplanned {error rid ctx} (built : opBuilt op = some (.error error,rid,ctx)) :
      Handled A g op g {result := {status := .failed, error}}
  | refused {plan error rid ctx} (built : opBuilt op = some (.ok plan,rid,ctx))
      (invalid : validate plan ctx.config = .error error) :
      Handled A g op g
        { result := {planId := plan.planId, status := .failed, error}
          dispositions := disposition g.hasReservationPublisher rid plan.planId .release "plan validation failed" }
  | executed {a plan rid ctx} (ready : g.adapter = some a) (built : opBuilt op = some (.ok plan,rid,ctx))
      (valid : validate plan ctx.config = .ok ()) :
      Handled A g op (execute A g a plan rid ctx).1 (execute A g a plan rid ctx).2
  | cancelled {id} (same : op = .cancelPlan id) : Handled A g op (cancelPlan A g id).1 (cancelPlan A g id).2

theorem submitBuiltHandled {g : Gateway α} {op built rid ctx} (ready : g.adapter.isSome = true)
    (here : opBuilt op = some (built,rid,ctx)) :
    Handled A g op (submitBuilt A g built rid ctx).1 (submitBuilt A g built rid ctx).2 := by
  obtain ⟨a,adapter⟩ := Option.isSome_iff_exists.mp ready
  unfold submitBuilt
  rw [adapter]
  cases built with
  | error error => exact .unplanned here
  | ok plan =>
    simp only
    split
    · next error invalid => exact .refused here invalid
    · next valid => exact .executed adapter here valid

theorem gatewayHandled {g : Gateway α} (ready : g.adapter.isSome = true) (op) :
    Handled A g op (gatewayStep A g op).1 (gatewayStep A g op).2 := by
  cases op with
  | submitApprovedIntent e ctx => exact submitBuiltHandled ready rfl
  | submitApprovedDecision e ctx => exact submitBuiltHandled ready rfl
  | cancelPlan id => exact .cancelled rfl

theorem cancelKeepsAdapter {g : Gateway α} (ready : g.adapter.isSome = true) (id) :
    (cancelPlan A g id).1.adapter.isSome = true := by
  unfold cancelPlan
  split
  · exact ready
  · simp only [cancelOpenOrders]
    split
    · split
      · exact ready
      · split
        · next none =>
          rw [none] at ready
          cases ready
        · rfl
    · split <;> exact ready
theorem cancelKeepsKeys (g : Gateway α) (id k) :
    ((cancelPlan A g id).1.planStore = g.planStore) ∧ (k ∈ (cancelPlan A g id).1.runtime ↔ k ∈ g.runtime) := by
  unfold cancelPlan
  split
  · exact ⟨rfl,Iff.rfl⟩
  · next state found =>
    refine ⟨rfl,?_⟩
    rw [AList.mem_insert]
    constructor
    · rintro (rfl | old)
      · exact AList.lookup_isSome.mp (by simp [found])
      · exact old
    · exact .inr
theorem cancelSubmits (g : Gateway α) (id) :
    (cancelPlan A g id).2.submission = none ∧ (cancelPlan A g id).2.dispositions = [] := by
  unfold cancelPlan
  split <;> exact ⟨rfl,rfl⟩

theorem handledSubmits {g g' : Gateway α} {op o} (ready : g.adapter.isSome = true) (h : Handled A g op g' o) :
    submittedId o = acceptedId op ∧ g'.adapter.isSome = true := by
  unfold acceptedId acceptedPlan
  cases h with
  | unplanned built =>
    rw [built]
    exact ⟨rfl,ready⟩
  | refused built invalid =>
    rw [built]
    simp only [invalid]
    exact ⟨rfl,ready⟩
  | executed _ built valid =>
    rw [built]
    simp only [valid]
    exact ⟨rfl,rfl⟩
  | cancelled same =>
    subst same
    exact ⟨by rw [submittedId,(cancelSubmits g _).1]; rfl,cancelKeepsAdapter ready _⟩

structure Recorded (g : Gateway α) (log : GatewayLog) : Prop where
  ready : g.adapter.isSome = true
  store : ∀ id ∈ g.planStore, id ∈ submittedIds log
  runtime : ∀ id ∈ g.runtime, id ∈ submittedIds log

theorem submittedAppend (log x) : submittedIds (log ++ [x]) = submittedIds log ++ (submittedId x.2).toList := by
  cases here : submittedId x.2 <;> simp [submittedIds,here]

theorem recordedStep {g : Gateway α} {log} (op) (ok : Recorded g log) :
    Recorded (gatewayStep A g op).1 (log ++ [(op,(gatewayStep A g op).2)]) := by
  have handled := gatewayHandled (A := A) ok.ready op
  have ready := (handledSubmits ok.ready handled).2
  have old : ∀ id o, id ∈ submittedIds log → id ∈ submittedIds (log ++ [(op,o)]) := by
    intro id o mem
    rw [submittedAppend]
    exact List.mem_append_left _ mem
  generalize (gatewayStep A g op).1 = g',(gatewayStep A g op).2 = o at *
  cases handled with
  | unplanned _ =>
    exact ⟨ready,fun id mem => old id _ (ok.store id mem),fun id mem => old id _ (ok.runtime id mem)⟩
  | refused _ _ =>
    exact ⟨ready,fun id mem => old id _ (ok.store id mem),fun id mem => old id _ (ok.runtime id mem)⟩
  | cancelled _ =>
    refine ⟨ready,fun id mem => old id _ (ok.store id ?_),fun id mem => old id _ (ok.runtime id ?_)⟩
    · rwa [(cancelKeepsKeys g _ id).1] at mem
    · exact (cancelKeepsKeys g _ id).2.mp mem
  | executed _ _ _ =>
    refine ⟨ready,fun id mem => ?_,fun id mem => ?_⟩
    · rcases (AList.mem_insert _).mp mem with rfl | mem
      · simp [submittedAppend,submittedId,execute]
      · rcases (AList.mem_insert _).mp mem with rfl | mem
        · simp [submittedAppend,submittedId,execute]
        · exact old id _ (ok.store id mem)
    · rcases (AList.mem_insert _).mp mem with rfl | mem
      · simp [submittedAppend,submittedId,execute]
      · exact old id _ (ok.runtime id mem)

theorem recordedInitial (a : α) : Recorded {adapter := some a} [] := ⟨rfl,by simp,by simp⟩

theorem submittedRun {g : Gateway α} {log ops} (ok : Recorded g log) :
    submittedIds (Machine.run (gatewayStep A) g log ops).2 = submittedIds log ++ ops.filterMap acceptedId := by
  induction ops generalizing g log with
  | nil => simp [Machine.run]
  | cons op rest ih =>
    have here := (handledSubmits ok.ready (gatewayHandled (A := A) ok.ready op)).1
    rw [Machine.run,ih (recordedStep op ok),submittedAppend]
    simp only [here]
    cases accepted : acceptedId op <;> simp [accepted]

-- A submission finds no record of its plan id.
def KeepsRecords (A : Adapter α) (g : Gateway α) (_ : GatewayLog) (op : GatewayOp) : Prop :=
  ∀ id ∈ submittedId (gatewayStep A g op).2, id ∉ g.planStore ∧ id ∉ g.runtime
def SubmittedOnce (A : Adapter α) (a : α) (ops : List GatewayOp) : Prop :=
  (submittedIds (runGateway A a ops).2).Nodup ∧
  Machine.Along (gatewayStep A) (KeepsRecords A) {adapter := some a} [] ops

theorem keepsAlong {g : Gateway α} {log ops} (ok : Recorded g log)
    (once : (submittedIds log ++ ops.filterMap acceptedId).Nodup) :
    Machine.Along (gatewayStep A) (KeepsRecords A) g log ops := by
  induction ops generalizing g log with
  | nil => trivial
  | cons op rest ih =>
    have here := (handledSubmits ok.ready (gatewayHandled (A := A) ok.ready op)).1
    constructor
    · intro id mem
      rw [here] at mem
      have fresh : id ∉ submittedIds log := by
        intro old
        rw [List.filterMap_cons,Option.mem_def.mp mem] at once
        exact (List.nodup_append.mp once).2.2 id old id List.mem_cons_self rfl
      exact ⟨fun old => fresh (ok.store id old),fun old => fresh (ok.runtime id old)⟩
    · refine ih (recordedStep op ok) ?_
      rw [submittedAppend]
      simp only [here]
      cases accepted : acceptedId op with
      | none => simpa [accepted] using once
      | some id => simpa [accepted] using once

theorem submittedOnceIff (A : Adapter α) (a : α) (ops : List GatewayOp) :
    SubmittedOnce A a ops ↔ (ops.filterMap acceptedId).Nodup := by
  have all : submittedIds (runGateway A a ops).2 = ops.filterMap acceptedId := submittedRun (recordedInitial a)
  unfold SubmittedOnce
  rw [all]
  exact ⟨And.left,fun once => ⟨once,keepsAlong (recordedInitial a) once⟩⟩

end

def sampleEnvelope : ApprovedIntentEnvelope :=
  { sourceIntent :=
      { intentId := 1, bundleId := 1, status := .paperOpportunity, estimatedCostTick := 60, expiresAtNs := 1000
        idempotencyKey := "key"
        legs := [{marketId := "m", assetId := "a", quantityLots := 1, worstPriceTick := 60}] }
    approval :=
      {decisionId := 1, reservationId := 1, bundleId := 1, approvedBundleQty := 1, idempotencyKey := "key"} }
theorem redeliverySubmitsTwice :
    ¬ SubmittedOnce ExecutionAdapters.paper []
      [.submitApprovedIntent sampleEnvelope {nowNs := 10},.submitApprovedIntent sampleEnvelope {nowNs := 20}] := by
  intro claimed
  have once := claimed.1
  revert once
  decide +kernel

end Polytope.ExecutionSubmissions
