import Polytope.ExecutionSubmissions
import Mathlib.Logic.Relation

/-! The status a gateway records for a plan, over every call it offers. The state machine is asked
only inside one submission: a second submission starts again from Acked, the raw status of the
adapter is taken where no rule applies, and a cancel writes to the runtime record alone. -/
namespace Polytope.PlanLifecycle
open ExecutionTypes ExecutionPlanner ExecutionState ExecutionGateway ExecutionSubmissions

def Chain : PlanStatus → PlanStatus → Prop := Relation.ReflTransGen fun s t => planCanTransition s t = true

-- Statuses that come before Acked, and those from which Acked can still be reached.
def beforeAcked : PlanStatus → Bool
  | .created | .planned | .sent => true
  | _ => false
def upToAcked (s : PlanStatus) : Bool := beforeAcked s || decide (s = .acked)

theorem beforeAckedBack {s t} (h : planCanTransition s t = true) (later : beforeAcked t = true) :
    beforeAcked s = true := by
  revert h later
  cases s <;> cases t <;> decide
theorem upToAckedBack {s t} (h : planCanTransition s t = true) (later : upToAcked t = true) :
    upToAcked s = true := by
  revert h later
  cases s <;> cases t <;> decide
theorem terminalTransition {s t} (h : planCanTransition s t = true) (done : planTerminal s = true) : t = s := by
  revert h done
  cases s <;> cases t <;> decide

theorem chainTerminal {s t} (path : Chain s t) (done : planTerminal s = true) : t = s := by
  induction path with
  | refl => rfl
  | tail _ step ih => exact (terminalTransition step (ih.symm ▸ done)).trans ih
theorem chainAcked (s) : Chain s .acked ↔ upToAcked s = true := by
  constructor
  · intro path
    induction path using Relation.ReflTransGen.head_induction_on with
    | refl => rfl
    | head step _ ih => exact upToAckedBack step ih
  · have sent : Chain .sent .acked := .single rfl
    have planned : Chain .planned .acked := .head rfl sent
    intro early
    cases s with
    | created => exact .head rfl planned
    | planned => exact planned
    | sent => exact sent
    | acked => exact .refl
    | _ => cases early
theorem ackedChain (t) : Chain .acked t ↔ beforeAcked t = false := by
  constructor
  · intro path
    rw [← Bool.not_eq_true]
    intro early
    induction path with
    | refl => cases early
    | tail _ step ih => exact ih (beforeAckedBack step early)
  · have partly : Chain .acked .partiallyFilled := .single rfl
    have requested : Chain .acked .cancelRequested := .tail partly rfl
    intro late
    cases t with
    | acked => exact .refl
    | partiallyFilled => exact partly
    | hedgeRequired => exact .tail partly rfl
    | filled => exact .single rfl
    | cancelRequested => exact requested
    | cancelled => exact .tail requested rfl
    | failed => exact .single rfl
    | expired => exact .single rfl
    | _ => cases late

/-! Every call of the gateway. -/

inductive GatewayCall where
  | approved (op : GatewayOp)
  | submit (plan : OrderPlan) (ctx : ExecutionContext)
  | poll
  deriving DecidableEq

section
variable {α : Type} (A : Adapter α) (g : Gateway α)

def submit (plan : OrderPlan) (ctx : ExecutionContext) : Gateway α × Outcome :=
  match g.adapter with
  | none => (g,{result := {planId := plan.planId, status := .failed, error := "missing execution adapter"}})
  | some a =>
    let (a,result) := A.submitPlan a plan ctx
    ({g with adapter := some a},
      {result :=
        { ok := result.ok
          planId := result.planId
          status := result.status
          childOrdersSubmitted := result.childOrdersSubmitted
          childOrdersRejected := result.childOrdersRejected
          error := result.error }})
def poll : Gateway α × Outcome := ({g with pendingReports := []},{reports := g.pendingReports})
def findPlan (planId : UInt64) : Option OrderPlan := g.planStore.lookup planId
def recordedStatus (planId : UInt64) : Option PlanStatus := (g.runtime.lookup planId).map (·.plan.status)

def callStep : GatewayCall → Gateway α × Outcome
  | .approved op => gatewayStep A g op
  | .submit plan ctx => submit A g plan ctx
  | .poll => poll g

structure StatusLaw (_ : List (GatewayCall × Outcome)) (call : GatewayCall) : Prop where
  final : ∀ id s, recordedStatus g id = some s → planTerminal s = true →
    recordedStatus (callStep A g call).1 id = some s
  chain : ∀ id s, recordedStatus g id = some s → ∃ t, recordedStatus (callStep A g call).1 id = some t ∧ Chain s t
  -- The plan put into the store before the adapter is called.
  prepared : ∀ sub ∈ (callStep A g call).2.submission,
    (∀ plan, findPlan g sub.plan.planId = some plan → Chain plan.status sub.plan.status) ∧
      ∃ t, recordedStatus (callStep A g call).1 sub.plan.planId = some t ∧ Chain sub.plan.status t
  found : ∀ id, (findPlan (callStep A g call).1 id).map (·.status) = recordedStatus (callStep A g call).1 id

-- The adapter's answer to a plan, and the fills of the reports that came with it.
def adapterAnswer (a : α) (plan : OrderPlan) (ctx : ExecutionContext) : AdapterSubmitResult × PlanFillState :=
  let (a,result) := A.submitPlan a (prepare plan) ctx
  let (_,reports) := A.pollReports a
  (result,(reports.foldl applyReport
    ⟨(prepare plan).orders,FillTracker.reset (prepare plan),[]⟩).fillTracker.planState)
-- No rule of the lifecycle applies to the answer and its own status lies before Acked.
def fallsBack (answer : AdapterSubmitResult × PlanFillState) : Bool :=
  decide (decidePartialFill answer.2 ≠ .hedgeRequired) && !answer.2.anyPartial && answer.1.ok &&
    decide (answer.1.childOrdersRejected = 0) && beforeAcked answer.1.status
def cancelGranted (state : PlanRuntimeState) : Bool :=
  match state.config.mode with
  | .paper => true
  | .sandbox => false
  | .live =>
    state.config.executionEnabled && state.config.liveEnabled && g.adapter.any fun a =>
      (A.cancelPlan a state.plan.planId).2.ok

def Careful (_ : List (GatewayCall × Outcome)) : GatewayCall → Prop
  | .approved (.cancelPlan id) =>
    ∀ state, g.runtime.lookup id = some state → cancelGranted A g state = true → state.plan.status = .cancelled
  | .approved op => ∀ plan rid ctx a, opBuilt op = some (.ok plan,rid,ctx) →
    validate plan ctx.config = .ok () → g.adapter = some a →
    (∀ s, recordedStatus g plan.planId = some s → upToAcked s = true) ∧
    fallsBack (adapterAnswer A a plan ctx) = false
  | .submit _ _ => True
  | .poll => True

structure Agreeing : Prop where
  ready : g.adapter.isSome = true
  found : ∀ id, (findPlan g id).map (·.status) = recordedStatus g id

end

theorem lifecycleBefore (result : AdapterSubmitResult) (fills : PlanFillState) :
    beforeAcked (applyPlanLifecycle result fills) = fallsBack (result,fills) := by
  unfold applyPlanLifecycle fallsBack
  simp only
  split
  · next hedge => simp [hedge,planTransition,planCanTransition,planTerminal,beforeAcked]
  · split
    · next filled => simp [filled.1,planTransition,planCanTransition,planTerminal,beforeAcked]
    · split
      · next some =>
        rcases some with partly | fill
        · simp [partly,planTransition,planCanTransition,planTerminal,beforeAcked]
        · simp [fill,planTransition,planCanTransition,planTerminal,beforeAcked]
      · next hedge _ whole =>
        rw [not_or] at whole
        split
        · next refused =>
          rcases refused with bad | failed | rejected
          · simp [bad,planTransition,planCanTransition,planTerminal,beforeAcked]
          · simp [failed,planTransition,planCanTransition,planTerminal,beforeAcked]
          · simp [rejected.ne',planTransition,planCanTransition,planTerminal,beforeAcked]
        · next accepted =>
          simp only [not_or,Nat.not_lt,Nat.le_zero,Bool.not_eq_false] at accepted
          simp [hedge,whole.2,accepted.1,accepted.2.2]

theorem createdStatus {op plan rid ctx} (built : opBuilt op = some (.ok plan,rid,ctx)) :
    plan.status = .created := by
  cases op with
  | submitApprovedIntent e ctx =>
    have here := congrArg (fun x => x.map (·.1)) built
    obtain ⟨orders,_,h⟩ := Machine.bindOk.mp (buildPlanAssembled (Option.some.inj here))
    obtain ⟨_,_,h⟩ := Machine.bindOk.mp h
    cases h
    rfl
  | submitApprovedDecision e ctx =>
    have here := congrArg (fun x => x.map (·.1)) built
    obtain ⟨orders,_,rfl⟩ := assembleDecisionPlanShape (buildDecisionPlanAssembled (Option.some.inj here))
    rfl
  | cancelPlan id => cases built

section
variable {α : Type} {A : Adapter α} {g : Gateway α}

theorem cancelOk (state) : (cancelOpenOrders A g state).2.ok = cancelGranted A g state := by
  unfold cancelOpenOrders cancelGranted
  cases state.config.mode with
  | paper => rfl
  | sandbox => rfl
  | live =>
    cases state.config.executionEnabled with
    | false => rfl
    | true =>
      cases state.config.liveEnabled with
      | false => rfl
      | true => cases g.adapter <;> rfl

theorem insertStatus (id : UInt64) (state : PlanRuntimeState) (k) :
    ((g.runtime.insert id state).lookup k).map (·.plan.status) = if k = id then some state.plan.status
    else recordedStatus g k := by
  split
  · next same =>
    subst same
    rw [AList.lookup_insert]
    rfl
  · next other =>
    rw [AList.lookup_insert_ne other]
    rfl

theorem executedStatuses (a : α) (plan rid ctx k) :
    recordedStatus (execute A g a plan rid ctx).1 k = (if k = plan.planId then
      some (applyPlanLifecycle (adapterAnswer A a plan ctx).1 (adapterAnswer A a plan ctx).2)
        else recordedStatus g k) ∧
    (findPlan (execute A g a plan rid ctx).1 k).map (·.status) = if k = plan.planId then
      some (applyPlanLifecycle (adapterAnswer A a plan ctx).1 (adapterAnswer A a plan ctx).2)
        else (findPlan g k).map (·.status) := by
  constructor
  · exact insertStatus _ _ k
  · unfold findPlan execute
    simp only
    split
    · next same =>
      subst same
      exact congrArg _ (AList.lookup_insert _)
    · next other =>
      have away : k ≠ (prepare plan).planId := other
      rw [AList.lookup_insert_ne away,AList.lookup_insert_ne away]

theorem cancelStatuses {id state} (known : g.runtime.lookup id = some state) (k) :
    recordedStatus (cancelPlan A g id).1 k =
      if k = id ∧ cancelGranted A g state = true then some .cancelled else recordedStatus g k := by
  unfold cancelPlan
  rw [known]
  refine (insertStatus (g := g) _ _ k).trans ?_
  simp only [cancelOk]
  by_cases same : k = id
  · subst same
    cases granted : cancelGranted A g state with
    | true => simp
    | false => simp [recordedStatus,known]
  · simp [same]

/-! One call. -/

theorem quietLaw (ok : Agreeing g) {log call}
    (recorded : ∀ id, recordedStatus (callStep A g call).1 id = recordedStatus g id)
    (store : ∀ id, findPlan (callStep A g call).1 id = findPlan g id)
    (none : (callStep A g call).2.submission = none) :
    StatusLaw A g log call := by
  refine ⟨?_,?_,?_,?_⟩
  · intro id s here _
    rw [recorded,here]
  · intro id s here
    exact ⟨s,by rw [recorded,here],.refl⟩
  · intro sub mem
    rw [none] at mem
    cases mem
  · intro id
    rw [recorded,store,ok.found]

theorem builtExecutes {op a plan rid ctx} (built : opBuilt op = some (.ok plan,rid,ctx))
    (valid : validate plan ctx.config = .ok ())
    (ready : g.adapter = some a) : gatewayStep A g op = execute A g a plan rid ctx := by
  have same : gatewayStep A g op = submitBuilt A g (.ok plan) rid ctx := by
    cases op with
    | cancelPlan id => cases built
    | _ =>
      simp only [opBuilt,Option.some.injEq,Prod.mk.injEq] at built
      obtain ⟨first,rfl,rfl⟩ := built
      rw [← first]
      rfl
  rw [same,submitBuilt,ready]
  simp only [valid]

theorem preparedAcked {op plan rid ctx} (built : opBuilt op = some (.ok plan,rid,ctx)) :
    (prepare plan).status = .acked := by
  have created := createdStatus built
  simp only [prepare,created]
  rfl
theorem executedLaw (ok : Agreeing g) {log op a plan rid ctx} (built : opBuilt op = some (.ok plan,rid,ctx))
    (valid : validate plan ctx.config = .ok ()) (ready : g.adapter = some a) :
    StatusLaw A g log (.approved op) ↔
      (∀ s, recordedStatus g plan.planId = some s → upToAcked s = true) ∧
      fallsBack (adapterAnswer A a plan ctx) = false := by
  have step : callStep A g (.approved op) = execute A g a plan rid ctx := builtExecutes built valid ready
  have recorded := fun k => (executedStatuses (A := A) (g := g) a plan rid ctx k).1
  have store := fun k => (executedStatuses (A := A) (g := g) a plan rid ctx k).2
  have acked := preparedAcked built
  have back := lifecycleBefore (adapterAnswer A a plan ctx).1 (adapterAnswer A a plan ctx).2
  constructor
  · intro law
    have lawful := law.prepared ⟨prepare plan,(A.submitPlan a (prepare plan) ctx).2,_⟩ (by rw [step]; rfl)
    obtain ⟨before,t,here,after⟩ := lawful
    simp only [acked] at before after
    constructor
    · intro s old
      have there := ok.found plan.planId
      rw [old,Option.map_eq_some_iff] at there
      obtain ⟨p,stored,rfl⟩ := there
      exact (chainAcked _).mp (before p stored)
    · have now := (recorded plan.planId).trans (if_pos rfl)
      rw [← step] at now
      rw [← back,Option.some.inj (now.symm.trans here)]
      exact (ackedChain t).mp after
  · rintro ⟨early,onward⟩
    have onward := (ackedChain _).mpr (back.trans onward)
    refine ⟨?_,?_,?_,?_⟩
    · intro id s here done
      rw [step,recorded]
      split
      · next same =>
        subst same
        have stuck := chainTerminal ((chainAcked s).mpr (early s here)) done
        subst stuck
        cases done
      · exact here
    · intro id s here
      rw [step,recorded]
      split
      · next same =>
        subst same
        exact ⟨_,rfl,((chainAcked s).mpr (early s here)).trans onward⟩
      · exact ⟨s,here,.refl⟩
    · intro sub mem
      rw [step] at mem ⊢
      cases mem
      simp only [acked]
      refine ⟨?_,_,(recorded _).trans (if_pos rfl),onward⟩
      intro p stored
      refine (chainAcked _).mpr (early p.status ?_)
      rw [← ok.found]
      exact congrArg (Option.map _) stored
    · intro id
      rw [step,recorded,store,ok.found]

theorem cancelLaw (ok : Agreeing g) {log id} : StatusLaw A g log (.approved (.cancelPlan id)) ↔
    ∀ state, g.runtime.lookup id = some state → cancelGranted A g state = true →
      state.plan.status = .cancelled := by
  have store : ∀ k, findPlan (callStep A g (.approved (.cancelPlan id))).1 k = findPlan g k := by
    intro k
    exact congrArg (fun m => m.lookup k) (cancelKeepsKeys g id k).1
  have silent : (callStep A g (.approved (.cancelPlan id))).2.submission = none := (cancelSubmits g id).1
  constructor
  · intro law state known granted
    have found := law.found id
    have written : recordedStatus (callStep A g (.approved (.cancelPlan id))).1 id = some .cancelled :=
      (cancelStatuses known id).trans (if_pos ⟨rfl,granted⟩)
    rw [written,store,ok.found,recordedStatus,known] at found
    exact Option.some.inj found
  · intro only
    refine quietLaw ok ?_ store silent
    intro k
    cases known : g.runtime.lookup id with
    | none =>
      have same : cancelPlan A g id = (g,{cancel := some {planId := id, error := "unknown plan_id"}}) := by
        rw [cancelPlan,known]
      exact congrArg (fun x => recordedStatus x.1 k) same
    | some state =>
      refine (cancelStatuses known k).trans ?_
      split
      · next written =>
        obtain ⟨rfl,granted⟩ := written
        rw [recordedStatus,known,← only state known granted]
        rfl
      · rfl

theorem lawIffCareful (ok : Agreeing g) (log call) : StatusLaw A g log call ↔ Careful A g log call := by
  have submission : ∀ op, (∀ id, op ≠ .cancelPlan id) → (StatusLaw A g log (.approved op) ↔
      ∀ plan rid ctx a, opBuilt op = some (.ok plan,rid,ctx) → validate plan ctx.config = .ok () →
        g.adapter = some a →
        (∀ s, recordedStatus g plan.planId = some s → upToAcked s = true) ∧
        fallsBack (adapterAnswer A a plan ctx) = false) := by
    intro op other
    constructor
    · intro law plan rid ctx a built valid ready
      exact (executedLaw ok built valid ready).mp law
    · intro careful
      have handled := gatewayHandled (A := A) ok.ready op
      generalize after : (gatewayStep A g op).1 = g',answer : (gatewayStep A g op).2 = o at handled
      cases handled with
      | unplanned _ =>
        exact quietLaw ok (fun id => congrArg (recordedStatus · id) after)
          (fun id => congrArg (findPlan · id) after)
          (congrArg Outcome.submission answer)
      | refused _ _ =>
        exact quietLaw ok (fun id => congrArg (recordedStatus · id) after)
          (fun id => congrArg (findPlan · id) after)
          (congrArg Outcome.submission answer)
      | executed ready built valid =>
        exact (executedLaw ok built valid ready).mpr (careful _ _ _ _ built valid ready)
      | cancelled same => exact absurd same (other _)
  cases call with
  | approved op =>
    cases op with
    | submitApprovedIntent e ctx => exact submission _ (by simp)
    | submitApprovedDecision e ctx => exact submission _ (by simp)
    | cancelPlan id => exact cancelLaw ok
  | submit plan ctx =>
    refine iff_of_true (quietLaw ok ?_ ?_ ?_) trivial
    · intro id
      unfold callStep submit
      cases g.adapter <;> rfl
    · intro id
      unfold callStep submit
      cases g.adapter <;> rfl
    · unfold callStep submit
      cases g.adapter <;> rfl
  | poll => exact iff_of_true (quietLaw ok (fun _ => rfl) (fun _ => rfl) rfl) trivial

theorem callReady (ready : g.adapter.isSome = true) (call) : (callStep A g call).1.adapter.isSome = true := by
  cases call with
  | approved op => exact (handledSubmits ready (gatewayHandled ready op)).2
  | submit plan ctx =>
    obtain ⟨a,here⟩ := Option.isSome_iff_exists.mp ready
    simp [callStep,submit,here]
  | poll => exact ready
theorem lawAgrees (ok : Agreeing g) {log call} (law : StatusLaw A g log call) : Agreeing (callStep A g call).1 :=
  ⟨callReady ok.ready call,law.found⟩

end

/-! Whole runs. -/

section
variable {α : Type}

def StatusLawful (A : Adapter α) (a : α) (calls : List GatewayCall) : Prop :=
  Machine.Along (callStep A) (StatusLaw A) {adapter := some a} [] calls

theorem statusLawfulIff (A : Adapter α) (a : α) (calls : List GatewayCall) :
    StatusLawful A a calls ↔ Machine.Along (callStep A) (Careful A) {adapter := some a} [] calls := by
  have start : Agreeing ({adapter := some a} : Gateway α) := ⟨rfl,fun _ => rfl⟩
  constructor
  · exact Machine.alongImp (P := fun g _ => Agreeing g) (fun g log call ok law => lawAgrees ok law)
      (fun g log call ok => (lawIffCareful ok log call).mp) start
  · exact Machine.alongImp (P := fun g _ => Agreeing g)
      (fun g log call ok careful => lawAgrees ok ((lawIffCareful ok log call).mpr careful))
      (fun g log call ok => (lawIffCareful ok log call).mpr) start

end

def filledBook : MarketDepth.MarketStateSnapshot :=
  {entityId := "a", usableForDepth := true, asks := [⟨60,⟨0x3FF0000000000000⟩⟩]}
def filledThenCancelled : List GatewayCall :=
  [.approved (.submitApprovedIntent sampleEnvelope {nowNs := 10, snapshots := [filledBook]}),
    .approved (.cancelPlan (makePlanId sampleEnvelope))]
-- The paper plan is recorded as Filled; the cancel then succeeds and records Cancelled.
theorem cancelOverwritesFilled : ¬ StatusLawful ExecutionAdapters.paper [] filledThenCancelled := by
  intro lawful
  have changed : ∃ s, recordedStatus (callStep ExecutionAdapters.paper {adapter := some []}
        (.approved (.submitApprovedIntent sampleEnvelope {nowNs := 10, snapshots := [filledBook]}))).1
          (makePlanId sampleEnvelope) = some s ∧
      planTerminal s = true ∧ recordedStatus
        (callStep ExecutionAdapters.paper (callStep ExecutionAdapters.paper {adapter := some []}
        (.approved (.submitApprovedIntent sampleEnvelope {nowNs := 10, snapshots := [filledBook]}))).1
        (.approved (.cancelPlan (makePlanId sampleEnvelope)))).1 (makePlanId sampleEnvelope) ≠ some s :=
    ⟨.filled,by decide +kernel,rfl,by decide +kernel⟩
  obtain ⟨s,here,done,moved⟩ := changed
  exact moved (lawful.2.1.final _ s here done)

end Polytope.PlanLifecycle
