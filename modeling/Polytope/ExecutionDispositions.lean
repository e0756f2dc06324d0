import Polytope.ExecutionSubmissions

/-! Reservation dispositions over whole runs. The gateway settles a reservation inside the
submit call, from the adapter's answer and the reports polled right after it; a planner
refusal and a cancel settle nothing. What is filled or live at the venue is read off the
reports the adapter gave for the plan. -/
namespace Polytope.ExecutionDispositions
open ExecutionTypes ExecutionPlanner ExecutionState ExecutionGateway ExecutionSubmissions
open FixedPointMath (i64Max)

def ownReports (s : Submission) : List ExecutionReport :=
  s.reports.filter fun r => decide (r.planId = s.plan.planId)
def filledLots (s : Submission) (o : ChildOrder) : Int := reportedLots (ownReports s) o.orderId
def liveAtVenue (s : Submission) (o : ChildOrder) : Bool :=
  match ((ownReports s).filter fun r => decide (r.childOrderId = o.orderId)).getLast? with
  | some r => !orderTerminal r.status
  | none => false
def AllFilled (s : Submission) : Prop := ∀ o ∈ s.plan.orders, o.quantityLots ≤ filledLots s o
def Untouched (s : Submission) : Prop := ∀ o ∈ s.plan.orders, filledLots s o = 0 ∧ liveAtVenue s o = false

/-! The law. -/

def finalStatus {α : Type} (g : Gateway α) (o : Outcome) : PlanStatus :=
  match o.submission with
  | none => o.result.status
  | some s => ((g.runtime.lookup s.plan.planId).map (·.plan.status)).getD o.result.status
-- The dispositions an envelope gets: in its own call, or in a cancel of its plan.
def settlements (log : GatewayLog) (o : Outcome) : List ReservationDisposition :=
  o.dispositions ++ log.flatMap fun y => if y.1 = .cancelPlan o.result.planId then y.2.dispositions else []
def opReservation (op : GatewayOp) : Option String := (opBuilt op).map (·.2.1)
structure Lawful (d : ReservationDisposition) (op : GatewayOp) (o : Outcome) : Prop where
  reservation : opReservation op = some d.reservationId
  consume : d.type = .consume → ∃ s, o.submission = some s ∧ AllFilled s
  release : d.type = .release → ∀ s, o.submission = some s → Untouched s
def DispositionLaw {α : Type} (g : Gateway α) (log : GatewayLog) : Prop :=
  ∀ x ∈ log, (opBuilt x.1).isSome = true → planTerminal (finalStatus g x.2) = true →
    ∃ d, settlements log x.2 = [d] ∧ Lawful d x.1 x.2

/-! When it holds. -/

def Failing (r : AdapterSubmitResult) : Prop :=
  r.status ≠ .partiallyFilled ∧
    (r.ok = false ∨ r.status = .failed ∨ 0 < r.childOrdersRejected ∨ r.status = .cancelled ∨ r.status = .expired)
structure Faithful (s : Submission) : Prop where
  own : ∀ r ∈ s.reports, r.planId = s.plan.planId
  fit : ∀ o ∈ s.plan.orders, filledLots s o ≤ i64Max
  filled : s.result.status = .filled → s.result.ok = true → s.result.childOrdersRejected = 0 →
    ∃ o ∈ s.plan.orders, filledLots s o ≠ 0
  unfilled : Failing s.result → s.result.status ≠ .filled → ∃ o ∈ s.plan.orders, filledLots s o < o.quantityLots
  dead : Failing s.result → (∀ o ∈ s.plan.orders, filledLots s o = 0) →
    ∀ o ∈ s.plan.orders, liveAtVenue s o = false
def planned (op : GatewayOp) : Bool :=
  match opBuilt op with
  | some (.error _,_,_) => false
  | _ => true
def CancelSettled {α : Type} (A : Adapter α) (g : Gateway α) (id : UInt64) : Prop :=
  ∀ state ∈ g.runtime.lookup id, planTerminal state.plan.status = false → (cancelOpenOrders A g state).2.ok = false
def Orderly {α : Type} (A : Adapter α) (g : Gateway α) (_ : GatewayLog) (op : GatewayOp) : Prop :=
  planned op = true ∧ (∀ s ∈ (gatewayStep A g op).2.submission, s.plan.planId ∉ g.runtime ∧ Faithful s) ∧
  match op with
  | .cancelPlan id => CancelSettled A g id
  | _ => True

instance (r) : Decidable (Failing r) := by
  unfold Failing
  infer_instance
instance (s) : Decidable (Faithful s) :=
  decidable_of_iff ((∀ r ∈ s.reports, r.planId = s.plan.planId) ∧ (∀ o ∈ s.plan.orders, filledLots s o ≤ i64Max) ∧
    (s.result.status = .filled → s.result.ok = true → s.result.childOrdersRejected = 0 →
      ∃ o ∈ s.plan.orders, filledLots s o ≠ 0) ∧
    (Failing s.result → s.result.status ≠ .filled → ∃ o ∈ s.plan.orders, filledLots s o < o.quantityLots) ∧
    (Failing s.result → (∀ o ∈ s.plan.orders, filledLots s o = 0) → ∀ o ∈ s.plan.orders, liveAtVenue s o = false))
    ⟨fun h => ⟨h.1,h.2.1,h.2.2.1,h.2.2.2.1,h.2.2.2.2⟩,fun h => ⟨h.own,h.fit,h.filled,h.unfilled,h.dead⟩⟩
instance {α : Type} (A : Adapter α) (g id) : Decidable (CancelSettled A g id) := by
  unfold CancelSettled
  infer_instance
instance {α : Type} (A : Adapter α) (g log op) : Decidable (Orderly A g log op) := by
  unfold Orderly
  cases op <;> infer_instance

/-! One submission. -/

theorem ownReportsAll {s : Submission} (own : ∀ r ∈ s.reports, r.planId = s.plan.planId) :
    ownReports s = s.reports := by
  rw [ownReports,List.filter_eq_self]
  intro r mem
  simpa using own r mem

theorem passTracker (reports : List ExecutionReport) (p : ReportPass) :
    (reports.foldl applyReport p).fillTracker = reports.foldl FillTracker.apply p.fillTracker := by
  induction reports generalizing p with
  | nil => rfl
  | cons r rest ih =>
    have step : (applyReport p r).fillTracker = p.fillTracker.apply r := by
      unfold applyReport reportOrder
      simp only
      split <;> rfl
    rw [List.foldl_cons,List.foldl_cons,ih,step]

theorem lifecycleShape (r : AdapterSubmitResult) (s : PlanFillState) :
    applyPlanLifecycle r s = .hedgeRequired ∨
    (applyPlanLifecycle r s = .filled ∧ s.allFilled = true) ∨
    applyPlanLifecycle r s = .partiallyFilled ∨
    (decidePartialFill s ≠ .hedgeRequired ∧ (r.status = .filled → s.allFilled = false) ∧
      r.status ≠ .partiallyFilled ∧
      s.anyPartial = false ∧
      ((applyPlanLifecycle r s = .failed ∧ (r.ok = false ∨ r.status = .failed ∨ 0 < r.childOrdersRejected)) ∨
        (applyPlanLifecycle r s = r.status ∧ r.ok = true ∧ r.status ≠ .failed ∧ r.childOrdersRejected = 0))) := by
  unfold applyPlanLifecycle
  split
  · exact .inl rfl
  · next unhedged =>
    split
    · next filled => exact .inr (.inl ⟨rfl,filled.2⟩)
    · next unfilled =>
      have short : r.status = .filled → s.allFilled = false := by
        intro filled
        simpa [filled] using unfilled
      split
      · exact .inr (.inr (.inl rfl))
      · next complete =>
        rw [not_or,Bool.not_eq_true] at complete
        refine .inr (.inr (.inr ⟨unhedged,short,complete.1,complete.2,?_⟩))
        split
        · next failing => exact .inl ⟨rfl,failing⟩
        · next passing =>
          rw [not_or,not_or,Bool.not_eq_false,not_lt,Nat.le_zero] at passing
          exact .inr ⟨rfl,passing⟩

section Tracked
variable {plan : OrderPlan} (ok : Trackable plan) {reports : List ExecutionReport}
  (fit : ∀ o ∈ plan.orders, reportedLots reports o.orderId ≤ i64Max)
include ok fit

theorem trackedWhole (unhedged : decidePartialFill (tracked plan reports) ≠ .hedgeRequired)
    (complete : (tracked plan reports).anyPartial = false) (any : (tracked plan reports).anyFilled = true) :
    (tracked plan reports).allFilled = true := by
  by_contra missing
  rw [Bool.not_eq_true] at missing
  obtain ⟨o,mem,some⟩ := (trackedAny ok fit).mp any
  have length := trackedLength ok fit
  have few : plan.orders.length ≤ 1 := by
    by_contra several
    apply unhedged
    simp [decidePartialFill,any,missing]
    omega
  have one : plan.orders.length = 1 := by
    have := List.length_pos_of_mem mem
    omega
  obtain ⟨only,single⟩ := List.length_eq_one_iff.mp one
  have same : o = only := by simpa [single] using mem
  have short : ¬ reportedLots reports o.orderId < o.quantityLots := by
    intro short
    have partially := (trackedPartial ok fit).mpr ⟨o,mem,some,short⟩
    rw [complete] at partially
    cases partially
  refine absurd ((trackedAll ok fit).mpr ?_) (by simp [missing])
  intro x there
  have : x = o := by simpa [single,same] using there
  subst this
  omega

theorem lifecycleTerminal (r : AdapterSubmitResult)
    (done : planTerminal (applyPlanLifecycle r (tracked plan reports)) = true) :
    (applyPlanLifecycle r (tracked plan reports) = .filled ∧ (tracked plan reports).allFilled = true) ∨
    (releaseReservation (applyPlanLifecycle r (tracked plan reports)) = true ∧ Failing r ∧
      (r.status = .filled → (tracked plan reports).allFilled = false) ∧
      ((tracked plan reports).anyFilled = true → (tracked plan reports).allFilled = true)) ∨
    (r.status = .filled ∧ r.ok = true ∧ r.childOrdersRejected = 0 ∧ (tracked plan reports).anyFilled = false) := by
  rcases lifecycleShape r (tracked plan reports) with hedge | filled | partially |
    ⟨unhedged,short,pending,complete,rest⟩
  · rw [hedge] at done
    cases done
  · exact .inl filled
  · rw [partially] at done
    cases done
  · have whole := trackedWhole ok fit unhedged complete
    rcases rest with ⟨failed,failing⟩ | ⟨same,passing,unfailed,accepted⟩
    · refine .inr (.inl ⟨by rw [failed]; rfl,⟨pending,?_⟩,short,whole⟩)
      rcases failing with bad | bad | bad
      · exact .inl bad
      · exact .inr (.inl bad)
      · exact .inr (.inr (.inl bad))
    · rw [same] at done ⊢
      cases status : r.status with
      | filled =>
        refine .inr (.inr ⟨rfl,passing,accepted,?_⟩)
        by_contra any
        rw [Bool.not_eq_false] at any
        have all := whole any
        rw [short status] at all
        cases all
      | cancelled => exact .inr (.inl ⟨rfl,⟨pending,by simp [status]⟩,by simp,whole⟩)
      | expired => exact .inr (.inl ⟨rfl,⟨pending,by simp [status]⟩,by simp,whole⟩)
      | failed => exact absurd status unfailed
      | created => rw [status] at done; cases done
      | planned => rw [status] at done; cases done
      | sent => rw [status] at done; cases done
      | acked => rw [status] at done; cases done
      | partiallyFilled => rw [status] at done; cases done
      | hedgeRequired => rw [status] at done; cases done
      | cancelRequested => rw [status] at done; cases done

end Tracked

theorem settledTerminal {s : Submission} (ok : Trackable s.plan) (faithful : Faithful s)
    (done : planTerminal (applyPlanLifecycle s.result (tracked s.plan s.reports)) = true) :
    (applyPlanLifecycle s.result (tracked s.plan s.reports) = .filled ∧
      (tracked s.plan s.reports).allFilled = true ∧
      AllFilled s) ∨
    (releaseReservation (applyPlanLifecycle s.result (tracked s.plan s.reports)) = true ∧ Untouched s) := by
  have own : ∀ o, filledLots s o = reportedLots s.reports o.orderId := by
    intro o
    rw [filledLots,ownReportsAll faithful.own]
  have fit : ∀ o ∈ s.plan.orders, reportedLots s.reports o.orderId ≤ i64Max := by
    intro o mem
    rw [← own]
    exact faithful.fit o mem
  have all := trackedAll ok fit
  have any := trackedAny ok fit
  simp only [← own] at all any
  rcases lifecycleTerminal ok fit s.result done with
    ⟨filled,whole⟩ | ⟨release,failing,short,whole⟩ | ⟨filled,passing,accepted,none⟩
  · exact .inl ⟨filled,whole,all.mp whole⟩
  · have idle : ∀ o ∈ s.plan.orders, filledLots s o = 0 := by
      intro o mem
      have nonneg := reportedNonneg s.reports o.orderId
      rw [← own] at nonneg
      by_contra some
      have filled := whole (any.mpr ⟨o,mem,by omega⟩)
      have unfinished : s.result.status ≠ .filled := by
        intro status
        rw [short status] at filled
        cases filled
      obtain ⟨x,there,less⟩ := faithful.unfilled failing unfinished
      have := all.mp filled x there
      omega
    exact .inr ⟨release,fun o mem => ⟨idle o mem,faithful.dead failing idle o mem⟩⟩
  · obtain ⟨o,mem,some⟩ := faithful.filled filled passing accepted
    have nonneg := reportedNonneg s.reports o.orderId
    rw [← own] at nonneg
    have := any.mpr ⟨o,mem,by omega⟩
    rw [none] at this
    cases this

section
variable {α : Type} {A : Adapter α}

theorem executeOutcome (g : Gateway α) (a plan rid ctx) :
    ∃ s state, (execute A g a plan rid ctx).2.submission = some s ∧ s.plan = prepare plan ∧
      (execute A g a plan rid ctx).1.runtime = g.runtime.insert s.plan.planId state ∧
      state.plan.status = applyPlanLifecycle s.result (tracked s.plan s.reports) ∧
      (execute A g a plan rid ctx).1.hasReservationPublisher = g.hasReservationPublisher ∧
      (execute A g a plan rid ctx).2.dispositions =
        if consumeReservation state.plan.status (tracked s.plan s.reports) then
          disposition g.hasReservationPublisher rid s.plan.planId .consume "paper plan filled"
        else if releaseReservation state.plan.status then
          disposition g.hasReservationPublisher rid s.plan.planId .release
            (if s.result.error = "" then "execution failed" else s.result.error)
        else [] := by
  refine ⟨_,_,rfl,rfl,rfl,?_,rfl,?_⟩
  · simp only [tracked,passTracker]
  · simp only [execute,tracked,passTracker]

theorem executeLawful {g : Gateway α} {op a plan rid ctx} (present : g.hasReservationPublisher = true)
    (built : opBuilt op = some (.ok plan,rid,ctx)) (ok : Trackable (prepare plan))
    (faithful : ∀ s ∈ (execute A g a plan rid ctx).2.submission, Faithful s)
    (done : planTerminal (finalStatus (execute A g a plan rid ctx).1 (execute A g a plan rid ctx).2) = true) :
    ∃ d, (execute A g a plan rid ctx).2.dispositions = [d] ∧ Lawful d op (execute A g a plan rid ctx).2 := by
  obtain ⟨s,state,here,shape,runtime,status,_,dispositions⟩ := executeOutcome (A := A) g a plan rid ctx
  have reservation : opReservation op = some rid := by rw [opReservation,built]; rfl
  simp only [finalStatus,here,runtime,AList.lookup_insert,Option.map_some,Option.getD_some] at done
  rw [status] at done dispositions
  rw [present] at dispositions
  rcases settledTerminal (by rwa [shape]) (faithful s here) done with ⟨filled,whole,all⟩ | ⟨release,untouched⟩
  · rw [filled,consumeReservation,whole] at dispositions
    refine ⟨_,dispositions,reservation,fun _ => ⟨s,here,all⟩,?_⟩
    intro released
    cases released
  · have kept : consumeReservation (applyPlanLifecycle s.result (tracked s.plan s.reports))
      (tracked s.plan s.reports) =
        false := by
      unfold releaseReservation at release
      unfold consumeReservation
      simp only [decide_eq_true_eq] at release
      rcases release with same | same | same <;> simp [same]
    rw [kept,release] at dispositions
    refine ⟨_,dispositions,reservation,?_,?_⟩
    · intro consumed
      cases consumed
    · intro _ t same
      rw [here] at same
      cases Option.some.inj same
      exact untouched

theorem plannedTrackable {op plan rid ctx} (built : opBuilt op = some (.ok plan,rid,ctx))
    (valid : validate plan ctx.config = .ok ()) : Trackable (prepare plan) := by
  obtain ⟨some,few,positive⟩ := validatePlan valid
  have unique : (plan.orders.map (·.orderId)).Nodup := by
    cases op with
    | submitApprovedIntent e c =>
      simp only [opBuilt,Option.some.injEq,Prod.mk.injEq] at built
      exact buildPlanUnique built.1
    | submitApprovedDecision e c =>
      simp only [opBuilt,Option.some.injEq,Prod.mk.injEq] at built
      exact buildDecisionPlanUnique built.1
    | cancelPlan id => cases built
  refine ⟨by simpa [prepare] using some,by simpa [prepare] using few,?_,?_⟩
  · simpa [prepare,List.map_map,Function.comp_def] using unique
  · intro o mem
    obtain ⟨x,there,rfl⟩ := List.mem_map.mp mem
    exact positive x there

/-! The run. -/

structure Settled (g : Gateway α) (log : GatewayLog) : Prop where
  recorded : Recorded g log
  present : g.hasReservationPublisher = true
  known : ∀ x ∈ log, ∀ s ∈ x.2.submission, s.plan.planId ∈ g.runtime
  silent : ∀ x ∈ log, opBuilt x.1 = none → x.2.dispositions = []
  lawful : ∀ x ∈ log, (opBuilt x.1).isSome = true → planTerminal (finalStatus g x.2) = true →
    ∃ d, x.2.dispositions = [d] ∧ Lawful d x.1 x.2

theorem settlementsOwn {log : GatewayLog} (silent : ∀ x ∈ log, opBuilt x.1 = none → x.2.dispositions = []) (o) :
    settlements log o = o.dispositions := by
  have none : (log.flatMap fun y => if y.1 = .cancelPlan o.result.planId then y.2.dispositions else []) = [] := by
    rw [List.flatMap_eq_nil_iff]
    intro y mem
    split
    · next cancel => exact silent y mem (by rw [cancel]; rfl)
    · rfl
  rw [settlements,none,List.append_nil]

theorem finalStatusCongr {g g' : Gateway α} {o : Outcome}
    (same : ∀ s ∈ o.submission, g'.runtime.lookup s.plan.planId = g.runtime.lookup s.plan.planId) :
    finalStatus g' o = finalStatus g o := by
  unfold finalStatus
  cases here : o.submission with
  | none => rfl
  | some s => simp only [same s here]

theorem cancelFinal {g : Gateway α} {id} (settled : CancelSettled A g id) {o : Outcome}
    (done : planTerminal (finalStatus (cancelPlan A g id).1 o) = true) :
    planTerminal (finalStatus g o) = true := by
  unfold cancelPlan at done
  split at done
  · exact done
  · next state found =>
    simp only at done
    cases here : o.submission with
    | none =>
      unfold finalStatus at done ⊢
      rw [here] at done ⊢
      exact done
    | some s =>
      by_cases other : s.plan.planId = id
      · subst other
        unfold finalStatus at done ⊢
        rw [here] at done ⊢
        simp only [AList.lookup_insert,found,Option.map_some,Option.getD_some] at done ⊢
        cases ok : (cancelOpenOrders A g state).2.ok with
        | false =>
          rw [ok] at done
          exact done
        | true =>
          by_contra pending
          rw [Bool.not_eq_true] at pending
          rw [settled state found pending] at ok
          cases ok
      · rw [finalStatusCongr (g := g)] at done
        · exact done
        · intro t mem
          rw [here] at mem
          cases Option.some.inj mem
          exact AList.lookup_insert_ne other

theorem settledAppend {g g' : Gateway α} {log op o} (ok : Settled g log) (recorded : Recorded g' (log ++ [(op,o)]))
    (present : g'.hasReservationPublisher = true) (grows : ∀ id ∈ g.runtime, id ∈ g'.runtime)
    (known : ∀ s ∈ o.submission, s.plan.planId ∈ g'.runtime) (silent : opBuilt op = none → o.dispositions = [])
    (old : ∀ x ∈ log, planTerminal (finalStatus g' x.2) = true → planTerminal (finalStatus g x.2) = true)
    (new : (opBuilt op).isSome = true → planTerminal (finalStatus g' o) = true →
      ∃ d, o.dispositions = [d] ∧ Lawful d op o) : Settled g' (log ++ [(op,o)]) := by
  refine ⟨recorded,present,?_,?_,?_⟩
  · intro x mem s here
    rcases List.mem_append.mp mem with before | last
    · exact grows _ (ok.known x before s here)
    · cases List.mem_singleton.mp last
      exact known s here
  · intro x mem none
    rcases List.mem_append.mp mem with before | last
    · exact ok.silent x before none
    · cases List.mem_singleton.mp last
      exact silent none
  · intro x mem call done
    rcases List.mem_append.mp mem with before | last
    · exact ok.lawful x before call (old x before done)
    · cases List.mem_singleton.mp last
      exact new call done

theorem settledStep {g : Gateway α} {log op} (ok : Settled g log) (orderly : Orderly A g log op) :
    Settled (gatewayStep A g op).1 (log ++ [(op,(gatewayStep A g op).2)]) := by
  obtain ⟨built,adapter,cancels⟩ := orderly
  have handled := gatewayHandled (A := A) ok.recorded.ready op
  have recorded := recordedStep (A := A) op ok.recorded
  generalize (gatewayStep A g op).1 = g',(gatewayStep A g op).2 = o at *
  cases handled with
  | unplanned refused =>
    rw [planned,refused] at built
    cases built
  | @refused plan error rid ctx here invalid =>
    refine settledAppend ok recorded ok.present (fun _ mem => mem) (by simp) (fun none => ?_)
      (fun _ _ done => done) (fun _ _ => ?_)
    · rw [here] at none
      cases none
    · rw [ok.present]
      refine ⟨_,rfl,by rw [opReservation,here]; rfl,?_,by simp⟩
      intro consumed
      cases consumed
  | @executed a plan rid ctx ready here valid =>
    obtain ⟨s,state,sent,_,runtime,_,publisher,_⟩ := executeOutcome (A := A) g a plan rid ctx
    refine settledAppend ok recorded (publisher.trans ok.present) ?_ ?_ (fun none => ?_) ?_ ?_
    · intro id mem
      rw [runtime]
      exact (AList.mem_insert _).mpr (.inr mem)
    · intro t there
      rw [sent] at there
      cases Option.some.inj there
      rw [runtime]
      exact (AList.mem_insert _).mpr (.inl rfl)
    · rw [here] at none
      cases none
    · intro x mem done
      rwa [finalStatusCongr (g := g)] at done
      intro t there
      rw [runtime]
      refine AList.lookup_insert_ne fun same => ?_
      have fresh := (adapter s sent).1
      rw [← same] at fresh
      exact fresh (ok.known x mem t there)
    · intro _ done
      exact executeLawful ok.present here (plannedTrackable here valid) (fun t there => (adapter t there).2) done
  | @cancelled id same =>
    subst same
    obtain ⟨none,silent⟩ := cancelSubmits (A := A) g id
    refine settledAppend ok recorded ?_ ?_ (by simp [none]) (fun _ => silent) ?_ ?_
    · rw [← ok.present]
      unfold cancelPlan
      split <;> rfl
    · exact fun k mem => (cancelKeepsKeys g id k).2.mpr mem
    · exact fun _ _ done => cancelFinal cancels done
    · intro call
      cases call

theorem settledInitial (a : α) : Settled {adapter := some a} [] :=
  ⟨recordedInitial a,rfl,by simp,by simp,by simp⟩

theorem dispositionLawHolds (A : Adapter α) (a : α) (ops : List GatewayOp)
    (orderly : Machine.Along (gatewayStep A) (Orderly A) {adapter := some a} [] ops) :
    DispositionLaw (runGateway A a ops).1 (runGateway A a ops).2 := by
  have settled : Settled (runGateway A a ops).1 (runGateway A a ops).2 :=
    Machine.invariantAlong (fun _ _ _ ok step => settledStep ok step) (settledInitial a) orderly
  intro x mem call done
  rw [settlementsOwn settled.silent]
  exact settled.lawful x mem call done

end

def sampleBook : MarketDepth.MarketStateSnapshot :=
  {entityId := "a", usableForDepth := true, asks := [⟨60,⟨0x3FF0000000000000⟩⟩]}
theorem paperFillConsumes :
    DispositionLaw
      (runGateway ExecutionAdapters.paper []
        [.submitApprovedIntent sampleEnvelope {nowNs := 10, snapshots := [sampleBook]}]).1
      (runGateway ExecutionAdapters.paper []
        [.submitApprovedIntent sampleEnvelope {nowNs := 10, snapshots := [sampleBook]}]).2 :=
  dispositionLawHolds ExecutionAdapters.paper [] _ (by decide +kernel)

def pairEnvelope : ApprovedIntentEnvelope :=
  {sampleEnvelope with
    sourceIntent := {sampleEnvelope.sourceIntent with
      legs := [{marketId := "m", assetId := "a", quantityLots := 1, worstPriceTick := 60},
        {marketId := "m", assetId := "b", quantityLots := 1, worstPriceTick := 60}]}}
def firstOnly : ExecutionAdapters.LiveBridge Nat where
  signOrder n _ := (n,{ok := true, requestBodyJson := "order"})
  submitOrder n _ := (n + 1,if n = 0 then {ok := true, venueOrderId := "v"} else {error := "rejected"})
  cancelOrder n _ := (n,{ok := true})
def liveContext : ExecutionContext :=
  {nowNs := 10, config := {mode := .live, executionEnabled := true, liveEnabled := true}}
def partlyAccepted : Gateway (ExecutionAdapters.LiveState Nat) × GatewayLog :=
  runGateway (ExecutionAdapters.live firstOnly {enabled := true, maxChildOrdersPerPlan := 2}) {bridge := 0}
    [.submitApprovedIntent pairEnvelope liveContext]
def expiredEnvelope : Gateway (List ExecutionReport) × GatewayLog :=
  runGateway ExecutionAdapters.paper [] [.submitApprovedIntent sampleEnvelope {nowNs := 1000}]

-- The reservation is released while the first order rests at the venue, and an envelope the
-- planner refuses is never settled.
theorem dispositionLawBroken :
    ¬ DispositionLaw partlyAccepted.1 partlyAccepted.2 ∧ ¬ DispositionLaw expiredEnvelope.1 expiredEnvelope.2 := by
  constructor
  · intro law
    have entry : ∃ x ∈ partlyAccepted.2, (opBuilt x.1).isSome = true ∧
        planTerminal (finalStatus partlyAccepted.1 x.2) = true ∧
        (settlements partlyAccepted.2 x.2).all (fun d => decide (d.type = .release)) = true ∧
        ∃ s ∈ x.2.submission, ∃ o ∈ s.plan.orders, liveAtVenue s o = true := by decide +kernel
    obtain ⟨x,mem,call,done,released,s,sent,o,there,live⟩ := entry
    obtain ⟨d,one,lawful⟩ := law x mem call done
    rw [one] at released
    have untouched := lawful.release (by simpa using released) s sent o there
    rw [live] at untouched
    cases untouched.2
  · intro law
    have entry : ∃ x ∈ expiredEnvelope.2, (opBuilt x.1).isSome = true ∧
        planTerminal (finalStatus expiredEnvelope.1 x.2) = true ∧ settlements expiredEnvelope.2 x.2 = [] := by
      decide +kernel
    obtain ⟨x,mem,call,done,none⟩ := entry
    obtain ⟨d,one,_⟩ := law x mem call done
    rw [none] at one
    cases one

end Polytope.ExecutionDispositions
