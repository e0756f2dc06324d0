import Polytope.Pipeline
import Polytope.ReservationLedger

/-! Everything one evaluation can do, said once. An evaluation ends before the stateful
guards, at the duplicate guard, at the rate guard, behind both of them, or with an approval;
only the last one touches the reservation book, and the guards keep their new state in the
last three cases whatever the later stages decide. -/
namespace Polytope.RiskEvaluation
open RiskTypes CostRevalidator RiskGuards Reservation Pipeline
open Intent (OpportunityIntent IntentLeg evidence)

section Stage
variable {i : OpportunityIntent} {full : Bool} {code : RiskAuditStepCode} {cost : CostRevalidationResult}
  {v : Verdict} {r out : RiskPipelineResult}

theorem stageOk (h : stage i full code cost v r = .ok out) :
    v.pass = true ∧ out = addStep r code true .pass "" full := by
  unfold stage at h
  split at h
  · next pass =>
    cases h
    exact ⟨pass,rfl⟩
  · cases h
theorem stageError (h : stage i full code cost v r = .error out) :
    v.pass = false ∧ out = rejectResult i v.rejectReason v.detail cost
      (addStep r code false v.rejection v.detail full) := by
  unfold stage at h
  split at h
  · cases h
  · next fail =>
    cases h
    exact ⟨by simpa using fail,rfl⟩

end Stage

@[simp] theorem rejectResultApproved (i reason detail cost r) :
    (rejectResult i reason detail cost r).decision.approved = false := rfl
@[simp] theorem rejectResultReason (i reason detail cost r) :
    (rejectResult i reason detail cost r).decision.rejectReason = reason := rfl

/-! The audit trace of an evaluation tells which checks let it pass. -/

def passed (code : RiskAuditStepCode) (r : RiskPipelineResult) : Bool :=
  r.auditTrace.lite.any fun s => decide (s.step = code) && s.pass
def Unmarked (r : RiskPipelineResult) : Prop := passed .duplicateGuard r = false ∧ passed .rateLimitGuard r = false

section Trace
variable {c code : RiskAuditStepCode} {r : RiskPipelineResult}

theorem addStepKeeps {pass rejection reason full} (before : passed c r = true) :
    passed c (addStep r code pass rejection reason full) = true := by
  unfold passed addStep at *
  simp only
  split
  · rw [List.any_append,before,Bool.true_or]
  · exact before
theorem addStepOther {pass rejection reason full} (other : code ≠ c ∨ pass = false) :
    passed c (addStep r code pass rejection reason full) = passed c r := by
  have new : (decide (code = c) && pass) = false := by
    rcases other with apart | failed
    · simp [apart]
    · simp [failed]
  unfold passed addStep
  simp only
  split
  · simp [new]
  · rfl
theorem addStepMarks {rejection reason full} (room : r.auditTrace.lite.length < kMaxRiskAuditSteps) :
    passed code (addStep r code true rejection reason full) = true := by
  simp [passed,addStep,room]

theorem withDecisionLite (r d hash) : (withDecision r d hash).auditTrace.lite = r.auditTrace.lite := rfl
theorem rejectResultPassed (i reason detail cost) :
    passed c (rejectResult i reason detail cost r) = passed c r := by
  unfold passed rejectResult
  rw [withDecisionLite]
theorem approveResultPassed (i input cost reservation) :
    passed c (approveResult i input cost reservation r) = passed c r := by
  have lite : (approveResult i input cost reservation r).auditTrace.lite = r.auditTrace.lite := withDecisionLite ..
  rw [passed,lite,passed]

theorem stageKeeps {i full cost v} (before : passed c r = true) :
    passed c (Machine.settled (stage i full code cost v r)) = true := by
  unfold stage
  split
  · exact addStepKeeps before
  · exact (rejectResultPassed ..).trans (addStepKeeps before)
theorem stageUnmarked {i full cost v} (duplicate : code ≠ .duplicateGuard) (rate : code ≠ .rateLimitGuard)
    (before : Unmarked r) : Unmarked (Machine.settled (stage i full code cost v r)) := by
  unfold stage
  split
  · exact ⟨(addStepOther (.inl duplicate)).trans before.1,(addStepOther (.inl rate)).trans before.2⟩
  · exact ⟨(rejectResultPassed ..).trans ((addStepOther (.inl duplicate)).trans before.1),
      (rejectResultPassed ..).trans ((addStepOther (.inl rate)).trans before.2)⟩

end Trace

theorem entryUnmarked (i input full) : Unmarked (Machine.settled (entryStages i input full)) := by
  unfold entryStages
  simp only
  split
  · exact ⟨rfl,rfl⟩
  · have start : Unmarked (initTrace {result := {intentsEvaluated := 1}} i (effectivePolicy input)) := ⟨rfl,rfl⟩
    refine Machine.bindSettled (stageUnmarked (by decide) (by decide) start) fun _ h => ?_
    refine Machine.bindSettled (stageUnmarked (by decide) (by decide) h) fun _ h => ?_
    refine Machine.bindSettled (stageUnmarked (by decide) (by decide) h) fun _ h => ?_
    exact stageUnmarked (by decide) (by decide) h

theorem marketKeeps {c r} (i input ledger full) (before : passed c r = true) :
    passed c (Machine.settled (marketStages i input ledger full r)) = true := by
  unfold marketStages
  have legs : ∀ acc leg, passed c acc = true →
    passed c (Machine.settled (legStages i input full acc leg)) = true :=
    fun acc leg h => Machine.bindSettled (P := (passed c · = true)) (stageKeeps h) fun _ h => stageKeeps h
  refine Machine.bindSettled (P := (passed c · = true)) (Machine.loopSettled legs before i.legs) fun r h => ?_
  have counted : passed c (countCostMode (revalidatedCost i input) r) = true := h
  refine Machine.bindSettled (P := (passed c · = true)) (stageKeeps counted) fun _ h => ?_
  refine Machine.bindSettled (P := (passed c · = true)) (stageKeeps h) fun _ h => ?_
  refine Machine.bindSettled (P := (passed c · = true)) (stageKeeps h) fun _ h => ?_
  refine Machine.bindSettled (P := (passed c · = true)) (stageKeeps h) fun _ h => ?_
  refine Machine.bindSettled (P := (passed c · = true)) (stageKeeps h) fun _ h => ?_
  exact stageKeeps h

theorem reserveKeeps {c r} (i input full book) (before : passed c r = true) :
    passed c (reserveStage i input full book r).2 = true := by
  unfold reserveStage
  split
  · exact (rejectResultPassed ..).trans (addStepKeeps before)
  · next b =>
    have attempted : passed c {r with
        reservationAttempted := true, reservation := (reservationFor b i input).2} = true := before
    simp only
    split
    · exact (approveResultPassed ..).trans (addStepKeeps attempted)
    · exact (rejectResultPassed ..).trans (addStepKeeps attempted)
theorem laterKeeps {c r} (i input full book) (before : passed c r = true) :
    passed c (laterStages i input full book r).2 = true := by
  have market := marketKeeps i input (input.ledger.getD {}) full before
  unfold laterStages
  split
  · next refused stopped =>
    rw [stopped] at market
    exact market
  · next through went =>
    rw [went] at market
    exact reserveKeeps i input full book market

def Refused (r : RiskPipelineResult) : Prop :=
  r.decision.approved = false ∧ r.decision.rejectReason ≠ .duplicateIntent ∧
    r.decision.rejectReason ≠ .duplicateReservation ∧ r.decision.rejectReason ≠ .approvalRateLimit

def Uncharged (v : Verdict) : Prop :=
  v.rejectReason ≠ .duplicateIntent ∧ v.rejectReason ≠ .duplicateReservation ∧ v.rejectReason ≠ .approvalRateLimit

theorem stageRefused {i full code cost v r out} (h : stage i full code cost v r = .error out) (un : Uncharged v) :
    Refused out := by
  obtain ⟨_,rfl⟩ := stageError h
  exact ⟨rfl,un⟩

theorem reasonUncharged {t} (un : ¬ Charged t) :
    rejectReasonFor t ≠ .duplicateIntent ∧ rejectReasonFor t ≠ .duplicateReservation ∧
    rejectReasonFor t ≠ .approvalRateLimit := by
  revert un
  cases t <;> decide
theorem guardUncharged {g} (un : ¬ Charged g.rejection) : Uncharged (guardVerdict g) := reasonUncharged un
theorem freshUncharged {g} (un : ¬ Charged g.rejection) : Uncharged (freshnessVerdict g) := by
  have reason := reasonUncharged un
  unfold Uncharged freshnessVerdict
  simp only
  split
  · decide
  · exact reason
theorem costUncharged (i input) (bad : (revalidatedCost i input).ok = false) :
    Uncharged (costVerdict (revalidatedCost i input)) := by
  apply reasonUncharged
  have kinds : DepthRejection (revalidatedCost i input).rejection ∨
      (revalidatedCost i input).rejection = .rejectCostDrift := by
    unfold revalidatedCost at bad ⊢
    split at bad
    · next views =>
      rw [if_pos views]
      exact revalidateRefused (depthViewRefuses _) bad
    · next views =>
      rw [if_neg views]
      exact revalidateRefused (snapshotRefuses _) bad
  rcases kinds with (short | short) | drift
  · simp [short,Charged]
  · simp [short,Charged]
  · simp [drift,Charged]

theorem legUncharged (i input leg) :
    Uncharged (marketStateVerdict input leg) ∧ Uncharged (freshVerdict i input leg) := by
  unfold marketStateVerdict freshVerdict
  cases findDepthView input.depthViews.items leg with
  | some view =>
    exact ⟨guardUncharged (marketViewUncharged view),freshUncharged (freshnessUncharged _ _ _ _ _ _ _)⟩
  | none =>
    refine ⟨guardUncharged (marketSnapshotUncharged _),?_⟩
    cases findSnapshot input.snapshots.items leg with
    | some s => exact freshUncharged (freshnessUncharged _ _ _ _ _ _ _)
    | none => exact guardUncharged (by decide)

theorem entryRefused {i input full out} (h : entryStages i input full = .error out) : Refused out := by
  unfold entryStages at h
  simp only at h
  split at h
  · cases h
    simp [Refused]
  · simp only [Machine.bindError] at h
    rcases h with h | ⟨_,_,h | ⟨_,_,h | ⟨_,_,h⟩⟩⟩
    · exact stageRefused h (guardUncharged (killSwitchUncharged _))
    · exact stageRefused h (validatorUncharged i input.nowNs)
    · exact stageRefused h (evidenceUncharged i)
    · exact stageRefused h (guardUncharged (expiryUncharged i input.nowNs))

theorem entryPassed {i input full out} (h : entryStages i input full = .ok out) :
    invalidView input = false ∧ (intentValidator i input.nowNs).ok = true ∧
    (intentEvidenceVerifier i).ok = true ∧ out.auditTrace.lite.length = 4 := by
  unfold entryStages at h
  simp only at h
  split at h
  · cases h
  · next view =>
    simp only [Machine.bindOk] at h
    obtain ⟨_,killSwitch,_,validator,_,verifier,expiry⟩ := h
    have first := (stageOk killSwitch).2
    obtain ⟨valid,second⟩ := stageOk validator
    obtain ⟨verified,third⟩ := stageOk verifier
    obtain ⟨_,rfl⟩ := stageOk expiry
    subst first second third
    exact ⟨by simpa using view,valid,verified,rfl⟩

theorem marketRefused {i input ledger full r out} (h : marketStages i input ledger full r = .error out) :
    Refused out := by
  unfold marketStages at h
  simp only [Machine.bindError] at h
  rcases h with h | ⟨_,_,h | ⟨_,_,h | ⟨_,_,h | ⟨_,_,h | ⟨_,_,h | ⟨_,_,h⟩⟩⟩⟩⟩⟩
  · refine (Machine.loopOutcome (P := fun _ => True) (fun _ _ _ _ _ => trivial) ?_ trivial i.legs).2 out h
    intro acc leg exit _ stopped
    unfold legStages at stopped
    rcases Machine.bindError.mp stopped with state | ⟨_,_,fresh⟩
    · exact stageRefused state (legUncharged i input leg).1
    · exact stageRefused fresh (legUncharged i input leg).2
  · exact stageRefused h (costUncharged i input (stageError h).1)
  · exact stageRefused h (guardUncharged (edgeUncharged _ _ _))
  · exact stageRefused h (guardUncharged (maxLossUncharged _ _ _))
  · exact stageRefused h (guardUncharged (exposureUncharged _ _ _ _))
  · exact stageRefused h (guardUncharged (inventoryUncharged _ _ _ _))
  · exact stageRefused h (guardUncharged (partialFillUncharged _ _ _))

structure Checked (i : OpportunityIntent) (input : RiskInputView) : Prop where
  view : invalidView input = false
  validator : (intentValidator i input.nowNs).ok = true
  verifier : (intentEvidenceVerifier i).ok = true
  cost : (revalidatedCost i input).ok = true
  edge : (edgeGuard i (revalidatedCost i input) (effectivePolicy input)).pass = true
  maxLoss : (maxLossGuard i (revalidatedCost i input) (effectivePolicy input)).pass = true
  exposure : (exposureGuard (input.ledger.getD {}) i (revalidatedCost i input) (effectivePolicy input)).pass = true
  inventory : (inventoryGuard (input.ledger.getD {}) i (revalidatedCost i input) (effectivePolicy input)).pass =
    true
  partialFill : (partialFillGuard i (revalidatedCost i input) (effectivePolicy input)).pass = true

theorem marketPassed {i input full r out first} (entry : entryStages i input full = .ok first)
    (h : marketStages i input (input.ledger.getD {}) full r = .ok out) : Checked i input := by
  obtain ⟨view,validator,verifier,_⟩ := entryPassed entry
  unfold marketStages at h
  simp only [Machine.bindOk] at h
  obtain ⟨_,_,_,cost,_,edge,_,maxLoss,_,exposure,_,inventory,partialFill⟩ := h
  exact ⟨view,validator,verifier,(stageOk cost).1,(stageOk edge).1,(stageOk maxLoss).1,(stageOk exposure).1,
    (stageOk inventory).1,(stageOk partialFill).1⟩

def rateGuardFor (p : RiskPipeline) (input : RiskInputView) : RateLimitGuard :=
  p.rateLimitGuard.setMaxPerSecond (effectivePolicy input).maxApprovalsPerSecond
def chargedPipeline (p : RiskPipeline) (i : OpportunityIntent) (input : RiskInputView) : RiskPipeline :=
  ⟨(p.duplicateGuard.check i).1,((rateGuardFor p input).check input.nowNs).1⟩

inductive Evaluated (p : RiskPipeline) (input : RiskInputView) (book : Option ReservationBook) :
    RiskPipeline → Option ReservationBook → RiskPipelineResult → Prop where
  | early {r} (refused : Refused r) (unmarked : Unmarked r) : Evaluated p input book p book r
  | duplicate {i r} (intent : input.intent = some i) (fail : (p.duplicateGuard.check i).2.pass = false)
      (rejected : r.decision.approved = false)
      (reason : r.decision.rejectReason = rejectReasonFor (p.duplicateGuard.check i).2.rejection)
      (unmarked : Unmarked r) :
      Evaluated p input book {p with duplicateGuard := (p.duplicateGuard.check i).1} book r
  | rateLimited {i r} (intent : input.intent = some i) (fresh : (p.duplicateGuard.check i).2.pass = true)
      (fail : ((rateGuardFor p input).check input.nowNs).2.pass = false)
      (rejected : r.decision.approved = false)
      (reason : r.decision.rejectReason = rejectReasonFor ((rateGuardFor p input).check input.nowNs).2.rejection)
      (once : passed .duplicateGuard r = true) (unslotted : passed .rateLimitGuard r = false) :
      Evaluated p input book (chargedPipeline p i input) book r
  | later {i r} (intent : input.intent = some i) (fresh : (p.duplicateGuard.check i).2.pass = true)
      (slot : ((rateGuardFor p input).check input.nowNs).2.pass = true) (refused : Refused r)
      (once : passed .duplicateGuard r = true) (slotted : passed .rateLimitGuard r = true) :
      Evaluated p input book (chargedPipeline p i input) book r
  | unreserved {i b r} (intent : input.intent = some i) (fresh : (p.duplicateGuard.check i).2.pass = true)
      (slot : ((rateGuardFor p input).check input.nowNs).2.pass = true) (own : book = some b)
      (rejected : r.decision.approved = false)
      (reason : r.decision.rejectReason = reservationRejectReason (reservationFor b i input).2.rejectReason)
      (once : passed .duplicateGuard r = true) (slotted : passed .rateLimitGuard r = true) :
      Evaluated p input book (chargedPipeline p i input) book r
  | approved {i b r} (intent : input.intent = some i) (fresh : (p.duplicateGuard.check i).2.pass = true)
      (slot : ((rateGuardFor p input).check input.nowNs).2.pass = true) (checked : Checked i input)
      (own : book = some b) (reserved : (reservationFor b i input).2.ok = true)
      (decided : r.decision.approved = true) (cost : r.cost = revalidatedCost i input)
      (reservation : r.reservation = (reservationFor b i input).2) (granted : r.approvedIntent.intent = i)
      (once : passed .duplicateGuard r = true) (slotted : passed .rateLimitGuard r = true) :
      Evaluated p input book (chargedPipeline p i input) (some (reservationFor b i input).1) r

theorem reservationRefusedKeeps {b i input} (refused : (reservationFor b i input).2.ok = false) :
    (reservationFor b i input).1 = b := by
  rcases ReservationLedger.tryReserveCases b i (approvedDecision i (effectivePolicy input)) input.nowNs
    (shouldTrackReservationLedgerDetail (effectivePolicy input)) with ⟨_,same⟩ | ⟨_,_,_,_,booked⟩
  · exact same
  · rw [reservationFor,booked] at refused
    cases refused

theorem laterStagesCases {i input full first} (book r) (entry : entryStages i input full = .ok first) :
    ((laterStages i input full book r).1 = book ∧ Refused (laterStages i input full book r).2) ∨
    ((laterStages i input full book r).1 = book ∧ ∃ b, book = some b ∧
      (laterStages i input full book r).2.decision.approved = false ∧
      (laterStages i input full book r).2.decision.rejectReason =
        reservationRejectReason (reservationFor b i input).2.rejectReason) ∨
    (Checked i input ∧ ∃ b, book = some b ∧ (reservationFor b i input).2.ok = true ∧
      (laterStages i input full book r).1 = some (reservationFor b i input).1 ∧
      (laterStages i input full book r).2.decision.approved = true ∧
      (laterStages i input full book r).2.cost = revalidatedCost i input ∧
      (laterStages i input full book r).2.reservation = (reservationFor b i input).2 ∧
      (laterStages i input full book r).2.approvedIntent.intent = i) := by
  unfold laterStages
  split
  · next refused stopped => exact .inl ⟨rfl,marketRefused stopped⟩
  · next passed through =>
    have checked := marketPassed entry through
    cases book with
    | none => exact .inl ⟨rfl,by simp [reserveStage,Refused]⟩
    | some b =>
      cases ok : (reservationFor b i input).2.ok with
      | true =>
        have shape : reserveStage i input full (some b) passed = (some (reservationFor b i input).1,
            (reserveStage i input full (some b) passed).2) := by simp [reserveStage,ok]
        have result : (reserveStage i input full (some b) passed).2 =
            approveResult i input (revalidatedCost i input) (reservationFor b i input).2
              (addStep {passed with reservationAttempted := true, reservation := (reservationFor b i input).2}
                .reservationBook true .pass "" full) := by simp [reserveStage,ok]
        rw [shape,result]
        exact .inr (.inr ⟨checked,b,rfl,ok,rfl,rfl,rfl,rfl,rfl⟩)
      | false =>
        have kept := reservationRefusedKeeps ok
        have shape : reserveStage i input full (some b) passed =
            (some b,(reserveStage i input full (some b) passed).2) := by simp [reserveStage,ok,kept]
        have result : (reserveStage i input full (some b) passed).2 =
            rejectResult i (reservationRejectReason (reservationFor b i input).2.rejectReason)
              (reservationFor b i input).2.detail (revalidatedCost i input)
              (addStep {passed with reservationAttempted := true, reservation := (reservationFor b i input).2}
                .reservationBook false .rejectInternalError (reservationFor b i input).2.detail full) := by
          simp [reserveStage,ok]
        rw [shape,result]
        exact .inr (.inl ⟨rfl,b,rfl,rfl,rfl⟩)

theorem missingIntentRefused : Refused missingIntentResult := ⟨rfl,by decide,by decide,by decide⟩

theorem evaluateViewEvaluated (p input book full) :
    Evaluated p input book (evaluateView p input book full).1 (evaluateView p input book full).2.1
      (evaluateView p input book full).2.2 := by
  unfold evaluateView
  split
  · exact .early missingIntentRefused ⟨rfl,rfl⟩
  · next i intent =>
    have unmarked := entryUnmarked i input full
    split
    · next refused entry =>
      rw [entry] at unmarked
      exact .early (entryRefused entry) unmarked
    · next first entry =>
      rw [entry] at unmarked
      obtain ⟨_,_,_,length⟩ := entryPassed entry
      simp only
      split
      · next refused stopped =>
        obtain ⟨fail,rfl⟩ := stageError stopped
        exact .duplicate intent fail rfl rfl
          ⟨(rejectResultPassed ..).trans ((addStepOther (.inr rfl)).trans unmarked.1),
            (rejectResultPassed ..).trans ((addStepOther (.inr rfl)).trans unmarked.2)⟩
      · next second dup =>
        obtain ⟨fresh,marked⟩ := stageOk dup
        have once : passed .duplicateGuard second = true := by
          rw [marked]
          exact addStepMarks (by rw [length]; decide)
        have unslotted : passed .rateLimitGuard second = false := by
          rw [marked]
          exact (addStepOther (.inl (by decide))).trans unmarked.2
        have room : second.auditTrace.lite.length < kMaxRiskAuditSteps := by
          simp [marked,addStep,length,kMaxRiskAuditSteps]
        split
        · next refused stopped =>
          obtain ⟨fail,rfl⟩ := stageError stopped
          exact .rateLimited intent fresh fail rfl rfl ((rejectResultPassed ..).trans (addStepKeeps once))
            ((rejectResultPassed ..).trans ((addStepOther (.inr rfl)).trans unslotted))
        · next third rate =>
          obtain ⟨slot,marked⟩ := stageOk rate
          have once := laterKeeps i input full book (marked ▸ addStepKeeps once)
          have slotted := laterKeeps i input full book (marked ▸ addStepMarks room)
          rcases laterStagesCases book third entry with
            ⟨same,refused⟩ | ⟨same,b,own,rejected,reason⟩ |
              ⟨checked,b,own,reserved,booked,decided,cost,reservation,granted⟩
          · rw [same]
            exact .later intent fresh slot refused once slotted
          · rw [same]
            exact .unreserved intent fresh slot own rejected reason once slotted
          · rw [booked]
            exact .approved intent fresh slot checked own reserved decided cost reservation granted once slotted

end Polytope.RiskEvaluation
