import Polytope.FastPathPipeline
import Polytope.KernelAgreement

/-! What a pipeline lets out, over any sequence of events and resets. A flag is raised only on
a plan and only in the modes that allow it; a verified result is the generic path's result as
far as the two are compared; and once the mismatches reach the limit the pipeline stays shut
until it is reset. -/
namespace Polytope.FastPathRollout
open FixedPointMath BundleSizing OrderDecisionEngine FastPathPipeline
open FixedShapeKernel (FixedShapeKernelSpec FastKernelResult run)
open Intent (OpportunityIntent OrderDecisionLite computeOrderDecisionHash)
open RiskTypes (RiskPolicySnapshot)

def runPipeline (config : EventLocalDecisionPipelineConfig) (registry : Option FixedShapeKernelRegistry)
    (ops : List PipelineOp) : FastPathRuntimeState × List (PipelineOp × Option FastPathResult) :=
  Machine.run (pipelineStep config registry) {} [] ops

-- The generic path on the bundle the event settles on.
def genericDecision (config : EventLocalDecisionPipelineConfig) (registry : Option FixedShapeKernelRegistry)
    (input : EventLocalInput) : Option FastPathResult := do
  let registry ← registry
  let policy ← input.policy
  let affected := registry.specsForAsset input.dirtyAssetIndex
  let best ← (selectBest config (effectiveFastPathConfig config) input policy affected).toOption.join
  genericFor (effectiveFastPathConfig config) input policy affected best

structure Sanctioned (config : EventLocalDecisionPipelineConfig) (registry : Option FixedShapeKernelRegistry)
    (input : EventLocalInput) (r : FastPathResult) : Prop where
  mode : r.mode = (effectiveFastPathConfig config).mode
  published : r.publishAllowed = true →
    r.producedPlan = true ∧ (r.mode = .verifiedPaper ∨ r.mode = .paperAuthoritative)
  reserved : r.reservationAllowed = true ∨ r.authoritative = true →
    r.producedPlan = true ∧ r.mode = .paperAuthoritative
  verified : r.mode = .verifiedPaper → r.publishAllowed = true →
    ∃ generic, genericDecision config registry input = some generic ∧
      snapshotFromFastResult r = snapshotFromFastResult generic
  mismatched : r.mismatch = true → r.authoritative = false

-- The call moves the mismatch count and leaves it at the limit or above.
def LimitReached (config : EventLocalDecisionPipelineConfig) (registry : Option FixedShapeKernelRegistry)
    (s : FastPathRuntimeState) (input : EventLocalInput) : Prop :=
  (process config registry s input).1.mismatchCount ≠ s.mismatchCount ∧
  (effectiveFastPathConfig config).maxMismatchesBeforeDisable ≤ (process config registry s input).1.mismatchCount
instance (config registry s input) : Decidable (LimitReached config registry s input) := by
  unfold LimitReached; infer_instance

/-! A plan carries both of the ids that are compared only where they are there. -/

theorem decisionHashPositive (d : OrderDecisionLite) : computeOrderDecisionHash d ≠ 0 := by
  simp only [computeOrderDecisionHash]
  split
  · decide
  · assumption

theorem builtIds {e nowNs plan} (h : ExecutionPlanner.buildDecisionPlan e nowNs {} = .ok plan) :
    e.decision.decisionHash ≠ 0 ∧ plan.planId ≠ 0 := by
  constructor
  · unfold ExecutionPlanner.buildDecisionPlan at h
    simp only at h
    iterate 11 replace h := (Machine.guardOk h).2
    have hashed := (Machine.guardOk h).1
    rw [← not_not.mp fun wrong => hashed ⟨trivial,wrong⟩]
    exact decisionHashPositive e.decision
  · obtain ⟨orders,_,h⟩ := Machine.bindOk.mp (ExecutionPlanner.buildDecisionPlanAssembled h)
    rw [if_neg (by decide)] at h
    obtain ⟨_,valid,h⟩ := Machine.bindOk.mp h
    cases h
    exact (Machine.guardOk valid).1

def Numbered (r : FastPathResult) : Prop :=
  r.producedPlan = true → r.orderDecision.decisionHash ≠ 0 ∧ r.plan.planId ≠ 0

theorem plannedNumbered {input r} (fresh : r.producedPlan = false) : Numbered (planned input r) := by
  intro produced
  unfold planned at produced ⊢
  split at produced
  · rw [fresh] at produced
    cases produced
  · rename_i approved
    rw [if_neg approved]
    split at produced
    · rw [fresh] at produced
      cases produced
    · rename_i plan built
      exact builtIds built
theorem completedNumbered {input policy r} (fresh : r.producedPlan = false) :
    Numbered (completeRiskAndPlan input policy r) := by
  unfold completeRiskAndPlan
  split
  · intro produced
    rw [fresh] at produced
    cases produced
  · exact plannedNumbered fresh

theorem hashedNumbered (s) {r} (numbered : Numbered r) : Numbered (applyFastHashes s r) := numbered
theorem outputNumbered (outputHash) {r} (numbered : Numbered r) :
    Numbered (r.withOutputHash outputHash) := numbered
theorem genericNumbered (input spec sourceIntent policy mode) :
    Numbered (genericOrderDecisionResult input spec sourceIntent policy mode) := by
  unfold genericOrderDecisionResult
  refine hashedNumbered _ ?_
  unfold genericDecided
  split
  · intro produced
    cases produced
  · exact outputNumbered _ (completedNumbered rfl)

/-! What completion and rollout leave alone. -/

structure Unflagged (r : FastPathResult) : Prop where
  fallback : r.fallbackRequired = false
  reservation : r.reservationAllowed = false
  authoritative : r.authoritative = false
  mismatch : r.mismatch = false

theorem plannedKeeps (input r) : ∃ plan produced, planned input r = {r with plan, producedPlan := produced} := by
  unfold planned
  split
  · exact ⟨r.plan,r.producedPlan,rfl⟩
  · split
    · exact ⟨r.plan,r.producedPlan,rfl⟩
    · exact ⟨_,true,rfl⟩
theorem completedKeeps (input policy r) : ∃ intent decision approved plan produced,
    completeRiskAndPlan input policy r = {r with intent, decision, approved, plan, producedPlan := produced} ∧
      intent.bundleId = r.intent.bundleId := by
  unfold completeRiskAndPlan
  split
  · exact ⟨r.intent,r.decision,r.approved,r.plan,r.producedPlan,rfl,rfl⟩
  · simp only
    obtain ⟨plan,produced,same⟩ := plannedKeeps input _
    rw [same]
    exact ⟨_,_,_,plan,produced,rfl,rfl⟩

theorem outputUnflagged (outputHash) {r} (plain : Unflagged r) : Unflagged (r.withOutputHash outputHash) :=
  ⟨plain.fallback,plain.reservation,plain.authoritative,plain.mismatch⟩
theorem outputMode (outputHash) (r : FastPathResult) : (r.withOutputHash outputHash).mode = r.mode := rfl
theorem outputMismatch (outputHash) (r : FastPathResult) :
    (r.withOutputHash outputHash).mismatch = r.mismatch := rfl
theorem outputIntent (outputHash) (r : FastPathResult) : (r.withOutputHash outputHash).intent = r.intent := rfl
theorem hashedUnflagged (s) {r} (plain : Unflagged r) : Unflagged (applyFastHashes s r) :=
  ⟨plain.fallback,plain.reservation,plain.authoritative,plain.mismatch⟩
theorem decidedShape (input spec call decided mode) :
    (genericDecided input spec call decided mode).mode = mode ∧
    Unflagged (genericDecided input spec call decided mode) := by
  unfold genericDecided
  split
  · exact ⟨rfl,rfl,rfl,rfl,rfl⟩
  · unfold genericCompleted
    obtain ⟨_,_,_,_,_,same,_⟩ := completedKeeps input call.policy
      { mode
        intent := (FixedShapeKernel.genericResult spec call.intent decided).intent
        orderDecision := (FixedShapeKernel.genericResult spec call.intent decided).orderDecision }
    rw [same]
    exact ⟨outputMode _ _,outputUnflagged _ ⟨rfl,rfl,rfl,rfl⟩⟩
theorem hashedMode (s r) : (applyFastHashes s r).mode = r.mode := rfl
theorem genericShape (input spec sourceIntent policy mode) :
    (genericOrderDecisionResult input spec sourceIntent policy mode).mode = mode ∧
    Unflagged (genericOrderDecisionResult input spec sourceIntent policy mode) := by
  unfold genericOrderDecisionResult applyFastHashesFromResult
  obtain ⟨same,plain⟩ := decidedShape input spec
    (FixedShapeKernel.genericCall spec sourceIntent input.depthViews.items policy input.nowNs)
    (engineDecide {} {} (FixedShapeKernel.genericCall spec sourceIntent input.depthViews.items policy
      input.nowNs)).2 mode
  exact ⟨(hashedMode _ _).trans same,hashedUnflagged _ plain⟩

/-! The candidates of an event. -/

structure RolledOut (m : FastPathMode) (r : FastPathResult) : Prop where
  mode : r.mode = m
  published : r.publishAllowed = true → r.producedPlan = true ∧ (m = .verifiedPaper ∨ m = .paperAuthoritative)
  reserved : r.reservationAllowed = true ∨ r.authoritative = true → r.producedPlan = true ∧ m = .paperAuthoritative
  unverified : m = .verifiedPaper → shouldVerifyGeneric r = true
  matched : r.mismatch = false

theorem rolledOut {fastPath : FastPathConfig} {r} (fresh : r.mismatch = false) :
    RolledOut fastPath.mode (applyRolloutPolicy fastPath r) := by
  unfold applyRolloutPolicy
  simp only
  split
  · exact ⟨rfl,nofun,nofun,fun _ => rfl,fresh⟩
  · cases mode : fastPath.mode with
    | disabled => exact ⟨rfl,nofun,nofun,nofun,fresh⟩
    | shadowCompare => exact ⟨rfl,nofun,nofun,nofun,fresh⟩
    | verifiedPaper => exact ⟨rfl,fun plan => ⟨plan,.inl rfl⟩,nofun,fun _ => rfl,fresh⟩
    | paperAuthoritative => exact ⟨rfl,fun plan => ⟨plan,.inr rfl⟩,fun plan => ⟨plan.elim id id,rfl⟩,nofun,fresh⟩

theorem rolloutKeepsPlan (fastPath r) : (applyRolloutPolicy fastPath r).producedPlan = r.producedPlan ∧
    (applyRolloutPolicy fastPath r).intent = r.intent ∧ (applyRolloutPolicy fastPath r).plan = r.plan ∧
    (applyRolloutPolicy fastPath r).orderDecision = r.orderDecision ∧
    (applyRolloutPolicy fastPath r).fallbackRequired = r.fallbackRequired := by
  unfold applyRolloutPolicy
  simp only
  split
  · exact ⟨rfl,rfl,rfl,rfl,rfl⟩
  · split <;> exact ⟨rfl,rfl,rfl,rfl,rfl⟩

theorem settleKeeps (r) : ∃ approved, settleReservation r = {r with approved} := by
  unfold settleReservation
  split
  · exact ⟨_,rfl⟩
  · exact ⟨_,rfl⟩

structure Candidate (fastPath : FastPathConfig) (r : FastPathResult) : Prop where
  rolledOut : RolledOut fastPath.mode r
  numbered : Numbered r

theorem kernelDecidedFresh (input policy k) :
    (kernelDecided input policy k).mismatch = false ∧ Numbered (kernelDecided input policy k) := by
  simp only [kernelDecided]
  split
  · refine ⟨?_,completedNumbered rfl⟩
    obtain ⟨_,_,_,_,_,same,_⟩ :=
      completedKeeps input (skewLifted policy) {intent := k.intent, orderDecision := k.orderDecision}
    rw [same]
  · exact ⟨rfl,nofun⟩
theorem kernelPathFresh (input policy kernel) :
    (kernelPath input policy kernel).mismatch = false ∧ Numbered (kernelPath input policy kernel) := by
  cases kernel with
  | error reason => exact ⟨rfl,nofun⟩
  | ok k =>
    obtain ⟨fresh,numbered⟩ := kernelDecidedFresh input policy k
    exact ⟨(outputMismatch _ _).trans fresh,outputNumbered _ numbered⟩
theorem hashedCandidate (snapshot) {fastPath r} (candidate : Candidate fastPath r) :
    Candidate fastPath (applyFastHashes snapshot r) :=
  ⟨⟨candidate.rolledOut.mode,candidate.rolledOut.published,candidate.rolledOut.reserved,
    candidate.rolledOut.unverified,
    candidate.rolledOut.matched⟩,hashedNumbered snapshot candidate.numbered⟩
theorem settledCandidate {fastPath r} (candidate : Candidate fastPath r) :
    Candidate fastPath (settleReservation r) := by
  obtain ⟨approved,same⟩ := settleKeeps r
  rw [same]
  exact ⟨⟨candidate.rolledOut.mode,candidate.rolledOut.published,candidate.rolledOut.reserved,
    candidate.rolledOut.unverified,
    candidate.rolledOut.matched⟩,candidate.numbered⟩
theorem rolloutCandidate {fastPath : FastPathConfig} {r} (fresh : r.mismatch = false) (numbered : Numbered r) :
    Candidate fastPath (applyRolloutPolicy fastPath r) := by
  refine ⟨rolledOut fresh,fun produced => ?_⟩
  obtain ⟨plan,_,planId,order,_⟩ := rolloutKeepsPlan fastPath r
  rw [planId,order]
  exact numbered (plan.symm.trans produced)
theorem copiedCandidate (input policy fastPath kernel) :
    Candidate fastPath (copyKernelResult input policy fastPath kernel) := by
  obtain ⟨fresh,numbered⟩ := kernelPathFresh input policy kernel
  unfold copyKernelResult applyFastHashesFromResult
  exact hashedCandidate _ (settledCandidate (rolloutCandidate fresh numbered))

theorem kernelBundle {spec views policy nowNs k} (ran : run spec views policy nowNs = .ok k) :
    k.intent.bundleId = spec.bundleId := by
  unfold run at ran
  iterate 3 replace ran := (Machine.guardOk ran).2
  obtain ⟨work,_,ran⟩ := Machine.bindOk.mp ran
  replace ran := (Machine.guardOk ran).2
  obtain ⟨legs,_,ran⟩ := Machine.bindOk.mp ran
  cases ran
  rfl

theorem kernelDecidedBundle (input policy k) :
    (kernelDecided input policy k).intent.bundleId = k.intent.bundleId := by
  simp only [kernelDecided]
  split
  · obtain ⟨_,_,_,_,_,same,bundle⟩ :=
      completedKeeps input (skewLifted policy) {intent := k.intent, orderDecision := k.orderDecision}
    rw [same]
    exact bundle
  · rfl
theorem kernelPathBundle {input policy views nowNs} {spec : FixedShapeKernelSpec}
    (usable : (kernelPath input policy (run spec views policy nowNs)).fallbackRequired = false) :
    (kernelPath input policy (run spec views policy nowNs)).intent.bundleId = spec.bundleId := by
  cases ran : run spec views policy nowNs with
  | error reason =>
    rw [ran] at usable
    cases usable
  | ok k =>
    rw [← kernelBundle ran,← kernelDecidedBundle input policy k]
    exact congrArg OpportunityIntent.bundleId (outputIntent _ _)
theorem hashedKeeps (snapshot r) : (applyFastHashes snapshot r).intent = r.intent ∧
    (applyFastHashes snapshot r).fallbackRequired = r.fallbackRequired ∧
    (applyFastHashes snapshot r).publishAllowed = r.publishAllowed := ⟨rfl,rfl,rfl⟩
theorem settledKeeps (r) : (settleReservation r).intent = r.intent ∧
    (settleReservation r).fallbackRequired = r.fallbackRequired ∧
    (settleReservation r).publishAllowed = r.publishAllowed := by
  obtain ⟨_,same⟩ := settleKeeps r
  rw [same]
  exact ⟨rfl,rfl,rfl⟩
theorem rolloutFallback {fastPath : FastPathConfig} {r : FastPathResult} (fallback : r.fallbackRequired = true) :
    (applyRolloutPolicy fastPath r).publishAllowed = false := by
  unfold applyRolloutPolicy
  simp only [fallback,if_true]
  rfl
theorem copiedKeeps (input policy fastPath kernel) :
    (copyKernelResult input policy fastPath kernel).intent = (kernelPath input policy kernel).intent ∧
    (copyKernelResult input policy fastPath kernel).fallbackRequired =
    (kernelPath input policy kernel).fallbackRequired ∧
    ((kernelPath input policy kernel).fallbackRequired = true →
      (copyKernelResult input policy fastPath kernel).publishAllowed = false) := by
  obtain ⟨_,intent,_,_,fallback⟩ := rolloutKeepsPlan fastPath (kernelPath input policy kernel)
  obtain ⟨intent',fallback',published'⟩ :=
    settledKeeps (applyRolloutPolicy fastPath (kernelPath input policy kernel))
  unfold copyKernelResult applyFastHashesFromResult
  obtain ⟨hashedIntent,hashedFallback,hashedPublished⟩ := hashedKeeps
    (snapshotFromFastResult (settleReservation (applyRolloutPolicy fastPath (kernelPath input policy kernel))))
    (settleReservation (applyRolloutPolicy fastPath (kernelPath input policy kernel)))
  exact ⟨hashedIntent.trans (intent'.trans intent),hashedFallback.trans (fallback'.trans fallback),
    fun refused => hashedPublished.trans (published'.trans (rolloutFallback refused))⟩
theorem candidateBundle {fastPath input policy} {spec : KernelSpec}
    (usable : (candidateResult fastPath input policy spec).fallbackRequired = false) :
    (candidateResult fastPath input policy spec).intent.bundleId = spec.bundleId := by
  unfold candidateResult at usable ⊢
  obtain ⟨intent,fallback,_⟩ := copiedKeeps input policy fastPath
    (run spec.toFixedShapeKernelSpec input.depthViews.items policy input.nowNs)
  rw [intent]
  exact kernelPathBundle (fallback.symm.trans usable)

/-! Selection: a refusal is a fallback that raises nothing, a best result is a candidate of the event. -/

section
variable {config : EventLocalDecisionPipelineConfig} {fastPath : FastPathConfig} {input : EventLocalInput}
  {policy : RiskPolicySnapshot}

structure Chosen (fastPath : FastPathConfig) (affected : List KernelSpec) (r : FastPathResult) : Prop where
  candidate : Candidate fastPath r
  bundle : ∃ spec ∈ affected, spec.bundleId = r.intent.bundleId
structure Refusal (m : FastPathMode) (r : FastPathResult) : Prop where
  rolledOut : RolledOut m r
  published : r.publishAllowed = false

theorem fallbackRefusal (input reason mode) : Refusal mode (fallbackResult input reason mode) :=
  ⟨⟨rfl,nofun,nofun,fun _ => rfl,rfl⟩,rfl⟩
theorem candidateRefusal {spec : KernelSpec}
    (fallback : (candidateResult fastPath input policy spec).fallbackRequired = true) :
    Refusal fastPath.mode (candidateResult fastPath input policy spec) := by
  unfold candidateResult at fallback ⊢
  obtain ⟨_,same,unpublished⟩ := copiedKeeps input policy fastPath
    (run spec.toFixedShapeKernelSpec input.depthViews.items policy input.nowNs)
  exact ⟨(copiedCandidate ..).rolledOut,unpublished (same.symm.trans fallback)⟩

def Sound (fastPath : FastPathConfig) (affected : List KernelSpec) :
    Except FastPathResult (Option FastPathResult) → Prop
  | .error exit => Refusal fastPath.mode exit
  | .ok best => ∀ r ∈ best, Chosen fastPath affected r

theorem considered {affected : List KernelSpec} {best} {spec : KernelSpec} (listed : spec ∈ affected)
    (start : ∀ r ∈ best, Chosen fastPath affected r) :
    Sound fastPath affected (consider config fastPath input policy best spec) := by
  unfold consider
  split
  · exact fallbackRefusal input _ fastPath.mode
  · simp only
    split
    · rename_i fallback
      exact candidateRefusal fallback
    · rename_i usable
      rw [Bool.not_eq_true] at usable
      have fits : Chosen fastPath affected (candidateResult fastPath input policy spec) :=
        ⟨copiedCandidate input policy fastPath _,spec,listed,(candidateBundle usable).symm⟩
      cases best with
      | none =>
        intro r mem
        rw [Option.mem_some_iff.mp mem] at fits
        exact fits
      | some best =>
        intro r mem
        rw [← Option.mem_some_iff.mp mem]
        split
        · exact fits
        · exact start best rfl
theorem consideredAll {affected : List KernelSpec} (rest : List KernelSpec) {best}
    (listed : ∀ spec ∈ rest, spec ∈ affected)
    (start : ∀ r ∈ best, Chosen fastPath affected r) :
    Sound fastPath affected (rest.foldlM (consider config fastPath input policy) best) := by
  induction rest generalizing best with
  | nil => exact start
  | cons spec rest ih =>
    rw [List.foldlM_cons]
    have one : Sound fastPath affected (consider config fastPath input policy best spec) :=
      considered (listed spec (.head _)) start
    cases first : consider config fastPath input policy best spec with
    | error exit =>
      rw [first] at one
      exact one
    | ok next =>
      rw [first] at one
      exact ih (fun other mem => listed other (.tail _ mem)) one
theorem selected (affected : List KernelSpec) :
    Sound fastPath affected (selectBest config fastPath input policy affected) :=
  consideredAll affected (fun _ mem => mem) (by simp)

theorem genericFound {affected best} (chosen : Chosen fastPath affected best) :
    ∃ spec ∈ affected, spec.bundleId = best.intent.bundleId ∧ genericFor fastPath input policy affected best =
      some (genericOrderDecisionResult input spec.toFixedShapeKernelSpec best.intent
        (skewLifted policy) fastPath.mode) := by
  obtain ⟨spec,mem,bundle⟩ := chosen.bundle
  unfold genericFor
  cases found : affected.find? fun spec => spec.bundleId == best.intent.bundleId with
  | none => exact absurd (beq_iff_eq.mpr bundle) (List.find?_eq_none.mp found spec mem)
  | some other => exact ⟨other,List.mem_of_find?_eq_some found,beq_iff_eq.mp (List.find?_some found :),rfl⟩

/-! The comparison. -/

theorem snapshotSame {r r' : FastPathResult} (intent : r.intent = r'.intent) (plan : r.plan = r'.plan)
    (order : r.orderDecision = r'.orderDecision) (decision : r.decision = r'.decision)
    (produced : r.producedPlan = r'.producedPlan) (fallback : r.fallbackRequired = r'.fallbackRequired)
    (reason : r.rejectReason = r'.rejectReason) : snapshotFromFastResult r = snapshotFromFastResult r' := by
  unfold snapshotFromFastResult
  rw [intent,plan,order,decision,produced,fallback,reason]

theorem matchedEqual {fast generic : DecisionPathSnapshot}
    (matched : (compareDecisionSnapshots fast generic).matched = true)
    (decisions : fast.decisionHash ≠ 0 ∧ generic.decisionHash ≠ 0) (plans : fast.planId ≠ 0 ∧ generic.planId ≠ 0) :
    fast = generic := by
  simp only [compareDecisionSnapshots,comparedFields,List.all_cons,List.all_nil,Bool.and_true,Bool.and_eq_true,
    decide_eq_true_eq,decisions.1,decisions.2,plans.1,plans.2,false_or] at matched
  obtain ⟨h1,h2,h3,h4,h5,h6,h7,h8,h9,h10,h11,h12,h13,h14,h15,h16,h17,h18,h19,h20⟩ := matched
  cases fast
  cases generic
  simp_all only
theorem matchedProduced {fast generic : DecisionPathSnapshot}
    (matched : (compareDecisionSnapshots fast generic).matched = true) :
    fast.producedPlan = generic.producedPlan := by
  simp only [compareDecisionSnapshots,comparedFields,List.all_cons,Bool.and_eq_true,decide_eq_true_eq] at matched
  exact matched.2.2.2.2.2.1

end

/-! One event. -/

section
variable {config : EventLocalDecisionPipelineConfig} {registry : Option FixedShapeKernelRegistry}
  {input : EventLocalInput} {s : FastPathRuntimeState}

theorem refusalSanctioned {r} (refusal : Refusal (effectiveFastPathConfig config).mode r) :
    Sanctioned config registry input r where
  mode := refusal.rolledOut.mode
  published shown := absurd (refusal.published.symm.trans shown) Bool.false_ne_true
  reserved flags := by
    rw [refusal.rolledOut.mode]
    exact refusal.rolledOut.reserved flags
  verified _ shown := absurd (refusal.published.symm.trans shown) Bool.false_ne_true
  mismatched wrong := absurd (refusal.rolledOut.matched.symm.trans wrong) Bool.false_ne_true

theorem suppressedSanctioned {diff best} (mode : best.mode = (effectiveFastPathConfig config).mode) :
    Sanctioned config registry input (suppressFastOutputForMismatch diff best) :=
  ⟨mode,nofun,nofun,nofun,fun _ => rfl⟩
theorem shadowSanctioned {diff generic} (mode : generic.mode = (effectiveFastPathConfig config).mode) :
    Sanctioned config registry input (genericForShadow diff generic) := by
  have kept : (genericForShadow diff generic).mode = generic.mode := by
    unfold genericForShadow clearNonAuthoritativeReservation withDiff
    rfl
  have silent : (genericForShadow diff generic).publishAllowed = false := rfl
  have unreserved : (genericForShadow diff generic).reservationAllowed = false := rfl
  have advisory : (genericForShadow diff generic).authoritative = false := rfl
  refine ⟨kept.trans mode,?_,?_,?_,fun _ => advisory⟩
  · intro shown
    cases silent.symm.trans shown
  · rintro (shown | shown)
    · cases unreserved.symm.trans shown
    · cases advisory.symm.trans shown
  · intro _ shown
    cases silent.symm.trans shown
theorem mismatchKeeps (fastPath : FastPathConfig) (diff generic) :
    (genericForMismatch fastPath diff generic).mode = generic.mode ∧
    (genericForMismatch fastPath diff generic).producedPlan = generic.producedPlan ∧
    (genericForMismatch fastPath diff generic).publishAllowed =
      (decide (fastPath.mode = .verifiedPaper) && generic.producedPlan) ∧
    (genericForMismatch fastPath diff generic).reservationAllowed = false ∧
    (genericForMismatch fastPath diff generic).authoritative = false ∧
    snapshotFromFastResult (genericForMismatch fastPath diff generic) = snapshotFromFastResult generic := by
  unfold genericForMismatch clearNonAuthoritativeReservation withDiff
  exact ⟨rfl,rfl,rfl,rfl,rfl,snapshotSame rfl rfl rfl rfl rfl rfl rfl⟩
theorem genericSanctioned {diff generic} (found : genericDecision config registry input = some generic)
    (same : generic.mode = (effectiveFastPathConfig config).mode) :
    Sanctioned config registry input (genericForMismatch (effectiveFastPathConfig config) diff generic) := by
  obtain ⟨mode,produced,published,reservation,authoritative,snapshot⟩ :=
    mismatchKeeps (effectiveFastPathConfig config) diff generic
  refine ⟨mode.trans same,?_,?_,fun _ _ => ⟨generic,found,snapshot⟩,fun _ => authoritative⟩
  · intro shown
    rw [published] at shown
    obtain ⟨verified,planned⟩ := Bool.and_eq_true_iff.mp shown
    exact ⟨produced.trans planned,.inl ((mode.trans same).trans (of_decide_eq_true verified))⟩
  · rw [reservation,authoritative]
    rintro (flag | flag) <;> cases flag

theorem comparedKeeps (snapshot) (best : FastPathResult) (r)
    (same : r = applyGenericHashes snapshot {best with genericComparisonPerformed := true}) :
    r.mode = best.mode ∧ r.producedPlan = best.producedPlan ∧ r.publishAllowed = best.publishAllowed ∧
    r.reservationAllowed = best.reservationAllowed ∧ r.authoritative = best.authoritative ∧
      r.mismatch = best.mismatch ∧
    snapshotFromFastResult r = snapshotFromFastResult best := by
  subst same
  cases best
  exact ⟨rfl,rfl,rfl,rfl,rfl,rfl,snapshotSame rfl rfl rfl rfl rfl rfl rfl⟩
theorem bestSanctioned {affected best generic} (chosen : Chosen (effectiveFastPathConfig config) affected best)
    (numbered : Numbered generic) (found : genericDecision config registry input = some generic)
    (matched : (compareDecisionSnapshots (snapshotFromFastResult best)
      (snapshotFromFastResult generic)).matched = true) :
    Sanctioned config registry input
      (applyGenericHashes (snapshotFromFastResult generic) {best with genericComparisonPerformed := true}) := by
  obtain ⟨mode,produced,published,reservation,authoritative,mismatch,snapshot⟩ :=
    comparedKeeps (snapshotFromFastResult generic) best _ rfl
  have rolled := chosen.candidate.rolledOut
  refine ⟨mode.trans rolled.mode,?_,?_,?_,?_⟩
  · rw [published,produced,mode,rolled.mode]
    exact rolled.published
  · rw [reservation,authoritative,produced,mode,rolled.mode]
    exact rolled.reserved
  · intro _ shown
    have planned := (rolled.published (published.symm.trans shown)).1
    have ids := chosen.candidate.numbered planned
    have ids' := numbered ((matchedProduced matched).symm.trans planned)
    exact ⟨generic,found,snapshot.trans (matchedEqual matched ⟨ids.1,ids'.1⟩ ⟨ids.2,ids'.2⟩)⟩
  · rw [mismatch,rolled.matched]
    exact nofun

theorem settledSanctioned {affected best generic diff}
    (chosen : Chosen (effectiveFastPathConfig config) affected best)
    (mode : generic.mode = (effectiveFastPathConfig config).mode) (numbered : Numbered generic)
    (found : genericDecision config registry input = some generic)
    (compared : diff = compareDecisionSnapshots (snapshotFromFastResult best) (snapshotFromFastResult generic)) :
    Sanctioned config registry input (settleDiff (effectiveFastPathConfig config) s best generic diff).2 := by
  unfold settleDiff
  by_cases differs : diff.matched = false
  · rw [if_pos differs]
    split
    · exact suppressedSanctioned chosen.candidate.rolledOut.mode
    · exact genericSanctioned found mode
  · rw [if_neg differs]
    split
    · exact shadowSanctioned mode
    · subst compared
      exact bestSanctioned chosen numbered found ((Bool.not_eq_false _).mp differs)

theorem emptyRefusal (input : EventLocalInput) (fastPath) :
    Refusal fastPath.mode (applyRolloutPolicy fastPath (emptyResult input)) := by
  have rolled : RolledOut fastPath.mode (applyRolloutPolicy fastPath (emptyResult input)) := rolledOut rfl
  refine ⟨rolled,?_⟩
  by_contra shown
  have produced := (rolled.published ((Bool.not_eq_false _).mp shown)).1
  rw [(rolloutKeepsPlan fastPath (emptyResult input)).1] at produced
  cases produced
theorem hashedRefusal (snapshot) {m r} (refusal : Refusal m r) : Refusal m (applyFastHashes snapshot r) :=
  ⟨⟨refusal.rolledOut.mode,refusal.rolledOut.published,refusal.rolledOut.reserved,refusal.rolledOut.unverified,
    refusal.rolledOut.matched⟩,refusal.published⟩
theorem untouchedSanctioned (snapshot) {r : FastPathResult} (mode : r.mode = (effectiveFastPathConfig config).mode)
    (published : r.publishAllowed = false) (plain : Unflagged r) :
    Sanctioned config registry input (applyFastHashes snapshot r) where
  mode := mode
  published shown := absurd (published.symm.trans shown) Bool.false_ne_true
  reserved flags := flags.elim (fun flag => absurd (plain.reservation.symm.trans flag) Bool.false_ne_true)
    fun flag => absurd (plain.authoritative.symm.trans flag) Bool.false_ne_true
  verified _ shown := absurd (published.symm.trans shown) Bool.false_ne_true
  mismatched _ := plain.authoritative

theorem gateOpen {registry' policy} (h : eventGate config registry s input = .ok (registry',policy)) :
    registry = some registry' ∧ input.policy = some policy := by
  unfold eventGate at h
  replace h := (Machine.guardOk h).2
  cases registry with
  | none => cases h
  | some indexed =>
    cases given : input.policy with
    | none =>
      rw [given] at h
      cases h
    | some policy' =>
      rw [given] at h
      replace h := (Machine.guardOk h).2
      replace h := (Machine.guardOk h).2
      cases h
      exact ⟨rfl,rfl⟩

theorem processSanctioned (config registry s input) :
    Sanctioned config registry input (process config registry s input).2 := by
  unfold process
  cases gate : eventGate config registry s input with
  | error reason => exact refusalSanctioned (fallbackRefusal input reason _)
  | ok ready =>
    obtain ⟨registry',policy⟩ := ready
    obtain ⟨rfl,given⟩ := gateOpen gate
    simp only
    unfold decideAffected
    simp only
    split
    · exact untouchedSanctioned _ rfl rfl ⟨rfl,rfl,rfl,rfl⟩
    · split
      · exact refusalSanctioned (fallbackRefusal input .policyHashMismatch _)
      · have sound : Sound (effectiveFastPathConfig config) (registry'.specsForAsset input.dirtyAssetIndex)
            (selectBest config (effectiveFastPathConfig config) input policy
              (registry'.specsForAsset input.dirtyAssetIndex)) := selected _
        cases picked : selectBest config (effectiveFastPathConfig config) input policy
            (registry'.specsForAsset input.dirtyAssetIndex) with
        | error exit =>
          rw [picked] at sound
          exact refusalSanctioned sound
        | ok out =>
          rw [picked] at sound
          cases out with
          | none => exact refusalSanctioned (hashedRefusal _ (emptyRefusal input _))
          | some best =>
            have known := sound best rfl
            simp only
            obtain ⟨spec,_,_,found⟩ :
              ∃ spec ∈ registry'.specsForAsset input.dirtyAssetIndex, spec.bundleId = best.intent.bundleId ∧
                genericFor (effectiveFastPathConfig config) input policy
                  (registry'.specsForAsset input.dirtyAssetIndex) best = some
                  (genericOrderDecisionResult input spec.toFixedShapeKernelSpec best.intent (skewLifted policy)
                    (effectiveFastPathConfig config).mode) := genericFound known
            have decided : genericDecision config (some registry') input = some
                (genericOrderDecisionResult input spec.toFixedShapeKernelSpec best.intent (skewLifted policy)
                  (effectiveFastPathConfig config).mode) := by
              simp only [genericDecision,given,picked,Except.toOption,Option.join_some,bind,Option.bind]
              exact found
            split
            · rw [found]
              exact settledSanctioned known (genericShape _ _ _ _ _).1 (genericNumbered _ _ _ _ _) decided rfl
            · rename_i trusted
              refine ⟨known.candidate.rolledOut.mode,?_,?_,?_,?_⟩
              · rw [known.candidate.rolledOut.mode]
                exact known.candidate.rolledOut.published
              · rw [known.candidate.rolledOut.mode]
                exact known.candidate.rolledOut.reserved
              · intro mode
                exact absurd (known.candidate.rolledOut.unverified
                  (known.candidate.rolledOut.mode.symm.trans mode)) trusted
              · intro wrong
                exact absurd (known.candidate.rolledOut.matched.symm.trans wrong) Bool.false_ne_true

-- The only thing that ever moves the count is a mismatch that the authoritative mode suppresses.
theorem settledState (fastPath s best generic diff) : (settleDiff fastPath s best generic diff).1 = s ∨
    (settleDiff fastPath s best generic diff).1 = recordMismatch fastPath diff s := by
  unfold settleDiff
  split
  · split
    · exact .inr rfl
    · exact .inl rfl
  · split <;> exact .inl rfl
theorem decideState (config s input policy affected) : (decideAffected config s input policy affected).1 = s ∨
    ∃ diff, (decideAffected config s input policy affected).1 = recordMismatch
      (effectiveFastPathConfig config) diff s := by
  unfold decideAffected
  simp only
  split
  · exact .inl rfl
  · split
    · exact .inl rfl
    · split
      · exact .inl rfl
      · exact .inl rfl
      · split
        · exact (settledState _ s _ _ _).imp_right fun same => ⟨_,same⟩
        · exact .inl rfl
theorem processState (config registry s input) : (process config registry s input).1 = s ∨
    ∃ diff, (process config registry s input).1 = recordMismatch (effectiveFastPathConfig config) diff s := by
  unfold process
  split
  · exact .inl rfl
  · exact decideState config s input _ _

theorem limitDisables (reached : LimitReached config registry s input) :
    (process config registry s input).1.disabled = true := by
  obtain ⟨moved,limit⟩ := reached
  rcases processState config registry s input with same | ⟨diff,same⟩
  · rw [same] at moved
    exact absurd rfl moved
  · rw [same] at limit ⊢
    exact decide_eq_true (UInt64.not_lt.mpr limit)

theorem disabledProcess (config registry input) (disabled : s.disabled = true) :
    process config registry s input =
      (s,fallbackResult input .runtimeDisabled (effectiveFastPathConfig config).mode) := by
  unfold process eventGate
  rw [if_pos disabled]

end

/-! Runs. -/

theorem disabledRun {config registry s log} (ops : List PipelineOp) (disabled : s.disabled = true)
    (kept : .resetRuntimeState ∉ ops) : (Machine.run (pipelineStep config registry) s log ops).1 = s := by
  induction ops generalizing log with
  | nil => rfl
  | cons op rest ih =>
    cases op with
    | process input =>
      simp only [Machine.run,pipelineStep,disabledProcess config registry input disabled]
      exact ih fun mem => kept (.tail _ mem)
    | resetRuntimeState => exact absurd (.head _) kept

-- In every run a result is sanctioned, and a pipeline that reached its limit answers with a fallback until the
-- reset.
theorem rolloutSafe (config : EventLocalDecisionPipelineConfig) (registry : Option FixedShapeKernelRegistry)
    (ops : List PipelineOp) :
    (∀ input r, (PipelineOp.process input,some r) ∈ (runPipeline config registry ops).2 →
      Sanctioned config registry input r) ∧
    (∀ before input later next rest, ops = before ++ .process input::(later ++ .process next::rest) →
      .resetRuntimeState ∉ later → LimitReached config registry (runPipeline config registry before).1 input →
      (process config registry (runPipeline config registry (before ++ .process input::later)).1 next).2 =
        fallbackResult next .runtimeDisabled (effectiveFastPathConfig config).mode) := by
  constructor
  · refine Machine.invariant
      (P := fun _ log => ∀ input r, (PipelineOp.process input,some r) ∈ log →
        Sanctioned config registry input r)
      (fun s log op old input r mem => ?_) ops (by simp)
    rcases List.mem_append.mp mem with earlier | last
    · exact old input r earlier
    · cases op with
      | process given =>
        cases List.mem_singleton.mp last
        exact processSanctioned config registry s input
      | resetRuntimeState => cases List.mem_singleton.mp last
  · intro before input later next rest _ kept reached
    have shut : (process config registry (runPipeline config registry before).1 input).1.disabled = true :=
      limitDisables reached
    have still : (runPipeline config registry (before ++ .process input::later)).1 =
        (process config registry (runPipeline config registry before).1 input).1 := by
      unfold runPipeline
      rw [Machine.runAppend]
      exact disabledRun later shut kept
    rw [still,disabledProcess config registry next shut]

open KernelAgreement (pairSpec pairViews bookAt)
def pairKernel : FixedShapeKernelSpec := {pairSpec with artifactHash := 5, constraintHash := 6, bundleHash := 4}
def pairRegistry : FixedShapeKernelRegistry :=
  rebuildIndexes [{pairKernel with kernelSpecHash := hashFixedShapeKernelSpec pairKernel}]
def pairConfig (mode : FastPathMode) : EventLocalDecisionPipelineConfig :=
  { expectedArtifactHash := 5
    expectedConstraintHash := 6
    expectedPolicyHash := 7
    fastPath := {mode, enableFixedBuyKernel := true, sampleVerifyRate := .finite 1} }
def pairEvent : EventLocalInput :=
  {nowNs := 1000, dirtyAssetIndex := 1, depthViews := .data (pairViews 1000), policy := some {policyHash := 7}}
-- The prefix sums of the first book promise more than its levels hold, and only the kernel goes by them.
def promisedEvent : EventLocalInput :=
  { pairEvent with
    policy := some {policyHash := 7, minDepthMarginBps := 12000}
    depthViews := .data [{bookAt 1 1000 10 0x4008000000000000 with
        depthPrefix := MarketDepth.buildDepthPrefix [] [⟨10,⟨0x4014000000000000⟩⟩]},
      bookAt 2 1000 20 0x4008000000000000] }

theorem pairRollsOut :
    (∃ generic, genericDecision (pairConfig .verifiedPaper) (some pairRegistry) pairEvent = some generic ∧
      (process (pairConfig .verifiedPaper) (some pairRegistry) {} pairEvent).2.publishAllowed = true ∧
      snapshotFromFastResult (process (pairConfig .verifiedPaper) (some pairRegistry) {} pairEvent).2 =
        snapshotFromFastResult generic) ∧
    (process (pairConfig .paperAuthoritative) (some pairRegistry)
      (runPipeline (pairConfig .paperAuthoritative) (some pairRegistry) [.process promisedEvent]).1 pairEvent).2 =
        fallbackResult pairEvent .runtimeDisabled .paperAuthoritative := by
  constructor
  · have shown : (process (pairConfig .verifiedPaper) (some pairRegistry) {} pairEvent).2.publishAllowed = true ∧
        (process (pairConfig .verifiedPaper) (some pairRegistry) {} pairEvent).2.mode = .verifiedPaper := by
      decide +kernel
    obtain ⟨generic,found,same⟩ := ((rolloutSafe (pairConfig .verifiedPaper) (some pairRegistry)
      [.process pairEvent]).1 pairEvent _ (.head _)).verified shown.2 shown.1
    exact ⟨generic,found,shown.1,same⟩
  · exact (rolloutSafe (pairConfig .paperAuthoritative) (some pairRegistry)
      [.process promisedEvent,.process pairEvent]).2
      [] promisedEvent [] pairEvent [] rfl (by simp) (by decide +kernel)

end Polytope.FastPathRollout
