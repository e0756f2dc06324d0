import Polytope.FastPathRollout

/-! What a fallback still carries. A refusal of the gate or of the kernel is an empty result with
its flags down. The suppression of a mismatch starts from a decided result instead and clears it
field by field, all but the order decision. A result is compared in the authoritative mode only
when it has a plan, and a plan has a hashed order decision, so that one is always left behind. -/
namespace Polytope.FastPathFallback
open FastPathPipeline FastPathRollout
open FixedShapeKernel (FastKernelResult run)
open Intent (OpportunityIntent OrderDecisionLite)
open RiskTypes (RiskPolicySnapshot RiskDecision ApprovedIntent)
open ExecutionTypes (OrderPlan)

structure Inert (r : FastPathResult) : Prop where
  intent : r.intent = {}
  orderDecision : r.orderDecision = {}
  decision : r.decision = {}
  approved : r.approved = {}
  plan : r.plan = {}
  produced : r.producedPlan = false
  published : r.publishAllowed = false
  reserved : r.reservationAllowed = false
  authoritative : r.authoritative = false

-- Where an event gets as far as a comparison: what it compares.
def compared (config : EventLocalDecisionPipelineConfig) (registry : Option FixedShapeKernelRegistry)
    (s : FastPathRuntimeState) (input : EventLocalInput) : Option DifferentialCompareResult := do
  let fastPath := effectiveFastPathConfig config
  let (registry,policy) ← (eventGate config registry s input).toOption
  let affected := registry.specsForAsset input.dirtyAssetIndex
  if fastPath.requirePolicyHashMatch ∧
    (config.expectedPolicyHash = 0 ∨ policy.policyHash ≠ config.expectedPolicyHash) then none
  else
    match selectBest config fastPath input policy affected with
    | .ok (some best) =>
      if shouldVerifyGeneric best then
        some (compareDecisionSnapshots (snapshotFromFastResult best)
          (((genericFor fastPath input policy affected best).map snapshotFromFastResult).getD {}))
      else none
    | _ => none
def Suppresses (config : EventLocalDecisionPipelineConfig) (registry : Option FixedShapeKernelRegistry)
    (s : FastPathRuntimeState) (input : EventLocalInput) : Prop :=
  (effectiveFastPathConfig config).mode = .paperAuthoritative ∧
  ∃ diff ∈ compared config registry s input, diff.matched = false
instance (config registry s input) : Decidable (Suppresses config registry s input) := by
  unfold Suppresses; infer_instance

/-! The refusals. -/

theorem fallbackInert (input reason mode) : Inert (fallbackResult input reason mode) :=
  ⟨rfl,rfl,rfl,rfl,rfl,rfl,rfl,rfl,rfl⟩

theorem rolloutInert {fastPath : FastPathConfig} {r : FastPathResult} (inert : Inert r)
    (fallback : r.fallbackRequired = true) : Inert (applyRolloutPolicy fastPath r) := by
  unfold applyRolloutPolicy
  simp only [fallback,if_true]
  exact ⟨inert.intent,inert.orderDecision,inert.decision,inert.approved,inert.plan,inert.produced,rfl,rfl,rfl⟩
theorem settledInert {r : FastPathResult} (inert : Inert r) : Inert (settleReservation r) := by
  have cleared : clearReservation r = r := by
    unfold clearReservation
    rw [inert.approved]
    cases r
    cases inert.approved
    rfl
  unfold settleReservation
  rw [if_neg (by rw [inert.reserved]; exact fun h => Bool.false_ne_true h.1),cleared]
  exact inert
theorem hashedInert (snapshot) {r : FastPathResult} (inert : Inert r) : Inert (applyFastHashes snapshot r) :=
  ⟨inert.intent,inert.orderDecision,inert.decision,inert.approved,inert.plan,inert.produced,inert.published,
    inert.reserved,inert.authoritative⟩

theorem kernelDecidedUsable (input policy k) : (kernelDecided input policy k).fallbackRequired = false := by
  simp only [kernelDecided]
  split
  · obtain ⟨_,_,_,_,_,same,_⟩ :=
      completedKeeps input (skewLifted policy) {intent := k.intent, orderDecision := k.orderDecision}
    rw [same]
  · rfl
theorem outputFallback (outputHash) (r : FastPathResult) :
    (r.withOutputHash outputHash).fallbackRequired = r.fallbackRequired := rfl
theorem kernelPathInert {input policy kernel}
    (fallback : (kernelPath input policy kernel).fallbackRequired = true) :
    Inert (kernelPath input policy kernel) := by
  cases kernel with
  | error reason => exact ⟨rfl,rfl,rfl,rfl,rfl,rfl,rfl,rfl,rfl⟩
  | ok k =>
    have usable : (kernelPath input policy (.ok k)).fallbackRequired = false :=
      (outputFallback _ _).trans (kernelDecidedUsable input policy k)
    exact absurd (usable.symm.trans fallback) Bool.false_ne_true
theorem candidateInert {fastPath input policy spec}
    (fallback : (candidateResult fastPath input policy spec).fallbackRequired = true) :
    Inert (candidateResult fastPath input policy spec) := by
  unfold candidateResult at fallback ⊢
  obtain ⟨_,same,_⟩ := copiedKeeps input policy fastPath
    (run spec.toFixedShapeKernelSpec input.depthViews.items policy input.nowNs)
  have refused := same.symm.trans fallback
  unfold copyKernelResult applyFastHashesFromResult
  exact hashedInert _ (settledInert (rolloutInert (kernelPathInert refused) refused))

-- In the authoritative mode only a result with a plan is drawn for verification.
structure Kept (fastPath : FastPathConfig) (r : FastPathResult) : Prop where
  usable : r.fallbackRequired = false
  drawn : fastPath.mode = .paperAuthoritative → shouldVerifyGeneric r = true → r.producedPlan = true

theorem rolloutKept {fastPath r} (usable : r.fallbackRequired = false) :
    Kept fastPath (applyRolloutPolicy fastPath r) := by
  obtain ⟨produced,_,_,_,fallback⟩ := rolloutKeepsPlan fastPath r
  refine ⟨fallback.trans usable,fun mode drawn => ?_⟩
  rw [produced]
  unfold applyRolloutPolicy at drawn
  simp only [usable,mode,Bool.false_eq_true,if_false] at drawn
  rw [shouldVerifyGeneric,Bool.or_eq_true] at drawn
  by_contra missing
  rw [Bool.not_eq_true] at missing
  rcases drawn with flag | flag <;> simp [withFlags,missing] at flag
theorem settledKept {fastPath r} (kept : Kept fastPath r) : Kept fastPath (settleReservation r) := by
  obtain ⟨approved,same⟩ := settleKeeps r
  rw [same]
  exact ⟨kept.usable,kept.drawn⟩
theorem hashedKept (snapshot) {fastPath r} (kept : Kept fastPath r) : Kept fastPath (applyFastHashes snapshot r) :=
  ⟨kept.usable,kept.drawn⟩
theorem candidateKept {fastPath input policy spec}
    (usable : (candidateResult fastPath input policy spec).fallbackRequired = false) :
    Kept fastPath (candidateResult fastPath input policy spec) := by
  unfold candidateResult at usable ⊢
  obtain ⟨_,same,_⟩ := copiedKeeps input policy fastPath
    (run spec.toFixedShapeKernelSpec input.depthViews.items policy input.nowNs)
  unfold copyKernelResult applyFastHashesFromResult
  exact hashedKept _ (settledKept (rolloutKept (same.symm.trans usable)))

/-! Selection: what ends an event is inert, what is kept is no fallback. -/

section
variable {config : EventLocalDecisionPipelineConfig} {fastPath : FastPathConfig} {input : EventLocalInput}
  {policy : RiskPolicySnapshot}

theorem consideredKept {best next spec} (kept : ∀ r ∈ best, Kept fastPath r)
    (ok : consider config fastPath input policy best spec = .ok next) : ∀ r ∈ next, Kept fastPath r := by
  unfold consider at ok
  cases gate : specGate config fastPath spec with
  | some reason =>
    rw [gate] at ok
    cases ok
  | none =>
    simp only [gate] at ok
    obtain ⟨clean,ok⟩ := Machine.guardOk ok
    have candidate := candidateKept ((Bool.not_eq_true _).mp clean)
    cases best with
    | none =>
      cases ok
      intro r mem
      rw [← Option.mem_some_iff.mp mem]
      exact candidate
    | some best =>
      cases ok
      intro r mem
      rw [← Option.mem_some_iff.mp mem]
      split
      · exact candidate
      · exact kept best rfl
theorem consideredRefuses {best exit spec} (stop : consider config fastPath input policy best spec = .error exit) :
    exit.fallbackRequired = true ∧ Inert exit := by
  unfold consider at stop
  cases gate : specGate config fastPath spec with
  | some reason =>
    rw [gate] at stop
    cases stop
    exact ⟨rfl,fallbackInert input reason fastPath.mode⟩
  | none =>
    simp only [gate] at stop
    by_cases refused : (candidateResult fastPath input policy spec).fallbackRequired = true
    · rw [if_pos refused] at stop
      cases stop
      exact ⟨refused,candidateInert refused⟩
    · rw [if_neg refused] at stop
      cases best <;> cases stop
theorem selectionSplit (affected : List KernelSpec) :
    (∀ best, selectBest config fastPath input policy affected = .ok best → ∀ r ∈ best, Kept fastPath r) ∧
    ∀ exit, selectBest config fastPath input policy affected = .error exit →
      exit.fallbackRequired = true ∧ Inert exit := by
  refine Machine.loopOutcome (P := fun best => ∀ r ∈ best, Kept fastPath r)
    (fun best spec next kept ok => consideredKept kept ok)
    (fun best spec exit _ stop => consideredRefuses stop) ?_ affected
  intro r mem
  cases mem

end

/-! The comparison. -/

def FallbackInert (r : FastPathResult) : Prop := r.fallbackRequired = true → Inert r

theorem usableInert {r : FastPathResult} (usable : r.fallbackRequired = false) : FallbackInert r :=
  fun fallback => absurd (usable.symm.trans fallback) Bool.false_ne_true
theorem genericUsable {fastPath input policy affected best generic}
    (found : genericFor fastPath input policy affected best = some generic) :
    generic.fallbackRequired = false := by
  unfold genericFor at found
  obtain ⟨spec,_,same⟩ := Option.map_eq_some_iff.mp found
  rw [← same]
  exact (genericShape _ _ _ _ _).2.fallback
theorem suppressedCarries {diff} {best : FastPathResult} (hashed : best.orderDecision.decisionHash ≠ 0) :
    ¬ FallbackInert (suppressFastOutputForMismatch diff best) := by
  intro shown
  have order : best.orderDecision = {} := (shown rfl).orderDecision
  rw [order] at hashed
  exact hashed rfl

theorem mismatchUsable (fastPath diff) {generic : FastPathResult} (usable : generic.fallbackRequired = false) :
    (genericForMismatch fastPath diff generic).fallbackRequired = false := by
  cases generic
  exact usable
theorem shadowUsable (diff) {generic : FastPathResult} (usable : generic.fallbackRequired = false) :
    (genericForShadow diff generic).fallbackRequired = false := by
  cases generic
  exact usable

theorem settledInertIff {fastPath : FastPathConfig} {s best generic diff} (kept : Kept fastPath best)
    (numbered : Numbered best)
    (verified : shouldVerifyGeneric best = true) (usable : generic.fallbackRequired = false) :
    FallbackInert (settleDiff fastPath s best generic diff).2 ↔
      ¬ (fastPath.mode = .paperAuthoritative ∧ diff.matched = false) := by
  unfold settleDiff
  by_cases differs : diff.matched = false
  · rw [if_pos differs]
    by_cases mode : fastPath.mode = .paperAuthoritative
    · rw [if_pos mode]
      exact iff_of_false (suppressedCarries (numbered (kept.drawn mode verified)).1) (not_not.mpr ⟨mode,differs⟩)
    · rw [if_neg mode]
      exact iff_of_true (usableInert (mismatchUsable fastPath diff usable)) fun h => mode h.1
  · rw [if_neg differs]
    refine iff_of_true ?_ fun h => differs h.2
    split
    · exact usableInert (shadowUsable diff usable)
    · exact usableInert kept.usable

/-! One event. -/

theorem emptyUsable (fastPath input) :
    (applyRolloutPolicy fastPath (emptyResult input)).fallbackRequired = false :=
  (rolloutKeepsPlan fastPath (emptyResult input)).2.2.2.2
theorem hashedFallback (snapshot r) : (applyFastHashes snapshot r).fallbackRequired = r.fallbackRequired := rfl
theorem idleInert {r : FastPathResult} (usable : r.fallbackRequired = false) :
    FallbackInert (applyFastHashesFromResult r) :=
  usableInert ((hashedFallback (snapshotFromFastResult r) r).trans usable)
theorem refusedInert (input reason mode) : FallbackInert (fallbackResult input reason mode) :=
  fun _ => fallbackInert input reason mode

theorem verifiedInertIff {config s input policy affected best}
    (kept : Kept (effectiveFastPathConfig config) best)
    (chosen : Chosen (effectiveFastPathConfig config) affected best) (verified : shouldVerifyGeneric best = true) :
    FallbackInert (verify (effectiveFastPathConfig config) s best
      (genericFor (effectiveFastPathConfig config) input policy affected best)).2 ↔
    ¬ ((effectiveFastPathConfig config).mode = .paperAuthoritative ∧
      (compareDecisionSnapshots (snapshotFromFastResult best)
        (((genericFor (effectiveFastPathConfig config) input policy affected best).map
          snapshotFromFastResult).getD {})).matched = false) := by
  have usable : ((genericFor (effectiveFastPathConfig config) input policy affected best).getD
    {}).fallbackRequired = false := by
    cases found : genericFor (effectiveFastPathConfig config) input policy affected best with
    | none => rfl
    | some generic => exact genericUsable found
  exact settledInertIff kept chosen.candidate.numbered verified usable

theorem eventInertIff (config registry s input) :
    FallbackInert (process config registry s input).2 ↔ ¬ Suppresses config registry s input := by
  unfold process Suppresses compared
  cases gate : eventGate config registry s input with
  | error reason => exact iff_of_true (refusedInert input reason _) (by simp [Except.toOption])
  | ok ready =>
    obtain ⟨registry',policy⟩ := ready
    simp only [Except.toOption,bind,Option.bind]
    unfold decideAffected
    simp only
    by_cases idle : registry'.specsForAsset input.dirtyAssetIndex = []
    · rw [if_pos idle,idle]
      refine iff_of_true (idleInert rfl) ?_
      split <;> simp [selectBest,pure,Except.pure]
    · rw [if_neg idle]
      split
      · exact iff_of_true (refusedInert input _ _) (by simp)
      · cases picked : selectBest config (effectiveFastPathConfig config) input policy
            (registry'.specsForAsset input.dirtyAssetIndex) with
        | error exit => exact iff_of_true (fun _ => ((selectionSplit _).2 exit picked).2) (by simp)
        | ok best =>
          cases best with
          | none => exact iff_of_true (idleInert (emptyUsable _ input)) (by simp)
          | some best =>
            have kept := (selectionSplit _).1 _ picked best rfl
            have chosen : Chosen (effectiveFastPathConfig config)
              (registry'.specsForAsset input.dirtyAssetIndex) best := by
              have sound : Sound (effectiveFastPathConfig config) (registry'.specsForAsset input.dirtyAssetIndex)
                (selectBest config (effectiveFastPathConfig config) input policy
                  (registry'.specsForAsset input.dirtyAssetIndex)) := selected _
              rw [picked] at sound
              exact sound best rfl
            by_cases verified : shouldVerifyGeneric best = true
            · simp only [verified,if_true,Option.mem_def,Option.some.injEq,exists_eq_left']
              exact verifiedInertIff kept chosen verified
            · simp only [verified]
              exact iff_of_true (usableInert kept.usable) (by simp)

/-! Runs. -/

theorem stepInertIff (config registry s) (log : List (PipelineOp × Option FastPathResult)) (op : PipelineOp) :
    (∀ input r, (PipelineOp.process input,some r) ∈ log ++ [(op,(pipelineStep config registry s op).2)] →
      FallbackInert r) ↔
    (∀ input r, (PipelineOp.process input,some r) ∈ log → FallbackInert r) ∧
      ∀ input, op = .process input → ¬ Suppresses config registry s input := by
  constructor
  · intro all
    refine ⟨fun input r mem => all input r (List.mem_append_left _ mem),?_⟩
    intro input same
    subst same
    exact (eventInertIff config registry s input).mp (all input _ (List.mem_append_right _ (.head _)))
  · rintro ⟨earlier,clean⟩ input r mem
    rcases List.mem_append.mp mem with old | last
    · exact earlier input r old
    · cases op with
      | process given =>
        cases List.mem_singleton.mp last
        exact (eventInertIff config registry s input).mpr (clean input rfl)
      | resetRuntimeState => cases List.mem_singleton.mp last


-- In every run the fallbacks carry nothing exactly when no event's best result is suppressed by a mismatch.
theorem fallbacksInert (config : EventLocalDecisionPipelineConfig) (registry : Option FixedShapeKernelRegistry)
    (ops : List PipelineOp) :
    (∀ input r, (PipelineOp.process input,some r) ∈ (runPipeline config registry ops).2 →
      r.fallbackRequired = true → Inert r) ↔
    Machine.Along (pipelineStep config registry)
      (fun s _ op => ∀ input, op = .process input → ¬ Suppresses config registry s input) {} [] ops := by
  have answers := @Machine.alongExact _ _ _ (pipelineStep config registry)
    (fun s _ op => ∀ input, op = .process input → ¬ Suppresses config registry s input)
    (fun _ log => ∀ input r, (PipelineOp.process input,some r) ∈ log → FallbackInert r) (fun _ _ _ => True)
    (fun s log op => by rw [true_and]; exact stepInertIff config registry s log op) {} [] ops
  constructor
  · intro inert
    exact (answers.mp ⟨Machine.alongTrue _ _ _ _,inert⟩).2
  · intro along
    exact (answers.mpr ⟨by simp,along⟩).2

open KernelAgreement (bookAt)
-- Prefix sums one lot behind their books: nine and six lots shown, eight and five indexed.
def laggedBook (assetIndex : Nat) (price : Int) (size indexed : UInt64) : MarketDepth.MarketDepthView :=
  {bookAt assetIndex 1000 price size with depthPrefix := MarketDepth.buildDepthPrefix [] [⟨price,⟨indexed⟩⟩]}
def laggedEvent : EventLocalInput :=
  { pairEvent with
    depthViews := .data [laggedBook 1 10 0x4022000000000000 0x4020000000000000,
      laggedBook 2 20 0x4018000000000000 0x4014000000000000] }

theorem suppressedOrderSurvives :
    ∃ r, (PipelineOp.process laggedEvent,some r) ∈
        (runPipeline (pairConfig .paperAuthoritative) (some pairRegistry) [.process laggedEvent]).2 ∧
      r.fallbackRequired = true ∧ r.orderDecision.type = .paperOrderDecision ∧
      r.orderDecision.legs.map (·.quantityLots) = [6,4] ∧ ¬ Inert r := by
  refine ⟨_,.head _,?_⟩
  have left : (process (pairConfig .paperAuthoritative) (some pairRegistry) {} laggedEvent).2.fallbackRequired =
    true ∧
      (process (pairConfig .paperAuthoritative) (some pairRegistry) {} laggedEvent).2.orderDecision.type =
      .paperOrderDecision ∧
      (process (pairConfig .paperAuthoritative) (some pairRegistry) {} laggedEvent).2.orderDecision.legs.map
      (·.quantityLots) =
        [6,4] := by
    decide +kernel
  refine ⟨left.1,left.2.1,left.2.2,fun inert => ?_⟩
  have cleared := inert.orderDecision
  have order : (process (pairConfig .paperAuthoritative) (some pairRegistry)
    {} laggedEvent).2.orderDecision.legs.map
      (·.quantityLots) = [6,4] := left.2.2
  rw [show (process (pairConfig .paperAuthoritative) (some pairRegistry) {} laggedEvent).2.orderDecision =
    {} from cleared] at order
  cases order

end Polytope.FastPathFallback
