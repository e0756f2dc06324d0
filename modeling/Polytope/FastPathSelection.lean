import Polytope.FastPathFallback
import Polytope.KernelRegistry
import Polytope.Leader
import Mathlib.Data.Prod.Lex

/-! The fast pipeline's choice among the specs of a changed asset. The selection loop keeps the
result with the largest total edge, the smallest bundle id on ties, whether or not that result
has a plan: a rejected candidate carries its edge too. So the kept result is the best of those
with a plan unless a rejected one stands above them all. -/
namespace Polytope.FastPathSelection
open FastPathPipeline FastPathRollout FastPathFallback
open KernelRegistry (buildFromRuntimePlans)
open SignalPricing (BundleRuntimePlan)
open RiskTypes (RiskPolicySnapshot)

/-! What an event chooses among. -/

def affectedBy (plans : List BundleRuntimePlan) (input : EventLocalInput) : List KernelSpec :=
  (buildFromRuntimePlans plans).specsForAsset input.dirtyAssetIndex
def candidate (config : EventLocalDecisionPipelineConfig) (input : EventLocalInput) (policy : RiskPolicySnapshot)
    (spec : KernelSpec) : FastPathResult := candidateResult (effectiveFastPathConfig config) input policy spec
def choose (config : EventLocalDecisionPipelineConfig) (input : EventLocalInput) (policy : RiskPolicySnapshot)
    (affected : List KernelSpec) : Except FastPathResult (Option FastPathResult) :=
  selectBest config (effectiveFastPathConfig config) input policy affected

-- Larger total edge first, then smaller bundle id.
def Above (a b : FastPathResult) : Prop :=
  b.intent.totalEdgeTick < a.intent.totalEdgeTick ∨
  a.intent.totalEdgeTick = b.intent.totalEdgeTick ∧ a.intent.bundleId < b.intent.bundleId
instance (a b) : Decidable (Above a b) := by unfold Above; infer_instance

structure BestPlanned (results : List FastPathResult) (best : FastPathResult) : Prop where
  listed : best ∈ results
  produced : best.producedPlan = true
  largest : ∀ r ∈ results, r.producedPlan = true → r.intent.totalEdgeTick ≤ best.intent.totalEdgeTick
  smallest : ∀ r ∈ results, r.producedPlan = true → r.intent.totalEdgeTick = best.intent.totalEdgeTick →
    best.intent.bundleId ≤ r.intent.bundleId

structure Selected (config : EventLocalDecisionPipelineConfig) (input : EventLocalInput)
    (policy : RiskPolicySnapshot)
    (affected : List KernelSpec) : Prop where
  best : ∃ best, choose config input policy affected = .ok (some best) ∧
    BestPlanned (affected.map (candidate config input policy)) best
  -- A candidate without a plan leaves a kept result with one where it is.
  undisplaced : ∀ before spec after kept, affected = before ++ spec::after →
    choose config input policy before = .ok (some kept) → kept.producedPlan = true →
    (candidate config input policy spec).producedPlan = false →
    choose config input policy (before ++ [spec]) = .ok (some kept)

-- A candidate without a plan is below one that has a plan, and below the first of the smaller bundle ids if
-- that has one.
def Outranked (config : EventLocalDecisionPipelineConfig) (input : EventLocalInput) (policy : RiskPolicySnapshot)
    (affected : List KernelSpec) : Prop :=
  ∀ spec ∈ affected, (candidate config input policy spec).producedPlan = false →
    (∃ other ∈ affected, (candidate config input policy other).producedPlan = true ∧
      Above (candidate config input policy other) (candidate config input policy spec)) ∧
    ∀ first ∈ affected, first.bundleId < spec.bundleId →
      (candidate config input policy first).producedPlan = true →
      (∀ other ∈ affected, other.bundleId < spec.bundleId →
        ¬ Above (candidate config input policy other) (candidate config input policy first)) →
      Above (candidate config input policy first) (candidate config input policy spec)
instance (config input policy affected) : Decidable (Outranked config input policy affected) := by
  unfold Outranked; infer_instance

/-! The loop keeps the leader of the candidates. -/

def rank (r : FastPathResult) : Lex (Int × Int) := toLex (r.intent.totalEdgeTick,-(r.intent.bundleId.toNat : Int))

theorem rankLt {a b : FastPathResult} : rank b < rank a ↔ Above a b := by
  rw [rank,rank,Prod.Lex.toLex_lt_toLex,Above,UInt64.lt_iff_toNat_lt]
  simp only
  constructor
  · rintro (larger | ⟨same,smaller⟩)
    · exact .inl larger
    · exact .inr ⟨same.symm,by omega⟩
  · rintro (larger | ⟨same,smaller⟩)
    · exact .inl larger
    · exact .inr ⟨same.symm,by omega⟩
theorem replacesIff {a b : FastPathResult} : replaces a b = true ↔ rank b < rank a := by
  rw [rankLt,replaces,decide_eq_true_eq,Above]
theorem rankLe {a b : FastPathResult} (below : rank b ≤ rank a) :
    b.intent.totalEdgeTick ≤ a.intent.totalEdgeTick ∧
    (b.intent.totalEdgeTick = a.intent.totalEdgeTick → a.intent.bundleId ≤ b.intent.bundleId) := by
  have kept := (not_congr rankLt).mp (not_lt.mpr below)
  rw [Above,not_or,not_and] at kept
  exact ⟨not_lt.mp kept.1,fun same => UInt64.not_lt.mp (kept.2 same)⟩

section
variable {config : EventLocalDecisionPipelineConfig} {input : EventLocalInput} {policy : RiskPolicySnapshot}

theorem consideredLeads {best next spec}
    (ok : consider config (effectiveFastPathConfig config) input policy best spec = .ok next) :
    (candidate config input policy spec).fallbackRequired = false ∧
    next = Leader.lead rank best (candidate config input policy spec) := by
  unfold consider at ok
  cases gate : specGate config (effectiveFastPathConfig config) spec with
  | some reason =>
    rw [gate] at ok
    cases ok
  | none =>
    simp only [gate] at ok
    obtain ⟨usable,ok⟩ := Machine.guardOk ok
    refine ⟨(Bool.not_eq_true _).mp usable,?_⟩
    cases best with
    | none =>
      cases ok
      rfl
    | some best =>
      cases ok
      by_cases above : rank best < rank (candidate config input policy spec)
      · rw [Leader.leadTakes above]
        exact congrArg some (if_pos (replacesIff.mpr above))
      · rw [Leader.leadKeeps (not_lt.mp above)]
        exact congrArg some (if_neg fun taken => above (replacesIff.mp taken))

theorem chooseAppend (before after : List KernelSpec) : choose config input policy (before ++ after) =
    choose config input policy before >>=
      fun best => after.foldlM (consider config (effectiveFastPathConfig config) input policy) best := by
  unfold choose selectBest
  exact List.foldlM_append

theorem chosenLeads {affected best} (ok : choose config input policy affected = .ok best) :
    (∀ spec ∈ affected, (candidate config input policy spec).fallbackRequired = false) ∧
    best = Leader.leader rank (affected.map (candidate config input policy)) := by
  induction affected using List.reverseRecOn generalizing best with
  | nil =>
    cases ok
    exact ⟨fun _ none => (nomatch none),rfl⟩
  | append_singleton before spec ih =>
    rw [chooseAppend] at ok
    obtain ⟨kept,earlier,ok⟩ := Machine.bindOk.mp ok
    rw [List.foldlM_cons] at ok
    obtain ⟨next,here,ok⟩ := Machine.bindOk.mp ok
    cases ok
    obtain ⟨usable,rfl⟩ := ih earlier
    obtain ⟨clean,rfl⟩ := consideredLeads here
    rw [List.map_append,List.map_cons,List.map_nil,Leader.leaderAppend]
    refine ⟨fun other listed => ?_,rfl⟩
    rcases List.mem_append.mp listed with old | last
    · exact usable other old
    · rw [List.mem_singleton.mp last]
      exact clean

/-! Specs of one registry have different bundle ids, and a usable candidate has its spec's. -/

theorem affectedOrdered (plans input) :
    (affectedBy plans input).Pairwise fun lhs rhs => lhs.bundleId < rhs.bundleId :=
  (buildFromRuntimePlans plans).ordered.filter _
theorem usableBundle {spec} (usable : (candidate config input policy spec).fallbackRequired = false) :
    (candidate config input policy spec).intent.bundleId = spec.bundleId := candidateBundle usable

theorem rankDistinct {affected : List KernelSpec}
    (ordered : affected.Pairwise fun lhs rhs => lhs.bundleId < rhs.bundleId)
    (usable : ∀ spec ∈ affected, (candidate config input policy spec).fallbackRequired = false) :
    ∀ x ∈ affected.map (candidate config input policy), ∀ y ∈ affected.map (candidate config input policy),
      rank x = rank y → x = y := by
  intro x listed y listed' same
  obtain ⟨spec,mem,rfl⟩ := List.mem_map.mp listed
  obtain ⟨spec',mem',rfl⟩ := List.mem_map.mp listed'
  have ids : spec.bundleId = spec'.bundleId := by
    rw [← usableBundle (usable spec mem),← usableBundle (usable spec' mem')]
    apply UInt64.toNat_inj.mp
    have second := congrArg (fun r => (ofLex r).2) same
    simp only [rank,ofLex_toLex] at second
    omega
  have apart : (affected.map (·.bundleId)).Nodup :=
    List.pairwise_map.mpr (ordered.imp fun below => UInt64.ne_of_lt below)
  rw [List.inj_on_of_nodup_map apart mem mem' ids]

-- In a list in that order, what stands before a spec is what has a smaller id.
theorem beforeIff {before after : List KernelSpec} {spec}
    (ordered : (before ++ spec::after).Pairwise fun lhs rhs => lhs.bundleId < rhs.bundleId) (other : KernelSpec) :
    other ∈ before ↔ other ∈ before ++ spec::after ∧ other.bundleId < spec.bundleId := by
  obtain ⟨_,later,apart⟩ := List.pairwise_append.mp ordered
  constructor
  · intro mem
    exact ⟨List.mem_append_left _ mem,apart other mem spec (.head _)⟩
  · rintro ⟨listed,below⟩
    rcases List.mem_append.mp listed with mem | rest
    · exact mem
    · rcases List.mem_cons.mp rest with same | mem
      · rw [same] at below
        exact absurd below (UInt64.lt_irrefl _)
      · exact absurd ((List.pairwise_cons.mp later).1 other mem) (UInt64.lt_asymm below)

/-! The choice, against the candidates of the whole event. -/

theorem rankLeIff {a b : FastPathResult} : rank b ≤ rank a ↔ ¬ Above b a :=
  (not_congr rankLt).symm.trans not_lt |>.symm

theorem plannedFirst {results : List FastPathResult} {best} (listed : best ∈ results) :
    BestPlanned results best ↔
      best.producedPlan = true ∧ ∀ r ∈ results, r.producedPlan = true → rank r ≤ rank best := by
  constructor
  · rintro ⟨_,produced,largest,smallest⟩
    refine ⟨produced,fun r mem planned => rankLeIff.mpr ?_⟩
    rintro (larger | ⟨same,smaller⟩)
    · exact absurd (largest r mem planned) (not_le.mpr larger)
    · exact absurd (smallest r mem planned same) (UInt64.not_le.mpr smaller)
  · rintro ⟨produced,below⟩
    exact ⟨listed,produced,fun r mem planned => (rankLe (below r mem planned)).1,
      fun r mem planned => (rankLe (below r mem planned)).2⟩

variable {affected : List KernelSpec}

theorem bestIff (ordered : affected.Pairwise fun lhs rhs => lhs.bundleId < rhs.bundleId) {chosen}
    (ok : choose config input policy affected = .ok chosen)
    (planned : ∃ spec ∈ affected, (candidate config input policy spec).producedPlan = true) :
    (∃ best, choose config input policy affected = .ok (some best) ∧
      BestPlanned (affected.map (candidate config input policy)) best) ↔
    ∀ spec ∈ affected, (candidate config input policy spec).producedPlan = false →
      ∃ other ∈ affected, (candidate config input policy other).producedPlan = true ∧
        Above (candidate config input policy other) (candidate config input policy spec) := by
  obtain ⟨usable,led⟩ := chosenLeads ok
  have distinct := rankDistinct ordered usable
  obtain ⟨present,mem,_⟩ := planned
  cases chosen with
  | none => exact absurd (List.map_eq_nil_iff.mp (Leader.leaderNone led.symm)) (List.ne_nil_of_mem mem)
  | some best =>
    have qualified := Leader.leaderQualified distinct (P := fun r => r.producedPlan = true) led.symm
    have here : (∃ best, choose config input policy affected = .ok (some best) ∧
        BestPlanned (affected.map (candidate config input policy)) best) ↔
        BestPlanned (affected.map (candidate config input policy)) best := by
      constructor
      · rintro ⟨other,same,first⟩
        rw [ok] at same
        cases same
        exact first
      · intro first
        exact ⟨best,ok,first⟩
    rw [here,plannedFirst (Leader.leaderLeads led.symm).1,qualified]
    constructor
    · intro beaten spec listed idle
      obtain ⟨r,found,produced,above⟩ :=
        beaten _ (List.mem_map_of_mem listed) (by rw [idle]; exact Bool.false_ne_true)
      obtain ⟨other,mem',rfl⟩ := List.mem_map.mp found
      exact ⟨other,mem',produced,rankLt.mp above⟩
    · intro beaten r found idle
      obtain ⟨spec,listed,rfl⟩ := List.mem_map.mp found
      obtain ⟨other,mem',produced,above⟩ := beaten spec listed ((Bool.not_eq_true _).mp idle)
      exact ⟨_,List.mem_map_of_mem mem',produced,rankLt.mpr above⟩

theorem prefixChosen {before after : List KernelSpec} {chosen}
    (ok : choose config input policy (before ++ after) = .ok chosen) :
    ∃ kept, choose config input policy before = .ok kept := by
  rw [chooseAppend] at ok
  obtain ⟨kept,earlier,_⟩ := Machine.bindOk.mp ok
  exact ⟨kept,earlier⟩
theorem nextChosen {before after : List KernelSpec} {spec chosen}
    (ok : choose config input policy (before ++ spec::after) = .ok chosen) :
    ∃ kept, choose config input policy (before ++ [spec]) = .ok kept := by
  rw [List.append_cons] at ok
  exact prefixChosen ok

theorem chosenFirst {specs : List KernelSpec}
    (ordered : specs.Pairwise fun lhs rhs => lhs.bundleId < rhs.bundleId) {kept first}
    (ok : choose config input policy specs = .ok (some kept)) (mem : first ∈ specs)
    (highest : ∀ other ∈ specs,
      ¬ Above (candidate config input policy other) (candidate config input policy first)) :
    kept = candidate config input policy first := by
  obtain ⟨considered,leads⟩ := chosenLeads ok
  refine Leader.leaderUnique (rankDistinct ordered considered) (List.mem_map_of_mem mem)
    (fun r found => ?_) leads.symm
  obtain ⟨other,there,rfl⟩ := List.mem_map.mp found
  exact rankLeIff.mpr (highest other there)
theorem undisplacedIff (ordered : affected.Pairwise fun lhs rhs => lhs.bundleId < rhs.bundleId) {chosen}
    (ok : choose config input policy affected = .ok chosen) :
    (∀ before spec after kept, affected = before ++ spec::after →
      choose config input policy before = .ok (some kept) → kept.producedPlan = true →
      (candidate config input policy spec).producedPlan = false →
      choose config input policy (before ++ [spec]) = .ok (some kept)) ↔
    ∀ spec ∈ affected, (candidate config input policy spec).producedPlan = false →
      ∀ first ∈ affected, first.bundleId < spec.bundleId →
        (candidate config input policy first).producedPlan = true →
        (∀ other ∈ affected, other.bundleId < spec.bundleId →
          ¬ Above (candidate config input policy other) (candidate config input policy first)) →
        Above (candidate config input policy first) (candidate config input policy spec) := by
  have distinct := rankDistinct ordered (chosenLeads ok).1
  constructor
  · intro undisplaced spec listed idle first mem below produced highest
    obtain ⟨before,after,rfl⟩ := List.append_of_mem listed
    obtain ⟨kept,earlier⟩ := prefixChosen ok
    have leads := (chosenLeads earlier).2
    have inside := (beforeIff ordered first).mpr ⟨mem,below⟩
    cases kept with
    | none => exact absurd (List.map_eq_nil_iff.mp (Leader.leaderNone leads.symm)) (List.ne_nil_of_mem inside)
    | some kept =>
      have same : kept = candidate config input policy first := by
        refine chosenFirst (List.pairwise_append.mp ordered).1 earlier inside fun other mem' => ?_
        obtain ⟨there,below'⟩ := (beforeIff ordered other).mp mem'
        exact highest other there below'
      have still := undisplaced before spec after kept rfl earlier (by rw [same]; exact produced) idle
      have leader := (chosenLeads still).2
      rw [same] at leader
      have notAbove := (Leader.leaderLeads leader.symm).2 (candidate config input policy spec)
        (List.mem_map_of_mem (List.mem_append_right _ (.head _)))
      refine rankLt.mp (lt_of_le_of_ne notAbove fun tie => ?_)
      have one := distinct _ (List.mem_map_of_mem listed) _ (List.mem_map_of_mem mem) tie
      rw [one,produced] at idle
      cases idle
  · rintro outranked before spec after kept rfl earlier produced idle
    have leads := (chosenLeads earlier).2
    obtain ⟨found,highest⟩ := Leader.leaderLeads leads.symm
    obtain ⟨first,inside,rfl⟩ := List.mem_map.mp found
    obtain ⟨mem,below⟩ := (beforeIff ordered first).mp inside
    have above := outranked spec
      (List.mem_append_right _ (.head _)) idle first mem below produced fun other mem' below' =>
      rankLeIff.mp (highest _ (List.mem_map_of_mem ((beforeIff ordered other).mpr ⟨mem',below'⟩)))
    obtain ⟨next,there⟩ := nextChosen ok
    rw [there,(chosenLeads there).2,List.map_append,List.map_cons,List.map_nil,Leader.leaderAppend,← leads,
      Leader.leadKeeps (rankLt.mpr above).le]

theorem decidedChosen {plans s} (given : input.policy = some policy) (affected : affectedBy plans input ≠ [])
    (decided : (process config (some (buildFromRuntimePlans plans)) s input).2.fallbackRequired = false) :
    ∃ chosen, choose config input policy (affectedBy plans input) = .ok chosen := by
  unfold process at decided
  cases gate : eventGate config (some (buildFromRuntimePlans plans)) s input with
  | error reason =>
    rw [gate] at decided
    cases decided
  | ok ready =>
    obtain ⟨registry,policy'⟩ := ready
    obtain ⟨same,given'⟩ := gateOpen gate
    cases same
    cases given.symm.trans given'
    rw [gate] at decided
    simp only at decided
    unfold decideAffected at decided
    simp only at decided
    rw [if_neg (show (buildFromRuntimePlans plans).specsForAsset input.dirtyAssetIndex ≠
      [] from affected)] at decided
    split at decided
    · cases decided
    · cases picked : selectBest config (effectiveFastPathConfig config) input policy
          ((buildFromRuntimePlans plans).specsForAsset input.dirtyAssetIndex) with
      | ok chosen => exact ⟨chosen,picked⟩
      | error exit =>
        rw [picked] at decided
        exact absurd (decided.symm.trans ((selectionSplit _).2 exit picked).1) Bool.false_ne_true

end

-- The loop meets the same bundles in whatever order the plans came; where it decides and some candidate has a
-- plan, it
-- keeps the best of those exactly when the candidates without one are outranked.
theorem selectionExact (config : EventLocalDecisionPipelineConfig) (plans : List BundleRuntimePlan)
    (s : FastPathRuntimeState)
    (input : EventLocalInput) (policy : RiskPolicySnapshot) (given : input.policy = some policy)
    (decided : (process config (some (buildFromRuntimePlans plans)) s input).2.fallbackRequired = false)
    (planned : ∃ spec ∈ affectedBy plans input, (candidate config input policy spec).producedPlan = true) :
    (∀ reordered, plans.Perm reordered →
      (affectedBy reordered input).map (·.bundleId) = (affectedBy plans input).map (·.bundleId)) ∧
    (Selected config input policy (affectedBy plans input) ↔
      Outranked config input policy (affectedBy plans input)) := by
  have present := planned
  obtain ⟨spec,mem,_⟩ := planned
  obtain ⟨chosen,ok⟩ := decidedChosen given (List.ne_nil_of_mem mem) decided
  have best := bestIff (affectedOrdered plans input) ok present
  have still := undisplacedIff (affectedOrdered plans input) ok
  refine ⟨fun reordered same => KernelRegistry.affectedReordered same input.dirtyAssetIndex,?_⟩
  constructor
  · rintro ⟨first,undisplaced⟩ spec listed idle
    exact ⟨best.mp first spec listed idle,still.mp undisplaced spec listed idle⟩
  · intro outranked
    exact ⟨best.mpr fun spec listed idle => (outranked spec listed idle).1,
      still.mpr fun spec listed idle => (outranked spec listed idle).2⟩

open KernelAgreement (bookAt)
def sharedPlan (bundleId partner : Nat) (minTotalEdgeTick : Int) : BundleRuntimePlan :=
  { bundleId
    bundleHash := 4
    oracleArtifactHash := 5
    constraintHash := 6
    legs := [{marketId := some "m1", assetIndex := 1, ratioQtyLots := 1},
      {marketId := some "m2", assetIndex := partner, ratioQtyLots := 1}]
    guaranteedPayoutTick := 100
    minTotalEdgeTick }
def sharedPolicy : RiskPolicySnapshot := {policyHash := 7, minDepthMarginBps := 10000}
def sharedEvent : EventLocalInput :=
  { nowNs := 1000
    dirtyAssetIndex := 1
    depthViews := .data [bookAt 1 1000 10 0x4014000000000000,bookAt 2 1000 20 0x4014000000000000,
      bookAt 3 1000 5 0x4014000000000000]
    policy := some sharedPolicy }
def sharedRegistry (x y : Int) : FixedShapeKernelRegistry :=
  ⟨KernelRegistry.specsFromPlans [] [sharedPlan 1 2 x,sharedPlan 2 3 y],
    by simp [KernelRegistry.specsFromPlans,KernelRegistry.specFromPlan,sharedPlan]⟩

theorem sharedRebuilt (x y) : buildFromRuntimePlans [sharedPlan 1 2 x,sharedPlan 2 3 y] = sharedRegistry x y :=
  KernelRegistry.rebuiltSorted _

-- The bundle of edge 350 misses its own threshold, the one of edge 425 is planned and kept.
theorem outrankedSelected : Selected (pairConfig .paperAuthoritative) sharedEvent sharedPolicy
    (affectedBy [sharedPlan 1 2 1000,sharedPlan 2 3 0] sharedEvent) := by
  refine (selectionExact (pairConfig .paperAuthoritative) [sharedPlan 1 2 1000,sharedPlan 2 3 0]
    {} sharedEvent sharedPolicy rfl
    ?_ ?_).2.mpr ?_
  · rw [sharedRebuilt]
    decide +kernel
  · rw [affectedBy,sharedRebuilt]
    decide +kernel
  · rw [affectedBy,sharedRebuilt]
    decide +kernel

-- The bundle of edge 425 misses its own threshold, the one of edge 350 is planned and displaced.
theorem rejectedDisplaces :
    (process (pairConfig .paperAuthoritative)
      (some (buildFromRuntimePlans [sharedPlan 1 2 0,sharedPlan 2 3 1000])) {}
      sharedEvent).2.fallbackRequired = false ∧
    (∃ spec ∈ affectedBy [sharedPlan 1 2 0,sharedPlan 2 3 1000] sharedEvent,
      (candidate (pairConfig .paperAuthoritative) sharedEvent sharedPolicy spec).producedPlan = true) ∧
    (process (pairConfig .paperAuthoritative)
      (some (buildFromRuntimePlans [sharedPlan 1 2 0,sharedPlan 2 3 1000])) {}
      sharedEvent).2.producedPlan = false ∧
    ¬ Selected (pairConfig .paperAuthoritative) sharedEvent sharedPolicy
      (affectedBy [sharedPlan 1 2 0,sharedPlan 2 3 1000] sharedEvent) := by
  rw [affectedBy,sharedRebuilt]
  refine ⟨by decide +kernel,by decide +kernel,by decide +kernel,fun selected => ?_⟩
  obtain ⟨best,ok,first⟩ := selected.best
  have idle : ∀ best ∈ (choose (pairConfig .paperAuthoritative) sharedEvent sharedPolicy
      ((sharedRegistry 0 1000).specsForAsset sharedEvent.dirtyAssetIndex)).toOption.join,
      best.producedPlan = false := by
    decide +kernel
  have missing := idle best (by rw [ok]; exact Option.mem_some_self best)
  rw [first.produced] at missing
  cases missing

end Polytope.FastPathSelection
