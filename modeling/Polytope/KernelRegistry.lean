import Polytope.FastPathPipeline
import Polytope.SignalPricing

/-! FixedShapeKernelRegistry::build_from_runtime_plans. Markets are numbered in the order they are
met and a leg without a market id has number 0, so the specs depend on the order of the plans;
which bundles are registered, and in what order an asset lists them, does not. -/
namespace Polytope.KernelRegistry
open FastPathPipeline
open FixedShapeKernel (KernelLeg FixedShapeKernelSpec kMaxFixedShapeKernelLegs)
open SignalPricing (BundleRuntimePlan RuntimeLeg assetIndexOf noteAsset)

def marketIndexFor (met : List String) : Option String → Nat
  | none => 0
  | some marketId => if marketId = "" then 0 else assetIndexOf met marketId
def noteMarket (met : List String) : Option String → List String
  | none => met
  | some marketId => if marketId = "" then met else noteAsset met marketId
def kernelLegs : List String → List RuntimeLeg → List String × List KernelLeg
  | met,[] => (met,[])
  | met,leg::rest =>
    let (met',legs) := kernelLegs (noteMarket met leg.marketId) rest
    (met',⟨leg.assetIndex,marketIndexFor met leg.marketId,leg.side,leg.ratioQtyLots⟩::legs)
def specFromPlan (met : List String) (plan : BundleRuntimePlan) : List String × KernelSpec :=
  let (met',legs) := kernelLegs met (plan.legs.take kMaxFixedShapeKernelLegs)
  let spec : FixedShapeKernelSpec :=
    { artifactHash := plan.oracleArtifactHash
      bundleHash := plan.bundleHash
      constraintHash := plan.constraintHash
      bundleId := UInt64.ofNat plan.bundleId
      legs
      guaranteedPayoutTick := plan.guaranteedPayoutTick
      minUnitEdgeTick := plan.minUnitEdgeTick
      minTotalEdgeTick := plan.minTotalEdgeTick
      minEdgeBps := plan.minEdgeBps
      minBundleQty := 1 }
  (met',{spec with kernelSpecHash := hashFixedShapeKernelSpec spec})
def specsFromPlans : List String → List BundleRuntimePlan → List KernelSpec
  | _,[] => []
  | met,plan::rest => (specFromPlan met plan).2::specsFromPlans (specFromPlan met plan).1 rest
def buildFromRuntimePlans (plans : List BundleRuntimePlan) : FixedShapeKernelRegistry :=
  rebuildIndexes (specsFromPlans [] plans)

/-! What the order of the plans leaves alone: the bundle and the assets of each spec. -/

def shape (spec : KernelSpec) : UInt64 × List Nat := (spec.bundleId,spec.legs.map (·.assetIndex))
def planShape (plan : BundleRuntimePlan) : UInt64 × List Nat :=
  (UInt64.ofNat plan.bundleId,(plan.legs.take kMaxFixedShapeKernelLegs).map (·.assetIndex))

theorem legsShape (met legs) : (kernelLegs met legs).2.map (·.assetIndex) = legs.map (·.assetIndex) := by
  induction legs generalizing met with
  | nil => rfl
  | cons leg rest ih =>
    simp only [kernelLegs,List.map_cons]
    rw [ih (noteMarket met leg.marketId)]
theorem specShape (met plan) : shape (specFromPlan met plan).2 = planShape plan := by
  simp only [shape,specFromPlan,planShape,legsShape]
theorem specsShape (met plans) : (specsFromPlans met plans).map shape = plans.map planShape := by
  induction plans generalizing met with
  | nil => rfl
  | cons plan rest ih =>
    simp only [specsFromPlans,List.map_cons]
    rw [specShape,ih]

/-! The rebuilt indexes. -/

abbrev sorted (specs : List KernelSpec) : List KernelSpec :=
  specs.mergeSort fun lhs rhs => decide (lhs.bundleId ≤ rhs.bundleId)

theorem sortedLe (specs) : (sorted specs).Pairwise fun lhs rhs => lhs.bundleId ≤ rhs.bundleId := by
  refine (List.pairwise_mergeSort (fun a b c first second => ?_) (fun a b => ?_) specs).imp fun below =>
    of_decide_eq_true below
  · exact decide_eq_true (UInt64.le_trans (of_decide_eq_true first) (of_decide_eq_true second))
  · rw [Bool.or_eq_true,decide_eq_true_eq,decide_eq_true_eq]
    exact UInt64.le_total _ _
theorem sortedLtIff (specs) :
    ((sorted specs).Pairwise fun lhs rhs => lhs.bundleId < rhs.bundleId) ↔ (specs.map (·.bundleId)).Nodup := by
  rw [← ((List.mergeSort_perm specs _).map (·.bundleId)).nodup_iff,List.Nodup,List.pairwise_map]
  constructor
  · exact fun ordered => ordered.imp fun below => UInt64.ne_of_lt below
  · exact fun apart => (sortedLe specs).imp₂ (fun _ _ below other => UInt64.lt_of_le_of_ne below other) apart

theorem rebuiltSorted {specs : List KernelSpec}
    (ordered : specs.Pairwise fun lhs rhs => lhs.bundleId < rhs.bundleId) :
    rebuildIndexes specs = ⟨specs,ordered⟩ := by
  have same : sorted specs = specs :=
    List.mergeSort_of_pairwise (ordered.imp fun below => decide_eq_true (UInt64.le_of_lt below))
  unfold rebuildIndexes
  simp only
  rw [dif_pos (show (sorted specs).Pairwise fun lhs rhs =>
    lhs.bundleId < rhs.bundleId by rw [same]; exact ordered)]
  congr 1

theorem rebuiltShape {specs specs' : List KernelSpec} (same : (specs.map shape).Perm (specs'.map shape)) :
    (rebuildIndexes specs).specs.map shape = (rebuildIndexes specs').specs.map shape := by
  have ids : ∀ specs : List KernelSpec, specs.map (·.bundleId) = (specs.map shape).map Prod.fst := fun specs => by
    rw [List.map_map]
    rfl
  have unique : (specs.map (·.bundleId)).Nodup ↔ (specs'.map (·.bundleId)).Nodup := by
    rw [ids,ids]
    exact (same.map Prod.fst).nodup_iff
  unfold rebuildIndexes
  simp only
  by_cases ordered : (sorted specs).Pairwise fun lhs rhs => lhs.bundleId < rhs.bundleId
  · have ordered' := (sortedLtIff specs').mpr (unique.mp ((sortedLtIff specs).mp ordered))
    rw [dif_pos ordered,dif_pos ordered']
    refine @List.Perm.eq_of_pairwise _ (fun a b => a.1 < b.1) _ _ (fun a b _ _ above below => ?_) ?_ ?_ ?_
    · exact absurd below (UInt64.lt_asymm above)
    · exact List.pairwise_map.mpr ordered
    · exact List.pairwise_map.mpr ordered'
    · exact ((List.mergeSort_perm specs _).map shape).trans
        (same.trans ((List.mergeSort_perm specs' _).map shape).symm)
  · have disordered' : ¬ (sorted specs').Pairwise fun lhs rhs => lhs.bundleId < rhs.bundleId := fun ordered' =>
      ordered ((sortedLtIff specs).mpr (unique.mpr ((sortedLtIff specs').mp ordered')))
    rw [dif_neg ordered,dif_neg disordered']

theorem listedShape (specs : List KernelSpec) (assetIndex : Nat) :
    (specs.filter fun spec => spec.legs.any fun leg => leg.assetIndex == assetIndex).map shape =
      (specs.map shape).filter fun shaped => shaped.2.any fun index => index == assetIndex := by
  rw [List.filter_map]
  congr 1
  refine List.filter_congr fun spec _ => ?_
  simp only [Function.comp_apply,shape,List.any_map]
  rfl
theorem affectedReordered {plans reordered : List BundleRuntimePlan} (same : plans.Perm reordered)
    (assetIndex : Nat) :
    ((buildFromRuntimePlans reordered).specsForAsset assetIndex).map (·.bundleId) =
      ((buildFromRuntimePlans plans).specsForAsset assetIndex).map (·.bundleId) := by
  have shapes : (buildFromRuntimePlans reordered).specs.map shape =
    (buildFromRuntimePlans plans).specs.map shape := by
    refine rebuiltShape ?_
    rw [specsShape,specsShape]
    exact (same.map planShape).symm
  have listed : ((buildFromRuntimePlans reordered).specsForAsset assetIndex).map shape =
      ((buildFromRuntimePlans plans).specsForAsset assetIndex).map shape := by
    unfold FixedShapeKernelRegistry.specsForAsset
    rw [listedShape,listedShape,shapes]
  have firsts := congrArg (List.map Prod.fst) listed
  rw [List.map_map,List.map_map] at firsts
  exact firsts

end Polytope.KernelRegistry
