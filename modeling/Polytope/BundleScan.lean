import Polytope.BundleArtifact
import Polytope.InvertedIndex

/-! BundleRegistry and the scans over it: all bundles, or those an inverted index lists under the dirty
assets. -/
namespace Polytope.BundleScan
open ByteReader (Bytes)
open BundleArtifact (CandidateBundle)
open CombinatorialBundles (kMaxBundleLegs)
open InvertedIndex Sorting

structure OracleArtifactReader where
  bundles : List CandidateBundle := []
  artifactVersion : UInt64 := 0
  bundleHash : UInt64 := 0
  deriving DecidableEq
def OracleArtifactReader.activeBundles (reader : OracleArtifactReader) : List CandidateBundle := reader.bundles

def idOf (bundle : CandidateBundle) : Nat := bundle.bundleId.toNat
def legAssets (bundle : CandidateBundle) : List Bytes :=
  ((bundle.legs.take kMaxBundleLegs).map (·.assetId)).filter fun assetId => decide (assetId ≠ [])

-- An asset that is no key of the map has no bundles.
structure BundleRegistry where
  bundles : List CandidateBundle := []
  bundleIndex : Nat → Option Nat := fun _ => none
  assetToBundles : Bytes → List Nat := fun _ => []
  artifactHash : UInt64 := 0

structure RegistryIndex where
  bundleIndex : Nat → Option Nat := fun _ => none
  assetToBundles : Bytes → List Nat := fun _ => []
def addBundle (built : RegistryIndex) (entry : CandidateBundle × Nat) : Option RegistryIndex :=
  if (built.bundleIndex (idOf entry.1)).isSome then none
  else some ⟨Function.update built.bundleIndex (idOf entry.1)
    (some entry.2),post idOf legAssets built.assetToBundles entry.1⟩
def indexBundles (bundles : List CandidateBundle) : Option RegistryIndex := bundles.zipIdx.foldlM addBundle {}
def registryArtifactHash (reader : OracleArtifactReader) : UInt64 :=
  Fnv.mixU64 (Fnv.mixU64 Fnv.offset reader.artifactVersion) reader.bundleHash

-- Every path assigns all members, so what the registry held before is gone.
def loadFromOracleReader (sorter : Sorter CandidateBundle) (reader : OracleArtifactReader) :
    BundleRegistry × Bool :=
  if reader.artifactVersion = 0 then ({},false)
  else
    let bundles := sorter.sort (byKey idOf) reader.activeBundles
    match indexBundles bundles with
    | none => ({},false)
    | some built =>
      ({ bundles, bundleIndex := built.bundleIndex
         assetToBundles := fun assetId => unique ((built.assetToBundles assetId).insertionSort (· ≤ ·))
         artifactHash := registryArtifactHash reader },true)

namespace BundleRegistry
variable (registry : BundleRegistry)
def activeBundles : List CandidateBundle := registry.bundles
def findBundle (bundleId : Nat) : Option CandidateBundle :=
  (registry.bundleIndex bundleId).bind fun i => registry.bundles[i]?
def bundlesForAsset (assetId : Bytes) : List Nat := registry.assetToBundles assetId
end BundleRegistry

-- seen_ holds the same ids as assets_.
structure DirtyAssetSet where
  assets : List Bytes := []
  distinct : assets.Nodup := by decide
  named : [] ∉ assets := by decide
def DirtyAssetSet.markDirty (dirty : DirtyAssetSet) (assetId : Bytes) : DirtyAssetSet :=
  if empty : assetId = [] then dirty
  else
    { assets := addFresh dirty.assets assetId
      distinct := addFreshNodup dirty.distinct
      named := fun listed => (addFreshMem.mp listed).elim dirty.named fun same => empty same.symm }

def fullScan (registry : BundleRegistry) : List CandidateBundle := registry.activeBundles
def dirtyAssetScan (registry : BundleRegistry) (dirty : DirtyAssetSet) : List CandidateBundle :=
  ((gather (dirty.assets.flatMap registry.bundlesForAsset)).insertionSort (· ≤ ·)).filterMap registry.findBundle

def onDirty (dirty : DirtyAssetSet) (bundle : CandidateBundle) : Bool :=
  bundle.legs.any fun leg => dirty.assets.contains leg.assetId

/-! What the index of a registry holds. -/

structure Indexed (bundles : List CandidateBundle) (built : RegistryIndex) : Prop where
  distinct : (bundles.map idOf).Nodup
  finds : ∀ id i, built.bundleIndex id = some i ↔ (bundles.map idOf)[i]? = some id
  lists : built.assetToBundles = bundles.foldl (post idOf legAssets) fun _ => []

theorem addRefused {bundles built} (indexed : Indexed bundles built) {bundle}
    (old : idOf bundle ∈ bundles.map idOf) (i : Nat) :
    addBundle built (bundle,i) = none := by
  obtain ⟨at_,here⟩ := List.getElem?_of_mem old
  rw [addBundle,if_pos]
  rw [(indexed.finds _ at_).mpr here]
  rfl
theorem addIndexed {bundles built} (indexed : Indexed bundles built) {bundle}
    (fresh : idOf bundle ∉ bundles.map idOf) :
    ∃ next, addBundle built (bundle,bundles.length) = some next ∧ Indexed (bundles ++ [bundle]) next := by
  have absent : built.bundleIndex (idOf bundle) = none := by
    cases found : built.bundleIndex (idOf bundle) with
    | none => rfl
    | some i => exact absurd (List.mem_of_getElem? ((indexed.finds _ i).mp found)) fresh
  refine ⟨_,if_neg (by rw [absent]; exact Bool.false_ne_true),?_,?_,?_⟩
  · rw [List.map_append,List.nodup_append]
    exact ⟨indexed.distinct,List.nodup_singleton _,fun a old b last same =>
      fresh (List.mem_singleton.mp last ▸ same ▸ old)⟩
  · intro id i
    have appended := positionAppended indexed.finds fresh id i
    rw [List.length_map] at appended
    rw [List.map_append]
    exact appended
  · rw [List.foldl_append,← indexed.lists]
    rfl
theorem indexRun {rest bundles built} (indexed : Indexed bundles built) :
    (∃ next, (rest.zipIdx bundles.length).foldlM addBundle built = some next ∧ Indexed (bundles ++ rest) next) ∨
      (rest.zipIdx bundles.length).foldlM addBundle built = none ∧ ¬ ((bundles ++ rest).map idOf).Nodup := by
  induction rest generalizing bundles built with
  | nil => exact .inl ⟨built,rfl,by rwa [List.append_nil]⟩
  | cons bundle rest ih =>
    rw [List.zipIdx_cons,List.foldlM_cons]
    by_cases old : idOf bundle ∈ bundles.map idOf
    · refine .inr ⟨by rw [addRefused indexed old]; rfl,fun distinct => ?_⟩
      rw [List.map_append,List.map_cons] at distinct
      exact (List.nodup_append.mp distinct).2.2 _ old _ List.mem_cons_self rfl
    · obtain ⟨next,added,stays⟩ := addIndexed indexed old
      have later := ih stays
      rw [List.length_append,List.length_singleton,List.append_assoc] at later
      rw [added]
      exact later
theorem indexed (bundles : List CandidateBundle) :
    (∃ built, indexBundles bundles = some built ∧ Indexed bundles built) ∨
      indexBundles bundles = none ∧ ¬ (bundles.map idOf).Nodup := by
  have start : Indexed [] {} := ⟨List.nodup_nil,fun _ _ => by simp,rfl⟩
  exact indexRun start

/-! The scans of a loaded registry. -/

theorem loadCases (sorter : Sorter CandidateBundle) (reader : OracleArtifactReader) :
    (reader.artifactVersion ≠ 0 ∧ (reader.bundles.map idOf).Nodup ∧ (loadFromOracleReader sorter reader).2 = true ∧
      ∃ built, Indexed (sorter.sort (byKey idOf) reader.bundles) built ∧
        (loadFromOracleReader sorter reader).1 =
          { bundles := sorter.sort (byKey idOf) reader.bundles, bundleIndex := built.bundleIndex
            assetToBundles := fun assetId => unique ((built.assetToBundles assetId).insertionSort (· ≤ ·))
            artifactHash := registryArtifactHash reader }) ∨
      ¬ (reader.artifactVersion ≠ 0 ∧ (reader.bundles.map idOf).Nodup) ∧
        loadFromOracleReader sorter reader = ({},false) := by
  by_cases version : reader.artifactVersion = 0
  · exact .inr ⟨fun held => held.1 version,if_pos version⟩
  · have sorted : ((sorter.sort (byKey idOf) reader.bundles).map idOf).Nodup ↔ (reader.bundles.map idOf).Nodup :=
      ((sorter.perm (byKey idOf) reader.bundles).map idOf).nodup_iff
    rcases indexed (sorter.sort (byKey idOf) reader.bundles) with ⟨built,found,holds⟩ | ⟨found,twice⟩
    · have shape : loadFromOracleReader sorter reader =
          ({ bundles := sorter.sort (byKey idOf) reader.bundles, bundleIndex := built.bundleIndex
             assetToBundles := fun assetId => unique ((built.assetToBundles assetId).insertionSort (· ≤ ·))
             artifactHash := registryArtifactHash reader },true) := by
        simp only [loadFromOracleReader,if_neg version,OracleArtifactReader.activeBundles,found]
      exact .inl ⟨version,sorted.mp holds.distinct,by rw [shape],built,holds,by rw [shape]⟩
    · refine .inr ⟨fun held => twice (sorted.mpr held.2),?_⟩
      simp only [loadFromOracleReader,if_neg version,OracleArtifactReader.activeBundles,found]

section
variable {bundles : List CandidateBundle} {built : RegistryIndex} (holds : Indexed bundles built)
include holds

theorem foundBundle (id : Nat) (bundle : CandidateBundle) :
    ((built.bundleIndex id).bind fun i => bundles[i]?) = some bundle ↔ bundle ∈ bundles ∧ idOf bundle = id := by
  rw [Option.bind_eq_some_iff]
  constructor
  · rintro ⟨i,position,here⟩
    have same := (holds.finds id i).mp position
    rw [List.getElem?_map,here] at same
    exact ⟨List.mem_of_getElem? here,Option.some.inj same⟩
  · rintro ⟨mem,rfl⟩
    obtain ⟨i,here⟩ := List.getElem?_of_mem mem
    exact ⟨i,(holds.finds _ i).mpr (by rw [List.getElem?_map,here]; rfl),here⟩
theorem listedUnder {assetId id} : id ∈ unique ((built.assetToBundles assetId).insertionSort (· ≤ ·)) ↔
    ∃ bundle ∈ bundles, idOf bundle = id ∧ assetId ∈ legAssets bundle := by
  rw [uniqueMem,(List.perm_insertionSort _ _).mem_iff,holds.lists,postAllMem]
  simp
theorem listedDirty (dirty : DirtyAssetSet) {bundle} (mem : bundle ∈ bundles) :
    idOf bundle ∈ dirty.assets.flatMap
      (fun assetId => unique ((built.assetToBundles assetId).insertionSort (· ≤ ·))) ↔
      onDirty dirty bundle = true := by
  have legs : ∀ assetId ∈ dirty.assets, assetId ∈ legAssets bundle ↔
    ∃ leg ∈ bundle.legs, leg.assetId = assetId := by
    intro assetId listed
    have named : assetId ≠ [] := fun empty => dirty.named (empty ▸ listed)
    rw [legAssets,List.take_of_length_le bundle.legsFit,List.mem_filter,List.mem_map]
    simp [named]
  simp only [List.mem_flatMap,listedUnder holds,onDirty,List.any_eq_true,List.contains_iff_mem]
  constructor
  · rintro ⟨assetId,listed,other,there,same,carries⟩
    have own : other = bundle := List.inj_on_of_nodup_map holds.distinct there mem same
    obtain ⟨leg,inside,rfl⟩ := (legs assetId listed).mp (own ▸ carries)
    exact ⟨leg,inside,listed⟩
  · rintro ⟨leg,inside,listed⟩
    exact ⟨leg.assetId,listed,bundle,mem,rfl,(legs _ listed).mpr ⟨leg,inside,rfl⟩⟩
end

theorem dirtyScanExact (sorter : Sorter CandidateBundle) (reader : OracleArtifactReader) (dirty : DirtyAssetSet) :
    ((loadFromOracleReader sorter reader).2 = true ↔
      reader.artifactVersion ≠ 0 ∧ (reader.bundles.map idOf).Nodup) ∧
      ((loadFromOracleReader sorter reader).2 = true →
        (fullScan (loadFromOracleReader sorter reader).1).Perm reader.activeBundles ∧
          ((fullScan (loadFromOracleReader sorter reader).1).Pairwise fun a b => idOf a < idOf b) ∧
          dirtyAssetScan (loadFromOracleReader sorter reader).1 dirty =
            (fullScan (loadFromOracleReader sorter reader).1).filter (onDirty dirty)) ∧
      ((loadFromOracleReader sorter reader).2 = false →
        fullScan (loadFromOracleReader sorter reader).1 = [] ∧
          dirtyAssetScan (loadFromOracleReader sorter reader).1 dirty = []) := by
  rcases loadCases sorter reader with ⟨version,distinct,loaded,built,holds,shape⟩ | ⟨refused,failed⟩
  · refine ⟨iff_of_true loaded ⟨version,distinct⟩,fun _ => ?_,fun failed =>
      absurd (loaded.symm.trans failed) (by decide)⟩
    have rising := sortRising sorter idOf distinct
    rw [shape]
    refine ⟨sorter.perm _ _,rising,?_⟩
    refine (scanIsFilter rising (foundBundle holds) _).trans (List.filter_congr fun bundle mem => ?_)
    rw [Bool.eq_iff_iff,decide_eq_true_iff]
    exact listedDirty holds dirty mem
  · have empty : dirty.assets.flatMap (({} : BundleRegistry).bundlesForAsset) = [] :=
      List.flatMap_eq_nil_iff.mpr fun _ _ => rfl
    rw [failed]
    refine ⟨iff_of_false Bool.false_ne_true refused,fun loaded =>
      absurd loaded Bool.false_ne_true,fun _ => ⟨rfl,?_⟩⟩
    rw [dirtyAssetScan,empty]
    rfl

end Polytope.BundleScan
