import Polytope.BundleArtifact
import Polytope.OrderedMap
import Polytope.Fnv
import Mathlib.Order.Lex
import Mathlib.Data.List.Lex

/-! The loader of an artifact directory. What checksums.txt lists is hashed and compared, what the
loader returns is read file by file; the two lists of files are not the same. -/
namespace Polytope.ArtifactIntegrity
open ByteReader (Bytes)
open BundleArtifact (Json ascii findField stringField u64Field)
open OrderedMap

/-! Paths and files. -/

inductive ArtifactFile where
  | manifest | marketUniverse | rulebook | variablesBin | constraints | components | componentConstraints
  | oracleDescriptors | bundleTemplates | feasibleStates | payoffMatrix | candidateBundles
  | marketDependencyGraph | settlementBitmask
  deriving DecidableEq, Repr
def ArtifactFile.name : ArtifactFile → Bytes
  | .manifest => ascii "manifest.json"
  | .marketUniverse => ascii "market_universe.json"
  | .rulebook => ascii "rulebook.json"
  | .variablesBin => ascii "variables.bin"
  | .constraints => ascii "constraints.bin"
  | .components => ascii "components.bin"
  | .componentConstraints => ascii "component_constraints.bin"
  | .oracleDescriptors => ascii "oracle_descriptors.bin"
  | .bundleTemplates => ascii "bundle_templates.bin"
  | .feasibleStates => ascii "feasible_states.bin"
  | .payoffMatrix => ascii "payoff_matrix.bin"
  | .candidateBundles => ascii "candidate_bundles.bin"
  | .marketDependencyGraph => ascii "market_dependency_graph.bin"
  | .settlementBitmask => ascii "settlement_bitmask.bin"
def kChecksumsFile : Bytes := ascii "checksums.txt"
def kArtifactPayloadFiles : List ArtifactFile :=
  [.manifest,.marketUniverse,.rulebook,.variablesBin,.constraints,.components,.componentConstraints,
    .oracleDescriptors,
    .bundleTemplates,.feasibleStates,.payoffMatrix,.candidateBundles,.marketDependencyGraph,.settlementBitmask]
def kChecksumFiles : List ArtifactFile :=
  [.manifest,.marketUniverse,.rulebook,.variablesBin,.constraints,.components,.componentConstraints,
    .oracleDescriptors,
    .bundleTemplates,.feasibleStates,.payoffMatrix,.candidateBundles]
def kLegacyRequiredChecksumFiles : List ArtifactFile :=
  [.manifest,.marketUniverse,.rulebook,.variablesBin,.constraints,.feasibleStates,.payoffMatrix,.candidateBundles]

-- What a path leads to: a file, a file whose reading stops with an error, or something that does not open.
inductive Entry where
  | file (bytes : Bytes)
  | broken (before : Bytes)
  | unopenable
  deriving DecidableEq, Repr
abbrev Files := Bytes → Option Entry
-- A name that starts with a slash stands for itself.
def joinPath (dir name : Bytes) : Bytes :=
  if name.head? = some 47 ∨ dir = [] then name else if dir.getLast? = some 47 then dir ++ name else dir ++ 47::name

abbrev Errors := List Bytes
def openError (path : Bytes) : Errors := [ascii "failed to open artifact file: " ++ path]
def readError (path : Bytes) : Errors := [ascii "failed to read artifact file: " ++ path]
def readText (files : Files) (path : Bytes) : Bytes × Errors :=
  match files path with
  | some (.file bytes) => (bytes,[])
  -- The failure of the copy is noted by the stream copied to, which is not asked.
  | some (.broken before) => (before,[])
  | some .unopenable | none => ([],openError path)
def readBytes (files : Files) (path : Bytes) : Bytes × Errors :=
  match files path with
  | some (.file bytes) => (bytes,[])
  | some (.broken before) => (before,readError path)
  | some .unopenable | none => ([],openError path)
def readOptionalBytes (files : Files) (path : Bytes) : Bytes × Errors :=
  match files path with
  | none => ([],[])
  | some _ => readBytes files path

/-! Checksums. -/

def fnv1a64 (data : Bytes) : UInt64 := data.foldl (fun hash byte => Fnv.mixByte hash byte.toUInt64) Fnv.offset
def hexDigit (value : UInt64) : UInt8 := if value < 10 then 48 + value.toUInt8 else 87 + value.toUInt8
def checksumHex (value : UInt64) : Bytes :=
  ([60,56,52,48,44,40,36,32,28,24,20,16,12,8,4,0] : List UInt64).map fun shift =>
  hexDigit ((value >>> shift) &&& 15)
def checksum (data : Bytes) : Bytes := checksumHex (fnv1a64 data)
def checksumFile (files : Files) (path : Bytes) : Except Bytes Bytes :=
  match files path with
  | some (.file bytes) => .ok (checksum bytes)
  | some (.broken _) => .error (ascii "failed to read checksum file: " ++ path)
  | some .unopenable | none => .error (ascii "failed to open checksum file: " ++ path)

def isSpace (byte : UInt8) : Bool := byte = 32 ∨ 9 ≤ byte ∧ byte ≤ 13
def wordsFrom (word : Bytes) : Bytes → List Bytes
  | [] => if word = [] then [] else [word]
  | byte::rest =>
    if isSpace byte then
      if word = [] then wordsFrom [] rest else word::wordsFrom [] rest
    else wordsFrom (word ++ [byte]) rest
def entriesOf : List Bytes → List (Bytes × Bytes)
  | filename::hash::rest => (filename,hash)::entriesOf rest
  | [_] | [] => []
def nameKey (name : Bytes) : List Nat := name.map UInt8.toNat
abbrev ChecksumTable := KeyedMap nameKey Bytes
def tableOf (content : Bytes) : ChecksumTable :=
  (entriesOf (wordsFrom [] content)).foldl (fun table entry => table.assign entry.1 entry.2) empty
def missingEntry (table : ChecksumTable) (expected : ArtifactFile) : Option Bytes :=
  if (table.find expected.name).isSome then none else some (ascii "missing checksum entry: " ++ expected.name)
def parseChecksums (content : Bytes) : ChecksumTable × Errors :=
  (tableOf content,kLegacyRequiredChecksumFiles.filterMap (missingEntry (tableOf content)))
def entryError (files : Files) (dir : Bytes) (entry : Bytes × Bytes) : Option Bytes :=
  match checksumFile files (joinPath dir entry.1) with
  | .error error => some error
  | .ok hex => if hex ≠ entry.2 then some (ascii "checksum mismatch: " ++ entry.1) else none
def verifyChecksums (files : Files) (dir : Bytes) (table : ChecksumTable) : Bool × Errors :=
  (table.entries.all fun entry => entryError files dir entry = none,table.entries.filterMap (entryError files dir))

/-! The manifest. -/

structure ArtifactManifest where
  artifactVersion : UInt32 := 1
  createdAtNs : UInt64 := 0
  marketCount : UInt32 := 0
  assetCount : UInt32 := 0
  variableCount : UInt32 := 0
  ruleCount : UInt32 := 0
  constraintCount : UInt32 := 0
  componentCount : UInt32 := 0
  enumerableComponentCount : UInt32 := 0
  semanticOracleComponentCount : UInt32 := 0
  fallbackOracleComponentCount : UInt32 := 0
  feasibleStateCount : UInt64 := 0
  bundleCount : UInt64 := 0
  llmEnabled : Bool := false
  llmOutputsUsed : Bool := false
  llmOutputsRequireManualReview : Bool := false
  llmProvider : Bytes := ascii "none"
  inputSnapshotHash : Bytes := []
  rulebookHash : Bytes := []
  constraintHash : Bytes := []
  constraintGraphHash : Bytes := []
  componentPartitionHash : Bytes := []
  oracleDescriptorHash : Bytes := []
  bundleTemplateHash : Bytes := []
  feasibleStatesHash : Bytes := []
  payoffHash : Bytes := []
  bundleHash : Bytes := []
  deriving DecidableEq

def u32Field (object : List (Bytes × Json)) (name : String) : UInt32 := (u64Field object name).toUInt32
def boolField (object : List (Bytes × Json)) (name : String) : Bool :=
  match findField object name with
  | some (.bool value) => value
  | _ => false
def manifestOf (object : List (Bytes × Json)) : ArtifactManifest :=
  { artifactVersion := u32Field object "artifact_version"
    createdAtNs := u64Field object "created_at_ns"
    marketCount := u32Field object "market_count"
    assetCount := u32Field object "asset_count"
    variableCount := u32Field object "variable_count"
    ruleCount := u32Field object "rule_count"
    constraintCount := u32Field object "constraint_count"
    componentCount := u32Field object "component_count"
    enumerableComponentCount := u32Field object "enumerable_component_count"
    semanticOracleComponentCount := u32Field object "semantic_oracle_component_count"
    fallbackOracleComponentCount := u32Field object "fallback_oracle_component_count"
    feasibleStateCount := u64Field object "feasible_state_count"
    bundleCount := u64Field object "bundle_count"
    llmEnabled := boolField object "llm_enabled"
    llmOutputsUsed := boolField object "llm_outputs_used"
    llmOutputsRequireManualReview := boolField object "llm_outputs_require_manual_review"
    llmProvider := stringField object "llm_provider"
    inputSnapshotHash := stringField object "input_snapshot_hash"
    rulebookHash := stringField object "rulebook_hash"
    constraintHash := stringField object "constraint_hash"
    constraintGraphHash := stringField object "constraint_graph_hash"
    componentPartitionHash := stringField object "component_partition_hash"
    oracleDescriptorHash := stringField object "oracle_descriptor_hash"
    bundleTemplateHash := stringField object "bundle_template_hash"
    feasibleStatesHash := stringField object "feasible_states_hash"
    payoffHash := stringField object "payoff_hash"
    bundleHash := stringField object "bundle_hash" }
def parseManifest (parse : Bytes → Option Json) (content : Bytes) : ArtifactManifest × Errors :=
  match parse content with
  | some (.object object) => (manifestOf object,[])
  | _ => ({},[ascii "malformed manifest.json"])

/-! The loader. -/

structure OracleArtifactContents where
  manifest : ArtifactManifest
  marketUniverseJson : Bytes
  rulebookJson : Bytes
  variablesBin : Bytes
  constraintsBin : Bytes
  componentsBin : Bytes
  componentConstraintsBin : Bytes
  oracleDescriptorsBin : Bytes
  bundleTemplatesBin : Bytes
  feasibleStatesBin : Bytes
  payoffMatrixBin : Bytes
  candidateBundlesBin : Bytes
  marketDependencyGraphBin : Bytes
  settlementBitmaskBin : Bytes
structure ArtifactLoadResult where
  contents : OracleArtifactContents
  checksumsOk : Bool
  checksums : ChecksumTable
  errors : Errors
def ArtifactLoadResult.ok (result : ArtifactLoadResult) : Bool := result.checksumsOk && result.errors.isEmpty

def load (parse : Bytes → Option Json) (files : Files) (dir : Bytes) : ArtifactLoadResult :=
  let path (file : ArtifactFile) := joinPath dir file.name
  let checksumText := readText files (joinPath dir kChecksumsFile)
  let checksums := parseChecksums checksumText.1
  let verified := verifyChecksums files dir checksums.1
  let manifestText := readText files (path .manifest)
  let manifest := parseManifest parse manifestText.1
  let marketUniverse := readText files (path .marketUniverse)
  let rulebook := readText files (path .rulebook)
  let variablesBin := readBytes files (path .variablesBin)
  let constraints := readBytes files (path .constraints)
  let components := readOptionalBytes files (path .components)
  let componentConstraints := readOptionalBytes files (path .componentConstraints)
  let oracleDescriptors := readOptionalBytes files (path .oracleDescriptors)
  let bundleTemplates := readOptionalBytes files (path .bundleTemplates)
  let feasibleStates := readBytes files (path .feasibleStates)
  let payoffMatrix := readBytes files (path .payoffMatrix)
  let candidateBundles := readBytes files (path .candidateBundles)
  let marketDependencyGraph := readBytes files (path .marketDependencyGraph)
  let settlementBitmask := readBytes files (path .settlementBitmask)
  { contents :=
      { manifest := manifest.1
        marketUniverseJson := marketUniverse.1
        rulebookJson := rulebook.1
        variablesBin := variablesBin.1
        constraintsBin := constraints.1
        componentsBin := components.1
        componentConstraintsBin := componentConstraints.1
        oracleDescriptorsBin := oracleDescriptors.1
        bundleTemplatesBin := bundleTemplates.1
        feasibleStatesBin := feasibleStates.1
        payoffMatrixBin := payoffMatrix.1
        candidateBundlesBin := candidateBundles.1
        marketDependencyGraphBin := marketDependencyGraph.1
        settlementBitmaskBin := settlementBitmask.1 }
    checksumsOk := verified.1
    checksums := checksums.1
    errors :=
      checksumText.2 ++ checksums.2 ++ verified.2 ++ manifestText.2 ++ manifest.2 ++
        marketUniverse.2 ++ rulebook.2 ++
        variablesBin.2 ++ constraints.2 ++ components.2 ++ componentConstraints.2 ++ oracleDescriptors.2 ++
          bundleTemplates.2 ++
        feasibleStates.2 ++ payoffMatrix.2 ++ candidateBundles.2 ++ marketDependencyGraph.2 ++
          settlementBitmask.2 }

/-! Integrity. -/

def Present (files : Files) (dir : Bytes) (file : ArtifactFile) (bytes : Bytes) : Prop :=
  files (joinPath dir file.name) = some (.file bytes)
-- The manifest comes back parsed, every other file as it is.
def Holds (parse : Bytes → Option Json) (contents : OracleArtifactContents) (bytes : Bytes) : ArtifactFile → Prop
  | .manifest => parseManifest parse bytes = (contents.manifest,[])
  | .marketUniverse => contents.marketUniverseJson = bytes
  | .rulebook => contents.rulebookJson = bytes
  | .variablesBin => contents.variablesBin = bytes
  | .constraints => contents.constraintsBin = bytes
  | .components => contents.componentsBin = bytes
  | .componentConstraints => contents.componentConstraintsBin = bytes
  | .oracleDescriptors => contents.oracleDescriptorsBin = bytes
  | .bundleTemplates => contents.bundleTemplatesBin = bytes
  | .feasibleStates => contents.feasibleStatesBin = bytes
  | .payoffMatrix => contents.payoffMatrixBin = bytes
  | .candidateBundles => contents.candidateBundlesBin = bytes
  | .marketDependencyGraph => contents.marketDependencyGraphBin = bytes
  | .settlementBitmask => contents.settlementBitmaskBin = bytes
-- A changed file that the table still accepts has the checksum of the old one.
structure Intact (parse : Bytes → Option Json) (files : Files) (dir : Bytes) : Prop where
  returned : ∀ file bytes, Present files dir file bytes → Holds parse (load parse files dir).contents bytes file
  hashed : ∀ file bytes, Present files dir file bytes →
    (load parse files dir).checksums.find file.name = some (checksum bytes)
  unchanged : ∀ files', files' (joinPath dir kChecksumsFile) = files (joinPath dir kChecksumsFile) →
    (load parse files' dir).ok = true → ∀ file bytes bytes', Present files dir file bytes →
    Present files' dir file bytes' →
      checksum bytes' = checksum bytes

-- The files the loader returns without asking for their entries.
def uncheckedFiles : List ArtifactFile :=
  [.components,.componentConstraints,.oracleDescriptors,.bundleTemplates,.marketDependencyGraph,.settlementBitmask]
def ChecksumCovered (files : Files) (dir : Bytes) : Prop :=
  ∀ file ∈ uncheckedFiles, ∀ bytes, Present files dir file bytes →
    ((tableOf (readText files (joinPath dir kChecksumsFile)).1).find file.name).isSome

theorem nameKeyInjective : Function.Injective nameKey :=
  List.map_injective_iff.mpr fun _ _ same => UInt8.toNat.inj same
theorem okParts {parse files dir} (ok : (load parse files dir).ok = true) :
    (load parse files dir).checksumsOk = true ∧ (load parse files dir).errors = [] := by
  rw [ArtifactLoadResult.ok,Bool.and_eq_true,List.isEmpty_iff] at ok
  exact ok
theorem entryVerified {parse files dir} (ok : (load parse files dir).ok = true) {entry}
    (mem : entry ∈ (load parse files dir).checksums.entries) :
    ∃ bytes, files (joinPath dir entry.1) = some (.file bytes) ∧ checksum bytes = entry.2 := by
  have verified := decide_eq_true_iff.mp (List.all_eq_true.mp (okParts ok).1 entry mem)
  unfold entryError checksumFile at verified
  cases found : files (joinPath dir entry.1) with
  | none => simp [found] at verified
  | some there =>
    cases there with
    | broken before => simp [found] at verified
    | unopenable => simp [found] at verified
    | file bytes =>
      rw [found] at verified
      by_cases same : checksum bytes = entry.2
      · exact ⟨bytes,rfl,same⟩
      · simp [same] at verified
theorem presentVerified {parse files dir file bytes hash} (ok : (load parse files dir).ok = true)
    (listed : (load parse files dir).checksums.find file.name = some hash)
    (present : Present files dir file bytes) :
    hash = checksum bytes := by
  obtain ⟨name,same,mem⟩ := findSome.mp listed
  cases nameKeyInjective same
  obtain ⟨read,found,hashed⟩ := entryVerified ok mem
  cases present.symm.trans found
  exact hashed.symm
theorem legacyListed {parse files dir file} (ok : (load parse files dir).ok = true)
    (legacy : file ∈ kLegacyRequiredChecksumFiles) :
    ((load parse files dir).checksums.find file.name).isSome := by
  have errors := (okParts ok).2
  simp only [load,List.append_eq_nil_iff,and_assoc] at errors
  obtain ⟨-,complete,-⟩ := errors
  have entry := List.filterMap_eq_nil_iff.mp complete file legacy
  unfold missingEntry at entry
  split at entry
  · next present => exact present
  · cases entry
theorem manifestParsed {parse files dir bytes} (ok : (load parse files dir).ok = true)
    (present : Present files dir .manifest bytes) :
    (parseManifest parse bytes).2 = [] := by
  have errors := (okParts ok).2
  simp only [load,List.append_eq_nil_iff,and_assoc] at errors
  obtain ⟨-,-,-,-,parsed,-⟩ := errors
  rw [readText,present] at parsed
  exact parsed
theorem presentReturned {parse files dir file bytes} (ok : (load parse files dir).ok = true)
    (present : Present files dir file bytes) :
    Holds parse (load parse files dir).contents bytes file := by
  have text : readText files (joinPath dir file.name) = (bytes,[]) := by rw [readText,present]
  have binary : readBytes files (joinPath dir file.name) = (bytes,[]) := by rw [readBytes,present]
  have optional : readOptionalBytes files (joinPath dir file.name) = (bytes,[]) := by
    rw [readOptionalBytes,present]
    exact binary
  cases file with
  | manifest =>
    change parseManifest parse bytes =
      ((parseManifest parse (readText files (joinPath dir ArtifactFile.manifest.name)).1).1,[])
    rw [text,← manifestParsed ok present]
  | marketUniverse | rulebook => exact congrArg Prod.fst text
  | variablesBin | constraints | feasibleStates | payoffMatrix | candidateBundles | marketDependencyGraph |
    settlementBitmask =>
    exact congrArg Prod.fst binary
  | components | componentConstraints | oracleDescriptors | bundleTemplates => exact congrArg Prod.fst optional

theorem listed {parse files dir file bytes} (ok : (load parse files dir).ok = true)
    (covered : ChecksumCovered files dir)
    (present : Present files dir file bytes) :
    (load parse files dir).checksums.find file.name = some (checksum bytes) := by
  have entry : ((load parse files dir).checksums.find file.name).isSome := by
    have either : file ∈ kLegacyRequiredChecksumFiles ∨ file ∈ uncheckedFiles := by cases file <;> decide
    rcases either with legacy | unchecked
    · exact legacyListed ok legacy
    · exact covered file unchecked bytes present
  obtain ⟨hash,found⟩ := Option.isSome_iff_exists.mp entry
  rw [found,presentVerified ok found present]
theorem sameTable {parse files files' dir}
    (same : files' (joinPath dir kChecksumsFile) = files (joinPath dir kChecksumsFile)) :
    (load parse files' dir).checksums = (load parse files dir).checksums := by
  change tableOf (readText files' _).1 = tableOf (readText files _).1
  rw [readText,readText,same]

theorem artifactIntactIff {parse : Bytes → Option Json} {files : Files} {dir : Bytes}
    (ok : (load parse files dir).ok = true) :
    Intact parse files dir ↔ ChecksumCovered files dir := by
  constructor
  · intro intact file _ bytes present
    exact Option.isSome_iff_exists.mpr ⟨_,intact.hashed file bytes present⟩
  · intro covered
    refine ⟨fun file bytes present => presentReturned ok present,fun file bytes present =>
      listed ok covered present,?_⟩
    intro files' same ok' file bytes bytes' present present'
    have entry := listed ok covered present
    rw [← sameTable same] at entry
    exact (presentVerified ok' entry present').symm

def checksumLine (hash : Bytes) (file : ArtifactFile) : Bytes := file.name ++ 32::hash ++ [10]
-- Every payload file holds an empty object, and the table lists the given ones.
def emptyObjects (listed : List ArtifactFile) : Files := fun path =>
  if path = kChecksumsFile then some (.file (listed.flatMap (checksumLine (checksum (ascii "\x7b\x7d")))))
  else if path ∈ kArtifactPayloadFiles.map ArtifactFile.name then some (.file (ascii "\x7b\x7d"))
  else none
def parseEmptyObject (content : Bytes) : Option Json :=
  if content = ascii "\x7b\x7d" then some (.object []) else none
theorem allListedIntact : Intact parseEmptyObject (emptyObjects kArtifactPayloadFiles) [] :=
  (artifactIntactIff (by decide +kernel)).mpr fun file unchecked bytes _ =>
    (by decide +kernel : ∀ file ∈ uncheckedFiles,
      ((tableOf (readText (emptyObjects kArtifactPayloadFiles) kChecksumsFile).1).find file.name).isSome) file
        unchecked
theorem bitmaskUnlisted : (load parseEmptyObject (emptyObjects kChecksumFiles) []).ok = true ∧
    ¬ Intact parseEmptyObject (emptyObjects kChecksumFiles) [] := by
  refine ⟨by decide +kernel,fun intact => ?_⟩
  have listed := intact.hashed .settlementBitmask (ascii "\x7b\x7d") (by unfold Present; decide +kernel)
  exact absurd listed (by decide +kernel)

end Polytope.ArtifactIntegrity
