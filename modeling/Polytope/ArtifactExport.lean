import Polytope.ArtifactIntegrity
import Mathlib.Data.List.Induction
import Mathlib.Logic.Function.Basic

/-! ArtifactExporter: the artifact directory is cleared and made, the payload files are written in order, each
checksummed file is read back and listed. An export without errors is one the loader takes back whole. -/
namespace Polytope.ArtifactExport
open ByteReader (Bytes)
open BundleArtifact (Json ascii findField stringField u64Field)
open OrderedMap
open ArtifactIntegrity

/-! Where a path leads, on a disk without links. -/

abbrev Location := List Bytes
abbrev Store := Location → Option Entry
def enter (place : Location) (part : Bytes) : Location :=
  if part = [] ∨ part = [46] then place else if part = [46,46] then place.dropLast else place ++ [part]
def walk (place : Location) (part : Bytes) : Bytes → Location
  | [] => enter place part
  | byte::rest => if byte = 47 then walk (enter place part) [] rest else walk place (part ++ [byte]) rest
def locate (cwd : Location) (path : Bytes) : Location := walk (if path.head? = some 47 then [] else cwd) [] path
def seen (cwd : Location) (store : Store) : Files := fun path => store (locate cwd path)

/-! ArtifactWriter. What the disk does is outside the program: a write may be refused at the opening, part way, or only
when the stream is closed, which is after the answer has been given. -/

inductive WriteOutcome where
  | written
  | openFails
  | writeFails (kept : Nat)
  | lost (kept : Nat)
  deriving DecidableEq, Repr
structure Disk where
  cwd : Location := []
  removes : Location → Bool := fun _ => true
  creates : Bool := true
  outcome : Bytes → WriteOutcome := fun _ => .written

def stored (disk : Disk) (path content : Bytes) : Bytes :=
  match disk.outcome path with
  | .lost kept => content.take kept
  | _ => content
def write (disk : Disk) (store : Store) (path content : Bytes) : Store × Errors :=
  match disk.outcome path with
  | .written | .lost _ =>
    (Function.update store (locate disk.cwd path) (some (.file (stored disk path content))),[])
  | .openFails => (store,openError path)
  | .writeFails kept =>
    (Function.update store (locate disk.cwd path) (some (.file (content.take kept))),
      [ascii "failed to write artifact file: " ++ path])
def removeAll (disk : Disk) (store : Store) (dir : Bytes) : Store := fun location =>
  if dir ≠ [] ∧ locate disk.cwd dir <+: location ∧ disk.removes location = true then none else store location

/-! The payload files. -/

def manifestFields (manifest : ArtifactManifest) : List (Bytes × Json) :=
  [(ascii "artifact_version",.uint64 manifest.artifactVersion.toUInt64),
    (ascii "created_at_ns",.uint64 manifest.createdAtNs),
    (ascii "market_count",.uint64 manifest.marketCount.toUInt64),
    (ascii "asset_count",.uint64 manifest.assetCount.toUInt64),
    (ascii "variable_count",.uint64 manifest.variableCount.toUInt64),
    (ascii "rule_count",.uint64 manifest.ruleCount.toUInt64),
    (ascii "constraint_count",.uint64 manifest.constraintCount.toUInt64),
    (ascii "component_count",.uint64 manifest.componentCount.toUInt64),
    (ascii "enumerable_component_count",.uint64 manifest.enumerableComponentCount.toUInt64),
    (ascii "semantic_oracle_component_count",.uint64 manifest.semanticOracleComponentCount.toUInt64),
    (ascii "fallback_oracle_component_count",.uint64 manifest.fallbackOracleComponentCount.toUInt64),
    (ascii "feasible_state_count",.uint64 manifest.feasibleStateCount),
    (ascii "bundle_count",.uint64 manifest.bundleCount),
    (ascii "llm_enabled",.bool manifest.llmEnabled),
    (ascii "llm_outputs_used",.bool manifest.llmOutputsUsed),
    (ascii "llm_outputs_require_manual_review",.bool manifest.llmOutputsRequireManualReview),
    (ascii "llm_provider",.string manifest.llmProvider),
    (ascii "input_snapshot_hash",.string manifest.inputSnapshotHash),
    (ascii "rulebook_hash",.string manifest.rulebookHash),
    (ascii "constraint_hash",.string manifest.constraintHash),
    (ascii "constraint_graph_hash",.string manifest.constraintGraphHash),
    (ascii "component_partition_hash",.string manifest.componentPartitionHash),
    (ascii "oracle_descriptor_hash",.string manifest.oracleDescriptorHash),
    (ascii "bundle_template_hash",.string manifest.bundleTemplateHash),
    (ascii "feasible_states_hash",.string manifest.feasibleStatesHash),
    (ascii "payoff_hash",.string manifest.payoffHash),
    (ascii "bundle_hash",.string manifest.bundleHash)]

section
variable (serialize : List (Bytes × Json) → Bytes)

def serializeManifest (manifest : ArtifactManifest) : Bytes := serialize (manifestFields manifest) ++ [10]
def payloadOf (contents : OracleArtifactContents) : ArtifactFile → Bytes
  | .manifest => serializeManifest serialize contents.manifest
  | .marketUniverse => contents.marketUniverseJson
  | .rulebook => contents.rulebookJson
  | .variablesBin => contents.variablesBin
  | .constraints => contents.constraintsBin
  | .components => contents.componentsBin
  | .componentConstraints => contents.componentConstraintsBin
  | .oracleDescriptors => contents.oracleDescriptorsBin
  | .bundleTemplates => contents.bundleTemplatesBin
  | .feasibleStates => contents.feasibleStatesBin
  | .payoffMatrix => contents.payoffMatrixBin
  | .candidateBundles => contents.candidateBundlesBin
  | .marketDependencyGraph => contents.marketDependencyGraphBin
  | .settlementBitmask => contents.settlementBitmaskBin
-- The first write that fails ends the walk.
def writeAll (disk : Disk) (dir : Bytes) (content : ArtifactFile → Bytes) (store : Store) :
    List ArtifactFile → Store × Errors
  | [] => (store,[])
  | file::rest =>
    match write disk store (joinPath dir file.name) (content file) with
    | (store,[]) => writeAll disk dir content store rest
    | (store,errors) => (store,errors)

structure ArtifactExportResult where
  artifactDir : Bytes
  artifactHash : UInt64 := 0
  checksums : ChecksumTable := empty
  errors : Errors := []
def checksumWalk (files : Files) (dir : Bytes) (table : ChecksumTable) (text : Bytes) : List ArtifactFile →
    ChecksumTable × Bytes × Errors
  | [] => (table,text,[])
  | file::rest =>
    match checksumFile files (joinPath dir file.name) with
    | .error error => (table,text,[error])
    | .ok hex => checksumWalk files dir (table.assign file.name hex) (text ++ checksumLine hex file) rest
def writeChecksums (disk : Disk) (store : Store) (result : ArtifactExportResult) : Store × ArtifactExportResult :=
  match checksumWalk (seen disk.cwd store) result.artifactDir result.checksums [] kChecksumFiles with
  | (checksums,text,[]) =>
    let (store,errors) := write disk store (joinPath result.artifactDir kChecksumsFile) text
    (store,{result with checksums, artifactHash := fnv1a64 text, errors := result.errors ++ errors})
  | (checksums,_,errors) => (store,{result with checksums, errors := result.errors ++ errors})
def exportArtifact (disk : Disk) (store : Store) (root artifactId : Bytes) (contents : OracleArtifactContents) :
    Store × ArtifactExportResult :=
  let result : ArtifactExportResult := {artifactDir := joinPath root artifactId}
  let store := removeAll disk store result.artifactDir
  -- A directory cannot be made of the empty path.
  if disk.creates = false ∨ result.artifactDir = [] then
    (store,{result with errors := [ascii "failed to create artifact directory: " ++ result.artifactDir]})
  else
    match writeAll disk result.artifactDir (payloadOf serialize contents) store kArtifactPayloadFiles with
    | (store,[]) => writeChecksums disk store result
    | (store,errors) => (store,{result with errors})

end

/-! The JSON library, for an object of numbers, flags and texts: what is written parses to the same object, where a
number that fits a signed word is read as one. -/

def IsText (bytes : Bytes) : Prop := ∃ text : List Char, bytes = text.flatMap String.utf8EncodeChar
inductive Plain : Json → Prop where
  | bool (value : Bool) : Plain (.bool value)
  | uint64 (value : UInt64) : Plain (.uint64 value)
  | string {value : Bytes} (text : IsText value) : Plain (.string value)
def reread : Json → Json
  | .uint64 value => if value.toNat < 9223372036854775808 then .int64 value.toInt64 else .uint64 value
  | other => other
def ReadsBack (parse : Bytes → Option Json) (serialize : List (Bytes × Json) → Bytes)
    (fields : List (Bytes × Json)) : Prop :=
  (fields.map Prod.fst).Nodup ∧ (∀ field ∈ fields, IsText field.1 ∧ Plain field.2) →
    parse (serialize fields ++ [10]) = some (.object (fields.map fun field => (field.1,reread field.2)))
structure ManifestText (manifest : ArtifactManifest) : Prop where
  llmProvider : IsText manifest.llmProvider
  inputSnapshotHash : IsText manifest.inputSnapshotHash
  rulebookHash : IsText manifest.rulebookHash
  constraintHash : IsText manifest.constraintHash
  constraintGraphHash : IsText manifest.constraintGraphHash
  componentPartitionHash : IsText manifest.componentPartitionHash
  oracleDescriptorHash : IsText manifest.oracleDescriptorHash
  bundleTemplateHash : IsText manifest.bundleTemplateHash
  feasibleStatesHash : IsText manifest.feasibleStatesHash
  payoffHash : IsText manifest.payoffHash
  bundleHash : IsText manifest.bundleHash

theorem findReread (fields : List (Bytes × Json)) (name : String) :
    findField (fields.map fun field => (field.1,reread field.2)) name = (findField fields name).map reread := by
  unfold findField
  induction fields with
  | nil => rfl
  | cons field rest ih =>
    obtain ⟨key,value⟩ := field
    rw [List.map_cons,List.lookup_cons,List.lookup_cons]
    cases ascii name == key with
    | true => rfl
    | false => exact ih
section
variable {object : List (Bytes × Json)} {name : String}

theorem u64Reread {value : UInt64} (found : findField object name = some (.uint64 value)) :
    u64Field (object.map fun field => (field.1,reread field.2)) name = value := by
  rw [u64Field,findReread,found,Option.map_some,reread]
  by_cases small : value.toNat < 9223372036854775808
  · have sign : 0 ≤ value.toInt64 := by
      have whole : value.toInt64 = Int64.ofNat value.toNat := by rw [← UInt64.toInt64_ofNat',UInt64.ofNat_toNat]
      rw [Int64.le_iff_toInt_le,whole,Int64.toInt_ofNat_of_lt small]
      exact Int.natCast_nonneg _
    rw [if_pos small]
    dsimp only
    rw [if_pos sign]
    exact UInt64.toUInt64_toInt64 value
  · rw [if_neg small]
theorem u32Reread {value : UInt32} (found : findField object name = some (.uint64 value.toUInt64)) :
    u32Field (object.map fun field => (field.1,reread field.2)) name = value := by
  rw [u32Field,u64Reread found]
  exact UInt32.toUInt32_toUInt64 value
end
theorem manifestReread (manifest : ArtifactManifest) :
    manifestOf ((manifestFields manifest).map fun field => (field.1,reread field.2)) = manifest := by
  unfold manifestOf
  obtain ⟨⟩ := manifest
  congr 1
  all_goals first | exact u32Reread rfl | exact u64Reread rfl
theorem asciiText (text : String) (small : (text.toList.all fun c => decide (c.toNat < 128)) = true) :
    IsText (ascii text) := by
  have low : ∀ c ∈ text.toList, c.toNat < 128 := fun c mem => of_decide_eq_true (List.all_eq_true.mp small c mem)
  refine ⟨text.toList,?_⟩
  clear small
  unfold ascii
  generalize text.toList = chars at low ⊢
  induction chars with
  | nil => rfl
  | cons c rest ih =>
    have below : c.toNat < 128 := low c List.mem_cons_self
    have one : String.utf8EncodeChar c = [UInt8.ofNat c.toNat] := by
      unfold String.utf8EncodeChar
      exact if_pos (Nat.le_of_lt_succ below)
    rw [List.map_cons,List.flatMap_cons,one,ih fun d mem => low d (List.mem_cons_of_mem _ mem)]
    rfl
theorem manifestPlain {manifest : ArtifactManifest} (text : ManifestText manifest) :
    ∀ field ∈ manifestFields manifest, IsText field.1 ∧ Plain field.2 := by
  obtain ⟨_,_,_,_,_,_,_,_,_,_,_⟩ := text
  simp only [manifestFields,List.forall_mem_cons]
  and_intros
  all_goals first
    | exact asciiText _ (by decide +kernel)
    | exact .uint64 _
    | exact .bool _
    | exact .string ‹_›
    | exact fun _ mem => nomatch mem

/-! A path of the directory with a file's name behind it leads to that name in the directory. -/

structure PlainName (name : Bytes) : Prop where
  slash : 47 ∉ name
  some : name ≠ []
  dot : name ≠ [46]
  dots : name ≠ [46,46]
theorem walkAppend (place : Location) (part front rest : Bytes) :
    walk place part (front ++ 47::rest) = walk (walk place part front) [] rest := by
  induction front generalizing place part with
  | nil => exact if_pos rfl
  | cons byte front ih =>
    rw [List.cons_append,walk,walk]
    split
    · exact ih _ _
    · exact ih _ _
theorem walkPart {ink : Bytes} (slash : 47 ∉ ink) (place : Location) (part : Bytes) :
    walk place part ink = enter place (part ++ ink) := by
  induction ink generalizing part with
  | nil => rw [walk,List.append_nil]
  | cons byte ink ih =>
    obtain ⟨apart,rest⟩ := not_or.mp (mt List.mem_cons.mpr slash)
    rw [walk,if_neg (Ne.symm apart),ih rest,List.append_assoc]
    rfl
theorem walkName {name : Bytes} (named : PlainName name) (place : Location) :
    walk place [] name = place ++ [name] := by
  rw [walkPart named.slash,List.nil_append,enter,if_neg (not_or.mpr ⟨named.some,named.dot⟩),if_neg named.dots]
theorem walkSlash (place : Location) (part front : Bytes) :
    walk place part (front ++ [47]) = walk place part front := by
  rw [walkAppend,walk,enter,if_pos (.inl rfl)]
theorem nameHead {name : Bytes} (named : PlainName name) : name.head? ≠ some 47 :=
  fun first => named.slash (List.mem_of_mem_head? first)
theorem locateJoin {name : Bytes} (named : PlainName name) (cwd : Location) (dir : Bytes) :
    locate cwd (joinPath dir name) = locate cwd dir ++ [name] := by
  unfold joinPath
  by_cases bare : dir = []
  · rw [if_pos (.inr bare),locate,if_neg (nameHead named),walkName named,bare]
    rfl
  · have first (tail : Bytes) : (dir ++ tail).head? = dir.head? := List.head?_append_of_ne_nil dir bare
    rw [if_neg (not_or.mpr ⟨nameHead named,bare⟩)]
    split
    · next ends =>
      obtain ⟨front,rfl⟩ := List.getLast?_eq_some_iff.mp ends
      rw [locate,locate,first,walkSlash,List.append_assoc,List.singleton_append,walkAppend,walkName named]
    · rw [locate,locate,first,walkAppend,walkName named]
theorem namePlain (file : ArtifactFile) : PlainName file.name := by
  cases file <;> exact ⟨by decide +kernel,by decide +kernel,by decide +kernel,by decide +kernel⟩
theorem checksumsPlain : PlainName kChecksumsFile :=
  ⟨by decide +kernel,by decide +kernel,by decide +kernel,by decide +kernel⟩
theorem joinInjective (cwd : Location) (dir : Bytes) {a b : Bytes} (plainA : PlainName a) (plainB : PlainName b)
    (same : locate cwd (joinPath dir a) = locate cwd (joinPath dir b)) : a = b := by
  rw [locateJoin plainA,locateJoin plainB] at same
  exact List.singleton_inj.mp (List.append_cancel_left same)
theorem nameInjective : Function.Injective ArtifactFile.name := by
  intro a b same
  have index : (kArtifactPayloadFiles.map ArtifactFile.name).Nodup := by decide +kernel
  have inside : ∀ file, file ∈ kArtifactPayloadFiles := by
    intro file
    cases file <;> decide +kernel
  exact List.inj_on_of_nodup_map index (inside a) (inside b) same
theorem pathInjective {cwd : Location} {dir : Bytes} {a b : ArtifactFile}
    (same : locate cwd (joinPath dir a.name) = locate cwd (joinPath dir b.name)) : a = b :=
  nameInjective (joinInjective cwd dir (namePlain a) (namePlain b) same)
theorem checksumsApart (cwd : Location) (dir : Bytes) (file : ArtifactFile) :
    locate cwd (joinPath dir kChecksumsFile) ≠ locate cwd (joinPath dir file.name) := by
  intro same
  have name := joinInjective cwd dir checksumsPlain (namePlain file) same
  revert name
  cases file <;> decide +kernel
theorem joinInside {name : Bytes} (named : PlainName name) (cwd : Location) (dir : Bytes) :
    locate cwd dir <+: locate cwd (joinPath dir name) := by
  rw [locateJoin named]
  exact List.prefix_append _ _

/-! Files that have been written. -/

section
variable {disk : Disk} {store out : Store}

theorem written {path content : Bytes} (ok : write disk store path content = (out,[])) :
    out = Function.update store (locate disk.cwd path) (some (.file (stored disk path content))) := by
  unfold write at ok
  split at ok
  · exact (congrArg Prod.fst ok).symm
  · exact (congrArg Prod.fst ok).symm
  · cases ok
  · cases ok
theorem writtenAll {dir : Bytes} {content : ArtifactFile → Bytes} {listed : List ArtifactFile}
    (ok : writeAll disk dir content store listed = (out,[])) :
    (∀ file ∈ listed, seen disk.cwd out (joinPath dir file.name) = some
      (.file (stored disk (joinPath dir file.name) (content file)))) ∧
      ∀ location, (∀ file ∈ listed, location ≠ locate disk.cwd (joinPath dir file.name)) →
        out location = store location := by
  induction listed generalizing store with
  | nil =>
    cases ok
    exact ⟨fun _ mem => (nomatch mem),fun _ _ => rfl⟩
  | cons file rest ih =>
    rw [writeAll] at ok
    cases first : write disk store (joinPath dir file.name) (content file) with
    | mk mid errors =>
      rw [first] at ok
      cases errors with
      | cons error errors => cases ok
      | nil =>
        obtain ⟨later,others⟩ := ih ok
        have here := written first
        refine ⟨List.forall_mem_cons.mpr ⟨?_,later⟩,fun location apart => ?_⟩
        · by_cases again : file ∈ rest
          · exact later file again
          · have apart : ∀ other ∈ rest,
              locate disk.cwd (joinPath dir file.name) ≠ locate disk.cwd (joinPath dir other.name) := by
              intro other mem same
              cases pathInjective same
              exact again mem
            rw [seen,others _ apart,here,Function.update_self]
        · rw [others location fun other mem => apart other (List.mem_cons_of_mem _ mem),here,
            Function.update_of_ne (apart file List.mem_cons_self)]
end

/-! The list of checksums, as it is written and as it is read. -/

def checksumText (content : ArtifactFile → Bytes) (listed : List ArtifactFile) : Bytes :=
  listed.flatMap fun file => checksumLine (checksum (content file)) file
def checksumTable (content : ArtifactFile → Bytes) (table : ChecksumTable) (listed : List ArtifactFile) :
    ChecksumTable :=
  listed.foldl (fun table file => table.assign file.name (checksum (content file))) table

section
variable {content : ArtifactFile → Bytes}

theorem walked {files : Files} {dir : Bytes} {listed : List ArtifactFile}
    (present : ∀ file ∈ listed, files (joinPath dir file.name) = some (.file (content file)))
    (table : ChecksumTable) (text : Bytes) :
    checksumWalk files dir table text listed =
      (checksumTable content table listed,text ++ checksumText content listed,[]) := by
  induction listed generalizing table text with
  | nil => rw [checksumWalk,checksumText,List.flatMap_nil,List.append_nil,checksumTable,List.foldl_nil]
  | cons file rest ih =>
    have hex : checksumFile files (joinPath dir file.name) = .ok (checksum (content file)) := by
      rw [checksumFile,present file List.mem_cons_self]
    rw [checksumWalk,hex]
    dsimp only
    rw [ih fun other mem => present other (List.mem_cons_of_mem _ mem),List.append_assoc]
    rfl

theorem hexDigitInk (value : UInt64) : isSpace (hexDigit (value &&& 15)) = false := by
  have small : (value &&& 15).toNat < 16 := by
    rw [UInt64.toNat_and]
    exact Nat.lt_succ_of_le Nat.and_le_right
  have each : ∀ digit < 16, isSpace (hexDigit (UInt64.ofNat digit)) = false := by decide +kernel
  rw [← UInt64.ofNat_toNat (x := value &&& 15)]
  exact each _ small
theorem checksumInk (data : Bytes) : ∀ byte ∈ checksum data, isSpace byte = false := by
  intro byte mem
  obtain ⟨shift,-,rfl⟩ := List.mem_map.mp mem
  exact hexDigitInk _
theorem nameInk (file : ArtifactFile) : file.name ≠ [] ∧ ∀ byte ∈ file.name, isSpace byte = false := by
  have dark : (file.name.all fun byte => !isSpace byte) = true := by cases file <;> decide +kernel
  exact ⟨(namePlain file).some,fun byte mem => by simpa using List.all_eq_true.mp dark byte mem⟩
theorem wordTaken {ink : Bytes} (dark : ∀ byte ∈ ink, isSpace byte = false) {stop : UInt8}
    (blank : isSpace stop = true) (word rest : Bytes)
    (some : word ++ ink ≠ []) : wordsFrom word (ink ++ stop::rest) = (word ++ ink)::wordsFrom [] rest := by
  induction ink generalizing word with
  | nil =>
    rw [List.append_nil] at some ⊢
    rw [List.nil_append,wordsFrom,if_pos blank,if_neg some]
  | cons byte ink ih =>
    have one : isSpace byte = false := dark byte List.mem_cons_self
    rw [List.cons_append,wordsFrom,if_neg (by simp [one]),ih
      (fun other mem => dark other (List.mem_cons_of_mem _ mem)),List.append_assoc]
    · rfl
    · simp
theorem lineWords (file : ArtifactFile) (rest : Bytes) :
    wordsFrom [] (checksumLine (checksum (content file)) file ++ rest) = file.name::checksum
      (content file)::wordsFrom [] rest := by
  have shape : checksumLine
    (checksum (content file)) file ++ rest = file.name ++ 32::(checksum (content file) ++ 10::rest) := by
    simp [checksumLine]
  obtain ⟨some,dark⟩ := nameInk file
  rw [shape,wordTaken dark (by decide) [] _ some,wordTaken (checksumInk _) (by decide) [] _ (List.cons_ne_nil _ _)]
  rfl
theorem textEntries (listed : List ArtifactFile) :
    entriesOf (wordsFrom [] (checksumText content listed)) = listed.map fun file =>
      (file.name,checksum (content file)) := by
  induction listed with
  | nil => rfl
  | cons file rest ih =>
    have split : checksumText content (file::rest) = checksumLine
      (checksum (content file)) file ++ checksumText content rest :=
      List.flatMap_cons
    rw [split,lineWords,entriesOf,ih,List.map_cons]
theorem tableRead (listed : List ArtifactFile) :
    tableOf (checksumText content listed) = checksumTable content empty listed := by
  rw [tableOf,textEntries,List.foldl_map,checksumTable]
theorem tableFind (listed : List ArtifactFile) (name hex : Bytes) :
    (checksumTable content empty listed).find name = some hex ↔
    ∃ file ∈ listed, file.name = name ∧ hex = checksum (content file) := by
  induction listed using List.reverseRecOn with
  | nil => simp [checksumTable,KeyedMap.find,empty]
  | append_singleton listed file ih =>
    rw [checksumTable,List.foldl_append,List.foldl_cons,List.foldl_nil,findAssign]
    split
    · next same =>
      have own := nameKeyInjective same
      constructor
      · intro found
        exact ⟨file,by simp,own,(Option.some.inj found).symm⟩
      · rintro ⟨other,-,named,rfl⟩
        cases nameInjective (named.trans own.symm)
        rfl
    · next apart =>
      rw [← checksumTable,ih]
      constructor
      · rintro ⟨other,mem,rest⟩
        exact ⟨other,List.mem_append_left _ mem,rest⟩
      · rintro ⟨other,mem,named,hex⟩
        obtain inside | last := List.mem_append.mp mem
        · exact ⟨other,inside,named,hex⟩
        · cases List.mem_singleton.mp last
          exact absurd (congrArg nameKey named) apart
end

/-! What an export leaves on the disk. -/

def payloadStored (serialize : List (Bytes × Json) → Bytes) (disk : Disk) (dir : Bytes)
    (contents : OracleArtifactContents)
    (file : ArtifactFile) : Bytes :=
  stored disk (joinPath dir file.name) (payloadOf serialize contents file)
-- What the files really hold is what the checksums are of.
structure Exported (serialize : List (Bytes × Json) → Bytes) (disk : Disk) (before after : Store) (dir : Bytes)
    (contents : OracleArtifactContents) (result : ArtifactExportResult) : Prop where
  place : result.artifactDir = dir
  payloads : ∀ file, seen disk.cwd after (joinPath dir file.name) = some
    (.file (payloadStored serialize disk dir contents file))
  listed : seen disk.cwd after (joinPath dir kChecksumsFile) =
    some (.file (stored disk (joinPath dir kChecksumsFile)
      (checksumText (payloadStored serialize disk dir contents) kChecksumFiles)))
  table : result.checksums = checksumTable (payloadStored serialize disk dir contents) empty kChecksumFiles
  hash : result.artifactHash = fnv1a64 (checksumText (payloadStored serialize disk dir contents) kChecksumFiles)
  elsewhere : ∀ location, ¬ locate disk.cwd dir <+: location → after location = before location
def Lost (disk : Disk) (path : Bytes) : Prop := ∃ kept, disk.outcome path = .lost kept
theorem storedWhole {disk : Disk} {path : Bytes} (whole : ¬ Lost disk path) (content : Bytes) :
    stored disk path content = content := by
  unfold stored
  split
  · next kept late => exact absurd ⟨kept,late⟩ whole
  · rfl

section
variable {parse : Bytes → Option Json} {serialize : List (Bytes × Json) → Bytes} {disk : Disk} {store : Store}
  {root artifactId : Bytes}
  {contents : OracleArtifactContents}

theorem checksumsWritten {before : Store} {dir : Bytes}
    (present : ∀ file : ArtifactFile,
      seen disk.cwd before (joinPath dir file.name) = some
        (.file (payloadStored serialize disk dir contents file)))
    (ok : (writeChecksums disk before {artifactDir := dir}).2.errors = []) :
    Exported serialize disk before (writeChecksums disk before {artifactDir := dir}).1 dir contents
      (writeChecksums disk before {artifactDir := dir}).2 := by
  have walk := walked (fun (file : ArtifactFile) (_ : file ∈ kChecksumFiles) => present file) empty []
  rw [List.nil_append] at walk
  unfold writeChecksums at ok ⊢
  dsimp only at ok ⊢
  rw [walk] at ok ⊢
  dsimp only at ok ⊢
  cases last : write disk before (joinPath dir kChecksumsFile)
    (checksumText (payloadStored serialize disk dir contents) kChecksumFiles) with
  | mk after errors =>
    rw [last] at ok
    have none : errors = [] := ok
    subst none
    have own := written last
    dsimp only
    refine ⟨rfl,fun file => ?_,?_,?_,?_,fun location outside => ?_⟩
    · rw [seen,own,Function.update_of_ne (checksumsApart disk.cwd dir file).symm]
      exact present file
    · rw [seen,own,Function.update_self]
    · dsimp only
    · dsimp only
    · have apart : location ≠ locate disk.cwd (joinPath dir kChecksumsFile) := by
        rintro rfl
        exact outside (joinInside checksumsPlain _ _)
      rw [own,Function.update_of_ne apart]
theorem exported (ok : (exportArtifact serialize disk store root artifactId contents).2.errors = []) :
    Exported serialize disk store (exportArtifact serialize disk store root artifactId contents).1
      (joinPath root artifactId) contents
      (exportArtifact serialize disk store root artifactId contents).2 := by
  unfold exportArtifact at ok ⊢
  dsimp only at ok ⊢
  split at ok
  · cases ok
  next made =>
    rw [if_neg made]
    cases payloads : writeAll disk (joinPath root artifactId) (payloadOf serialize contents)
      (removeAll disk store (joinPath root artifactId)) kArtifactPayloadFiles with
    | mk mid errors =>
      rw [payloads] at ok
      cases errors with
      | cons error errors => cases ok
      | nil =>
        obtain ⟨here,others⟩ := writtenAll payloads
        have every : ∀ file, file ∈ kArtifactPayloadFiles := by
          intro file
          cases file <;> decide +kernel
        have last := checksumsWritten (fun file => here file (every file)) ok
        refine {last with elsewhere := fun location outside => ?_}
        have apart : ∀ file : ArtifactFile,
          location ≠ locate disk.cwd (joinPath (joinPath root artifactId) file.name) := by
          rintro file rfl
          exact outside (joinInside (namePlain file) _ _)
        rw [last.elsewhere location outside,others location fun file _ =>
          apart file,removeAll,if_neg fun removed => outside removed.2.1]

/-! The loader takes it back. -/

theorem manifestRead {manifest : ArtifactManifest}
    (library : ReadsBack parse serialize (manifestFields manifest)) (text : ManifestText manifest) :
    parseManifest parse (serializeManifest serialize manifest) = (manifest,[]) := by
  have keys : ((manifestFields manifest).map Prod.fst).Nodup := by
    have same : (manifestFields manifest).map Prod.fst = (manifestFields {}).map Prod.fst := rfl
    rw [same]
    decide +kernel
  rw [parseManifest,serializeManifest,library ⟨keys,manifestPlain text⟩]
  exact congrArg (·,[]) (manifestReread manifest)
theorem checksumsParse (content : ArtifactFile → Bytes) :
    parseChecksums (checksumText content kChecksumFiles) = (checksumTable content empty kChecksumFiles,[]) := by
  rw [parseChecksums,tableRead]
  refine congrArg (checksumTable content empty kChecksumFiles,·)
    (List.filterMap_eq_nil_iff.mpr fun file legacy => ?_)
  have listed : file ∈ kChecksumFiles := by
    revert legacy
    cases file <;> decide +kernel
  have found := (tableFind kChecksumFiles file.name (checksum (content file))).mpr ⟨file,listed,rfl,rfl⟩
  rw [missingEntry,found]
  rfl
theorem checksumsVerify {after : Files} {dir : Bytes} {content : ArtifactFile → Bytes}
    (present : ∀ file : ArtifactFile, after (joinPath dir file.name) = some (.file (content file)))
    (listed : List ArtifactFile) :
    verifyChecksums after dir (checksumTable content empty listed) = (true,[]) := by
  have clean : ∀ entry ∈ (checksumTable content empty listed).entries, entryError after dir entry = none := by
    intro entry mem
    obtain ⟨file,-,name,hex⟩ := (tableFind listed entry.1 entry.2).mp (findSome.mpr ⟨entry.1,rfl,mem⟩)
    rw [entryError,← name,checksumFile,present file]
    dsimp only
    rw [if_neg (not_not.mpr hex.symm)]
  rw [verifyChecksums,List.filterMap_eq_nil_iff.mpr clean]
  exact congrArg (·,[]) (List.all_eq_true.mpr fun entry mem => decide_eq_true (clean entry mem))

theorem exportLoads (library : ReadsBack parse serialize (manifestFields contents.manifest))
    (text : ManifestText contents.manifest)
    (manifest : ¬ Lost disk (joinPath (joinPath root artifactId) (ArtifactFile.name .manifest)))
    (checksums : ¬ Lost disk (joinPath (joinPath root artifactId) kChecksumsFile))
    (ok : (exportArtifact serialize disk store root artifactId contents).2.errors = []) :
    let (after,result) := exportArtifact serialize disk store root artifactId contents
    let loaded := load parse (seen disk.cwd after) result.artifactDir
    Exported serialize disk store after (joinPath root artifactId) contents result ∧ loaded.ok = true ∧
      loaded.checksums = result.checksums ∧
      (loaded.contents = contents ↔
        ∀ file, payloadStored serialize disk
          (joinPath root artifactId) contents file = payloadOf serialize contents file) := by
  have out := exported ok
  generalize exportArtifact serialize disk store root artifactId contents = pair at out
  obtain ⟨after,result⟩ := pair
  dsimp only at out ⊢
  rw [out.place]
  generalize joinPath root artifactId = dir at *
  have texts (file : ArtifactFile) :
      readText (seen disk.cwd after)
        (joinPath dir file.name) = (payloadStored serialize disk dir contents file,[]) := by
    rw [readText,out.payloads file]
  have bytes (file : ArtifactFile) :
      readBytes (seen disk.cwd after)
        (joinPath dir file.name) = (payloadStored serialize disk dir contents file,[]) := by
    rw [readBytes,out.payloads file]
  have optional (file : ArtifactFile) :
      readOptionalBytes (seen disk.cwd after)
        (joinPath dir file.name) = (payloadStored serialize disk dir contents file,[]) := by
    rw [readOptionalBytes,out.payloads file]
    exact bytes file
  have list : readText (seen disk.cwd after) (joinPath dir kChecksumsFile) =
      (checksumText (payloadStored serialize disk dir contents) kChecksumFiles,[]) := by
    rw [readText,out.listed,storedWhole checksums]
  have whole : payloadStored serialize disk dir contents .manifest =
    serializeManifest serialize contents.manifest :=
    storedWhole manifest _
  refine ⟨out,?_⟩
  unfold ArtifactLoadResult.ok load
  simp only [texts,bytes,optional,list,checksumsParse,checksumsVerify out.payloads,whole,manifestRead library
    text,out.table]
  refine ⟨rfl,trivial,?_⟩
  constructor
  · intro same file
    have fields := congrArg (payloadOf serialize · file) same
    cases file with
    | manifest => exact whole
    | _ => exact fields
  · intro every
    simp only [every,payloadOf]
end

-- JSON text without escapes: there are none to write here.
def plainText : Json → Bytes
  | .uint64 value => ascii (toString value.toNat)
  | .bool value => ascii (if value = true then "true" else "false")
  | .string value => 34::value ++ [34]
  | _ => ascii "null"
def objectText (fields : List (Bytes × Json)) : Bytes :=
  123::((fields.map fun field => 34::field.1 ++ [34,58] ++ plainText field.2).intersperse [44]).flatten ++ [125]
def emptyContents : OracleArtifactContents :=
  ⟨{},ascii "[]",ascii "[]",[0,0,0,0],[0,0,0,0],[],[],[],[],[],[],[0,0,0,0],[],[]⟩
def parseDefaults (content : Bytes) : Option Json :=
  if content = objectText (manifestFields {}) ++ [10] then
    some (.object ((manifestFields {}).map fun field => (field.1,reread field.2)))
  else none
theorem emptyExportLoads :
    let (after,result) := exportArtifact objectText {} (fun _ => none) (ascii "artifacts")
      (ascii "a1") emptyContents
    let loaded := load parseDefaults (seen [] after) result.artifactDir
    Exported objectText {} (fun _ => none) after
      (joinPath (ascii "artifacts") (ascii "a1")) emptyContents result ∧ loaded.ok = true ∧
      loaded.checksums = result.checksums ∧
      (loaded.contents = emptyContents ↔
        ∀ file, payloadStored objectText {} (joinPath (ascii "artifacts") (ascii "a1")) emptyContents file =
          payloadOf objectText emptyContents file) := by
  have nothing : IsText [] := ⟨[],rfl⟩
  have text : ManifestText emptyContents.manifest :=
    ⟨asciiText "none" (by decide +kernel),nothing,nothing,nothing,nothing,nothing,nothing,nothing,nothing,
      nothing,nothing⟩
  have clean : (exportArtifact objectText {} (fun _ => none) (ascii "artifacts")
    (ascii "a1") emptyContents).2.errors = [] := by decide +kernel
  have library : ReadsBack parseDefaults objectText (manifestFields emptyContents.manifest) := fun _ => if_pos rfl
  have whole (path : Bytes) : ¬ Lost {} path := by
    rintro ⟨kept,late⟩
    cases late
  exact @exportLoads parseDefaults objectText {} (fun _ => none) (ascii "artifacts") (ascii "a1") emptyContents
    library text (whole _) (whole _) clean

end Polytope.ArtifactExport
