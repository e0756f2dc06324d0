import Polytope.ByteReader
import Polytope.CombinatorialBundles

/-! candidate_bundles.bin: the writer of the oracle workflow and the reader of the signal engine. The
reader takes a file that starts with a brace or a bracket for JSON; the writer puts the low byte of
the bundle count there. -/
namespace Polytope.BundleArtifact
open ByteReader
open CombinatorialBundles (Side BundleLegOf CandidateBundleOf kMaxBundleLegs)

abbrev BundleLeg := BundleLegOf Bytes Int64
structure CandidateBundle extends CandidateBundleOf Bytes Int64 UInt64 where
  legsFit : legs.length ≤ kMaxBundleLegs := by decide
  deriving DecidableEq

/-! The writer. -/

def appendU8 (value : UInt8) : Bytes := [value]
def appendU32 (value : UInt32) : Bytes := bytesOf 4 value.toNat
def appendU64 (value : UInt64) : Bytes := bytesOf 8 value.toNat
def appendI64 (value : Int64) : Bytes := appendU64 value.toUInt64
def appendString (value : Bytes) : Bytes := appendU32 (UInt32.ofNat value.length) ++ value
def sideByte : Side → UInt8
  | .buy => 0
  | .sell => 1
def serializeLeg (leg : BundleLeg) : Bytes :=
  appendString leg.marketId ++ (appendString leg.assetId ++ (appendU8 (sideByte leg.side) ++
    (appendI64 leg.quantityLots ++ appendI64 leg.maxPriceTick)))
def serializeBundle (bundle : CandidateBundle) : Bytes :=
  appendU64 bundle.bundleId ++ (appendU64 bundle.requiredTrueMask ++ (appendU64 bundle.requiredFalseMask ++
    (appendU64 bundle.invalidMask ++ (appendI64 bundle.guaranteedPayoutTick ++
      (appendU32 (UInt32.ofNat bundle.legs.length) ++
        (appendI64 bundle.minEdgeTick ++ bundle.legs.flatMap serializeLeg))))))
def serializeCandidateBundles (bundles : List CandidateBundle) : Bytes :=
  appendU32 (UInt32.ofNat bundles.length) ++ bundles.flatMap serializeBundle

/-! The binary reader. Each read carries the error its caller reports when the bytes run out. -/

def readU8 (short : String) : Reader String UInt8 := fun bytes =>
  match bytes with
  | [] => .error short
  | byte::rest => .ok (byte,rest)
def readU32 (short : String) : Reader String UInt32 := do
  let bytes ← take 4 short
  pure (UInt32.ofNat (valueOf bytes))
def readU64 (short : String) : Reader String UInt64 := do
  let bytes ← take 8 short
  pure (UInt64.ofNat (valueOf bytes))
def readI64 (short : String) : Reader String Int64 := do
  let value ← readU64 short
  pure value.toInt64
def readString (short : String) : Reader String Bytes := do
  let size ← readU32 short
  take size.toNat short

def readBinaryLeg : Reader String BundleLeg := do
  let short := "truncated candidate bundle leg"
  let marketId ← readString short
  let assetId ← readString short
  let side ← readU8 short
  let quantityLots ← readI64 short
  let maxPriceTick ← readI64 short
  if side = 0 then pure {marketId, assetId, side := .buy, quantityLots, maxPriceTick}
  else if side = 1 then pure {marketId, assetId, side := .sell, quantityLots, maxPriceTick}
  else throw "invalid candidate bundle side"
def readBinaryBundle : Reader String CandidateBundle := do
  let short := "truncated candidate_bundles.bin"
  let bundleId ← readU64 short
  let requiredTrueMask ← readU64 short
  let requiredFalseMask ← readU64 short
  let invalidMask ← readU64 short
  let guaranteedPayoutTick ← readI64 short
  let legCount ← readU32 short
  let minEdgeTick ← readI64 short
  if fit : legCount.toNat ≤ kMaxBundleLegs then do
    let legs ← readMany readBinaryLeg legCount.toNat
    pure ⟨⟨bundleId,requiredTrueMask,requiredFalseMask,invalidMask,guaranteedPayoutTick,legs.1,minEdgeTick⟩,
      Nat.le_trans (Nat.le_of_eq legs.2) fit⟩
  else throw "candidate bundle leg_count exceeds 16"
def parseBinaryBundles (bytes : Bytes) : Except String (List CandidateBundle) := do
  let (count,rest) ← readU32 "truncated candidate_bundles.bin header" bytes
  let (bundles,rest) ← readMany readBinaryBundle count.toNat rest
  if rest ≠ [] then throw "candidate_bundles.bin has trailing bytes" else pure bundles.1

/-! The JSON reader, over the values of the JSON library. -/

inductive Json where
  | null
  | bool (value : Bool)
  | int64 (value : Int64)
  | uint64 (value : UInt64)
  | double (bits : UInt64)
  | string (value : Bytes)
  | array (items : List Json)
  | object (fields : List (Bytes × Json))

def ascii (text : String) : Bytes := text.toList.map fun c => UInt8.ofNat c.toNat
def findField (object : List (Bytes × Json)) (name : String) : Option Json := object.lookup (ascii name)
def stringField (object : List (Bytes × Json)) (name : String) : Bytes :=
  match findField object name with
  | some (.string value) => value
  | _ => []
def u64Field (object : List (Bytes × Json)) (name : String) : UInt64 :=
  match findField object name with
  | some (.uint64 value) => value
  | some (.int64 value) => if 0 ≤ value then value.toUInt64 else 0
  | _ => 0
def i64Field (object : List (Bytes × Json)) (name : String) : Int64 :=
  match findField object name with
  | some (.int64 value) => value
  | some (.uint64 value) => if value.toNat ≤ Int64.maxValue.toNatClampNeg then value.toInt64 else 0
  | _ => 0
def parseJsonLeg : Json → Except String BundleLeg
  | .object object => do
    let leg side : BundleLeg :=
      {marketId := stringField object "market_id", assetId := stringField object "asset_id", side,
        quantityLots := i64Field object "quantity_lots", maxPriceTick := i64Field object "max_price_tick"}
    if stringField object "side" = ascii "Buy" then pure (leg .buy)
    else if stringField object "side" = ascii "Sell" then pure (leg .sell)
    else throw "candidate bundle has invalid side"
  | _ => throw "candidate bundle leg is not object"
def parseJsonLegs : (legs : List Json) → Except String {out : List BundleLeg // out.length = legs.length}
  | [] => pure ⟨[],rfl⟩
  | leg::legs => do
    let first ← parseJsonLeg leg
    let rest ← parseJsonLegs legs
    pure ⟨first::rest.1,congrArg (· + 1) rest.2⟩
def parseJsonBundle (object : List (Bytes × Json)) : Except String CandidateBundle :=
  match findField object "legs" with
  | some (.array legs) =>
    if fit : legs.length ≤ kMaxBundleLegs then do
      let legs ← parseJsonLegs legs
      pure ⟨⟨u64Field object "bundle_id",u64Field object "required_true_mask",u64Field object
        "required_false_mask",
          u64Field object "invalid_mask",i64Field object "guaranteed_payout_tick",legs.1,i64Field object
            "min_edge_tick"⟩,
        Nat.le_trans (Nat.le_of_eq legs.2) fit⟩
    else throw "candidate bundle leg_count exceeds 16"
  | _ => throw "candidate bundle missing legs"
def parseJsonBundles (parse : Bytes → Option Json) (content : Bytes) : Except String (List CandidateBundle) :=
  match parse content with
  | some (.object root) =>
    match findField root "bundles" with
    | some (.array items) => items.mapM fun
      | .object object => parseJsonBundle object
      | _ => throw "candidate bundle entry is not object"
    | _ => throw "candidate bundle JSON missing bundles"
  | _ => throw "malformed candidate bundle JSON"
def parseBundles (parse : Bytes → Option Json) (bytes : Bytes) : Except String (List CandidateBundle) :=
  match bytes with
  | [] => pure []
  | first::_ => if first = 123 ∨ first = 91 then parseJsonBundles parse bytes else parseBinaryBundles bytes

/-! Every field reads back. -/

theorem readsU32 (short : String) (value : UInt32) : Reads (readU32 short) (appendU32 value) value := by
  have taken := readsTake (appendU32 value) short
  have back : UInt32.ofNat (valueOf (appendU32 value)) = value := by
    rw [appendU32,valueOfBytesOf (value.toNat_lt.trans_le (by decide))]
    exact UInt32.ofNat_toNat
  rw [appendU32,bytesOfLength] at taken
  have read := readsLast (f := fun bytes => UInt32.ofNat (valueOf bytes)) taken
  rwa [← appendU32,back] at read
theorem readsU64 (short : String) (value : UInt64) : Reads (readU64 short) (appendU64 value) value := by
  have taken := readsTake (appendU64 value) short
  have back : UInt64.ofNat (valueOf (appendU64 value)) = value := by
    rw [appendU64,valueOfBytesOf (value.toNat_lt.trans_le (by decide))]
    exact UInt64.ofNat_toNat
  rw [appendU64,bytesOfLength] at taken
  have read := readsLast (f := fun bytes => UInt64.ofNat (valueOf bytes)) taken
  rwa [← appendU64,back] at read
theorem readsI64 (short : String) (value : Int64) : Reads (readI64 short) (appendI64 value) value := by
  have read := readsLast (f := UInt64.toInt64) (readsU64 short value.toUInt64)
  rwa [Int64.toInt64_toUInt64] at read
theorem readsU8 (short : String) (value : UInt8) : Reads (readU8 short) (appendU8 value) value := fun _ => rfl
theorem sizeU32 {size : Nat} (fits : size < 4294967296) : (UInt32.ofNat size).toNat = size := by
  rw [UInt32.toNat_ofNat']
  exact Nat.mod_eq_of_lt fits
theorem readsString (short : String) {value : Bytes} (fits : value.length < 4294967296) :
    Reads (readString short) (appendString value) value := by
  refine readsBind (readsU32 short _) ?_
  rw [sizeU32 fits]
  exact readsTake value short

def StringsFit (leg : BundleLeg) : Prop := leg.marketId.length < 4294967296 ∧ leg.assetId.length < 4294967296
instance (leg : BundleLeg) : Decidable (StringsFit leg) := inferInstanceAs (Decidable (_ ∧ _))

theorem readsLeg {leg : BundleLeg} (fits : StringsFit leg) : Reads readBinaryLeg (serializeLeg leg) leg := by
  obtain ⟨marketId,assetId,side,quantityLots,maxPriceTick⟩ := leg
  refine readsBind (readsString _ fits.1)
    (readsBind (readsString _ fits.2) (readsBind (readsU8 _ _) (readsBind (readsI64 _ _) ?_)))
  rw [← List.append_nil (appendI64 maxPriceTick)]
  refine readsBind (readsI64 _ _) ?_
  cases side <;> exact readsPure _
theorem readsBundle {bundle : CandidateBundle} (fits : ∀ leg ∈ bundle.legs, StringsFit leg) :
    Reads readBinaryBundle (serializeBundle bundle) bundle := by
  obtain ⟨⟨bundleId,trueMask,falseMask,invalidMask,payout,legs,minEdge⟩,legsFit⟩ := bundle
  have few : legs.length < 4294967296 := legsFit.trans_lt (by decide)
  refine readsBind (readsU64 _ _) (readsBind (readsU64 _ _) (readsBind (readsU64 _ _) (readsBind (readsU64 _ _)
    (readsBind (readsI64 _ _) (readsBind (readsU32 _ _) (readsBind (readsI64 _ _) ?_))))))
  have fit : (UInt32.ofNat legs.length).toNat ≤ kMaxBundleLegs := by rwa [sizeU32 few]
  rw [dif_pos fit]
  exact readsLast (readsMany (sizeU32 few).symm fun leg mem => readsLeg (fits leg mem))

/-! What the binary reader accepts. -/

theorem yieldsString (short : String) : Yields (readString short) fun value => value.length < 4294967296 := by
  refine yieldsThen fun size => ?_
  intro bytes value rest out
  have length := yieldsTake size.toNat short bytes value rest out
  have bound := size.toNat_lt
  omega
theorem yieldsLeg : Yields readBinaryLeg StringsFit := by
  refine yieldsBind (yieldsString _) fun marketId first => yieldsBind (yieldsString _) fun assetId second =>
    yieldsThen fun side => yieldsThen fun quantityLots => yieldsThen fun maxPriceTick => ?_
  split
  · exact yieldsPure ⟨first,second⟩
  · split
    · exact yieldsPure ⟨first,second⟩
    · exact yieldsThrow
theorem yieldsBundle : Yields readBinaryBundle fun bundle => ∀ leg ∈ bundle.legs, StringsFit leg := by
  refine yieldsThen fun _ => yieldsThen fun _ => yieldsThen fun _ => yieldsThen fun _ => yieldsThen fun _ =>
    yieldsThen fun legCount => yieldsThen fun _ => ?_
  split
  · exact yieldsBind (yieldsMany yieldsLeg legCount.toNat) fun legs fit => yieldsPure fit
  · exact yieldsThrow

theorem parsedFits {bytes : Bytes} {bundles : List CandidateBundle}
    (parsed : parseBinaryBundles bytes = .ok bundles) :
    bundles.length < 4294967296 ∧ ∀ bundle ∈ bundles, ∀ leg ∈ bundle.legs, StringsFit leg := by
  obtain ⟨⟨count,rest⟩,-,parsed⟩ := Machine.bindOk.mp parsed
  obtain ⟨⟨read,rest'⟩,walk,parsed⟩ := Machine.bindOk.mp parsed
  simp only at parsed
  split at parsed
  · cases parsed
  · cases parsed
    refine ⟨?_,yieldsMany yieldsBundle count.toNat rest read rest' walk⟩
    rw [read.2]
    exact count.toNat_lt
theorem parseSerialized {bundles : List CandidateBundle} (few : bundles.length < 4294967296)
    (fits : ∀ bundle ∈ bundles, ∀ leg ∈ bundle.legs, StringsFit leg) :
    parseBinaryBundles (serializeCandidateBundles bundles) = .ok bundles := by
  have header := readsU32 "truncated candidate_bundles.bin header" (UInt32.ofNat bundles.length)
    (bundles.flatMap serializeBundle)
  have body := readsMany (sizeU32 few).symm (fun bundle mem => readsBundle (fits bundle mem)) []
  rw [List.append_nil] at body
  unfold parseBinaryBundles serializeCandidateBundles
  rw [header]
  show (readMany readBinaryBundle _ (bundles.flatMap serializeBundle) >>= _) = _
  rw [body]
  rfl

/-! The first byte decides. -/

theorem firstByte (bundles : List CandidateBundle) :
    ∃ rest, serializeCandidateBundles bundles = UInt8.ofNat bundles.length::rest := by
  have low : UInt8.ofNat (UInt32.ofNat bundles.length).toNat = UInt8.ofNat bundles.length := by
    apply UInt8.toNat.inj
    simp only [UInt8.toNat_ofNat',UInt32.toNat_ofNat']
    omega
  rw [serializeCandidateBundles,appendU32,bytesOfSucc,low,List.cons_append]
  exact ⟨_,rfl⟩
-- The high bytes of a leg count are zero, so any file with a bundle has a zero byte.
theorem zeroByte (bundle : CandidateBundle) : 0 ∈ serializeBundle bundle := by
  have few := bundle.legsFit
  have size : (UInt32.ofNat bundle.legs.length).toNat / 256 = 0 := by
    rw [sizeU32 (few.trans_lt (by decide))]
    exact Nat.div_eq_of_lt (few.trans_lt (by decide))
  have counted : 0 ∈ appendU32 (UInt32.ofNat bundle.legs.length) := by
    rw [appendU32,bytesOfSucc,bytesOfSucc,size]
    simp
  simp [serializeBundle,counted]
theorem readAsJson {parse : Bytes → Option Json} (strict : ∀ text, 0 ∈ text → parse text = none)
    {bundles : List CandidateBundle}
    (marked : bundles.length % 256 = 123 ∨ bundles.length % 256 = 91) :
    parseBundles parse (serializeCandidateBundles bundles) = .error "malformed candidate bundle JSON" := by
  have zero : 0 ∈ serializeCandidateBundles bundles := by
    cases bundles with
    | nil => simp at marked
    | cons bundle rest => exact List.mem_append_right _ (List.mem_append_left _ (zeroByte bundle))
  obtain ⟨rest,starts⟩ := firstByte bundles
  have first : UInt8.ofNat bundles.length = 123 ∨ UInt8.ofNat bundles.length = 91 := by
    refine marked.imp ?_ ?_ <;>
    · intro low
      apply UInt8.toNat.inj
      rw [UInt8.toNat_ofNat']
      exact low
  rw [starts] at zero ⊢
  rw [parseBundles,if_pos first,parseJsonBundles,strict _ zero]
  rfl
theorem readAsBinary (parse : Bytes → Option Json) {bundles : List CandidateBundle}
    (brace : bundles.length % 256 ≠ 123) (bracket : bundles.length % 256 ≠ 91) :
    parseBundles parse (serializeCandidateBundles bundles) = parseBinaryBundles
      (serializeCandidateBundles bundles) := by
  obtain ⟨rest,starts⟩ := firstByte bundles
  have low : (UInt8.ofNat bundles.length).toNat = bundles.length % 256 := UInt8.toNat_ofNat'
  rw [starts,parseBundles,if_neg]
  rintro (first | first)
  · exact brace (low.symm.trans (congrArg UInt8.toNat first))
  · exact bracket (low.symm.trans (congrArg UInt8.toNat first))

theorem roundTripIff (parse : Bytes → Option Json) (strict : ∀ text, 0 ∈ text → parse text = none)
    (bundles : List CandidateBundle) :
    parseBundles parse (serializeCandidateBundles bundles) = .ok bundles ↔
      bundles.length % 256 ≠ 123 ∧ bundles.length % 256 ≠ 91 ∧ bundles.length < 4294967296 ∧
        ∀ bundle ∈ bundles, ∀ leg ∈ bundle.legs, StringsFit leg := by
  by_cases marked : bundles.length % 256 = 123 ∨ bundles.length % 256 = 91
  · rw [readAsJson strict marked]
    refine iff_of_false (fun same => nomatch same) ?_
    rintro ⟨brace,bracket,-⟩
    exact marked.elim brace bracket
  · obtain ⟨brace,bracket⟩ := not_or.mp marked
    rw [readAsBinary parse brace bracket]
    constructor
    · intro parsed
      exact ⟨brace,bracket,parsedFits parsed⟩
    · rintro ⟨-,-,few,fits⟩
      exact parseSerialized few fits

def oneLeg (bundleId : UInt64) : CandidateBundle :=
  { bundleId
    legs :=
      [{marketId := ascii "m", assetId := ascii "a", side := .sell, quantityLots := 10, maxPriceTick := 600000}] }
-- A binary file is not JSON text, so a parser that refuses it stands for the library here.
theorem twoBundlesRoundTrip :
    parseBundles (fun _ => none) (serializeCandidateBundles [oneLeg 1,oneLeg 2]) = .ok [oneLeg 1,oneLeg 2] :=
  (roundTripIff (fun _ => none) (fun _ _ => rfl) [oneLeg 1,oneLeg 2]).mpr (by decide)
theorem ninetyOneBundlesLost :
    let bundles := (List.range 91).map fun i => oneLeg (UInt64.ofNat i)
    parseBundles (fun _ => none) (serializeCandidateBundles bundles) ≠ .ok bundles := by
  intro bundles same
  rw [readAsJson (fun _ _ => rfl) (by simp [bundles])] at same
  cases same

end Polytope.BundleArtifact
