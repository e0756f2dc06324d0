import Polytope.HexText

/-! OrderFilledDecoder and the hex helpers of EthLogDecoder. A std::string is a list of characters, one for each of
its bytes; the numbers of boost are natural numbers. -/
namespace Polytope.OrderFilledDecoder
open HexText

/-! EthLogDecoder. -/

def prefixed (digits : Text) : Text := ['0','x'] ++ digits
def isHexChar (c : Char) : Bool := decide (c ∈ hexChars)
def normalizeHex (value : Text) : Text :=
  if value.take 2 = ['0','x'] ∨ value.take 2 = ['0','X'] then '0' :: 'x' :: lower (value.drop 2)
  else '0' :: 'x' :: lower value
def isHex32Word (value : Text) : Bool :=
  let normalized := normalizeHex value
  if normalized.length ≠ 66 then false else (normalized.drop 2).all isHexChar
def topicToAddress (topic : Text) : Text :=
  let normalized := normalizeHex topic
  if isHex32Word normalized = false then [] else prefixed (normalized.drop (normalized.length - 40))
def splitDataWords (data : Text) : List Text :=
  let normalized := normalizeHex data
  if normalized = ['0','x'] then []
  else
    let body := normalized.drop 2
    if body.length % 64 ≠ 0 then []
    else (List.range (body.length / 64)).map fun i => prefixed ((body.drop (64 * i)).take 64)
def parseHexWord (value : Text) : Nat := number ((normalizeHex value).drop 2)
def decimal (n : Nat) : Text := Nat.toDigits 10 n
def uint256ToDecimalString (value : Text) : Text :=
  if isHex32Word value = false then [] else decimal (parseHexWord value)
def uint256ToU64 (value : Text) : Option UInt64 :=
  if isHex32Word value = false then none
  else if 2^64 - 1 < parseHexWord value then none
  else some (UInt64.ofNat (parseHexWord value))

/-! OrderFilledDecoder. -/

structure EthLog where
  address : Text := []
  topics : List Text := []
  data : Text := []
  blockNumber : UInt64 := 0
  txHash : Text := []
  logIndex : UInt32 := 0
  removed : Bool := false
  deriving DecidableEq, Repr
structure OrderFilledEvent where
  orderHash : Text := []
  conditionId : Text := []
  tokenId : Text := []
  maker : Text := []
  taker : Text := []
  makerAssetId : Text := []
  takerAssetId : Text := []
  side : UInt8 := 0
  makerAmountFilled : UInt64 := 0
  takerAmountFilled : UInt64 := 0
  fee : UInt64 := 0
  timestamp : UInt64 := 0
  builder : Text := []
  metadata : Text := []
  blockNumber : UInt64 := 0
  txHash : Text := []
  logIndex : UInt32 := 0
  removed : Bool := false
  deriving DecidableEq, Repr
structure OrderFilledDecodeResult where
  ok : Bool := false
  error : String := ""
  event : OrderFilledEvent := {}
  deriving DecidableEq, Repr

def kOrderFilledTopic0 : Text := "0xd543adfd945773f1a62f74f0ee55a5e3b9b1a28262980ba90b1a89f2ea84d8ee".toList
def kLegacyOrderFilledTopic0 : Text := "0xd0a08e8c493f9c94f29311604c9de1b4e8c8d4c06bd0c789af57f2d65bfec0f6".toList
def isZeroAsset (assetId : Text) : Bool := decide (assetId = ['0'])
def fillLogMetadata (event : OrderFilledEvent) (log : EthLog) : OrderFilledEvent :=
  { event with
    blockNumber := log.blockNumber
    txHash := normalizeHex log.txHash
    logIndex := log.logIndex
    removed := log.removed }
-- Buy is side 0 and sell side 1; the assets of any other side stay unnamed.
def nameAssets (event : OrderFilledEvent) (tokenId : Text) : OrderFilledEvent :=
  if event.side = 0 then {event with makerAssetId := ['0'], takerAssetId := tokenId}
  else if event.side = 1 then {event with makerAssetId := tokenId, takerAssetId := ['0']}
  else event
def refuse (error : String) : OrderFilledDecodeResult := {error}

def decodeCtfExchangeV2 (log : EthLog) : OrderFilledDecodeResult :=
  match log.topics with
  | [_,orderHash,maker,taker] =>
    if isHex32Word orderHash = false ∨ isHex32Word maker = false ∨ isHex32Word taker = false then
      refuse "CTF Exchange V2 OrderFilled indexed topics are malformed"
    else
      match splitDataWords log.data with
      | [sideWord,token,makerWord,takerWord,feeWord,builder,metadata] =>
        match uint256ToU64 sideWord,uint256ToU64 makerWord,uint256ToU64 takerWord,uint256ToU64 feeWord with
        | some side,some makerAmount,some takerAmount,some fee =>
          if 255 < side then refuse "CTF Exchange V2 OrderFilled numeric field overflow"
          else if uint256ToDecimalString token = [] then refuse "CTF Exchange V2 OrderFilled missing token id"
          else
            let event : OrderFilledEvent := {
              orderHash := normalizeHex orderHash
              maker := topicToAddress maker
              taker := topicToAddress taker
              side := side.toUInt8
              tokenId := uint256ToDecimalString token
              makerAmountFilled := makerAmount
              takerAmountFilled := takerAmount
              fee
              builder := normalizeHex builder
              metadata := normalizeHex metadata }
            let event := nameAssets (fillLogMetadata event log) (uint256ToDecimalString token)
            if event.maker = [] ∨ event.taker = [] then
              refuse "CTF Exchange V2 OrderFilled log contains malformed addresses"
            else {ok := true, event}
        | _,_,_,_ => refuse "CTF Exchange V2 OrderFilled numeric field overflow"
      | _ => refuse "CTF Exchange V2 OrderFilled data must contain 7 ABI words"
  | _ => refuse "CTF Exchange V2 OrderFilled log must have 4 topics"
def decodeLegacyOrderFilled (log : EthLog) : OrderFilledDecodeResult :=
  match log.topics with
  | [_,orderHash,maker,taker] =>
    if isHex32Word orderHash = false ∨ isHex32Word maker = false ∨ isHex32Word taker = false then
      refuse "legacy OrderFilled indexed topics are malformed"
    else
      match splitDataWords log.data with
      | [makerAsset,takerAsset,makerWord,takerWord,feeWord] =>
        match uint256ToU64 makerWord,uint256ToU64 takerWord,uint256ToU64 feeWord with
        | some makerAmount,some takerAmount,some fee =>
          let makerAssetId := uint256ToDecimalString makerAsset
          let takerAssetId := uint256ToDecimalString takerAsset
          let event : OrderFilledEvent := {
            orderHash := normalizeHex orderHash
            maker := topicToAddress maker
            taker := topicToAddress taker
            makerAssetId
            takerAssetId
            tokenId := if isZeroAsset makerAssetId = false then makerAssetId else takerAssetId
            makerAmountFilled := makerAmount
            takerAmountFilled := takerAmount
            fee }
          let event := fillLogMetadata event log
          if event.maker = [] ∨ event.taker = [] ∨ event.makerAssetId = [] ∨ event.takerAssetId = [] then
            refuse "legacy OrderFilled log contains malformed fields"
          else {ok := true, event}
        | _,_,_ => refuse "legacy OrderFilled amount exceeds uint64"
      | _ => refuse "legacy OrderFilled data must contain 5 uint256 words"
  | _ => refuse "legacy OrderFilled log must have 4 topics"
def decode (log : EthLog) : OrderFilledDecodeResult :=
  match log.topics with
  | [] => refuse "wrong OrderFilled topic"
  | topic::_ =>
    if normalizeHex topic = normalizeHex kOrderFilledTopic0 then decodeCtfExchangeV2 log
    else if normalizeHex topic = normalizeHex kLegacyOrderFilledTopic0 then decodeLegacyOrderFilled log
    else refuse "wrong OrderFilled topic"

/-! The hex helpers on the digits of a text. -/

theorem normalizeBody (value : Text) : normalizeHex value = '0' :: 'x' :: bodyOf value := by
  unfold normalizeHex bodyOf
  split <;> rfl
def Word32 (digits : Text) : Prop := digits.length = 64 ∧ IsHex digits
instance (digits : Text) : Decidable (Word32 digits) := inferInstanceAs (Decidable (_ ∧ _))

theorem hexWordIff (value : Text) : isHex32Word value = true ↔ Word32 (bodyOf value) := by
  unfold isHex32Word
  rw [normalizeBody]
  simp only [List.length_cons,List.drop_succ_cons,List.drop_zero]
  by_cases size : (bodyOf value).length = 64
  · rw [if_neg (by omega),List.all_eq_true]
    simp [isHexChar,Word32,IsHex,size]
  · rw [if_pos (by omega)]
    simp [Word32,size]
theorem bodyPrefixed (digits : Text) : bodyOf ('0' :: 'x' :: digits) = lower digits := rfl
theorem bodyNormalized (value : Text) : bodyOf (normalizeHex value) = bodyOf value := by
  rw [normalizeBody,bodyPrefixed]
  exact lowerTwice _
theorem parsedBody (value : Text) : parseHexWord value = number (bodyOf value) := by
  rw [parseHexWord,normalizeBody]
  rfl
theorem wordThirty2 (n : Nat) : Word32 (word 64 n) := ⟨wordLength 64 n,(wordHex 64 n).1⟩
theorem wordOf {digits : Text} (hex : Word32 digits) (low : lower digits = digits) :
    digits = word 64 (number digits) := by
  have written := wordNumber hex.2
  rw [hex.1,low] at written
  exact written.symm
theorem numberLow {digits : Text} (hex : Word32 digits) : number digits < 2 ^ 256 := by
  have fits := numberFits hex.2
  rwa [hex.1] at fits
theorem numberOf {n : Nat} (fits : n < 2 ^ 256) : number (word 64 n) = n := by
  rw [numberWord]
  exact Nat.mod_eq_of_lt fits
theorem bodyLow (value : Text) : lower (bodyOf value) = bodyOf value := lowerTwice _

theorem u64Iff (value : Text) (n : UInt64) : uint256ToU64 value = some n ↔ bodyOf value = word 64 n.toNat := by
  unfold uint256ToU64
  rw [parsedBody]
  constructor
  · intro read
    split at read
    · cases read
    · next hex =>
      have body := (hexWordIff value).mp (eq_true_of_ne_false hex)
      split at read
      · cases read
      · next fits =>
        cases read
        rw [UInt64.toNat_ofNat',Nat.mod_eq_of_lt (by omega)]
        exact wordOf body (bodyLow value)
  · intro body
    have hex : isHex32Word value = true := (hexWordIff value).mpr (body ▸ wordThirty2 _)
    have small := n.toNat_lt
    rw [if_neg (by simp [hex]),body,numberOf (by omega),if_neg (by omega),UInt64.ofNat_toNat]
theorem decimalNonempty (n : Nat) : decimal n ≠ [] := Nat.toDigits_ne_nil
theorem zeroAsset (n : BitVec 256) : isZeroAsset (decimal n.toNat) = false ↔ n ≠ 0 := by
  have written : decimal n.toNat = ['0'] ↔ n = 0 := by
    constructor
    · intro same
      have read := congrArg (fun digits => Nat.ofDigitChars 10 digits 0) same
      rw [decimal,Nat.ofDigitChars_ten_toDigits] at read
      exact BitVec.eq_of_toNat_eq read
    · rintro rfl
      rfl
  simp [isZeroAsset,written]
theorem decimalWord {value : Text} (hex : Word32 (bodyOf value)) :
    uint256ToDecimalString value = decimal (number (bodyOf value)) := by
  unfold uint256ToDecimalString
  rw [if_neg (by simp [(hexWordIff value).mpr hex]),parsedBody]
theorem decimalIff (value : Text) : uint256ToDecimalString value = [] ↔ ¬ Word32 (bodyOf value) := by
  constructor
  · intro empty hex
    rw [decimalWord hex] at empty
    exact decimalNonempty _ empty
  · intro other
    exact if_pos (Bool.eq_false_iff.mpr fun hex => other ((hexWordIff value).mp hex))
theorem addressOf {topic : Text} (hex : Word32 (bodyOf topic)) :
    topicToAddress topic = prefixed ((bodyOf topic).drop 24) := by
  have whole : isHex32Word (normalizeHex topic) = true := by
    rw [hexWordIff,bodyNormalized]
    exact hex
  unfold topicToAddress
  rw [if_neg (by simp [whole]),normalizeBody]
  simp [hex.1]

/-! Data cut into words. -/

def chunks (body : Text) (count : Nat) : List Text := (List.range count).map fun i => (body.drop (64 * i)).take 64
theorem chunksSucc (body : Text) (count : Nat) :
    chunks body (count + 1) = body.take 64::chunks (body.drop 64) count := by
  simp [chunks,List.range_succ_eq_map,Function.comp_def,Nat.mul_add,Nat.add_comm]
theorem chunksJoined {body : Text} {count : Nat} (size : body.length = 64 * count) :
    (chunks body count).flatten = body ∧ ∀ digits ∈ chunks body count, digits.length = 64 := by
  induction count generalizing body with
  | zero => exact ⟨(List.eq_nil_of_length_eq_zero size).symm,fun _ mem => (nomatch mem)⟩
  | succ count ih =>
    have shorter : (body.drop 64).length = 64 * count := by
      rw [List.length_drop]
      omega
    obtain ⟨rest,each⟩ := ih shorter
    rw [chunksSucc]
    refine ⟨by rw [List.flatten_cons,rest,List.take_append_drop],List.forall_mem_cons.mpr ⟨?_,each⟩⟩
    rw [List.length_take]
    omega
theorem flattenSize {pieces : List Text} (each : ∀ digits ∈ pieces, digits.length = 64) :
    pieces.flatten.length = 64 * pieces.length := by
  induction pieces with
  | nil => rfl
  | cons digits rest ih =>
    rw [List.flatten_cons,List.length_append,ih fun other mem => each other (List.mem_cons_of_mem _ mem),
      each digits List.mem_cons_self,List.length_cons]
    omega
theorem chunksOf {pieces : List Text} (each : ∀ digits ∈ pieces, digits.length = 64) :
    chunks pieces.flatten pieces.length = pieces := by
  induction pieces with
  | nil => rfl
  | cons digits rest ih =>
    have size := each digits List.mem_cons_self
    rw [List.length_cons,chunksSucc,List.flatten_cons,List.take_left' size,List.drop_left' size,
      ih fun other mem => each other (List.mem_cons_of_mem _ mem)]
theorem splitWords {data : Text} {words : List Text} (some : words ≠ []) : splitDataWords data = words ↔
    ∃ pieces : List Text, words = pieces.map prefixed ∧ (∀ digits ∈ pieces, digits.length = 64) ∧
      bodyOf data = pieces.flatten := by
  unfold splitDataWords
  rw [normalizeBody]
  simp only [List.cons.injEq,true_and,List.drop_succ_cons,List.drop_zero]
  constructor
  · intro split
    split at split
    · exact absurd split.symm some
    split at split
    · exact absurd split.symm some
    next _ rows =>
      have whole : (bodyOf data).length = 64 * ((bodyOf data).length / 64) := by omega
      obtain ⟨joined,each⟩ := chunksJoined whole
      refine ⟨_,?_,each,joined.symm⟩
      rw [← split,chunks,List.map_map]
      rfl
  · rintro ⟨pieces,rfl,each,body⟩
    have size := flattenSize each
    have any : 0 < pieces.length := List.length_pos_iff.mpr fun none => some (by rw [none]; rfl)
    have nonempty : bodyOf data ≠ [] := by
      intro empty
      rw [← body,empty] at size
      simp only [List.length_nil] at size
      omega
    have count : (bodyOf data).length / 64 = pieces.length := by rw [body,size]; omega
    rw [if_neg nonempty,if_neg (by rw [body,size]; omega),count]
    have whole := chunksOf each
    rw [← body] at whole
    conv_rhs => rw [← whole]
    rw [chunks,List.map_map]
    rfl

end Polytope.OrderFilledDecoder
