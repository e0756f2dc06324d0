import Polytope.OrderFilledDecoder
import Mathlib.Data.List.Forall2

/-! OrderFilled logs against the ABI encoding of their events. Every encoding is decoded to its fields, in any
spelling; a log that is accepted encodes an event exactly when its address topics are padded with zeros and
its last two words, which the decoder does not look at, are words. -/
namespace Polytope.OrderFilledEncoding
open HexText OrderFilledDecoder

/-! What an accepted log reads. -/

structure ReadTopics where
  orderHash : Text
  maker : Text
  taker : Text
structure ReadTopics.Of (topics : ReadTopics) (topic0 : Text) (log : EthLog) : Prop where
  digits : log.topics.map bodyOf = [bodyOf topic0,topics.orderHash,topics.maker,topics.taker]
  orderHash : Word32 topics.orderHash
  maker : Word32 topics.maker
  taker : Word32 topics.taker
structure Amounts where
  maker : UInt64
  taker : UInt64
  fee : UInt64
def Amounts.words (amounts : Amounts) : List Text :=
  [word 64 amounts.maker.toNat,word 64 amounts.taker.toNat,word 64 amounts.fee.toNat]
structure CurrentReading where
  topics : ReadTopics
  side : UInt8
  tokenId : BitVec 256
  amounts : Amounts
  builder : Text
  metadata : Text
structure LegacyReading where
  topics : ReadTopics
  makerAssetId : BitVec 256
  takerAssetId : BitVec 256
  amounts : Amounts
structure CurrentReading.Of (reading : CurrentReading) (log : EthLog) : Prop where
  topics : reading.topics.Of kOrderFilledTopic0 log
  data : bodyOf log.data = (word 64 reading.side.toNat::word 64 reading.tokenId.toNat::reading.amounts.words ++
    [reading.builder,reading.metadata]).flatten
  builder : reading.builder.length = 64
  metadata : reading.metadata.length = 64
structure LegacyReading.Of (reading : LegacyReading) (log : EthLog) : Prop where
  topics : reading.topics.Of kLegacyOrderFilledTopic0 log
  data : bodyOf log.data = (word 64 reading.makerAssetId.toNat::word 64
    reading.takerAssetId.toNat::reading.amounts.words).flatten

def ReadTopics.event (topics : ReadTopics) (amounts : Amounts) : OrderFilledEvent := {
  orderHash := prefixed topics.orderHash
  maker := prefixed (topics.maker.drop 24)
  taker := prefixed (topics.taker.drop 24)
  makerAmountFilled := amounts.maker
  takerAmountFilled := amounts.taker
  fee := amounts.fee }
def CurrentReading.event (reading : CurrentReading) (log : EthLog) : OrderFilledEvent :=
  nameAssets (fillLogMetadata {reading.topics.event reading.amounts with
    side := reading.side
    tokenId := decimal reading.tokenId.toNat
    builder := prefixed reading.builder
    metadata := prefixed reading.metadata} log) (decimal reading.tokenId.toNat)
def LegacyReading.event (reading : LegacyReading) (log : EthLog) : OrderFilledEvent :=
  fillLogMetadata {reading.topics.event reading.amounts with
    makerAssetId := decimal reading.makerAssetId.toNat
    takerAssetId := decimal reading.takerAssetId.toNat
    tokenId := decimal (if reading.makerAssetId ≠ 0 then reading.makerAssetId.toNat
      else reading.takerAssetId.toNat)} log

theorem topicsRead {topic0 : Text} {log : EthLog} {topic orderHash maker taker : Text}
    (named : normalizeHex topic = normalizeHex topic0)
    (topics : log.topics = [topic,orderHash,maker,taker])
    (hex : ¬ (isHex32Word orderHash = false ∨ isHex32Word maker = false ∨ isHex32Word taker = false)) :
    (⟨bodyOf orderHash,bodyOf maker,bodyOf taker⟩ : ReadTopics).Of topic0 log := by
  simp only [not_or,Bool.not_eq_false,hexWordIff] at hex
  rw [normalizeBody,normalizeBody] at named
  simp only [List.cons.injEq,true_and] at named
  exact ⟨by simp [topics,named],hex.1,hex.2.1,hex.2.2⟩
theorem lowEach {text : Text} : lower text = text ↔ ∀ c ∈ text, c.toLower = c := by
  induction text with
  | nil => simp [lower]
  | cons c rest ih =>
    rw [lower] at ih
    simp [lower,ih]
theorem piecesLow {data : Text} {pieces : List Text} (body : bodyOf data = pieces.flatten) :
    ∀ digits ∈ pieces, lower digits = digits := by
  have whole := lowEach.mp (bodyLow data)
  rw [body] at whole
  exact fun digits mem => lowEach.mpr fun c inside => whole c (List.mem_flatten_of_mem mem inside)
theorem bodyPiece {digits : Text} (low : lower digits = digits) : bodyOf (prefixed digits) = digits := low
theorem normalizePiece {digits : Text} (low : lower digits = digits) :
    normalizeHex (prefixed digits) = prefixed digits := by
  rw [normalizeBody,bodyPiece low]
  rfl
theorem topicsSpelled {topic0 : Text} {log : EthLog} {topics : ReadTopics} (of : topics.Of topic0 log) :
    ∃ topic orderHash maker taker, log.topics = [topic,orderHash,maker,taker] ∧
      normalizeHex topic = normalizeHex topic0 ∧
      bodyOf orderHash = topics.orderHash ∧ bodyOf maker = topics.maker ∧ bodyOf taker = topics.taker := by
  have digits := of.digits
  match shape : log.topics with
  | [topic,orderHash,maker,taker] =>
    simp only [shape,List.map_cons,List.map_nil,List.cons.injEq,and_true] at digits
    obtain ⟨named,hash,make,take⟩ := digits
    exact ⟨topic,orderHash,maker,taker,rfl,by rw [normalizeBody,normalizeBody,named],hash,make,take⟩
  | [] | [_] | [_,_] | [_,_,_] | _::_::_::_::_::_ => simp [shape] at digits

theorem amountPiece (n : UInt64) : uint256ToU64 (prefixed (word 64 n.toNat)) = some n :=
  (u64Iff _ n).mpr (bodyPiece (wordHex 64 n.toNat).2)
theorem numberPiece (n : BitVec 256) : uint256ToDecimalString (prefixed (word 64 n.toNat)) = decimal n.toNat := by
  have body : bodyOf (prefixed (word 64 n.toNat)) = word 64 n.toNat := bodyPiece (wordHex 64 n.toNat).2
  have hex : Word32 (bodyOf (prefixed (word 64 n.toNat))) := by
    rw [body]
    exact wordThirty2 _
  rw [decimalWord hex,body,numberOf n.isLt]
theorem topicsHex {topic0 : Text} {log : EthLog} {topics : ReadTopics} (of : topics.Of topic0 log)
    {orderHash maker taker : Text}
    (hash : bodyOf orderHash = topics.orderHash) (make : bodyOf maker = topics.maker)
    (take : bodyOf taker = topics.taker) :
    ¬ (isHex32Word orderHash = false ∨ isHex32Word maker = false ∨ isHex32Word taker = false) := by
  simp only [not_or,Bool.not_eq_false,hexWordIff,hash,make,take]
  exact ⟨of.orderHash,of.maker,of.taker⟩
theorem topicsEvent {topic0 : Text} {log : EthLog} {topics : ReadTopics} (of : topics.Of topic0 log)
    {orderHash maker taker : Text}
    (hash : bodyOf orderHash = topics.orderHash) (make : bodyOf maker = topics.maker)
    (take : bodyOf taker = topics.taker) :
    normalizeHex orderHash = prefixed topics.orderHash ∧ topicToAddress maker = prefixed (topics.maker.drop 24) ∧
      topicToAddress taker = prefixed (topics.taker.drop 24) := by
  refine ⟨?_,?_,?_⟩
  · rw [normalizeBody,hash]
    rfl
  · rw [addressOf (make ▸ of.maker),make]
  · rw [addressOf (take ▸ of.taker),take]

theorem assetsNamed (event : OrderFilledEvent) (tokenId : Text) :
    (nameAssets event tokenId).maker = event.maker ∧ (nameAssets event tokenId).taker = event.taker := by
  unfold nameAssets
  split
  · exact ⟨rfl,rfl⟩
  · split <;> exact ⟨rfl,rfl⟩

theorem currentDecoded {log : EthLog} {reading : CurrentReading} (of : reading.Of log) :
    decode log = {ok := true, event := reading.event log} := by
  obtain ⟨topic,orderHash,maker,taker,topics,named,hash,make,take⟩ := topicsSpelled of.topics
  have sizes : ∀ digits ∈ word 64 reading.side.toNat::word 64 reading.tokenId.toNat::reading.amounts.words ++
      [reading.builder,reading.metadata], digits.length = 64 := by
    simp [Amounts.words,of.builder,of.metadata]
  have low := piecesLow of.data
  have words := (splitWords (by simp)).mpr ⟨_,rfl,sizes,of.data⟩
  have builderLow : lower reading.builder = reading.builder := low _ (by simp)
  have metadataLow : lower reading.metadata = reading.metadata := low _ (by simp)
  obtain ⟨hashShown,makeShown,takeShown⟩ := topicsEvent of.topics hash make take
  simp only [Amounts.words,List.cons_append,List.nil_append,List.map_cons,List.map_nil] at words
  have side : uint256ToU64 (prefixed (word 64 reading.side.toNat)) = some reading.side.toUInt64 :=
    amountPiece reading.side.toUInt64
  have fits : ¬ 255 < reading.side.toUInt64 := by
    have small := reading.side.toNat_lt
    rw [UInt64.lt_iff_toNat_lt,UInt8.toNat_toUInt64]
    exact Nat.not_lt.mpr (Nat.le_of_lt_succ small)
  unfold decode
  rw [topics]
  simp only
  rw [if_pos named]
  unfold decodeCtfExchangeV2
  rw [topics]
  simp only
  rw [if_neg (topicsHex of.topics hash make take),words]
  simp only [side,amountPiece,numberPiece]
  rw [if_neg fits,if_neg (decimalNonempty _),normalizePiece builderLow,normalizePiece
    metadataLow,hashShown,makeShown,takeShown]
  have sideByte : reading.side.toUInt64.toUInt8 = reading.side := UInt8.toUInt8_toUInt64 _
  rw [if_neg,sideByte]
  · rfl
  · rw [(assetsNamed _ _).1,(assetsNamed _ _).2]
    rintro (none | none)
    · cases none
    · cases none
theorem namesApart : bodyOf kLegacyOrderFilledTopic0 ≠ bodyOf kOrderFilledTopic0 := by decide
theorem legacyDecoded {log : EthLog} {reading : LegacyReading} (of : reading.Of log) :
    decode log = {ok := true, event := reading.event log} := by
  obtain ⟨topic,orderHash,maker,taker,topics,named,hash,make,take⟩ := topicsSpelled of.topics
  have sizes : ∀ digits ∈ word 64 reading.makerAssetId.toNat::word 64
    reading.takerAssetId.toNat::reading.amounts.words, digits.length = 64 := by
    simp [Amounts.words]
  have words := (splitWords (by simp)).mpr ⟨_,rfl,sizes,of.data⟩
  obtain ⟨hashShown,makeShown,takeShown⟩ := topicsEvent of.topics hash make take
  simp only [Amounts.words,List.map_cons,List.map_nil] at words
  have apart : ¬ normalizeHex topic = normalizeHex kOrderFilledTopic0 := by
    rw [named,normalizeBody,normalizeBody]
    intro same
    simp only [List.cons.injEq,true_and] at same
    exact namesApart same
  unfold decode
  rw [topics]
  simp only
  rw [if_neg apart,if_pos named]
  unfold decodeLegacyOrderFilled
  rw [topics]
  simp only
  rw [if_neg (topicsHex of.topics hash make take),words]
  simp only [amountPiece,numberPiece]
  rw [hashShown,makeShown,takeShown,if_neg]
  · unfold LegacyReading.event
    simp only [zeroAsset,apply_ite decimal]
    rfl
  · rintro (none | none | none | none)
    · cases none
    · cases none
    · exact decimalNonempty _ none
    · exact decimalNonempty _ none

theorem amountRead {digits : Text} {n : UInt64} (low : lower digits = digits)
    (read : uint256ToU64 (prefixed digits) = some n) :
    digits = word 64 n.toNat := by
  rw [← (u64Iff _ n).mp read,bodyPiece low]
theorem numberRead {digits : Text} (low : lower digits = digits)
    (read : uint256ToDecimalString (prefixed digits) ≠ []) :
    digits = word 64 (BitVec.ofNat 256 (number digits)).toNat := by
  have hex : Word32 digits := by
    have whole := not_not.mp (mt (decimalIff _).mpr read)
    rwa [bodyPiece low] at whole
  rw [BitVec.toNat_ofNat,Nat.mod_eq_of_lt (numberLow hex)]
  exact wordOf hex low
theorem sideByte {side : UInt64} (small : ¬ 255 < side) : side.toUInt8.toNat = side.toNat := by
  have fits : side.toNat ≤ 255 := Nat.not_lt.mp fun above => small (UInt64.lt_iff_toNat_lt.mpr above)
  rw [UInt64.toNat_toUInt8]
  exact Nat.mod_eq_of_lt (Nat.lt_succ_of_le fits)
theorem currentRead {log : EthLog} {topic : Text} {rest : List Text} (head : log.topics = topic::rest)
    (named : normalizeHex topic = normalizeHex kOrderFilledTopic0) (ok : (decodeCtfExchangeV2 log).ok = true) :
    ∃ reading : CurrentReading, reading.Of log := by
  unfold decodeCtfExchangeV2 at ok
  split at ok
  · next first orderHash maker taker topics =>
    have same : topic = first := (List.cons.inj (head.symm.trans topics)).1
    split at ok
    · cases ok
    · next hex =>
      split at ok
      · next sideWord token makerWord takerWord feeWord builder metadata words =>
        split at ok
        · next side makerAmount takerAmount fee sideRead makerRead takerRead feeRead =>
          split at ok
          · cases ok
          · next small =>
            split at ok
            · cases ok
            · next tokenRead =>
              obtain ⟨pieces,spelled,sizes,body⟩ := (splitWords (by simp)).mp words
              have low := piecesLow body
              replace spelled := spelled.symm
              simp only [List.map_eq_cons_iff,List.map_eq_nil_iff] at spelled
              obtain ⟨d0,_,rfl,rfl,d1,_,rfl,rfl,d2,_,rfl,rfl,d3,_,rfl,rfl,d4,_,rfl,rfl,d5,_,rfl,rfl,d6,_,rfl,
                rfl,rfl⟩ := spelled
              simp only [List.forall_mem_cons] at low sizes
              refine ⟨⟨⟨bodyOf orderHash,bodyOf maker,bodyOf taker⟩,side.toUInt8,BitVec.ofNat 256 (number d1),
                ⟨makerAmount,takerAmount,fee⟩,d5,d6⟩,topicsRead
                  (same ▸ named) topics hex,?_,sizes.2.2.2.2.2.1,sizes.2.2.2.2.2.2.1⟩
              refine body.trans (congrArg List.flatten ?_)
              simp only [Amounts.words,List.cons_append,List.nil_append,List.cons.injEq,and_true,sideByte small]
              exact ⟨amountRead low.1 sideRead,numberRead low.2.1 tokenRead,amountRead low.2.2.1
                makerRead,amountRead low.2.2.2.1 takerRead,
                amountRead low.2.2.2.2.1 feeRead⟩
        · cases ok
      · cases ok
  · cases ok
theorem notRefused {c : Prop} [Decidable c] {error : String} {event : OrderFilledEvent}
    (ok : (if c then refuse error else {ok := true, event}).ok = true) : ¬ c := by
  intro holds
  rw [if_pos holds] at ok
  cases ok
theorem legacyRead {log : EthLog} {topic : Text} {rest : List Text} (head : log.topics = topic::rest)
    (named : normalizeHex topic = normalizeHex kLegacyOrderFilledTopic0)
    (ok : (decodeLegacyOrderFilled log).ok = true) :
    ∃ reading : LegacyReading, reading.Of log := by
  unfold decodeLegacyOrderFilled at ok
  split at ok
  · next first orderHash maker taker topics =>
    have same : topic = first := (List.cons.inj (head.symm.trans topics)).1
    split at ok
    · cases ok
    · next hex =>
      split at ok
      · next makerAsset takerAsset makerWord takerWord feeWord words =>
        split at ok
        · next makerAmount takerAmount fee makerRead takerRead feeRead =>
          have fields := notRefused ok
          simp only [fillLogMetadata,not_or] at fields
          obtain ⟨pieces,spelled,sizes,body⟩ := (splitWords (by simp)).mp words
          have low := piecesLow body
          replace spelled := spelled.symm
          simp only [List.map_eq_cons_iff,List.map_eq_nil_iff] at spelled
          obtain ⟨d0,_,rfl,rfl,d1,_,rfl,rfl,d2,_,rfl,rfl,d3,_,rfl,rfl,d4,_,rfl,rfl,rfl⟩ := spelled
          simp only [List.forall_mem_cons] at low
          refine ⟨⟨⟨bodyOf orderHash,bodyOf maker,bodyOf taker⟩,BitVec.ofNat 256
            (number d0),BitVec.ofNat 256 (number d1),
            ⟨makerAmount,takerAmount,fee⟩⟩,topicsRead (same ▸ named) topics hex,?_⟩
          refine body.trans (congrArg List.flatten ?_)
          simp only [Amounts.words,List.cons.injEq,and_true]
          exact ⟨numberRead low.1 fields.2.2.1,numberRead low.2.1 fields.2.2.2,amountRead low.2.2.1 makerRead,
            amountRead low.2.2.2.1 takerRead,amountRead low.2.2.2.2.1 feeRead⟩
        · cases ok
      · cases ok
  · cases ok
theorem acceptedRead {log : EthLog} (ok : (decode log).ok = true) :
    (∃ reading : CurrentReading, reading.Of log) ∨ ∃ reading : LegacyReading, reading.Of log := by
  unfold decode at ok
  split at ok
  · cases ok
  · next topic rest head =>
    split at ok
    · next named => exact .inl (currentRead head named ok)
    · split at ok
      · next named => exact .inr (legacyRead head named ok)
      · cases ok

/-! ABI encodings. -/

structure CurrentOrderFilled where
  orderHash : BitVec 256
  maker : BitVec 160
  taker : BitVec 160
  side : UInt8
  tokenId : BitVec 256
  amounts : Amounts
  builder : BitVec 256
  metadata : BitVec 256
structure LegacyOrderFilled where
  orderHash : BitVec 256
  maker : BitVec 160
  taker : BitVec 160
  makerAssetId : BitVec 256
  takerAssetId : BitVec 256
  amounts : Amounts
def amountWords (amounts : Amounts) : List Nat := [amounts.maker.toNat,amounts.taker.toNat,amounts.fee.toNat]
-- In any letter case and with or without a prefix.
structure Encodes (topic0 : Text) (topics data : List Nat) (log : EthLog) : Prop where
  topics : List.Forall₂ Spells log.topics (topic0.drop 2::topics.map (word 64))
  data : Spells log.data (data.map (word 64)).flatten
def CurrentOrderFilled.EncodedBy (order : CurrentOrderFilled) (log : EthLog) : Prop :=
  Encodes kOrderFilledTopic0 [order.orderHash.toNat,order.maker.toNat,order.taker.toNat]
    (order.side.toNat::order.tokenId.toNat::amountWords order.amounts ++
      [order.builder.toNat,order.metadata.toNat]) log
def LegacyOrderFilled.EncodedBy (order : LegacyOrderFilled) (log : EthLog) : Prop :=
  Encodes kLegacyOrderFilledTopic0 [order.orderHash.toNat,order.maker.toNat,order.taker.toNat]
    (order.makerAssetId.toNat::order.takerAssetId.toNat::amountWords order.amounts) log
def CurrentOrderFilled.event (order : CurrentOrderFilled) (log : EthLog) : OrderFilledEvent :=
  nameAssets (fillLogMetadata {
    orderHash := prefixed (word 64 order.orderHash.toNat)
    maker := prefixed (word 40 order.maker.toNat)
    taker := prefixed (word 40 order.taker.toNat)
    side := order.side
    tokenId := decimal order.tokenId.toNat
    makerAmountFilled := order.amounts.maker
    takerAmountFilled := order.amounts.taker
    fee := order.amounts.fee
    builder := prefixed (word 64 order.builder.toNat)
    metadata := prefixed (word 64 order.metadata.toNat)} log) (decimal order.tokenId.toNat)
def LegacyOrderFilled.event (order : LegacyOrderFilled) (log : EthLog) : OrderFilledEvent :=
  fillLogMetadata {
    orderHash := prefixed (word 64 order.orderHash.toNat)
    maker := prefixed (word 40 order.maker.toNat)
    taker := prefixed (word 40 order.taker.toNat)
    makerAssetId := decimal order.makerAssetId.toNat
    takerAssetId := decimal order.takerAssetId.toNat
    tokenId := decimal (if order.makerAssetId ≠ 0 then order.makerAssetId.toNat else order.takerAssetId.toNat)
    makerAmountFilled := order.amounts.maker
    takerAmountFilled := order.amounts.taker
    fee := order.amounts.fee} log
structure DecodesExactly (log : EthLog) : Prop where
  current : ∀ order : CurrentOrderFilled, order.EncodedBy log → decode log = {ok := true, event := order.event log}
  legacy : ∀ order : LegacyOrderFilled, order.EncodedBy log → decode log = {ok := true, event := order.event log}
  rejects : (decode log).ok = true →
    (∃ order : CurrentOrderFilled, order.EncodedBy log) ∨ ∃ order : LegacyOrderFilled, order.EncodedBy log

def encodedTopics (orderHash : BitVec 256) (maker taker : BitVec 160) : ReadTopics :=
  ⟨word 64 orderHash.toNat,word 64 maker.toNat,word 64 taker.toNat⟩
def CurrentOrderFilled.reading (order : CurrentOrderFilled) : CurrentReading :=
  ⟨encodedTopics order.orderHash order.maker order.taker,order.side,order.tokenId,order.amounts,word 64
    order.builder.toNat,
    word 64 order.metadata.toNat⟩
def LegacyOrderFilled.reading (order : LegacyOrderFilled) : LegacyReading :=
  ⟨encodedTopics order.orderHash order.maker order.taker,order.makerAssetId,order.takerAssetId,order.amounts⟩

theorem spelledAll {digits : List Text} (hex : ∀ text ∈ digits, IsHex text) {texts : List Text} :
    List.Forall₂ Spells texts digits ↔ texts.map bodyOf = digits := by
  induction digits generalizing texts with
  | nil => rw [List.forall₂_nil_right_iff,List.map_eq_nil_iff]
  | cons first rest ih =>
    cases texts with
    | nil => simp [List.forall₂_nil_left_iff]
    | cons text texts =>
      rw [List.forall₂_cons,spellsBody (hex first List.mem_cons_self),ih fun other mem =>
        hex other (List.mem_cons_of_mem _ mem),
        List.map_cons,List.cons.injEq]
theorem wordsHex (data : List Nat) : ∀ text ∈ data.map (word 64), IsHex text := by
  intro text mem
  obtain ⟨n,-,rfl⟩ := List.mem_map.mp mem
  exact (wordHex 64 n).1
theorem encodesIff {topic0 : Text} (named : bodyOf topic0 = topic0.drop 2) (hex : IsHex (topic0.drop 2))
    (orderHash : BitVec 256)
    (maker taker : BitVec 160) (data : List Nat) (log : EthLog) :
    Encodes topic0 [orderHash.toNat,maker.toNat,taker.toNat] data log ↔
      (encodedTopics orderHash maker taker).Of topic0 log ∧ bodyOf log.data = (data.map (word 64)).flatten := by
  have topicsHex : ∀ text ∈ topic0.drop 2::[orderHash.toNat,maker.toNat,taker.toNat].map (word 64), IsHex text :=
    List.forall_mem_cons.mpr ⟨hex,wordsHex _⟩
  have dataHex : IsHex (data.map (word 64)).flatten := by
    intro c mem
    obtain ⟨text,inside,held⟩ := List.mem_flatten.mp mem
    exact wordsHex data text inside c held
  constructor
  · rintro ⟨topics,spelled⟩
    refine ⟨⟨?_,wordThirty2 _,wordThirty2 _,wordThirty2 _⟩,(spellsBody dataHex).mp spelled⟩
    rw [(spelledAll topicsHex).mp topics,named]
    rfl
  · rintro ⟨of,body⟩
    refine ⟨(spelledAll topicsHex).mpr ?_,(spellsBody dataHex).mpr body⟩
    rw [of.digits,named]
    rfl
theorem currentEncoded (order : CurrentOrderFilled) (log : EthLog) : order.EncodedBy log ↔
    order.reading.Of log := by
  unfold CurrentOrderFilled.EncodedBy
  rw [encodesIff (by decide) (by decide)]
  constructor
  · exact fun encoded => ⟨encoded.1,encoded.2,wordLength _ _,wordLength _ _⟩
  · exact fun of => ⟨of.topics,of.data⟩
theorem legacyEncoded (order : LegacyOrderFilled) (log : EthLog) : order.EncodedBy log ↔ order.reading.Of log := by
  unfold LegacyOrderFilled.EncodedBy
  rw [encodesIff (by decide) (by decide)]
  constructor
  · exact fun encoded => ⟨encoded.1,encoded.2⟩
  · exact fun of => ⟨of.topics,of.data⟩

/-! Clean logs. -/

-- An address stands in the last 40 digits of its topic.
def Padded (topic : Text) : Prop := topic.take 24 = List.replicate 24 '0'
def ReadTopics.Clean (topics : ReadTopics) : Prop := Padded topics.maker ∧ Padded topics.taker
def CurrentReading.Clean (reading : CurrentReading) : Prop :=
  reading.topics.Clean ∧ IsHex reading.builder ∧ IsHex reading.metadata

theorem addressWord (address : BitVec 160) :
    word 64 address.toNat = List.replicate 24 '0' ++ word 40 address.toNat := by
  have above : address.toNat / 16 ^ 40 = 0 := Nat.div_eq_of_lt address.isLt
  have split := wordSplit 24 40 address.toNat
  rw [above,wordZero] at split
  exact split
theorem addressPadded (address : BitVec 160) : Padded (word 64 address.toNat) ∧
    (word 64 address.toNat).drop 24 = word 40 address.toNat := by
  rw [addressWord]
  exact ⟨List.take_left' List.length_replicate,List.drop_left' List.length_replicate⟩
theorem paddedAddress {topic : Text} (hex : Word32 topic) (low : lower topic = topic) (clean : Padded topic) :
    topic = word 64 (BitVec.ofNat 160 (number (topic.drop 24))).toNat := by
  have tail : (topic.drop 24).length = 40 := by rw [List.length_drop,hex.1]
  have tailHex : IsHex (topic.drop 24) := fun c mem => hex.2 c (List.mem_of_mem_drop mem)
  have tailLow : lower (topic.drop 24) = topic.drop 24 :=
    lowEach.mpr fun c mem => lowEach.mp low c (List.mem_of_mem_drop mem)
  have written := wordNumber tailHex
  have fits : number (topic.drop 24) < 2 ^ 160 := by
    have bound := numberFits tailHex
    rwa [tail] at bound
  rw [tail,tailLow] at written
  rw [addressWord,BitVec.toNat_ofNat,Nat.mod_eq_of_lt fits,written,← clean,List.take_append_drop]
theorem wordPadded {digits : Text} (size : digits.length = 64) (hex : IsHex digits) (low : lower digits = digits) :
    digits = word 64 (BitVec.ofNat 256 (number digits)).toNat := by
  rw [BitVec.toNat_ofNat,Nat.mod_eq_of_lt (numberLow ⟨size,hex⟩)]
  exact wordOf ⟨size,hex⟩ low
theorem topicsLow {topic0 : Text} {topics : ReadTopics} {log : EthLog} (of : topics.Of topic0 log) :
    lower topics.orderHash = topics.orderHash ∧ lower topics.maker = topics.maker ∧
      lower topics.taker = topics.taker := by
  obtain ⟨_,orderHash,maker,taker,-,-,hash,make,take⟩ := topicsSpelled of
  exact ⟨hash ▸ bodyLow orderHash,make ▸ bodyLow maker,take ▸ bodyLow taker⟩
theorem topicsEncoded {topic0 : Text} {topics : ReadTopics} {log : EthLog} (of : topics.Of topic0 log)
    (clean : topics.Clean) :
    ∃ orderHash maker taker, encodedTopics orderHash maker taker = topics := by
  obtain ⟨hash,make,take⟩ := topicsLow of
  refine ⟨BitVec.ofNat 256 (number topics.orderHash),BitVec.ofNat 160 (number (topics.maker.drop 24)),
    BitVec.ofNat 160 (number (topics.taker.drop 24)),?_⟩
  rw [encodedTopics,← wordPadded of.orderHash.1 of.orderHash.2 hash,← paddedAddress of.maker make clean.1,
    ← paddedAddress of.taker take clean.2]
theorem encodedClean (orderHash : BitVec 256) (maker taker : BitVec 160) :
    (encodedTopics orderHash maker taker).Clean :=
  ⟨(addressPadded maker).1,(addressPadded taker).1⟩
theorem topicsAgree {topic0 other0 : Text} {topics others : ReadTopics} {log : EthLog} (of : topics.Of topic0 log)
    (other : others.Of other0 log) : bodyOf topic0 = bodyOf other0 ∧ topics = others := by
  have same := of.digits.symm.trans other.digits
  simp only [List.cons.injEq,and_true] at same
  obtain ⟨named,hash,make,take⟩ := same
  cases topics
  cases others
  exact ⟨named,by rw [ReadTopics.mk.injEq]; exact ⟨hash,make,take⟩⟩
theorem currentAgree {reading other : CurrentReading} {log : EthLog} (of : reading.Of log) (also : other.Of log) :
    reading.topics = other.topics ∧ reading.builder = other.builder ∧ reading.metadata = other.metadata := by
  have data := of.data.symm.trans also.data
  have sizes := List.eq_iff_flatten_eq.mpr
    ⟨data,by simp [Amounts.words,of.builder,of.metadata,also.builder,also.metadata]⟩
  simp only [Amounts.words,List.cons_append,List.nil_append,List.cons.injEq,and_true] at sizes
  exact ⟨(topicsAgree of.topics also.topics).2,sizes.2.2.2.2.2⟩
theorem currentClean {reading : CurrentReading} {log : EthLog} (of : reading.Of log) :
    reading.Clean ↔ (∃ order : CurrentOrderFilled, order.EncodedBy log) ∨
      ∃ order : LegacyOrderFilled, order.EncodedBy log := by
  constructor
  · rintro ⟨topics,builder,metadata⟩
    obtain ⟨orderHash,maker,taker,encoded⟩ := topicsEncoded of.topics topics
    have low := piecesLow of.data
    refine .inl ⟨⟨orderHash,maker,taker,reading.side,reading.tokenId,reading.amounts,BitVec.ofNat 256
      (number reading.builder),
      BitVec.ofNat 256 (number reading.metadata)⟩,(currentEncoded _ log).mpr ?_⟩
    rw [CurrentOrderFilled.reading,encoded,← wordPadded of.builder builder
      (low _ (by simp)),← wordPadded of.metadata metadata (low _ (by simp))]
    exact of
  · rintro (⟨order,encoded⟩ | ⟨order,encoded⟩)
    · obtain ⟨topics,builder,metadata⟩ := currentAgree of ((currentEncoded order log).mp encoded)
      rw [CurrentReading.Clean,topics,builder,metadata]
      exact ⟨encodedClean _ _ _,(wordHex 64 _).1,(wordHex 64 _).1⟩
    · have named := (topicsAgree of.topics ((legacyEncoded order log).mp encoded).topics).1
      exact absurd named.symm namesApart
theorem legacyClean {reading : LegacyReading} {log : EthLog} (of : reading.Of log) :
    reading.topics.Clean ↔ (∃ order : CurrentOrderFilled, order.EncodedBy log) ∨
      ∃ order : LegacyOrderFilled, order.EncodedBy log := by
  constructor
  · intro topics
    obtain ⟨orderHash,maker,taker,encoded⟩ := topicsEncoded of.topics topics
    refine .inr ⟨⟨orderHash,maker,taker,reading.makerAssetId,reading.takerAssetId,reading.amounts⟩,
      (legacyEncoded _ log).mpr ?_⟩
    rw [LegacyOrderFilled.reading,encoded]
    exact of
  · rintro (⟨order,encoded⟩ | ⟨order,encoded⟩)
    · have named := (topicsAgree of.topics ((currentEncoded order log).mp encoded).topics).1
      exact absurd named namesApart
    · rw [(topicsAgree of.topics ((legacyEncoded order log).mp encoded).topics).2]
      exact encodedClean _ _ _

theorem currentEvent (order : CurrentOrderFilled) (log : EthLog) : order.reading.event log = order.event log := by
  unfold CurrentReading.event CurrentOrderFilled.event CurrentOrderFilled.reading encodedTopics ReadTopics.event
  simp only [(addressPadded _).2]
theorem legacyEvent (order : LegacyOrderFilled) (log : EthLog) : order.reading.event log = order.event log := by
  unfold LegacyReading.event LegacyOrderFilled.event LegacyOrderFilled.reading encodedTopics ReadTopics.event
  simp only [(addressPadded _).2]

theorem orderFilledExact (log : EthLog) : DecodesExactly log ↔
    (∀ reading : CurrentReading, reading.Of log → reading.Clean) ∧
    ∀ reading : LegacyReading, reading.Of log → reading.topics.Clean := by
  constructor
  · intro exactly
    refine ⟨fun reading of => (currentClean of).mpr (exactly.rejects ?_),fun reading of =>
      (legacyClean of).mpr (exactly.rejects ?_)⟩
    · rw [currentDecoded of]
    · rw [legacyDecoded of]
  · rintro ⟨current,legacy⟩
    refine ⟨fun order encoded => ?_,fun order encoded => ?_,fun ok => ?_⟩
    · rw [currentDecoded ((currentEncoded order log).mp encoded),currentEvent]
    · rw [legacyDecoded ((legacyEncoded order log).mp encoded),legacyEvent]
    · rcases acceptedRead ok with ⟨reading,of⟩ | ⟨reading,of⟩
      · exact (currentClean of).mp (current reading of)
      · exact (legacyClean of).mp (legacy reading of)

-- The maker topic is 1 in all digits, the words are all zero.
def dirtyMaker : EthLog :=
  {topics := [kOrderFilledTopic0,List.replicate 64 '0',List.replicate 64 '1',List.replicate 64 '0'],
    data := List.replicate 448 '0'}
def dirtyReading : CurrentReading :=
  ⟨⟨List.replicate 64 '0',List.replicate 64 '1',List.replicate 64 '0'⟩,0,0,⟨0,0,0⟩,List.replicate 64
    '0',List.replicate 64 '0'⟩
theorem dirtyMakerDecoded : ¬ ∀ log : EthLog, DecodesExactly log := by
  intro claimed
  have of : dirtyReading.Of dirtyMaker :=
    ⟨⟨by decide +kernel,by decide +kernel,by decide +kernel,by decide +kernel⟩,by decide +kernel,rfl,rfl⟩
  have clean := (currentClean of).mpr ((claimed dirtyMaker).rejects (by rw [currentDecoded of]))
  exact absurd clean.1.1 (by unfold Padded; decide)

end Polytope.OrderFilledEncoding
