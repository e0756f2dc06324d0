import Polytope.ByteReader
import Polytope.Delimiting
import Polytope.EntityStore

/-! What StateHasher feeds to its mixing function. The stream of an entity, with the stream of its book where
the code mixes in the hash of the book, tells every listed field but the id of the entity, which the code
leaves out; the stream of an entity map tells its keys and the same of its entities. -/
namespace Polytope.HashStream
open Binary64 Delimiting
open OrderedMap (KeyedMap)
open EntityBooks EntityStore
open ByteReader (Bytes bytesOf)

def feed (hash : UInt64) (stream : Bytes) : UInt64 := stream.foldl (fun h byte => Fnv.mixByte h byte.toUInt64) hash

/-! The pieces of a stream. -/

-- Minus zero is written as zero.
def canonical (x : Double) : Double := if value x = 0 then ⟨0⟩ else x
def canonicalLevel (level : Double × Double) : Double × Double := (canonical level.1,canonical level.2)
def wordBytes (word : UInt64) : Bytes := bytesOf 8 word.toNat
def boolBytes (flag : Bool) : Bytes := [if flag then 1 else 0]
def stringBytes (text : String) : Bytes := bytesOf 8 text.utf8ByteSize ++ text.toUTF8.data.toList
def doubleBytes (x : Double) : Bytes := wordBytes (canonical x).bits
def optionalBytes (x : Option Double) : Bytes := x.elim [0] fun x => 1::doubleBytes x
def levelBytes (level : Double × Double) : Bytes := doubleBytes level.1 ++ doubleBytes level.2
def levelsBytes (levels : List (Double × Double)) : Bytes := bytesOf 8 levels.length ++ levels.flatMap levelBytes

def optionalsOf (book : OrderBookState) : List (Option Double) :=
  [book.bestBid,book.bestAsk,book.externalBestBid,book.externalBestAsk,book.tickSize]
def bookFlags (book : OrderBookState) : List Bool := [book.crossed,book.externalBboDiverged,book.resolved]
def bookStream (book : OrderBookState) : Bytes :=
  (optionalsOf book).flatMap optionalBytes ++ (bookFlags book).flatMap boolBytes ++
  stringBytes book.winningAssetId ++
    levelsBytes book.bids.entries ++ levelsBytes book.asks.entries
def entityFlags (entity : EntityState) : List Bool :=
  [entity.initialized,entity.recovering,entity.inconsistent,entity.closed]
def countersOf (entity : EntityState) : List UInt64 :=
  [entity.snapshotCount,entity.deltaCount,entity.statusChangeCount,entity.lifecycleCount,entity.ignoredCount,
    entity.errorCount]
-- The code mixes in the hash of the book; a reading of every field puts the stream of the book in its place.
def entityStream (bookPart : OrderBookState → Bytes) (entity : EntityState) : Bytes :=
  wordBytes (statusCode entity.status) ++ (entityFlags entity).flatMap boolBytes ++
    (countersOf entity).flatMap wordBytes ++
    bookPart entity.book
def namedStream (entityPart : EntityState → Bytes) (e : String × EntityState) : Bytes :=
  stringBytes e.1 ++ entityPart e.2
def mapStream (entityPart : EntityState → Bytes) (entities : Entities) : Bytes :=
  bytesOf 8 entities.entries.length ++ entities.entries.flatMap (namedStream entityPart)

/-! The hashes are these streams, mixed. -/

theorem feedAppend (h : UInt64) (s t : Bytes) : feed h (s ++ t) = feed (feed h s) t := List.foldl_append
theorem feedEach {α : Type} (encode : α → Bytes) (h : UInt64) (xs : List α) :
    feed h (xs.flatMap encode) = xs.foldl (fun h x => feed h (encode x)) h := by
  induction xs generalizing h with
  | nil => rfl
  | cons x xs ih => rw [List.flatMap_cons,feedAppend,ih,List.foldl_cons]
theorem byteMixed (value : Nat) {i : Nat} (inside : i < 8) :
    (UInt8.ofNat (value >>> (8 * i))).toUInt64 = (UInt64.ofNat value >>> UInt64.ofNat (8 * i)) &&& 0xff := by
  refine UInt64.toNat_inj.mp ?_
  have mask : (0xff : UInt64).toNat = 2 ^ 8 - 1 := rfl
  have shift : (UInt64.ofNat (8 * i)).toNat % 64 = 8 * i := by
    rw [UInt64.toNat_ofNat']
    omega
  have whole : 2 ^ 64 = 2 ^ (8 * i) * 2 ^ (64 - 8 * i) := by
    rw [← Nat.pow_add]
    congr 1
    omega
  have byte : 2 ^ 8 ∣ 2 ^ (64 - 8 * i) := Nat.pow_dvd_pow 2 (by omega)
  rw [UInt64.toNat_and,mask,Nat.and_two_pow_sub_one_eq_mod,UInt64.toNat_shiftRight,shift,UInt64.toNat_ofNat',
    Nat.shiftRight_eq_div_pow,Nat.shiftRight_eq_div_pow,whole,Nat.mod_mul_right_div_self,Nat.mod_mod_of_dvd _ byte]
  simp
theorem feedNat (h : UInt64) (value : Nat) : feed h (bytesOf 8 value) = Fnv.mixNat h value := by
  have shifts : ([0,8,16,24,32,40,48,56] : List UInt64) = (List.range 8).map fun i => UInt64.ofNat (8 * i) := rfl
  rw [feed,bytesOf,Fnv.mixNat,Fnv.mixU64,shifts,List.foldl_map,List.foldl_map]
  exact List.foldl_ext _ _ _ fun h i mem => congrArg (Fnv.mixByte h) (byteMixed value (List.mem_range.mp mem))
theorem feedWord (h word : UInt64) : feed h (wordBytes word) = Fnv.mixU64 h word := by
  rw [wordBytes,feedNat,Fnv.mixNat,UInt64.ofNat_toNat]
theorem feedBool (h : UInt64) (flag : Bool) : feed h (boolBytes flag) = Fnv.mixBool h flag := by
  cases flag with
  | false => rfl
  | true => rfl
theorem feedString (h : UInt64) (text : String) : feed h (stringBytes text) = hashString h text := by
  rw [stringBytes,feedAppend,feedNat]
  rfl
theorem feedDouble (h : UInt64) (x : Double) : feed h (doubleBytes x) = hashDouble h x := by
  have bits : (canonical x).bits = if value x = 0 then 0 else x.bits := by
    unfold canonical
    split <;> rfl
  rw [doubleBytes,feedWord,bits]
  rfl
theorem feedOptional (h : UInt64) (x : Option Double) : feed h (optionalBytes x) = hashOptionalDouble h x := by
  cases x with
  | none => exact feedBool h false
  | some x =>
    have tagged : optionalBytes (some x) = boolBytes true ++ doubleBytes x := rfl
    rw [tagged,feedAppend,feedBool,feedDouble]
    rfl
theorem feedLevels (h : UInt64) (levels : List (Double × Double)) :
    feed h (levelsBytes levels) = hashPriceLevels h levels := by
  rw [levelsBytes,feedAppend,feedNat,feedEach,hashPriceLevels]
  refine List.foldl_ext _ _ _ fun h level _ => ?_
  rw [levelBytes,feedAppend,feedDouble,feedDouble]
theorem bookFed (book : OrderBookState) : hashOrderBook book = feed Fnv.offset (bookStream book) := by
  unfold bookStream
  rw [feedAppend,feedAppend,feedAppend,feedAppend,feedEach,feedEach,feedString,feedLevels,feedLevels]
  simp only [feedOptional,feedBool]
  rfl
theorem entityFed (entity : EntityState) :
    hashEntity entity = feed Fnv.offset (entityStream (fun book => wordBytes (hashOrderBook book)) entity) := by
  unfold entityStream
  rw [feedAppend,feedAppend,feedAppend,feedEach,feedEach]
  simp only [feedWord,feedBool]
  rfl
theorem mapFed (entities : Entities) :
    hashEntityMap entities = feed Fnv.offset
      (mapStream (fun entity => wordBytes (hashEntity entity)) entities) := by
  rw [mapStream,feedAppend,feedNat,feedEach,hashEntityMap]
  refine List.foldl_ext _ _ _ fun h e _ => ?_
  rw [namedStream,feedAppend,feedString,feedWord]

/-! The streams tell their pieces. Lengths are of type size_t, so they fit into the eight bytes of a prefix. -/

structure BookContents where
  bids : List (Double × Double)
  asks : List (Double × Double)
  bestBid : Option Double
  bestAsk : Option Double
  externalBestBid : Option Double
  externalBestAsk : Option Double
  tickSize : Option Double
  crossed : Bool
  externalBboDiverged : Bool
  resolved : Bool
  winningAssetId : String
  deriving DecidableEq
structure EntityContents where
  entityId : String
  status : EntityStatus
  initialized : Bool
  recovering : Bool
  inconsistent : Bool
  closed : Bool
  snapshotCount : UInt64
  deltaCount : UInt64
  statusChangeCount : UInt64
  lifecycleCount : UInt64
  ignoredCount : UInt64
  errorCount : UInt64
  book : BookContents
  deriving DecidableEq
def bookContents (book : OrderBookState) : BookContents where
  bids := book.bids.entries.map canonicalLevel
  asks := book.asks.entries.map canonicalLevel
  bestBid := book.bestBid.map canonical
  bestAsk := book.bestAsk.map canonical
  externalBestBid := book.externalBestBid.map canonical
  externalBestAsk := book.externalBestAsk.map canonical
  tickSize := book.tickSize.map canonical
  crossed := book.crossed
  externalBboDiverged := book.externalBboDiverged
  resolved := book.resolved
  winningAssetId := book.winningAssetId
def entityContents (entity : EntityState) : EntityContents where
  entityId := entity.entityId
  status := entity.status
  initialized := entity.initialized
  recovering := entity.recovering
  inconsistent := entity.inconsistent
  closed := entity.closed
  snapshotCount := entity.snapshotCount
  deltaCount := entity.deltaCount
  statusChangeCount := entity.statusChangeCount
  lifecycleCount := entity.lifecycleCount
  ignoredCount := entity.ignoredCount
  errorCount := entity.errorCount
  book := bookContents entity.book
def besidesId (entity : EntityState) : EntityContents := {entityContents entity with entityId := ""}
def namedContents {γ : Type} (contents : EntityState → γ) (entities : Entities) : List (String × γ) :=
  entities.entries.map fun e => (e.1,contents e.2)

def Counted (size : Nat) : Prop := size < 2 ^ 64
structure BookSized (book : OrderBookState) : Prop where
  text : Counted book.winningAssetId.utf8ByteSize
  bids : Counted book.bids.entries.length
  asks : Counted book.asks.entries.length
structure MapSized (entities : Entities) : Prop where
  count : Counted entities.entries.length
  each : ∀ e ∈ entities.entries, Counted e.1.utf8ByteSize ∧ BookSized e.2.book

theorem countDelimits : Delimits Counted (bytesOf 8) id := by
  refine delimitsFixed (ByteReader.bytesOfLength 8) fun a b fitsA fitsB => ⟨fun same => ?_,congrArg _⟩
  have values := congrArg ByteReader.valueOf same
  rwa [ByteReader.valueOfBytesOf fitsA,ByteReader.valueOfBytesOf fitsB] at values
theorem wordDelimits : Delimits (fun _ => True) wordBytes id :=
  delimitsAs (delimitsOn (delimitsOf countDelimits UInt64.toNat) fun word _ => word.toNat_lt) fun _ _ _ _ =>
    UInt64.toNat_inj
theorem boolDelimits : Delimits (fun _ => True) boolBytes id :=
  delimitsFixed (fun _ => rfl) fun a b _ _ => by revert a b; decide
theorem stringDelimits : Delimits (fun text => Counted text.utf8ByteSize) stringBytes id := by
  have bytes : Delimits (fun _ => True) (fun byte : UInt8 => [byte]) id :=
    delimitsFixed (fun _ => rfl) fun a b _ _ => List.singleton_inj
  have size : ∀ text : String, text.toUTF8.data.toList.length = text.utf8ByteSize :=
    fun text => text.size_toByteArray
  have counted := delimitsOf (delimitsCounted countDelimits bytes) fun text : String => text.toUTF8.data.toList
  have spelled : (fun text :
    String => bytesOf 8 text.toUTF8.data.toList.length ++ text.toUTF8.data.toList.flatMap fun byte => [byte]) =
      stringBytes := by
    funext text
    rw [size,List.flatMap_singleton']
    rfl
  rw [spelled] at counted
  refine delimitsAs (delimitsOn counted fun text fits => ⟨?_,fun _ _ => trivial⟩) fun a b _ _ => ?_
  · rwa [size]
  · rw [List.map_id,List.map_id,Array.toList_inj,← ByteArray.ext_iff]
    exact String.toByteArray_inj
theorem doubleDelimits : Delimits (fun _ => True) doubleBytes canonical :=
  delimitsAs (delimitsOf wordDelimits fun x => (canonical x).bits) fun _ _ _ _ =>
    ⟨congrArg Double.mk,congrArg Double.bits⟩
theorem optionalDelimits : Delimits (fun _ => True) optionalBytes (Option.map canonical) :=
  delimitsOn (delimitsOption (by decide) doubleDelimits) fun _ _ _ _ => trivial
theorem levelsDelimits : Delimits (fun levels => Counted levels.length) levelsBytes (List.map canonicalLevel) := by
  have level : Delimits (fun _ => True) levelBytes canonicalLevel :=
    delimitsAppend (delimitsOf doubleDelimits Prod.fst) (delimitsOf doubleDelimits Prod.snd)
  exact delimitsOn (delimitsCounted countDelimits level) fun _ fits => ⟨fits,fun _ _ => trivial⟩

theorem bookDelimits : Delimits BookSized bookStream bookContents := by
  have five : ∀ book, (optionalsOf book).length = 5 := fun _ => rfl
  have three : ∀ book, (bookFlags book).length = 3 := fun _ => rfl
  have optionals := delimitsOn (delimitsEach optionalDelimits optionalsOf five) fun book
    (_ : BookSized book) _ _ => trivial
  have flags := delimitsOn (delimitsEach boolDelimits bookFlags three) fun book (_ : BookSized book) _ _ => trivial
  have text := delimitsOn (delimitsOf stringDelimits OrderBookState.winningAssetId) fun _
    (sized : BookSized _) => sized.text
  have bids := delimitsOn (delimitsOf levelsDelimits fun book : OrderBookState => book.bids.entries) fun _
    (sized : BookSized _) => sized.bids
  have asks := delimitsOn (delimitsOf levelsDelimits fun book : OrderBookState => book.asks.entries) fun _
    (sized : BookSized _) => sized.asks
  refine delimitsAs (delimitsAppend
    (delimitsAppend (delimitsAppend (delimitsAppend optionals flags) text) bids) asks) fun a b _ _ => ?_
  simp only [optionalsOf,bookFlags,bookContents,List.map_cons,List.map_nil,List.cons.injEq,Prod.mk.injEq,
    BookContents.mk.injEq,id,and_true]
  tauto
theorem statusDelimits : Delimits (fun _ => True) (fun status => wordBytes (statusCode status)) id :=
  delimitsAs (delimitsOf wordDelimits statusCode) fun a b _ _ => by cases a <;> cases b <;> decide
theorem entityDelimits : Delimits (fun entity => BookSized entity.book) (entityStream bookStream) besidesId := by
  have four : ∀ entity, (entityFlags entity).length = 4 := fun _ => rfl
  have six : ∀ entity, (countersOf entity).length = 6 := fun _ => rfl
  have status := delimitsOn (delimitsOf statusDelimits EntityState.status) fun entity
    (_ : BookSized entity.book) => trivial
  have flags := delimitsOn (delimitsEach boolDelimits entityFlags four) fun entity
    (_ : BookSized entity.book) _ _ => trivial
  have counters := delimitsOn (delimitsEach wordDelimits countersOf six) fun entity
    (_ : BookSized entity.book) _ _ => trivial
  refine delimitsAs (delimitsAppend (delimitsAppend (delimitsAppend status flags) counters)
    (delimitsOf bookDelimits EntityState.book))
    fun a b _ _ => ?_
  simp only [entityFlags,countersOf,besidesId,entityContents,List.map_cons,List.map_nil,
    List.cons.injEq,Prod.mk.injEq,
    EntityContents.mk.injEq,id,and_true,true_and]
  tauto
theorem mapDelimits {entities others : Entities} (sized : MapSized entities) (otherSized : MapSized others) :
    mapStream (entityStream bookStream) entities = mapStream (entityStream bookStream) others ↔
      namedContents besidesId entities = namedContents besidesId others := by
  have named : Delimits (fun e : String × EntityState => Counted e.1.utf8ByteSize ∧ BookSized e.2.book)
      (namedStream (entityStream bookStream)) fun e => (e.1,besidesId e.2) :=
    delimitsAppend (delimitsOn (delimitsOf stringDelimits Prod.fst) fun _ fits => fits.1)
      (delimitsOn (delimitsOf entityDelimits Prod.snd) fun _ fits => fits.2)
  exact delimitsWhole (delimitsCounted countDelimits named) ⟨sized.count,sized.each⟩
    ⟨otherSized.count,otherSized.each⟩

def EntitiesTold (a b : EntityState) : Prop :=
  entityContents a ≠ entityContents b → entityStream bookStream a ≠ entityStream bookStream b
def MapsTold (a b : Entities) : Prop :=
  namedContents entityContents a ≠ namedContents entityContents b →
    mapStream (entityStream bookStream) a ≠ mapStream (entityStream bookStream) b

def idsOf (entities : Entities) : List String := entities.entries.map fun e => e.2.entityId

theorem contentsSplit (a b : EntityState) : entityContents a = entityContents b ↔
    besidesId a = besidesId b ∧ a.entityId = b.entityId := by
  simp only [besidesId,entityContents,EntityContents.mk.injEq,true_and]
  tauto
theorem entriesSplit (xs ys : List (String × EntityState)) :
    (xs.map fun e => (e.1,entityContents e.2)) = (ys.map fun e => (e.1,entityContents e.2)) ↔
      (xs.map fun e => (e.1,besidesId e.2)) = (ys.map fun e => (e.1,besidesId e.2)) ∧
        (xs.map fun e => e.2.entityId) = ys.map fun e => e.2.entityId := by
  induction xs generalizing ys with
  | nil =>
    cases ys with
    | nil => simp
    | cons y ys => simp
  | cons x xs ih =>
    cases ys with
    | nil => simp
    | cons y ys =>
      simp only [List.map_cons,List.cons.injEq,Prod.mk.injEq,contentsSplit,ih]
      tauto
theorem namedSplit (m n : Entities) :
    namedContents entityContents m = namedContents entityContents n ↔
      namedContents besidesId m = namedContents besidesId n ∧ idsOf m = idsOf n :=
  entriesSplit m.entries n.entries

-- The id of the entity is not mixed in: only entities that differ in nothing else are confused.
theorem hashStreamExact {a b : EntityState} {m n : Entities} (sizedA : BookSized a.book)
    (sizedB : BookSized b.book)
    (sizedM : MapSized m) (sizedN : MapSized n) :
    (hashOrderBook a.book = feed Fnv.offset (bookStream a.book) ∧
      hashEntity a = feed Fnv.offset (entityStream (fun book => wordBytes (hashOrderBook book)) a) ∧
      hashEntityMap m = feed Fnv.offset (mapStream (fun entity => wordBytes (hashEntity entity)) m)) ∧
    (EntitiesTold a b ↔ (besidesId a = besidesId b → a.entityId = b.entityId)) ∧
      (MapsTold m n ↔ (namedContents besidesId m = namedContents besidesId n → idsOf m = idsOf n)) := by
  refine ⟨⟨bookFed a.book,entityFed a,mapFed m⟩,?_,?_⟩
  · unfold EntitiesTold
    rw [ne_eq,ne_eq,not_imp_not,delimitsWhole entityDelimits sizedA sizedB,contentsSplit]
    exact ⟨fun told same => (told same).2,fun ids same => ⟨same,ids same⟩⟩
  · unfold MapsTold
    rw [ne_eq,ne_eq,not_imp_not,mapDelimits sizedM sizedN,namedSplit]
    exact ⟨fun told same => (told same).2,fun ids same => ⟨same,ids same⟩⟩

def fresh (entityId : String) : EntityState := {entityId}
def freshMap (entityId : String) : Entities := OrderedMap.empty.assign entityId (fresh entityId)
theorem blankSized : BookSized {} := ⟨Nat.two_pow_pos 64,Nat.two_pow_pos 64,Nat.two_pow_pos 64⟩
theorem freshSized (entityId : String) (text : Counted entityId.utf8ByteSize) : MapSized (freshMap entityId) := by
  refine ⟨Nat.one_lt_two_pow (by decide),fun e mem => ?_⟩
  obtain rfl := List.mem_singleton.mp mem
  exact ⟨text,blankSized⟩
theorem freshStreams :
    (hashOrderBook (fresh "A").book = feed Fnv.offset (bookStream (fresh "A").book) ∧
      hashEntity (fresh "A") = feed Fnv.offset
        (entityStream (fun book => wordBytes (hashOrderBook book)) (fresh "A")) ∧
      hashEntityMap (freshMap "A") = feed Fnv.offset
        (mapStream (fun entity => wordBytes (hashEntity entity)) (freshMap "A"))) ∧
    (EntitiesTold (fresh "A") (fresh "B") ↔ (besidesId (fresh "A") = besidesId (fresh "B") → "A" = "B")) ∧
      (MapsTold (freshMap "A") (freshMap "B") ↔
        (namedContents besidesId (freshMap "A") = namedContents besidesId (freshMap "B") →
          idsOf (freshMap "A") = idsOf (freshMap "B"))) := by
  have text : ∀ entityId : String, entityId.utf8ByteSize = 1 → Counted entityId.utf8ByteSize :=
    fun _ one => one ▸ Nat.one_lt_two_pow (by decide)
  exact hashStreamExact blankSized blankSized (freshSized "A" (text "A" rfl)) (freshSized "B" (text "B" rfl))
theorem idsConfused : ¬ ∀ a b : EntityState, BookSized a.book → BookSized b.book → EntitiesTold a b := by
  intro claimed
  have apart : entityContents (fresh "A") ≠ entityContents (fresh "B") := by decide
  exact claimed (fresh "A") (fresh "B") blankSized blankSized apart rfl

end Polytope.HashStream
