import Polytope.EntityBooks
import Polytope.NumberText
import Mathlib.Data.List.Forall2

/-! EventNormalizer: a decoded venue message becomes one normalized event, and each message of an array wrapper one
of its own. A price_change event is about the asset its price_changes name first; the changes of that array that
name another are passed over. -/
namespace Polytope.EventNormalizing
open Binary64
open EntityBooks (NormalizedEventType NormalizedSide BookLevel PriceLevelChange)
open NumberText

/-! The values of the JSON library. An object's keys are distinct. -/

inductive Json where
  | null
  | bool (value : Bool)
  | int64 (value : Int64)
  | uint64 (value : UInt64)
  | double (value : Double)
  | string (value : String)
  | array (elements : List Json)
  | object (members : List (String × Json))

def isObject : Json → Bool
  | .object _ => true
  | _ => false
-- has_key and at_key in one.
def atKey (object : Json) (key : String) : Option Json :=
  match object with
  | .object members => members.lookup key
  | _ => none
def arrayAt (object : Json) (key : String) : Option (List Json) :=
  match atKey object key with
  | some (.array elements) => some elements
  | _ => none
def getStringField (object : Json) (key : String) : Option String :=
  match atKey object key with
  | some (.string value) => some value
  | some (.int64 value) => some (toString value.toInt)
  | some (.uint64 value) => some (toString value.toNat)
  | some (.double value) => some (doubleText value)
  | some (.bool value) => some (if value = true then "true" else "false")
  | _ => none
def getU64FieldOrZero (object : Json) (key : String) : UInt64 :=
  match atKey object key with
  | some (.uint64 value) => value
  | some (.int64 value) => if value < 0 then 0 else value.toUInt64
  | some (.string value) => (stoull value).getD 0
  | _ => 0
def valueToDouble : Json → Option Double
  | .double value => some value
  | .int64 value => some (ofInt value.toInt)
  | .uint64 value => some (ofInt value.toNat)
  | .string value => stod value
  | _ => none
def getDoubleField (object : Json) (key : String) : Option Double := (atKey object key).bind valueToDouble

/-! Fields of a message. -/

inductive SourceId where | unknown | polymarketMarket | polymarketUser | polymarketSports | polymarketRtds
  deriving DecidableEq, Repr
structure DecodeInputView where
  packetId : UInt64 := 0
  recvWallNs : UInt64 := 0
  recvMonotonicNs : UInt64 := 0
  sourceId : SourceId := .unknown
structure NormalizedEvent extends EntityBooks.NormalizedEvent where
  recvWallNs : UInt64 := 0
  sourceId : SourceId := .unknown
  eventTs : UInt64 := 0
  warnings : List String := []
  deriving DecidableEq, Repr
structure NormalizationResult where
  events : List NormalizedEvent := []
  warnings : List String := []
  error : String := ""
  deriving DecidableEq, Repr

def extractRawType (object : Json) : String :=
  match getStringField object "type" with
  | some type => type
  | none => (getStringField object "event_type").getD ""
def named (object : Json) (key : String) : Option String := (getStringField object key).filter (· ≠ "")
def extractEntityId (object : Json) : String :=
  (["asset_id","token_id","condition_id","market_id","market","event_id"].findSome? (named object)).getD ""
def parseSide (side : String) : NormalizedSide :=
  if side ∈ ["BUY","buy","BID","bid","Bid"] then .bid
  else if side ∈ ["SELL","sell","ASK","ask","Ask"] then .ask
  else .unknown
def parseBookLevel (level : Json) : Option BookLevel :=
  match level with
  | .array (price::size::_) => do
      let price ← valueToDouble price
      let size ← valueToDouble size
      some {price, size}
  | .object _ => do
      let price ← getDoubleField level "price"
      let size ← getDoubleField level "size"
      some {price, size}
  | _ => none
def parseBookLevels (object : Json) (key : String) : List BookLevel :=
  ((arrayAt object key).getD []).filterMap parseBookLevel
def parsePriceLevelChange (object : Json) : Option PriceLevelChange := do
  let side ← getStringField object "side"
  let price ← getDoubleField object "price"
  let size ← getDoubleField object "size"
  some {side := parseSide side, price, size}
def namedAsset (change : Json) : Option String := ["asset_id","token_id"].findSome? (named change)
def firstPriceChangeAssetId (object : Json) : Option String :=
  (arrayAt object "price_changes").bind fun listed => listed.findSome? namedAsset
def priceChangeBelongsToEntity (change : Json) (entityId : String) : Bool :=
  if entityId = "" ∨ isObject change = false then true
  else if extractEntityId change = "" then true
  else extractEntityId change = entityId
def isPongText (payload : String) : Bool := payload ∈ ["PONG","pong","\"PONG\"","\"pong\""]

def orElse (taken : String) (object : Json) (key : String) : String :=
  if taken = "" then (getStringField object key).getD taken else taken
def fillCommonIds (event : NormalizedEvent) (object : Json) : NormalizedEvent :=
  let eventTs := getU64FieldOrZero object "timestamp"
  {event with
    assetId := orElse ((getStringField object "asset_id").getD event.assetId) object "token_id"
    marketId := orElse ((getStringField object "market_id").getD event.marketId) object "market"
    conditionId := (getStringField object "condition_id").getD event.conditionId
    entityId := extractEntityId object
    eventTs := if eventTs = 0 then getU64FieldOrZero object "ts" else eventTs}
def warn (event : NormalizedEvent) (condition : Bool) (text : String) : NormalizedEvent :=
  if condition = true then {event with warnings := event.warnings ++ [text]} else event

/-! The kinds of event. -/

def makeBaseEvent (input : DecodeInputView) : NormalizedEvent :=
  {packetId := input.packetId, recvWallNs := input.recvWallNs, recvMonotonicNs := input.recvMonotonicNs,
    sourceId := input.sourceId}
def baseOf (input : DecodeInputView) (object : Json) (eventType : NormalizedEventType) (rawType : String) :
    NormalizedEvent :=
  fillCommonIds {makeBaseEvent input with eventType, rawType} object

def normalizeBook (input : DecodeInputView) (object : Json) (rawType : String) : NormalizedEvent :=
  let event := baseOf input object .snapshot rawType
  let event := {event with
    bids := parseBookLevels object "bids"
    asks := parseBookLevels object "asks"
    tickSize := getDoubleField object "tick_size"}
  let event := warn event (event.entityId = "") "book event missing entity id"
  warn event (event.bids = [] && event.asks = []) "book event has no bids and no asks"
def changesOf (object : Json) (entityId : String) : List PriceLevelChange :=
  match arrayAt object "changes",arrayAt object "price_changes" with
  | some listed,_ => listed.filterMap parsePriceLevelChange
  | none,some listed => (listed.filter (priceChangeBelongsToEntity · entityId)).filterMap parsePriceLevelChange
  | none,none => (parsePriceLevelChange object).toList
def normalizePriceChange (input : DecodeInputView) (object : Json) (rawType : String) : NormalizedEvent :=
  let event := baseOf input object .delta rawType
  let event :=
    match firstPriceChangeAssetId object with
    | some assetId => {event with assetId, entityId := assetId}
    | none => event
  let event := {event with changes := changesOf object event.entityId}
  let event := warn event (event.entityId = "") "price_change event missing entity id"
  warn event (event.changes = []) "price_change event has no valid changes"
def normalizeBestBidAsk (input : DecodeInputView) (object : Json) (rawType : String) : NormalizedEvent :=
  let event := baseOf input object .statusChange rawType
  let event := {event with
    bestBid := (getDoubleField object "best_bid").or (getDoubleField object "bid")
    bestAsk := (getDoubleField object "best_ask").or (getDoubleField object "ask")}
  let event := warn event (event.entityId = "") "best_bid_ask event missing entity id"
  warn event (event.bestBid = none && event.bestAsk = none) "best_bid_ask event missing best_bid/best_ask"
def normalizeTickSizeChange (input : DecodeInputView) (object : Json) (rawType : String) : NormalizedEvent :=
  let event := baseOf input object .statusChange rawType
  let event :=
    {event with tickSize := (getDoubleField object "tick_size").or (getDoubleField object "new_tick_size")}
  warn event (event.entityId = "") "tick_size_change event missing entity id"
def normalizeLifecycle (input : DecodeInputView) (object : Json) (rawType : String) : NormalizedEvent :=
  let event := baseOf input object .lifecycleEvent rawType
  let event := {event with winningAssetId := (getStringField object "winning_asset_id").getD ""}
  warn event (event.entityId = "") "lifecycle event missing entity id"
def normalizeTrade (input : DecodeInputView) (object : Json) (rawType : String) : NormalizedEvent :=
  let event := baseOf input object .tradeEvent rawType
  let event := {event with bestBid := getDoubleField object "price"}
  warn event (event.entityId = "") "trade event missing entity id"
def normalizeUnknown (input : DecodeInputView) (object : Json) (rawType : String) : NormalizedEvent :=
  let event := baseOf input object .unknown rawType
  if rawType = "" then warn event true "unknown event missing type/event_type"
  else warn event true ("unrecognized event type: " ++ rawType)
def normalizeOneObject (input : DecodeInputView) (object : Json) : NormalizedEvent :=
  let rawType := extractRawType object
  if rawType = "book" then normalizeBook input object rawType
  else if rawType = "price_change" then normalizePriceChange input object rawType
  else if rawType = "best_bid_ask" then normalizeBestBidAsk input object rawType
  else if rawType = "tick_size_change" then normalizeTickSizeChange input object rawType
  else if rawType = "new_market" ∨ rawType = "market_resolved" then normalizeLifecycle input object rawType
  else if rawType = "last_trade_price" then normalizeTrade input object rawType
  else normalizeUnknown input object rawType

def normalizeElement (input : DecodeInputView) (result : NormalizationResult) (element : Json) :
    NormalizationResult :=
  if isObject element = false then
    {result with warnings := result.warnings ++ ["array wrapper contains non-object element"]}
  else {result with events := result.events ++ [normalizeOneObject input element]}
def normalizeJson (input : DecodeInputView) (json : Json) : NormalizationResult :=
  match json with
  | .object _ => {events := [normalizeOneObject input json]}
  | .array elements => elements.foldl (normalizeElement input) {}
  | _ => {error := "decoded JSON is neither object nor array"}
def normalizeControl (input : DecodeInputView) (payload : String) : NormalizationResult :=
  let event := {makeBaseEvent input with rawType := payload}
  if isPongText payload = true then {events := [{event with eventType := .heartbeat}]}
  else
    let text := "unknown non-json control payload"
    {events := [warn event true text], warnings := [text]}

/-! The values of a change. -/

-- A number given as decimal text is the double nearest to the number written.
def Nearest (raw : Json) (key : String) (x : Double) : Prop :=
  ∀ text minus size, atKey raw key = some (.string text) → strtod text.toList = .number minus size →
    value x = if minus = true then -roundNearest size else roundNearest size
structure Written (raw : Json) (change : PriceLevelChange) : Prop where
  price : getDoubleField raw "price" = some change.price ∧ Nearest raw "price" change.price
  size : getDoubleField raw "size" = some change.size ∧ Nearest raw "size" change.size
  side : ∃ side, getStringField raw "side" = some side ∧ change.side = parseSide side

theorem fieldNearest {raw : Json} {key : String} {x : Double} (read : getDoubleField raw key = some x) :
    Nearest raw key x := by
  intro text minus size field numeral
  rw [getDoubleField,field] at read
  exact stodNearest numeral read
theorem changeWritten {raw : Json} {change : PriceLevelChange}
    (reads : parsePriceLevelChange raw = some change) : Written raw change := by
  simp only [parsePriceLevelChange,bind,Option.bind_eq_some_iff] at reads
  obtain ⟨side,readSide,price,readPrice,size,readSize,same⟩ := reads
  cases same
  exact ⟨⟨readPrice,fieldNearest readPrice⟩,⟨readSize,fieldNearest readSize⟩,side,readSide,rfl⟩

/-! The changes an event carries. -/

-- The messages of a decoded value are itself, or the objects of an array wrapper.
def messages : Json → List Json
  | .object members => [.object members]
  | .array elements => elements.filter isObject
  | _ => []
def FirstNamed (listed : List Json) (assetId : String) : Prop :=
  ∃ before change after, listed = before ++ change::after ∧ namedAsset change = some assetId ∧
    ∀ earlier ∈ before, namedAsset earlier = none
-- A change that names no entity goes with the event's; an event without an entity takes every change.
def Concerns (entityId : String) (change : Json) : Prop :=
  entityId = "" ∨ extractEntityId change = "" ∨ extractEntityId change = entityId
-- Each well-formed change to be taken stands once in the event, in the order of the list and with its own
-- values; no other does.
inductive Carried (taken : Json → Prop) : List Json → List PriceLevelChange → Prop where
  | nil : Carried taken [] []
  | kept {raw listed change changes} (own : taken raw) (reads : parsePriceLevelChange raw = some change)
    (written : Written raw change)
      (rest : Carried taken listed changes) : Carried taken (raw::listed) (change::changes)
  | passed {raw listed changes} (out : parsePriceLevelChange raw = none ∨ ¬ taken raw)
      (rest : Carried taken listed changes) : Carried taken (raw::listed) changes
structure PriceChanged (message : Json) (event : NormalizedEvent) : Prop where
  delta : event.eventType = .delta
  nested : ∀ listed, arrayAt message "price_changes" = some listed → ∀ assetId, FirstNamed listed assetId →
    event.entityId = assetId ∧ event.assetId = assetId
  own : (∀ listed, arrayAt message "price_changes" = some listed → ∀ change ∈ listed, namedAsset change = none) →
    event.entityId = extractEntityId message
  priceChanges : ∀ listed, arrayAt message "changes" = none → arrayAt message "price_changes" = some listed →
    Carried (Concerns event.entityId) listed event.changes
  changes : ∀ listed, arrayAt message "changes" = some listed → arrayAt message "price_changes" = none →
    (∀ change ∈ listed, Concerns event.entityId change) → Carried (Concerns event.entityId) listed event.changes
  single : arrayAt message "changes" = none → arrayAt message "price_changes" = none →
    event.changes = (parsePriceLevelChange message).toList
def Routed (message : Json) (event : NormalizedEvent) : Prop :=
  if extractRawType message = "price_change" then PriceChanged message event else event.changes = []

section
variable (event : NormalizedEvent) (condition : Bool) (text : String)

@[simp] theorem warnEventType : (warn event condition text).eventType = event.eventType := by
  unfold warn; split <;> rfl
@[simp] theorem warnEntityId : (warn event condition text).entityId = event.entityId := by
  unfold warn; split <;> rfl
@[simp] theorem warnAssetId : (warn event condition text).assetId = event.assetId := by unfold warn; split <;> rfl
@[simp] theorem warnChanges : (warn event condition text).changes = event.changes := by unfold warn; split <;> rfl
end

theorem carried {taken : Json → Prop} {keep : Json → Bool} {listed : List Json}
    (agree : ∀ raw ∈ listed, parsePriceLevelChange raw ≠ none → (keep raw = true ↔ taken raw)) :
    Carried taken listed ((listed.filter keep).filterMap parsePriceLevelChange) := by
  induction listed with
  | nil => exact .nil
  | cons raw listed ih =>
    have rest := ih fun other mem => agree other (List.mem_cons_of_mem _ mem)
    cases reads : parsePriceLevelChange raw with
    | none =>
      cases kept : keep raw with
      | false => rw [List.filter_cons_of_neg (by simp [kept])]; exact .passed (.inl reads) rest
      | true => rw [List.filter_cons_of_pos kept,List.filterMap_cons_none reads]; exact .passed (.inl reads) rest
    | some change =>
      have here := agree raw List.mem_cons_self (by simp [reads])
      cases kept : keep raw with
      | false =>
        rw [List.filter_cons_of_neg (by simp [kept])]
        exact .passed (.inr fun own => by simp [here.mpr own] at kept) rest
      | true =>
        rw [List.filter_cons_of_pos kept,List.filterMap_cons_some reads]
        exact .kept (here.mp kept) reads (changeWritten reads) rest
theorem belongsIff {raw : Json} (wellFormed : parsePriceLevelChange raw ≠ none) (entityId : String) :
    priceChangeBelongsToEntity raw entityId = true ↔ Concerns entityId raw := by
  have object : isObject raw = true := by
    cases raw with
    | object members => rfl
    | _ => exact absurd rfl wellFormed
  unfold priceChangeBelongsToEntity Concerns
  simp only [object,Bool.true_eq_false,or_false]
  split
  · next missing => simp [missing]
  · next entity =>
    split
    · next unnamed => simp [unnamed]
    · next named => simp [entity,named]
theorem firstNamed {listed : List Json} {assetId : String} (first : FirstNamed listed assetId) :
    listed.findSome? namedAsset = some assetId := by
  obtain ⟨before,change,after,rfl,here,earlier⟩ := first
  exact List.findSome?_eq_some_iff.mpr ⟨before,change,after,rfl,here,earlier⟩

section
variable (input : DecodeInputView) (message : Json) (rawType : String)

theorem priceChangeEntity : (normalizePriceChange input message rawType).entityId =
    (firstPriceChangeAssetId message).getD (extractEntityId message) := by
  unfold normalizePriceChange
  cases firstPriceChangeAssetId message <;> simp [baseOf,fillCommonIds]
theorem priceChangeChanges : (normalizePriceChange input message rawType).changes =
    changesOf message (normalizePriceChange input message rawType).entityId := by
  rw [priceChangeEntity]
  unfold normalizePriceChange
  cases firstPriceChangeAssetId message <;> simp [baseOf,fillCommonIds]
theorem priceChanged : PriceChanged message (normalizePriceChange input message rawType) where
  delta := by
    unfold normalizePriceChange
    cases firstPriceChangeAssetId message <;> simp [baseOf,fillCommonIds]
  nested listed array assetId first := by
    have found : firstPriceChangeAssetId message = some assetId := by
      rw [firstPriceChangeAssetId,array]
      exact firstNamed first
    exact ⟨by rw [priceChangeEntity,found]; rfl,by simp [normalizePriceChange,found]⟩
  own unnamed := by
    have nothing : firstPriceChangeAssetId message = none := by
      unfold firstPriceChangeAssetId
      cases array : arrayAt message "price_changes" with
      | none => rfl
      | some listed => exact List.findSome?_eq_none_iff.mpr (unnamed listed array)
    rw [priceChangeEntity,nothing]
    rfl
  priceChanges listed changes array := by
    rw [priceChangeChanges,changesOf,changes,array]
    exact carried fun raw _ wellFormed => belongsIff wellFormed _
  changes listed changes array concerned := by
    rw [priceChangeChanges,changesOf,changes]
    have all : Carried (Concerns (normalizePriceChange input message rawType).entityId) listed
        ((listed.filter fun _ => true).filterMap parsePriceLevelChange) :=
      carried fun raw mem _ => iff_of_true rfl (concerned raw mem)
    rwa [List.filter_true] at all
  single changes array := by rw [priceChangeChanges,changesOf,changes,array]
theorem normalizedRouted : Routed message (normalizeOneObject input message) := by
  unfold Routed normalizeOneObject
  dsimp only
  split
  · next delta =>
    rw [if_neg (by rw [delta]; decide)]
    exact priceChanged input message _
  · split
    · simp [normalizeBook,baseOf,fillCommonIds,makeBaseEvent]
    · split
      · simp [normalizeBestBidAsk,baseOf,fillCommonIds,makeBaseEvent]
      · split
        · simp [normalizeTickSizeChange,baseOf,fillCommonIds,makeBaseEvent]
        · split
          · simp [normalizeLifecycle,baseOf,fillCommonIds,makeBaseEvent]
          · split
            · simp [normalizeTrade,baseOf,fillCommonIds,makeBaseEvent]
            · unfold normalizeUnknown
              dsimp only
              split <;> simp [baseOf,fillCommonIds,makeBaseEvent]
end

theorem elementsNormalized (input : DecodeInputView) (elements : List Json) (result : NormalizationResult) :
    (elements.foldl (normalizeElement input) result).events =
      result.events ++ (elements.filter isObject).map (normalizeOneObject input) := by
  induction elements generalizing result with
  | nil => simp
  | cons element elements ih =>
    rw [List.foldl_cons,ih]
    unfold normalizeElement
    cases object : isObject element with
    | false => simp [object]
    | true => simp [object]
theorem oneEventEach (input : DecodeInputView) (json : Json) :
    (normalizeJson input json).events = (messages json).map (normalizeOneObject input) := by
  cases json with
  | array elements => simpa [normalizeJson,messages] using elementsNormalized input elements {}
  | _ => rfl
theorem changesRouted (input : DecodeInputView) (json : Json) :
    List.Forall₂ Routed (messages json) (normalizeJson input json).events := by
  rw [oneEventEach,List.forall₂_map_right_iff]
  exact List.forall₂_same.mpr fun message _ => normalizedRouted input message

/-! Changes of a second asset. -/

def listedChanges (message : Json) : List Json :=
  (arrayAt message "changes").getD [] ++ (arrayAt message "price_changes").getD []
-- Every well-formed change is in an event about the asset it names.
def EachInItsEvent (input : DecodeInputView) (json : Json) : Prop :=
  ∀ message ∈ messages json, extractRawType message = "price_change" → ∀ raw ∈ listedChanges message, ∀ change,
    parsePriceLevelChange raw = some change → namedAsset raw ≠ none →
      ∃ event ∈ (normalizeJson input json).events, namedAsset raw = some event.entityId ∧ change ∈ event.changes

def namedChange (assetId price size side : String) : Json :=
  .object [("asset_id",.string assetId),("price",.string price),("size",.string size),("side",.string side)]
def twoAssets : Json :=
  .object
    [("market",.string "market_x"),
     ("event_type",.string "price_change"),
     ("price_changes",.array [namedChange "asset_x" "0.42" "10" "BUY",namedChange "asset_y" "0.58" "11" "SELL"])]
theorem secondAssetPassedOver : ¬ EachInItsEvent {} twoAssets := by
  intro each
  have wellFormed : (parsePriceLevelChange (namedChange "asset_y" "0.58" "11" "SELL")).isSome = true := by
    decide +kernel
  obtain ⟨change,reads⟩ := Option.isSome_iff_exists.mp wellFormed
  have asset : namedAsset (namedChange "asset_y" "0.58" "11" "SELL") = some "asset_y" := by decide +kernel
  have emitted : (normalizeJson {} twoAssets).events.map (·.entityId) = ["asset_x"] := by decide +kernel
  obtain ⟨event,mem,names,-⟩ :=
    each twoAssets List.mem_cons_self (by decide +kernel) _ (.tail _ (.head _)) change reads (by simp [asset])
  have entity : event.entityId ∈ ["asset_x"] := emitted ▸ List.mem_map_of_mem mem
  rw [asset,List.mem_singleton.mp entity] at names
  exact absurd names (by decide)

end Polytope.EventNormalizing
