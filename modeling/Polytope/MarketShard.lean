import Polytope.ChainState
import Polytope.EntityStore
import Polytope.MarketDepth

/-! LOBShard: one shard of the market state. A market event goes to the book store, the chain writer or
the settlement writer, the quality record is refreshed and a snapshot of one asset may be published.
The shard keeps one quality record and one quality version for all its assets. -/
namespace Polytope.MarketShard
open Binary64 (Double value roundNearest)
open ChainState (ConfirmedTradeState ChainStateWriter AggressorSide MarketStateEventType)
open EntityBooks (EntityState NormalizedEvent)
open EntityStore (EntityStateStore StateHashMode StateMutationFlags)
open MarketDepth (PriceLevel kMaxSnapshotDepth MarketDepthView marketDepthViewFromSnapshot)

structure MarketStateEvent extends ChainState.MarketStateEvent where
  sourceSequence : UInt64 := 0
  wsEvent : NormalizedEvent := {}
  deriving DecidableEq, Repr
structure StateApplyResult extends EntityStore.StateApplyResult where
  chainChanged : Bool := false
  qualityChanged : Bool := false
  chainVersion : UInt64 := 0
  qualityVersion : UInt64 := 0
  snapshotPublished : Bool := false
  deriving DecidableEq, Repr

def assetIdForEvent (event : MarketStateEvent) : String :=
  if event.assetId ≠ "" then event.assetId
  else if event.wsEvent.assetId ≠ "" then event.wsEvent.assetId
  else if event.wsEvent.entityId ≠ "" then event.wsEvent.entityId
  else event.chainFill.assetId
def marketIdForEvent (event : MarketStateEvent) : String :=
  if event.marketId ≠ "" then event.marketId
  else if event.wsEvent.marketId ≠ "" then event.wsEvent.marketId
  else event.chainFill.marketId

/-! SettlementStateWriter. -/

inductive SettlementStatus where | unknown | opened | closed | resolved
  deriving DecidableEq, Repr
structure SettlementState where
  status : SettlementStatus := .opened
  resolved : Bool := false
  winningAssetId : String := ""
  lastUpdateBlock : UInt64 := 0
  version : UInt64 := 0
  deriving DecidableEq, Repr
inductive SettlementApplyCode where | applied | missingMarketId
  deriving DecidableEq, Repr
structure SettlementApplyResult where
  code : SettlementApplyCode := .applied
  marketId : String
  status : SettlementStatus
  stateChanged : Bool := false
  message : String := ""
  deriving DecidableEq, Repr
structure SettlementStateWriter where
  states : AList (fun _ : String => SettlementState) := ∅

def SettlementStateWriter.get (writer : SettlementStateWriter) (marketId : String) : Option SettlementState :=
  writer.states.lookup marketId
def SettlementStateWriter.applyStatus (writer : SettlementStateWriter) (marketId : String)
    (status : SettlementStatus)
    (winningAssetId : String) (blockNumber : UInt64) : SettlementStateWriter × SettlementApplyResult :=
  if marketId = "" then (writer,
    {code := .missingMarketId, marketId, status, message := "settlement update missing market_id"})
  else
    let state := (writer.get marketId).getD {}
    (⟨writer.states.insert marketId
      ⟨status,decide (status = .resolved),winningAssetId,blockNumber,state.version + 1⟩⟩,
      {marketId, status, stateChanged := true, message := "settlement state updated"})
def SettlementStateWriter.markClosed (writer : SettlementStateWriter) (marketId : String) (blockNumber : UInt64) :
    SettlementStateWriter × SettlementApplyResult :=
  writer.applyStatus marketId .closed "" blockNumber
def SettlementStateWriter.markResolved (writer : SettlementStateWriter) (marketId winningAssetId : String)
    (blockNumber : UInt64) :
    SettlementStateWriter × SettlementApplyResult :=
  writer.applyStatus marketId .resolved winningAssetId blockNumber

/-! DataQualityGate. -/

inductive BookQuality where
  | unknown | good | stale | recovering | crossed | chainMismatch | chainLagging | closed | resolved
  deriving DecidableEq, Repr
structure BookQualityState where
  quality : BookQuality := .unknown
  wsLive : Bool := false
  chainLive : Bool := false
  lastWsRecvNs : Nat := 0
  lastChainSeenNs : Nat := 0
  wsDecodeErrorsRecent : UInt32 := 0
  stateErrorsRecent : UInt32 := 0
  chainDecodeErrorsRecent : UInt32 := 0
  chainWsMismatchCountRecent : UInt32 := 0
  usableForDepth : Bool := false
  usableForSignal : Bool := false
  deriving DecidableEq, Repr
structure DataQualityGateConfig where
  wsStaleTimeoutNs : Nat := 2000000000
  chainLagTimeoutNs : Nat := 10000000000
structure DataQualityInput where
  entity : Option EntityState := none
  confirmedTradeState : Option ConfirmedTradeState := none
  nowNs : Nat := 0
  wsDecodeErrorsRecent : UInt32 := 0
  stateErrorsRecent : UInt32 := 0
  chainDecodeErrorsRecent : UInt32 := 0
  chainWsMismatchCountRecent : UInt32 := 0

def ageExceeds (nowNs lastSeenNs timeoutNs : Nat) : Bool :=
  decide (nowNs ≠ 0) && decide (lastSeenNs ≠ 0) && decide (lastSeenNs ≤ nowNs) && decide
    (timeoutNs < nowNs - lastSeenNs)
def crossedBook (entity : EntityState) : Bool :=
  entity.book.crossed ||
    match entity.book.bestBid,entity.book.bestAsk with
    | some bid,some ask => decide (value ask < value bid)
    | _,_ => false
def setUsability (state : BookQualityState) : BookQualityState :=
  match state.quality with
  | .good => {state with usableForDepth := true, usableForSignal := true}
  | .chainLagging | .chainMismatch => {state with usableForDepth := true, usableForSignal := false}
  | _ => {state with usableForDepth := false, usableForSignal := false}
def wsLive (config : DataQualityGateConfig) (input : DataQualityInput) : Bool :=
  match input.entity with
  | none => false
  | some entity =>
    decide (entity.lastUpdateMonotonicNs ≠ 0) &&
      !ageExceeds input.nowNs entity.lastUpdateMonotonicNs.toNat config.wsStaleTimeoutNs
def chainLive (config : DataQualityGateConfig) (input : DataQualityInput) : Bool :=
  match input.confirmedTradeState with
  | none => false
  | some state =>
    decide (state.lastChainSeenNs ≠ 0) && !ageExceeds input.nowNs state.lastChainSeenNs config.chainLagTimeoutNs
def qualityOf (config : DataQualityGateConfig) (input : DataQualityInput) : BookQuality :=
  match input.entity with
  | none => .recovering
  | some entity =>
    if entity.initialized = false ∨ entity.recovering = true ∨ entity.status = .recovering ∨
      input.stateErrorsRecent ≠ 0 then .recovering
    else if entity.closed = true ∨ entity.status = .closed then .closed
    else if entity.book.resolved = true then .resolved
    else if crossedBook entity = true then .crossed
    else if wsLive config input = false then .stale
    else if chainLive config input = false ∨ input.chainDecodeErrorsRecent ≠ 0 then .chainLagging
    else if input.chainWsMismatchCountRecent ≠ 0 then .chainMismatch
    else .good
def evaluate (config : DataQualityGateConfig) (input : DataQualityInput) : BookQualityState :=
  setUsability
    {quality := qualityOf config input
     wsLive := wsLive config input
     chainLive := chainLive config input
     lastWsRecvNs := (input.entity.map fun entity => entity.lastUpdateMonotonicNs.toNat).getD 0
     lastChainSeenNs := (input.confirmedTradeState.map ConfirmedTradeState.lastChainSeenNs).getD 0
     wsDecodeErrorsRecent := input.wsDecodeErrorsRecent
     stateErrorsRecent := input.stateErrorsRecent
     chainDecodeErrorsRecent := input.chainDecodeErrorsRecent
     chainWsMismatchCountRecent := input.chainWsMismatchCountRecent}

/-! Snapshots and SnapshotPublisher with both slots of every buffer: a publish fills the inactive slot with the
snapshot and the depth view derived from it and then turns the buffer, a reader takes the active slot. -/

structure MarketStateSnapshot extends MarketDepth.MarketStateSnapshot where
  marketId : String := ""
  hasBid : Bool := false
  bestBidTick : Int := 0
  bestAskTick : Int := 0
  winningAssetId : String := ""
  hasConfirmedTrade : Bool := false
  lastTradePriceTick : Int := 0
  lastTradeSizeLots : Int := 0
  lastTakerSide : AggressorSide := .unknown
  confirmedBuyLots2s : Int := 0
  confirmedSellLots2s : Int := 0
  confirmedBuyLots10s : Int := 0
  confirmedSellLots10s : Int := 0
  quality : BookQuality := .unknown
  usableForSignal : Bool := false
  deriving DecidableEq, Repr
structure SnapshotSlot where
  snapshot : MarketStateSnapshot := {entityId := ""}
  depthView : MarketDepthView := {}
structure SnapshotBuffer where
  slots : Fin 2 → SnapshotSlot := fun _ => {}
  activeIndex : Fin 2 := 0
  published : Bool := false
def SnapshotBuffer.active (buffer : SnapshotBuffer) : SnapshotSlot := buffer.slots buffer.activeIndex
structure SnapshotPublisher where
  buffers : AList (fun _ : String => SnapshotBuffer) := ∅

def slotOf (snapshot : MarketStateSnapshot) : SnapshotSlot :=
  {snapshot, depthView := marketDepthViewFromSnapshot snapshot.toMarketStateSnapshot 0}
-- The version is a 64-bit one.
def versioned (shown : MarketStateSnapshot) (snapshot : MarketStateSnapshot) : MarketStateSnapshot :=
  let nextVersion := (shown.version + 1) % 2^64
  {snapshot with version := if snapshot.version < nextVersion then nextVersion else snapshot.version}
def SnapshotBuffer.turn (buffer : SnapshotBuffer) (slot : SnapshotSlot) : SnapshotBuffer :=
  let inactive := 1 - buffer.activeIndex
  {slots := Function.update buffer.slots inactive slot, activeIndex := inactive, published := true}

/-! Readers. -/

inductive StateQueryError where | none | missingEntity
  deriving DecidableEq, Repr
structure StateQueryResult where
  ok : Bool := false
  error : StateQueryError := .none
  entityId : String := ""
  version : Nat := 0
  value : MarketStateSnapshot := {entityId := ""}
  deriving DecidableEq

namespace SnapshotPublisher

def publish (publisher : SnapshotPublisher) (snapshot : MarketStateSnapshot) : SnapshotPublisher :=
  if snapshot.entityId = "" then publisher
  else
    let buffer := (publisher.buffers.lookup snapshot.entityId).getD {}
    ⟨publisher.buffers.insert snapshot.entityId (buffer.turn (slotOf (versioned buffer.active.snapshot snapshot)))⟩
def slot (publisher : SnapshotPublisher) (assetId : String) : Option SnapshotSlot :=
  match publisher.buffers.lookup assetId with
  | some buffer => if buffer.published then some buffer.active else none
  | none => none
def read (publisher : SnapshotPublisher) (assetId : String) : StateQueryResult :=
  match publisher.slot assetId with
  | none => {entityId := assetId, error := .missingEntity}
  | some slot =>
    {value := slot.snapshot, entityId := slot.snapshot.entityId, version := slot.snapshot.version, ok := true,
      error := .none}
-- A null id is skipped; a reader without room for a single result gets none.
def readMany (publisher : SnapshotPublisher) (assetIds : List (Option String)) (maxOut : Nat) :
    List MarketStateSnapshot :=
  assetIds.foldl (fun out assetId =>
    match assetId with
    | none => out
    | some assetId =>
      if maxOut ≤ out.length then out
      else
        match publisher.slot assetId with
        | none => out
        | some slot => out ++ [slot.snapshot]) []
def readDepthFrom (publisher : SnapshotPublisher) (assetIndices : List Nat) (maxOut : Nat) :
    List (Option String) → Nat → List MarketDepthView → List MarketDepthView
  | [],_,out => out
  | none::rest,i,out => readDepthFrom publisher assetIndices maxOut rest (i + 1) out
  | some assetId::rest,i,out =>
    if maxOut ≤ out.length then readDepthFrom publisher assetIndices maxOut rest (i + 1) out
    else
      match publisher.slot assetId with
      | none => readDepthFrom publisher assetIndices maxOut rest (i + 1) out
      | some slot =>
        readDepthFrom publisher assetIndices maxOut rest (i + 1)
          (out ++ [{slot.depthView with assetIndex := assetIndices.getD i 0}])
-- A 16-bit index never passes the end of a list of 65536 ids or more.
def readDepthMany (publisher : SnapshotPublisher) (assetIds : List (Option String)) (assetIndices : List Nat)
    (maxOut : Nat) :
    Option (List MarketDepthView) :=
  if maxOut = 0 then some []
  else if assetIds.length ≤ 65535 then some (readDepthFrom publisher assetIndices maxOut assetIds 0 [])
  else none

def current (publisher : SnapshotPublisher) (assetId : String) : Option MarketStateSnapshot :=
  (publisher.slot assetId).map SnapshotSlot.snapshot

end SnapshotPublisher

/-! The shard. -/

structure SnapshotBuildContext where
  assetId : String
  bookVersion : UInt64
  chainVersion : UInt64
  qualityVersion : UInt64
  snapshotVersionHash : UInt64
  fullEntityHash : Option UInt64 := none
structure LOBShard where
  qualityVersion : UInt64 := 0
  cachedLegacyBookHash : AList (fun _ : String => UInt64) := ∅
  bookStore : EntityStateStore := {}
  chainWriter : ChainStateWriter := {}
  settlementWriter : SettlementStateWriter := {}
  quality : BookQualityState := {}
  snapshotPublisher : SnapshotPublisher := {}

def LOBShard.chainState (shard : LOBShard) (entityId : String) : Option ConfirmedTradeState :=
  shard.chainWriter.states.lookup entityId
def LOBShard.chainVersion (shard : LOBShard) (entityId : String) : UInt64 :=
  ((shard.chainState entityId).map ConfirmedTradeState.version).getD 0
def LOBShard.bookVersion (shard : LOBShard) (entityId : String) : UInt64 :=
  ((shard.bookStore.get entityId).map EntityState.lastPacketId).getD 0

def makeNoopResult (entityId message : String) (stateChanged : Bool) : StateApplyResult :=
  {code := .noop, entityId, message, stateChanged, mutation := {stateChanged, publishRequired := stateChanged}}
def applyBookEvent (shard : LOBShard) (event : MarketStateEvent) : LOBShard × StateApplyResult :=
  ({shard with bookStore := (EntityStore.apply shard.bookStore event.wsEvent).1},{toStateApplyResult :=
    (EntityStore.apply shard.bookStore event.wsEvent).2})
def applyChainEvent (shard : LOBShard) (event : MarketStateEvent) : LOBShard × StateApplyResult :=
  let (chainWriter,result) := ChainState.apply shard.chainWriter event.toMarketStateEvent
  let shard := {shard with chainWriter}
  let out := makeNoopResult result.entityId result.message result.stateChanged
  (shard,
    {out with
      chainVersion := shard.chainVersion result.entityId
      chainChanged := result.stateChanged
      mutation := {out.mutation with kind := if event.type = .chainRemovedFill then .chainRemovedFill
        else .chainFill}})
def settle (writer : SettlementStateWriter) (event : MarketStateEvent) :
    SettlementStateWriter × SettlementApplyResult :=
  if event.type = .wsLifecycle ∧ event.wsEvent.winningAssetId ≠ "" then
    writer.markResolved (marketIdForEvent event) event.wsEvent.winningAssetId event.wsEvent.packetId
  else if event.type = .wsLifecycle then writer.markClosed (marketIdForEvent event) event.wsEvent.packetId
  else writer.markClosed (marketIdForEvent event) event.sourceSequence
def applySettlementEvent (shard : LOBShard) (event : MarketStateEvent) : LOBShard × StateApplyResult :=
  let (settlementWriter,result) := settle shard.settlementWriter event
  ({shard with settlementWriter},makeNoopResult (marketIdForEvent event) result.message result.stateChanged)
def applyLifecycle (shard : LOBShard) (event : MarketStateEvent) : LOBShard × StateApplyResult :=
  let (shard,result) := applyBookEvent shard event
  let (shard,settlement) := applySettlementEvent shard event
  if settlement.stateChanged = true then
    (shard,{result with
      stateChanged := true
      mutation :=
        { result.mutation with
          stateChanged := true
          lifecycleChanged := true
          publishRequired := true
          kind := .lifecycle } })
  else (shard,result)
-- The switch at the head of apply: the writer an event belongs to.
def dispatch (shard : LOBShard) (event : MarketStateEvent) : LOBShard × StateApplyResult :=
  match event.type with
  | .wsBookSnapshot | .wsBookDelta | .wsHeartbeat => applyBookEvent shard event
  | .wsLifecycle => applyLifecycle shard event
  | .chainConfirmedFill | .chainRemovedFill => applyChainEvent shard event
  | .chainSettlement => applySettlementEvent shard event
  | .dataQualityUpdate => (shard,makeNoopResult (assetIdForEvent event) "event ignored by LOBShard" false)

def qualityInput (shard : LOBShard) (assetId : String) : DataQualityInput :=
  let entity := shard.bookStore.get assetId
  let confirmedTradeState := shard.chainState assetId
  let wsNs := (entity.map fun entity => entity.lastUpdateMonotonicNs.toNat).getD 0
  let chainNs := (confirmedTradeState.map ConfirmedTradeState.lastChainSeenNs).getD 0
  {entity, confirmedTradeState, nowNs := max wsNs chainNs}
def assetQuality (shard : LOBShard) (assetId : String) : BookQualityState :=
  evaluate {} (qualityInput shard assetId)
def refreshQuality (shard : LOBShard) (assetId : String) : LOBShard :=
  {shard with quality := assetQuality shard assetId}
def noteQuality (out : LOBShard × StateApplyResult) (assetId : String) : LOBShard × StateApplyResult :=
  if assetId = "" then out
  else
    let shard := refreshQuality out.1 assetId
    if shard.quality = out.1.quality then (shard,{out.2 with qualityVersion := shard.qualityVersion})
    else
      let shard := {shard with qualityVersion := shard.qualityVersion + 1}
      (shard,{out.2 with
        qualityVersion := shard.qualityVersion
        qualityChanged := true
        stateChanged := true
        mutation := {out.2.mutation with
          stateChanged := true
          publishRequired := true
          kind := if out.2.mutation.kind = .none then .quality else out.2.mutation.kind}})

def statusFlagsFor (entity : Option EntityState) (quality : BookQualityState) : UInt64 :=
  let flag (set : Bool) (bit : UInt64) : UInt64 := if set = true then 1 <<< bit else 0
  (entity.map EntityStore.statusFlags).getD 0 |||
  ((UInt64.ofNat quality.quality.ctorIdx &&& 0xff) <<< 16) ||| flag quality.wsLive 24 |||
    flag quality.chainLive 25 ||| flag quality.usableForDepth 26 ||| flag quality.usableForSignal 27
def snapshotVersionHashFor (shard : LOBShard) (assetId : String) (result : StateApplyResult) : UInt64 :=
  let entity := if assetId = "" then none else shard.bookStore.get assetId
  let chainState := if assetId = "" then none else shard.chainState assetId
  EntityStore.cheapSnapshotFingerprint
    (if assetId ≠ "" then assetId else result.entityId) result.bookVersion result.chainVersion
    result.qualityVersion ((entity.map EntityState.lastPacketId).getD result.bookVersion)
    (UInt64.ofNat ((chainState.map ConfirmedTradeState.lastBlockNumber).getD 0))
    (statusFlagsFor entity shard.quality)
def fingerprint (out : LOBShard × StateApplyResult) (assetId : String) : LOBShard × StateApplyResult :=
  let hash := snapshotVersionHashFor out.1 assetId out.2
  let shard :=
    if assetId ≠ "" ∧ out.2.fullHashComputed = true ∧ out.2.entityHash ≠ 0 then
      {out.1 with cachedLegacyBookHash := out.1.cachedLegacyBookHash.insert assetId out.2.entityHash}
    else out.1
  (shard,{out.2 with snapshotVersionHash := hash, cheapFingerprint := hash})

def buildSnapshotContext (shard : LOBShard) (event : MarketStateEvent) (result : StateApplyResult) :
    SnapshotBuildContext :=
  let assetId := if assetIdForEvent event = "" then result.entityId else assetIdForEvent event
  {assetId
   bookVersion := result.bookVersion
   chainVersion := result.chainVersion
   qualityVersion := result.qualityVersion
   snapshotVersionHash := result.snapshotVersionHash
   fullEntityHash :=
     if result.fullHashComputed = true ∧ result.entityHash ≠ 0 then some result.entityHash
     else shard.cachedLegacyBookHash.lookup assetId}

def kDefaultPriceScale : Rat := 1000000
-- std::llround: to the nearest integer, halves away from zero.
def llround (q : Rat) : Int := if 0 ≤ q then (q + mkRat 1 2).floor else -(-q + mkRat 1 2).floor
def priceToTick (price : Double) : Int := llround (roundNearest (value price * kDefaultPriceScale))
def makePriceLevel (level : Double × Double) : PriceLevel := ⟨priceToTick level.1,level.2⟩
def assetSnapshot (shard : LOBShard) (context : SnapshotBuildContext) (entity : EntityState) :
    MarketStateSnapshot :=
  let chain := (shard.chainState context.assetId).getD {}
  {entityId := entity.entityId
   marketId := entity.marketId
   version := entity.lastPacketId.toNat
   lastBookUpdateNs := entity.lastUpdateMonotonicNs.toNat
   live := decide (entity.status = .live)
   recovering := entity.recovering || decide (entity.status = .recovering)
   closed := entity.closed || decide (entity.status = .closed)
   resolved := entity.book.resolved
   crossed := entity.book.crossed
   hasBid := entity.book.bestBid.isSome
   hasAsk := entity.book.bestAsk.isSome
   bestBidTick := (entity.book.bestBid.map priceToTick).getD 0
   bestAskTick := (entity.book.bestAsk.map priceToTick).getD 0
   bids := (entity.book.bids.entries.take kMaxSnapshotDepth).map makePriceLevel
   asks := (entity.book.asks.entries.take kMaxSnapshotDepth).map makePriceLevel
   winningAssetId := entity.book.winningAssetId
   snapshotVersionHash := context.snapshotVersionHash
   stateHash := context.fullEntityHash.getD 0
   hasConfirmedTrade := chain.hasLastTrade
   lastTradePriceTick := chain.lastTradePriceTick
   lastTradeSizeLots := chain.lastTradeSizeLots
   lastTakerSide := chain.lastTakerSide
   confirmedBuyLots2s := chain.confirmedBuyLots2s
   confirmedSellLots2s := chain.confirmedSellLots2s
   confirmedBuyLots10s := chain.confirmedBuyLots10s
   confirmedSellLots10s := chain.confirmedSellLots10s
   quality := shard.quality.quality
   usableForDepth := shard.quality.usableForDepth
   usableForSignal := shard.quality.usableForSignal}
def publishAssetSnapshot (shard : LOBShard) (context : SnapshotBuildContext) :
    LOBShard × Option MarketStateSnapshot :=
  match shard.bookStore.get context.assetId with
  | none => (shard,none)
  | some entity =>
    let snapshot := assetSnapshot shard context entity
    ({shard with snapshotPublisher := shard.snapshotPublisher.publish snapshot},some snapshot)
def publishAfterApply (out : LOBShard × StateApplyResult) (event : MarketStateEvent) :
    LOBShard × StateApplyResult :=
  let context := buildSnapshotContext out.1 event out.2
  if out.2.mutation.publishRequired = false ∨ context.assetId = "" then out
  else
    let (shard,published) := publishAssetSnapshot out.1 context
    (shard,{out.2 with snapshotPublished := published.isSome})

def apply (shard : LOBShard) (event : MarketStateEvent) : LOBShard × StateApplyResult :=
  let assetId := assetIdForEvent event
  publishAfterApply (fingerprint (noteQuality (dispatch shard event) assetId) assetId) event

end Polytope.MarketShard
