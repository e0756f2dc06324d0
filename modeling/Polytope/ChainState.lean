import Polytope.FixedPointMath
import Mathlib.Data.List.AList
import Mathlib.Tactic.Linarith

/-! ChainStateWriter: the confirmed trade state of each entity, fed by classified chain fills. A fill
lives in the fill map, in its entity's window and in the published totals. -/
namespace Polytope.ChainState
open FixedPointMath

inductive AggressorSide where | unknown | buy | sell
  deriving DecidableEq, Repr
inductive ConfirmedDirection where | unknown | buyAggressor | sellAggressor
  deriving DecidableEq, Repr
inductive FillMappingStatus where | mapped | unmappedFill | ambiguousFill
  deriving DecidableEq, Repr
inductive FillClassification where | unknown | chainConfirmed | chainRemoved | unmappedFill | ambiguousFill
  deriving DecidableEq, Repr
inductive MarketStateEventType where
  | wsBookSnapshot | wsBookDelta | wsHeartbeat | wsLifecycle
  | chainConfirmedFill | chainRemovedFill | chainSettlement | dataQualityUpdate
  deriving DecidableEq, Repr

structure ClassifiedFillRecord where
  fillId : String := ""
  marketId : String := ""
  assetId : String := ""
  priceTick : Int := 0
  sizeLots : Int := 0
  direction : ConfirmedDirection := .unknown
  mappingStatus : FillMappingStatus := .unmappedFill
  classification : FillClassification := .unknown
  blockNumber : Nat := 0
  chainSeenMonotonicNs : Nat := 0
  removed : Bool := false
  deriving DecidableEq, Repr
structure MarketStateEvent where
  type : MarketStateEventType := .dataQualityUpdate
  marketId : String := ""
  assetId : String := ""
  chainFill : ClassifiedFillRecord := {}
  deriving DecidableEq, Repr

def mapDirection : ConfirmedDirection → AggressorSide
  | .buyAggressor => .buy
  | .sellAggressor => .sell
  | .unknown => .unknown
def isAmbiguous (fill : ClassifiedFillRecord) : Bool :=
  decide (fill.classification = .ambiguousFill) || decide (fill.mappingStatus = .ambiguousFill)
def hasChainFill (fill : ClassifiedFillRecord) : Bool :=
  decide (fill.fillId ≠ "") || decide (fill.classification ≠ .unknown) || decide
    (fill.mappingStatus ≠ .unmappedFill)
def isRemoval (event : MarketStateEvent) : Bool :=
  decide (event.type = .chainRemovedFill) || event.chainFill.removed || decide
    (event.chainFill.classification = .chainRemoved)
def isConfirmation (event : MarketStateEvent) : Bool :=
  decide (event.type = .chainConfirmedFill) || hasChainFill event.chainFill
def resolveEntityId (event : MarketStateEvent) : String :=
  if event.chainFill.assetId ≠ "" then event.chainFill.assetId
  else if event.assetId ≠ "" then event.assetId
  else if event.chainFill.marketId ≠ "" then event.chainFill.marketId
  else event.marketId

/-! The sliding window of one entity. -/

structure Entry where
  fillId : String
  chainSeenNs : Nat
  side : AggressorSide
  sizeLots : Int
  removed : Bool
  deriving DecidableEq, Repr
structure ConfirmedTradeWindowTotals where
  buyLots : Int := 0
  sellLots : Int := 0
  deriving DecidableEq, Repr
structure ConfirmedTradeWindow where
  entries : List Entry := []
  deriving DecidableEq, Repr

def ConfirmedTradeWindow.add (window : ConfirmedTradeWindow) (fillId : String) (chainSeenNs : Nat)
    (side : AggressorSide)
    (sizeLots : Int) : ConfirmedTradeWindow :=
  ⟨window.entries ++ [⟨fillId,chainSeenNs,side,sizeLots,false⟩]⟩
def ConfirmedTradeWindow.markRemoved (window : ConfirmedTradeWindow) (fillId : String) : ConfirmedTradeWindow :=
  ⟨window.entries.map fun entry =>
    if entry.fillId = fillId ∧ entry.removed = false then {entry with removed := true} else entry⟩
def countEntry (nowNs windowNs : Nat) (out : ConfirmedTradeWindowTotals) (entry : Entry) :
    ConfirmedTradeWindowTotals :=
  if entry.removed = true ∨ nowNs < entry.chainSeenNs then out
  else if windowNs < nowNs - entry.chainSeenNs then out
  else
    match entry.side with
    | .buy => {out with buyLots := addI64 out.buyLots entry.sizeLots}
    | .sell => {out with sellLots := addI64 out.sellLots entry.sizeLots}
    | .unknown => out
def ConfirmedTradeWindow.totals (window : ConfirmedTradeWindow) (nowNs windowNs : Nat) :
    ConfirmedTradeWindowTotals :=
  window.entries.foldl (countEntry nowNs windowNs) {}

/-! The writer. -/

def kTwoSecondsNs : Nat := 2000000000
def kTenSecondsNs : Nat := 10000000000

structure ConfirmedTradeState where
  version : UInt64 := 0
  lastBlockNumber : Nat := 0
  lastChainSeenNs : Nat := 0
  hasLastTrade : Bool := false
  lastTradePriceTick : Int := 0
  lastTradeSizeLots : Int := 0
  lastTakerSide : AggressorSide := .unknown
  confirmedBuyLots2s : Int := 0
  confirmedSellLots2s : Int := 0
  confirmedBuyLots10s : Int := 0
  confirmedSellLots10s : Int := 0
  unknownFillCountRecent : UInt32 := 0
  ambiguousFillCountRecent : UInt32 := 0
  removedFillCountRecent : UInt32 := 0
  deriving DecidableEq, Repr
structure AppliedFill where
  entityId : String
  side : AggressorSide
  sizeLots : Int
  chainSeenNs : Nat
  countedVolume : Bool
  removed : Bool
  deriving DecidableEq, Repr
inductive ChainApplyCode where
  | applied | ignoredNonChainEvent | missingEntityId | unknownDirection | ambiguousFill |
    removedFill | duplicateFill
  deriving DecidableEq, Repr
structure ChainApplyResult where
  code : ChainApplyCode := .ignoredNonChainEvent
  entityId : String := ""
  fillId : String := ""
  stateChanged : Bool := false
  message : String := ""
  deriving DecidableEq, Repr
structure ChainStateWriter where
  states : AList (fun _ : String => ConfirmedTradeState) := ∅
  windows : AList (fun _ : String => ConfirmedTradeWindow) := ∅
  fills : AList (fun _ : String => AppliedFill) := ∅

def ChainStateWriter.stateOf (writer : ChainStateWriter) (entityId : String) : ConfirmedTradeState :=
  (writer.states.lookup entityId).getD {}
def ChainStateWriter.windowOf (writer : ChainStateWriter) (entityId : String) : ConfirmedTradeWindow :=
  (writer.windows.lookup entityId).getD {}
def ChainStateWriter.liveFill (writer : ChainStateWriter) (fillId : String) : Option AppliedFill :=
  (writer.fills.lookup fillId).filter fun fill => !fill.removed

def publish (state : ConfirmedTradeState) (window : ConfirmedTradeWindow) (nowNs : Nat) : ConfirmedTradeState :=
  {state with
    confirmedBuyLots2s := (window.totals nowNs kTwoSecondsNs).buyLots
    confirmedSellLots2s := (window.totals nowNs kTwoSecondsNs).sellLots
    confirmedBuyLots10s := (window.totals nowNs kTenSecondsNs).buyLots
    confirmedSellLots10s := (window.totals nowNs kTenSecondsNs).sellLots}
def ChainStateWriter.refreshWindows (writer : ChainStateWriter) (entityId : String) (nowNs : Nat) :
    ChainStateWriter :=
  {writer with
    states := writer.states.insert entityId (publish (writer.stateOf entityId) (writer.windowOf entityId) nowNs)
    windows := writer.windows.insert entityId (writer.windowOf entityId)}
-- Every path of the source works on a reference into states_ and refreshes the windows last.
def ChainStateWriter.store (writer : ChainStateWriter) (entityId : String) (state : ConfirmedTradeState)
    (nowNs : Nat) : ChainStateWriter :=
  {writer with states := writer.states.insert entityId state}.refreshWindows entityId nowNs

def seen (state : ConfirmedTradeState) (fill : ClassifiedFillRecord) : ConfirmedTradeState :=
  {state with
    version := state.version + 1
    lastBlockNumber := max state.lastBlockNumber fill.blockNumber
    lastChainSeenNs := fill.chainSeenMonotonicNs}
def traded (state : ConfirmedTradeState) (fill : ClassifiedFillRecord) : ConfirmedTradeState :=
  {state with
    hasLastTrade := true
    lastTradePriceTick := fill.priceTick
    lastTradeSizeLots := fill.sizeLots
    lastTakerSide := mapDirection fill.direction}
def ChainStateWriter.recordFill (writer : ChainStateWriter) (entityId : String) (fill : ClassifiedFillRecord) :
    ChainStateWriter :=
  if fill.fillId = "" then writer
  else
    {writer with
      fills := writer.fills.insert fill.fillId
        ⟨entityId,mapDirection fill.direction,fill.sizeLots,fill.chainSeenMonotonicNs,true,false⟩
      windows := writer.windows.insert entityId
        ((writer.windowOf entityId).add fill.fillId fill.chainSeenMonotonicNs
          (mapDirection fill.direction) fill.sizeLots)}
def ChainStateWriter.eraseFill (writer : ChainStateWriter) (fillId : String) : ChainStateWriter :=
  match writer.liveFill fillId with
  | none => writer
  | some fill =>
    {writer with
      fills := writer.fills.insert fillId {fill with removed := true}
      windows :=
        if fill.countedVolume = true then
          writer.windows.insert fill.entityId ((writer.windowOf fill.entityId).markRemoved fillId)
        else writer.windows}

def applyConfirmed (writer : ChainStateWriter) (event : MarketStateEvent) : ChainStateWriter × ChainApplyResult :=
  let fill := event.chainFill
  let entityId := resolveEntityId event
  let state := seen (writer.stateOf entityId) fill
  let nowNs := fill.chainSeenMonotonicNs
  if entityId = "" then (writer,
    ⟨.missingEntityId,entityId,fill.fillId,false,"chain fill missing asset_id and market_id"⟩)
  else if fill.fillId ≠ "" ∧ (writer.liveFill fill.fillId).isSome = true then
    (writer.store entityId state nowNs,⟨.duplicateFill,entityId,fill.fillId,true,"duplicate chain fill ignored"⟩)
  else if isAmbiguous fill = true then
    (writer.store entityId {state with ambiguousFillCountRecent := state.ambiguousFillCountRecent + 1} nowNs,
      ⟨.ambiguousFill,entityId,fill.fillId,true,"ambiguous chain fill counted without direction"⟩)
  else if mapDirection fill.direction = .unknown then
    (writer.store entityId {state with unknownFillCountRecent := state.unknownFillCountRecent + 1} nowNs,
      ⟨.unknownDirection,entityId,fill.fillId,true,"unknown chain fill direction counted without volume"⟩)
  else
    ((writer.recordFill entityId fill).store entityId (traded state fill) nowNs,
      ⟨.applied,entityId,fill.fillId,true,"chain fill applied to confirmed trade state"⟩)
def applyRemoved (writer : ChainStateWriter) (event : MarketStateEvent) : ChainStateWriter × ChainApplyResult :=
  let fill := event.chainFill
  let entityId := resolveEntityId event
  let state := seen (writer.stateOf entityId) fill
  if entityId = "" then
    (writer,⟨.missingEntityId,entityId,fill.fillId,false,"removed chain fill missing asset_id and market_id"⟩)
  else
    ((writer.eraseFill fill.fillId).store entityId
      {state with removedFillCountRecent := state.removedFillCountRecent + 1}
        fill.chainSeenMonotonicNs,
      ⟨.removedFill,entityId,fill.fillId,true,"chain fill removed by reorg"⟩)
def apply (writer : ChainStateWriter) (event : MarketStateEvent) : ChainStateWriter × ChainApplyResult :=
  if isRemoval event = true then applyRemoved writer event
  else if isConfirmation event = true then applyConfirmed writer event
  else (writer,{message := "non-chain event ignored by ChainStateWriter"})

/-! What an update does to the parts of the writer. -/

def isCounted (side : AggressorSide) (nowNs windowNs : Nat) (entry : Entry) : Bool :=
  decide (entry.side = side) && decide (entry.chainSeenNs ≤ nowNs) && decide (nowNs - entry.chainSeenNs ≤ windowNs)
def ConfirmedTradeWindow.live (window : ConfirmedTradeWindow) : List Entry :=
  window.entries.filter fun entry => !entry.removed
def ConfirmedTradeWindow.lots (window : ConfirmedTradeWindow) (side : AggressorSide)
    (nowNs windowNs : Nat) : Int :=
  ((window.live.filter (isCounted side nowNs windowNs)).map Entry.sizeLots).sum

theorem lotsCons (entry : Entry) (rest : List Entry) (side : AggressorSide) (nowNs windowNs : Nat) :
    (ConfirmedTradeWindow.mk (entry::rest)).lots side nowNs windowNs =
      (if entry.removed = false ∧ isCounted side nowNs windowNs entry = true then entry.sizeLots else 0) +
        (ConfirmedTradeWindow.mk rest).lots side nowNs windowNs := by
  simp only [ConfirmedTradeWindow.lots,ConfirmedTradeWindow.live]
  by_cases gone : entry.removed = true
  · simp [gone]
  · by_cases counted : isCounted side nowNs windowNs entry = true
    · simp [gone,counted]
    · simp [gone,counted]
theorem countEntryEq (nowNs windowNs : Nat) (buy sell : Int) (entry : Entry) :
    let lots side := if entry.removed = false ∧ isCounted side nowNs windowNs entry = true then
        entry.sizeLots
      else 0
    countEntry nowNs windowNs
      ⟨wrapI64 buy,wrapI64 sell⟩ entry = ⟨wrapI64 (buy + lots .buy),wrapI64 (sell + lots .sell)⟩ := by
  obtain ⟨fillId,seenNs,side,sizeLots,removed⟩ := entry
  simp only [countEntry,isCounted,addI64,wrapAdd]
  by_cases gone : removed = true
  · simp [gone]
  · by_cases later : nowNs < seenNs
    · simp [gone,later,Nat.not_le.mpr later]
    · by_cases old : windowNs < nowNs - seenNs
      · simp [gone,later,old,Nat.not_le.mpr old]
      · cases side <;> simp [gone,later,old,Nat.le_of_not_lt later,Nat.le_of_not_lt old]
theorem foldEntries {entries : List Entry} {nowNs windowNs : Nat} {buy sell : Int} :
    entries.foldl (countEntry nowNs windowNs) ⟨wrapI64 buy,wrapI64 sell⟩ =
      ⟨wrapI64 (buy + (ConfirmedTradeWindow.mk entries).lots .buy nowNs windowNs),
        wrapI64 (sell + (ConfirmedTradeWindow.mk entries).lots .sell nowNs windowNs)⟩ := by
  induction entries generalizing buy sell with
  | nil => simp [ConfirmedTradeWindow.lots,ConfirmedTradeWindow.live]
  | cons entry rest ih =>
    rw [List.foldl_cons,countEntryEq,ih,lotsCons,lotsCons]
    simp only [Int.add_assoc]
theorem totalsEq (window : ConfirmedTradeWindow) (nowNs windowNs : Nat) :
    window.totals nowNs windowNs =
      ⟨wrapI64 (window.lots .buy nowNs windowNs),wrapI64 (window.lots .sell nowNs windowNs)⟩ := by
  have fold := @foldEntries window.entries nowNs windowNs 0 0
  rw [wrapExact (by decide),Int.zero_add,Int.zero_add] at fold
  exact fold

theorem liveAdd (window : ConfirmedTradeWindow) (fillId : String) (seenNs : Nat)
    (side : AggressorSide) (lots : Int) :
    (window.add fillId seenNs side lots).live = window.live ++ [⟨fillId,seenNs,side,lots,false⟩] := by
  simp [ConfirmedTradeWindow.add,ConfirmedTradeWindow.live]
theorem liveMarkRemoved (window : ConfirmedTradeWindow) (fillId : String) :
    (window.markRemoved fillId).live = window.live.filter fun entry => decide (entry.fillId ≠ fillId) := by
  obtain ⟨entries⟩ := window
  simp only [ConfirmedTradeWindow.markRemoved,ConfirmedTradeWindow.live]
  induction entries with
  | nil => rfl
  | cons entry rest ih =>
    rw [List.map_cons,List.filter_cons,List.filter_cons,ih]
    by_cases gone : entry.removed = true
    · simp [gone]
    · by_cases same : entry.fillId = fillId
      · simp [gone,same]
      · simp [gone,same]

theorem storeState (writer : ChainStateWriter) (e : String) (state : ConfirmedTradeState) (nowNs : Nat)
    (entityId : String) :
    (writer.store e state nowNs).stateOf entityId =
      if entityId = e then publish state (writer.windowOf e) nowNs else writer.stateOf entityId := by
  by_cases same : entityId = e
  · subst same
    simp [ChainStateWriter.store,ChainStateWriter.refreshWindows,ChainStateWriter.stateOf,
      ChainStateWriter.windowOf]
  · simp [ChainStateWriter.store,ChainStateWriter.refreshWindows,ChainStateWriter.stateOf,same,
      AList.lookup_insert_ne same]
theorem storeWindow (writer : ChainStateWriter) (e : String) (state : ConfirmedTradeState) (nowNs : Nat)
    (entityId : String) :
    (writer.store e state nowNs).windowOf entityId = writer.windowOf entityId := by
  by_cases same : entityId = e
  · subst same
    simp [ChainStateWriter.store,ChainStateWriter.refreshWindows,ChainStateWriter.windowOf]
  · simp [ChainStateWriter.store,ChainStateWriter.refreshWindows,ChainStateWriter.windowOf,
      AList.lookup_insert_ne same]

end Polytope.ChainState
