import Polytope.Binary64
import Polytope.OrderedMap
import Mathlib.Data.Rat.Defs
import Mathlib.Algebra.Order.Ring.Rat
import Mathlib.Order.OrderDual

/-! One entity of the market state: its order book, flags and counters, and what each kind of
normalized event does to it. Prices and sizes are doubles; a level is addressed by the number its
price stands for, so the two zeros are one price. -/
namespace Polytope.EntityBooks
open Binary64
open OrderedMap (KeyedMap empty)

inductive NormalizedEventType where
  | unknown | snapshot | delta | statusChange | lifecycleEvent | tradeEvent | heartbeat | decodeError
  deriving DecidableEq, Repr
inductive NormalizedSide where | unknown | bid | ask
  deriving DecidableEq, Repr
structure BookLevel where
  price : Double
  size : Double
  deriving DecidableEq, Repr
structure PriceLevelChange where
  side : NormalizedSide := .unknown
  price : Double
  size : Double
  deriving DecidableEq, Repr
structure NormalizedEvent where
  packetId : UInt64 := 0
  recvMonotonicNs : UInt64 := 0
  eventType : NormalizedEventType := .unknown
  rawType : String := ""
  entityId : String := ""
  assetId : String := ""
  marketId : String := ""
  conditionId : String := ""
  bids : List BookLevel := []
  asks : List BookLevel := []
  changes : List PriceLevelChange := []
  bestBid : Option Double := none
  bestAsk : Option Double := none
  tickSize : Option Double := none
  winningAssetId : String := ""
  deriving DecidableEq, Repr

inductive EntityStatus where | uninitialized | live | recovering | inconsistent | stale | closed
  deriving DecidableEq, Repr
inductive StateApplyCode where
  | applied | ignoredHeartbeat | ignoredUnknown | ignoredTrade | missingEntityId | deltaBeforeSnapshot
  | closedEntityIgnored | unknownSide | invalidValue | noop
  deriving DecidableEq, Repr

def bidKey (price : Double) : ℚᵒᵈ := OrderDual.toDual (value price)
def askKey (price : Double) : ℚ := value price
structure OrderBookState where
  bids : KeyedMap bidKey Double := empty
  asks : KeyedMap askKey Double := empty
  bestBid : Option Double := none
  bestAsk : Option Double := none
  externalBestBid : Option Double := none
  externalBestAsk : Option Double := none
  tickSize : Option Double := none
  crossed : Bool := false
  externalBboDiverged : Bool := false
  resolved : Bool := false
  winningAssetId : String := ""
structure EntityState where
  entityId : String := ""
  marketId : String := ""
  status : EntityStatus := .uninitialized
  initialized : Bool := false
  recovering : Bool := false
  inconsistent : Bool := false
  closed : Bool := false
  snapshotCount : UInt64 := 0
  deltaCount : UInt64 := 0
  statusChangeCount : UInt64 := 0
  lifecycleCount : UInt64 := 0
  ignoredCount : UInt64 := 0
  errorCount : UInt64 := 0
  firstPacketId : UInt64 := 0
  lastPacketId : UInt64 := 0
  lastSnapshotPacketId : UInt64 := 0
  lastUpdateMonotonicNs : UInt64 := 0
  book : OrderBookState := {}

def kBboEpsilon : Double := ⟨0x3d719799812dea11⟩
def validPrice (price : Double) : Bool := isFinite price && decide (0 ≤ value price) && decide (value price ≤ 1)
def validSize (size : Double) : Bool := isFinite size && decide (0 ≤ value size)
def validTickSize (tickSize : Double) : Bool := isFinite tickSize && decide (0 < value tickSize)
def almostEqual (a b : Double) : Bool := decide (|roundNearest (value a - value b)| ≤ value kBboEpsilon)

def resolveEntityId (event : NormalizedEvent) : String :=
  if event.entityId ≠ "" then event.entityId
  else if event.assetId ≠ "" then event.assetId
  else if event.conditionId ≠ "" then event.conditionId
  else event.marketId
def updateBestBidAsk (book : OrderBookState) : OrderBookState :=
  {book with
    bestBid := book.bids.first
    bestAsk := book.asks.first
    crossed :=
      match book.bids.first,book.asks.first with
      | some bid,some ask => decide (value ask < value bid)
      | _,_ => false}
def markEntityPacket (entity : EntityState) (event : NormalizedEvent) : EntityState :=
  {entity with
    marketId := if event.marketId ≠ "" then event.marketId else entity.marketId
    firstPacketId := if entity.firstPacketId = 0 then event.packetId else entity.firstPacketId
    lastPacketId := event.packetId
    lastUpdateMonotonicNs := event.recvMonotonicNs}
def ignore (entity : EntityState) : EntityState := {entity with ignoredCount := entity.ignoredCount + 1}
def countError (entity : EntityState) (seen : Bool) : EntityState :=
  if seen = true then {entity with errorCount := entity.errorCount + 1} else entity

/-! Snapshots. -/

section
variable {κ : Type} [LinearOrder κ] {key : Double → κ}

def loadLevel (acc : KeyedMap key Double × Bool) (level : BookLevel) : KeyedMap key Double × Bool :=
  if validPrice level.price = false ∨ validSize level.size = false then (acc.1,true)
  else if 0 < value level.size then (acc.1.assign level.price level.size,acc.2)
  else acc
def loadLevels (key : Double → κ) (levels : List BookLevel) : KeyedMap key Double × Bool :=
  levels.foldl loadLevel (empty,false)
def applyLevel (side : KeyedMap key Double) (price size : Double) : KeyedMap key Double :=
  if value size = 0 then side.erase price else side.assign price size
end

def badTick (event : NormalizedEvent) : Bool :=
  match event.tickSize with
  | none => false
  | some tick => !validTickSize tick
def takeTick (book : OrderBookState) (event : NormalizedEvent) : OrderBookState :=
  match event.tickSize with
  | none => book
  | some tick => if validTickSize tick = true then {book with tickSize := some tick} else book
def snapshotBook (book : OrderBookState) (event : NormalizedEvent) : OrderBookState :=
  updateBestBidAsk (takeTick
    {book with bids := (loadLevels bidKey event.bids).1, asks := (loadLevels askKey event.asks).1} event)
def snapshotInvalid (event : NormalizedEvent) : Bool :=
  (loadLevels bidKey event.bids).2 || (loadLevels askKey event.asks).2 || badTick event
def liveStatus (book : OrderBookState) : EntityStatus := if book.crossed = true then .inconsistent else .live
def snapshotEntity (entity : EntityState) (event : NormalizedEvent) : EntityState :=
  let book := snapshotBook entity.book event
  countError
    (markEntityPacket
      {entity with
        book
        initialized := true
        recovering := false
        closed := false
        status := liveStatus book
        inconsistent := book.crossed || snapshotInvalid event
        snapshotCount := entity.snapshotCount + 1
        lastSnapshotPacketId := event.packetId} event)
    (snapshotInvalid event)

/-! Deltas. -/

def recoverEntity (entity : EntityState) (event : NormalizedEvent) : EntityState :=
  markEntityPacket
    {entity with status := .recovering, recovering := true, errorCount := entity.errorCount + 1} event

structure DeltaWalk where
  book : OrderBookState
  changed : Bool := false
  badSideSeen : Bool := false
  invalidValueSeen : Bool := false
def deltaChange (walk : DeltaWalk) (change : PriceLevelChange) : DeltaWalk :=
  if validPrice change.price = false ∨ validSize change.size = false then {walk with invalidValueSeen := true}
  else
    match change.side with
    | .bid =>
      { walk with
        book := {walk.book with bids := applyLevel walk.book.bids change.price change.size}
        changed := true }
    | .ask =>
      { walk with
        book := {walk.book with asks := applyLevel walk.book.asks change.price change.size}
        changed := true }
    | .unknown => {walk with badSideSeen := true}
def deltaWalk (entity : EntityState) (event : NormalizedEvent) : DeltaWalk :=
  event.changes.foldl deltaChange ⟨entity.book,false,false,false⟩
def deltaEntity (entity : EntityState) (event : NormalizedEvent) : EntityState :=
  let walk := deltaWalk entity event
  let updated :=
    if walk.changed = true then
      let book := updateBestBidAsk walk.book
      markEntityPacket
        {entity with
          book
          deltaCount := entity.deltaCount + 1
          status := liveStatus book
          inconsistent := book.crossed
          recovering := false} event
    else {entity with book := walk.book}
  if walk.badSideSeen = true ∨ walk.invalidValueSeen = true then countError updated true
  else if walk.changed = true then updated
  else ignore updated

/-! Status changes. -/

def isPrice (price : Option Double) : Bool := price.any validPrice
def badPrice (price : Option Double) : Bool := price.any fun p => !validPrice p
def statusChanged (event : NormalizedEvent) : Bool :=
  event.tickSize.any validTickSize || isPrice event.bestBid || isPrice event.bestAsk
def statusInvalid (event : NormalizedEvent) : Bool :=
  badTick event || badPrice event.bestBid || badPrice event.bestAsk
def diverged (external own : Option Double) : Bool :=
  match external,own with
  | some a,some b => !almostEqual a b
  | _,_ => false
def statusBook (entity : EntityState) (event : NormalizedEvent) : OrderBookState :=
  let book := takeTick entity.book event
  let bid := if isPrice event.bestBid = true then event.bestBid else book.externalBestBid
  let ask := if isPrice event.bestAsk = true then event.bestAsk else book.externalBestAsk
  {book with
    externalBestBid := bid
    externalBestAsk := ask
    externalBboDiverged := entity.initialized && (diverged bid book.bestBid || diverged ask book.bestAsk)}
def statusEntity (entity : EntityState) (event : NormalizedEvent) : EntityState :=
  let updated := {entity with book := statusBook entity event, statusChangeCount := entity.statusChangeCount + 1}
  let updated := if entity.initialized = true then updated
    else {updated with status := .recovering, recovering := true}
  countError (markEntityPacket updated event) (statusInvalid event)

/-! Lifecycle events, which reach closed entities too. -/

def closeEntity (entity : EntityState) : EntityState :=
  {entity with closed := true, status := .closed, recovering := false}
def lifecycleEntity (entity : EntityState) (event : NormalizedEvent) : EntityState :=
  let updated :=
    if event.rawType = "market_resolved" then
      {closeEntity entity with book := {entity.book with resolved := true, winningAssetId := event.winningAssetId}}
    else if event.rawType = "market_closed" then closeEntity entity
    else entity
  markEntityPacket {updated with lifecycleCount := entity.lifecycleCount + 1} event
def ignoreEntity (entity : EntityState) (event : NormalizedEvent) : EntityState :=
  markEntityPacket (ignore entity) event

/-! The representation invariant. -/

def InRange (price : Double) : Prop := 0 ≤ value price ∧ value price ≤ 1
def Positive (size : Double) : Prop := 0 < value size
structure BookInvariant (entity : EntityState) : Prop where
  bidLevels : ∀ level ∈ entity.book.bids.entries, InRange level.1 ∧ Positive level.2
  askLevels : ∀ level ∈ entity.book.asks.entries, InRange level.1 ∧ Positive level.2
  noBid : entity.book.bestBid = none ↔ entity.book.bids.entries = []
  bestBid : ∀ bid ∈ entity.book.bestBid, bid ∈ entity.book.bids.entries.map Prod.fst ∧
    ∀ level ∈ entity.book.bids.entries, value level.1 ≤ value bid
  noAsk : entity.book.bestAsk = none ↔ entity.book.asks.entries = []
  bestAsk : ∀ ask ∈ entity.book.bestAsk, ask ∈ entity.book.asks.entries.map Prod.fst ∧
    ∀ level ∈ entity.book.asks.entries, value ask ≤ value level.1
  crossed : entity.book.crossed = true ↔
    ∃ bid ∈ entity.book.bestBid, ∃ ask ∈ entity.book.bestAsk, value ask < value bid
  live : entity.status = .live → entity.initialized = true ∧ entity.closed = false ∧ entity.book.crossed = false

structure Levels (book : OrderBookState) : Prop where
  bids : book.bids.All fun price size => InRange price ∧ Positive size
  asks : book.asks.All fun price size => InRange price ∧ Positive size
structure Sound (entity : EntityState) : Prop where
  levels : Levels entity.book
  settled : updateBestBidAsk entity.book = entity.book
  live : entity.status = .live → entity.initialized = true ∧ entity.book.crossed = false
  closed : entity.closed = true → entity.status = .closed

theorem soundInvariant {entity : EntityState} (sound : Sound entity) : BookInvariant entity := by
  have bid : entity.book.bestBid = entity.book.bids.first := by rw [← sound.settled]; rfl
  have ask : entity.book.bestAsk = entity.book.asks.first := by rw [← sound.settled]; rfl
  have crossed := congrArg OrderBookState.crossed sound.settled
  refine ⟨sound.levels.bids,sound.levels.asks,?_,?_,?_,?_,?_,?_⟩
  · rw [bid]
    exact OrderedMap.firstNone
  · intro best mem
    rw [bid] at mem
    exact OrderedMap.firstSome mem
  · rw [ask]
    exact OrderedMap.firstNone
  · intro best mem
    rw [ask] at mem
    exact OrderedMap.firstSome mem
  · rw [← crossed,bid,ask]
    unfold updateBestBidAsk
    cases entity.book.bids.first <;> cases entity.book.asks.first <;> simp
  · intro live
    obtain ⟨initialized,uncrossed⟩ := sound.live live
    refine ⟨initialized,?_,uncrossed⟩
    by_contra closed
    have status := sound.closed (by simpa using closed)
    rw [live] at status
    cases status

theorem freshSound (entityId : String) : Sound {entityId} where
  levels := ⟨OrderedMap.emptyAll _,OrderedMap.emptyAll _⟩
  settled := rfl
  live := fun live => (nomatch live)
  closed := fun closed => (nomatch closed)

/-! Each kind of event keeps it. -/

theorem validInRange {price : Double} (valid : validPrice price ≠ false) : InRange price := by
  have both : isFinite price = true ∧ 0 ≤ value price ∧ value price ≤ 1 := by
    simpa [validPrice,and_assoc] using valid
  exact both.2
theorem validNonneg {size : Double} (valid : validSize size ≠ false) : 0 ≤ value size := by
  have both : isFinite size = true ∧ 0 ≤ value size := by simpa [validSize] using valid
  exact both.2

section
variable {κ : Type} [LinearOrder κ] {key : Double → κ}

theorem loadLevelsAll (levels : List BookLevel) :
    (loadLevels key levels).1.All fun price size => InRange price ∧ Positive size := by
  have walk : ∀ acc : KeyedMap key Double × Bool, (acc.1.All fun price size => InRange price ∧ Positive size) →
      ((levels.foldl loadLevel acc).1.All fun price size => InRange price ∧ Positive size) := by
    induction levels with
    | nil => exact fun _ all => all
    | cons level rest ih =>
      intro acc all
      refine ih (loadLevel acc level) ?_
      unfold loadLevel
      split
      · exact all
      · next valid =>
        split
        · next positive => exact OrderedMap.assignAll all (validInRange (not_or.mp valid).1) positive
        · exact all
  exact walk (empty,false) (OrderedMap.emptyAll _)
theorem applyLevelAll {side : KeyedMap key Double} {price size : Double}
    (all : side.All fun price size => InRange price ∧ Positive size)
    (inRange : InRange price) (nonneg : 0 ≤ value size) :
    (applyLevel side price size).All fun price size => InRange price ∧ Positive size := by
  unfold applyLevel
  split
  · exact OrderedMap.eraseAll all
  · next nonzero => exact OrderedMap.assignAll all inRange (lt_of_le_of_ne nonneg (Ne.symm nonzero))
end

theorem takeTickEq (book : OrderBookState) (event : NormalizedEvent) :
    ∃ tick, takeTick book event = {book with tickSize := tick} := by
  unfold takeTick
  split
  · exact ⟨_,rfl⟩
  · split <;> exact ⟨_,rfl⟩
theorem liveStatusLive {book : OrderBookState} (live : liveStatus book = .live) : book.crossed = false := by
  unfold liveStatus at live
  split at live
  · cases live
  · next uncrossed => exact Bool.eq_false_iff.mpr uncrossed

theorem packetSound {entity : EntityState} {event : NormalizedEvent} (sound : Sound entity) :
    Sound (markEntityPacket entity event) :=
  ⟨sound.levels,sound.settled,sound.live,sound.closed⟩
theorem ignoreSound {entity : EntityState} (sound : Sound entity) : Sound (ignore entity) :=
  ⟨sound.levels,sound.settled,sound.live,sound.closed⟩
theorem countErrorSound {entity : EntityState} {seen : Bool} (sound : Sound entity) :
    Sound (countError entity seen) := by
  unfold countError
  split
  · exact ⟨sound.levels,sound.settled,sound.live,sound.closed⟩
  · exact sound

theorem snapshotSound (entity : EntityState) (event : NormalizedEvent) : Sound (snapshotEntity entity event) := by
  refine countErrorSound (packetSound
    ⟨?_,rfl,fun live => ⟨rfl,liveStatusLive live⟩,fun closed => (nomatch closed)⟩)
  obtain ⟨tick,same⟩ :=
    takeTickEq
      {entity.book with bids := (loadLevels bidKey event.bids).1, asks := (loadLevels askKey event.asks).1} event
  unfold snapshotBook
  rw [same]
  exact ⟨loadLevelsAll event.bids,loadLevelsAll event.asks⟩
theorem deltaChangeLevels {walk : DeltaWalk} {change : PriceLevelChange} (levels : Levels walk.book) :
    Levels (deltaChange walk change).book := by
  unfold deltaChange
  split
  · exact levels
  · next valid =>
    have inRange := validInRange (not_or.mp valid).1
    have nonneg := validNonneg (not_or.mp valid).2
    split
    · exact ⟨applyLevelAll levels.bids inRange nonneg,levels.asks⟩
    · exact ⟨levels.bids,applyLevelAll levels.asks inRange nonneg⟩
    · exact levels
-- An unchanged walk has not touched the book, so the best prices are still those of its levels.
theorem deltaWalkLevels {entity : EntityState} (levels : Levels entity.book) (event : NormalizedEvent) :
    Levels (deltaWalk entity event).book := by
  have walk : ∀ (changes : List PriceLevelChange) (start : DeltaWalk), Levels start.book →
    Levels (changes.foldl deltaChange start).book := by
    intro changes
    induction changes with
    | nil => exact fun _ kept => kept
    | cons change rest ih => exact fun start kept => ih (deltaChange start change) (deltaChangeLevels kept)
  exact walk event.changes _ levels
theorem deltaWalkKept (entity : EntityState) (event : NormalizedEvent)
    (unchanged : (deltaWalk entity event).changed = false) :
    (deltaWalk entity event).book = entity.book := by
  have walk : ∀ (changes : List PriceLevelChange) (start : DeltaWalk),
    (start.changed = false → start.book = entity.book) →
      (changes.foldl deltaChange start).changed = false →
      (changes.foldl deltaChange start).book = entity.book := by
    intro changes
    induction changes with
    | nil => exact fun _ same => same
    | cons change rest ih =>
      intro start same
      refine ih (deltaChange start change) ?_
      unfold deltaChange
      split
      · exact same
      · split
        · exact fun unchanged => (nomatch unchanged)
        · exact fun unchanged => (nomatch unchanged)
        · exact same
  exact walk event.changes _ (fun _ => rfl) unchanged
theorem deltaSound {entity : EntityState} {event : NormalizedEvent} (sound : Sound entity)
    (initialized : entity.initialized = true)
    (opened : entity.closed = false) : Sound (deltaEntity entity event) := by
  have levels := deltaWalkLevels sound.levels event
  have updated : Sound
      (if (deltaWalk entity event).changed = true then
        markEntityPacket
          {entity with
            book := updateBestBidAsk (deltaWalk entity event).book
            deltaCount := entity.deltaCount + 1
            status := liveStatus (updateBestBidAsk (deltaWalk entity event).book)
            inconsistent := (updateBestBidAsk (deltaWalk entity event).book).crossed
            recovering := false} event
      else {entity with book := (deltaWalk entity event).book}) := by
    split
    · refine packetSound ⟨⟨levels.bids,levels.asks⟩,rfl,fun live =>
        ⟨initialized,liveStatusLive live⟩,fun closed => ?_⟩
      rw [opened] at closed
      cases closed
    · next unchanged =>
      rw [deltaWalkKept entity event (Bool.eq_false_iff.mpr unchanged)]
      exact sound
  unfold deltaEntity
  simp only
  split
  · exact countErrorSound updated
  · split
    · next changed =>
      rw [if_pos changed] at updated
      exact updated
    · next unchanged =>
      rw [if_neg unchanged] at updated
      exact ignoreSound updated
theorem recoverSound {entity : EntityState} {event : NormalizedEvent} (sound : Sound entity)
    (opened : entity.closed = false) :
    Sound (recoverEntity entity event) := by
  refine packetSound ⟨sound.levels,sound.settled,fun live => (nomatch live),fun closed => ?_⟩
  rw [opened] at closed
  cases closed
theorem statusSound {entity : EntityState} {event : NormalizedEvent} (sound : Sound entity)
    (opened : entity.closed = false) :
    Sound (statusEntity entity event) := by
  obtain ⟨tick,same⟩ := takeTickEq entity.book event
  have book : ∃ bid ask diverged, statusBook entity event =
      { entity.book with
        tickSize := tick
        externalBestBid := bid
        externalBestAsk := ask
        externalBboDiverged := diverged } := by
    unfold statusBook
    rw [same]
    exact ⟨_,_,_,rfl⟩
  obtain ⟨bid,ask,diverged,book⟩ := book
  have settled := congrArg (fun b : OrderBookState =>
    {b with tickSize := tick, externalBestBid := bid, externalBestAsk := ask, externalBboDiverged := diverged})
      sound.settled
  unfold statusEntity
  simp only [book]
  refine countErrorSound (packetSound ?_)
  split
  · exact ⟨⟨sound.levels.bids,sound.levels.asks⟩,settled,sound.live,sound.closed⟩
  · refine ⟨⟨sound.levels.bids,sound.levels.asks⟩,settled,fun live => (nomatch live),fun closed => ?_⟩
    rw [opened] at closed
    cases closed
theorem lifecycleSound {entity : EntityState} {event : NormalizedEvent} (sound : Sound entity) :
    Sound (lifecycleEntity entity event) := by
  unfold lifecycleEntity
  simp only
  refine packetSound ?_
  split
  · refine ⟨⟨sound.levels.bids,sound.levels.asks⟩,?_,fun live => (nomatch live),fun _ => rfl⟩
    exact congrArg (fun b : OrderBookState =>
      {b with resolved := true, winningAssetId := event.winningAssetId}) sound.settled
  · split
    · exact ⟨sound.levels,sound.settled,fun live => (nomatch live),fun _ => rfl⟩
    · exact ⟨sound.levels,sound.settled,sound.live,sound.closed⟩

/-! A closed entity keeps its levels and best prices. -/

structure Frozen (before after : EntityState) : Prop where
  closed : after.closed = true
  bids : after.book.bids = before.book.bids
  asks : after.book.asks = before.book.asks
  bestBid : after.book.bestBid = before.book.bestBid
  bestAsk : after.book.bestAsk = before.book.bestAsk

theorem lifecycleFrozen {entity : EntityState} (closed : entity.closed = true) (event : NormalizedEvent) :
    Frozen entity (lifecycleEntity entity event) := by
  unfold lifecycleEntity
  simp only
  split
  · exact ⟨rfl,rfl,rfl,rfl,rfl⟩
  · split
    · exact ⟨rfl,rfl,rfl,rfl,rfl⟩
    · exact ⟨closed,rfl,rfl,rfl,rfl⟩
theorem ignoreFrozen {entity : EntityState} (closed : entity.closed = true) : Frozen entity (ignore entity) :=
  ⟨closed,rfl,rfl,rfl,rfl⟩
theorem ignoreEntityFrozen {entity : EntityState} (closed : entity.closed = true) (event : NormalizedEvent) :
    Frozen entity (ignoreEntity entity event) := ⟨closed,rfl,rfl,rfl,rfl⟩
theorem frozenTrans {a b c : EntityState} (first : Frozen a b) (second : Frozen b c) : Frozen a c :=
  ⟨second.closed,second.bids.trans first.bids,second.asks.trans first.asks,second.bestBid.trans first.bestBid,
    second.bestAsk.trans first.bestAsk⟩

end Polytope.EntityBooks
