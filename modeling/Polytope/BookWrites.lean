import Polytope.EntityStore
import Polytope.LastWrite
import Mathlib.Data.List.Induction

/-! The levels of a book as the last writes to their prices. A snapshot starts over with its valid levels of positive
size, a delta adds its valid changes; how the changes are cut into deltas makes no difference. -/
namespace Polytope.BookWrites
open Binary64
open OrderedMap (KeyedMap empty)
open EntityBooks EntityStore
open LastWrite (lastWrite write writeAll Holds)

abbrev Writes := List (Double × Double)
def Gone (size : Double) : Prop := value size = 0
instance : DecidablePred Gone := fun size => inferInstanceAs (Decidable (value size = 0))

def validLevels (levels : List BookLevel) : Writes :=
  (levels.filter fun level => validPrice level.price && validSize level.size).map fun level =>
  (level.price,level.size)
-- A level without size is passed over, also where an earlier level has its price.
def snapshotWrites (levels : List BookLevel) : Writes :=
  (validLevels levels).filter fun w => decide (0 < value w.2)
def deltaWrites (side : NormalizedSide) (changes : List PriceLevelChange) : Writes :=
  (changes.filter fun change =>
    validPrice change.price && validSize change.size && decide (change.side = side)).map fun change =>
    (change.price,change.size)

def levelsOf (event : NormalizedEvent) : NormalizedSide → List BookLevel
  | .bid => event.bids
  | .ask => event.asks
  | .unknown => []
def record (own : List BookLevel → Writes) (side : NormalizedSide) (entityId : String) (writes : Option Writes)
    (event : NormalizedEvent) :
    Option Writes :=
  if entityOf event ≠ "" ∧ entityOf event = entityId then
    match event.eventType with
    | .snapshot => some (own (levelsOf event side))
    | .delta => writes.map fun writes => writes ++ deltaWrites side event.changes
    | _ => writes
  else writes
-- The writes to a side since the last snapshot, nothing before the first one.
def writesBy (own : List BookLevel → Writes) (side : NormalizedSide) (entityId : String)
    (events : List NormalizedEvent) : Writes :=
  (events.foldl (record own side entityId) none).getD []

def LastWritten {κ : Type} [LinearOrder κ] {key : Double → κ} (side : KeyedMap key Double)
    (writes : Writes) : Prop :=
  ∀ price size, side.find price = some size ↔ 0 < value size ∧ lastWrite value writes price = some size
def Deltas (entityId : String) (events : List NormalizedEvent) : Prop :=
  ∀ event ∈ events, event.eventType = .delta ∧ entityOf event = entityId
def changesOf (events : List NormalizedEvent) : List PriceLevelChange := events.flatMap NormalizedEvent.changes
def bookOf (store : EntityStateStore) (entityId : String) : OrderBookState := (store.getOrCreate entityId).book

/-! Snapshots and deltas as writes. -/

section
variable {κ : Type} [LinearOrder κ] {key : Double → κ}

theorem loadWrites (levels : List BookLevel) :
    (loadLevels key levels).1 = writeAll Gone empty (snapshotWrites levels) := by
  have walk : ∀ acc : KeyedMap key Double × Bool,
      (levels.foldl loadLevel acc).1 = writeAll Gone acc.1 (snapshotWrites levels) := by
    induction levels with
    | nil => exact fun _ => rfl
    | cons level rest ih =>
      intro acc
      rw [List.foldl_cons,ih]
      unfold loadLevel snapshotWrites validLevels
      by_cases valid : validPrice level.price = true ∧ validSize level.size = true
      · have whole : ¬ (validPrice level.price = false ∨ validSize level.size = false) := by simp [valid]
        rw [if_neg whole]
        by_cases positive : 0 < value level.size
        · have kept : ¬ Gone level.size := ne_of_gt positive
          simp [valid,positive,writeAll,write,kept]
        · simp [valid,positive]
      · have broken : validPrice level.price = false ∨ validSize level.size = false := by
          by_contra whole
          rw [not_or,Bool.not_eq_false,Bool.not_eq_false] at whole
          exact valid whole
        have dropped : (validPrice level.price && validSize level.size) = false := by
          rcases broken with price | size
          · rw [price,Bool.false_and]
          · rw [size,Bool.and_false]
        rw [if_pos broken,List.filter_cons,dropped]
        rfl
  exact walk (empty,false)

def Nonneg (writes : Writes) : Prop := ∀ w ∈ writes, 0 ≤ value w.2
theorem snapshotNonneg (levels : List BookLevel) : Nonneg (snapshotWrites levels) := by
  intro w mem
  have positive : 0 < value w.2 := by simpa using (List.mem_filter.mp mem).2
  exact positive.le
theorem deltaNonneg (side : NormalizedSide) (changes : List PriceLevelChange) :
    Nonneg (deltaWrites side changes) := by
  intro w mem
  obtain ⟨change,inside,rfl⟩ := List.mem_map.mp mem
  have valid := (List.mem_filter.mp inside).2
  simp only [Bool.and_eq_true] at valid
  exact validNonneg (by rw [valid.1.2]; simp)
theorem lastWritten {side : KeyedMap key Double} {writes : Writes}
    (same : ∀ a b, key a = key b ↔ value a = value b)
    (holds : Holds Gone side writes) (nonneg : Nonneg writes) : LastWritten side writes := by
  intro price size
  rw [holds price size,LastWrite.lastWriteCongr same]
  refine and_congr_left fun last => ?_
  obtain ⟨w,mem,-,rfl⟩ := LastWrite.lastWriteMem last
  exact ⟨fun kept => lt_of_le_of_ne (nonneg w mem) (Ne.symm kept),ne_of_gt⟩
end

theorem deltaWritesCons (side : NormalizedSide) (change : PriceLevelChange) (rest : List PriceLevelChange) :
    deltaWrites side (change::rest) =
      if validPrice change.price = true ∧ validSize change.size = true ∧ change.side = side then
        (change.price,change.size)::deltaWrites side rest
      else deltaWrites side rest := by
  unfold deltaWrites
  rw [List.filter_cons]
  by_cases counted : validPrice change.price = true ∧ validSize change.size = true ∧ change.side = side
  · simp [counted]
  · have dropped : (validPrice change.price && validSize change.size && decide (change.side = side)) = false := by
      simpa [and_assoc] using counted
    rw [if_neg counted,dropped]
    rfl
theorem deltaWritesAppend (side : NormalizedSide) (changes more : List PriceLevelChange) :
    deltaWrites side (changes ++ more) = deltaWrites side changes ++ deltaWrites side more := by
  simp [deltaWrites]

def writeChanges (book : OrderBookState) (changes : List PriceLevelChange) : OrderBookState :=
  {book with
    bids := writeAll Gone book.bids (deltaWrites .bid changes)
    asks := writeAll Gone book.asks (deltaWrites .ask changes)}
theorem walkWrites (walk : DeltaWalk) (changes : List PriceLevelChange) :
    (changes.foldl deltaChange walk).book = writeChanges walk.book changes := by
  induction changes generalizing walk with
  | nil => rfl
  | cons change rest ih =>
    rw [List.foldl_cons,ih]
    unfold deltaChange writeChanges
    rw [deltaWritesCons,deltaWritesCons]
    by_cases broken : validPrice change.price = false ∨ validSize change.size = false
    · have uncounted : ∀ side,
        ¬ (validPrice change.price = true ∧ validSize change.size = true ∧ change.side = side) := by
        rintro side ⟨price,size,-⟩
        simp [price,size] at broken
      simp only [if_pos broken,if_neg (uncounted _)]
    · have valid := broken
      rw [not_or,Bool.not_eq_false,Bool.not_eq_false] at valid
      rw [if_neg broken]
      cases side : change.side with
      | bid =>
        simp only [valid,true_and,if_true,reduceCtorEq,if_false]
        rfl
      | ask =>
        simp only [valid,true_and,if_true,reduceCtorEq,if_false]
        rfl
      | unknown => simp only [valid,true_and,reduceCtorEq,if_false]

/-! One event. -/

theorem deltaKeeps (entity : EntityState) (event : NormalizedEvent) :
    (deltaEntity entity event).book =
        (if (deltaWalk entity event).changed = true then updateBestBidAsk (deltaWalk entity event).book
          else (deltaWalk entity event).book) ∧
      (deltaEntity entity event).initialized = entity.initialized ∧
      (deltaEntity entity event).closed = entity.closed := by
  unfold deltaEntity countError
  by_cases changed : (deltaWalk entity event).changed = true
  · simp only [changed,if_true]
    split <;> exact ⟨rfl,rfl,rfl⟩
  · simp only [changed]
    split <;> exact ⟨rfl,rfl,rfl⟩
-- The best prices follow the levels whether or not the delta had a valid change.
theorem deltaBook {entity : EntityState} (settled : updateBestBidAsk entity.book = entity.book)
    (event : NormalizedEvent) :
    (deltaEntity entity event).book = updateBestBidAsk (writeChanges entity.book event.changes) := by
  have walked : (deltaWalk entity event).book = writeChanges entity.book event.changes := walkWrites _ _
  rw [(deltaKeeps entity event).1,← walked]
  split
  · rfl
  · next unchanged => rw [deltaWalkKept entity event (Bool.eq_false_iff.mpr unchanged),settled]
theorem writeChangesAppend (book : OrderBookState) (changes more : List PriceLevelChange) :
    updateBestBidAsk (writeChanges (updateBestBidAsk (writeChanges book changes)) more) =
      updateBestBidAsk (writeChanges book (changes ++ more)) := by
  unfold writeChanges
  rw [deltaWritesAppend,deltaWritesAppend,LastWrite.writeAllAppend,LastWrite.writeAllAppend]
  rfl

structure Contents {κ : Type} [LinearOrder κ] {key : Double → κ} (initialized : Bool)
    (side : KeyedMap key Double) (writes : Option Writes) :
    Prop where
  initialized : initialized = writes.isSome
  holds : Holds Gone side (writes.getD [])
  nonneg : Nonneg (writes.getD [])
structure Recorded (entity : EntityState) (bids asks : Option Writes) : Prop where
  bids : Contents entity.initialized entity.book.bids bids
  asks : Contents entity.initialized entity.book.asks asks

section
variable {κ : Type} [LinearOrder κ] {key : Double → κ}

theorem loadContents (levels : List BookLevel) :
    Contents true (loadLevels key levels).1 (some (snapshotWrites levels)) where
  initialized := rfl
  holds := by
    rw [loadWrites]
    exact LastWrite.writeAllHolds LastWrite.emptyHolds _
  nonneg := snapshotNonneg levels
theorem deltaContents {side : KeyedMap key Double} {writes : Option Writes}
    (contents : Contents true side writes) (which : NormalizedSide)
    (changes : List PriceLevelChange) :
    Contents true (writeAll Gone side (deltaWrites which changes))
      (writes.map fun writes => writes ++ deltaWrites which changes) := by
  cases writes with
  | none => cases contents.initialized
  | some writes =>
    refine ⟨rfl,LastWrite.writeAllHolds contents.holds _,fun w mem => ?_⟩
    rcases List.mem_append.mp mem with old | new
    · exact contents.nonneg w old
    · exact deltaNonneg which changes w new
end

section
variable {entity : EntityState} {event : NormalizedEvent}

theorem snapshotNext (kind : event.eventType = .snapshot) (opened : entity.closed = false) :
    nextEntity entity event = snapshotEntity entity event := by
  rw [nextEntity,kind]
  exact if_neg (by simp [opened])
theorem deltaNext (kind : event.eventType = .delta) (opened : entity.closed = false) :
    nextEntity entity event = if entity.initialized = false then recoverEntity entity event
      else deltaEntity entity event := by
  rw [nextEntity,kind]
  exact if_neg (by simp [opened])
theorem statusNext (kind : event.eventType = .statusChange) (opened : entity.closed = false) :
    nextEntity entity event = statusEntity entity event := by
  rw [nextEntity,kind]
  exact if_neg (by simp [opened])
theorem snapshotBooked : (snapshotEntity entity event).book = snapshotBook entity.book event ∧
    (snapshotEntity entity event).initialized = true := by
  unfold snapshotEntity countError
  split <;> exact ⟨rfl,rfl⟩
end

theorem nextOpened {entity : EntityState} {event : NormalizedEvent}
    (opened : (nextEntity entity event).closed = false) :
    entity.closed = false := by
  by_contra closed
  have frozen := nextFrozen (Bool.eq_true_of_not_eq_false closed) event
  rw [frozen.closed] at opened
  cases opened
-- Every other event leaves levels and the initialized flag as they are.
theorem otherKept {entity : EntityState} (event : NormalizedEvent) (opened : entity.closed = false)
    (notSnapshot : event.eventType ≠ .snapshot)
    (notDelta : event.eventType ≠ .delta) : (nextEntity entity event).initialized = entity.initialized ∧
      (nextEntity entity event).book.bids = entity.book.bids ∧
      (nextEntity entity event).book.asks = entity.book.asks := by
  unfold nextEntity
  split
  · contradiction
  · contradiction
  · rw [if_neg (by simp [opened])]
    obtain ⟨tick,same⟩ := takeTickEq entity.book event
    unfold statusEntity statusBook countError
    simp only [same]
    split <;> split <;> exact ⟨rfl,rfl,rfl⟩
  · unfold lifecycleEntity
    simp only
    split
    · exact ⟨rfl,rfl,rfl⟩
    · split <;> exact ⟨rfl,rfl,rfl⟩
  · exact ⟨rfl,rfl,rfl⟩
theorem nextRecorded {entity : EntityState} {event : NormalizedEvent} {bids asks : Option Writes}
    {entityId : String}
    (sound : Sound entity) (recorded : Recorded entity bids asks)
    (opened : (nextEntity entity event).closed = false)
    (own : entityOf event ≠ "" ∧ entityOf event = entityId) :
    Recorded (nextEntity entity event) (record snapshotWrites .bid entityId bids event)
      (record snapshotWrites .ask entityId asks event) := by
  have before := nextOpened opened
  unfold record
  rw [if_pos own,if_pos own]
  cases kind : event.eventType with
  | snapshot =>
    obtain ⟨tick,same⟩ :=
      takeTickEq
        {entity.book with bids := (loadLevels bidKey event.bids).1, asks := (loadLevels askKey event.asks).1} event
    obtain ⟨book,initialized⟩ := @snapshotBooked entity event
    rw [snapshotNext kind before]
    constructor
    · rw [initialized,book,snapshotBook,same]
      exact loadContents event.bids
    · rw [initialized,book,snapshotBook,same]
      exact loadContents event.asks
  | delta =>
    obtain ⟨first,second⟩ := recorded
    rw [deltaNext kind before]
    split
    · next blank =>
      have noBids := first.initialized
      have noAsks := second.initialized
      rw [blank] at noBids noAsks
      obtain rfl : bids = none := by simpa using noBids.symm
      obtain rfl : asks = none := by simpa using noAsks.symm
      exact ⟨first,second⟩
    · next seen =>
      have initialized := Bool.eq_true_of_not_eq_false seen
      obtain ⟨-,kept,-⟩ := deltaKeeps entity event
      rw [initialized] at first second
      constructor
      · rw [kept,initialized,deltaBook sound.settled]
        exact deltaContents first .bid event.changes
      · rw [kept,initialized,deltaBook sound.settled]
        exact deltaContents second .ask event.changes
  | _ =>
    obtain ⟨initialized,bidLevels,askLevels⟩ := otherKept event before (by simp [kind]) (by simp [kind])
    constructor
    · rw [initialized,bidLevels]
      exact recorded.bids
    · rw [initialized,askLevels]
      exact recorded.asks

/-! Runs. -/

theorem applyOwn (store : EntityStateStore) (event : NormalizedEvent) (entityId : String) :
    (apply store event).1.getOrCreate entityId =
      if entityOf event ≠ "" ∧ entityOf event = entityId then nextEntity (store.getOrCreate entityId) event
      else store.getOrCreate entityId := by
  rw [EntityStateStore.getOrCreate,applyGet]
  split <;> rfl
theorem afterSound (hashMode : StateHashMode) (events : List NormalizedEvent) :
    AllSound (after {hashMode} events) :=
  Machine.invariant (P := fun store _ => AllSound store) (fun _ _ event sound => applySound sound event) events
    fun _ _ found => (nomatch found)
theorem afterAppend (store : EntityStateStore) (events more : List NormalizedEvent) :
    after store (events ++ more) = after (after store events) more := by
  have log : ∀ (more : List NormalizedEvent) (store : EntityStateStore)
    (first second : List (NormalizedEvent × StateApplyResult)),
      (Machine.run apply store first more).1 = (Machine.run apply store second more).1 := by
    intro more
    induction more with
    | nil => exact fun _ _ _ => rfl
    | cons event rest ih => exact fun store first second => ih _ _ _
  unfold after
  rw [Machine.runAppend]
  exact log _ _ _ _
theorem afterSnoc (store : EntityStateStore) (events : List NormalizedEvent) (event : NormalizedEvent) :
    after store (events ++ [event]) = (apply (after store events) event).1 := afterAppend store events [event]
theorem afterRecorded (hashMode : StateHashMode) (events : List NormalizedEvent) (entityId : String)
    (opened : ((after {hashMode} events).getOrCreate entityId).closed = false) :
    Recorded ((after {hashMode} events).getOrCreate entityId)
      (events.foldl (record snapshotWrites .bid entityId) none)
      (events.foldl (record snapshotWrites .ask entityId) none) := by
  induction events using List.reverseRecOn with
  | nil =>
    exact ⟨⟨rfl,LastWrite.emptyHolds,fun _ mem => (nomatch mem)⟩,
      ⟨rfl,LastWrite.emptyHolds,fun _ mem => (nomatch mem)⟩⟩
  | append_singleton events event ih =>
    rw [afterSnoc,applyOwn] at opened ⊢
    rw [List.foldl_append,List.foldl_append,List.foldl_cons,List.foldl_cons,List.foldl_nil,List.foldl_nil]
    split at opened
    · next own =>
      rw [if_pos own]
      exact nextRecorded (getOrCreateSound (afterSound hashMode events) entityId)
        (ih (nextOpened opened)) opened own
    · next other =>
      rw [if_neg other,record,record,if_neg other,if_neg other]
      exact ih opened

-- A run of deltas for one entity writes their changes in order, where the entity takes deltas at all.
theorem deltasBook {store : EntityStateStore} (sound : AllSound store) {entityId : String}
    (named : entityId ≠ "") (events : List NormalizedEvent)
    (deltas : Deltas entityId events) :
    bookOf (after store events) entityId =
        (if (store.getOrCreate entityId).closed = true ∨ (store.getOrCreate entityId).initialized = false then
          bookOf store entityId
        else updateBestBidAsk (writeChanges (bookOf store entityId) (changesOf events))) ∧
      ((after store events).getOrCreate entityId).closed = (store.getOrCreate entityId).closed ∧
      ((after store events).getOrCreate entityId).initialized = (store.getOrCreate entityId).initialized ∧
      AllSound (after store events) := by
  induction events using List.reverseRecOn with
  | nil =>
    refine ⟨?_,rfl,rfl,sound⟩
    split
    · rfl
    · exact (getOrCreateSound sound entityId).settled.symm
  | append_singleton events event ih =>
    obtain ⟨book,closed,initialized,kept⟩ := ih fun e mem => deltas e (List.mem_append_left _ mem)
    obtain ⟨kind,own⟩ := deltas event (by simp)
    have here : entityOf event ≠ "" ∧ entityOf event = entityId := ⟨by rw [own]; exact named,own⟩
    rw [afterSnoc,bookOf,applyOwn,if_pos here,← closed,← initialized]
    have settled := (getOrCreateSound kept entityId).settled
    unfold bookOf at book
    generalize (after store events).getOrCreate entityId = entity at book closed initialized settled ⊢
    have last := applySound kept event
    unfold nextEntity
    rw [kind]
    simp only
    by_cases shut : entity.closed = true
    · rw [if_pos shut,if_pos (.inl shut)]
      rw [← closed,if_pos (.inl shut)] at book
      exact ⟨book,rfl,rfl,last⟩
    · by_cases blank : entity.initialized = false
      · rw [if_neg shut,if_pos blank,if_pos (.inr blank)]
        rw [← initialized,if_pos (.inr blank)] at book
        exact ⟨book,rfl,rfl,last⟩
      · have takes := not_or.mpr ⟨shut,blank⟩
        obtain ⟨-,same,open_⟩ := deltaKeeps entity event
        rw [if_neg shut,if_neg blank,if_neg takes,deltaBook settled]
        rw [← closed,← initialized,if_neg takes] at book
        refine ⟨?_,open_,same,last⟩
        rw [book,writeChangesAppend]
        simp [changesOf,bookOf]

theorem unnamedKept (store : EntityStateStore) (events : List NormalizedEvent) :
    bookOf (after store events) "" = bookOf store "" := by
  induction events using List.reverseRecOn with
  | nil => rfl
  | append_singleton events event ih =>
    rw [afterSnoc,bookOf,applyOwn,if_neg fun own => own.1 own.2]
    exact ih

theorem bookLastWritten (hashMode : StateHashMode) (events : List NormalizedEvent) (entityId : String) :
    (((after {hashMode} events).getOrCreate entityId).closed = false →
      LastWritten (bookOf (after {hashMode} events) entityId).bids (writesBy snapshotWrites .bid entityId events) ∧
        LastWritten (bookOf (after {hashMode} events) entityId).asks
          (writesBy snapshotWrites .ask entityId events)) ∧
      ∀ deltas others, Deltas entityId deltas → Deltas entityId others → changesOf deltas = changesOf others →
        bookOf (after {hashMode} (events ++ deltas)) entityId = bookOf
          (after {hashMode} (events ++ others)) entityId := by
  refine ⟨fun opened => ?_,fun deltas others first second same => ?_⟩
  · obtain ⟨bids,asks⟩ := afterRecorded hashMode events entityId opened
    exact ⟨lastWritten (fun a b => OrderDual.toDual_inj) bids.holds bids.nonneg,lastWritten
      (fun a b => Iff.rfl) asks.holds asks.nonneg⟩
  · rw [afterAppend,afterAppend]
    by_cases named : entityId = ""
    · subst named
      rw [unnamedKept _ deltas,unnamedKept _ others]
    · have sound := afterSound hashMode events
      rw [(deltasBook sound named deltas first).1,(deltasBook sound named others second).1,same]

def tenThenNone : NormalizedEvent :=
  {eventType := .snapshot, entityId := "A",
   bids := [⟨⟨0x3fe0000000000000⟩,⟨0x4024000000000000⟩⟩,⟨⟨0x3fe0000000000000⟩,⟨0⟩⟩]}
theorem passedOverLevelStays :
    ¬ ∀ (hashMode : StateHashMode) (events : List NormalizedEvent) (entityId : String),
      ((after {hashMode} events).getOrCreate entityId).closed = false →
        LastWritten (bookOf (after {hashMode} events) entityId).bids
          (writesBy validLevels .bid entityId events) := by
  intro claimed
  have opened : ((after {hashMode := .replayFull} [tenThenNone]).getOrCreate "A").closed = false := by
    decide +kernel
  have held : (bookOf (after {hashMode := .replayFull} [tenThenNone]) "A").bids.find ⟨0x3fe0000000000000⟩ = some
    ⟨0x4024000000000000⟩ := by
    decide +kernel
  have last := ((claimed .replayFull [tenThenNone] "A" opened _ _).mp held).2
  revert last
  decide +kernel

end Polytope.BookWrites
