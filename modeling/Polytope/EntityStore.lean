import Polytope.EntityBooks
import Polytope.Fnv
import Polytope.Machine
import Mathlib.Data.List.AList
import Mathlib.Data.String.Basic

/-! EntityStateStore: the entities by id, the hash of each and of all of them behind a cache, and the
dispatch of normalized events. Only make_result touches the cache on the way of an event. -/
namespace Polytope.EntityStore
open Binary64
open OrderedMap (KeyedMap empty)
open EntityBooks

abbrev Entities := KeyedMap (fun entityId : String => entityId) EntityState

/-! StateHasher. -/

section
open Fnv

def hashString (h : UInt64) (text : String) : UInt64 := mixString (mixNat h text.utf8ByteSize) text
def hashDouble (h : UInt64) (x : Double) : UInt64 := mixU64 h (if value x = 0 then 0 else x.bits)
def hashOptionalDouble (h : UInt64) : Option Double → UInt64
  | none => mixBool h false
  | some x => hashDouble (mixBool h true) x
def hashPriceLevels (h : UInt64) (levels : List (Double × Double)) : UInt64 :=
  levels.foldl (fun h level => hashDouble (hashDouble h level.1) level.2) (mixNat h levels.length)
def hashOrderBook (book : OrderBookState) : UInt64 :=
  let h := [book.bestBid,book.bestAsk,book.externalBestBid,book.externalBestAsk,book.tickSize].foldl
    hashOptionalDouble offset
  let h := [book.crossed,book.externalBboDiverged,book.resolved].foldl mixBool h
  hashPriceLevels (hashPriceLevels (hashString h book.winningAssetId) book.bids.entries) book.asks.entries
def statusCode (status : EntityStatus) : UInt64 := UInt64.ofNat status.ctorIdx
-- The line that would mix in the entity id stands inside a comment that the source never closes before it.
def hashEntity (entity : EntityState) : UInt64 :=
  let h := mixU64 offset (statusCode entity.status)
  let h := [entity.initialized,entity.recovering,entity.inconsistent,entity.closed].foldl mixBool h
  let h := [entity.snapshotCount,entity.deltaCount,entity.statusChangeCount,entity.lifecycleCount,
    entity.ignoredCount,
    entity.errorCount].foldl mixU64 h
  mixU64 h (hashOrderBook entity.book)
def hashEntityMap (entities : Entities) : UInt64 :=
  entities.entries.foldl (fun h e => mixU64 (hashString h e.1) (hashEntity e.2))
    (mixNat offset entities.entries.length)

def statusFlags (entity : EntityState) : UInt64 :=
  let flag (set : Bool) (bit : UInt64) : UInt64 := if set = true then 1 <<< bit else 0
  (statusCode entity.status &&& 0xff) ||| flag entity.initialized 8 ||| flag entity.recovering 9 ||| flag
  entity.inconsistent 10 |||
    flag entity.closed 11 ||| flag entity.book.crossed 12 ||| flag entity.book.resolved 13
def cheapSnapshotFingerprint (entityId : String)
    (bookVersion chainVersion qualityVersion lastWsPacketId lastChainBlock flags : UInt64) :
    UInt64 :=
  [bookVersion,chainVersion,qualityVersion,lastWsPacketId,lastChainBlock,flags].foldl mixU64
  (hashString offset entityId)
end

/-! StateHashCache. -/

structure EntityHashCacheEntry where
  entityHash : UInt64 := 0
  bookVersion : UInt64 := 0
  chainVersion : UInt64 := 0
  qualityVersion : UInt64 := 0
  dirty : Bool := true
  deriving DecidableEq, Repr
structure HashCacheAccessStats where
  hits : UInt64 := 0
  misses : UInt64 := 0
  deriving DecidableEq, Repr
structure StateHashCache where
  entityHashes : AList (fun _ : String => EntityHashCacheEntry) := ∅
  globalHash : UInt64 := 0
  globalDirty : Bool := true
  accessStats : HashCacheAccessStats := {}

def StateHashCache.hit (cache : StateHashCache) : StateHashCache :=
  {cache with accessStats := {cache.accessStats with hits := cache.accessStats.hits + 1}}
def StateHashCache.miss (cache : StateHashCache) : StateHashCache :=
  {cache with accessStats := {cache.accessStats with misses := cache.accessStats.misses + 1}}
def StateHashCache.markDirty (cache : StateHashCache) (entityId : String) : StateHashCache :=
  if entityId = "" then {cache with globalDirty := true}
  else
    {cache with
      globalDirty := true
      entityHashes := cache.entityHashes.insert entityId
        {(cache.entityHashes.lookup entityId).getD {} with dirty := true}}
def StateHashCache.clean (cache : StateHashCache) (entityId : String) : Option UInt64 :=
  (cache.entityHashes.lookup entityId).bind fun entry => if entry.dirty = true then none else some entry.entityHash
def StateHashCache.entityHashOf (cache : StateHashCache) (entities : Entities) (entityId : String) :
    StateHashCache × UInt64 :=
  match entities.find entityId with
  | none => ({cache.miss with entityHashes := cache.entityHashes.erase entityId},0)
  | some entity =>
    match cache.clean entityId with
    | some hash => (cache.hit,hash)
    | none =>
      ({ cache.miss with
         entityHashes := cache.entityHashes.insert entityId ⟨hashEntity entity,entity.lastPacketId,0,0,false⟩ },
        hashEntity entity)
def StateHashCache.globalHashOf (cache : StateHashCache) (entities : Entities) : StateHashCache × UInt64 :=
  if cache.globalDirty = false then (cache.hit,cache.globalHash)
  else ({cache.miss with globalHash := hashEntityMap entities, globalDirty := false},hashEntityMap entities)

/-! The store. -/

inductive StateHashMode where | hotPathLight | replayFull | debugVerify
  deriving DecidableEq, Repr
inductive StateMutationKind where
  | none | bookSnapshot | bookDelta | chainFill | chainRemovedFill | lifecycle | quality | heartbeat
  deriving DecidableEq, Repr
structure StateMutationFlags where
  stateChanged : Bool := false
  bookChanged : Bool := false
  lifecycleChanged : Bool := false
  heartbeatSeen : Bool := false
  publishRequired : Bool := false
  kind : StateMutationKind := .none
  deriving DecidableEq, Repr
structure StateApplyResult where
  code : StateApplyCode := .noop
  entityId : String := ""
  message : String := ""
  stateChanged : Bool := false
  mutation : StateMutationFlags := {}
  bookVersion : UInt64 := 0
  snapshotVersionHash : UInt64 := 0
  entityHash : UInt64 := 0
  globalHash : UInt64 := 0
  cheapFingerprint : UInt64 := 0
  fullHashComputed : Bool := false
  hashCacheHits : UInt64 := 0
  hashCacheMisses : UInt64 := 0
  deriving DecidableEq, Repr
structure Counters where
  eventsSeen : UInt64 := 0
  snapshotsApplied : UInt64 := 0
  deltasApplied : UInt64 := 0
  statusChangesApplied : UInt64 := 0
  lifecycleEventsApplied : UInt64 := 0
  heartbeatsIgnored : UInt64 := 0
  unknownEventsIgnored : UInt64 := 0
  errors : UInt64 := 0
  deriving DecidableEq, Repr
structure EntityStateStore where
  hashMode : StateHashMode := .replayFull
  entities : Entities := empty
  counters : Counters := {}
  hashCache : StateHashCache := {}

def EntityStateStore.get (store : EntityStateStore) (entityId : String) : Option EntityState :=
  store.entities.find entityId
def EntityStateStore.getOrCreate (store : EntityStateStore) (entityId : String) : EntityState :=
  (store.get entityId).getD {entityId}
def EntityStateStore.stateHash (store : EntityStateStore) (entityId : String) : EntityStateStore × UInt64 :=
  let (hashCache,hash) := store.hashCache.entityHashOf store.entities entityId
  ({store with hashCache},hash)
def EntityStateStore.globalHash (store : EntityStateStore) : EntityStateStore × UInt64 :=
  let (hashCache,hash) := store.hashCache.globalHashOf store.entities
  ({store with hashCache},hash)
def EntityStateStore.debugRecomputedStateHash (store : EntityStateStore) (entityId : String) : UInt64 :=
  match store.get entityId with
  | none => 0
  | some entity => hashEntity entity
def EntityStateStore.debugRecomputedGlobalHash (store : EntityStateStore) : UInt64 := hashEntityMap store.entities

def mutationKindFor : StateApplyCode → StateMutationKind
  | .ignoredHeartbeat => .heartbeat
  | _ => .none
def plainResult (store : EntityStateStore) (code : StateApplyCode) (entityId message : String)
    (stateChanged : Bool) : StateApplyResult :=
  let version := ((store.get entityId).map EntityState.lastPacketId).getD 0
  let flags := ((store.get entityId).map statusFlags).getD 0
  let fingerprint :=
    if entityId = "" then cheapSnapshotFingerprint "" 0 0 0 0 0 0
    else cheapSnapshotFingerprint entityId version 0 0 version 0 flags
  {code, entityId, message, stateChanged
   mutation := {stateChanged, heartbeatSeen := decide (code = .ignoredHeartbeat), kind := mutationKindFor code}
   bookVersion := if entityId = "" then 0 else version
   snapshotVersionHash := fingerprint
   cheapFingerprint := fingerprint}
def markChanged (store : EntityStateStore) (entityId : String) (stateChanged : Bool) : EntityStateStore :=
  if stateChanged = true ∧ entityId ≠ "" then
    {store with hashCache := store.hashCache.markDirty entityId}
  else store
def EntityStateStore.takeAccessStats (store : EntityStateStore) : EntityStateStore × HashCacheAccessStats :=
  ({store with hashCache := {store.hashCache with accessStats := {}}},store.hashCache.accessStats)
def fullHashes (store : EntityStateStore) (entityId : String) :
    EntityStateStore × UInt64 × UInt64 × HashCacheAccessStats :=
  let store := store.takeAccessStats.1
  let entity := if entityId = "" then (store,0) else store.stateHash entityId
  let all := entity.1.globalHash
  let stats := all.1.takeAccessStats
  (stats.1,entity.2,all.2,stats.2)
def makeResult (store : EntityStateStore) (code : StateApplyCode) (entityId message : String)
    (stateChanged : Bool) :
    EntityStateStore × StateApplyResult :=
  let result := plainResult store code entityId message stateChanged
  let store := markChanged store entityId stateChanged
  if stateChanged = false ∨ store.hashMode = .hotPathLight then (store,result)
  else
    let (store,entityHash,globalHash,stats) := fullHashes store entityId
    (store,
      { result with
        entityHash
        globalHash
        fullHashComputed := true
        hashCacheHits := stats.hits
        hashCacheMisses := stats.misses })

def markBook (kind : StateMutationKind) (out : EntityStateStore × StateApplyResult) :
    EntityStateStore × StateApplyResult :=
  let changed := out.2.stateChanged
  (out.1,{out.2 with
    mutation := {out.2.mutation with
      stateChanged := changed, bookChanged := changed, publishRequired := changed,
        kind := if changed = true then kind else .none}})
def markLifecycle (out : EntityStateStore × StateApplyResult) : EntityStateStore × StateApplyResult :=
  let changed := out.2.stateChanged
  (out.1,{out.2 with
    mutation := {out.2.mutation with
      stateChanged := changed, lifecycleChanged := changed, publishRequired := changed,
        kind := if changed = true then .lifecycle else .none}})

def EntityStateStore.put (store : EntityStateStore) (entityId : String) (entity : EntityState) :
    EntityStateStore :=
  {store with entities := store.entities.assign entityId entity}
def EntityStateStore.count (store : EntityStateStore) (f : Counters → Counters) : EntityStateStore :=
  {store with counters := f store.counters}
def countErrors (invalid : Bool) (c : Counters) : Counters :=
  if invalid = true then {c with errors := c.errors + 1} else c

def applySnapshot (store : EntityStateStore) (event : NormalizedEvent) : EntityStateStore × StateApplyResult :=
  let entityId := resolveEntityId event
  let entity := store.getOrCreate entityId
  let invalid := snapshotInvalid event
  if entityId = "" then makeResult
    (store.count (countErrors true)) .missingEntityId "" "snapshot event missing entity id" false
  else if entity.closed = true then
    makeResult (store.put entityId (ignore entity)) .closedEntityIgnored entityId
      "snapshot ignored because entity is closed" false
  else
    let store := ((store.put entityId (snapshotEntity entity event)).count fun c =>
      {c with snapshotsApplied := c.snapshotsApplied + 1}).count (countErrors invalid)
    if invalid = true then
      markBook .bookSnapshot (makeResult store .invalidValue entityId
        "snapshot contained invalid price/size/tick values" true)
    else markBook .bookSnapshot (makeResult store .applied entityId "snapshot applied" true)
def applyDelta (store : EntityStateStore) (event : NormalizedEvent) : EntityStateStore × StateApplyResult :=
  let entityId := resolveEntityId event
  let entity := store.getOrCreate entityId
  let walk := deltaWalk entity event
  markBook .bookDelta
    (if entityId = "" then makeResult
      (store.count (countErrors true)) .missingEntityId "" "delta event missing entity id" false
    else if entity.closed = true then
      makeResult (store.put entityId (ignore entity)) .closedEntityIgnored entityId
        "delta ignored because entity is closed" false
    else if entity.initialized = false then
      makeResult ((store.put entityId (recoverEntity entity event)).count (countErrors true))
        .deltaBeforeSnapshot entityId
        "delta arrived before snapshot" true
    else
      let store := ((store.put entityId (deltaEntity entity event)).count fun c =>
        if walk.changed = true then {c with deltasApplied := c.deltasApplied + 1} else c).count
          (countErrors (walk.badSideSeen || walk.invalidValueSeen))
      if walk.badSideSeen = true then
        makeResult store .unknownSide entityId "delta contained unknown side" walk.changed
      else if walk.invalidValueSeen = true then
        makeResult store .invalidValue entityId "delta contained invalid price or size" walk.changed
      else if walk.changed = false then makeResult store .noop entityId "delta had no valid changes" false
      else makeResult store .applied entityId "delta applied" true)
def applyStatusChange (store : EntityStateStore) (event : NormalizedEvent) : EntityStateStore × StateApplyResult :=
  let entityId := resolveEntityId event
  let entity := store.getOrCreate entityId
  let changed := statusChanged event
  markBook .bookDelta
    (if entityId = "" then makeResult
      (store.count (countErrors true)) .missingEntityId "" "status change missing entity id" false
    else if entity.closed = true then
      makeResult (store.put entityId (ignore entity)) .closedEntityIgnored entityId
        "status change ignored because entity is closed" false
    else
      let store := ((store.put entityId (statusEntity entity event)).count fun c =>
        {c with statusChangesApplied := c.statusChangesApplied + 1}).count (countErrors (statusInvalid event))
      if statusInvalid event = true then
        makeResult store .invalidValue entityId "status change contained invalid values" changed
      else if changed = true then makeResult store .applied entityId "status change applied" true
      else makeResult store .noop entityId "status change had no state fields" false)
def applyLifecycleEvent (store : EntityStateStore) (event : NormalizedEvent) :
    EntityStateStore × StateApplyResult :=
  let entityId := resolveEntityId event
  markLifecycle
    (if entityId = "" then makeResult
      (store.count (countErrors true)) .missingEntityId "" "lifecycle event missing entity id" false
    else
      makeResult ((store.put entityId (lifecycleEntity (store.getOrCreate entityId) event)).count fun c =>
        {c with lifecycleEventsApplied := c.lifecycleEventsApplied + 1}) .applied entityId
          "lifecycle event applied" true)
def putIgnored (store : EntityStateStore) (event : NormalizedEvent) : EntityStateStore :=
  if resolveEntityId event = "" then store
  else store.put (resolveEntityId event) (ignoreEntity (store.getOrCreate (resolveEntityId event)) event)
def applyTradeEvent (store : EntityStateStore) (event : NormalizedEvent) : EntityStateStore × StateApplyResult :=
  makeResult (putIgnored store event) .ignoredTrade
    (resolveEntityId event) "trade event ignored by EntityStateStore MVP" false
def applyHeartbeat (store : EntityStateStore) : EntityStateStore × StateApplyResult :=
  makeResult (store.count fun c => {c with heartbeatsIgnored := c.heartbeatsIgnored + 1}) .ignoredHeartbeat ""
    "heartbeat ignored by entity state" false
def applyUnknown (store : EntityStateStore) (event : NormalizedEvent) : EntityStateStore × StateApplyResult :=
  makeResult ((putIgnored store event).count fun c =>
    {c with unknownEventsIgnored := c.unknownEventsIgnored + 1}) .ignoredUnknown
    (resolveEntityId event) "unknown event ignored by entity state" false
def apply (store : EntityStateStore) (event : NormalizedEvent) : EntityStateStore × StateApplyResult :=
  let store := store.count fun c => {c with eventsSeen := c.eventsSeen + 1}
  match event.eventType with
  | .snapshot => applySnapshot store event
  | .delta => applyDelta store event
  | .statusChange => applyStatusChange store event
  | .lifecycleEvent => applyLifecycleEvent store event
  | .tradeEvent => applyTradeEvent store event
  | .heartbeat => applyHeartbeat store
  | .unknown => applyUnknown store event
  | .decodeError => applyUnknown store event

/-! What an event does: one entity moves, and make_result is told whether the state changed. -/

def entityOf (event : NormalizedEvent) : String :=
  if event.eventType = .heartbeat then "" else resolveEntityId event
def nextEntity (entity : EntityState) (event : NormalizedEvent) : EntityState :=
  match event.eventType with
  | .snapshot => if entity.closed = true then ignore entity else snapshotEntity entity event
  | .delta =>
    if entity.closed = true then ignore entity
    else if entity.initialized = false then recoverEntity entity event
    else deltaEntity entity event
  | .statusChange => if entity.closed = true then ignore entity else statusEntity entity event
  | .lifecycleEvent => lifecycleEntity entity event
  | _ => ignoreEntity entity event
def changes (entity : EntityState) (event : NormalizedEvent) : Bool :=
  match event.eventType with
  | .snapshot => !entity.closed
  | .delta => !entity.closed && (!entity.initialized || (deltaWalk entity event).changed)
  | .statusChange => !entity.closed && statusChanged event
  | .lifecycleEvent => true
  | _ => false
def nextEntities (store : EntityStateStore) (event : NormalizedEvent) : Entities :=
  if entityOf event = "" then store.entities
  else store.entities.assign (entityOf event) (nextEntity (store.getOrCreate (entityOf event)) event)
def changesState (store : EntityStateStore) (event : NormalizedEvent) : Bool :=
  decide (entityOf event ≠ "") && changes (store.getOrCreate (entityOf event)) event
def settle (store : EntityStateStore) (entityId : String) (stateChanged : Bool) : EntityStateStore :=
  let store := markChanged store entityId stateChanged
  if stateChanged = false ∨ store.hashMode = .hotPathLight then store else (fullHashes store entityId).1

theorem makeResultStore (store : EntityStateStore) (code : StateApplyCode) (entityId message : String)
    (stateChanged : Bool) :
    (makeResult store code entityId message stateChanged).1 = settle store entityId stateChanged := by
  unfold settle makeResult
  by_cases quiet : stateChanged = false ∨ (markChanged store entityId stateChanged).hashMode = .hotPathLight
  · simp only [if_pos quiet]
  · simp only [if_neg quiet]
@[simp] theorem markBookStore (kind : StateMutationKind) (out : EntityStateStore × StateApplyResult) :
    (markBook kind out).1 = out.1 := rfl
@[simp] theorem markLifecycleStore (out : EntityStateStore × StateApplyResult) :
    (markLifecycle out).1 = out.1 := rfl

-- The store handed to make_result has the same cache and mode, and its entities moved on.
def Handed (store : EntityStateStore) (event : NormalizedEvent) (out : EntityStateStore) : Prop :=
  ∃ next : EntityStateStore, next.hashMode = store.hashMode ∧ next.hashCache = store.hashCache ∧
    next.entities = nextEntities store event ∧ out = settle next (entityOf event) (changesState store event)

theorem handedMissing {store : EntityStateStore} {event : NormalizedEvent} (missing : entityOf event = "")
    (f : Counters → Counters) :
    Handed store event (settle (store.count f) "" false) := by
  refine ⟨store.count f,rfl,rfl,?_,?_⟩
  · rw [nextEntities,if_pos missing]
    rfl
  · simp [changesState,missing]
theorem handedMoved {store next : EntityStateStore} {event : NormalizedEvent} {entity : EntityState}
    {changed : Bool}
    (named : entityOf event ≠ "") (moves : nextEntity (store.getOrCreate (entityOf event)) event = entity)
    (flag : changes (store.getOrCreate (entityOf event)) event = changed) (mode : next.hashMode = store.hashMode)
    (cache : next.hashCache = store.hashCache)
    (entities : next.entities = store.entities.assign (entityOf event) entity) :
    Handed store event (settle next (entityOf event) changed) := by
  refine ⟨next,mode,cache,?_,?_⟩
  · rw [nextEntities,if_neg named,moves,entities]
  · rw [changesState,flag,decide_eq_true named,Bool.true_and]

theorem snapshotHanded {store : EntityStateStore} {event : NormalizedEvent} (kind : event.eventType = .snapshot) :
    Handed store event (applySnapshot store event).1 := by
  have own : entityOf event = resolveEntityId event := by simp [entityOf,kind]
  have moves := nextEntity.eq_def (store.getOrCreate (entityOf event)) event
  have flag := changes.eq_def (store.getOrCreate (entityOf event)) event
  simp only [kind] at moves flag
  unfold applySnapshot
  rw [← own]
  by_cases missing : entityOf event = ""
  · simp only [missing,if_true,makeResultStore]
    exact handedMissing missing _
  · by_cases closed : (store.getOrCreate (entityOf event)).closed = true
    · simp only [if_neg missing,if_pos closed,makeResultStore]
      exact handedMoved missing (moves.trans (if_pos closed)) (flag.trans (by rw [closed]; rfl)) rfl rfl rfl
    · have opened := Bool.eq_false_iff.mpr closed
      simp only [if_neg missing,if_neg closed]
      split
      · rw [markBookStore,makeResultStore]
        exact handedMoved missing (moves.trans (if_neg closed)) (flag.trans (by rw [opened]; rfl)) rfl rfl rfl
      · rw [markBookStore,makeResultStore]
        exact handedMoved missing (moves.trans (if_neg closed)) (flag.trans (by rw [opened]; rfl)) rfl rfl rfl
theorem deltaHanded {store : EntityStateStore} {event : NormalizedEvent} (kind : event.eventType = .delta) :
    Handed store event (applyDelta store event).1 := by
  have own : entityOf event = resolveEntityId event := by simp [entityOf,kind]
  have moves := nextEntity.eq_def (store.getOrCreate (entityOf event)) event
  have flag := changes.eq_def (store.getOrCreate (entityOf event)) event
  simp only [kind] at moves flag
  unfold applyDelta
  rw [markBookStore,← own]
  by_cases missing : entityOf event = ""
  · simp only [missing,if_true,makeResultStore]
    exact handedMissing missing _
  · by_cases closed : (store.getOrCreate (entityOf event)).closed = true
    · simp only [if_neg missing,if_pos closed,makeResultStore]
      exact handedMoved missing (moves.trans (if_pos closed)) (flag.trans (by rw [closed]; rfl)) rfl rfl rfl
    · have opened := Bool.eq_false_iff.mpr closed
      rw [if_neg closed] at moves
      rw [opened] at flag
      simp only [if_neg missing,if_neg closed]
      by_cases blank : (store.getOrCreate (entityOf event)).initialized = false
      · simp only [if_pos blank,makeResultStore]
        exact handedMoved missing (moves.trans (if_pos blank)) (flag.trans (by rw [blank]; rfl)) rfl rfl rfl
      · rw [if_neg blank] at moves
        rw [Bool.eq_true_of_not_eq_false blank] at flag
        simp only [if_neg blank]
        split
        · rw [makeResultStore]
          exact handedMoved missing moves flag rfl rfl rfl
        · split
          · rw [makeResultStore]
            exact handedMoved missing moves flag rfl rfl rfl
          · split
            · next unchanged =>
              rw [makeResultStore]
              exact handedMoved missing moves (flag.trans (by rw [unchanged]; rfl)) rfl rfl rfl
            · next changed =>
              rw [makeResultStore]
              exact handedMoved missing moves
                (flag.trans (by rw [Bool.eq_true_of_not_eq_false changed]; rfl)) rfl rfl rfl
theorem statusHanded {store : EntityStateStore} {event : NormalizedEvent}
    (kind : event.eventType = .statusChange) :
    Handed store event (applyStatusChange store event).1 := by
  have own : entityOf event = resolveEntityId event := by simp [entityOf,kind]
  have moves := nextEntity.eq_def (store.getOrCreate (entityOf event)) event
  have flag := changes.eq_def (store.getOrCreate (entityOf event)) event
  simp only [kind] at moves flag
  unfold applyStatusChange
  rw [markBookStore,← own]
  by_cases missing : entityOf event = ""
  · simp only [missing,if_true,makeResultStore]
    exact handedMissing missing _
  · by_cases closed : (store.getOrCreate (entityOf event)).closed = true
    · simp only [if_neg missing,if_pos closed,makeResultStore]
      exact handedMoved missing (moves.trans (if_pos closed)) (flag.trans (by rw [closed]; rfl)) rfl rfl rfl
    · rw [if_neg closed] at moves
      rw [Bool.eq_false_iff.mpr closed] at flag
      simp only [if_neg missing,if_neg closed]
      split
      · rw [makeResultStore]
        exact handedMoved missing moves flag rfl rfl rfl
      · split
        · next changed =>
          rw [makeResultStore]
          exact handedMoved missing moves (flag.trans (by rw [changed]; rfl)) rfl rfl rfl
        · next unchanged =>
          rw [makeResultStore]
          exact handedMoved missing moves (flag.trans (by rw [Bool.eq_false_iff.mpr unchanged]; rfl)) rfl rfl rfl
theorem lifecycleHanded {store : EntityStateStore} {event : NormalizedEvent}
    (kind : event.eventType = .lifecycleEvent) :
    Handed store event (applyLifecycleEvent store event).1 := by
  have own : entityOf event = resolveEntityId event := by simp [entityOf,kind]
  have moves := nextEntity.eq_def (store.getOrCreate (entityOf event)) event
  have flag := changes.eq_def (store.getOrCreate (entityOf event)) event
  simp only [kind] at moves flag
  unfold applyLifecycleEvent
  rw [markLifecycleStore,← own]
  by_cases missing : entityOf event = ""
  · simp only [missing,if_true,makeResultStore]
    exact handedMissing missing _
  · simp only [if_neg missing,makeResultStore]
    exact handedMoved missing moves flag rfl rfl rfl
theorem ignoredHanded {store : EntityStateStore} {event : NormalizedEvent}
    (own : entityOf event = resolveEntityId event)
    (moves : nextEntity (store.getOrCreate (entityOf event)) event = ignoreEntity
      (store.getOrCreate (entityOf event)) event)
    (flag : changes (store.getOrCreate (entityOf event)) event = false) (f : Counters → Counters) :
    Handed store event (settle ((putIgnored store event).count f) (resolveEntityId event) false) := by
  unfold putIgnored
  rw [← own]
  by_cases missing : entityOf event = ""
  · rw [if_pos missing,missing]
    exact handedMissing missing f
  · rw [if_neg missing]
    exact handedMoved missing moves flag rfl rfl rfl

theorem applyHanded (store : EntityStateStore) (event : NormalizedEvent) :
    Handed store event (apply store event).1 := by
  have counted : ∀ {out}, Handed (store.count fun c => {c with eventsSeen := c.eventsSeen + 1}) event out →
    Handed store event out :=
    fun h => h
  unfold apply
  cases kind : event.eventType with
  | snapshot => exact counted (snapshotHanded kind)
  | delta => exact counted (deltaHanded kind)
  | statusChange => exact counted (statusHanded kind)
  | lifecycleEvent => exact counted (lifecycleHanded kind)
  | tradeEvent =>
    simp only [applyTradeEvent,makeResultStore]
    exact counted (ignoredHanded (by simp [entityOf,kind]) (by rw [nextEntity,kind]) (by rw [changes,kind]) id)
  | heartbeat =>
    simp only [applyHeartbeat,makeResultStore]
    exact counted (handedMissing (by simp [entityOf,kind]) _)
  | unknown =>
    simp only [applyUnknown,makeResultStore]
    exact counted (ignoredHanded (by simp [entityOf,kind]) (by rw [nextEntity,kind]) (by rw [changes,kind]) _)
  | decodeError =>
    simp only [applyUnknown,makeResultStore]
    exact counted (ignoredHanded (by simp [entityOf,kind]) (by rw [nextEntity,kind]) (by rw [changes,kind]) _)

/-! Runs. -/

theorem markChangedEntities (store : EntityStateStore) (entityId : String) (stateChanged : Bool) :
    (markChanged store entityId stateChanged).entities = store.entities := by
  unfold markChanged
  split <;> rfl
theorem fullHashesEntities (store : EntityStateStore) (entityId : String) :
    (fullHashes store entityId).1.entities = store.entities := by
  unfold fullHashes
  split <;> rfl
theorem settleEntities (store : EntityStateStore) (entityId : String) (stateChanged : Bool) :
    (settle store entityId stateChanged).entities = store.entities := by
  unfold settle
  simp only
  split
  · exact markChangedEntities store entityId stateChanged
  · rw [fullHashesEntities,markChangedEntities]
theorem applyEntities (store : EntityStateStore) (event : NormalizedEvent) :
    (apply store event).1.entities = nextEntities store event := by
  obtain ⟨next,-,-,entities,out⟩ := applyHanded store event
  rw [out,settleEntities,entities]
theorem applyGet (store : EntityStateStore) (event : NormalizedEvent) (entityId : String) :
    (apply store event).1.get entityId =
      if entityOf event ≠ "" ∧ entityOf event = entityId then some (nextEntity (store.getOrCreate entityId) event)
      else store.get entityId := by
  unfold EntityStateStore.get
  rw [applyEntities,nextEntities]
  by_cases missing : entityOf event = ""
  · simp [missing]
  · by_cases same : entityOf event = entityId
    · subst same
      simp [missing,OrderedMap.findAssign]
    · simp [missing,same,OrderedMap.findAssign]

theorem nextSound {entity : EntityState} (sound : Sound entity) (event : NormalizedEvent) :
    Sound (nextEntity entity event) := by
  unfold nextEntity
  split
  · split
    · exact ignoreSound sound
    · exact snapshotSound entity event
  · split
    · exact ignoreSound sound
    · next opened =>
      split
      · exact recoverSound sound (Bool.eq_false_iff.mpr opened)
      · next initialized =>
          exact deltaSound sound (Bool.eq_true_of_not_eq_false initialized) (Bool.eq_false_iff.mpr opened)
  · split
    · exact ignoreSound sound
    · next opened => exact statusSound sound (Bool.eq_false_iff.mpr opened)
  · exact lifecycleSound sound
  · exact packetSound (ignoreSound sound)
theorem nextFrozen {entity : EntityState} (closed : entity.closed = true) (event : NormalizedEvent) :
    Frozen entity (nextEntity entity event) := by
  unfold nextEntity
  split
  · rw [if_pos closed]
    exact ignoreFrozen closed
  · rw [if_pos closed]
    exact ignoreFrozen closed
  · rw [if_pos closed]
    exact ignoreFrozen closed
  · exact lifecycleFrozen closed event
  · exact ignoreEntityFrozen closed event

def AllSound (store : EntityStateStore) : Prop :=
  ∀ entityId entity, store.get entityId = some entity → Sound entity
theorem getOrCreateSound {store : EntityStateStore} (sound : AllSound store) (entityId : String) :
    Sound (store.getOrCreate entityId) := by
  unfold EntityStateStore.getOrCreate
  cases found : store.get entityId with
  | none => exact freshSound entityId
  | some entity => exact sound entityId entity found
theorem applySound {store : EntityStateStore} (sound : AllSound store) (event : NormalizedEvent) :
    AllSound (apply store event).1 := by
  intro entityId entity found
  rw [applyGet] at found
  split at found
  · cases found
    exact nextSound (getOrCreateSound sound entityId) event
  · exact sound entityId entity found
theorem applyFrozen {store : EntityStateStore} {entityId : String} {entity : EntityState}
    (found : store.get entityId = some entity)
    (closed : entity.closed = true) (event : NormalizedEvent) :
    ∃ entity', (apply store event).1.get entityId = some entity' ∧ Frozen entity entity' := by
  rw [applyGet]
  split
  · have own : store.getOrCreate entityId = entity := by rw [EntityStateStore.getOrCreate,found]; rfl
    rw [own]
    exact ⟨_,rfl,nextFrozen closed event⟩
  · exact ⟨entity,found,closed,rfl,rfl,rfl,rfl⟩

def after (store : EntityStateStore) (events : List NormalizedEvent) : EntityStateStore :=
  (Machine.run apply store [] events).1

theorem bookInvariantAlways (hashMode : StateHashMode) (events more : List NormalizedEvent) (entityId : String)
    (entity : EntityState)
    (found : (after {hashMode} events).get entityId = some entity) :
    BookInvariant entity ∧
      (entity.closed = true → ∃ entity', (after (after {hashMode} events) more).get entityId = some entity' ∧
        Frozen entity entity') := by
  have sound : AllSound (after {hashMode} events) :=
    Machine.invariant (P := fun store _ => AllSound store) (fun _ _ event sound => applySound sound event) events
      fun entityId entity found => nomatch found
  refine ⟨soundInvariant (sound entityId entity found),fun closed => ?_⟩
  refine Machine.invariant (P := fun (store : EntityStateStore) _ =>
    ∃ entity', store.get entityId = some entity' ∧ Frozen entity entity') ?_ more
    ⟨entity,found,closed,rfl,rfl,rfl,rfl⟩
  rintro store - event ⟨mid,here,frozen⟩
  obtain ⟨last,there,kept⟩ := applyFrozen here frozen.closed event
  exact ⟨last,there,frozenTrans frozen kept⟩

-- 0.5 and 0.75 as prices, 10 as a size.
def openingBook : NormalizedEvent :=
  {eventType := .snapshot, entityId := "A", packetId := 1, bids := [⟨⟨0x3fe0000000000000⟩,⟨0x4024000000000000⟩⟩]
   asks := [⟨⟨0x3fe8000000000000⟩,⟨0x4024000000000000⟩⟩]}
def closing : NormalizedEvent :=
  {eventType := .lifecycleEvent, rawType := "market_closed", entityId := "A", packetId := 2}
theorem closedBookStays :
    ∃ entity, (after {hashMode := .replayFull} [openingBook,closing]).get "A" = some entity ∧
      entity.closed = true ∧ BookInvariant entity ∧
      ∃ entity', (after (after {hashMode := .replayFull} [openingBook,closing])
        [{openingBook with bids := []}]).get "A" = some entity' ∧
        Frozen entity entity' := by
  have closed : ((after {hashMode := .replayFull} [openingBook,closing]).get "A").any EntityState.closed =
    true := by decide +kernel
  obtain ⟨entity,found,closed⟩ := (Option.any_eq_true _ _).mp closed
  obtain ⟨invariant,frozen⟩ :=
    bookInvariantAlways .replayFull [openingBook,closing] [{openingBook with bids := []}] "A" entity found
  exact ⟨entity,found,closed,invariant,frozen closed⟩

end Polytope.EntityStore
