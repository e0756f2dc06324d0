import Polytope.MarketShard

/-! Published snapshots over runs of a shard: the quality they carry and the versions that enter their
version hash, against the book and the chain state of the published asset. The versions come with the
answer of the one writer an event went to; the other versions of the hash stay zero. -/
namespace Polytope.SnapshotIntegrity
open ChainState (ConfirmedTradeState ChainStateWriter)
open EntityBooks (EntityState NormalizedEvent)
open EntityStore (EntityStateStore entityOf)
open MarketShard

/-! The snapshot an event publishes, with the shard it was built from. -/

def staged (shard : LOBShard) (event : MarketStateEvent) : LOBShard × StateApplyResult :=
  fingerprint (noteQuality (dispatch shard event) (assetIdForEvent event)) (assetIdForEvent event)
structure Publication where
  shard : LOBShard
  context : SnapshotBuildContext
  entity : EntityState

def Publication.assetId (p : Publication) : String := p.context.assetId
def Publication.snapshot (p : Publication) : MarketStateSnapshot := assetSnapshot p.shard p.context p.entity
def Publication.versions (p : Publication) : UInt64 × UInt64 × UInt64 :=
  (p.context.bookVersion,p.context.chainVersion,p.context.qualityVersion)
def publication (shard : LOBShard) (event : MarketStateEvent) : Option Publication :=
  let context := buildSnapshotContext (staged shard event).1 event (staged shard event).2
  if (staged shard event).2.mutation.publishRequired = false ∨ context.assetId = "" then none
  else ((staged shard event).1.bookStore.get context.assetId).map fun entity =>
    ⟨(staged shard event).1,context,entity⟩

/-! What the writers leave and report. -/

def booked (event : MarketStateEvent) : Bool :=
  match event.type with
  | .wsBookSnapshot | .wsBookDelta | .wsHeartbeat | .wsLifecycle => true
  | _ => false
def chained (event : MarketStateEvent) : Bool :=
  decide (event.type = .chainConfirmedFill) || decide (event.type = .chainRemovedFill)
-- The entity whose version the answer of the writer carries; none stands for version zero.
def bookSource (event : MarketStateEvent) : String := if booked event = true then entityOf event.wsEvent else ""
def chainSource (event : MarketStateEvent) : String :=
  if chained event = true then ChainState.resolveEntityId event.toMarketStateEvent else ""

theorem dispatchKeeps (shard : LOBShard) (event : MarketStateEvent) :
    (dispatch shard event).1.bookStore =
        (if booked event = true then (EntityStore.apply shard.bookStore event.wsEvent).1 else shard.bookStore) ∧
      (dispatch shard event).1.chainWriter =
        (if chained event = true then (ChainState.apply shard.chainWriter event.toMarketStateEvent).1
          else shard.chainWriter) ∧
      (dispatch shard event).1.quality = shard.quality ∧
      (dispatch shard event).1.qualityVersion = shard.qualityVersion := by
  unfold dispatch booked chained
  cases kind : event.type with
  | wsLifecycle =>
    simp only [applyLifecycle]
    split <;> exact ⟨rfl,rfl,rfl,rfl⟩
  | _ => exact ⟨rfl,rfl,rfl,rfl⟩
theorem dispatchUnpublished (shard : LOBShard) (event : MarketStateEvent) :
    (dispatch shard event).2.snapshotPublished = false ∧ (dispatch shard event).2.qualityVersion = 0 := by
  unfold dispatch
  cases event.type with
  | wsLifecycle =>
    simp only [applyLifecycle]
    split <;> exact ⟨rfl,rfl⟩
  | _ => exact ⟨rfl,rfl⟩

theorem noteQualityFrame (out : LOBShard × StateApplyResult) (assetId : String) :
    (noteQuality out assetId).1.bookStore = out.1.bookStore ∧
    (noteQuality out assetId).1.chainWriter = out.1.chainWriter ∧
      (noteQuality out assetId).2.bookVersion = out.2.bookVersion ∧
      (noteQuality out assetId).2.chainVersion = out.2.chainVersion ∧
      (noteQuality out assetId).2.snapshotPublished = out.2.snapshotPublished := by
  unfold noteQuality
  split
  · exact ⟨rfl,rfl,rfl,rfl,rfl⟩
  · simp only
    split <;> exact ⟨rfl,rfl,rfl,rfl,rfl⟩
theorem noteQualityNamed (out : LOBShard × StateApplyResult) {assetId : String} (named : assetId ≠ "") :
    (noteQuality out assetId).1.quality = assetQuality out.1 assetId ∧
      (noteQuality out assetId).2.qualityVersion = (noteQuality out assetId).1.qualityVersion ∧
      (noteQuality out assetId).1.qualityVersion =
        if assetQuality out.1 assetId = out.1.quality then out.1.qualityVersion else out.1.qualityVersion + 1 := by
  unfold noteQuality
  rw [if_neg named]
  by_cases same : (refreshQuality out.1 assetId).quality = out.1.quality
  · rw [if_pos (show assetQuality out.1 assetId = out.1.quality from same)]
    simp only [if_pos same]
    exact ⟨rfl,trivial,rfl⟩
  · rw [if_neg (show ¬ assetQuality out.1 assetId = out.1.quality from same)]
    simp only [if_neg same]
    exact ⟨rfl,trivial,rfl⟩
theorem noteQualityUnnamed (out : LOBShard × StateApplyResult) : noteQuality out "" = out := if_pos rfl
theorem fingerprintFrame (out : LOBShard × StateApplyResult) (assetId : String) :
    (fingerprint out assetId).1.bookStore = out.1.bookStore ∧
    (fingerprint out assetId).1.chainWriter = out.1.chainWriter ∧
      (fingerprint out assetId).1.quality = out.1.quality ∧
      (fingerprint out assetId).1.qualityVersion = out.1.qualityVersion ∧
      ∃ hash, (fingerprint out assetId).2 =
        {out.2 with snapshotVersionHash := hash, cheapFingerprint := hash} := by
  unfold fingerprint
  simp only
  split <;> exact ⟨rfl,rfl,rfl,rfl,_,rfl⟩

/-! Versions of one entity: every book write that moves the packet id takes the event's, every chain write counts up. -/

section
open EntityStore EntityBooks

def Reports (out : EntityStateStore × EntityStore.StateApplyResult) (entityId : String) : Prop :=
  out.2.bookVersion = if entityId = "" then 0 else ((out.1.get entityId).map EntityState.lastPacketId).getD 0

theorem makeResultReports (store : EntityStateStore) (code : StateApplyCode) (entityId message : String)
    (stateChanged : Bool) :
    Reports (makeResult store code entityId message stateChanged) entityId := by
  have kept : (makeResult store code entityId message stateChanged).1.get entityId = store.get entityId := by
    rw [makeResultStore,EntityStateStore.get,settleEntities]
    rfl
  have version : (makeResult store code entityId message stateChanged).2.bookVersion =
      (plainResult store code entityId message stateChanged).bookVersion := by
    unfold makeResult
    simp only
    split <;> rfl
  rw [Reports,kept,version]
  rfl
theorem applyReports (store : EntityStateStore) (event : NormalizedEvent) :
    Reports (EntityStore.apply store event) (entityOf event) := by
  have marked : ∀ {kind out entityId}, Reports out entityId → Reports (markBook kind out) entityId := fun h => h
  have closing : ∀ {out entityId}, Reports out entityId → Reports (markLifecycle out) entityId := fun h => h
  unfold EntityStore.apply
  cases kind : event.eventType with
  | snapshot =>
    have own : entityOf event = resolveEntityId event := by simp [entityOf,kind]
    rw [own]
    simp only [applySnapshot]
    split
    · next missing => rw [missing]; exact makeResultReports _ _ _ _ _
    · split
      · exact makeResultReports _ _ _ _ _
      · split <;> exact marked (makeResultReports _ _ _ _ _)
  | delta =>
    have own : entityOf event = resolveEntityId event := by simp [entityOf,kind]
    rw [own]
    simp only [applyDelta]
    refine marked ?_
    split
    · next missing => rw [missing]; exact makeResultReports _ _ _ _ _
    · split
      · exact makeResultReports _ _ _ _ _
      · split
        · exact makeResultReports _ _ _ _ _
        · split
          · exact makeResultReports _ _ _ _ _
          · split
            · exact makeResultReports _ _ _ _ _
            · split <;> exact makeResultReports _ _ _ _ _
  | statusChange =>
    have own : entityOf event = resolveEntityId event := by simp [entityOf,kind]
    rw [own]
    simp only [applyStatusChange]
    refine marked ?_
    split
    · next missing => rw [missing]; exact makeResultReports _ _ _ _ _
    · split
      · exact makeResultReports _ _ _ _ _
      · split
        · exact makeResultReports _ _ _ _ _
        · split <;> exact makeResultReports _ _ _ _ _
  | lifecycleEvent =>
    have own : entityOf event = resolveEntityId event := by simp [entityOf,kind]
    rw [own]
    simp only [applyLifecycleEvent]
    refine closing ?_
    split
    · next missing => rw [missing]; exact makeResultReports _ _ _ _ _
    · exact makeResultReports _ _ _ _ _
  | heartbeat =>
    have own : entityOf event = "" := by simp [entityOf,kind]
    rw [own]
    exact makeResultReports _ _ _ _ _
  | _ =>
    have own : entityOf event = resolveEntityId event := by simp [entityOf,kind]
    rw [own]
    exact makeResultReports _ _ _ _ _

-- What a snapshot shows of an entity: all but the counters of ignored and refused events.
def bookState (entity : EntityState) : EntityState := {entity with ignoredCount := 0, errorCount := 0}

theorem countErrorPacket (entity : EntityState) (seen : Bool) :
    (countError entity seen).lastPacketId = entity.lastPacketId ∧
    bookState (countError entity seen) = bookState entity := by
  unfold countError
  split <;> exact ⟨rfl,rfl⟩
theorem deltaPacket (entity : EntityState) (event : NormalizedEvent) :
    (deltaEntity entity event).lastPacketId = event.packetId ∨
      ((deltaEntity entity event).lastPacketId = entity.lastPacketId ∧
        bookState (deltaEntity entity event) = bookState entity) := by
  unfold deltaEntity
  by_cases changed : (deltaWalk entity event).changed = true
  · left
    simp only [changed,if_true]
    split
    · rw [(countErrorPacket _ _).1]
      rfl
    · rfl
  · right
    simp only [if_neg changed,deltaWalkKept entity event (Bool.eq_false_iff.mpr changed)]
    split
    · exact countErrorPacket _ _
    · exact ⟨rfl,rfl⟩
theorem nextPacket (entity : EntityState) (event : NormalizedEvent) :
    (nextEntity entity event).lastPacketId = event.packetId ∨
      ((entity.closed = true ∨ entity.initialized = true) ∧
        (nextEntity entity event).lastPacketId = entity.lastPacketId ∧
        bookState (nextEntity entity event) = bookState entity) := by
  unfold nextEntity
  split
  · split
    · next closed => exact .inr ⟨.inl closed,rfl,rfl⟩
    · exact .inl ((countErrorPacket _ _).1.trans rfl)
  · split
    · next closed => exact .inr ⟨.inl closed,rfl,rfl⟩
    · split
      · exact .inl rfl
      · next initialized =>
        rcases deltaPacket entity event with marked | kept
        · exact .inl marked
        · exact .inr ⟨.inr (Bool.eq_true_of_not_eq_false initialized),kept⟩
  · split
    · next closed => exact .inr ⟨.inl closed,rfl,rfl⟩
    · exact .inl ((countErrorPacket _ _).1.trans rfl)
  · exact .inl rfl
  · exact .inl rfl
end

theorem storeLookup (writer : ChainStateWriter) (e : String) (state : ConfirmedTradeState) (nowNs : Nat)
    (entityId : String) :
    (writer.store e state nowNs).states.lookup entityId =
      if entityId = e then some (ChainState.publish state (writer.windowOf e) nowNs)
      else writer.states.lookup entityId := by
  by_cases same : entityId = e
  · subst same
    simp [ChainStateWriter.store,ChainStateWriter.refreshWindows,ChainStateWriter.stateOf,
      ChainStateWriter.windowOf]
  · simp [ChainStateWriter.store,ChainStateWriter.refreshWindows,same,AList.lookup_insert_ne same]
theorem recordFillStates (writer : ChainStateWriter) (entityId : String) (fill : ChainState.ClassifiedFillRecord) :
    (writer.recordFill entityId fill).states = writer.states := by
  unfold ChainStateWriter.recordFill
  split <;> rfl
theorem eraseFillStates (writer : ChainStateWriter) (fillId : String) :
    (writer.eraseFill fillId).states = writer.states := by
  unfold ChainStateWriter.eraseFill
  split <;> rfl
theorem chainStep (writer : ChainStateWriter) (event : ChainState.MarketStateEvent) (entityId : String) :
    (ChainState.apply writer event).1.states.lookup entityId = writer.states.lookup entityId ∨
      (entityId = ChainState.resolveEntityId event ∧ entityId ≠ "" ∧
        ∃ state, (ChainState.apply writer event).1.states.lookup entityId = some state ∧
          state.version = (writer.stateOf entityId).version + 1) := by
  have stored : ∀ (writer' : ChainStateWriter) (state : ConfirmedTradeState) (nowNs : Nat),
    writer'.states = writer.states →
      ChainState.resolveEntityId event ≠ "" →
        state.version = (writer.stateOf (ChainState.resolveEntityId event)).version + 1 →
      (writer'.store (ChainState.resolveEntityId event) state nowNs).states.lookup entityId =
      writer.states.lookup entityId ∨
        (entityId = ChainState.resolveEntityId event ∧ entityId ≠ "" ∧
          ∃ next, (writer'.store (ChainState.resolveEntityId event) state nowNs).states.lookup
            entityId = some next ∧
            next.version = (writer.stateOf entityId).version + 1) := by
    intro writer' state nowNs states named version
    rw [storeLookup,states]
    by_cases same : entityId = ChainState.resolveEntityId event
    · rw [if_pos same]
      exact .inr ⟨same,same ▸ named,_,rfl,by rw [same]; exact version⟩
    · rw [if_neg same]
      exact .inl rfl
  unfold ChainState.apply
  split
  · simp only [ChainState.applyRemoved]
    split
    · exact .inl rfl
    · next named => exact stored _ _ _ (eraseFillStates _ _) named rfl
  · split
    · simp only [ChainState.applyConfirmed]
      split
      · exact .inl rfl
      · next named =>
        split
        · exact stored _ _ _ rfl named rfl
        · split
          · exact stored _ _ _ rfl named rfl
          · split
            · exact stored _ _ _ rfl named rfl
            · exact stored _ _ _ (recordFillStates _ _ _) named rfl
    · exact .inl rfl

theorem dispatchBookVersion (shard : LOBShard) (event : MarketStateEvent) :
    (dispatch shard event).2.bookVersion =
      if bookSource event = "" then 0 else (dispatch shard event).1.bookVersion (bookSource event) := by
  have book := applyReports shard.bookStore event.wsEvent
  unfold Reports at book
  unfold dispatch bookSource booked
  cases kind : event.type with
  | wsLifecycle =>
    simp only [applyLifecycle]
    split <;> exact book
  | wsBookSnapshot => exact book
  | wsBookDelta => exact book
  | wsHeartbeat => exact book
  | _ => rfl
theorem chainEntity (writer : ChainStateWriter) {event : MarketStateEvent} (chain : chained event = true) :
    (ChainState.apply writer event.toMarketStateEvent).2.entityId =
    ChainState.resolveEntityId event.toMarketStateEvent := by
  have confirmed : ChainState.isRemoval event.toMarketStateEvent = true ∨
    ChainState.isConfirmation event.toMarketStateEvent = true := by
    rcases (Bool.or_eq_true _ _).mp chain with kind | kind
    · exact .inr (by simp [ChainState.isConfirmation,of_decide_eq_true kind])
    · exact .inl (by simp [ChainState.isRemoval,of_decide_eq_true kind])
  unfold ChainState.apply
  split
  · simp only [ChainState.applyRemoved]
    split <;> rfl
  · next kept =>
    rw [if_pos (confirmed.resolve_left kept)]
    simp only [ChainState.applyConfirmed]
    split
    · rfl
    · split
      · rfl
      · split
        · rfl
        · split <;> rfl
theorem dispatchChainVersion (shard : LOBShard) (blank : shard.chainState "" = none) (event : MarketStateEvent) :
    (dispatch shard event).2.chainVersion =
      if chainSource event = "" then 0 else (dispatch shard event).1.chainVersion (chainSource event) := by
  by_cases chain : chained event = true
  · have own : dispatch shard event = applyChainEvent shard event := by
      unfold dispatch
      rcases (Bool.or_eq_true _ _).mp chain with kind | kind <;> rw [of_decide_eq_true kind]
    have source : chainSource event = ChainState.resolveEntityId event.toMarketStateEvent := if_pos chain
    have reported : (applyChainEvent shard event).2.chainVersion = (applyChainEvent shard event).1.chainVersion
      (chainSource event) := by
      simp only [applyChainEvent]
      rw [chainEntity _ chain,source]
    rw [own,reported]
    split
    · next missing =>
      have untouched : (applyChainEvent shard event).1.chainState "" = shard.chainState "" := by
        rcases chainStep shard.chainWriter event.toMarketStateEvent "" with kept | ⟨-,named,-⟩
        · exact kept
        · exact absurd rfl named
      rw [missing,LOBShard.chainVersion,untouched,blank]
      rfl
    · rfl
  · have source : chainSource event = "" := if_neg chain
    rw [if_pos source]
    unfold dispatch
    unfold chained at chain
    cases kind : event.type with
    | wsLifecycle =>
      simp only [applyLifecycle]
      split <;> rfl
    | chainConfirmedFill => simp [kind] at chain
    | chainRemovedFill => simp [kind] at chain
    | _ => rfl

theorem dispatchGet (shard : LOBShard) (event : MarketStateEvent) (entityId : String) :
    (dispatch shard event).1.bookStore.get entityId =
      if bookSource event ≠ "" ∧ bookSource event = entityId then
        some (EntityStore.nextEntity (shard.bookStore.getOrCreate entityId) event.wsEvent)
      else shard.bookStore.get entityId := by
  rw [(dispatchKeeps shard event).1]
  unfold bookSource
  split
  · exact EntityStore.applyGet shard.bookStore event.wsEvent entityId
  · rw [if_neg (fun both => both.1 rfl)]
theorem stateVersion (shard : LOBShard) (entityId : String) :
    (shard.chainWriter.stateOf entityId).version = shard.chainVersion entityId := by
  unfold ChainStateWriter.stateOf LOBShard.chainVersion LOBShard.chainState
  cases shard.chainWriter.states.lookup entityId <;> rfl
theorem chainVersionCongr {shard shard' : LOBShard} {entityId : String}
    (same : shard.chainState entityId = shard'.chainState entityId) :
    shard.chainVersion entityId = shard'.chainVersion entityId := by
  unfold LOBShard.chainVersion
  rw [same]
theorem dispatchChain (shard : LOBShard) (event : MarketStateEvent) (entityId : String) :
    (dispatch shard event).1.chainState entityId = shard.chainState entityId ∨
      (chainSource event = entityId ∧ entityId ≠ "" ∧
        (dispatch shard event).1.chainVersion entityId = shard.chainVersion entityId + 1) := by
  unfold LOBShard.chainVersion LOBShard.chainState
  rw [(dispatchKeeps shard event).2.1]
  unfold chainSource
  split
  · rcases chainStep shard.chainWriter event.toMarketStateEvent
      entityId with kept | ⟨own,named,state,stored,version⟩
    · exact .inl kept
    · refine .inr ⟨own.symm,named,?_⟩
      rw [stored]
      exact version.trans (congrArg (· + 1) (stateVersion shard entityId))
  · exact .inl rfl

/-! Snapshots that can be trusted, and the condition on an event. -/

structure Integral (p : Publication) : Prop where
  quality : p.snapshot.quality = (assetQuality p.shard p.assetId).quality
  usableForDepth : p.snapshot.usableForDepth = (assetQuality p.shard p.assetId).usableForDepth
  usableForSignal : p.snapshot.usableForSignal = (assetQuality p.shard p.assetId).usableForSignal
  hashed : ∃ lastPacket lastBlock flags, p.snapshot.snapshotVersionHash =
    EntityStore.cheapSnapshotFingerprint p.assetId p.context.bookVersion p.context.chainVersion
      p.context.qualityVersion lastPacket lastBlock flags
  current : p.versions = (p.shard.bookVersion p.assetId,p.shard.chainVersion p.assetId,p.shard.qualityVersion)
structure SameState (p q : Publication) : Prop where
  book : bookState p.entity = bookState q.entity
  chain : p.shard.chainState p.assetId = q.shard.chainState q.assetId
  quality : assetQuality p.shard p.assetId = assetQuality q.shard q.assetId
def Distinguished (p q : Publication) : Prop := p.assetId = q.assetId → ¬ SameState p q → p.versions ≠ q.versions

abbrev Log := List (MarketStateEvent × Option Publication)
def observe (shard : LOBShard) (event : MarketStateEvent) : LOBShard × Option Publication :=
  ((apply shard event).1,publication shard event)
def publications (log : Log) : List Publication := log.filterMap Prod.snd
def packets (entityId : String) (log : Log) : List UInt64 :=
  log.filterMap fun entry => if bookSource entry.1 = entityId then some entry.1.wsEvent.packetId else none

-- The writer changed an entity although the event names no asset.
def Unnamed (shard : LOBShard) (event : MarketStateEvent) : Prop :=
  assetIdForEvent event = "" ∧ (dispatch shard event).2.mutation.publishRequired = true ∧
    (dispatch shard event).2.entityId ≠ "" ∧
    ((dispatch shard event).1.bookStore.get (dispatch shard event).2.entityId).isSome = true
-- The named asset has a book, and the writer or its quality moved.
def Due (shard : LOBShard) (event : MarketStateEvent) : Prop :=
  assetIdForEvent event ≠ "" ∧
    ((dispatch shard event).2.mutation.publishRequired = true ∨
      assetQuality (dispatch shard event).1 (assetIdForEvent event) ≠ shard.quality) ∧
    ((dispatch shard event).1.bookStore.get (assetIdForEvent event)).isSome = true
def Current (shard : LOBShard) (log : Log) (event : MarketStateEvent) : Prop :=
  ¬ Unnamed shard event ∧
    (Due shard event →
      (bookSource event = assetIdForEvent event ∨
        (bookSource event = "" ∧ shard.bookVersion (assetIdForEvent event) = 0)) ∧
      (chainSource event = assetIdForEvent event ∨
        (chainSource event = "" ∧ shard.chainVersion (assetIdForEvent event) = 0))) ∧
    (bookSource event ≠ "" → event.wsEvent.packetId ∉ packets (bookSource event) log) ∧
    shard.qualityVersion.toNat + 1 < 2^64 ∧ (shard.chainVersion (chainSource event)).toNat + 1 < 2^64
instance (shard event) : Decidable (Unnamed shard event) := by unfold Unnamed; infer_instance
instance (shard event) : Decidable (Due shard event) := by unfold Due; infer_instance
instance (shard log event) : Decidable (Current shard log event) := by unfold Current; infer_instance

/-! One event. -/

theorem stagedFrame (shard : LOBShard) (event : MarketStateEvent) :
    (staged shard event).1.bookStore = (dispatch shard event).1.bookStore ∧
      (staged shard event).1.chainWriter = (dispatch shard event).1.chainWriter ∧
      (staged shard event).2.bookVersion = (dispatch shard event).2.bookVersion ∧
      (staged shard event).2.chainVersion = (dispatch shard event).2.chainVersion := by
  obtain ⟨book,chain,-,-,hash,result⟩ :=
    fingerprintFrame (noteQuality (dispatch shard event) (assetIdForEvent event)) (assetIdForEvent event)
  obtain ⟨book',chain',bookVersion,chainVersion,-⟩ :=
    noteQualityFrame (dispatch shard event) (assetIdForEvent event)
  unfold staged
  rw [result]
  exact ⟨book.trans book',chain.trans chain',bookVersion,chainVersion⟩
theorem stagedQuality (shard : LOBShard) {event : MarketStateEvent} (named : assetIdForEvent event ≠ "") :
    (staged shard event).1.quality = assetQuality (dispatch shard event).1 (assetIdForEvent event) ∧
      (staged shard event).2.qualityVersion = (staged shard event).1.qualityVersion ∧
      (staged shard event).1.qualityVersion =
        if assetQuality (dispatch shard event).1 (assetIdForEvent event) = shard.quality then shard.qualityVersion
        else shard.qualityVersion + 1 := by
  obtain ⟨-,-,quality,version,hash,result⟩ :=
    fingerprintFrame (noteQuality (dispatch shard event) (assetIdForEvent event)) (assetIdForEvent event)
  obtain ⟨noted,reported,counted⟩ := noteQualityNamed (dispatch shard event) named
  obtain ⟨-,-,before,count⟩ := dispatchKeeps shard event
  unfold staged
  rw [quality,version,result,noted,counted,before,count]
  exact ⟨rfl,reported.trans (by rw [counted,before,count]),rfl⟩
theorem stagedUnnamed (shard : LOBShard) {event : MarketStateEvent} (unnamed : assetIdForEvent event = "") :
    (staged shard event).1.quality = shard.quality ∧ (staged shard event).1.qualityVersion = shard.qualityVersion ∧
      (staged shard event).2.mutation = (dispatch shard event).2.mutation ∧
      (staged shard event).2.entityId = (dispatch shard event).2.entityId := by
  obtain ⟨-,-,quality,version,hash,result⟩ := fingerprintFrame (noteQuality (dispatch shard event) "") ""
  rw [noteQualityUnnamed] at quality version result
  obtain ⟨-,-,before,count⟩ := dispatchKeeps shard event
  unfold staged
  rw [unnamed,noteQualityUnnamed,result]
  exact ⟨quality.trans before,version.trans count,rfl,rfl⟩
theorem stagedDue (shard : LOBShard) {event : MarketStateEvent} (named : assetIdForEvent event ≠ "")
    (required : (staged shard event).2.mutation.publishRequired = true) :
    (dispatch shard event).2.mutation.publishRequired = true ∨
      assetQuality (dispatch shard event).1 (assetIdForEvent event) ≠ shard.quality := by
  obtain ⟨-,-,-,-,hash,result⟩ :=
    fingerprintFrame (noteQuality (dispatch shard event) (assetIdForEvent event)) (assetIdForEvent event)
  obtain ⟨-,-,before,-⟩ := dispatchKeeps shard event
  unfold staged at required
  rw [result] at required
  unfold noteQuality at required
  rw [if_neg named] at required
  by_cases same : (refreshQuality (dispatch shard event).1 (assetIdForEvent event)).quality =
    (dispatch shard event).1.quality
  · simp only [if_pos same] at required
    exact .inl required
  · exact .inr (fun equal => same (equal.trans before.symm))

theorem applyState (shard : LOBShard) (event : MarketStateEvent) :
    (apply shard event).1.bookStore = (staged shard event).1.bookStore ∧
      (apply shard event).1.chainWriter = (staged shard event).1.chainWriter ∧
      (apply shard event).1.quality = (staged shard event).1.quality ∧
      (apply shard event).1.qualityVersion = (staged shard event).1.qualityVersion := by
  unfold apply publishAfterApply publishAssetSnapshot
  simp only
  split
  · exact ⟨rfl,rfl,rfl,rfl⟩
  · split <;> exact ⟨rfl,rfl,rfl,rfl⟩
-- The publication is the snapshot that apply hands to the publisher, and its flag says so.
theorem publicationShown (shard : LOBShard) (event : MarketStateEvent) :
    (apply shard event).2.snapshotPublished = (publication shard event).isSome ∧
      ∀ p ∈ publication shard event,
        (apply shard event).1.snapshotPublisher = p.shard.snapshotPublisher.publish p.snapshot := by
  have quiet : (staged shard event).2.snapshotPublished = false := by
    obtain ⟨-,-,-,-,hash,result⟩ :=
      fingerprintFrame (noteQuality (dispatch shard event) (assetIdForEvent event)) (assetIdForEvent event)
    obtain ⟨-,-,-,-,published⟩ := noteQualityFrame (dispatch shard event) (assetIdForEvent event)
    unfold staged
    rw [result]
    exact published.trans (dispatchUnpublished shard event).1
  unfold publication
  change (publishAfterApply (staged shard event) event).2.snapshotPublished = _ ∧
    ∀ p ∈ _, (publishAfterApply (staged shard event) event).1.snapshotPublisher = _
  unfold publishAfterApply publishAssetSnapshot
  simp only
  split
  · exact ⟨quiet,fun p mem => nomatch mem⟩
  · split
    · next absent =>
      rw [absent]
      exact ⟨rfl,fun p mem => nomatch mem⟩
    · next entity present =>
      rw [present]
      refine ⟨rfl,fun p mem => ?_⟩
      cases mem
      rfl

-- A publication that is not refused belongs to the asset the event names.
theorem publicationNamed {shard : LOBShard} {event : MarketStateEvent} {p : Publication}
    (shown : publication shard event = some p)
    (named : ¬ Unnamed shard event) :
    Due shard event ∧ p.shard = (staged shard event).1 ∧ p.assetId = assetIdForEvent event ∧
      p.shard.bookStore.get p.assetId = some p.entity ∧
        p.context = buildSnapshotContext (staged shard event).1 event (staged shard event).2 := by
  unfold publication at shown
  simp only at shown
  split at shown
  · cases shown
  · next open_ =>
    obtain ⟨required,some_⟩ := not_or.mp open_
    obtain ⟨entity,present,rfl⟩ := Option.map_eq_some_iff.mp shown
    have required := Bool.eq_true_of_not_eq_false required
    obtain ⟨book,-,-,-⟩ := stagedFrame shard event
    by_cases missing : assetIdForEvent event = ""
    · exfalso
      obtain ⟨-,-,mutation,entityId⟩ := stagedUnnamed shard missing
      have own : (buildSnapshotContext (staged shard event).1 event (staged shard event).2).assetId =
        (dispatch shard event).2.entityId := by
        simp only [buildSnapshotContext,missing,if_true]
        exact entityId
      rw [own] at some_ present
      refine named ⟨missing,mutation ▸ required,some_,?_⟩
      rw [← book,present]
      rfl
    · have own : (buildSnapshotContext (staged shard event).1 event (staged shard event).2).assetId =
        assetIdForEvent event := by
        simp only [buildSnapshotContext,if_neg missing]
      refine ⟨⟨missing,stagedDue shard missing required,?_⟩,rfl,own,present,rfl⟩
      rw [← book,← own,present]
      rfl

theorem versionHashNamed (shard : LOBShard) {assetId : String} (named : assetId ≠ "") (result : StateApplyResult) :
    ∃ lastPacket lastBlock flags, snapshotVersionHashFor shard assetId result =
      EntityStore.cheapSnapshotFingerprint assetId result.bookVersion result.chainVersion result.qualityVersion
        lastPacket lastBlock flags := by
  unfold snapshotVersionHashFor
  rw [if_pos named]
  exact ⟨_,_,_,rfl⟩
theorem assetQualityFrame {shard shard' : LOBShard} (book : shard'.bookStore = shard.bookStore)
    (chain : shard'.chainWriter = shard.chainWriter)
    (assetId : String) : assetQuality shard' assetId = assetQuality shard assetId := by
  unfold assetQuality qualityInput LOBShard.chainState
  rw [book,chain]
theorem bookVersionCurrent {shard : LOBShard} {event : MarketStateEvent} (named : assetIdForEvent event ≠ "")
    (source : bookSource event = assetIdForEvent event ∨
      (bookSource event = "" ∧ shard.bookVersion (assetIdForEvent event) = 0)) :
    (staged shard event).2.bookVersion = (staged shard event).1.bookVersion (assetIdForEvent event) := by
  obtain ⟨book,-,reported,-⟩ := stagedFrame shard event
  have after : (staged shard event).1.bookVersion (assetIdForEvent event) = (dispatch shard event).1.bookVersion
    (assetIdForEvent event) := by
    unfold LOBShard.bookVersion
    rw [book]
  rw [reported,after,dispatchBookVersion]
  rcases source with same | ⟨nowhere,zero⟩
  · rw [if_neg (same ▸ named),same]
  · rw [if_pos nowhere,LOBShard.bookVersion,dispatchGet,if_neg (fun both => both.1 nowhere)]
    exact zero.symm
theorem chainVersionCurrent {shard : LOBShard} {event : MarketStateEvent} (blank : shard.chainState "" = none)
    (named : assetIdForEvent event ≠ "")
    (source : chainSource event = assetIdForEvent event ∨
      (chainSource event = "" ∧ shard.chainVersion (assetIdForEvent event) = 0)) :
    (staged shard event).2.chainVersion = (staged shard event).1.chainVersion (assetIdForEvent event) := by
  obtain ⟨-,chain,-,reported⟩ := stagedFrame shard event
  have after : (staged shard event).1.chainVersion
    (assetIdForEvent event) = (dispatch shard event).1.chainVersion (assetIdForEvent event) := by
    unfold LOBShard.chainVersion LOBShard.chainState
    rw [chain]
  rw [reported,after,dispatchChainVersion shard blank]
  rcases source with same | ⟨nowhere,zero⟩
  · rw [if_neg (same ▸ named),same]
  · rw [if_pos nowhere]
    rcases dispatchChain shard event (assetIdForEvent event) with kept | ⟨own,-,-⟩
    · rw [chainVersionCongr kept]
      exact zero.symm
    · exact absurd (own.symm.trans nowhere) named
theorem publicationIntegral {shard : LOBShard} {log : Log} {event : MarketStateEvent} {p : Publication}
    (blank : shard.chainState "" = none)
    (current : Current shard log event) (shown : publication shard event = some p) :
    Integral p ∧ p.shard.quality = assetQuality p.shard p.assetId := by
  obtain ⟨unnamed,versions,-,-,-⟩ := current
  obtain ⟨due,from_,asset,present,context⟩ := publicationNamed shown unnamed
  obtain ⟨bookCurrent,chainCurrent⟩ := versions due
  obtain ⟨book,chain,-,-⟩ := stagedFrame shard event
  obtain ⟨quality,reported,-⟩ := stagedQuality shard due.1
  have own : p.shard.quality = assetQuality p.shard p.assetId := by
    rw [from_,asset,quality,assetQualityFrame book chain]
  refine ⟨⟨congrArg BookQualityState.quality own,congrArg BookQualityState.usableForDepth own,congrArg
    BookQualityState.usableForSignal own,?_,?_⟩,own⟩
  · have hash : p.snapshot.snapshotVersionHash = (staged shard event).2.snapshotVersionHash := by
      rw [Publication.snapshot,context]
      rfl
    have entered : (p.context.bookVersion,p.context.chainVersion,p.context.qualityVersion) =
        ((staged shard event).2.bookVersion,(staged shard event).2.chainVersion,(staged shard
          event).2.qualityVersion) := by
      rw [context]
      rfl
    simp only [Prod.mk.injEq] at entered
    rw [hash,asset,entered.1,entered.2.1,entered.2.2]
    exact versionHashNamed _ due.1 _
  · rw [Publication.versions,context,asset,from_]
    simp only [buildSnapshotContext,Prod.mk.injEq]
    exact ⟨bookVersionCurrent due.1 bookCurrent,chainVersionCurrent blank due.1 chainCurrent,reported⟩

/-! Runs. -/

-- A snapshot already shown, against a later shard: its versions are behind, or its state is still the same.
structure Behind (p : Publication) (shard : LOBShard) (log : Log) : Prop where
  seen : p.entity.lastPacketId ∈ packets p.assetId log
  present : p.shard.bookStore.get p.assetId = some p.entity
  own : p.shard.quality = assetQuality p.shard p.assetId
  quality : p.shard.qualityVersion.toNat < shard.qualityVersion.toNat ∨
    (p.shard.qualityVersion = shard.qualityVersion ∧ p.shard.quality = shard.quality)
  chain : (p.shard.chainVersion p.assetId).toNat < (shard.chainVersion p.assetId).toNat ∨
    p.shard.chainState p.assetId = shard.chainState p.assetId
  book : shard.bookVersion p.assetId ≠ p.entity.lastPacketId ∨
    ∃ entity, shard.bookStore.get p.assetId = some entity ∧ bookState entity = bookState p.entity
structure Recorded (shard : LOBShard) (log : Log) : Prop where
  blank : shard.chainState "" = none
  packets : ∀ entityId entity, shard.bookStore.get entityId = some entity →
    entity.lastPacketId ∈ packets entityId log
  behind : ∀ p ∈ publications log, Behind p shard log
  integral : ∀ p ∈ publications log, Integral p
  distinct : (publications log).Pairwise Distinguished

theorem countUp {v : UInt64} (room : v.toNat + 1 < 2^64) : (v + 1).toNat = v.toNat + 1 := by
  rw [UInt64.toNat_add]
  exact Nat.mod_eq_of_lt room
theorem applyQuality (shard : LOBShard) (event : MarketStateEvent) (room : shard.qualityVersion.toNat + 1 < 2^64) :
    (apply shard event).1.qualityVersion.toNat = shard.qualityVersion.toNat + 1 ∨
      ((apply shard event).1.qualityVersion = shard.qualityVersion ∧
        (apply shard event).1.quality = shard.quality) := by
  obtain ⟨-,-,quality,version⟩ := applyState shard event
  rw [quality,version]
  by_cases named : assetIdForEvent event = ""
  · obtain ⟨kept,count,-,-⟩ := stagedUnnamed shard named
    exact .inr ⟨count,kept⟩
  · obtain ⟨noted,-,count⟩ := stagedQuality shard named
    rw [noted,count]
    split
    · next same => exact .inr ⟨rfl,same⟩
    · exact .inl (countUp room)
theorem applyChain (shard : LOBShard) (event : MarketStateEvent)
    (room : (shard.chainVersion (chainSource event)).toNat + 1 < 2^64) (entityId : String) :
    (apply shard event).1.chainState entityId = shard.chainState entityId ∨
      (entityId ≠ "" ∧ ((apply shard event).1.chainVersion entityId).toNat =
        (shard.chainVersion entityId).toNat + 1) := by
  have chain : (apply shard event).1.chainWriter = (dispatch shard event).1.chainWriter :=
    (applyState shard event).2.1.trans (stagedFrame shard event).2.1
  unfold LOBShard.chainVersion LOBShard.chainState
  rw [chain]
  rcases dispatchChain shard event entityId with kept | ⟨own,named,counted⟩
  · exact .inl kept
  · refine .inr ⟨named,?_⟩
    rw [own] at room
    exact (congrArg UInt64.toNat counted).trans (countUp room)
theorem applyBook (shard : LOBShard) (event : MarketStateEvent) (entityId : String) :
    (apply shard event).1.bookStore.get entityId =
      if bookSource event ≠ "" ∧ bookSource event = entityId then
        some (EntityStore.nextEntity (shard.bookStore.getOrCreate entityId) event.wsEvent)
      else shard.bookStore.get entityId := by
  rw [(applyState shard event).1,(stagedFrame shard event).1,dispatchGet]

theorem packetsSnoc (entityId : String) (log : Log) (entry : MarketStateEvent × Option Publication) :
    packets entityId (log ++ [entry]) = packets entityId log ++ if bookSource entry.1 = entityId then
        [entry.1.wsEvent.packetId]
      else [] := by
  unfold packets
  rw [List.filterMap_append]
  by_cases own : bookSource entry.1 = entityId <;> simp [own]

theorem packetsStep {shard : LOBShard} {log : Log} (recorded : Recorded shard log) (event : MarketStateEvent)
    (shown : Option Publication)
    (entityId : String) (entity : EntityState)
    (found : (apply shard event).1.bookStore.get entityId = some entity) :
    entity.lastPacketId ∈ packets entityId (log ++ [(event,shown)]) := by
  rw [packetsSnoc]
  rw [applyBook] at found
  split at found
  · next written =>
    cases found
    rw [if_pos written.2]
    rcases nextPacket (shard.bookStore.getOrCreate entityId) event.wsEvent with moved | ⟨used,kept,-⟩
    · rw [moved]
      exact List.mem_append_right _ List.mem_cons_self
    · rw [kept]
      refine List.mem_append_left _ ?_
      -- only an entity that was there before can be closed or initialized
      cases before : shard.bookStore.get entityId with
      | none => simp [EntityStateStore.getOrCreate,before] at used
      | some old =>
        rw [EntityStateStore.getOrCreate,before]
        exact recorded.packets entityId old before
  · exact List.mem_append_left _ (recorded.packets entityId entity found)

theorem behindStep {shard : LOBShard} {log : Log} {event : MarketStateEvent} {p : Publication}
    (shown : Option Publication)
    (current : Current shard log event) (behind : Behind p shard log) :
    Behind p (apply shard event).1 (log ++ [(event,shown)]) := by
  obtain ⟨-,-,fresh,roomQuality,roomChain⟩ := current
  refine ⟨?_,behind.present,behind.own,?_,?_,?_⟩
  · rw [packetsSnoc]
    exact List.mem_append_left _ behind.seen
  · rcases applyQuality shard event roomQuality with counted | ⟨version,quality⟩
    · left
      rw [counted]
      rcases behind.quality with less | ⟨same,-⟩
      · omega
      · rw [same]
        omega
    · rw [version,quality]
      exact behind.quality
  · rcases applyChain shard event roomChain p.assetId with kept | ⟨-,counted⟩
    · rw [kept,chainVersionCongr kept]
      exact behind.chain
    · left
      rw [counted]
      rcases behind.chain with less | same
      · omega
      · rw [chainVersionCongr same]
        omega
  · rw [LOBShard.bookVersion,applyBook]
    split
    · next written =>
      rcases nextPacket (shard.bookStore.getOrCreate p.assetId) event.wsEvent with moved | ⟨used,kept,same⟩
      · left
        have unseen := fresh written.1
        rw [written.2] at unseen
        intro equal
        have taken : event.wsEvent.packetId = p.entity.lastPacketId := moved.symm.trans equal
        exact unseen (taken ▸ behind.seen)
      · cases before : shard.bookStore.get p.assetId with
        | none => simp [EntityStateStore.getOrCreate,before] at used
        | some old =>
          have own : shard.bookStore.getOrCreate p.assetId = old := by
            rw [EntityStateStore.getOrCreate,before]; rfl
          rw [own] at kept same ⊢
          have book := behind.book
          rw [LOBShard.bookVersion,before] at book
          rcases book with other | ⟨entity,found,state⟩
          · exact .inl (fun equal => other (kept.symm.trans equal))
          · cases found
            exact .inr ⟨_,rfl,same.trans state⟩
    · exact behind.book

theorem behindSelf {shard : LOBShard} {log : Log} {event : MarketStateEvent} {p : Publication}
    (recorded : Recorded shard log)
    (current : Current shard log event) (shown : publication shard event = some p) :
    Behind p (apply shard event).1 (log ++ [(event,some p)]) := by
  obtain ⟨-,from_,-,present,-⟩ := publicationNamed shown current.1
  obtain ⟨book,chain,quality,version⟩ := applyState shard event
  rw [← from_] at book chain quality version
  have there : (apply shard event).1.bookStore.get p.assetId = some p.entity := by rw [book,present]
  refine ⟨packetsStep recorded event
    (some p) p.assetId p.entity there,present,(publicationIntegral recorded.blank current shown).2,
    .inr ⟨version.symm,quality.symm⟩,.inr ?_,.inr ⟨p.entity,there,rfl⟩⟩
  unfold LOBShard.chainState
  rw [chain]
theorem distinguishedLater {p q : Publication} {shard : LOBShard} {log : Log} (earlier : Behind p shard log)
    (later : Behind q shard log)
    (integralP : Integral p) (integralQ : Integral q) (book : q.shard.bookStore = shard.bookStore)
    (chain : q.shard.chainWriter = shard.chainWriter)
    (quality : q.shard.quality = shard.quality) (version : q.shard.qualityVersion = shard.qualityVersion) :
    Distinguished p q := by
  intro asset differ equal
  apply differ
  rw [integralP.current,integralQ.current,← asset] at equal
  simp only [Prod.mk.injEq] at equal
  obtain ⟨books,chains,qualities⟩ := equal
  have chainThere : shard.chainState p.assetId = q.shard.chainState p.assetId := by
    unfold LOBShard.chainState
    rw [chain]
  refine ⟨?_,?_,?_⟩
  · have packet : shard.bookVersion p.assetId = p.entity.lastPacketId := by
      rw [LOBShard.bookVersion,← book,← LOBShard.bookVersion,← books,LOBShard.bookVersion,earlier.present]
      rfl
    obtain ⟨entity,found,state⟩ := earlier.book.resolve_left (not_not_intro packet)
    have there := later.present
    rw [book,← asset,found] at there
    cases there
    exact state.symm
  · rw [← asset,← chainThere]
    refine earlier.chain.resolve_left ?_
    rw [chains,chainVersionCongr chainThere]
    exact lt_irrefl _
  · rw [← earlier.own,← later.own,quality]
    refine (earlier.quality.resolve_left ?_).2
    rw [qualities,version]
    exact lt_irrefl _

theorem recordedStep (shard : LOBShard) (log : Log) (event : MarketStateEvent) (recorded : Recorded shard log)
    (current : Current shard log event) :
    Recorded (observe shard event).1 (log ++ [(event,(observe shard event).2)]) := by
  have behind : ∀ p ∈ publications log,
      Behind p (apply shard event).1 (log ++ [(event,publication shard event)]) :=
    fun p mem => behindStep _ current (recorded.behind p mem)
  have blank : (apply shard event).1.chainState "" = none := by
    rcases applyChain shard event current.2.2.2.2 "" with kept | ⟨named,-⟩
    · rw [kept]
      exact recorded.blank
    · exact absurd rfl named
  have packets := packetsStep recorded event (publication shard event)
  unfold observe
  cases shown : publication shard event with
  | none =>
    rw [shown] at behind packets
    have same : publications (log ++ [(event,none)]) = publications log := by simp [publications]
    exact ⟨blank,packets,by rw [same]; exact behind,by rw [same]; exact recorded.integral,
      by rw [same]; exact recorded.distinct⟩
  | some p =>
    rw [shown] at behind packets
    have grown : publications (log ++ [(event,some p)]) = publications log ++ [p] := by simp [publications]
    have self := behindSelf recorded current shown
    have integral := (publicationIntegral recorded.blank current shown).1
    obtain ⟨-,from_,-,-,-⟩ := publicationNamed shown current.1
    obtain ⟨book,chain,quality,version⟩ := applyState shard event
    rw [← from_] at book chain quality version
    refine ⟨blank,packets,?_,?_,?_⟩
    · rw [grown]
      intro q mem
      rcases List.mem_append.mp mem with old | new
      · exact behind q old
      · cases List.mem_singleton.mp new
        exact self
    · rw [grown]
      intro q mem
      rcases List.mem_append.mp mem with old | new
      · exact recorded.integral q old
      · cases List.mem_singleton.mp new
        exact integral
    · rw [grown,List.pairwise_append]
      refine ⟨recorded.distinct,List.pairwise_singleton _ _,fun q old r new => ?_⟩
      cases List.mem_singleton.mp new
      exact distinguishedLater (behind q old) self
        (recorded.integral q old) integral book.symm chain.symm quality.symm version.symm

def published (shard : LOBShard) (events : List MarketStateEvent) : List Publication :=
  publications (Machine.run observe shard [] events).2

theorem snapshotsIntegral (hashMode : EntityStore.StateHashMode) (events : List MarketStateEvent)
    (current : Machine.Along observe Current {bookStore := {hashMode}} [] events) :
    (∀ p ∈ published {bookStore := {hashMode}} events, Integral p) ∧
    (published {bookStore := {hashMode}} events).Pairwise Distinguished := by
  have start : Recorded {bookStore := {hashMode}} [] :=
    ⟨rfl,fun _ _ found => (nomatch found),fun _ mem => (nomatch mem),fun _ mem => (nomatch mem),List.Pairwise.nil⟩
  have recorded := Machine.invariantAlong (P := Recorded) recordedStep start current
  exact ⟨recorded.integral,recorded.distinct⟩

-- 0.5 and 0.75 as prices, 10 as a size.
def openingBook : MarketStateEvent :=
  {type := .wsBookSnapshot, marketId := "M", assetId := "A"
   wsEvent :=
    {eventType := .snapshot, marketId := "M", assetId := "A", entityId := "A", packetId := 1,
      recvMonotonicNs := 1000
     bids := [⟨⟨0x3fe0000000000000⟩,⟨0x4024000000000000⟩⟩], asks := [⟨⟨0x3fe8000000000000⟩,⟨0x4024000000000000⟩⟩]}}
def laterDelta : MarketStateEvent :=
  {openingBook with
    type := .wsBookDelta
    wsEvent :=
      { openingBook.wsEvent with
        eventType := .delta
        packetId := 2
        changes := [⟨.ask,⟨0x3fe8000000000000⟩,⟨0⟩⟩] } }
def confirmedFill (assetId : String) : MarketStateEvent :=
  {type := .chainConfirmedFill, marketId := "M", assetId
   chainFill :=
    {fillId := "f", marketId := "M", assetId, priceTick := 500000, sizeLots := 7, direction := .buyAggressor,
      mappingStatus := .mapped
     classification := .chainConfirmed, blockNumber := 9, chainSeenMonotonicNs := 2000}}
def newMarket : MarketStateEvent :=
  {type := .wsLifecycle, marketId := "M"
   wsEvent :=
     { eventType := .lifecycleEvent
       rawType := "new_market"
       marketId := "M"
       entityId := "M"
       packetId := 3
       recvMonotonicNs := 500 } }
def settlement : MarketStateEvent := {type := .chainSettlement, marketId := "M", sourceSequence := 4}

theorem bookFeedIntegral :
    (∀ p ∈ published {bookStore := {hashMode := .hotPathLight}}
      [openingBook,confirmedFill "B",laterDelta], Integral p) ∧
      (published {bookStore := {hashMode := .hotPathLight}} [openingBook,confirmedFill "B",laterDelta]).Pairwise
      Distinguished :=
  snapshotsIntegral .hotPathLight [openingBook,confirmedFill "B",laterDelta] (by decide +kernel)
theorem fillAndSettlementMislead :
    ¬ (∀ p ∈ published {bookStore := {hashMode := .hotPathLight}} [openingBook,confirmedFill "A"], Integral p) ∧
      ¬ (∀ p ∈ published {bookStore := {hashMode := .hotPathLight}} [newMarket,openingBook,settlement],
        Integral p) := by
  constructor
  · intro integral
    have stale : (published {bookStore := {hashMode := .hotPathLight}} [openingBook,confirmedFill "A"]).any
        (fun p => decide (p.context.bookVersion ≠ p.shard.bookVersion p.assetId)) = true := by decide +kernel
    obtain ⟨p,mem,differs⟩ := List.any_eq_true.mp stale
    exact of_decide_eq_true differs (congrArg Prod.fst (integral p mem).current)
  · intro integral
    have foreign : (published {bookStore := {hashMode := .hotPathLight}} [newMarket,openingBook,settlement]).any
        (fun p => decide (p.snapshot.usableForDepth ≠ (assetQuality p.shard p.assetId).usableForDepth)) =
        true := by decide +kernel
    obtain ⟨p,mem,differs⟩ := List.any_eq_true.mp foreign
    exact of_decide_eq_true differs (integral p mem).usableForDepth

end Polytope.SnapshotIntegrity
