import Polytope.SnapshotIntegrity
import Polytope.SnapshotPublishing

/-! From the shard to the readers of its publisher: over any run of events a reader of an asset is answered with
the last snapshot the shard built for it, and an event moves what readers see of one asset at most. -/
namespace Polytope.SnapshotReaders
open MarketShard SnapshotIntegrity
open EntityBooks (EntityState)
open EntityStore (nextEntity)
open MarketDepth (MarketDepthView marketDepthViewFromSnapshot)
open SnapshotPublishing (Turned stamped nextVersion publishTurned publishCurrent readResult readDepthIff
  risesIff resultOf viewsOf)

def lastOf (assetId : String) (log : Log) : Option Publication :=
  ((publications log).filter fun p => p.assetId = assetId).getLast?
-- What is shown of an asset is the last snapshot built for it, at the version the publisher gave it.
def Follows (log : Log) (assetId : String) (shown : Option MarketStateSnapshot) : Prop :=
  match lastOf assetId log with
  | none => shown = none
  | some p => ∃ version, p.snapshot.version ≤ version ∧ shown = some {p.snapshot with version}

-- A flagged event shows its snapshot under a version above the one shown before, and nothing else moves.
structure Shows (shard : LOBShard) (event : MarketStateEvent) : Prop where
  flag : (apply shard event).2.snapshotPublished = (publication shard event).isSome
  fresh : ∀ p ∈ publication shard event, ∃ version, p.snapshot.version ≤ version ∧
    (apply shard event).1.snapshotPublisher.current p.assetId = some {p.snapshot with version} ∧
    ∀ old, shard.snapshotPublisher.current p.assetId = some old → old.version ≠ 2^64 - 1 → old.version < version
  others : ∀ assetId, (∀ p ∈ publication shard event, p.assetId ≠ assetId) →
    (apply shard event).1.snapshotPublisher.current assetId = shard.snapshotPublisher.current assetId
structure Reads (shard : LOBShard) (log : Log) (assetId : String) (shown : Option MarketStateSnapshot) : Prop where
  follows : Follows log assetId shown
  read : shard.snapshotPublisher.read assetId = resultOf assetId shown
  depth : ∀ assetIndex, shard.snapshotPublisher.readDepthMany [some assetId] [assetIndex] 1 =
    some (shown.map fun snapshot => marketDepthViewFromSnapshot snapshot.toMarketStateSnapshot assetIndex).toList

/-! An entity keeps the id it is stored under. -/

section
open EntityBooks EntityStore

theorem countErrorOwn (entity : EntityState) (seen : Bool) :
    (countError entity seen).entityId = entity.entityId := by
  unfold countError
  split <;> rfl
theorem deltaOwn (entity : EntityState) (event : NormalizedEvent) :
    (deltaEntity entity event).entityId = entity.entityId := by
  unfold deltaEntity
  by_cases changed : (deltaWalk entity event).changed = true
  · simp only [changed,if_true]
    split
    · exact (countErrorOwn _ _).trans rfl
    · rfl
  · simp only [if_neg changed]
    split
    · exact (countErrorOwn _ _).trans rfl
    · rfl
theorem nextOwn (entity : EntityState) (event : NormalizedEvent) :
    (nextEntity entity event).entityId = entity.entityId := by
  unfold nextEntity
  split
  · split
    · rfl
    · exact (countErrorOwn _ _).trans rfl
  · split
    · rfl
    · split
      · rfl
      · exact deltaOwn entity event
  · split
    · rfl
    · unfold statusEntity
      refine (countErrorOwn _ _).trans ?_
      simp only [markEntityPacket]
      split <;> rfl
  · simp only [lifecycleEntity,markEntityPacket,closeEntity]
    split
    · rfl
    · split <;> rfl
  · rfl
end
def Owned (shard : LOBShard) : Prop :=
  ∀ entityId entity, shard.bookStore.get entityId = some entity → entity.entityId = entityId
theorem ownedNext {shard : LOBShard} (owned : Owned shard) (event : MarketStateEvent) :
    Owned (staged shard event).1 := by
  intro entityId entity found
  rw [(stagedFrame shard event).1,dispatchGet] at found
  split at found
  · cases found
    rw [nextOwn,EntityStore.EntityStateStore.getOrCreate]
    cases before : shard.bookStore.get entityId with
    | none => rfl
    | some old => exact owned entityId old before
  · exact owned entityId entity found

/-! One event. -/

theorem stagedPublisher (shard : LOBShard) (event : MarketStateEvent) :
    (staged shard event).1.snapshotPublisher = shard.snapshotPublisher := by
  have dispatched : (dispatch shard event).1.snapshotPublisher = shard.snapshotPublisher := by
    unfold dispatch
    cases event.type with
    | wsLifecycle =>
      simp only [applyLifecycle]
      split <;> rfl
    | _ => rfl
  have noted : (noteQuality (dispatch shard event) (assetIdForEvent event)).1.snapshotPublisher =
    shard.snapshotPublisher := by
    unfold noteQuality
    split
    · exact dispatched
    · simp only
      split <;> exact dispatched
  unfold staged fingerprint
  simp only
  split <;> exact noted
theorem unpublished {shard : LOBShard} {event : MarketStateEvent} (none : publication shard event = none) :
    (apply shard event).1.snapshotPublisher = shard.snapshotPublisher := by
  rw [← stagedPublisher shard event]
  unfold publication at none
  change (publishAfterApply (staged shard event) event).1.snapshotPublisher = _
  unfold publishAfterApply publishAssetSnapshot
  simp only at none ⊢
  split
  · rfl
  · next due =>
    rw [if_neg due,Option.map_eq_none_iff] at none
    rw [none]
theorem publicationOwn {shard : LOBShard} {event : MarketStateEvent} (owned : Owned shard) {p : Publication}
    (shown : publication shard event = some p) : p.snapshot.entityId = p.assetId ∧ p.assetId ≠ "" ∧
    p.shard = (staged shard event).1 := by
  unfold publication at shown
  simp only at shown
  split at shown
  · cases shown
  · next due =>
    obtain ⟨entity,found,same⟩ := Option.map_eq_some_iff.mp shown
    cases same
    exact ⟨ownedNext owned event _ entity found,fun empty => due (.inr empty),rfl⟩
theorem publicationFits (p : Publication) : p.snapshot.version < 2^64 := p.entity.lastPacketId.toNat_lt

structure Kept (shard : LOBShard) : Prop where
  turned : Turned shard.snapshotPublisher
  owned : Owned shard
theorem publishedCurrent {shard : LOBShard} {event : MarketStateEvent} (kept : Kept shard) {p : Publication}
    (shown : publication shard event = some p) (assetId : String) :
    (apply shard event).1.snapshotPublisher.current assetId =
      if assetId = p.assetId then some (stamped shard.snapshotPublisher p.snapshot)
      else shard.snapshotPublisher.current assetId := by
  obtain ⟨own,named,same⟩ := publicationOwn kept.owned shown
  rw [(publicationShown shard event).2 p shown,same,stagedPublisher,publishCurrent kept.turned (own ▸ named)
    (publicationFits p),own]
theorem keptNext {shard : LOBShard} (kept : Kept shard) (event : MarketStateEvent) :
    Kept (apply shard event).1 := by
  constructor
  · cases shown : publication shard event with
    | none =>
      rw [unpublished shown]
      exact kept.turned
    | some p =>
      obtain ⟨own,named,same⟩ := publicationOwn kept.owned shown
      rw [(publicationShown shard event).2 p shown,same,stagedPublisher]
      exact publishTurned kept.turned (own ▸ named) (publicationFits p)
  · unfold Owned
    rw [(applyState shard event).1]
    exact ownedNext kept.owned event
theorem showsNext {shard : LOBShard} (kept : Kept shard) (event : MarketStateEvent) : Shows shard event := by
  refine ⟨(publicationShown shard event).1,fun p shown => ?_,fun assetId apart => ?_⟩
  · have own := (publicationOwn kept.owned shown).1
    refine ⟨nextVersion shard.snapshotPublisher p.snapshot,Nat.le_max_left _ _,?_,fun old before room => ?_⟩
    · rw [publishedCurrent kept shown,if_pos rfl]
      rfl
    · exact (risesIff (publicationFits p) kept.turned (own ▸ before)).mpr room
  · cases shown : publication shard event with
    | none => rw [unpublished shown]
    | some p => rw [publishedCurrent kept shown,if_neg (Ne.symm (apart p shown))]

/-! Runs. -/

theorem lastOfSnoc (assetId : String) (log : Log) (event : MarketStateEvent) (shown : Option Publication) :
    lastOf assetId (log ++ [(event,shown)]) = (shown.filter fun p => p.assetId = assetId).or
      (lastOf assetId log) := by
  unfold lastOf publications
  rw [List.filterMap_append]
  cases shown with
  | none => simp
  | some p => by_cases own : p.assetId = assetId <;> simp [own,Option.filter]
structure Served (shard : LOBShard) (log : Log) : Prop where
  kept : Kept shard
  follows : ∀ assetId, Follows log assetId (shard.snapshotPublisher.current assetId)
theorem servedNext (shard : LOBShard) (log : Log) (event : MarketStateEvent) (served : Served shard log) :
    Served (observe shard event).1 (log ++ [(event,(observe shard event).2)]) := by
  refine ⟨keptNext served.kept event,fun assetId => ?_⟩
  have before := served.follows assetId
  unfold Follows at before ⊢
  change match lastOf assetId (log ++ [(event,publication shard event)]) with
    | none => (apply shard event).1.snapshotPublisher.current assetId = none
    | some p => ∃ version, p.snapshot.version ≤ version ∧
        (apply shard event).1.snapshotPublisher.current assetId = some {p.snapshot with version}
  rw [lastOfSnoc]
  cases shown : publication shard event with
  | none =>
    rw [unpublished shown]
    exact before
  | some p =>
    rw [publishedCurrent served.kept shown]
    by_cases own : p.assetId = assetId
    · rw [Option.filter_some,if_pos (decide_eq_true own),if_pos own.symm]
      exact ⟨_,Nat.le_max_left _ _,rfl⟩
    · rw [Option.filter_some,if_neg (by simp [own]),if_neg (Ne.symm own)]
      exact before
theorem servedStart (hashMode : EntityStore.StateHashMode) : Served {bookStore := {hashMode}} [] :=
  ⟨⟨fun _ _ found => (nomatch found),fun _ _ found => (nomatch found)⟩,fun _ => rfl⟩
theorem servedReads {shard : LOBShard} {log : Log} (served : Served shard log) (assetId : String) :
    Reads shard log assetId (shard.snapshotPublisher.current assetId) := by
  refine ⟨served.follows assetId,readResult served.kept.turned assetId,fun assetIndex => ?_⟩
  rw [(readDepthIff served.kept.turned [assetIndex] 1 [some assetId]).mpr (.inr (by simp))]
  cases shown : shard.snapshotPublisher.current assetId <;> simp [viewsOf,shown]

theorem readersFollowShard (hashMode : EntityStore.StateHashMode) (events : List MarketStateEvent) :
    Machine.Along observe (fun shard _ event => Shows shard event) {bookStore := {hashMode}} [] events ∧
      ∀ assetId, ∃ shown, Reads (Machine.run observe {bookStore := {hashMode}} [] events).1
        (Machine.run observe {bookStore := {hashMode}} [] events).2 assetId shown := by
  constructor
  · exact Machine.alongImp (fun shard log event served _ => servedNext shard log event served)
      (fun _ _ event served _ => showsNext served.kept event) (servedStart hashMode) (Machine.alongTrue _ _ _ _)
  · exact fun assetId => ⟨_,servedReads (Machine.invariant servedNext events (servedStart hashMode)) assetId⟩

end Polytope.SnapshotReaders
