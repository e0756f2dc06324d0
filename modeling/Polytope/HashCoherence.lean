import Polytope.EntityStore

/-! The hash cache against the state. Only an event that reports a change marks the cache; an event
that counts something and reports none leaves a clean hash behind, so the cache stays coherent as
long as such an event finds nothing clean to spoil. -/
namespace Polytope.HashCoherence
open EntityBooks EntityStore

inductive StoreOp where
  | event (event : NormalizedEvent)
  | stateHash (entityId : String)
  | globalHash
inductive StoreAnswer where
  | applied (result : StateApplyResult)
  | hash (value : UInt64)
def step (store : EntityStateStore) : StoreOp → EntityStateStore × StoreAnswer
  | .event event => ((apply store event).1,.applied (apply store event).2)
  | .stateHash entityId => ((store.stateHash entityId).1,.hash (store.stateHash entityId).2)
  | .globalHash => (store.globalHash.1,.hash store.globalHash.2)

def Coherent (store : EntityStateStore) : Prop :=
  (∀ entityId, (store.stateHash entityId).2 = store.debugRecomputedStateHash entityId) ∧
    store.globalHash.2 = store.debugRecomputedGlobalHash
def StaysCoherent (store : EntityStateStore) (_ : List (StoreOp × StoreAnswer)) (op : StoreOp) : Prop :=
  Coherent (step store op).1

-- A silent event may only reach an entity whose hash is not clean, while the global hash is not clean either.
def FindsNothingClean (store : EntityStateStore) (_ : List (StoreOp × StoreAnswer)) : StoreOp → Prop
  | .event event =>
    entityOf event ≠ "" → changesState store event = false →
      store.hashCache.clean (entityOf event) = none ∧ store.hashCache.globalDirty = true
  | _ => True
instance (store : EntityStateStore) (log : List (StoreOp × StoreAnswer)) (op : StoreOp) :
    Decidable (FindsNothingClean store log op) :=
  match op with
  | .event _ => inferInstanceAs (Decidable (_ → _ → _))
  | .stateHash _ => isTrue trivial
  | .globalHash => isTrue trivial

/-! What the cache holds is what would be computed. -/

structure Truthful (entities : Entities) (cache : StateHashCache) : Prop where
  each : ∀ entityId entity hash, entities.find entityId = some entity → cache.clean entityId = some hash →
    hash = hashEntity entity
  all : cache.globalDirty = false → cache.globalHash = hashEntityMap entities

theorem entityHashAnswer (cache : StateHashCache) (entities : Entities) (entityId : String) :
    (cache.entityHashOf entities entityId).2 =
      match entities.find entityId with
      | none => 0
      | some entity => (cache.clean entityId).getD (hashEntity entity) := by
  unfold StateHashCache.entityHashOf
  cases entities.find entityId with
  | none => rfl
  | some entity => cases cache.clean entityId <;> rfl
theorem coherentIff (store : EntityStateStore) : Coherent store ↔ Truthful store.entities store.hashCache := by
  have each : ∀ entityId, (store.stateHash entityId).2 =
    (store.hashCache.entityHashOf store.entities entityId).2 := fun _ => rfl
  have global : store.globalHash.2 = (store.hashCache.globalHashOf store.entities).2 := rfl
  constructor
  · rintro ⟨coherent,whole⟩
    constructor
    · intro entityId entity hash found clean
      have same := coherent entityId
      rw [each,entityHashAnswer,EntityStateStore.debugRecomputedStateHash,EntityStateStore.get,found] at same
      simpa [clean] using same
    · intro settled
      rw [global,StateHashCache.globalHashOf,if_pos settled] at whole
      exact whole
  · rintro ⟨truth,whole⟩
    constructor
    · intro entityId
      rw [each,entityHashAnswer,EntityStateStore.debugRecomputedStateHash,EntityStateStore.get]
      cases found : store.entities.find entityId with
      | none => rfl
      | some entity =>
        cases clean : store.hashCache.clean entityId with
        | none => simp only [Option.getD_none]
        | some hash =>
          simp only [Option.getD_some]
          exact truth entityId entity hash found clean
    · rw [global,StateHashCache.globalHashOf]
      split
      · next settled => exact whole settled
      · rfl

theorem entityHashTruthful {entities : Entities} {cache : StateHashCache} (truth : Truthful entities cache)
    (entityId : String) :
    Truthful entities (cache.entityHashOf entities entityId).1 := by
  unfold StateHashCache.entityHashOf
  cases found : entities.find entityId with
  | none =>
    refine ⟨fun other entity hash here clean => ?_,truth.all⟩
    by_cases same : other = entityId
    · rw [same,found] at here
      cases here
    · refine truth.each other entity hash here ?_
      simpa [StateHashCache.clean,AList.lookup_erase_ne same] using clean
  | some entity =>
    cases cached : cache.clean entityId with
    | some hash => exact ⟨truth.each,truth.all⟩
    | none =>
      refine ⟨fun other entity' hash here clean => ?_,truth.all⟩
      by_cases same : other = entityId
      · rw [same,found] at here
        cases here
        rw [same] at clean
        have stored : hashEntity entity = hash := by simpa [StateHashCache.clean] using clean
        exact stored.symm
      · refine truth.each other entity' hash here ?_
        simpa [StateHashCache.clean,AList.lookup_insert_ne same] using clean
theorem globalHashTruthful {entities : Entities} {cache : StateHashCache} (truth : Truthful entities cache) :
    Truthful entities (cache.globalHashOf entities).1 := by
  unfold StateHashCache.globalHashOf
  split
  · exact ⟨truth.each,truth.all⟩
  · exact ⟨truth.each,fun _ => rfl⟩
theorem markDirtyTruthful {entities next : Entities} {cache : StateHashCache} {entityId : String}
    (truth : Truthful entities cache)
    (named : entityId ≠ "") (others : ∀ other, other ≠ entityId → next.find other = entities.find other) :
    Truthful next (cache.markDirty entityId) := by
  unfold StateHashCache.markDirty
  rw [if_neg named]
  refine ⟨fun other entity hash here clean => ?_,fun settled => nomatch settled⟩
  by_cases same : other = entityId
  · subst same
    simp [StateHashCache.clean] at clean
  · rw [others other same] at here
    refine truth.each other entity hash here ?_
    simpa [StateHashCache.clean,AList.lookup_insert_ne same] using clean

theorem fullHashesTruthful {store : EntityStateStore} (truth : Truthful store.entities store.hashCache)
    (entityId : String) :
    Truthful store.entities (fullHashes store entityId).1.hashCache := by
  have start : Truthful store.entities store.takeAccessStats.1.hashCache := ⟨truth.each,truth.all⟩
  unfold fullHashes
  simp only
  split
  · have whole := globalHashTruthful start
    exact ⟨whole.each,whole.all⟩
  · have whole := globalHashTruthful (entityHashTruthful start entityId)
    exact ⟨whole.each,whole.all⟩

/-! One operation. -/

theorem nextFindOther (store : EntityStateStore) (event : NormalizedEvent) {other : String}
    (different : other ≠ entityOf event) :
    (nextEntities store event).find other = store.entities.find other := by
  unfold nextEntities
  split
  · rfl
  · rw [OrderedMap.findAssign,if_neg (Ne.symm different)]
theorem applyTruthful {store : EntityStateStore} {log : List (StoreOp × StoreAnswer)} {event : NormalizedEvent}
    (truth : Truthful store.entities store.hashCache) (quiet : FindsNothingClean store log (.event event)) :
    Truthful (apply store event).1.entities (apply store event).1.hashCache := by
  obtain ⟨next,-,cache,entities,out⟩ := applyHanded store event
  rw [out,settleEntities,settle]
  cases changed : changesState store event with
  | false =>
    -- Nothing is marked: either no entity moved or nothing clean was there to go stale.
    have unmarked : markChanged next (entityOf event) false = next := if_neg fun marked => nomatch marked.1
    simp only [unmarked,true_or,if_true]
    rw [cache,entities]
    by_cases named : entityOf event = ""
    · rw [nextEntities,if_pos named]
      exact truth
    · obtain ⟨unclean,dirty⟩ := quiet named changed
      refine ⟨fun other entity hash here clean => ?_,fun settled => ?_⟩
      · by_cases same : other = entityOf event
        · rw [same,unclean] at clean
          cases clean
        · rw [nextFindOther store event same] at here
          exact truth.each other entity hash here clean
      · rw [dirty] at settled
        cases settled
  | true =>
    have named : entityOf event ≠ "" := fun missing => by simp [changesState,missing] at changed
    have marked : markChanged next
      (entityOf event) true = {next with hashCache := next.hashCache.markDirty (entityOf event)} :=
      if_pos ⟨rfl,named⟩
    have fresh : Truthful (markChanged next (entityOf event) true).entities
      (markChanged next (entityOf event) true).hashCache := by
      rw [marked,cache,entities]
      exact markDirtyTruthful truth named fun other different => nextFindOther store event different
    have kept : next.entities = (markChanged next (entityOf event) true).entities :=
      (markChangedEntities next _ true).symm
    rw [kept]
    split
    · exact fresh
    · exact fullHashesTruthful fresh (entityOf event)
theorem stepTruthful {store : EntityStateStore} {log : List (StoreOp × StoreAnswer)} {op : StoreOp}
    (truth : Truthful store.entities store.hashCache) (quiet : FindsNothingClean store log op) :
    Truthful (step store op).1.entities (step store op).1.hashCache := by
  cases op with
  | event event => exact applyTruthful truth quiet
  | stateHash entityId => exact entityHashTruthful truth entityId
  | globalHash => exact globalHashTruthful truth

theorem coherentAlong (hashMode : StateHashMode) (ops : List StoreOp)
    (quiet : Machine.Along step FindsNothingClean {hashMode} [] ops) :
    Machine.Along step StaysCoherent {hashMode} [] ops := by
  refine Machine.alongImp (P := fun (store : EntityStateStore) _ =>
    Truthful store.entities store.hashCache) ?_ ?_ ?_ quiet
  · exact fun store log op truth quiet => stepTruthful truth quiet
  · exact fun store log op truth quiet => (coherentIff _).mpr (stepTruthful truth quiet)
  · exact ⟨fun _ _ _ found => (nomatch found),fun settled => nomatch settled⟩

def trade : NormalizedEvent := {eventType := .tradeEvent, entityId := "A", packetId := 2}
theorem hotPathCoherent :
    Machine.Along step StaysCoherent {hashMode := .hotPathLight} []
      [.event openingBook,.event trade,.stateHash "A",.globalHash,.event closing,.event
        {trade with packetId := 4},.globalHash] :=
  coherentAlong .hotPathLight _ (by decide +kernel)
-- A trade counts as ignored, which the hash covers, but reports no change.
theorem tradeLeavesStaleHash :
    ¬ Machine.Along step StaysCoherent {hashMode := .replayFull} [] [.event openingBook,.event trade] := by
  rintro ⟨-,⟨each,-⟩,-⟩
  have same := each "A"
  revert same
  decide +kernel

end Polytope.HashCoherence
