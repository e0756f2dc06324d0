import Polytope.BookWrites

/-! The divergence flag of an entity against the comparison it stands for. Only status changes recompute it, while
snapshots and deltas move the local best prices, so it is right after every event exactly when none of them
changes how the best prices compare with the external ones. -/
namespace Polytope.BboDivergence
open Binary64
open OrderedMap (KeyedMap)
open EntityBooks EntityStore BookWrites
open LastWrite (lastWrite)

def Apart (external own : Double) : Prop := value kBboEpsilon < |roundNearest (value external - value own)|
def DiffersFrom (external own : Option Double) : Prop := ∃ a ∈ external, ∃ b ∈ own, Apart a b
def Differs (book : OrderBookState) : Prop :=
  DiffersFrom book.externalBestBid book.bestBid ∨ DiffersFrom book.externalBestAsk book.bestAsk
def Accurate (store : EntityStateStore) : Prop := ∀ entityId entity, store.get entityId = some entity →
  entity.initialized = true → entity.closed = false →
    (entity.book.externalBboDiverged = true ↔ Differs entity.book)

/-! The comparison, from the events alone. -/

def know (price : NormalizedEvent → Option Double) (entityId : String) (known : Option Double)
    (event : NormalizedEvent) : Option Double :=
  if (entityOf event ≠ "" ∧ entityOf event = entityId) ∧ event.eventType = .statusChange ∧
    isPrice (price event) = true then price event
  else known
def known (price : NormalizedEvent → Option Double) (entityId : String) (events : List NormalizedEvent) :
    Option Double :=
  events.foldl (know price entityId) none
def Standing (writes : Writes) (price : Double) : Prop :=
  ∃ size, 0 < value size ∧ lastWrite value writes price = some size
def BidTop (writes : Writes) (price : Double) : Prop :=
  Standing writes price ∧ ∀ other, Standing writes other → value other ≤ value price
def AskTop (writes : Writes) (price : Double) : Prop :=
  Standing writes price ∧ ∀ other, Standing writes other → value price ≤ value other
def Diverges (entityId : String) (events : List NormalizedEvent) : Prop :=
  (∃ external ∈ known NormalizedEvent.bestBid entityId events, ∃ own,
    BidTop (writesBy snapshotWrites .bid entityId events) own ∧ Apart external own) ∨
  ∃ external ∈ known NormalizedEvent.bestAsk entityId events, ∃ own,
    AskTop (writesBy snapshotWrites .ask entityId events) own ∧ Apart external own
-- The event, a snapshot or a delta of an open entity, changes nothing about the comparison.
def LeavesComparison (hashMode : StateHashMode) (before : List NormalizedEvent) (event : NormalizedEvent) : Prop :=
  event.eventType = .snapshot ∨ event.eventType = .delta →
    ((after {hashMode} before).getOrCreate (entityOf event)).closed = false →
      (Diverges (entityOf event) (before ++ [event]) ↔ Diverges (entityOf event) before)
def Undisturbed (hashMode : StateHashMode) (events : List NormalizedEvent) : Prop :=
  ∀ before event, before ++ [event] <+: events → LeavesComparison hashMode before event

/-! The best prices are the tops of the writes. -/

theorem apartValue {external a b : Double} (same : value a = value b) : Apart external a ↔ Apart external b := by
  unfold Apart
  rw [same]
theorem divergedIff (external own : Option Double) : diverged external own = true ↔ DiffersFrom external own := by
  unfold diverged DiffersFrom
  split
  · next a b => simp [almostEqual,Apart]
  · next none =>
    constructor
    · exact fun impossible => (nomatch impossible)
    · rintro ⟨a,here,b,there,-⟩
      exact absurd there (none a b here)

section
variable {κ : Type} [LinearOrder κ] {key : Double → κ} {side : KeyedMap key Double} {writes : Writes}
  {external : Option Double}

theorem standingHeld (written : LastWritten side writes) (price : Double) : Standing writes price ↔
    ∃ size, side.find price = some size :=
  exists_congr fun size => (written price size).symm
-- A level under the key of a price stands under that price; the key may be another zero.
theorem standingLevel (same : ∀ a b, key a = key b ↔ value a = value b) (written : LastWritten side writes)
    {price : Double} :
    Standing writes price ↔ ∃ level ∈ side.entries, value level.1 = value price := by
  rw [standingHeld written]
  constructor
  · rintro ⟨size,found⟩
    obtain ⟨level,here,mem⟩ := OrderedMap.findSome.mp found
    exact ⟨(level,size),mem,(same _ _).mp here⟩
  · rintro ⟨⟨level,size⟩,mem,here⟩
    exact ⟨size,OrderedMap.findSome.mpr ⟨level,(same _ _).mpr here,mem⟩⟩
theorem differsTop {best : Option Double} (worse : Double → Double → Prop)
    (respects : ∀ a b c, value a = value b → (worse a c ↔ worse b c))
    (antisymm : ∀ a b, worse a b → worse b a → value a = value b)
    (same : ∀ a b, key a = key b ↔ value a = value b) (written : LastWritten side writes)
    (noBest : best = none ↔ side.entries = [])
    (isBest : ∀ own ∈ best, own ∈ side.entries.map Prod.fst ∧ ∀ level ∈ side.entries, worse level.1 own) :
    DiffersFrom external best ↔
      ∃ a ∈ external, ∃ own, (Standing writes own ∧ ∀ other, Standing writes other → worse other own) ∧
        Apart a own := by
  unfold DiffersFrom
  refine exists_congr fun a => and_congr_right fun _ => ?_
  constructor
  · rintro ⟨own,here,apart⟩
    obtain ⟨mem,top⟩ := isBest own here
    obtain ⟨level,inside,rfl⟩ := List.mem_map.mp mem
    refine ⟨level.1,⟨(standingLevel same written).mpr ⟨level,inside,rfl⟩,fun other stands => ?_⟩,apart⟩
    obtain ⟨rival,there,equal⟩ := (standingLevel same written).mp stands
    exact (respects _ _ _ equal).mp (top rival there)
  · rintro ⟨own,⟨stands,top⟩,apart⟩
    obtain ⟨level,inside,equal⟩ := (standingLevel same written).mp stands
    cases shown : best with
    | none =>
      rw [noBest.mp shown] at inside
      cases inside
    | some first =>
      obtain ⟨mem,above⟩ := isBest first shown
      obtain ⟨head,there,rfl⟩ := List.mem_map.mp mem
      have up := (respects _ _ _ equal).mp (above level inside)
      have down := top head.1 ((standingLevel same written).mpr ⟨head,there,rfl⟩)
      exact ⟨head.1,rfl,(apartValue (antisymm _ _ down up)).mpr apart⟩
end

theorem soundDiffers {entity : EntityState} {bids asks : Option Writes} (sound : Sound entity)
    (recorded : Recorded entity bids asks) :
    Differs entity.book ↔
      (∃ a ∈ entity.book.externalBestBid, ∃ own, BidTop (bids.getD []) own ∧ Apart a own) ∨
        ∃ a ∈ entity.book.externalBestAsk, ∃ own, AskTop (asks.getD []) own ∧ Apart a own := by
  have invariant := soundInvariant sound
  refine or_congr ?_ ?_
  · refine differsTop (fun other own => value other ≤ value own) (fun a b c same => by rw [same])
      (fun a b => le_antisymm)
      (fun a b => OrderDual.toDual_inj)
      (lastWritten (fun a b => OrderDual.toDual_inj) recorded.bids.holds recorded.bids.nonneg)
      invariant.noBid invariant.bestBid
  · refine differsTop (fun other own => value own ≤ value other) (fun a b c same => by rw [same])
      (fun a b first second => le_antisymm second first) (fun a b => Iff.rfl)
      (lastWritten (fun a b => Iff.rfl) recorded.asks.holds recorded.asks.nonneg) invariant.noAsk invariant.bestAsk

/-! One event. -/

structure Externals (entity next : EntityState) (event : NormalizedEvent) : Prop where
  bid : next.book.externalBestBid =
    if event.eventType = .statusChange ∧ isPrice event.bestBid = true then event.bestBid
    else entity.book.externalBestBid
  ask : next.book.externalBestAsk =
    if event.eventType = .statusChange ∧ isPrice event.bestAsk = true then event.bestAsk
    else entity.book.externalBestAsk
  kept : event.eventType ≠ .statusChange → next.book.externalBboDiverged = entity.book.externalBboDiverged
  renewed : event.eventType = .statusChange → next.initialized = entity.initialized ∧
    next.book.externalBboDiverged = (entity.initialized &&
      (diverged next.book.externalBestBid next.book.bestBid ||
        diverged next.book.externalBestAsk next.book.bestAsk))

theorem unmovedExternals {entity next : EntityState} {event : NormalizedEvent}
    (other : event.eventType ≠ .statusChange)
    (bid : next.book.externalBestBid = entity.book.externalBestBid)
    (ask : next.book.externalBestAsk = entity.book.externalBestAsk)
    (flag : next.book.externalBboDiverged = entity.book.externalBboDiverged) : Externals entity next event where
  bid := bid.trans (if_neg fun status => other status.1).symm
  ask := ask.trans (if_neg fun status => other status.1).symm
  kept := fun _ => flag
  renewed := fun status => absurd status other
theorem lifecycleExternals (entity : EntityState) (event : NormalizedEvent) :
    (lifecycleEntity entity event).book.externalBestBid = entity.book.externalBestBid ∧
      (lifecycleEntity entity event).book.externalBestAsk = entity.book.externalBestAsk ∧
      (lifecycleEntity entity event).book.externalBboDiverged = entity.book.externalBboDiverged := by
  unfold lifecycleEntity
  simp only
  split
  · exact ⟨rfl,rfl,rfl⟩
  · split <;> exact ⟨rfl,rfl,rfl⟩
theorem statusBooked (entity : EntityState) (event : NormalizedEvent) :
    (statusEntity entity event).book = statusBook entity event ∧
    (statusEntity entity event).initialized = entity.initialized := by
  unfold statusEntity countError
  simp only
  split <;> split <;> exact ⟨rfl,rfl⟩
theorem nextExternals {entity : EntityState} (event : NormalizedEvent) (sound : Sound entity)
    (opened : entity.closed = false) :
    Externals entity (nextEntity entity event) event := by
  cases kind : event.eventType with
  | snapshot =>
    obtain ⟨tick,same⟩ :=
      takeTickEq
        {entity.book with bids := (loadLevels bidKey event.bids).1, asks := (loadLevels askKey event.asks).1} event
    rw [snapshotNext kind opened]
    refine unmovedExternals (by simp [kind]) ?_ ?_ ?_ <;> rw [snapshotBooked.1,snapshotBook,same] <;> rfl
  | delta =>
    rw [deltaNext kind opened]
    split
    · refine unmovedExternals (by simp [kind]) ?_ ?_ ?_ <;> rfl
    · refine unmovedExternals (by simp [kind]) ?_ ?_ ?_ <;> rw [deltaBook sound.settled event] <;> rfl
  | statusChange =>
    obtain ⟨tick,same⟩ := takeTickEq entity.book event
    obtain ⟨book,initialized⟩ := statusBooked entity event
    rw [statusNext kind opened]
    constructor
    · rw [book,statusBook,same]
      simp [kind]
    · rw [book,statusBook,same]
      simp [kind]
    · exact fun other => absurd kind other
    · intro _
      refine ⟨initialized,?_⟩
      rw [book,statusBook,same]
  | lifecycleEvent =>
    have moved : nextEntity entity event = lifecycleEntity entity event := by rw [nextEntity,kind]
    obtain ⟨bid,ask,flag⟩ := lifecycleExternals entity event
    rw [moved]
    exact unmovedExternals (by simp [kind]) bid ask flag
  | _ =>
    have moved : nextEntity entity event = ignoreEntity entity event := by rw [nextEntity,kind]
    refine unmovedExternals (by simp [kind]) ?_ ?_ ?_ <;> rw [moved] <;> rfl

/-! Runs. -/

structure Tracked (entityId : String) (events : List NormalizedEvent) (entity : EntityState) : Prop where
  bid : entity.book.externalBestBid = known NormalizedEvent.bestBid entityId events
  ask : entity.book.externalBestAsk = known NormalizedEvent.bestAsk entityId events
  blank : entity.initialized = false → entity.book.externalBboDiverged = false

theorem knownSnoc (price : NormalizedEvent → Option Double) (entityId : String) (events : List NormalizedEvent)
    (event : NormalizedEvent) :
    known price entityId (events ++ [event]) = know price entityId (known price entityId events) event := by
  simp [known]
theorem recordSome {own : List BookLevel → Writes} {side : NormalizedSide} {entityId : String}
    {writes : Option Writes} {event : NormalizedEvent}
    (some : writes.isSome = true) : (record own side entityId writes event).isSome = true := by
  unfold record
  split
  · split
    · rfl
    · rwa [Option.isSome_map]
    · exact some
  · exact some
theorem blankBefore {entity : EntityState} {event : NormalizedEvent} {bids asks : Option Writes}
    {entityId : String} (sound : Sound entity)
    (recorded : Recorded entity bids asks) (opened : (nextEntity entity event).closed = false)
    (own : entityOf event ≠ "" ∧ entityOf event = entityId)
    (blank : (nextEntity entity event).initialized = false) :
    entity.initialized = false := by
  have now := (nextRecorded sound recorded opened own).bids.initialized
  by_contra initialized
  have some := recorded.bids.initialized.symm.trans (Bool.eq_true_of_not_eq_false initialized)
  rw [blank,recordSome some] at now
  cases now

theorem afterTracked (hashMode : StateHashMode) (events : List NormalizedEvent) (entityId : String)
    (opened : ((after {hashMode} events).getOrCreate entityId).closed = false) :
    Tracked entityId events ((after {hashMode} events).getOrCreate entityId) := by
  induction events using List.reverseRecOn with
  | nil => exact ⟨rfl,rfl,fun _ => rfl⟩
  | append_singleton events event ih =>
    rw [afterSnoc,applyOwn] at opened ⊢
    split at opened
    · next own =>
      have before := nextOpened opened
      have sound := getOrCreateSound (afterSound hashMode events) entityId
      obtain ⟨bid,ask,blank⟩ := ih before
      have externals := nextExternals event sound before
      rw [if_pos own]
      refine ⟨?_,?_,fun uninitialized => ?_⟩
      · rw [externals.bid,knownSnoc,know,bid]
        simp only [and_iff_right own]
      · rw [externals.ask,knownSnoc,know,ask]
        simp only [and_iff_right own]
      · by_cases status : event.eventType = .statusChange
        · obtain ⟨same,flag⟩ := externals.renewed status
          rw [flag,← same,uninitialized,Bool.false_and]
        · rw [externals.kept status]
          exact blank (blankBefore sound (afterRecorded hashMode events entityId before) opened own uninitialized)
    · next other =>
      obtain ⟨bid,ask,blank⟩ := ih opened
      rw [if_neg other]
      refine ⟨?_,?_,blank⟩
      · rw [bid,knownSnoc,know,if_neg fun status => other status.1]
      · rw [ask,knownSnoc,know,if_neg fun status => other status.1]
theorem divergesDiffers (hashMode : StateHashMode) (events : List NormalizedEvent) (entityId : String)
    (opened : ((after {hashMode} events).getOrCreate entityId).closed = false) :
    Diverges entityId events ↔ Differs (bookOf (after {hashMode} events) entityId) := by
  have tracked := afterTracked hashMode events entityId opened
  have shown := soundDiffers (getOrCreateSound (afterSound hashMode events) entityId)
    (afterRecorded hashMode events entityId opened)
  unfold bookOf
  rw [shown,tracked.bid,tracked.ask]
  rfl
theorem blankAgrees (hashMode : StateHashMode) (events : List NormalizedEvent) (entityId : String)
    (opened : ((after {hashMode} events).getOrCreate entityId).closed = false)
    (blank : ((after {hashMode} events).getOrCreate entityId).initialized = false) :
    ¬ Diverges entityId events := by
  obtain ⟨bids,asks⟩ := afterRecorded hashMode events entityId opened
  have noBids : writesBy snapshotWrites .bid entityId events = [] := by
    have unwritten := bids.initialized.symm.trans blank
    have empty : events.foldl (record snapshotWrites .bid entityId) none = none :=
      Option.not_isSome_iff_eq_none.mp (by simp [unwritten])
    rw [writesBy,empty]
    rfl
  have noAsks : writesBy snapshotWrites .ask entityId events = [] := by
    have unwritten := asks.initialized.symm.trans blank
    have empty : events.foldl (record snapshotWrites .ask entityId) none = none :=
      Option.not_isSome_iff_eq_none.mp (by simp [unwritten])
    rw [writesBy,empty]
    rfl
  have nothing : ∀ price, ¬ Standing [] price := fun price ⟨_,_,last⟩ => (nomatch last)
  unfold Diverges
  rw [noBids,noAsks]
  rintro (⟨_,_,own,⟨stands,-⟩,-⟩ | ⟨_,_,own,⟨stands,-⟩,-⟩)
  · exact nothing own stands
  · exact nothing own stands

-- An entity without a snapshot has no best prices, and its flag is down.
def FlagExact (hashMode : StateHashMode) (entityId : String) (events : List NormalizedEvent) : Prop :=
  ((after {hashMode} events).getOrCreate entityId).closed = false →
    ((bookOf (after {hashMode} events) entityId).externalBboDiverged = true ↔ Diverges entityId events)
theorem accurateExact (hashMode : StateHashMode) (events : List NormalizedEvent) :
    Accurate (after {hashMode} events) ↔ ∀ entityId, FlagExact hashMode entityId events := by
  constructor
  · intro accurate entityId opened
    by_cases blank : ((after {hashMode} events).getOrCreate entityId).initialized = false
    · have down := (afterTracked hashMode events entityId opened).blank blank
      have agrees := blankAgrees hashMode events entityId opened blank
      unfold bookOf
      rw [down]
      simp [agrees]
    · rw [divergesDiffers hashMode events entityId opened]
      cases found : (after {hashMode} events).get entityId with
      | none =>
        rw [EntityStateStore.getOrCreate,found] at blank
        exact absurd rfl blank
      | some entity =>
        unfold bookOf
        rw [EntityStateStore.getOrCreate,found] at opened blank ⊢
        exact accurate entityId entity found (Bool.eq_true_of_not_eq_false blank) opened
  · intro exact_ entityId entity found _ opened
    have own : (after {hashMode} events).getOrCreate entityId = entity := by
      rw [EntityStateStore.getOrCreate,found]
      rfl
    have shown := exact_ entityId (by rw [own]; exact opened)
    rw [divergesDiffers hashMode events entityId (by rw [own]; exact opened),bookOf,own] at shown
    exact shown

theorem divergesOther {entityId : String} {events : List NormalizedEvent} {event : NormalizedEvent}
    (bids : record snapshotWrites .bid entityId (events.foldl (record snapshotWrites .bid entityId) none) event =
      events.foldl (record snapshotWrites .bid entityId) none)
    (asks : record snapshotWrites .ask entityId (events.foldl (record snapshotWrites .ask entityId) none) event =
      events.foldl (record snapshotWrites .ask entityId) none)
    (unknown : ∀ price, know price entityId (known price entityId events) event = known price entityId events) :
    Diverges entityId (events ++ [event]) ↔ Diverges entityId events := by
  unfold Diverges writesBy
  simp only [knownSnoc,unknown,List.foldl_append,List.foldl_cons,List.foldl_nil,bids,asks]

theorem staysOpen {entity : EntityState} {event : NormalizedEvent} (opened : entity.closed = false)
    (kind : event.eventType = .snapshot ∨ event.eventType = .delta) :
    (nextEntity entity event).closed = false := by
  rcases kind with kind | kind
  · rw [snapshotNext kind opened]
    unfold snapshotEntity countError
    split <;> rfl
  · rw [deltaNext kind opened]
    split
    · exact opened
    · exact (deltaKeeps entity event).2.2.trans opened

section
variable {hashMode : StateHashMode} {events : List NormalizedEvent} {event : NormalizedEvent} {entityId : String}

theorem exactElsewhere (before : FlagExact hashMode entityId events)
    (other : ¬ (entityOf event ≠ "" ∧ entityOf event = entityId)) :
    FlagExact hashMode entityId (events ++ [event]) := by
  intro opened
  rw [afterSnoc,applyOwn,if_neg other] at opened
  rw [afterSnoc,bookOf,applyOwn,if_neg other,divergesOther (if_neg other) (if_neg other) fun _ =>
    if_neg fun status => other status.1]
  exact before opened
theorem exactStatus (own : entityOf event ≠ "" ∧ entityOf event = entityId)
    (status : event.eventType = .statusChange) :
    FlagExact hashMode entityId (events ++ [event]) := by
  intro opened
  rw [divergesDiffers hashMode _ entityId opened]
  have blankAfter := blankAgrees hashMode (events ++ [event]) entityId opened
  have differs := divergesDiffers hashMode (events ++ [event]) entityId opened
  unfold bookOf at differs ⊢
  rw [afterSnoc,applyOwn,if_pos own] at opened blankAfter differs ⊢
  obtain ⟨same,flag⟩ := (nextExternals event (getOrCreateSound (afterSound hashMode events) entityId)
    (nextOpened opened)).renewed status
  rw [flag]
  cases initialized : ((after {hashMode} events).getOrCreate entityId).initialized with
  | false =>
    rw [← differs]
    simp [blankAfter (same.trans initialized)]
  | true =>
    rw [Bool.true_and,Bool.or_eq_true,divergedIff,divergedIff]
    rfl
theorem exactKept (own : entityOf event ≠ "" ∧ entityOf event = entityId) (other : event.eventType ≠ .statusChange)
    (before : FlagExact hashMode entityId events)
    (opened : (nextEntity ((after {hashMode} events).getOrCreate entityId) event).closed = false) :
    ((bookOf (after {hashMode} (events ++ [event])) entityId).externalBboDiverged = true ↔
      Diverges entityId events) := by
  have earlier := nextOpened opened
  have kept := (nextExternals event (getOrCreateSound (afterSound hashMode events) entityId) earlier).kept other
  rw [afterSnoc,bookOf,applyOwn,if_pos own,kept]
  exact before earlier
end

theorem exactStep (hashMode : StateHashMode) (events : List NormalizedEvent) (event : NormalizedEvent)
    (before : ∀ entityId, FlagExact hashMode entityId events) :
    (∀ entityId, FlagExact hashMode entityId (events ++ [event])) ↔ LeavesComparison hashMode events event := by
  constructor
  · intro exact_ kind opened
    by_cases named : entityOf event = ""
    · have other : ¬ (entityOf event ≠ "" ∧ entityOf event = entityOf event) := fun own => own.1 named
      exact divergesOther (if_neg other) (if_neg other) fun _ => if_neg fun status => other status.1
    · have open_ := staysOpen opened kind
      have now := exact_ (entityOf event) (by rw [afterSnoc,applyOwn,if_pos ⟨named,rfl⟩]; exact open_)
      exact now.symm.trans (exactKept ⟨named,rfl⟩ (by rcases kind with kind | kind <;> simp [kind])
        (before _) open_)
  · intro leaves entityId
    by_cases own : entityOf event ≠ "" ∧ entityOf event = entityId
    · by_cases status : event.eventType = .statusChange
      · exact exactStatus own status
      · intro opened
        rw [afterSnoc,applyOwn,if_pos own] at opened
        rw [exactKept own status (before entityId) opened]
        by_cases moves : event.eventType = .snapshot ∨ event.eventType = .delta
        · have same := leaves moves (by rw [own.2]; exact nextOpened opened)
          rw [own.2] at same
          exact same.symm
        · rw [not_or] at moves
          have unrecorded : ∀ side writes, record snapshotWrites side entityId writes event = writes := by
            intro side writes
            unfold record
            rw [if_pos own]
            split
            · next snapshot => exact absurd snapshot moves.1
            · next delta => exact absurd delta moves.2
            · rfl
          exact (divergesOther (unrecorded _ _) (unrecorded _ _) fun _ => if_neg fun changed =>
            status changed.2.1).symm
    · exact exactElsewhere (before entityId) own

theorem externalFlagExact (hashMode : StateHashMode) (events : List NormalizedEvent) :
    (∀ before, before <+: events → Accurate (after {hashMode} before)) ↔ Undisturbed hashMode events := by
  induction events using List.reverseRecOn with
  | nil =>
    constructor
    · intro _ before event inside
      simp at inside
    · intro _ before inside
      rw [List.prefix_nil.mp inside]
      exact fun _ _ found => (nomatch found)
  | append_singleton events event ih =>
    have both : Undisturbed hashMode (events ++ [event]) ↔
      Undisturbed hashMode events ∧ LeavesComparison hashMode events event := by
      constructor
      · intro all
        exact ⟨fun before e inside =>
          all before e (inside.trans (List.prefix_append _ _)),all events event (List.prefix_refl _)⟩
      · rintro ⟨earlier,last⟩ before e inside
        rcases List.prefix_concat_iff.mp inside with whole | part
        · obtain ⟨rfl,same⟩ := List.append_inj' whole rfl
          cases same
          exact last
        · exact earlier before e part
    rw [both,← ih]
    constructor
    · intro all
      have earlier : ∀ before, before <+: events → Accurate (after {hashMode} before) := fun before inside =>
        all before (inside.trans (List.prefix_append events [event]))
      refine ⟨earlier,(exactStep hashMode events event ?_).mp
        ((accurateExact hashMode _).mp (all _ (List.prefix_refl _)))⟩
      exact (accurateExact hashMode events).mp (earlier events (List.prefix_refl _))
    · rintro ⟨earlier,last⟩ before inside
      rcases List.prefix_concat_iff.mp inside with whole | part
      · rw [whole]
        refine (accurateExact hashMode _).mpr ((exactStep hashMode events event ?_).mpr last)
        exact (accurateExact hashMode events).mp (earlier events (List.prefix_refl _))
      · exact earlier before part

-- An external best bid of 0.5 arrives before the book, whose best bid is 0.75.
def halfBid : NormalizedEvent :=
  {eventType := .statusChange, entityId := "A", bestBid := some ⟨0x3fe0000000000000⟩}
def higherBook : NormalizedEvent :=
  {eventType := .snapshot, entityId := "A", bids := [⟨⟨0x3fe8000000000000⟩,⟨0x4024000000000000⟩⟩]}
theorem divergenceMissed :
    ¬ ∀ (hashMode : StateHashMode) (events : List NormalizedEvent), Accurate (after {hashMode} events) := by
  intro claimed
  have shown : ((after {hashMode := .replayFull} [halfBid,higherBook]).get "A").any (fun entity =>
      entity.initialized && !entity.closed && !entity.book.externalBboDiverged &&
        diverged entity.book.externalBestBid entity.book.bestBid) = true := by decide +kernel
  obtain ⟨entity,found,state⟩ := (Option.any_eq_true _ _).mp shown
  simp only [Bool.and_eq_true,Bool.not_eq_true'] at state
  have flag := (claimed .replayFull [halfBid,higherBook] "A" entity found state.1.1.1 state.1.1.2).mpr
    (.inl ((divergedIff _ _).mp state.2))
  rw [state.1.2] at flag
  cases flag

end Polytope.BboDivergence
