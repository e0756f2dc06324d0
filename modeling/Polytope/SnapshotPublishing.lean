import Polytope.MarketShard
import Polytope.Machine

/-! What the readers of a snapshot publisher are answered over any run of publishes and reads: of every asset its
last publish, at the version it was given. -/
namespace Polytope.SnapshotPublishing
open MarketDepth (MarketDepthView marketDepthViewFromSnapshot)
open MarketShard (MarketStateSnapshot SnapshotSlot SnapshotBuffer SnapshotPublisher StateQueryResult
  slotOf versioned)

/-! Runs of publishes and reads. -/

inductive PublisherCall where
  | publish (snapshot : MarketStateSnapshot) (fits : snapshot.version < 2^64)
  | read (assetId : String)
  | readMany (assetIds : List (Option String)) (maxOut : Nat)
  | readDepthMany (assetIds : List (Option String)) (assetIndices : List Nat) (maxOut : Nat)
inductive PublisherAnswer where
  | done
  | result (result : StateQueryResult)
  | snapshots (snapshots : List MarketStateSnapshot)
  | views (views : Option (List MarketDepthView))
def publisherStep (publisher : SnapshotPublisher) : PublisherCall → SnapshotPublisher × PublisherAnswer
  | .publish snapshot _ => (publisher.publish snapshot,.done)
  | .read assetId => (publisher,.result (publisher.read assetId))
  | .readMany assetIds maxOut => (publisher,.snapshots (publisher.readMany assetIds maxOut))
  | .readDepthMany assetIds assetIndices maxOut =>
    (publisher,.views (publisher.readDepthMany assetIds assetIndices maxOut))

abbrev PublisherLog := List (PublisherCall × PublisherAnswer)
def publishOf (assetId : String) : PublisherCall × PublisherAnswer → Option MarketStateSnapshot
  | (.publish snapshot _,_) => if assetId ≠ "" ∧ snapshot.entityId = assetId then some snapshot else none
  | (.read _,_) | (.readMany _ _,_) | (.readDepthMany _ _ _,_) => none
def lastPublish (log : PublisherLog) (assetId : String) : Option MarketStateSnapshot :=
  (log.filterMap (publishOf assetId)).getLast?
-- What is shown of an asset is its last publish, at the version it was given.
def Latest (log : PublisherLog) (assetId : String) (shown : Option MarketStateSnapshot) : Prop :=
  match lastPublish log assetId with
  | none => shown = none
  | some snapshot => ∃ version, snapshot.version ≤ version ∧ shown = some {snapshot with version}
def resultOf (assetId : String) : Option MarketStateSnapshot → StateQueryResult
  | none => {entityId := assetId, error := .missingEntity}
  | some snapshot => {ok := true, entityId := assetId, version := snapshot.version, value := snapshot}
def snapshotsOf (publisher : SnapshotPublisher) (assetIds : List (Option String)) : List MarketStateSnapshot :=
  assetIds.filterMap fun asked => asked.bind publisher.current
def viewsOf (publisher : SnapshotPublisher) (assetIndices : List Nat) (assetIds : List (Option String))
    (start : Nat) :
    List MarketDepthView :=
  (assetIds.zipIdx start).filterMap fun asked => (asked.1.bind publisher.current).map fun snapshot =>
    marketDepthViewFromSnapshot snapshot.toMarketStateSnapshot (assetIndices.getD asked.2 0)

def Answered (publisher : SnapshotPublisher) (answer : PublisherAnswer) : PublisherCall → Prop
  | .publish snapshot _ => snapshot.entityId ≠ "" →
    ∃ new, (publisher.publish snapshot).current snapshot.entityId = some new ∧
      ∀ old, publisher.current snapshot.entityId = some old → old.version < new.version
  | .read assetId => answer = .result (resultOf assetId (publisher.current assetId))
  | .readMany assetIds maxOut => answer = .snapshots ((snapshotsOf publisher assetIds).take maxOut)
  | .readDepthMany assetIds assetIndices maxOut =>
    answer = .views (some ((viewsOf publisher assetIndices assetIds 0).take maxOut))
structure Faithful (publisher : SnapshotPublisher) (log : PublisherLog) (call : PublisherCall) : Prop where
  answered : Answered publisher (publisherStep publisher call).2 call
  latest : ∀ assetId, Latest (log ++ [(call,(publisherStep publisher call).2)]) assetId
    ((publisherStep publisher call).1.current assetId)
def InOrder (publisher : SnapshotPublisher) (_ : PublisherLog) : PublisherCall → Prop
  | .publish snapshot _ => snapshot.entityId ≠ "" → ∀ old,
    publisher.current snapshot.entityId = some old → old.version ≠ 2^64 - 1
  | .readDepthMany assetIds _ maxOut => maxOut = 0 ∨ assetIds.length ≤ 65535
  | .read _ | .readMany _ _ => True

/-! One publish. -/

def Turned (publisher : SnapshotPublisher) : Prop :=
  ∀ assetId buffer, publisher.buffers.lookup assetId = some buffer →
  buffer.published = true ∧ buffer.active = slotOf buffer.active.snapshot ∧
    buffer.active.snapshot.entityId = assetId ∧ buffer.active.snapshot.version < 2^64
structure Kept (publisher : SnapshotPublisher) (log : PublisherLog) : Prop where
  turned : Turned publisher
  latest : ∀ assetId, Latest log assetId (publisher.current assetId)

theorem turnActive (buffer : SnapshotBuffer) (slot) : (buffer.turn slot).active = slot :=
  Function.update_self _ _ _
theorem slotBuffer {publisher assetId buffer} (turned : Turned publisher)
    (found : publisher.buffers.lookup assetId = some buffer) :
    publisher.slot assetId = some buffer.active := by
  unfold SnapshotPublisher.slot
  rw [found]
  exact if_pos (turned assetId buffer found).1
theorem slotCurrent {publisher : SnapshotPublisher} (turned : Turned publisher) (assetId) :
    publisher.slot assetId = (publisher.current assetId).map slotOf := by
  cases found : publisher.buffers.lookup assetId with
  | none => simp [SnapshotPublisher.slot,SnapshotPublisher.current,found]
  | some buffer =>
    rw [SnapshotPublisher.current,slotBuffer turned found]
    exact congrArg some (turned assetId buffer found).2.1
theorem currentKnown {publisher : SnapshotPublisher} {assetId snapshot} (turned : Turned publisher)
    (shown : publisher.current assetId = some snapshot) : snapshot.entityId = assetId ∧
    snapshot.version < 2^64 := by
  cases found : publisher.buffers.lookup assetId with
  | none => simp [SnapshotPublisher.slot,SnapshotPublisher.current,found] at shown
  | some buffer =>
    rw [SnapshotPublisher.current,slotBuffer turned found] at shown
    cases shown
    exact (turned assetId buffer found).2.2

-- The version shown before, where an asset never published counts as version 0.
def shownVersion (publisher : SnapshotPublisher) (assetId : String) : Nat :=
  ((publisher.current assetId).map fun shown => shown.version).getD 0
def nextVersion (publisher : SnapshotPublisher) (snapshot : MarketStateSnapshot) : Nat :=
  max snapshot.version ((shownVersion publisher snapshot.entityId + 1) % 2^64)
def stamped (publisher : SnapshotPublisher) (snapshot : MarketStateSnapshot) : MarketStateSnapshot :=
  {snapshot with version := nextVersion publisher snapshot}
theorem versionedMax (shown snapshot : MarketStateSnapshot) :
    versioned shown snapshot = {snapshot with version := max snapshot.version ((shown.version + 1) % 2^64)} := by
  have greater : (if snapshot.version < (shown.version + 1) % 2^64 then (shown.version + 1) % 2^64
    else snapshot.version) =
      max snapshot.version ((shown.version + 1) % 2^64) := by
    split
    · omega
    · omega
  unfold versioned
  simp only [greater]
theorem publishLookup {publisher : SnapshotPublisher} {snapshot : MarketStateSnapshot} (turned : Turned publisher)
    (named : snapshot.entityId ≠ "") : ∃ buffer : SnapshotBuffer,
      (publisher.publish snapshot).buffers = publisher.buffers.insert snapshot.entityId
        (buffer.turn (slotOf (stamped publisher snapshot))) := by
  unfold SnapshotPublisher.publish
  rw [if_neg named]
  refine ⟨(publisher.buffers.lookup snapshot.entityId).getD {},?_⟩
  simp only [versionedMax]
  cases found : publisher.buffers.lookup snapshot.entityId with
  | none =>
    have shown : shownVersion publisher snapshot.entityId = 0 := by
      simp [shownVersion,SnapshotPublisher.current,SnapshotPublisher.slot,found]
    rw [stamped,nextVersion,shown]
    rfl
  | some buffer =>
    have shown : shownVersion publisher snapshot.entityId = buffer.active.snapshot.version := by
      rw [shownVersion,SnapshotPublisher.current,slotBuffer turned found]
      rfl
    rw [stamped,nextVersion,shown]
    rfl
theorem publishTurned {publisher : SnapshotPublisher} {snapshot : MarketStateSnapshot} (turned : Turned publisher)
    (named : snapshot.entityId ≠ "") (fits : snapshot.version < 2^64) : Turned (publisher.publish snapshot) := by
  obtain ⟨buffer,buffers⟩ := publishLookup turned named
  intro assetId other found
  rw [buffers] at found
  by_cases own : assetId = snapshot.entityId
  · rw [own,AList.lookup_insert] at found
    cases found
    rw [turnActive]
    have bound := Nat.mod_lt (shownVersion publisher snapshot.entityId + 1) (by decide : 2^64 > 0)
    exact ⟨rfl,rfl,own.symm,max_lt fits bound⟩
  · rw [AList.lookup_insert_ne own] at found
    exact turned assetId other found
theorem publishCurrent {publisher : SnapshotPublisher} {snapshot : MarketStateSnapshot} (turned : Turned publisher)
    (named : snapshot.entityId ≠ "") (fits : snapshot.version < 2^64) (assetId) :
    (publisher.publish snapshot).current assetId =
      if assetId = snapshot.entityId then some (stamped publisher snapshot) else publisher.current assetId := by
  obtain ⟨buffer,buffers⟩ := publishLookup turned named
  by_cases own : assetId = snapshot.entityId
  · have found : (publisher.publish snapshot).buffers.lookup assetId = some
      (buffer.turn (slotOf (stamped publisher snapshot))) := by
      rw [buffers,own]
      exact AList.lookup_insert _
    rw [SnapshotPublisher.current,slotBuffer
      (publishTurned turned named fits) found,if_pos own,Option.map_some,turnActive]
    rfl
  · rw [if_neg own,SnapshotPublisher.current,SnapshotPublisher.current,SnapshotPublisher.slot,
      SnapshotPublisher.slot,buffers,
      AList.lookup_insert_ne own]

theorem nextVersionFits (publisher : SnapshotPublisher) {snapshot : MarketStateSnapshot}
    (fits : snapshot.version < 2^64) :
    nextVersion publisher snapshot < 2^64 :=
  max_lt fits (Nat.mod_lt _ (by decide))
theorem risesIff {publisher : SnapshotPublisher} {snapshot old : MarketStateSnapshot}
    (fits : snapshot.version < 2^64)
    (turned : Turned publisher) (shown : publisher.current snapshot.entityId = some old) :
    old.version < nextVersion publisher snapshot ↔ old.version ≠ 2^64 - 1 := by
  have bound := (currentKnown turned shown).2
  have before : shownVersion publisher snapshot.entityId = old.version := by
    rw [shownVersion,shown]
    rfl
  have after := nextVersionFits publisher fits
  rw [nextVersion,before] at *
  constructor
  · intro rises last
    omega
  · intro room
    have whole : (old.version + 1) % 2^64 = old.version + 1 := Nat.mod_eq_of_lt (by omega)
    rw [whole]
    omega

/-! The readers. -/

theorem readResult {publisher : SnapshotPublisher} (turned : Turned publisher) (assetId) :
    publisher.read assetId = resultOf assetId (publisher.current assetId) := by
  unfold SnapshotPublisher.read
  rw [slotCurrent turned assetId]
  cases shown : publisher.current assetId with
  | none => rfl
  | some snapshot =>
    have same := (currentKnown turned shown).1
    subst same
    rfl
theorem readManyFrom (publisher : SnapshotPublisher) (maxOut : Nat) (assetIds : List (Option String))
    (out : List MarketStateSnapshot) (room : out.length ≤ maxOut) :
    assetIds.foldl (fun out assetId =>
      match assetId with
      | none => out
      | some assetId =>
        if maxOut ≤ out.length then out
        else
          match publisher.slot assetId with
          | none => out
          | some slot => out ++ [slot.snapshot]) out =
      out ++ (snapshotsOf publisher assetIds).take (maxOut - out.length) := by
  induction assetIds generalizing out with
  | nil => simp [snapshotsOf]
  | cons assetId rest ih =>
    cases assetId with
    | none => exact ih out room
    | some assetId =>
      rw [List.foldl_cons]
      simp only
      split
      · next full =>
        rw [ih out room,Nat.sub_eq_zero_of_le full,List.take_zero,List.take_zero]
      · next space =>
        cases found : publisher.slot assetId with
        | none =>
          have skipped : snapshotsOf publisher (some assetId::rest) = snapshotsOf publisher rest :=
            List.filterMap_cons_none (by simp [SnapshotPublisher.current,found])
          rw [skipped]
          exact ih out room
        | some slot =>
          have taken : snapshotsOf publisher (some assetId::rest) = slot.snapshot::snapshotsOf publisher rest :=
            List.filterMap_cons_some (by simp [SnapshotPublisher.current,found])
          have grown : (out ++ [slot.snapshot]).length = out.length + 1 := List.length_append
          have left : maxOut - out.length = maxOut - (out.length + 1) + 1 := by omega
          rw [taken,left,List.take_succ_cons,← List.singleton_append,← List.append_assoc,← grown]
          exact ih (out ++ [slot.snapshot]) (by omega)
theorem readDepthWalk {publisher : SnapshotPublisher} (turned : Turned publisher)
    (assetIndices : List Nat) (maxOut : Nat)
    (assetIds : List (Option String)) (i : Nat) (out : List MarketDepthView) (room : out.length ≤ maxOut) :
    publisher.readDepthFrom assetIndices maxOut assetIds i out =
      out ++ (viewsOf publisher assetIndices assetIds i).take (maxOut - out.length) := by
  induction assetIds generalizing i out with
  | nil => simp [SnapshotPublisher.readDepthFrom,viewsOf]
  | cons assetId rest ih =>
    cases assetId with
    | none => exact ih (i + 1) out room
    | some assetId =>
      rw [SnapshotPublisher.readDepthFrom,slotCurrent turned assetId]
      split
      · next full =>
        rw [ih _ out room,Nat.sub_eq_zero_of_le full,List.take_zero,List.take_zero]
      · next space =>
        cases shown : publisher.current assetId with
        | none =>
          have skipped : viewsOf publisher assetIndices
            (some assetId::rest) i = viewsOf publisher assetIndices rest (i + 1) :=
            List.filterMap_cons_none (by simp [shown])
          rw [skipped]
          exact ih _ out room
        | some snapshot =>
          let view := marketDepthViewFromSnapshot snapshot.toMarketStateSnapshot (assetIndices.getD i 0)
          have taken : viewsOf publisher assetIndices
            (some assetId::rest) i = view::viewsOf publisher assetIndices rest (i + 1) :=
            List.filterMap_cons_some (by simp [shown,view])
          have grown : (out ++ [view]).length = out.length + 1 := List.length_append
          have left : maxOut - out.length = maxOut - (out.length + 1) + 1 := by omega
          rw [taken,left,List.take_succ_cons,← List.singleton_append,← List.append_assoc,← grown]
          exact ih (i + 1) (out ++ [view]) (by omega)
theorem readDepthIff {publisher : SnapshotPublisher} (turned : Turned publisher)
    (assetIndices : List Nat) (maxOut : Nat)
    (assetIds : List (Option String)) :
    publisher.readDepthMany assetIds assetIndices maxOut = some
      ((viewsOf publisher assetIndices assetIds 0).take maxOut) ↔
      maxOut = 0 ∨ assetIds.length ≤ 65535 := by
  unfold SnapshotPublisher.readDepthMany
  split
  · next none =>
    rw [none,List.take_zero]
    simp
  · next some =>
    have walk := readDepthWalk turned assetIndices maxOut assetIds 0 [] (Nat.zero_le _)
    rw [List.nil_append,List.length_nil,Nat.sub_zero] at walk
    split
    · next short => simp [walk,short]
    · next long => simp [some,long]

/-! Runs. -/

theorem lastPublishSnoc (log : PublisherLog) (call answer assetId) : lastPublish (log ++ [(call,answer)]) assetId =
    match publishOf assetId (call,answer) with
    | some snapshot => some snapshot
    | none => lastPublish log assetId := by
  unfold lastPublish
  rw [List.filterMap_append]
  cases found : publishOf assetId (call,answer) with
  | none => simp [found]
  | some snapshot => simp [found]
theorem latestSilent {log : PublisherLog} {call answer assetId shown}
    (silent : publishOf assetId (call,answer) = none)
    (latest : Latest log assetId shown) : Latest (log ++ [(call,answer)]) assetId shown := by
  unfold Latest
  rw [lastPublishSnoc,silent]
  exact latest

theorem keptNext {publisher : SnapshotPublisher} {log : PublisherLog} (kept : Kept publisher log) (call) :
    Kept (publisherStep publisher call).1 (log ++ [(call,(publisherStep publisher call).2)]) := by
  cases call with
  | publish snapshot fits =>
    by_cases named : snapshot.entityId = ""
    · have same : publisher.publish snapshot = publisher := if_pos named
      rw [publisherStep,same]
      refine ⟨kept.turned,fun assetId => latestSilent ?_ (kept.latest assetId)⟩
      rw [publishOf,if_neg]
      rintro ⟨other,own⟩
      exact other (own.symm.trans named)
    · refine ⟨publishTurned kept.turned named fits,fun assetId => ?_⟩
      rw [publisherStep,publishCurrent kept.turned named fits]
      by_cases own : assetId = snapshot.entityId
      · have here : publishOf assetId (.publish snapshot fits,.done) = some snapshot :=
          if_pos ⟨own ▸ named,own.symm⟩
        unfold Latest
        rw [lastPublishSnoc,here,if_pos own]
        exact ⟨nextVersion publisher snapshot,Nat.le_max_left _ _,rfl⟩
      · rw [if_neg own]
        refine latestSilent ?_ (kept.latest assetId)
        rw [publishOf,if_neg fun both => own both.2.symm]
  | read _ | readMany _ _ | readDepthMany _ _ _ =>
    exact ⟨kept.turned,fun assetId => latestSilent rfl (kept.latest assetId)⟩
theorem answeredIff {publisher : SnapshotPublisher} (turned : Turned publisher) (log call) :
    Answered publisher (publisherStep publisher call).2 call ↔ InOrder publisher log call := by
  cases call with
  | publish snapshot fits =>
    refine forall_congr' fun named => ?_
    rw [publishCurrent turned named fits,if_pos rfl]
    constructor
    · rintro ⟨new,same,rises⟩ old shown
      cases same
      exact (risesIff fits turned shown).mp (rises old shown)
    · intro room
      exact ⟨_,rfl,fun old shown => (risesIff fits turned shown).mpr (room old shown)⟩
  | read assetId => exact iff_of_true (congrArg PublisherAnswer.result (readResult turned assetId)) trivial
  | readMany assetIds maxOut =>
    refine iff_of_true (congrArg PublisherAnswer.snapshots ?_) trivial
    have walk := readManyFrom publisher maxOut assetIds [] (Nat.zero_le _)
    rw [List.nil_append,List.length_nil,Nat.sub_zero] at walk
    exact walk
  | readDepthMany assetIds assetIndices maxOut =>
    rw [Answered,publisherStep,PublisherAnswer.views.injEq]
    exact readDepthIff turned assetIndices maxOut assetIds
theorem faithfulIff {publisher : SnapshotPublisher} {log : PublisherLog} (kept : Kept publisher log) (call) :
    Faithful publisher log call ↔ InOrder publisher log call := by
  rw [← answeredIff kept.turned log call]
  exact ⟨Faithful.answered,fun answered => ⟨answered,(keptNext kept call).latest⟩⟩
theorem freshKept : Kept {} [] := ⟨fun _ _ found => (by cases found),fun _ => rfl⟩

theorem publishedInOrderIff (calls : List PublisherCall) :
    Machine.Along publisherStep Faithful {} [] calls ↔ Machine.Along publisherStep InOrder {} [] calls := by
  constructor
  · exact Machine.alongImp (P := Kept) (fun publisher log call kept _ => keptNext kept call)
      (fun publisher log call kept faithful => (faithfulIff kept call).mp faithful) freshKept
  · exact Machine.alongImp (P := Kept) (fun publisher log call kept _ => keptNext kept call)
      (fun publisher log call kept inOrder => (faithfulIff kept call).mpr inOrder) freshKept

def lastVersion : MarketStateSnapshot := {entityId := "a", version := 2^64 - 1}
theorem versionStandsStill : ¬ Machine.Along publisherStep Faithful {} []
    [.publish lastVersion (by decide),.publish {entityId := "a", version := 7} (by decide)] := by
  rintro ⟨_,⟨answered,_⟩,_⟩
  obtain ⟨new,shown,rises⟩ := answered (by decide)
  have before : ((SnapshotPublisher.publish {} lastVersion).current "a") = some lastVersion := by decide +kernel
  have after : ((SnapshotPublisher.publish {} lastVersion).publish {entityId := "a", version := 7}).current "a" =
    some {entityId := "a", version := 7} := by decide +kernel
  cases after.symm.trans shown
  exact absurd (rises lastVersion before) (by decide)

end Polytope.SnapshotPublishing
