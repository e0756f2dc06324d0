import Polytope.CircularLog
import Polytope.Machine

/-! RuntimeSnapshotRing: snapshots get the numbers of a 64-bit counter and go round a circle of slots, and a
reader asks for what came after the last number it saw. Below the counter's last value the ring gives what
the newest part of the whole log gives; at the last value the reading loop's own counter wraps. -/
namespace Polytope.SnapshotRing
open CircularLog (Keeps)

structure Snapshot (β : Type) where
  seqNo : UInt64 := 0
  body : β
  deriving DecidableEq, Repr
structure Slot (β : Type) where
  seq : UInt64 := 0
  snapshot : Snapshot β
  deriving DecidableEq, Repr

structure RuntimeSnapshotRing (β : Type) where
  capacity : UInt64
  positive : 0 < capacity
  slots : Vector (Slot β) capacity.toNat
  nextSeq : UInt64 := 0
  latestPublishedSeq : UInt64 := 0
  droppedFrames : UInt64 := 0

variable {β : Type}

theorem maxToNat (a b : UInt64) : (max a b).toNat = max a.toNat b.toNat := by
  change (if a ≤ b then b else a).toNat = _
  split <;> rw [UInt64.le_iff_toNat_le] at * <;> omega
theorem succToNat {a : UInt64} (room : a.toNat + 1 < 2 ^ 64) : (a + 1).toNat = a.toNat + 1 :=
  (UInt64.toNat_add a 1).trans (Nat.mod_eq_of_lt room)
theorem raisedPositive (requested : UInt64) : 0 < max requested 1 := by
  rw [UInt64.lt_iff_toNat_lt,maxToNat]
  exact lt_of_lt_of_le Nat.zero_lt_one (le_max_right _ _)
def create [Inhabited β] (requested : UInt64) : RuntimeSnapshotRing β :=
  {capacity := max requested 1,positive := raisedPositive requested,slots := Vector.replicate _
    {snapshot := {body := default}}}

namespace RuntimeSnapshotRing
variable (ring : RuntimeSnapshotRing β)

def indexFor (seq : UInt64) : Fin ring.capacity.toNat :=
  ⟨((seq - 1) % ring.capacity).toNat,by rw [UInt64.toNat_mod]; exact Nat.mod_lt _ ring.positive⟩
def oldestAvailableSeq (latestSeq : UInt64) : UInt64 :=
  if latestSeq ≤ ring.capacity then 1 else latestSeq - ring.capacity + 1

-- A lock that another thread holds is not waited for.
def publish (owned : Bool) (snapshot : Snapshot β) : RuntimeSnapshotRing β × UInt64 :=
  let seq := ring.nextSeq + 1
  if owned then
    ({ring with
      nextSeq := seq
      slots := ring.slots.set (ring.indexFor seq) ⟨seq,{snapshot with seqNo := seq}⟩
      latestPublishedSeq := seq},seq)
  else ({ring with nextSeq := seq,droppedFrames := ring.droppedFrames + 1},0)

def readExact (owned : UInt64 → Bool) (seq : UInt64) : Option (Snapshot β) :=
  let slot := ring.slots[ring.indexFor seq]
  if owned seq = false ∨ slot.seq ≠ seq then none else some slot.snapshot

-- From a number down to the least one.
def latestFrom (owned : UInt64 → Bool) (minSeq : UInt64) : Nat → Option (Snapshot β)
  | 0 => if 0 < minSeq then none else ring.readExact owned 0
  | seq + 1 =>
    if UInt64.ofNat (seq + 1) < minSeq then none
    else match ring.readExact owned (UInt64.ofNat (seq + 1)) with
      | some snapshot => some snapshot
      | none => latestFrom owned minSeq seq
def latest (owned : UInt64 → Bool) : Option (Snapshot β) :=
  let latestSeq := ring.latestPublishedSeq
  if latestSeq = 0 then none else ring.latestFrom owned (ring.oldestAvailableSeq latestSeq) latestSeq.toNat

-- A loop that runs out of fuel has not returned.
def readFrom (owned : UInt64 → Bool) (latestSeq maxCount : UInt64) : (fuel : Nat) → UInt64 → List (Snapshot β) →
    Option (List (Snapshot β))
  | 0,_,_ => none
  | fuel + 1,seq,out =>
    if seq ≤ latestSeq ∧ out.length < maxCount.toNat then
      match ring.readExact owned seq with
      | some snapshot => readFrom owned latestSeq maxCount fuel (seq + 1) (out ++ [snapshot])
      | none => readFrom owned latestSeq maxCount fuel (seq + 1) out
    else some out
def readSince (fuel : Nat) (owned : UInt64 → Bool) (sinceSeq maxCount : UInt64) : Option (List (Snapshot β)) :=
  if maxCount = 0 then some []
  else
    let latestSeq := ring.latestPublishedSeq
    if latestSeq = 0 ∨ latestSeq ≤ sinceSeq then some []
    else ring.readFrom owned latestSeq maxCount fuel (max (sinceSeq + 1) (ring.oldestAvailableSeq latestSeq)) []
end RuntimeSnapshotRing

def uncontended : UInt64 → Bool := fun _ => true

/-! A publisher and a reader that polls with the last number it saw. -/

structure Session (β : Type) where
  ring : RuntimeSnapshotRing β
  lastSeen : UInt64 := 0
inductive Call (β : Type) where
  | publish (snapshot : Snapshot β)
  | poll (maxCount : UInt64)
inductive Answer (β : Type) where
  | published (seq : UInt64)
  | polled (out : Option (List (Snapshot β)))

def Session.see (session : Session β) : Option (List (Snapshot β)) → Session β
  | none => session
  | some out =>
    match out.getLast? with
    | none => session
    | some last => {session with lastSeen := last.seqNo}
def step (fuel : Nat) (session : Session β) : Call β → Session β × Answer β
  | .publish snapshot =>
    let (ring,seq) := session.ring.publish true snapshot
    ({session with ring},.published seq)
  | .poll maxCount =>
    let out := session.ring.readSince fuel uncontended session.lastSeen maxCount
    (session.see out,.polled out)

def Call.snapshot : Call β → Option (Snapshot β)
  | .publish snapshot => some snapshot
  | .poll _ => none
def Answer.number : Answer β → Option UInt64
  | .published seq => some seq
  | .polled _ => none
def Answer.frames : Answer β → List (Snapshot β)
  | .polled (some out) => out
  | _ => []
def Answer.returned : Answer β → Bool
  | .polled none => false
  | _ => true
abbrev Log (β : Type) := List (Call β × Answer β)
def numbers (log : Log β) : List UInt64 := log.filterMap fun x => x.2.number
def received (log : Log β) : List (Snapshot β) := log.flatMap fun x => x.2.frames

/-! What the calls are to give: the whole log of what was published, numbered from one. -/

def stamped (snapshots : List (Snapshot β)) : List (Snapshot β) :=
  snapshots.mapIdx fun i snapshot => {snapshot with seqNo := UInt64.ofNat (i + 1)}
def everPublished (calls : List (Call β)) : List (Snapshot β) := stamped (calls.filterMap Call.snapshot)

def Near (session : Session β) (_ : Log β) : Call β → Prop
  | .publish _ => True
  | .poll _ => session.ring.latestPublishedSeq.toNat ≤ session.lastSeen.toNat + session.ring.capacity.toNat

def run [Inhabited β] (requested : UInt64) (fuel : Nat) (calls : List (Call β)) : Session β × Log β :=
  Machine.run (step fuel) {ring := create requested} [] calls
def KeptUp [Inhabited β] (requested : UInt64) (fuel : Nat) (calls : List (Call β)) : Prop :=
  Machine.Along (step fuel) Near {ring := create requested} [] calls

structure Law [Inhabited β] (requested : UInt64) (calls : List (Call β)) (fuel : Nat) : Prop where
  numbered : (everPublished calls).map (fun x => x.seqNo.toNat) = List.range' 1
    (calls.filterMap Call.snapshot).length
  answered : numbers (run requested fuel calls).2 = (everPublished calls).map Snapshot.seqNo
  latest : (run requested fuel calls).1.ring.latest uncontended = (everPublished calls).getLast?
  since (sinceSeq maxCount : UInt64) :
    (run requested fuel calls).1.ring.readSince fuel uncontended sinceSeq maxCount =
    some (((CircularLog.newest (create (β := β) requested).capacity.toNat (everPublished calls)).filter
      fun x => decide (sinceSeq < x.seqNo)).take maxCount.toNat)
  polled : KeptUp requested fuel calls → (∀ x ∈ (run requested fuel calls).2, x.2.returned = true) ∧
    received (run requested fuel calls).2 = (everPublished calls).take (run requested fuel calls).1.lastSeen.toNat
  resumed (maxCount : UInt64) : KeptUp requested fuel calls →
    Near (run requested fuel calls).1 (run requested fuel calls).2 (.poll maxCount) →
    ∃ out, (run requested fuel calls).1.ring.readSince fuel uncontended
      (run requested fuel calls).1.lastSeen maxCount = some out ∧
      received (run requested fuel calls).2 ++ out =
        (everPublished calls).take ((run requested fuel calls).1.lastSeen.toNat + maxCount.toNat)
def SnapshotLaw [Inhabited β] (requested : UInt64) (calls : List (Call β)) : Prop :=
  ∃ enough, ∀ fuel, enough ≤ fuel → Law requested calls fuel

/-! The numbers. -/

theorem stampedConcat (snapshots : List (Snapshot β)) (x : Snapshot β) :
    stamped (snapshots ++ [x]) = stamped snapshots ++
      [{x with seqNo := UInt64.ofNat (snapshots.length + 1)}] := List.mapIdx_concat
theorem stampedLength (snapshots : List (Snapshot β)) : (stamped snapshots).length = snapshots.length :=
  List.length_mapIdx
theorem stampedNumber {snapshots : List (Snapshot β)} {i : Nat} {x : Snapshot β}
    (found : (stamped snapshots)[i]? = some x) :
    x.seqNo = UInt64.ofNat (i + 1) := by
  rw [stamped,List.getElem?_mapIdx] at found
  obtain ⟨_,_,rfl⟩ := Option.map_eq_some_iff.mp found
  rfl

def Numbered (log : List (Snapshot β)) : Prop := ∀ i x, log[i]? = some x → x.seqNo.toNat = i + 1

theorem stampedNumbered {snapshots : List (Snapshot β)} (few : snapshots.length < 2 ^ 64) :
    Numbered (stamped snapshots) := by
  intro i x found
  obtain ⟨inside,_⟩ := List.getElem?_eq_some_iff.mp found
  rw [stampedLength] at inside
  rw [stampedNumber found,UInt64.toNat_ofNat_of_lt' (lt_of_le_of_lt inside few)]
theorem stampedRange {snapshots : List (Snapshot β)} (few : snapshots.length < 2 ^ 64) :
    (stamped snapshots).map (fun x => x.seqNo.toNat) = List.range' 1 snapshots.length := by
  apply List.ext_getElem?
  intro i
  rw [List.getElem?_map]
  rcases lt_or_ge i snapshots.length with inside | outside
  · rw [← stampedLength] at inside
    rw [List.getElem?_eq_getElem inside,List.getElem?_range' (stampedLength snapshots ▸ inside),Option.map_some,
      stampedNumbered few i _ (List.getElem?_eq_getElem inside)]
    congr 1
    omega
  · rw [List.getElem?_eq_none (by rw [stampedLength]; exact outside),List.getElem?_eq_none
      (by rw [List.length_range']; exact outside)]
    rfl

/-! The slots keep the newest of the log. -/

namespace RuntimeSnapshotRing
variable {ring : RuntimeSnapshotRing β}

def held (ring : RuntimeSnapshotRing β) (i : Nat) : Option (Nat × Snapshot β) :=
  ring.slots[i]?.bind fun slot => if slot.seq = 0 then none else some (slot.seq.toNat - 1,slot.snapshot)

theorem createKeeps [Inhabited β] (requested : UInt64) :
    Keeps (create (β := β) requested).capacity.toNat [] (create (β := β) requested).held := by
  have empty : (create (β := β) requested).held = fun _ => none := by
    funext i
    rw [held,create,Vector.getElem?_replicate]
    split <;> rfl
  rw [empty]
  exact CircularLog.keepsNothing _
theorem indexAt {seq : UInt64} {k : Nat} (number : seq.toNat = k + 1) :
    (ring.indexFor seq : Nat) = k % ring.capacity.toNat := by
  have one : (1 : UInt64) ≤ seq :=
    UInt64.le_iff_toNat_le.mpr (by rw [number]; exact Nat.succ_le_succ (Nat.zero_le k))
  change ((seq - 1) % ring.capacity).toNat = _
  rw [UInt64.toNat_mod,UInt64.toNat_sub_of_le _ _ one,number]
  rfl
theorem publishKeeps {log : List (Snapshot β)} (keeps : Keeps ring.capacity.toNat log ring.held)
    (counted : ring.nextSeq = UInt64.ofNat log.length) (room : log.length + 1 < 2 ^ 64) (x : Snapshot β) :
    Keeps ring.capacity.toNat (log ++ [{x with seqNo := UInt64.ofNat (log.length + 1)}])
      (ring.publish true x).1.held := by
  have seq : ring.nextSeq + 1 = UInt64.ofNat (log.length + 1) := by rw [counted,UInt64.ofNat_add]; rfl
  have number : (ring.nextSeq + 1).toNat = log.length + 1 := by rw [seq,UInt64.toNat_ofNat_of_lt' room]
  have some_ : ring.nextSeq + 1 ≠ 0 := fun zero => by rw [zero] at number; cases number
  have written : (ring.publish true x).1.held = Function.update ring.held (log.length % ring.capacity.toNat)
      (some (log.length,{x with seqNo := UInt64.ofNat (log.length + 1)})) := by
    funext i
    have slots : (ring.publish true x).1.held i = ((ring.slots.set (ring.indexFor (ring.nextSeq + 1))
        ⟨ring.nextSeq + 1,{x with seqNo := ring.nextSeq + 1}⟩)[i]?).bind
          fun slot => if slot.seq = 0 then none else some (slot.seq.toNat - 1,slot.snapshot) := rfl
    rw [slots,Vector.getElem?_set,indexAt number]
    rcases eq_or_ne i (log.length % ring.capacity.toNat) with rfl | elsewhere
    · rw [if_pos rfl,Function.update_self,Option.bind_some,if_neg some_,number,seq]
      rfl
    · rw [if_neg elsewhere.symm,Function.update_of_ne elsewhere]
      rfl
  rw [written]
  exact CircularLog.keepsPush (UInt64.lt_iff_toNat_lt.mp ring.positive) keeps _

/-! What the readers find there. -/

theorem oldestNumber (ring : RuntimeSnapshotRing β) (latestSeq : UInt64) :
    (ring.oldestAvailableSeq latestSeq).toNat = latestSeq.toNat - ring.capacity.toNat + 1 := by
  have positive := UInt64.lt_iff_toNat_lt.mp ring.positive
  have bounded := latestSeq.toNat_lt
  unfold oldestAvailableSeq
  split
  · next small =>
    rw [Nat.sub_eq_zero_of_le (UInt64.le_iff_toNat_le.mp small)]
    rfl
  · next large =>
    rw [UInt64.le_iff_toNat_le] at large
    have apart := UInt64.toNat_sub_of_le latestSeq ring.capacity (UInt64.le_iff_toNat_le.mpr (by omega))
    change 0 < _ at positive
    rw [succToNat (by omega),apart]

section
variable {log : List (Snapshot β)} (keeps : Keeps ring.capacity.toNat log ring.held)
include keeps

theorem readRecent {seq : UInt64} {k : Nat} (number : seq.toNat = k + 1) (inside : k < log.length)
    (recent : log.length ≤ k + ring.capacity.toNat) : ring.readExact uncontended seq = some log[k] := by
  have there := CircularLog.readRecent keeps inside recent
  rw [← indexAt number,held,Vector.getElem?_eq_getElem (ring.indexFor seq).isLt,Option.bind_some] at there
  split at there
  · cases there
  · next some_ =>
    obtain ⟨place,found⟩ := Prod.mk.inj (Option.some.inj there)
    have same : ring.slots[ring.indexFor seq].seq = seq := by
      rw [← UInt64.toNat_inj,number]
      have positive : ring.slots[ring.indexFor seq].seq.toNat ≠ 0 := fun zero => some_ (UInt64.toNat_inj.mp zero)
      change ring.slots[ring.indexFor seq].seq.toNat - 1 = k at place
      omega
    have given : ring.readExact uncontended seq = some ring.slots[ring.indexFor seq].snapshot :=
      if_neg fun refused => refused.elim Bool.noConfusion fun other => other same
    exact given.trans (congrArg some found)

variable (visible : ring.latestPublishedSeq.toNat = log.length)
include visible

theorem latestLast : ring.latest uncontended = log.getLast? := by
  rcases log.eq_nil_or_concat' with rfl | ⟨before,last,rfl⟩
  · exact if_pos (UInt64.toNat_inj.mp visible)
  · have size : ring.latestPublishedSeq.toNat = before.length + 1 := by
      rw [visible,List.length_append,List.length_singleton]
    have some_ : ring.latestPublishedSeq ≠ 0 := fun zero => by rw [zero] at size; cases size
    have whole : UInt64.ofNat (before.length + 1) = ring.latestPublishedSeq := by rw [← size,UInt64.ofNat_toNat]
    have oldest := oldestNumber ring ring.latestPublishedSeq
    have positive := UInt64.lt_iff_toNat_lt.mp ring.positive
    have later : ¬ ring.latestPublishedSeq < ring.oldestAvailableSeq ring.latestPublishedSeq := by
      rw [UInt64.lt_iff_toNat_lt,oldest]
      omega
    have found := readRecent keeps size (by simp) (by simp; omega)
    rw [latest,if_neg some_,size,latestFrom,whole,if_neg later,found]
    simp
theorem readFromGives {maxCount : UInt64} (room : log.length + 1 < 2 ^ 64) {fuel k : Nat} {seq : UInt64}
    {out : List (Snapshot β)}
    (number : seq.toNat = k + 1) (inside : k ≤ log.length) (recent : log.length ≤ k + ring.capacity.toNat)
    (enough : log.length - k < fuel) :
    ring.readFrom uncontended ring.latestPublishedSeq maxCount fuel seq out = some
      (out ++ (log.drop k).take (maxCount.toNat - out.length)) := by
  induction fuel generalizing k seq out with
  | zero => omega
  | succ fuel ih =>
    have below : seq ≤ ring.latestPublishedSeq ↔ k + 1 ≤ log.length := by
      rw [UInt64.le_iff_toNat_le,number,visible]
    rw [readFrom]
    by_cases more : seq ≤ ring.latestPublishedSeq ∧ out.length < maxCount.toNat
    · have within := below.mp more.1
      have short := more.2
      have next : (seq + 1).toNat = k + 1 + 1 := by rw [succToNat (by omega),number]
      have left : maxCount.toNat - out.length = maxCount.toNat - (out.length + 1) + 1 := by omega
      rw [if_pos more,readRecent keeps number within recent]
      simp only
      rw [ih next within (by omega)
        (by omega),List.drop_eq_getElem_cons within,left,List.take_succ_cons,List.length_append,
        List.length_singleton,List.append_assoc]
      rfl
    · have none_ : (log.drop k).take (maxCount.toNat - out.length) = [] := by
        rw [below] at more
        rw [List.take_eq_nil_iff,List.drop_eq_nil_iff]
        omega
      rw [if_neg more,none_,List.append_nil]
theorem readSinceGives (room : log.length + 1 < 2 ^ 64) {fuel : Nat} (enough : ring.capacity.toNat < fuel)
    (sinceSeq maxCount : UInt64) :
    ring.readSince fuel uncontended sinceSeq maxCount =
      some (CircularLog.since ring.capacity.toNat log sinceSeq.toNat maxCount.toNat) := by
  rw [readSince,CircularLog.since]
  by_cases nothing : maxCount = 0
  · rw [if_pos nothing,nothing]
    rfl
  · rw [if_neg nothing]
    by_cases seen : ring.latestPublishedSeq = 0 ∨ ring.latestPublishedSeq ≤ sinceSeq
    · have none_ : log.drop (max sinceSeq.toNat (log.length - ring.capacity.toNat)) = [] := by
        rw [← UInt64.toNat_inj,UInt64.le_iff_toNat_le,visible] at seen
        change log.length = 0 ∨ _ at seen
        rw [List.drop_eq_nil_iff]
        omega
      rw [none_,List.take_nil]
      exact if_pos seen
    · have some_ : log.length ≠ 0 ∧ sinceSeq.toNat < log.length := by
        rw [← UInt64.toNat_inj,UInt64.le_iff_toNat_le,visible] at seen
        change ¬ (log.length = 0 ∨ _) at seen
        omega
      have oldest := oldestNumber ring ring.latestPublishedSeq
      have next : (sinceSeq + 1).toNat = sinceSeq.toNat + 1 := succToNat (by omega)
      have first : (max (sinceSeq + 1) (ring.oldestAvailableSeq ring.latestPublishedSeq)).toNat =
          max sinceSeq.toNat (log.length - ring.capacity.toNat) + 1 := by
        rw [maxToNat,next,oldest,visible]
        omega
      have positive := UInt64.lt_iff_toNat_lt.mp ring.positive
      exact (if_neg seen).trans (readFromGives keeps visible room first (by omega) (by omega) (by omega))
end
end RuntimeSnapshotRing

/-! Runs. -/

def published (log : Log β) : List (Snapshot β) := everPublished (log.map Prod.fst)

theorem publishedLength (calls : List (Call β)) :
    (everPublished calls).length = (calls.filterMap Call.snapshot).length := stampedLength _
theorem afterPublish (log : Log β) (x : Snapshot β) (answer : Answer β) :
    published (log ++ [(.publish x,answer)]) = published log ++
      [{x with seqNo := UInt64.ofNat ((published log).length + 1)}] := by
  rw [published,published,publishedLength,everPublished,everPublished,List.map_append,List.filterMap_append,←
    stampedConcat]
  rfl
theorem afterPoll (log : Log β) (maxCount : UInt64) (answer : Answer β) :
    published (log ++ [(.poll maxCount,answer)]) = published log := by
  rw [published,published,everPublished,everPublished,List.map_append,List.filterMap_append]
  exact congrArg stamped (List.append_nil _)
theorem numbersConcat (log : Log β) (x : Call β × Answer β) :
    numbers (log ++ [x]) = numbers log ++ x.2.number.toList := by
  rw [numbers,List.filterMap_append]
  cases h : x.2.number <;> simp [numbers,h]
theorem receivedConcat (log : Log β) (x : Call β × Answer β) :
    received (log ++ [x]) = received log ++ x.2.frames := by
  rw [received,List.flatMap_append,List.flatMap_singleton]
  rfl
theorem seeRing (session : Session β) (out : Option (List (Snapshot β))) :
    (session.see out).ring = session.ring := by
  unfold Session.see
  split
  · rfl
  · split <;> rfl

theorem seeResumes {session : Session β} {log out : List (Snapshot β)} (numbered : Numbered log)
    (behind : session.lastSeen.toNat ≤ log.length)
    {limit : Nat} (given : log.take session.lastSeen.toNat ++ out = log.take limit) :
    (session.see (some out)).lastSeen.toNat ≤ log.length ∧
    log.take (session.see (some out)).lastSeen.toNat = log.take limit := by
  cases last : out.getLast? with
  | none =>
    have still : session.see (some out) = session := by simp only [Session.see,last]
    rw [List.getLast?_eq_none_iff.mp last,List.append_nil] at given
    rw [still]
    exact ⟨behind,given⟩
  | some frame =>
    have moved : session.see (some out) = {session with lastSeen := frame.seqNo} := by simp only [Session.see,last]
    have final : (log.take limit).getLast? = some frame := by
      rw [← given,List.getLast?_append,last]
      rfl
    rw [moved]
    exact CircularLog.resumePoint numbered final

structure Ran [Inhabited β] (requested : UInt64) (session : Session β) (log : Log β) : Prop where
  capacity : session.ring.capacity = (create (β := β) requested).capacity
  next : session.ring.nextSeq = UInt64.ofNat (published log).length
  visible : session.ring.latestPublishedSeq = session.ring.nextSeq
  answered : numbers log = (published log).map Snapshot.seqNo
  keeps : (published log).length < 2 ^ 64 → Keeps session.ring.capacity.toNat (published log) session.ring.held

theorem publishedGrows (log : Log β) (x : Call β × Answer β) :
    (published log).length ≤ (published (log ++ [x])).length := by
  obtain ⟨call,answer⟩ := x
  cases call with
  | publish snapshot =>
    rw [afterPublish,List.length_append]
    exact Nat.le_add_right _ _
  | poll maxCount => rw [afterPoll]

section
variable [Inhabited β] {requested : UInt64} {fuel : Nat} {session : Session β} {log : Log β}

theorem ranStep (call : Call β) (ran : Ran requested session log) :
    Ran requested (step fuel session call).1 (log ++ [(call,(step fuel session call).2)]) := by
  cases call with
  | publish x =>
    have seq : session.ring.nextSeq + 1 = UInt64.ofNat ((published log).length + 1) := by
      rw [ran.next,UInt64.ofNat_add]; rfl
    refine ⟨ran.capacity,?_,rfl,?_,fun few => ?_⟩
    · rw [afterPublish,List.length_append,List.length_singleton]
      exact seq
    · rw [numbersConcat,afterPublish,List.map_append,ran.answered,← seq]
      rfl
    · rw [afterPublish] at few ⊢
      rw [List.length_append,List.length_singleton] at few
      exact RuntimeSnapshotRing.publishKeeps (ran.keeps (by omega)) ran.next few x
  | poll maxCount =>
    have same : (step fuel session (.poll maxCount)).1.ring = session.ring := seeRing session _
    refine ⟨?_,?_,?_,?_,fun few => ?_⟩
    · rw [same]
      exact ran.capacity
    · rw [same,afterPoll]
      exact ran.next
    · rw [same]
      exact ran.visible
    · rw [numbersConcat,afterPoll,← ran.answered]
      exact List.append_nil _
    · rw [afterPoll] at few ⊢
      rw [same]
      exact ran.keeps few
theorem ranStart : Ran requested {ring := create (β := β) requested} [] :=
  ⟨rfl,rfl,rfl,rfl,fun _ => RuntimeSnapshotRing.createKeeps requested⟩
theorem ranRun (requested : UInt64) (fuel : Nat) (calls : List (Call β)) :
    Ran requested (run requested fuel calls).1 (run requested fuel calls).2 :=
  Machine.invariant (fun _ _ call ran => ranStep call ran) calls ranStart
theorem publishedRun (requested : UInt64) (fuel : Nat) (calls : List (Call β)) :
    published (run requested fuel calls).2 = everPublished calls := by
  rw [published,run,Machine.runInputs]
  rfl
theorem ranVisible (ran : Ran requested session log) (few : (published log).length < 2 ^ 64) :
    session.ring.latestPublishedSeq.toNat = (published log).length := by
  rw [ran.visible,ran.next,UInt64.toNat_ofNat_of_lt' few]
theorem ranSince (ran : Ran requested session log) (room : (published log).length + 1 < 2 ^ 64)
    (enough : (create (β := β) requested).capacity.toNat < fuel) (sinceSeq maxCount : UInt64) :
    session.ring.readSince fuel uncontended sinceSeq maxCount =
      some (CircularLog.since (create (β := β) requested).capacity.toNat
        (published log) sinceSeq.toNat maxCount.toNat) := by
  rw [← ran.capacity] at enough ⊢
  exact RuntimeSnapshotRing.readSinceGives (ran.keeps (by omega))
    (ranVisible ran (by omega)) room enough sinceSeq maxCount

structure Follows (session : Session β) (log : Log β) : Prop where
  returned : ∀ x ∈ log, x.2.returned = true
  behind : session.lastSeen.toNat ≤ (published log).length
  whole : received log = (published log).take session.lastSeen.toNat

theorem followsPoll (ran : Ran requested session log) (follows : Follows session log)
    (room : (published log).length + 1 < 2 ^ 64)
    (enough : (create (β := β) requested).capacity.toNat < fuel) {maxCount : UInt64}
    (near : Near session log (.poll maxCount)) :
    ∃ out, session.ring.readSince fuel uncontended session.lastSeen maxCount = some out ∧
      received log ++ out = (published log).take (session.lastSeen.toNat + maxCount.toNat) := by
  refine ⟨_,ranSince ran room enough session.lastSeen maxCount,?_⟩
  rw [follows.whole]
  refine CircularLog.sinceResumes ?_ _
  rw [← ran.capacity,← ranVisible ran (by omega)]
  exact near
theorem followsStep {call : Call β} (ran : Ran requested session log) (follows : Follows session log)
    (room : (published (log ++ [(call,(step fuel session call).2)])).length + 1 < 2 ^ 64)
    (enough : (create (β := β) requested).capacity.toNat < fuel) (near : Near session log call) :
    Follows (step fuel session call).1 (log ++ [(call,(step fuel session call).2)]) := by
  cases call with
  | publish x =>
    have behind := follows.behind
    refine ⟨?_,?_,?_⟩
    · exact List.forall_mem_append.mpr ⟨follows.returned,List.forall_mem_singleton.mpr rfl⟩
    · rw [afterPublish,List.length_append]
      exact Nat.le_add_right_of_le behind
    · rw [receivedConcat,afterPublish,follows.whole]
      exact (List.append_nil _).trans (List.take_append_of_le_length behind).symm
  | poll maxCount =>
    rw [afterPoll] at room
    obtain ⟨out,read,given⟩ := followsPoll ran follows room enough near
    have few : ((log.map Prod.fst).filterMap Call.snapshot).length < 2 ^ 64 := by
      rw [← publishedLength]
      exact Nat.lt_of_succ_lt room
    obtain ⟨behind,same⟩ := seeResumes (stampedNumbered few) follows.behind (follows.whole ▸ given)
    have answer : step fuel session (.poll maxCount) = (session.see (some out),.polled (some out)) := by
      rw [step,read]
    rw [answer]
    refine ⟨?_,?_,?_⟩
    · exact List.forall_mem_append.mpr ⟨follows.returned,List.forall_mem_singleton.mpr rfl⟩
    · rw [afterPoll]
      exact behind
    · rw [receivedConcat,afterPoll]
      exact given.trans same.symm
theorem followsRun {calls : List (Call β)}
    (room : (published (run requested fuel calls).2).length + 1 < 2 ^ 64)
    (enough : (create (β := β) requested).capacity.toNat < fuel) (near : KeptUp requested fuel calls) :
    Follows (run requested fuel calls).1 (run requested fuel calls).2 := by
  have kept := Machine.invariantAlong (C := Near)
    (P := fun session log => Ran requested session log ∧
      ((published log).length + 1 < 2 ^ 64 → Follows session log))
    (fun session log call h near => ⟨ranStep call h.1,fun room =>
      followsStep h.1 (h.2 (lt_of_le_of_lt (Nat.succ_le_succ (publishedGrows log _)) room)) room enough near⟩)
    ⟨ranStart,fun _ => ⟨fun _ mem => absurd mem List.not_mem_nil,Nat.zero_le _,rfl⟩⟩ near
  exact kept.2 room

theorem fewHold {calls : List (Call β)} (few : (calls.filterMap Call.snapshot).length < 2 ^ 64 - 1)
    (enough : (create (β := β) requested).capacity.toNat < fuel) : Law requested calls fuel := by
  have ran := ranRun requested fuel calls
  have log := publishedRun requested fuel calls
  have room : (published (run requested fuel calls).2).length + 1 < 2 ^ 64 := by
    rw [log,publishedLength]
    omega
  have numbered : Numbered (everPublished calls) := stampedNumbered (by omega)
  constructor
  · exact stampedRange (by omega)
  · rw [ran.answered,log]
  · rw [RuntimeSnapshotRing.latestLast (ran.keeps (by omega)) (ranVisible ran (by omega)),log]
  · intro sinceSeq maxCount
    have read := ranSince ran room enough sinceSeq maxCount
    rw [log,← CircularLog.sinceNumbered numbered] at read
    simp only [UInt64.lt_iff_toNat_lt]
    exact read
  · intro near
    have follows := followsRun room enough near
    rw [← log]
    exact ⟨follows.returned,follows.whole⟩
  · intro maxCount near close
    have follows := followsRun room enough near
    rw [← log]
    exact followsPoll ran follows room enough close

end

/-! At its last value the loop's counter never passes the latest number, and one more publish starts the numbers again. -/

section
variable {ring : RuntimeSnapshotRing β} {fuel : Nat}

theorem readFromFills {latestSeq maxCount : UInt64} (last : latestSeq.toNat = 2 ^ 64 - 1) {seq : UInt64}
    {out given : List (Snapshot β)}
      (read : ring.readFrom uncontended latestSeq maxCount fuel seq out = some given) :
    maxCount.toNat ≤ given.length := by
  induction fuel generalizing seq out with
  | zero => cases read
  | succ fuel ih =>
    rw [RuntimeSnapshotRing.readFrom] at read
    split at read
    · split at read
      · exact ih read
      · exact ih read
    · next ended =>
      cases read
      have below : seq ≤ latestSeq := by
        rw [UInt64.le_iff_toNat_le,last]
        exact Nat.le_sub_one_of_lt seq.toNat_lt
      exact not_lt.mp fun short => ended ⟨below,short⟩
theorem readSinceFills (last : ring.latestPublishedSeq.toNat = 2 ^ 64 - 1) {sinceSeq maxCount : UInt64}
    (unread : sinceSeq.toNat < 2 ^ 64 - 1) {given : List (Snapshot β)}
    (read : ring.readSince fuel uncontended sinceSeq maxCount = some given) :
    maxCount.toNat ≤ given.length := by
  rw [RuntimeSnapshotRing.readSince] at read
  split at read
  · next zero =>
    rw [zero]
    exact Nat.zero_le _
  · have more : ¬ (ring.latestPublishedSeq = 0 ∨ ring.latestPublishedSeq ≤ sinceSeq) := by
      rw [← UInt64.toNat_inj,UInt64.le_iff_toNat_le,last,UInt64.toNat_zero]
      omega
    exact readFromFills last ((if_neg more).symm.trans read)
theorem numbersRestart {snapshots : List (Snapshot β)} (many : 2 ^ 64 ≤ snapshots.length) :
    (stamped snapshots).map (fun x => x.seqNo.toNat) ≠ List.range' 1 snapshots.length := by
  intro numbered
  have inside : 2 ^ 64 - 1 < (stamped snapshots).length := by
    rw [stampedLength]
    omega
  have found := List.getElem?_eq_getElem inside
  have here := congrArg (fun l => l[2 ^ 64 - 1]?) numbered
  simp only [List.getElem?_map,found,Option.map_some,List.getElem?_range'
    (stampedLength snapshots ▸ inside),Option.some_inj,
    stampedNumber found] at here
  exact absurd here (by decide)
end

section
variable [Inhabited β] {requested : UInt64} {fuel : Nat}

theorem manyBreak {calls : List (Call β)} (many : 2 ^ 64 - 1 ≤ (calls.filterMap Call.snapshot).length) :
    ¬ Law requested calls fuel := by
  intro law
  rcases eq_or_lt_of_le many with exactly | more
  · have ran := ranRun requested fuel calls
    have visible := ranVisible ran (by rw [publishedRun,publishedLength]; omega)
    rw [publishedRun,publishedLength,← exactly] at visible
    have numbered : Numbered (everPublished calls) := stampedNumbered (by omega)
    have fills := readSinceFills visible (by decide) (law.since (UInt64.ofNat (2 ^ 64 - 2)) 2)
    simp only [UInt64.lt_iff_toNat_lt] at fills
    rw [CircularLog.sinceNumbered numbered,CircularLog.since,List.length_take,List.length_drop,publishedLength,←
      exactly] at fills
    change 2 ≤ min 2 (_ - max (2 ^ 64 - 2) _) at fills
    omega
  · exact numbersRestart (by omega) law.numbered

theorem ringLaw (requested : UInt64) (calls : List (Call β)) :
    SnapshotLaw requested calls ↔ (calls.filterMap Call.snapshot).length < 2 ^ 64 - 1 := by
  constructor
  · rintro ⟨enough,law⟩
    exact not_le.mp fun many => manyBreak many (law enough le_rfl)
  · exact fun few => ⟨(create (β := β) requested).capacity.toNat + 1,fun _ enough => fewHold few enough⟩
end

-- The frame of number one is gone: the reader fell behind.
example : received (run 2 3
    [.publish {body := 'a'},.publish {body := 'b'},.publish {body := 'c'},.poll 1,.poll 9,.poll 9]).2 =
      [⟨2,'b'⟩,⟨3,'c'⟩] := by decide

theorem longRunBreaks : ¬ SnapshotLaw 2 (List.replicate (2 ^ 64 - 1) (Call.publish {body := ()})) := by
  rintro ⟨enough,law⟩
  have frame : (Call.publish {body := ()}).snapshot = some {body := ()} := rfl
  refine manyBreak ?_ (law enough le_rfl)
  rw [List.filterMap_replicate_of_some frame,List.length_replicate]

end Polytope.SnapshotRing
