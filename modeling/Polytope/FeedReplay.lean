import Polytope.Delimiting
import Polytope.EntityStore
import Polytope.FeedCapture
import Polytope.MessageDecoding

/-! ReplayRunner: the raw log is read packet by packet, each payload decoded, and each event applied to an entity
store of its own, with a row of CSV for it. A captured log, cut anywhere, replays to what the messages within the
cut give when they are applied one after another; the text of the trace tells the rows apart. -/
namespace Polytope.FeedReplay
open ByteReader (Bytes)
open EntityBooks (EntityStatus StateApplyCode NormalizedEventType)
open EntityStore (EntityStateStore StateApplyResult)
open EventNormalizing (Json SourceId)
open RawLog
open MessageDecoding
open FeedCapture

/-! A row of the trace. -/

abbrev Text := List Char
structure TraceRow where
  packetId : UInt64
  eventIndex : UInt64
  eventType : String
  rawType : String
  entityId : String
  applyCode : String
  entityStatus : String
  entityHash : UInt64
  globalHash : UInt64
  deriving DecidableEq, Repr

def comma : Char := Char.ofNat 44
def doubleQuote : Char := Char.ofNat 34
def newline : Char := Char.ofNat 10
def carriageReturn : Char := Char.ofNat 13
def special (c : Char) : Bool := c = comma || c = doubleQuote || c = newline || c = carriageReturn
def doubled (c : Char) : Text := if c = doubleQuote then [doubleQuote,c] else [c]
def csvEscape (value : Text) : Text :=
  if value.any special = false then value else doubleQuote::(value.flatMap doubled ++ [doubleQuote])
def number (n : UInt64) : Text := Nat.toDigits 10 n.toNat
def eventTypeName : NormalizedEventType → String
  | .snapshot => "Snapshot"
  | .delta => "Delta"
  | .statusChange => "StatusChange"
  | .lifecycleEvent => "LifecycleEvent"
  | .tradeEvent => "TradeEvent"
  | .heartbeat => "Heartbeat"
  | .decodeError => "DecodeError"
  | .unknown => "Unknown"
def entityStatusName : EntityStatus → String
  | .uninitialized => "Uninitialized"
  | .live => "Live"
  | .recovering => "Recovering"
  | .inconsistent => "Inconsistent"
  | .stale => "Stale"
  | .closed => "Closed"
def applyCodeName : StateApplyCode → String
  | .applied => "Applied"
  | .ignoredHeartbeat => "IgnoredHeartbeat"
  | .ignoredUnknown => "IgnoredUnknown"
  | .ignoredTrade => "IgnoredTrade"
  | .missingEntityId => "MissingEntityId"
  | .deltaBeforeSnapshot => "DeltaBeforeSnapshot"
  | .closedEntityIgnored => "ClosedEntityIgnored"
  | .unknownSide => "UnknownSide"
  | .invalidValue => "InvalidValue"
  | .noop => "Noop"
def escaped (text : String) : Text := csvEscape text.toList
def traceHeader : String :=
  "packet_id,event_index,event_type,raw_type,entity_id,apply_code,entity_status,entity_hash,global_hash\n"
def rowText (row : TraceRow) : Text :=
  (number row.packetId ++ [comma]) ++ ((number row.eventIndex ++ [comma]) ++ ((escaped row.eventType ++ [comma]) ++
    ((escaped row.rawType ++ [comma]) ++
      ((escaped row.entityId ++ [comma]) ++ ((escaped row.applyCode ++ [comma]) ++
      ((escaped row.entityStatus ++ [comma]) ++
        ((number row.entityHash ++ [comma]) ++ (number row.globalHash ++ [newline]))))))))
def traceText (rows : List TraceRow) : Text := traceHeader.toList ++ rows.flatMap rowText

/-! ReplayRunner. -/

structure ReplaySummary where
  packetsRead : UInt64 := 0
  normalizedEvents : UInt64 := 0
  eventsApplied : UInt64 := 0
  traceRows : UInt64 := 0
  globalHash : UInt64 := 0
  deterministicTraceWritten : Bool := false
  deriving DecidableEq, Repr
structure Replay where
  stateStore : EntityStateStore := {}
  summary : ReplaySummary := {}
  rows : List TraceRow := []

-- A header may hold any 16 bits; those that name no source are taken as unknown.
def sourceOf (code : UInt16) : SourceId :=
  if code = 1 then .polymarketMarket
  else if code = 2 then .polymarketUser
  else if code = 3 then .polymarketSports
  else if code = 4 then .polymarketRtds
  else .unknown
def toDecodeInputView (packet : RawPacket) : DecodeInput :=
  {packetId := packet.header.packetId
   recvWallNs := packet.header.recvWallNs
   recvMonotonicNs := packet.header.recvMonotonicNs
   sourceId := sourceOf packet.header.sourceId
   connectionId := packet.header.connectionId
   codec := packet.header.codec
   flags := packet.header.flags
   payload := packet.payload}
def statusOf (store : EntityStateStore) (entityId : String) : EntityStatus :=
  ((store.get entityId).map (·.status)).getD .uninitialized
def traceRow (event : EventNormalizing.NormalizedEvent) (eventIndex : Nat) (result : StateApplyResult)
    (store : EntityStateStore) : TraceRow :=
  {packetId := event.packetId
   eventIndex := UInt64.ofNat eventIndex
   eventType := eventTypeName event.eventType
   rawType := event.rawType
   entityId := result.entityId
   applyCode := applyCodeName result.code
   entityStatus := if result.entityId = "" then "" else entityStatusName (statusOf store result.entityId)
   entityHash := result.entityHash
   globalHash := result.globalHash}
def ReplaySummary.countEvent (summary : ReplaySummary) : ReplaySummary :=
  {summary with
    normalizedEvents := summary.normalizedEvents + 1
    eventsApplied := summary.eventsApplied + 1
    traceRows := summary.traceRows + 1}
def replayEvents (replay : Replay) (eventIndex : Nat) : List EventNormalizing.NormalizedEvent → Replay
  | [] => replay
  | event::rest =>
    let (stateStore,result) := EntityStore.apply replay.stateStore event.toNormalizedEvent
    replayEvents
      { stateStore
        summary := replay.summary.countEvent
        rows := replay.rows ++ [traceRow event eventIndex result stateStore] }
      (eventIndex + 1) rest

section
variable (parse : Bytes → Option Json)

def replayPacket (replay : Replay) (packet : RawPacket) : Replay × Option String :=
  let replay := {replay with summary := {replay.summary with packetsRead := replay.summary.packetsRead + 1}}
  let (decoded,batch) := decode parse (toDecodeInputView packet)
  if decoded.ok = false then (replay,some ("ReplayRunner decode failed: " ++ decoded.error.message))
  else (replayEvents replay 0 batch.events,none)
-- Ends at the end of the log or with the refusal that is thrown; none where the fuel is too short.
def replayLoop : Nat → RawLogReader → Replay → Option (Replay × Option String)
  | 0,_,_ => none
  | fuel + 1,reader,replay =>
    let (reader,read) := reader.next
    match read.packet,read.error with
    | none,.endOfFile => some (replay,none)
    | some packet,.none =>
      match replayPacket parse replay packet with
      | (replay,some refusal) => some (replay,some refusal)
      | (replay,none) => replayLoop fuel reader replay
    | _,_ => some (replay,some ("ReplayRunner raw read failed: " ++ read.message))
def finish (replay : Replay) : Replay :=
  let (stateStore,globalHash) := replay.stateStore.globalHash
  {replay with stateStore, summary := {replay.summary with globalHash, deterministicTraceWritten := true}}
def finished : Replay × Option String → Replay × Option String
  | (replay,none) => (finish replay,none)
  | (replay,some refusal) => (replay,some refusal)
-- Every packet read takes a header off the bytes that are left.
def replayToCsv (reader : RawLogReader) : Option (Replay × Option String) :=
  (replayLoop parse (reader.rest.length + 1) reader {}).map finished

/-! The packets applied one after another, with no log between. -/

def replayPackets (replay : Replay) : List RawPacket → Replay × Option String
  | [] => (replay,none)
  | packet::rest =>
    match replayPacket parse replay packet with
    | (replay,some refusal) => (replay,some refusal)
    | (replay,none) => replayPackets replay rest
-- What the packets come to, and the end of the log behind them.
def endedBy (last : Option String) : Replay × Option String → Replay × Option String
  | (replay,some refusal) => (replay,some refusal)
  | (replay,none) => finished (replay,last)

end

/-! Reading the log. -/

def TornMessage (message : String) : Prop :=
  message = "ReplayRunner raw read failed: truncated raw packet header" ∨
    message = "ReplayRunner raw read failed: truncated raw packet payload"
-- How reading ends on what is left behind whole records.
def EndsIn (last : Option String) (result : RawLogReadResult) : Prop :=
  (last = none ∧ result = makeError .endOfFile "end of raw log") ∨
  (∃ message ∈ last, TornMessage message ∧ Truncation result ∧
    message = "ReplayRunner raw read failed: " ++ result.message)

section
variable {parse : Bytes → Option Json}

theorem loopLast {reader : RawLogReader} {last : Option String} (ends : EndsIn last (reader.next).2)
    (fuel : Nat) (replay : Replay) :
    replayLoop parse (fuel + 1) reader replay = some (replay,last) := by
  rw [replayLoop]
  dsimp only
  obtain ⟨rfl,result⟩ | ⟨message,mem,-,torn,rfl⟩ := ends
  · rw [result]
    rfl
  · cases mem
    obtain result | result := torn
    · rw [result]
      rfl
    · rw [result]
      rfl
theorem loopRecords {packets : List RawPacket} (accepted : ∀ packet ∈ packets, Accepted packet)
    {reader : RawLogReader} {tail : Bytes}
    (ready : Ready reader (FramedLog.joined packetBytes packets ++ tail)) {fuel : Nat}
    (enough : packets.length < fuel) (replay : Replay) :
    ∃ after : RawLogReader, Ready after tail ∧ ∀ last, EndsIn last (after.next).2 →
      (replayLoop parse fuel reader replay).map finished = some
      (endedBy last (replayPackets parse replay packets)) := by
  induction packets generalizing reader fuel replay with
  | nil =>
    obtain ⟨fuel,rfl⟩ := Nat.exists_eq_succ_of_ne_zero (Nat.ne_zero_of_lt enough)
    refine ⟨reader,ready,fun last ends => ?_⟩
    rw [Nat.succ_eq_add_one,loopLast ends]
    rfl
  | cons packet rest ih =>
    obtain ⟨fuel,rfl⟩ := Nat.exists_eq_succ_of_ne_zero (Nat.ne_zero_of_lt enough)
    have split : FramedLog.joined packetBytes
      (packet::rest) = packetBytes packet ++ FramedLog.joined packetBytes rest := List.flatMap_cons
    rw [split,List.append_assoc] at ready
    obtain ⟨first,left⟩ := nextRecord (accepted packet List.mem_cons_self) ready
    rw [Nat.succ_eq_add_one,replayLoop,replayPackets]
    dsimp only
    rw [first]
    dsimp only [makeSuccess]
    cases replayPacket parse replay packet with
    | mk after refusal =>
      cases refusal with
      | some refusal => exact ⟨{rest := tail},⟨rfl,rfl,rfl,rfl⟩,fun _ _ => rfl⟩
      | none =>
        exact ih (fun other mem => accepted other (List.mem_cons_of_mem _ mem)) left
          (Nat.lt_of_succ_lt_succ enough) after

theorem tornEnds {result : RawLogReadResult} (torn : Truncation result) :
    EndsIn (some ("ReplayRunner raw read failed: " ++ result.message)) result := by
  refine .inr ⟨_,rfl,?_,torn,rfl⟩
  obtain rfl | rfl := torn
  · exact .inl rfl
  · exact .inr rfl
-- Behind the packets of a cut comes the end of the file just where the cut falls between two records.
theorem cutEnds {packets : List RawPacket} (accepted : ∀ packet ∈ packets, Accepted packet) {n : Nat}
    (inside : n ≤ (FramedLog.joined packetBytes packets).length) {after : RawLogReader}
    (ready : Ready after (FramedLog.leftover packetBytes packets n)) :
    ∃ last, EndsIn last (after.next).2 ∧ (FramedLog.Boundary packetBytes packets n → last = none) ∧
      (¬ FramedLog.Boundary packetBytes packets n → ∃ message ∈ last, TornMessage message) := by
  by_cases boundary : FramedLog.Boundary packetBytes packets n
  · refine ⟨none,?_,fun _ => rfl,fun cut => absurd boundary cut⟩
    rw [(FramedLog.leftoverNil packetBytes packetBytesNonempty inside).mpr boundary] at ready
    exact .inl ⟨rfl,nextEnd ready⟩
  · have torn := mt (FramedLog.leftoverNil packetBytes packetBytesNonempty inside).mp boundary
    obtain ⟨packet,mem,part,short,here⟩ := FramedLog.leftoverPart packetBytes torn
    have some : 0 < part := by
      refine Nat.pos_of_ne_zero fun none => torn ?_
      rw [here,none]
      rfl
    rw [here] at ready
    have ends := tornEnds (nextTorn (accepted packet mem) some short ready)
    refine ⟨_,ends,fun whole => absurd whole boundary,fun _ => ?_⟩
    obtain ⟨none,-⟩ | ⟨message,mem,torn,-⟩ := ends
    · cases none
    · exact ⟨message,mem,torn⟩
theorem replayLog {packets : List RawPacket} (accepted : ∀ packet ∈ packets, Accepted packet) {n : Nat}
    (inside : n ≤ (FramedLog.joined packetBytes packets).length) :
    ∃ last, (FramedLog.Boundary packetBytes packets n → last = none) ∧
      (¬ FramedLog.Boundary packetBytes packets n → ∃ message ∈ last, TornMessage message) ∧
      replayToCsv parse {rest := (FramedLog.joined packetBytes packets).take n} =
        some (endedBy last (replayPackets parse {} (FramedLog.within packetBytes packets n))) := by
  have kept : ∀ packet ∈ FramedLog.within packetBytes packets n, Accepted packet :=
    fun packet mem => accepted packet (FramedLog.withinMem packetBytes mem)
  have cut := FramedLog.cutJoined packetBytes packets n
  have ready : Ready {rest := (FramedLog.joined packetBytes packets).take n}
      (FramedLog.joined packetBytes
        (FramedLog.within packetBytes packets n) ++ FramedLog.leftover packetBytes packets n) :=
    ⟨cut,rfl,rfl,rfl⟩
  have enough : (FramedLog.within packetBytes packets n).length <
    ((FramedLog.joined packetBytes packets).take n).length + 1 := by
    have each := FramedLog.joinedLength packetBytes packetBytesNonempty (FramedLog.within packetBytes packets n)
    rw [cut,List.length_append]
    omega
  obtain ⟨after,left,loop⟩ := @loopRecords parse _ kept _ _ ready _ enough {}
  obtain ⟨last,ends,whole,torn⟩ := cutEnds accepted inside left
  exact ⟨last,whole,torn,loop last ends⟩
end

/-! A captured log replays to what was captured, and a crash loses less than one flush interval. -/

section
variable (parse : Bytes → Option Json) (config : RealtimeFeedConfig)
  (earlier : List {packet : RawPacket // Accepted packet})
  (calls : List FeedCall)

def capturedEngine : RealtimeFeedEngine := (afterCalls config (earlier.map Subtype.val) calls).1
-- The packets of earlier sessions, then one for each message of this one that fits.
def capturedPackets : List RawPacket :=
  earlier.map Subtype.val ++ (tapeOf config (afterCalls config (earlier.map Subtype.val) calls).2).packets
theorem capturedAccepted : ∀ packet ∈ capturedPackets config earlier calls, Accepted packet := by
  refine List.forall_mem_append.mpr ⟨?_,(capturedRun config _ calls).accepted⟩
  intro packet mem
  obtain ⟨kept,-,rfl⟩ := List.mem_map.mp mem
  exact kept.2

theorem capturedFile : (capturedEngine config earlier calls).rawWriter.file =
    FramedLog.joined packetBytes (capturedPackets config earlier calls) := (capturedRun config _ calls).file

-- What a log cut behind the last flush gives back, read packet by packet.
theorem survivorsRead {n : Nat} (inside : n ≤ (capturedEngine config earlier calls).rawWriter.file.length) :
    ∃ last, RawLog.results ((FramedLog.within packetBytes (capturedPackets config earlier calls) n).length + 1)
        {rest := (capturedEngine config earlier calls).rawWriter.file.take n} =
        (FramedLog.within packetBytes (capturedPackets config earlier calls) n).map makeSuccess ++ [last] ∧
      (last = makeError .endOfFile "end of raw log" ∨ Truncation last) := by
  rw [capturedFile] at inside ⊢
  obtain ⟨last,answers,whole,torn⟩ := cutRecords (capturedAccepted config earlier calls) inside
  refine ⟨last,answers,?_⟩
  by_cases boundary : FramedLog.Boundary packetBytes (capturedPackets config earlier calls) n
  · exact .inl (whole boundary)
  · exact .inr (torn boundary)

end

def everySecond : RealtimeFeedConfig := {flushEveryNPackets := 2}
def threeMessages : List FeedCall :=
  [.run (.opened 5 6) 7,.message [104,105] 10 11 12,.message [80,79,78,71] 20 21 22,.message [104,105] 30 31 32]
section
open Delimiting
variable {v w s t : Text}

theorem plainFree (plain : v.any special = false) {c : Char} (marked : special c = true) : c ∉ v := by
  intro mem
  have unmarked := List.any_eq_false.mp plain c mem
  exact unmarked marked
theorem plainHead (plain : v.any special = false) : v ++ comma::s ≠ doubleQuote::t := by
  cases v with
  | nil => exact fun same => absurd (List.cons.inj same).1 (by decide)
  | cons c v =>
    intro same
    have head : c = doubleQuote := (List.cons.inj same).1
    exact plainFree plain (by decide : special doubleQuote = true) (head ▸ List.mem_cons_self)
theorem quotedBody : v.flatMap doubled ++ doubleQuote::comma::s = w.flatMap doubled ++ doubleQuote::comma::t ↔
    v = w ∧ s = t := by
  have apart : comma ≠ doubleQuote := by decide
  induction v generalizing w with
  | nil =>
    cases w with
    | nil => simp
    | cons d w =>
      by_cases quote : d = doubleQuote
      · simp [doubled,quote,apart]
      · simp [doubled,quote,Ne.symm quote]
  | cons c v ih =>
    cases w with
    | nil =>
      by_cases quote : c = doubleQuote
      · simp [doubled,quote,apart.symm]
      · simp [doubled,quote]
    | cons d w =>
      have rest := ih (w := w)
      rw [List.flatMap_cons,List.flatMap_cons,List.append_assoc,List.append_assoc]
      by_cases first : c = doubleQuote
      · by_cases second : d = doubleQuote
        · simp [doubled,first,second,rest]
        · simp [doubled,first,second,Ne.symm second]
      · by_cases second : d = doubleQuote
        · simp [doubled,first,second]
        · simp [doubled,first,second,rest,and_assoc]
theorem csvDelimits : Delimits (fun _ => True) (fun value : Text => csvEscape value ++ [comma]) id := by
  intro v w s t _ _
  rw [List.append_assoc,List.append_assoc,List.singleton_append,List.singleton_append,id,id]
  unfold csvEscape
  cases plainV : v.any special with
  | false =>
    rw [if_pos rfl]
    cases plainW : w.any special with
    | false =>
      rw [if_pos rfl]
      exact terminated (plainFree plainV (by decide)) (plainFree plainW (by decide))
    | true =>
      rw [if_neg Bool.noConfusion]
      refine iff_of_false (plainHead plainV) ?_
      rintro ⟨rfl,-⟩
      exact Bool.noConfusion (plainV.symm.trans plainW)
  | true =>
    rw [if_neg Bool.noConfusion]
    cases plainW : w.any special with
    | false =>
      rw [if_pos rfl]
      refine iff_of_false (plainHead plainW).symm ?_
      rintro ⟨rfl,-⟩
      exact Bool.noConfusion (plainV.symm.trans plainW)
    | true =>
      rw [if_neg Bool.noConfusion,List.cons_append,List.cons_append,List.append_assoc,List.append_assoc,
        List.cons_inj_right]
      exact quotedBody
theorem escapedDelimits : Delimits (fun _ => True) (fun text : String => escaped text ++ [comma]) id :=
  delimitsAs (delimitsOf csvDelimits String.toList) fun _ _ _ _ => String.toList_inj
theorem numberDelimits {stop : Char} (apart : stop.isDigit = false) :
    Delimits (fun _ => True) (fun n => number n ++ [stop]) id := by
  refine delimitsTerminated (fun n _ mem => ?_) fun a b _ _ => ⟨fun same => ?_,congrArg number⟩
  · have digit := Nat.isDigit_of_mem_toDigits (by decide) (by decide) mem
    exact Bool.noConfusion (apart.symm.trans digit)
  · have value := congrArg (fun digits => Nat.ofDigitChars 10 digits 0) same
    simp only [number,Nat.ofDigitChars_ten_toDigits] at value
    exact UInt64.toNat_inj.mp value
theorem rowDelimits : Delimits (fun _ => True) rowText id := by
  have numbers (field : TraceRow → UInt64) {stop : Char} (apart : stop.isDigit = false) :
      Delimits (fun _ => True) (fun row => number (field row) ++ [stop]) fun row => field row :=
        delimitsOf (numberDelimits apart) field
  have texts (field : TraceRow → String) :
    Delimits (fun _ => True) (fun row => escaped (field row) ++ [comma]) fun row => field row :=
    delimitsOf escapedDelimits field
  have fields := delimitsAppend (numbers TraceRow.packetId (by decide : comma.isDigit = false)) <|
    delimitsAppend (numbers TraceRow.eventIndex (by decide : comma.isDigit = false)) <|
    delimitsAppend (texts TraceRow.eventType) <| delimitsAppend (texts TraceRow.rawType) <| delimitsAppend
      (texts TraceRow.entityId) <|
    delimitsAppend (texts TraceRow.applyCode) <| delimitsAppend (texts TraceRow.entityStatus) <|
    delimitsAppend (numbers TraceRow.entityHash (by decide : comma.isDigit = false))
      (numbers TraceRow.globalHash (by decide : newline.isDigit = false))
  refine delimitsAs fields fun a b _ _ => ?_
  cases a
  cases b
  simp
theorem rowNonempty (row : TraceRow) : rowText row ≠ [] := by
  intro empty
  have size := congrArg List.length empty
  simp [rowText] at size
end

theorem traceTellsRows (rows others : List TraceRow) : traceText rows = traceText others ↔ rows = others := by
  have stream : rows.flatMap rowText = others.flatMap rowText ↔ _ :=
    Delimiting.delimitsStream rowDelimits rowNonempty (fun _ _ => trivial) fun _ _ => trivial
  rw [traceText,traceText,List.append_cancel_left_eq,stream,List.map_id,List.map_id]

/-! The rows account for the packets: each packet that decodes has a block of its own. -/

structure PacketRows (parse : Bytes → Option Json) (packet : RawPacket) (rows : List TraceRow) : Prop where
  plain : packet.header.codec = 0
  accepted : (decode parse (toDecodeInputView packet)).1.ok = true
  bounded : rows.length ≤ kMaxEvents
  stamped : ∀ row ∈ rows, row.packetId = packet.header.packetId
  indexed : rows.map (·.eventIndex) = (List.range rows.length).map UInt64.ofNat
  events : ∃ events, Decodes parse (toDecodeInputView packet) events ∧
    rows.map (fun row => (row.eventType,row.rawType)) = events.map fun event =>
      (eventTypeName event.eventType,event.rawType)
-- The counters moved on by a number of events and of packets.
structure Counted (before after : ReplaySummary) (events packets : Nat) : Prop where
  normalized : after.normalizedEvents = before.normalizedEvents + UInt64.ofNat events
  applied : after.eventsApplied = before.eventsApplied + UInt64.ofNat events
  rows : after.traceRows = before.traceRows + UInt64.ofNat events
  packets : after.packetsRead = before.packetsRead + UInt64.ofNat packets
structure EventRows (events : List EventNormalizing.NormalizedEvent) (first : Nat)
    (rows : List TraceRow) : Prop where
  size : rows.length = events.length
  stamped : rows.map (·.packetId) = events.map (·.packetId)
  indexed : rows.map (·.eventIndex) = (List.range' first rows.length).map UInt64.ofNat
  named : rows.map (fun row => (row.eventType,row.rawType)) = events.map fun event =>
    (eventTypeName event.eventType,event.rawType)

theorem countedTrans {a b c : ReplaySummary} {events more packets others : Nat}
    (first : Counted a b events packets)
    (second : Counted b c more others) : Counted a c (events + more) (packets + others) where
  normalized := by rw [second.normalized,first.normalized,UInt64.ofNat_add,UInt64.add_assoc]
  applied := by rw [second.applied,first.applied,UInt64.ofNat_add,UInt64.add_assoc]
  rows := by rw [second.rows,first.rows,UInt64.ofNat_add,UInt64.add_assoc]
  packets := by rw [second.packets,first.packets,UInt64.ofNat_add,UInt64.add_assoc]
theorem eventsReplayed (replay : Replay) (first : Nat) (events : List EventNormalizing.NormalizedEvent) :
    ∃ rows, (replayEvents replay first events).rows = replay.rows ++ rows ∧ EventRows events first rows ∧
      Counted replay.summary (replayEvents replay first events).summary events.length 0 := by
  induction events generalizing replay first with
  | nil =>
    exact ⟨[],(List.append_nil _).symm,⟨rfl,rfl,rfl,rfl⟩,
      ⟨by simp [replayEvents],by simp [replayEvents],by simp [replayEvents],by simp [replayEvents]⟩⟩
  | cons event rest ih =>
    let out := EntityStore.apply replay.stateStore event.toNormalizedEvent
    let row := traceRow event first out.2 out.1
    obtain ⟨rows,all,each,counted⟩ := ih
      {stateStore := out.1, summary := replay.summary.countEvent, rows := replay.rows ++ [row]} (first + 1)
    refine ⟨row::rows,?_,⟨?_,?_,?_,?_⟩,?_⟩
    · rw [List.append_cons]
      exact all
    · rw [List.length_cons,List.length_cons,each.size]
    · rw [List.map_cons,List.map_cons,each.stamped]
      rfl
    · rw [List.map_cons,each.indexed,List.length_cons,List.range'_succ,List.map_cons]
      rfl
    · rw [List.map_cons,List.map_cons,each.named]
      rfl
    · have one : Counted replay.summary replay.summary.countEvent 1 0 := ⟨rfl,rfl,rfl,(UInt64.add_zero _).symm⟩
      have whole := countedTrans one counted
      rw [Nat.add_comm 1 rest.length] at whole
      exact whole

section
variable {parse : Bytes → Option Json}

theorem packetReplayed {replay after : Replay} {packet : RawPacket}
    (done : replayPacket parse replay packet = (after,none)) :
    ∃ rows, after.rows = replay.rows ++ rows ∧ PacketRows parse packet rows ∧
      Counted replay.summary after.summary rows.length 1 := by
  unfold replayPacket at done
  dsimp only at done
  split at done
  · cases done
  next accepted =>
    cases done
    have ok : (decode parse (toDecodeInputView packet)).1.ok = true := by simpa using accepted
    obtain ⟨plain,bounded,decodes⟩ := decodedEvents ok
    let read : Replay := {replay with summary :=
      {replay.summary with packetsRead := replay.summary.packetsRead + 1}}
    obtain ⟨rows,all,each,counted⟩ := eventsReplayed read 0 (decode parse (toDecodeInputView packet)).2.events
    refine ⟨rows,all,⟨plain,ok,each.size ▸ bounded,?_,?_,_,decodes,each.named⟩,?_⟩
    · intro row mem
      have own : row.packetId ∈ (decode parse (toDecodeInputView packet)).2.events.map (·.packetId) :=
        each.stamped ▸ List.mem_map_of_mem mem
      obtain ⟨event,inside,same⟩ := List.mem_map.mp own
      rw [← same]
      exact congrArg Prod.fst (decodesStamp decodes event inside)
    · rw [each.indexed,List.range_eq_range']
    · have one : Counted replay.summary read.summary 0 1 :=
        ⟨(UInt64.add_zero _).symm,(UInt64.add_zero _).symm,(UInt64.add_zero _).symm,rfl⟩
      have whole := countedTrans one counted
      rw [Nat.zero_add,← each.size] at whole
      exact whole

-- The blocks of the packets before the one that ended the replay, and what ended it.
structure ReplayAccount (parse : Bytes → Option Json) (before : Replay) (packets : List RawPacket)
    (after : Replay) (refusal : Option String)
    (blocks : List (List TraceRow)) : Prop where
  rows : after.rows = before.rows ++ blocks.flatten
  each : List.Forall₂ (PacketRows parse) (packets.take blocks.length) blocks
  whole : refusal = none → blocks.length = packets.length ∧
    Counted before.summary after.summary blocks.flatten.length blocks.length
  ended : ∀ message ∈ refusal, Counted before.summary after.summary blocks.flatten.length (blocks.length + 1) ∧
    ∃ packet, packets[blocks.length]? = some packet ∧ (decode parse (toDecodeInputView packet)).1.ok = false ∧
      message = "ReplayRunner decode failed: " ++ (decode parse (toDecodeInputView packet)).1.error.message

theorem accountCons {replay mid after : Replay} {packet : RawPacket} {packets : List RawPacket}
    {refusal : Option String}
    {blocks : List (List TraceRow)} {rows : List TraceRow} (all : mid.rows = replay.rows ++ rows)
      (own : PacketRows parse packet rows)
    (counted : Counted replay.summary mid.summary rows.length 1)
    (rest : ReplayAccount parse mid packets after refusal blocks) :
    ReplayAccount parse replay (packet::packets) after refusal (rows::blocks) where
  rows := by rw [rest.rows,all,List.flatten_cons,List.append_assoc]
  each := .cons own rest.each
  whole := by
    intro done
    obtain ⟨size,more⟩ := rest.whole done
    have total := countedTrans counted more
    rw [← List.length_append,← List.flatten_cons,Nat.add_comm 1] at total
    exact ⟨congrArg Nat.succ size,total⟩
  ended := by
    intro message mem
    obtain ⟨more,bad⟩ := rest.ended message mem
    have total := countedTrans counted more
    rw [← List.length_append,← List.flatten_cons,Nat.add_comm 1] at total
    exact ⟨total,bad⟩
theorem packetsAccounted (replay : Replay) (packets : List RawPacket) :
    ∃ blocks, ReplayAccount parse replay packets (replayPackets parse replay packets).1
      (replayPackets parse replay packets).2 blocks := by
  induction packets generalizing replay with
  | nil =>
    have nothing : Counted replay.summary replay.summary 0 0 :=
      ⟨(UInt64.add_zero _).symm,(UInt64.add_zero _).symm,(UInt64.add_zero _).symm,(UInt64.add_zero _).symm⟩
    exact ⟨[],(List.append_nil _).symm,.nil,fun _ => ⟨rfl,nothing⟩,fun _ mem => (nomatch mem)⟩
  | cons packet rest ih =>
    rw [replayPackets]
    cases step : replayPacket parse replay packet with
    | mk mid refusal =>
      cases refusal with
      | none =>
        obtain ⟨rows,all,own,counted⟩ := packetReplayed step
        obtain ⟨blocks,account⟩ := ih mid
        exact ⟨rows::blocks,accountCons all own counted account⟩
      | some message =>
        unfold replayPacket at step
        dsimp only at step
        split at step
        · next bad =>
          cases step
          have one : Counted replay.summary
            {replay.summary with packetsRead := replay.summary.packetsRead + 1} 0 1 :=
            ⟨(UInt64.add_zero _).symm,(UInt64.add_zero _).symm,(UInt64.add_zero _).symm,rfl⟩
          refine ⟨[],(List.append_nil _).symm,.nil,fun done => (nomatch done),fun text mem => ?_⟩
          cases mem
          exact ⟨one,packet,rfl,bad,rfl⟩
        · cases step
end

end Polytope.FeedReplay
