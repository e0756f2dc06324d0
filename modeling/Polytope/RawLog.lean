import Polytope.ByteReader
import Polytope.FramedLog

/-! The raw log: RawLogWriter appends a header of 56 bytes and the payload of each packet it accepts, RawLogReader
takes them off again. Cut anywhere, the log gives back the packets whose records lie within the cut, and
then the end of the file or a truncation. -/
namespace Polytope.RawLog
open ByteReader (Bytes bytesOf valueOf)

def rawPacketMagic : UInt32 := 0x484C5852
def rawPacketVersion : UInt16 := 1
def sizeofRawPacketHeader : Nat := 56
-- Source ids and codecs are enumerations of 16 bits; a header read from a file may hold any of their values.
structure RawPacketHeader where
  magic : UInt32 := rawPacketMagic
  version : UInt16 := rawPacketVersion
  headerSize : UInt16 := UInt16.ofNat sizeofRawPacketHeader
  recvWallNs : UInt64 := 0
  recvMonotonicNs : UInt64 := 0
  connectionId : UInt64 := 0
  packetId : UInt64 := 0
  sourceId : UInt16 := 0
  codec : UInt16 := 0
  flags : UInt32 := 0
  payloadLen : UInt32 := 0
  payloadCrc32 : UInt32 := 0
  deriving DecidableEq, Repr
structure RawPacket where
  header : RawPacketHeader := {}
  payload : Bytes := []
  deriving DecidableEq, Repr

def crcBit (crc : UInt32) : UInt32 := if crc &&& 1 ≠ 0 then (crc >>> 1) ^^^ 0xEDB88320 else crc >>> 1
def crcByte (crc : UInt32) (byte : UInt8) : UInt32 := Nat.iterate crcBit 8 (crc ^^^ byte.toUInt32)
def crc32 (payload : Bytes) : UInt32 := payload.foldl crcByte 0xFFFFFFFF ^^^ 0xFFFFFFFF
def uint32Max : Nat := 4294967295
def makeRawPacket (sourceId : UInt16) (connectionId packetId : UInt64) (payload : Bytes) (codec : UInt16)
    (flags : UInt32)
    (nowWallNs nowMonotonicNs : UInt64) : Except String RawPacket :=
  if uint32Max < payload.length then .error "RawPacket payload is too large for uint32_t payload_len"
  else
    .ok {payload, header := {
      recvWallNs := nowWallNs, recvMonotonicNs := nowMonotonicNs, connectionId, packetId, sourceId, codec, flags,
      payloadLen := UInt32.ofNat payload.length, payloadCrc32 := crc32 payload}}

example : crc32 "123456789".toUTF8.data.toList = 0xCBF43926 := by decide +kernel

/-! The header in memory: its fields in order, little endian, without padding. -/

def headerFields (header : RawPacketHeader) : List (Nat × Nat) :=
  [(4,header.magic.toNat),(2,header.version.toNat),(2,header.headerSize.toNat),(8,header.recvWallNs.toNat),
    (8,header.recvMonotonicNs.toNat),(8,header.connectionId.toNat),(8,header.packetId.toNat),(2,
      header.sourceId.toNat),
    (2,header.codec.toNat),(4,header.flags.toNat),(4,header.payloadLen.toNat),(4,header.payloadCrc32.toNat)]
def fieldBytes (fields : List (Nat × Nat)) : Bytes := fields.flatMap fun field => bytesOf field.1 field.2
def headerBytes (header : RawPacketHeader) : Bytes := fieldBytes (headerFields header)
def fieldsOf : List Nat → Bytes → List Nat
  | [],_ => []
  | width::widths,bytes => valueOf (bytes.take width)::fieldsOf widths (bytes.drop width)
def headerOf (bytes : Bytes) : RawPacketHeader :=
  match fieldsOf [4,2,2,8,8,8,8,2,2,4,4,4] bytes with
  | [magic,version,headerSize,recvWallNs,recvMonotonicNs,connectionId,packetId,sourceId,codec,flags,payloadLen,
    payloadCrc32] =>
    { magic := UInt32.ofNat magic
      version := UInt16.ofNat version
      headerSize := UInt16.ofNat headerSize
      recvWallNs := UInt64.ofNat recvWallNs
      recvMonotonicNs := UInt64.ofNat recvMonotonicNs
      connectionId := UInt64.ofNat connectionId
      packetId := UInt64.ofNat packetId
      sourceId := UInt16.ofNat sourceId
      codec := UInt16.ofNat codec
      flags := UInt32.ofNat flags
      payloadLen := UInt32.ofNat payloadLen
      payloadCrc32 := UInt32.ofNat payloadCrc32 }
  | _ => {}
def packetBytes (packet : RawPacket) : Bytes := headerBytes packet.header ++ packet.payload

/-! RawLogWriter. The stream itself is taken to accept what is written. -/

structure RawLogWriter where
  file : Bytes := []
  isOpen : Bool := true
  packetsWritten : UInt64 := 0
  bytesWritten : UInt64 := 0
  deriving DecidableEq

def validatePacketBeforeWrite (packet : RawPacket) : Except String Unit :=
  if packet.header.magic ≠ rawPacketMagic then .error "RawLogWriter refused to write packet: invalid magic"
  else if packet.header.version ≠ rawPacketVersion then
    .error "RawLogWriter refused to write packet: unsupported raw packet version"
  else if packet.header.headerSize.toNat ≠ sizeofRawPacketHeader then
    .error "RawLogWriter refused to write packet: invalid header size"
  else if uint32Max < packet.payload.length then .error "RawLogWriter refused to write packet: payload too large"
  else if packet.header.payloadLen ≠ UInt32.ofNat packet.payload.length then
    .error "RawLogWriter refused to write packet: payload_len does not match payload size"
  else if packet.header.payloadCrc32 ≠ crc32 packet.payload then
    .error "RawLogWriter refused to write packet: payload CRC32 mismatch"
  else .ok ()
def RawLogWriter.writePacket (writer : RawLogWriter) (packet : RawPacket) : Except String RawLogWriter := do
  if writer.isOpen = false then throw "RawLogWriter cannot write packet: file is not open"
  validatePacketBeforeWrite packet
  pure {writer with
    file := writer.file ++ packetBytes packet
    packetsWritten := writer.packetsWritten + 1
    bytesWritten := writer.bytesWritten +
      (UInt64.ofNat sizeofRawPacketHeader + UInt64.ofNat packet.payload.length)}

/-! RawLogReader over the bytes that are left, with the end and failure flags of the stream. -/

inductive RawLogReadError where
  | none | endOfFile | truncatedHeader | badMagic | unsupportedVersion | badHeaderSize | truncatedPayload |
    crcMismatch | ioError
  deriving DecidableEq, Repr
structure RawLogReadResult where
  packet : Option RawPacket := none
  error : RawLogReadError := .none
  message : String := ""
  deriving DecidableEq, Repr
structure RawLogReader where
  rest : Bytes := []
  isOpen : Bool := true
  eof : Bool := false
  fail : Bool := false
  packetsRead : UInt64 := 0
  bytesRead : UInt64 := 0

def makeError (error : RawLogReadError) (message : String) : RawLogReadResult := {error, message}
def makeSuccess (packet : RawPacket) : RawLogReadResult := {packet := some packet}
namespace RawLogReader

def read (reader : RawLogReader) (count : Nat) : RawLogReader × Bytes :=
  if reader.eof = true ∨ reader.fail = true then ({reader with fail := true},[])
  else if reader.rest.length < count then ({reader with rest := [], eof := true, fail := true},reader.rest)
  else ({reader with rest := reader.rest.drop count},reader.rest.take count)
def nextPayload (reader : RawLogReader) (header : RawPacketHeader) : RawLogReader × RawLogReadResult :=
  let (reader,payload) := if 0 < header.payloadLen.toNat then reader.read header.payloadLen.toNat else (reader,[])
  if 0 < header.payloadLen.toNat ∧ payload.length ≠ header.payloadLen.toNat then
    (reader,makeError .truncatedPayload "truncated raw packet payload")
  else if crc32 payload ≠ header.payloadCrc32 then
    (reader,makeError .crcMismatch "raw packet payload CRC32 mismatch")
  else
    ({reader with
      packetsRead := reader.packetsRead + 1
      bytesRead := reader.bytesRead + (UInt64.ofNat sizeofRawPacketHeader + UInt64.ofNat header.payloadLen.toNat)},
      makeSuccess ⟨header,payload⟩)
def next (reader : RawLogReader) : RawLogReader × RawLogReadResult :=
  if reader.isOpen = false then (reader,makeError .ioError "RawLogReader cannot read: file is not open")
  else
    let (reader,bytes) := reader.read sizeofRawPacketHeader
    let header := headerOf bytes
    if bytes.length = 0 ∧ reader.eof = true then (reader,makeError .endOfFile "end of raw log")
    else if bytes.length ≠ sizeofRawPacketHeader then
      (reader,makeError .truncatedHeader "truncated raw packet header")
    else if header.magic ≠ rawPacketMagic then (reader,makeError .badMagic "bad raw packet magic")
    else if header.version ≠ rawPacketVersion then
      (reader,makeError .unsupportedVersion "unsupported raw packet version")
    else if header.headerSize.toNat ≠ sizeofRawPacketHeader then
      (reader,makeError .badHeaderSize "bad raw packet header size")
    else reader.nextPayload header

end RawLogReader

/-! A header comes back from its bytes. -/

theorem fieldsOfBytes {fields : List (Nat × Nat)} (fits : ∀ field ∈ fields, field.2 < 256 ^ field.1) :
    fieldsOf (fields.map Prod.fst) (fieldBytes fields) = fields.map Prod.snd := by
  induction fields with
  | nil => rfl
  | cons field rest ih =>
    have split : fieldBytes (field::rest) = bytesOf field.1 field.2 ++ fieldBytes rest := List.flatMap_cons
    have size : (bytesOf field.1 field.2).length = field.1 := ByteReader.bytesOfLength _ _
    rw [List.map_cons,List.map_cons,fieldsOf,split,List.take_left' size,List.drop_left' size,
      ByteReader.valueOfBytesOf (fits field List.mem_cons_self),ih fun other mem =>
        fits other (List.mem_cons_of_mem _ mem)]
@[simp] theorem headerBytesLength (header : RawPacketHeader) :
    (headerBytes header).length = sizeofRawPacketHeader := by
  simp [headerBytes,fieldBytes,headerFields,sizeofRawPacketHeader]
theorem headerFits (header : RawPacketHeader) : ∀ field ∈ headerFields header, field.2 < 256 ^ field.1 := by
  have small : ∀ x : UInt16, x.toNat < 256 ^ 2 := fun x => x.toNat_lt
  have middle : ∀ x : UInt32, x.toNat < 256 ^ 4 := fun x => x.toNat_lt
  have large : ∀ x : UInt64, x.toNat < 256 ^ 8 := fun x => x.toNat_lt
  simp only [headerFields,List.forall_mem_cons]
  exact ⟨middle _,small _,small _,large _,large _,large _,large _,small _,small _,middle _,middle _,middle _,fun
    _ mem => (nomatch mem)⟩
theorem headerOfBytes (header : RawPacketHeader) : headerOf (headerBytes header) = header := by
  have fields : fieldsOf [4,2,2,8,8,8,8,2,2,4,4,4] (headerBytes header) = (headerFields header).map Prod.snd :=
    fieldsOfBytes (headerFits header)
  rw [headerOf,fields]
  simp [headerFields]

/-! What is written. -/

structure Accepted (packet : RawPacket) : Prop where
  magic : packet.header.magic = rawPacketMagic
  version : packet.header.version = rawPacketVersion
  size : packet.header.headerSize.toNat = sizeofRawPacketHeader
  short : packet.payload.length ≤ uint32Max
  length : packet.header.payloadLen = UInt32.ofNat packet.payload.length
  crc : packet.header.payloadCrc32 = crc32 packet.payload

theorem validated {packet : RawPacket} : validatePacketBeforeWrite packet = .ok () ↔ Accepted packet := by
  unfold validatePacketBeforeWrite
  constructor
  · intro ok
    split at ok
    · cases ok
    split at ok
    · cases ok
    split at ok
    · cases ok
    split at ok
    · cases ok
    split at ok
    · cases ok
    split at ok
    · cases ok
    next magic version size short length crc =>
      exact ⟨not_not.mp magic,not_not.mp version,not_not.mp size,Nat.not_lt.mp short,not_not.mp
        length,not_not.mp crc⟩
  · intro accepted
    rw [if_neg (not_not.mpr accepted.magic),if_neg (not_not.mpr accepted.version),if_neg
      (not_not.mpr accepted.size),
      if_neg (Nat.not_lt.mpr accepted.short),if_neg (not_not.mpr accepted.length),if_neg
        (not_not.mpr accepted.crc)]
theorem payloadCount {packet : RawPacket} (accepted : Accepted packet) :
    packet.header.payloadLen.toNat = packet.payload.length := by
  have short := accepted.short
  unfold uint32Max at short
  rw [accepted.length,UInt32.toNat_ofNat']
  omega
theorem packetWritten {writer written : RawLogWriter} {packet : RawPacket}
    (ok : writer.writePacket packet = .ok written) :
    Accepted packet ∧ written.file = writer.file ++ packetBytes packet := by
  unfold RawLogWriter.writePacket at ok
  cases open_ : writer.isOpen with
  | false =>
    rw [open_] at ok
    cases ok
  | true =>
    rw [open_] at ok
    cases checked : validatePacketBeforeWrite packet with
    | error refusal =>
      rw [checked] at ok
      cases ok
    | ok _ =>
      rw [checked] at ok
      cases ok
      exact ⟨validated.mp checked,rfl⟩
theorem allWritten {writer written : RawLogWriter} {packets : List RawPacket}
    (ok : packets.foldlM RawLogWriter.writePacket writer = .ok written) :
    (∀ packet ∈ packets, Accepted packet) ∧
    written.file = writer.file ++ FramedLog.joined packetBytes packets := by
  induction packets generalizing writer with
  | nil =>
    cases ok
    exact ⟨fun _ mem => (nomatch mem),(List.append_nil _).symm⟩
  | cons packet rest ih =>
    rw [List.foldlM_cons] at ok
    cases first : writer.writePacket packet with
    | error refusal =>
      rw [first] at ok
      cases ok
    | ok next =>
      rw [first] at ok
      obtain ⟨accepted,file⟩ := packetWritten first
      obtain ⟨others,whole⟩ := ih ok
      refine ⟨List.forall_mem_cons.mpr ⟨accepted,others⟩,?_⟩
      rw [whole,file,List.append_assoc]
      rfl

/-! What one read does. -/

structure Ready (reader : RawLogReader) (bytes : Bytes) : Prop where
  rest : reader.rest = bytes
  opened : reader.isOpen = true
  more : reader.eof = false
  good : reader.fail = false
def Truncation (result : RawLogReadResult) : Prop :=
  result = makeError .truncatedHeader "truncated raw packet header" ∨
    result = makeError .truncatedPayload "truncated raw packet payload"

section
variable {reader : RawLogReader}

theorem readWhole {bytes tail : Bytes} {count : Nat} (ready : Ready reader (bytes ++ tail))
    (size : bytes.length = count) :
    (reader.read count).2 = bytes ∧ Ready (reader.read count).1 tail := by
  have enough : ¬ reader.rest.length < count := by
    rw [ready.rest,List.length_append]
    omega
  unfold RawLogReader.read
  rw [if_neg (by simp [ready.more,ready.good]),if_neg enough]
  exact ⟨by rw [ready.rest,List.take_left' size],⟨by rw
    [ready.rest,List.drop_left' size],ready.opened,ready.more,ready.good⟩⟩
theorem readShort {bytes : Bytes} {count : Nat} (ready : Ready reader bytes) (short : bytes.length < count) :
    (reader.read count).2 = bytes ∧ (reader.read count).1.eof = true := by
  unfold RawLogReader.read
  rw [if_neg (by simp [ready.more,ready.good]),ready.rest,if_pos short]
  exact ⟨rfl,rfl⟩

theorem nextEnd (ready : Ready reader []) : (reader.next).2 = makeError .endOfFile "end of raw log" := by
  obtain ⟨nothing,ended⟩ := readShort ready (by decide : [].length < sizeofRawPacketHeader)
  unfold RawLogReader.next
  rw [if_neg (by simp [ready.opened])]
  simp only [nothing,ended]
  rfl
theorem nextHeader {packet : RawPacket} (accepted : Accepted packet) {tail : Bytes}
    (ready : Ready reader (headerBytes packet.header ++ tail)) :
    ∃ after : RawLogReader, Ready after tail ∧ reader.next = after.nextPayload packet.header := by
  obtain ⟨bytes,after⟩ := readWhole ready (headerBytesLength packet.header)
  refine ⟨_,after,?_⟩
  have some : ¬ ((headerBytes packet.header).length = 0 ∧ (reader.read sizeofRawPacketHeader).1.eof = true) := by
    simp [sizeofRawPacketHeader]
  unfold RawLogReader.next
  rw [if_neg (by simp [ready.opened])]
  simp only [bytes,headerOfBytes]
  rw [if_neg some,if_neg (not_not.mpr (headerBytesLength packet.header)),if_neg (not_not.mpr accepted.magic),
    if_neg (not_not.mpr accepted.version),if_neg (not_not.mpr accepted.size)]
theorem nextRecord {packet : RawPacket} (accepted : Accepted packet) {tail : Bytes}
    (ready : Ready reader (packetBytes packet ++ tail)) :
    (reader.next).2 = makeSuccess packet ∧ Ready (reader.next).1 tail := by
  rw [packetBytes,List.append_assoc] at ready
  obtain ⟨after,left,step⟩ := nextHeader accepted ready
  have count := payloadCount accepted
  rw [step]
  unfold RawLogReader.nextPayload
  by_cases any : 0 < packet.header.payloadLen.toNat
  · obtain ⟨payload,last⟩ := readWhole left count.symm
    simp only [if_pos any,payload]
    rw [if_neg fun short => short.2 count.symm,if_neg (not_not.mpr accepted.crc.symm)]
    exact ⟨rfl,⟨last.rest,last.opened,last.more,last.good⟩⟩
  · have empty : packet.payload = [] := List.eq_nil_of_length_eq_zero (by omega)
    have crc : crc32 [] = packet.header.payloadCrc32 := empty ▸ accepted.crc.symm
    rw [empty,List.nil_append] at left
    simp only [if_neg any]
    rw [if_neg fun short => any short.1,if_neg (not_not.mpr crc)]
    refine ⟨?_,⟨left.rest,left.opened,left.more,left.good⟩⟩
    rw [← empty]
theorem nextTorn {packet : RawPacket} (accepted : Accepted packet) {part : Nat} (some : 0 < part)
    (inside : part < (packetBytes packet).length)
    (ready : Ready reader ((packetBytes packet).take part)) : Truncation (reader.next).2 := by
  have size := headerBytesLength packet.header
  by_cases short : part < sizeofRawPacketHeader
  · have length : ((packetBytes packet).take part).length = part := List.length_take_of_le (Nat.le_of_lt inside)
    obtain ⟨bytes,ended⟩ := readShort ready (length.trans_lt short)
    unfold RawLogReader.next
    rw [if_neg (by simp [ready.opened])]
    simp only [bytes,length]
    rw [if_neg (by omega),if_pos (by omega)]
    exact .inl rfl
  · have split : (packetBytes packet).take part = headerBytes packet.header ++ packet.payload.take
      (part - sizeofRawPacketHeader) := by
      rw [packetBytes,List.take_append,size,List.take_of_length_le (by omega)]
    have whole : (packetBytes packet).length = sizeofRawPacketHeader + packet.payload.length := by
      rw [packetBytes,List.length_append,size]
    rw [split] at ready
    obtain ⟨after,left,step⟩ := nextHeader accepted ready
    have count := payloadCount accepted
    have few : (packet.payload.take (part - sizeofRawPacketHeader)).length < packet.header.payloadLen.toNat := by
      rw [List.length_take,count]
      omega
    obtain ⟨payload,-⟩ := readShort left few
    have any : 0 < packet.header.payloadLen.toNat := Nat.zero_lt_of_lt few
    rw [step]
    unfold RawLogReader.nextPayload
    simp only [if_pos any,payload]
    rw [if_pos ⟨any,few.ne⟩]
    exact .inr rfl
end

/-! Whole logs. -/

-- The answers to a number of calls of next.
def results : Nat → RawLogReader → List RawLogReadResult
  | 0,_ => []
  | calls + 1,reader => (reader.next).2::results calls (reader.next).1

theorem resultsRecords {packets : List RawPacket} (accepted : ∀ packet ∈ packets, Accepted packet)
    {reader : RawLogReader} {tail : Bytes}
    (ready : Ready reader (FramedLog.joined packetBytes packets ++ tail)) :
    ∃ after : RawLogReader, Ready after tail ∧
      results (packets.length + 1) reader = packets.map makeSuccess ++ [(after.next).2] := by
  induction packets generalizing reader with
  | nil => exact ⟨reader,ready,rfl⟩
  | cons packet rest ih =>
    have split : FramedLog.joined packetBytes
      (packet::rest) = packetBytes packet ++ FramedLog.joined packetBytes rest := List.flatMap_cons
    rw [split,List.append_assoc] at ready
    obtain ⟨first,left⟩ := nextRecord (accepted packet List.mem_cons_self) ready
    obtain ⟨after,last,others⟩ := ih (fun other mem => accepted other (List.mem_cons_of_mem _ mem)) left
    refine ⟨after,last,?_⟩
    rw [List.length_cons,results,others,first]
    rfl

theorem packetBytesNonempty (packet : RawPacket) : packetBytes packet ≠ [] := by
  intro empty
  have size := congrArg List.length empty
  simp [packetBytes,sizeofRawPacketHeader] at size
theorem cutRecords {packets : List RawPacket} (each : ∀ packet ∈ packets, Accepted packet) {n : Nat}
    (inside : n ≤ (FramedLog.joined packetBytes packets).length) :
    ∃ last, results ((FramedLog.within packetBytes packets n).length + 1)
      {rest := (FramedLog.joined packetBytes packets).take n} =
        (FramedLog.within packetBytes packets n).map makeSuccess ++ [last] ∧
      (FramedLog.Boundary packetBytes packets n → last = makeError .endOfFile "end of raw log") ∧
      (¬ FramedLog.Boundary packetBytes packets n → Truncation last) := by
  have ready : Ready {rest := (FramedLog.joined packetBytes packets).take n}
      (FramedLog.joined packetBytes
        (FramedLog.within packetBytes packets n) ++ FramedLog.leftover packetBytes packets n) :=
    ⟨FramedLog.cutJoined packetBytes packets n,rfl,rfl,rfl⟩
  obtain ⟨after,left,answers⟩ :=
    resultsRecords (fun packet mem => each packet (FramedLog.withinMem packetBytes mem)) ready
  refine ⟨_,answers,fun boundary => ?_,fun cut => ?_⟩
  · rw [(FramedLog.leftoverNil packetBytes packetBytesNonempty inside).mpr boundary] at left
    exact nextEnd left
  · have torn := mt (FramedLog.leftoverNil packetBytes packetBytesNonempty inside).mp cut
    obtain ⟨packet,mem,part,short,here⟩ := FramedLog.leftoverPart packetBytes torn
    have some : 0 < part := by
      refine Nat.pos_of_ne_zero fun none => torn ?_
      rw [here,none]
      rfl
    rw [here] at left
    exact nextTorn (each packet mem) some short left

theorem logCutAnywhere {packets : List RawPacket} {written : RawLogWriter}
    (accepted : packets.foldlM RawLogWriter.writePacket {} = .ok written) {n : Nat}
    (inside : n ≤ written.file.length) :
    written.file = FramedLog.joined packetBytes packets ∧
    ∃ last, results ((FramedLog.within packetBytes packets n).length + 1) {rest := written.file.take n} =
        (FramedLog.within packetBytes packets n).map makeSuccess ++ [last] ∧
      (FramedLog.Boundary packetBytes packets n → last = makeError .endOfFile "end of raw log") ∧
      (¬ FramedLog.Boundary packetBytes packets n → Truncation last) := by
  obtain ⟨each,file⟩ := allWritten accepted
  rw [List.nil_append] at file
  rw [file] at inside ⊢
  exact ⟨rfl,cutRecords each inside⟩

def greeting (packetId : UInt64) : RawPacket :=
  {header := {packetId, payloadLen := 2, payloadCrc32 := crc32 [104,105]}, payload := [104,105]}
def greetings : List RawPacket := [greeting 1,greeting 2]
def greetingLog : RawLogWriter :=
  {file := FramedLog.joined packetBytes greetings, packetsWritten := 2, bytesWritten := 116}
theorem greetingsCut :
    greetingLog.file = FramedLog.joined packetBytes greetings ∧
    ∃ last, results ((FramedLog.within packetBytes greetings 100).length + 1) {rest := greetingLog.file.take 100} =
        (FramedLog.within packetBytes greetings 100).map makeSuccess ++ [last] ∧
      (FramedLog.Boundary packetBytes greetings 100 → last = makeError .endOfFile "end of raw log") ∧
      (¬ FramedLog.Boundary packetBytes greetings 100 → Truncation last) := by
  have accepted : greetings.foldlM RawLogWriter.writePacket {} = .ok greetingLog := by decide +kernel
  exact logCutAnywhere accepted (by decide +kernel)

end Polytope.RawLog
