import Polytope.RawLog
import Polytope.ReconnectBackoff

/-! RealtimeFeedEngine: callbacks of the websocket client and the turns of the runtime loop, in any order. Each
message gets the next packet id and the id of the connection, and its record goes to the end of the raw log.
What has been captured is told from the log of the calls alone. -/
namespace Polytope.FeedCapture
open ByteReader (Bytes)
open RawLog
open ReconnectBackoff

/-! HeartbeatController. -/

inductive HeartbeatStatus where | ok | waitingPong | pongTimeout | stale
  deriving DecidableEq, Repr
structure HeartbeatController where
  pingIntervalNs : UInt64
  pongTimeoutNs : UInt64
  staleTimeoutNs : UInt64
  connectionOpen : Bool := false
  waitingForPong : Bool := false
  lastPingSentNs : UInt64 := 0
  lastPongReceivedNs : UInt64 := 0
  lastMessageReceivedNs : UInt64 := 0
  deriving DecidableEq
namespace HeartbeatController

def new (pingIntervalMs pongTimeoutMs staleTimeoutMs : UInt64) : HeartbeatController where
  pingIntervalNs := msToNs pingIntervalMs
  pongTimeoutNs := msToNs pongTimeoutMs
  staleTimeoutNs := msToNs staleTimeoutMs
def onConnectionOpen (h : HeartbeatController) (nowNs : UInt64) : HeartbeatController :=
  { h with
    connectionOpen := true
    waitingForPong := false
    lastPingSentNs := 0
    lastPongReceivedNs := 0
    lastMessageReceivedNs := nowNs }
def onConnectionClosed (h : HeartbeatController) : HeartbeatController :=
  {h with connectionOpen := false, waitingForPong := false}
def shouldSendPing (h : HeartbeatController) (nowNs : UInt64) : Bool :=
  if h.connectionOpen = false then false
  else if h.lastPingSentNs = 0 then true
  else h.lastPingSentNs ≤ nowNs && h.pingIntervalNs ≤ nowNs - h.lastPingSentNs
def onPingSent (h : HeartbeatController) (nowNs : UInt64) : HeartbeatController :=
  {h with lastPingSentNs := nowNs, waitingForPong := true}
def onPongReceived (h : HeartbeatController) (nowNs : UInt64) : HeartbeatController :=
  {h with lastPongReceivedNs := nowNs, lastMessageReceivedNs := nowNs, waitingForPong := false}
def onMessageReceived (h : HeartbeatController) (nowNs : UInt64) : HeartbeatController :=
  {h with lastMessageReceivedNs := nowNs}
def status (h : HeartbeatController) (nowNs : UInt64) : HeartbeatStatus :=
  if h.connectionOpen = false then .stale
  else if h.lastMessageReceivedNs ≠ 0 ∧ h.lastMessageReceivedNs ≤ nowNs ∧
    h.staleTimeoutNs ≤ nowNs - h.lastMessageReceivedNs then .stale
  else if h.waitingForPong = true then
    if h.lastPingSentNs ≤ nowNs ∧ h.pongTimeoutNs ≤ nowNs - h.lastPingSentNs then .pongTimeout else .waitingPong
  else .ok
def unhealthy (h : HeartbeatController) (nowNs : UInt64) : Bool :=
  h.status nowNs = .pongTimeout || h.status nowNs = .stale

end HeartbeatController

/-! The engine. A flush hands every byte written so far to the system; a crash keeps at least those. -/

structure RealtimeFeedConfig where
  sourceId : UInt16 := 1
  pingIntervalMs : UInt64 := 10000
  pongTimeoutMs : UInt64 := 5000
  staleTimeoutMs : UInt64 := 30000
  reconnectInitialDelayMs : UInt64 := 500
  reconnectMaxDelayMs : UInt64 := 5000
  reconnectMaxAttempts : UInt32 := 0
  flushEveryNPackets : UInt64 := 100
  deriving DecidableEq, Repr
-- Where the runtime loop stands within a turn; the time is the one its turn began at.
inductive LoopStage where
  | idle
  | sendPing
  | requestReconnect (nowNs : UInt64)
  | reconnect (nowNs : UInt64)
  deriving DecidableEq, Repr
structure RealtimeFeedStats where
  messagesReceived : UInt64 := 0
  bytesReceived : UInt64 := 0
  packetsCaptured : UInt64 := 0
  heartbeatPacketsCaptured : UInt64 := 0
  pingSentCount : UInt64 := 0
  pongReceivedCount : UInt64 := 0
  transportErrorCount : UInt64 := 0
  rawWriteErrorCount : UInt64 := 0
  deriving DecidableEq, Repr
structure RealtimeFeedEngine where
  config : RealtimeFeedConfig
  rawWriter : RawLogWriter
  jsonl : Bytes := []
  flushedBytes : Nat
  heartbeat : HeartbeatController
  reconnect : ReconnectController
  connected : Bool := false
  stage : LoopStage := .idle
  running : Bool := false
  stopRequested : Bool := false
  fatalError : Bool := false
  nextPacketId : UInt64 := 1
  stats : RealtimeFeedStats := {}
-- connect() throws before its open callback, or in it when the subscription cannot be sent, or the connection
-- stands.
inductive ConnectOutcome where
  | refused (errorNs : UInt64)
  | subscribeFailed (openNs errorNs : UInt64)
  | opened (openNs nowNs : UInt64)
  deriving DecidableEq, Repr
inductive PingOutcome where | sent | failed
  deriving DecidableEq, Repr
def packetNone : UInt32 := 0
def packetHeartbeat : UInt32 := 1
def isPongPayload (payload : Bytes) : Bool :=
  payload = "PONG".toUTF8.data.toList || payload = "pong".toUTF8.data.toList || payload =
    "\"PONG\"".toUTF8.data.toList ||
    payload = "\"pong\"".toUTF8.data.toList
def reconnectReasonFromHeartbeat : HeartbeatStatus → ReconnectReason
  | .pongTimeout => .heartbeatTimeout
  | .stale => .staleFeed
  | _ => .none
namespace RealtimeFeedEngine

def new (config : RealtimeFeedConfig) (file : Bytes) : RealtimeFeedEngine where
  config := config
  rawWriter := {file}
  flushedBytes := file.length
  heartbeat := .new config.pingIntervalMs config.pongTimeoutMs config.staleTimeoutMs
  reconnect := .new config.reconnectInitialDelayMs config.reconnectMaxDelayMs config.reconnectMaxAttempts
def flush (e : RealtimeFeedEngine) : RealtimeFeedEngine := {e with flushedBytes := e.rawWriter.file.length}
def request (e : RealtimeFeedEngine) (nowNs : UInt64) (reason : ReconnectReason) : RealtimeFeedEngine :=
  {e with reconnect := e.reconnect.requestReconnect nowNs reason}
def countTransportError (e : RealtimeFeedEngine) : RealtimeFeedEngine :=
  {e with stats := {e.stats with transportErrorCount := e.stats.transportErrorCount + 1}}
def handleClose (e : RealtimeFeedEngine) (nowNs : UInt64) : RealtimeFeedEngine :=
  let closed := {e with heartbeat := e.heartbeat.onConnectionClosed}
  if e.stopRequested = true then closed else closed.request nowNs .connectionClosed
def handleError (e : RealtimeFeedEngine) (nowNs : UInt64) : RealtimeFeedEngine :=
  let e := e.countTransportError
  if e.stopRequested = true then e else e.request nowNs .transportError
-- disconnect(): the close callback of a client that was still connected.
def disconnect (e : RealtimeFeedEngine) (closeNs : UInt64) : RealtimeFeedEngine :=
  if e.connected = true then {e with connected := false}.handleClose closeNs else e
def stop (e : RealtimeFeedEngine) (closeNs : UInt64) : RealtimeFeedEngine :=
  ({e with stopRequested := true, running := false}.disconnect closeNs).flush

-- The packet of a message whose record fits, and its place at the end of the log.
def capture (e : RealtimeFeedEngine) (payload : Bytes) (pong : Bool) (written : RawLogWriter) :
    RealtimeFeedEngine :=
  let captured := e.stats.packetsCaptured + 1
  let e := {e with
    rawWriter := written
    jsonl := e.jsonl ++ payload ++ [10]
    stats := {e.stats with
      packetsCaptured := captured
      heartbeatPacketsCaptured :=
        if pong = true then e.stats.heartbeatPacketsCaptured + 1 else e.stats.heartbeatPacketsCaptured}}
  if 0 < e.config.flushEveryNPackets ∧ captured % e.config.flushEveryNPackets = 0 then e.flush else e
def flagsOf (payload : Bytes) : UInt32 := if isPongPayload payload = true then packetHeartbeat else packetNone
def hear (e : RealtimeFeedEngine) (payload : Bytes) (nowNs : UInt64) : RealtimeFeedEngine :=
  let e := {e with
    heartbeat := e.heartbeat.onMessageReceived nowNs
    stats := {e.stats with
      messagesReceived := e.stats.messagesReceived + 1
      bytesReceived := e.stats.bytesReceived + UInt64.ofNat payload.length}}
  if isPongPayload payload = true then
    {e with
      heartbeat := e.heartbeat.onPongReceived nowNs
      stats := {e.stats with pongReceivedCount := e.stats.pongReceivedCount + 1}}
  else e
def record (e : RealtimeFeedEngine) (payload : Bytes) (wallNs monotonicNs : UInt64) :
    Except String RawLogWriter := do
  let packet ← makeRawPacket e.config.sourceId e.reconnect.connectionId e.nextPacketId payload 0
    (flagsOf payload) wallNs monotonicNs
  e.rawWriter.writePacket packet
def handleMessage (e : RealtimeFeedEngine) (payload : Bytes) (nowNs wallNs monotonicNs : UInt64) :
    RealtimeFeedEngine :=
  let e := e.hear payload nowNs
  let after := {e with nextPacketId := e.nextPacketId + 1}
  match e.record payload wallNs monotonicNs with
  | .error _ =>
    { after with
      fatalError := true
      stats := {after.stats with rawWriteErrorCount := after.stats.rawWriteErrorCount + 1} }
  | .ok written => after.capture payload (isPongPayload payload) written

def startConnection (e : RealtimeFeedEngine) (isReconnectAttempt : Bool) : ConnectOutcome →
    RealtimeFeedEngine × Bool
  | .refused errorNs => ({(e.handleError errorNs).countTransportError with connected := false},false)
  | .subscribeFailed openNs errorNs =>
    let e := {e with heartbeat := e.heartbeat.onConnectionOpen openNs}
    ({(e.handleError errorNs).countTransportError with connected := false},false)
  | .opened openNs nowNs =>
    ({e with
      heartbeat := e.heartbeat.onConnectionOpen openNs
      connected := true
      reconnect := if isReconnectAttempt = true then e.reconnect.onReconnectSuccess nowNs
        else e.reconnect.onConnectionOpen nowNs},true)
def run (e : RealtimeFeedEngine) (outcome : ConnectOutcome) (failedNs : UInt64) : RealtimeFeedEngine × Bool :=
  if e.running = true then (e,false)
  else
    let e := {e with running := true, stopRequested := false, fatalError := false, stage := .sendPing}
    match e.startConnection false outcome with
    | (e,true) => (e,true)
    | (e,false) => (e.request failedNs .transportError,false)
def maybeSendPing (e : RealtimeFeedEngine) (nowNs : UInt64) (outcome : PingOutcome) : RealtimeFeedEngine :=
  if e.connected = false then e
  else if e.heartbeat.shouldSendPing nowNs = false then e
  else
    match outcome with
    | .sent => {e with
        heartbeat := e.heartbeat.onPingSent nowNs
        stats := {e.stats with pingSentCount := e.stats.pingSentCount + 1}}
    | .failed => e.countTransportError.request nowNs .transportError
def maybeRequestReconnectFromHeartbeat (e : RealtimeFeedEngine) (nowNs : UInt64) : RealtimeFeedEngine :=
  let reason := reconnectReasonFromHeartbeat (e.heartbeat.status nowNs)
  if e.heartbeat.unhealthy nowNs = false then e
  else if reason = .none then e
  else e.request nowNs reason
def maybeReconnect (e : RealtimeFeedEngine) (nowNs closeNs : UInt64) (outcome : ConnectOutcome) :
    RealtimeFeedEngine × Bool :=
  if e.reconnect.shouldReconnect nowNs = false then (e,false)
  else
    let e := e.disconnect closeNs
    let e := {e with reconnect := e.reconnect.onReconnectAttempt nowNs}
    match e.startConnection true outcome with
    | (e,true) => (e,true)
    | (e,false) => ({e with reconnect := e.reconnect.onReconnectFailure},false)

end RealtimeFeedEngine

/-! Calls. Callbacks of the receive thread and turns of the loop come in any order; the answer says whether a
connection was opened. -/

inductive FeedCall where
  | run (outcome : ConnectOutcome) (failedNs : UInt64)
  -- the next stage of the loop's turn
  | turn (nowNs closeNs : UInt64) (ping : PingOutcome) (outcome : ConnectOutcome)
  | message (payload : Bytes) (nowNs wallNs monotonicNs : UInt64)
  -- the read loop saw its stream fail
  | dropped
  | close (nowNs : UInt64)
  | error (nowNs : UInt64)
  | stop (closeNs : UInt64)
def turn (e : RealtimeFeedEngine) (nowNs closeNs : UInt64) (ping : PingOutcome) (outcome : ConnectOutcome) :
    RealtimeFeedEngine × Bool :=
  match e.stage with
  | .idle => (e,false)
  | .sendPing =>
    if e.stopRequested = true ∨ e.fatalError = true then ({e with stage := .idle}.stop closeNs,false)
    else ({e.maybeSendPing nowNs ping with stage := .requestReconnect nowNs},false)
  | .requestReconnect began => ({e.maybeRequestReconnectFromHeartbeat began with stage := .reconnect began},false)
  | .reconnect began =>
    let out := e.maybeReconnect began closeNs outcome
    ({out.1 with stage := .sendPing},out.2)
def feedStep (e : RealtimeFeedEngine) : FeedCall → RealtimeFeedEngine × Bool
  | .run outcome failedNs => e.run outcome failedNs
  | .turn nowNs closeNs ping outcome => turn e nowNs closeNs ping outcome
  | .message payload nowNs wallNs monotonicNs => (e.handleMessage payload nowNs wallNs monotonicNs,false)
  | .dropped => ({e with connected := false},false)
  | .close nowNs => (e.handleClose nowNs,false)
  | .error nowNs => (e.handleError nowNs,false)
  | .stop closeNs => (e.stop closeNs,false)

/-! What the calls say was captured. -/

abbrev FeedLog := List (FeedCall × Bool)
structure Tape where
  received : Nat := 0
  opened : Nat := 0
  packets : List RawPacket := []
def packetOf (config : RealtimeFeedConfig) (connection packetId : Nat) (payload : Bytes)
    (wallNs monotonicNs : UInt64) : RawPacket :=
  {payload, header := {
    recvWallNs := wallNs, recvMonotonicNs := monotonicNs, connectionId := UInt64.ofNat connection,
      packetId := UInt64.ofNat packetId
    sourceId := config.sourceId, codec := 0, flags := RealtimeFeedEngine.flagsOf payload
    payloadLen := UInt32.ofNat payload.length, payloadCrc32 := crc32 payload}}
-- A message is numbered whether or not its record fits; only one that fits is captured.
def Tape.next (config : RealtimeFeedConfig) (tape : Tape) : FeedCall × Bool → Tape
  | (.message payload _ wallNs monotonicNs,_) => {tape with
      received := tape.received + 1
      packets :=
        if uint32Max < payload.length then tape.packets
        else tape.packets ++ [packetOf config tape.opened (tape.received + 1) payload wallNs monotonicNs]}
  | (_,true) => {tape with opened := tape.opened + 1}
  | (_,false) => tape
def tapeOf (config : RealtimeFeedConfig) (log : FeedLog) : Tape := log.foldl (Tape.next config) {}
theorem tapeSnoc (config : RealtimeFeedConfig) (log : FeedLog) (entry : FeedCall × Bool) :
    tapeOf config (log ++ [entry]) = (tapeOf config log).next config entry := List.foldl_concat _ _ _ _

/-! What an operation does to the log and to the numbers a packet is made of. -/

structure Ledger where
  config : RealtimeFeedConfig
  rawWriter : RawLogWriter
  flushedBytes : Nat
  connectionId : UInt64
  nextPacketId : UInt64
  packetsCaptured : UInt64
def ledger (e : RealtimeFeedEngine) : Ledger where
  config := e.config
  rawWriter := e.rawWriter
  flushedBytes := e.flushedBytes
  connectionId := e.reconnect.connectionId
  nextPacketId := e.nextPacketId
  packetsCaptured := e.stats.packetsCaptured
def Ledger.opened (l : Ledger) (answer : Bool) : Ledger :=
  if answer = true then {l with connectionId := l.connectionId + 1} else l
def Ledger.flush (l : Ledger) : Ledger := {l with flushedBytes := l.rawWriter.file.length}

section
open RealtimeFeedEngine
variable (e : RealtimeFeedEngine) (nowNs closeNs : UInt64)

@[simp] theorem requestId (c : ReconnectController) (reason : ReconnectReason) :
    (c.requestReconnect nowNs reason).connectionId = c.connectionId := by
  unfold ReconnectController.requestReconnect
  split
  · rfl
  · split <;> rfl
@[simp] theorem attemptId (c : ReconnectController) :
    (c.onReconnectAttempt nowNs).connectionId = c.connectionId := by
  unfold ReconnectController.onReconnectAttempt
  split <;> rfl
@[simp] theorem failureId (c : ReconnectController) : c.onReconnectFailure.connectionId = c.connectionId := by
  unfold ReconnectController.onReconnectFailure
  split <;> rfl
@[simp] theorem requestLedger (reason : ReconnectReason) : ledger (e.request nowNs reason) = ledger e := by
  simp [ledger,request]
@[simp] theorem transportLedger : ledger e.countTransportError = ledger e := rfl
@[simp] theorem closeLedger : ledger (e.handleClose nowNs) = ledger e := by
  unfold handleClose
  dsimp only
  split
  · rfl
  · rw [requestLedger]
    rfl
@[simp] theorem errorLedger : ledger (e.handleError nowNs) = ledger e := by
  unfold handleError
  dsimp only
  split
  · rfl
  · rw [requestLedger,transportLedger]
@[simp] theorem disconnectLedger : ledger (e.disconnect closeNs) = ledger e := by
  unfold disconnect
  split
  · rw [closeLedger]
    rfl
  · rfl
@[simp] theorem flushLedger : ledger e.flush = (ledger e).flush := rfl
theorem stopLedger : ledger (e.stop closeNs) = (ledger e).flush := by
  rw [stop,flushLedger,disconnectLedger]
  rfl
theorem hearLedger (payload : Bytes) : ledger (e.hear payload nowNs) = ledger e := by
  unfold hear
  split <;> rfl
theorem startLedger (isReconnectAttempt : Bool) (outcome : ConnectOutcome) :
    ledger (e.startConnection isReconnectAttempt outcome).1 = (ledger e).opened
      (e.startConnection isReconnectAttempt outcome).2 := by
  cases outcome with
  | refused errorNs =>
    have same : ledger {(e.handleError errorNs).countTransportError with connected := false} = ledger e :=
      errorLedger e errorNs
    exact same
  | subscribeFailed openNs errorNs =>
    have same := errorLedger {e with heartbeat := e.heartbeat.onConnectionOpen openNs} errorNs
    exact same
  | opened openNs nowNs => cases isReconnectAttempt <;> rfl
theorem runLedger (outcome : ConnectOutcome) (failedNs : UInt64) :
    ledger (e.run outcome failedNs).1 = (ledger e).opened (e.run outcome failedNs).2 := by
  unfold run
  split
  · rfl
  · have start := startLedger
      {e with running := true, stopRequested := false, fatalError := false, stage := .sendPing} false outcome
    simp only
    split
    · next out made =>
      rw [made] at start
      exact start
    · next out made =>
      rw [made] at start
      rw [requestLedger]
      exact start
theorem pingLedger (outcome : PingOutcome) : ledger (e.maybeSendPing nowNs outcome) = ledger e := by
  unfold maybeSendPing
  split
  · rfl
  · split
    · rfl
    · cases outcome with
      | sent => rfl
      | failed => rw [requestLedger,transportLedger]
theorem checkLedger : ledger (e.maybeRequestReconnectFromHeartbeat nowNs) = ledger e := by
  unfold maybeRequestReconnectFromHeartbeat
  simp only
  split
  · rfl
  · split
    · rfl
    · rw [requestLedger]
theorem reconnectLedger (outcome : ConnectOutcome) :
    ledger (e.maybeReconnect nowNs closeNs outcome).1 = (ledger e).opened
      (e.maybeReconnect nowNs closeNs outcome).2 := by
  unfold maybeReconnect
  split
  · rfl
  · have quiet : ledger {e.disconnect
      closeNs with reconnect := (e.disconnect closeNs).reconnect.onReconnectAttempt nowNs} = ledger e := by
      rw [← disconnectLedger e closeNs]
      simp [ledger]
    have start := startLedger
      {e.disconnect closeNs with reconnect := (e.disconnect closeNs).reconnect.onReconnectAttempt nowNs} true
        outcome
    rw [quiet] at start
    simp only
    split
    · next out made =>
      rw [made] at start
      exact start
    · next out made =>
      rw [made] at start
      have same : ledger {out with reconnect := out.reconnect.onReconnectFailure} = ledger out := by simp [ledger]
      rw [same]
      exact start
-- A turn opens a connection, flushes on its way out, or leaves the log alone.
theorem turnLedger (ping : PingOutcome) (outcome : ConnectOutcome) :
    ledger (turn e nowNs closeNs ping outcome).1 = (ledger e).opened (turn e nowNs closeNs ping outcome).2 ∨
      ((turn e nowNs closeNs ping outcome).2 = false ∧
        ledger (turn e nowNs closeNs ping outcome).1 = (ledger e).flush) := by
  unfold turn
  cases e.stage with
  | idle => exact .inl rfl
  | sendPing =>
    simp only
    split
    · refine .inr ⟨rfl,?_⟩
      rw [stopLedger]
      rfl
    · exact .inl (pingLedger e nowNs ping)
  | requestReconnect began => exact .inl (checkLedger e began)
  | reconnect began => exact .inl (reconnectLedger e began closeNs outcome)
end

/-! A record at the end of the log. -/

def RawLogWriter.appended (writer : RawLogWriter) (packet : RawPacket) : RawLogWriter :=
  {writer with
    file := writer.file ++ packetBytes packet
    packetsWritten := writer.packetsWritten + 1
    bytesWritten := writer.bytesWritten +
      (UInt64.ofNat sizeofRawPacketHeader + UInt64.ofNat packet.payload.length)}
theorem writeAccepted {writer : RawLogWriter} {packet : RawPacket} (opened : writer.isOpen = true)
    (accepted : Accepted packet) :
    writer.writePacket packet = .ok (RawLogWriter.appended writer packet) := by
  have checked := validated.mpr accepted
  unfold RawLogWriter.writePacket RawLogWriter.appended
  rw [if_neg (by simp [opened]),checked]
  rfl
theorem packetAccepted (config : RealtimeFeedConfig) (connection packetId : Nat) {payload : Bytes}
    (short : ¬ uint32Max < payload.length)
    (wallNs monotonicNs : UInt64) : Accepted (packetOf config connection packetId payload wallNs monotonicNs) :=
  ⟨rfl,rfl,rfl,Nat.not_lt.mp short,rfl,rfl⟩
theorem recorded {e : RealtimeFeedEngine} (opened : e.rawWriter.isOpen = true) {tape : Tape}
    (connection : e.reconnect.connectionId = UInt64.ofNat tape.opened)
    (nextId : e.nextPacketId = UInt64.ofNat (tape.received + 1))
    (payload : Bytes) (wallNs monotonicNs : UInt64) :
    (uint32Max < payload.length → ∃ refusal, e.record payload wallNs monotonicNs = .error refusal) ∧
      (¬ uint32Max < payload.length → e.record payload wallNs monotonicNs =
        .ok (RawLogWriter.appended e.rawWriter
          (packetOf e.config tape.opened (tape.received + 1) payload wallNs monotonicNs))) := by
  unfold RealtimeFeedEngine.record makeRawPacket
  constructor
  · intro long
    rw [if_pos long]
    exact ⟨_,rfl⟩
  · intro short
    rw [if_neg short,connection,nextId]
    exact writeAccepted opened (packetAccepted e.config tape.opened (tape.received + 1) short wallNs monotonicNs)

/-! The log of a run. Of the packets captured, all but the last few of a flush interval had been flushed. -/

-- k packets had been captured at the last flush.
def FlushedAt (config : RealtimeFeedConfig) (earlier packets : List RawPacket) (flushedBytes k : Nat) : Prop :=
  k ≤ packets.length ∧ flushedBytes = (FramedLog.joined packetBytes (earlier ++ packets.take k)).length ∧
    (0 < config.flushEveryNPackets →
      packets.length - k ≤ (UInt64.ofNat packets.length % config.flushEveryNPackets).toNat)
structure Captured (config : RealtimeFeedConfig) (earlier : List RawPacket) (l : Ledger) (tape : Tape) : Prop where
  settings : l.config = config
  opened : l.rawWriter.isOpen = true
  accepted : ∀ packet ∈ tape.packets, Accepted packet
  file : l.rawWriter.file = FramedLog.joined packetBytes (earlier ++ tape.packets)
  connection : l.connectionId = UInt64.ofNat tape.opened
  nextId : l.nextPacketId = UInt64.ofNat (tape.received + 1)
  count : l.packetsCaptured = UInt64.ofNat tape.packets.length
  flushed : ∃ k, FlushedAt config earlier tape.packets l.flushedBytes k

section
variable {config : RealtimeFeedConfig} {earlier : List RawPacket}

theorem flushedNow (packets : List RawPacket) :
    FlushedAt config earlier packets (FramedLog.joined packetBytes (earlier ++ packets)).length packets.length :=
  ⟨Nat.le_refl _,by rw [List.take_length],fun _ => by omega⟩
theorem capturedFlush {l : Ledger} {tape : Tape} (captured : Captured config earlier l tape) :
    Captured config earlier l.flush tape :=
  {captured with flushed := ⟨_,by
    have now : FlushedAt config earlier tape.packets _ _ := flushedNow tape.packets
    rw [← captured.file] at now
    exact now⟩}
theorem capturedOpened {l : Ledger} {tape : Tape} (captured : Captured config earlier l tape) (answer : Bool)
    {call : FeedCall}
    (quiet : ∀ payload nowNs wallNs monotonicNs, call ≠ .message payload nowNs wallNs monotonicNs) :
    Captured config earlier (l.opened answer) (tape.next config (call,answer)) := by
  have next : tape.next config (call,answer) = if answer = true then {tape with opened := tape.opened + 1}
    else tape := by
    cases call with
    | message payload nowNs wallNs monotonicNs => exact absurd rfl (quiet payload nowNs wallNs monotonicNs)
    | _ => cases answer <;> rfl
  rw [next]
  cases answer with
  | false => exact captured
  | true =>
    refine {captured with connection := ?_}
    change l.connectionId + 1 = UInt64.ofNat (tape.opened + 1)
    rw [captured.connection,UInt64.ofNat_add]
    rfl

theorem succMod {c n : Nat} (positive : 0 < n) (within : (c + 1) % n ≠ 0) : (c + 1) % n = c % n + 1 := by
  have below := Nat.mod_lt c positive
  rw [← Nat.mod_add_mod] at within ⊢
  by_cases last : c % n + 1 = n
  · exact absurd (by rw [last,Nat.mod_self]) within
  · exact Nat.mod_eq_of_lt (by omega)
theorem succRemainder {c interval : UInt64} (positive : 0 < interval) (within : (c + 1) % interval ≠ 0) :
    ((c + 1) % interval).toNat = (c % interval).toNat + 1 := by
  have whole : (c + 1).toNat = c.toNat + 1 := by
    rw [UInt64.toNat_add,UInt64.toNat_one]
    refine Nat.mod_eq_of_lt (Nat.lt_of_le_of_ne c.toNat_lt fun wrapped => within ?_)
    have zero : c + 1 = 0 := UInt64.toNat_inj.mp
      (by rw [UInt64.toNat_add,UInt64.toNat_one,wrapped,Nat.mod_self]; rfl)
    rw [zero]
    exact UInt64.toNat_inj.mp (by rw [UInt64.toNat_mod]; exact Nat.zero_mod _)
  have apart : (c.toNat + 1) % interval.toNat ≠ 0 := by
    intro zero
    refine within (UInt64.toNat_inj.mp ?_)
    rw [UInt64.toNat_mod,whole,zero]
    rfl
  rw [UInt64.toNat_mod,UInt64.toNat_mod,whole]
  exact succMod (UInt64.lt_iff_toNat_lt.mp positive) apart
theorem flushedMore {packets : List RawPacket} {flushedBytes k : Nat}
    (flushed : FlushedAt config earlier packets flushedBytes k)
    (packet : RawPacket) (unflushed :
      ¬ (0 < config.flushEveryNPackets ∧ (UInt64.ofNat packets.length + 1) % config.flushEveryNPackets = 0)) :
    FlushedAt config earlier (packets ++ [packet]) flushedBytes k := by
  obtain ⟨inside,bytes,few⟩ := flushed
  refine ⟨?_,?_,fun positive => ?_⟩
  · rw [List.length_append]
    omega
  · rw [bytes,List.take_append_of_le_length inside]
  · have within : (UInt64.ofNat packets.length + 1) % config.flushEveryNPackets ≠ 0 :=
      fun zero => unflushed ⟨positive,zero⟩
    have before := few positive
    have size : UInt64.ofNat (packets.length + 1) = UInt64.ofNat packets.length + 1 := UInt64.ofNat_add _ _
    rw [List.length_append,List.length_singleton,size,succRemainder positive within]
    omega
theorem messageLong {e : RealtimeFeedEngine} {payload : Bytes} {nowNs wallNs monotonicNs : UInt64}
    {refusal : String}
    (refused : (e.hear payload nowNs).record payload wallNs monotonicNs = .error refusal) :
    ledger (e.handleMessage payload nowNs wallNs monotonicNs) =
      {ledger e with nextPacketId := (ledger e).nextPacketId + 1} := by
  rw [← hearLedger e nowNs payload]
  unfold RealtimeFeedEngine.handleMessage
  dsimp only
  rw [refused]
  rfl
def Ledger.grown (l : Ledger) (written : RawLogWriter) : Ledger :=
  let l :=
    {l with rawWriter := written, nextPacketId := l.nextPacketId + 1, packetsCaptured := l.packetsCaptured + 1}
  if 0 < l.config.flushEveryNPackets ∧ l.packetsCaptured % l.config.flushEveryNPackets = 0 then l.flush else l
theorem messageShort {e : RealtimeFeedEngine} {payload : Bytes} {nowNs wallNs monotonicNs : UInt64}
    {written : RawLogWriter}
    (ok : (e.hear payload nowNs).record payload wallNs monotonicNs = .ok written) :
    ledger (e.handleMessage payload nowNs wallNs monotonicNs) = (ledger e).grown written := by
  rw [← hearLedger e nowNs payload]
  unfold RealtimeFeedEngine.handleMessage
  dsimp only
  rw [ok]
  generalize e.hear payload nowNs = heard
  unfold RealtimeFeedEngine.capture Ledger.grown
  by_cases due : 0 < heard.config.flushEveryNPackets ∧
    (heard.stats.packetsCaptured + 1) % heard.config.flushEveryNPackets = 0
  · dsimp only
    rw [if_pos due]
    exact (if_pos due).symm
  · dsimp only
    rw [if_neg due]
    exact (if_neg due).symm
theorem capturedMessage {e : RealtimeFeedEngine} {tape : Tape}
    (captured : Captured config earlier (ledger e) tape) (payload : Bytes)
    (nowNs wallNs monotonicNs : UInt64) :
    Captured config earlier (ledger (e.handleMessage payload nowNs wallNs monotonicNs))
      (tape.next config (.message payload nowNs wallNs monotonicNs,false)) := by
  have heard : Captured config earlier (ledger (e.hear payload nowNs)) tape := by
    rw [hearLedger]
    exact captured
  obtain ⟨refuses,takes⟩ := recorded heard.opened heard.connection heard.nextId payload wallNs monotonicNs
  have nextId : (ledger e).nextPacketId + 1 = UInt64.ofNat (tape.received + 1 + 1) := by
    rw [captured.nextId,UInt64.ofNat_add (tape.received + 1) 1]
    rfl
  dsimp only [Tape.next]
  by_cases long : uint32Max < payload.length
  · obtain ⟨refusal,refused⟩ := refuses long
    rw [if_pos long,messageLong refused]
    exact {captured with nextId}
  · have settings : (e.hear payload nowNs).config = config := heard.settings
    have writer : (e.hear payload nowNs).rawWriter = e.rawWriter :=
      congrArg Ledger.rawWriter (hearLedger e nowNs payload)
    have ok := takes long
    rw [settings,writer] at ok
    have packetOk := packetAccepted config tape.opened (tape.received + 1) long wallNs monotonicNs
    generalize packetOf config tape.opened (tape.received + 1) payload wallNs monotonicNs = packet at ok packetOk ⊢
    have file : (RawLogWriter.appended e.rawWriter packet).file = FramedLog.joined packetBytes
      (earlier ++ (tape.packets ++ [packet])) := by
      have before : e.rawWriter.file = FramedLog.joined packetBytes (earlier ++ tape.packets) := captured.file
      rw [RawLogWriter.appended,before,← List.append_assoc]
      simp [FramedLog.joined]
    have count : (ledger e).packetsCaptured + 1 = UInt64.ofNat (tape.packets ++ [packet]).length := by
      rw [captured.count,List.length_append,UInt64.ofNat_add]
      rfl
    have accepted : ∀ other ∈ tape.packets ++ [packet], Accepted other :=
      List.forall_mem_append.mpr ⟨captured.accepted,List.forall_mem_singleton.mpr packetOk⟩
    rw [if_neg long,messageShort ok]
    obtain ⟨k,flushed⟩ := captured.flushed
    unfold Ledger.grown
    dsimp only
    rw [captured.settings]
    by_cases due : 0 < config.flushEveryNPackets ∧ ((ledger e).packetsCaptured + 1) % config.flushEveryNPackets = 0
    · rw [if_pos due]
      refine ⟨rfl,captured.opened,accepted,file,captured.connection,nextId,count,(tape.packets ++
        [packet]).length,?_⟩
      have now : FlushedAt config earlier (tape.packets ++ [packet]) _ _ := flushedNow (tape.packets ++ [packet])
      rw [← file] at now
      exact now
    · rw [if_neg due]
      rw [captured.count] at due
      exact ⟨rfl,captured.opened,accepted,file,captured.connection,nextId,count,k,flushedMore flushed packet due⟩

theorem capturedNext {e : RealtimeFeedEngine} {log : FeedLog}
    (captured : Captured config earlier (ledger e) (tapeOf config log))
    (call : FeedCall) :
    Captured config earlier (ledger (feedStep e call).1)
      (tapeOf config (log ++ [(call,(feedStep e call).2)])) := by
  rw [tapeSnoc]
  cases call with
  | run outcome failedNs =>
    change Captured _ _ (ledger (e.run outcome failedNs).1) _
    rw [runLedger]
    exact capturedOpened captured _ fun _ _ _ _ other => nomatch other
  | turn nowNs closeNs ping outcome =>
    obtain opened | ⟨quiet,flushed⟩ := turnLedger e nowNs closeNs ping outcome
    · change Captured _ _ (ledger (turn e nowNs closeNs ping outcome).1) _
      rw [opened]
      exact capturedOpened captured _ fun _ _ _ _ other => nomatch other
    · change Captured _ _ (ledger (turn e nowNs closeNs ping outcome).1)
        (Tape.next config _ (_,(turn e nowNs closeNs ping outcome).2))
      rw [flushed,quiet]
      exact capturedFlush captured
  | message payload nowNs wallNs monotonicNs => exact capturedMessage captured payload nowNs wallNs monotonicNs
  | dropped => exact captured
  | close nowNs =>
    change Captured _ _ (ledger (e.handleClose nowNs)) _
    rw [closeLedger]
    exact captured
  | error nowNs =>
    change Captured _ _ (ledger (e.handleError nowNs)) _
    rw [errorLedger]
    exact captured
  | stop closeNs =>
    change Captured _ _ (ledger (e.stop closeNs)) _
    rw [stopLedger]
    exact capturedFlush captured

def afterCalls (config : RealtimeFeedConfig) (earlier : List RawPacket) (calls : List FeedCall) :
    RealtimeFeedEngine × FeedLog :=
  Machine.run feedStep (.new config (FramedLog.joined packetBytes earlier)) [] calls
theorem capturedRun (config : RealtimeFeedConfig) (earlier : List RawPacket) (calls : List FeedCall) :
    Captured config earlier (ledger (afterCalls config earlier calls).1)
      (tapeOf config (afterCalls config earlier calls).2) := by
  have start : Captured config earlier (ledger (.new config (FramedLog.joined packetBytes earlier)))
    (tapeOf config []) := by
    refine ⟨rfl,rfl,fun _ mem => (nomatch mem),?_,rfl,rfl,rfl,0,Nat.le_refl _,?_,fun _ => Nat.zero_le _⟩
    · rw [tapeOf,List.foldl_nil,List.append_nil]
      rfl
    · rw [List.take_zero,List.append_nil]
      rfl
  exact Machine.invariant (P := fun e log => Captured config earlier (ledger e) (tapeOf config log))
    (fun _ _ call captured => capturedNext captured call) calls start
end

end Polytope.FeedCapture
