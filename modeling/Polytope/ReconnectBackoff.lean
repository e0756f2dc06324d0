import Polytope.Machine
import Mathlib.Algebra.Order.Group.Nat
import Mathlib.Data.List.Basic

/-! ReconnectController: requests, attempts and failures of one transport and the backoff between them. An outage
is what has been called since the connection last opened or the controller was reset. The timer of the last
attempt survives the opening, so the law of the outage needs calls that do not meet it again. -/
namespace Polytope.ReconnectBackoff

inductive ReconnectReason where | none | connectionClosed | transportError | heartbeatTimeout | staleFeed | manual
  deriving DecidableEq, Repr
structure ReconnectController where
  initialDelayNs : UInt64
  maxDelayNs : UInt64
  currentDelayNs : UInt64
  maxAttempts : UInt32
  attemptCount : UInt32 := 0
  reconnectRequested : Bool := false
  reconnecting : Bool := false
  disabled : Bool := false
  reason : ReconnectReason := .none
  connectionId : UInt64 := 0
  reconnectCount : UInt64 := 0
  lastRequestNs : UInt64 := 0
  lastAttemptNs : UInt64 := 0
  lastSuccessNs : UInt64 := 0
  deriving DecidableEq

def msToNs (ms : UInt64) : UInt64 := ms * 1000000
namespace ReconnectController

def new (initialDelayMs maxDelayMs : UInt64) (maxAttempts : UInt32) : ReconnectController where
  initialDelayNs := msToNs initialDelayMs
  maxDelayNs := if msToNs maxDelayMs < msToNs initialDelayMs then msToNs initialDelayMs else msToNs maxDelayMs
  currentDelayNs := msToNs initialDelayMs
  maxAttempts := maxAttempts
def onConnectionOpen (c : ReconnectController) (nowNs : UInt64) : ReconnectController :=
  {c with
    connectionId := c.connectionId + 1
    reconnectRequested := false
    reconnecting := false
    disabled := false
    reason := .none
    attemptCount := 0
    currentDelayNs := c.initialDelayNs
    lastSuccessNs := nowNs}
def requestReconnect (c : ReconnectController) (nowNs : UInt64) (reason : ReconnectReason) : ReconnectController :=
  if c.disabled = true then c
  else if c.reconnectRequested = false ∧ c.reconnecting = false then
    {c with reconnectRequested := true, lastRequestNs := nowNs, reason}
  else c
def baseTime (c : ReconnectController) : UInt64 := if c.lastAttemptNs = 0 then c.lastRequestNs else c.lastAttemptNs
def shouldReconnect (c : ReconnectController) (nowNs : UInt64) : Bool :=
  if c.disabled = true then false
  else if c.reconnectRequested = false then false
  else if c.reconnecting = true then false
  else if c.maxAttempts ≠ 0 ∧ c.maxAttempts ≤ c.attemptCount then false
  else if nowNs < c.baseTime then false
  else decide (c.currentDelayNs ≤ nowNs - c.baseTime)
def onReconnectAttempt (c : ReconnectController) (nowNs : UInt64) : ReconnectController :=
  if c.disabled = true then c
  else {c with reconnecting := true, lastAttemptNs := nowNs, attemptCount := c.attemptCount + 1}
def onReconnectSuccess (c : ReconnectController) (nowNs : UInt64) : ReconnectController :=
  {c with reconnectCount := c.reconnectCount + 1}.onConnectionOpen nowNs
def doubled (c : ReconnectController) : UInt64 :=
  if c.maxDelayNs / 2 < c.currentDelayNs then c.maxDelayNs else c.currentDelayNs * 2
def onReconnectFailure (c : ReconnectController) : ReconnectController :=
  if c.maxAttempts ≠ 0 ∧ c.maxAttempts ≤ c.attemptCount then
    {c with reconnecting := false, disabled := true, reconnectRequested := false}
  else {c with reconnecting := false, reconnectRequested := true, currentDelayNs := min c.doubled c.maxDelayNs}
def disable (c : ReconnectController) : ReconnectController :=
  {c with disabled := true, reconnectRequested := false, reconnecting := false}
def reset (c : ReconnectController) : ReconnectController :=
  {c with
    reconnectRequested := false
    reconnecting := false
    disabled := false
    reason := .none
    attemptCount := 0
    currentDelayNs := c.initialDelayNs
    lastRequestNs := 0
    lastAttemptNs := 0}

end ReconnectController

/-! Calls. The time a failure is reported at is not used. -/

inductive ReconnectCall where
  | onConnectionOpen (nowNs : UInt64)
  | requestReconnect (nowNs : UInt64) (reason : ReconnectReason)
  | onReconnectAttempt (nowNs : UInt64)
  -- should_reconnect, and an attempt where it is true
  | attemptWhenDue (nowNs : UInt64)
  | onReconnectSuccess (nowNs : UInt64)
  | onReconnectFailure (nowNs : UInt64)
  | disable
  | reset
-- Answers whether an attempt was started.
def reconnectStep (c : ReconnectController) : ReconnectCall → ReconnectController × Bool
  | .onConnectionOpen nowNs => (c.onConnectionOpen nowNs,false)
  | .requestReconnect nowNs reason => (c.requestReconnect nowNs reason,false)
  | .onReconnectAttempt nowNs => (c.onReconnectAttempt nowNs,!c.disabled)
  | .attemptWhenDue nowNs =>
    if c.shouldReconnect nowNs = true then (c.onReconnectAttempt nowNs,true) else (c,false)
  | .onReconnectSuccess nowNs => (c.onReconnectSuccess nowNs,false)
  | .onReconnectFailure _ => (c.onReconnectFailure,false)
  | .disable => (c.disable,false)
  | .reset => (c.reset,false)
def timeOf : ReconnectCall → Option UInt64
  | .onConnectionOpen nowNs | .requestReconnect nowNs _ | .onReconnectAttempt nowNs | .attemptWhenDue nowNs
  | .onReconnectSuccess nowNs | .onReconnectFailure nowNs => some nowNs
  | .disable | .reset => none

/-! The law, over what the log says of the current outage. -/

abbrev ReconnectLog := List (ReconnectCall × Bool)
structure Outage where
  request : Option UInt64 := none
  lastAttempt : Option UInt64 := none
  started : Nat := 0
  failures : Nat := 0
def Outage.next (outage : Outage) : ReconnectCall × Bool → Outage
  | (.onConnectionOpen _,_) | (.onReconnectSuccess _,_) | (.reset,_) => {}
  | (.requestReconnect nowNs _,_) => {outage with request := outage.request.or (some nowNs)}
  | (.onReconnectAttempt nowNs,true) => {outage with lastAttempt := some nowNs}
  | (.attemptWhenDue nowNs,true) => {outage with lastAttempt := some nowNs, started := outage.started + 1}
  | (.onReconnectFailure _,_) => {outage with failures := outage.failures + 1}
  | (.onReconnectAttempt _,false) | (.attemptWhenDue _,false) | (.disable,_) => outage
def outageOf (log : ReconnectLog) : Outage := log.foldl Outage.next {}
def Outage.base (outage : Outage) : Option UInt64 := outage.lastAttempt.or outage.request
def latest (log : ReconnectLog) : UInt64 := log.foldl (fun time e => (timeOf e.1).getD time) 0

structure BackoffLaw (initialDelayMs maxDelayMs : UInt64) (c : ReconnectController)
    (log : ReconnectLog) : Prop where
  waits : ∀ nowNs, latest log ≤ nowNs → c.shouldReconnect nowNs = true →
    ∃ base ∈ (outageOf log).base, base.toNat + c.currentDelayNs.toNat ≤ nowNs.toNat
  delay : c.currentDelayNs.toNat = min (initialDelayMs.toNat * 1000000 * 2 ^ (outageOf log).failures)
    (max (maxDelayMs.toNat * 1000000) (initialDelayMs.toNat * 1000000))
  capped : c.maxAttempts ≠ 0 → (outageOf log).started ≤ c.maxAttempts.toNat
  unmoved : (outageOf log).request ≠ none → ∀ nowNs reason, c.requestReconnect nowNs reason = c

def Timely (log : ReconnectLog) (call : ReconnectCall) : Prop := ∀ time ∈ timeOf call, latest log ≤ time
def Idle (c : ReconnectController) : Prop :=
  c.disabled = false ∧ c.reconnectRequested = false ∧ c.reconnecting = false
-- What the controller takes for granted of a call.
def Sane (c : ReconnectController) : ReconnectCall → Prop
  | .requestReconnect nowNs _ => Idle c → c.lastAttemptNs = 0 ∨ c.lastAttemptNs = nowNs ∨ c.initialDelayNs = 0
  | .onReconnectAttempt _ => c.disabled = false → c.maxAttempts ≠ 0 → c.attemptCount.toNat + 1 < 2^32
  | .onReconnectFailure _ => ¬ Idle c ∧
    (c.maxAttempts ≠ 0 ∧ c.maxAttempts ≤ c.attemptCount → c.currentDelayNs = c.maxDelayNs ∨ c.initialDelayNs = 0)
  | .onConnectionOpen _ | .attemptWhenDue _ | .onReconnectSuccess _ | .disable | .reset => True
def DelaysFit (initialDelayMs maxDelayMs : UInt64) : Prop :=
  initialDelayMs.toNat * 1000000 < 2^64 ∧ maxDelayMs.toNat * 1000000 < 2^64

instance (log : ReconnectLog) (call : ReconnectCall) : Decidable (Timely log call) :=
  Option.decidableForallMem (p := (latest log ≤ ·)) (timeOf call)
instance (c : ReconnectController) : Decidable (Idle c) := inferInstanceAs (Decidable (_ ∧ _ ∧ _))
instance (c : ReconnectController) : (call : ReconnectCall) → Decidable (Sane c call)
  | .requestReconnect _ _ => inferInstanceAs (Decidable (Idle c → _ ∨ _ ∨ _))
  | .onReconnectAttempt _ => inferInstanceAs (Decidable (_ → _ → _))
  | .onReconnectFailure _ => inferInstanceAs (Decidable (¬ Idle c ∧ (_ → _)))
  | .onConnectionOpen _ | .attemptWhenDue _ | .onReconnectSuccess _ | .disable | .reset => isTrue trivial

/-! What the fields stand for. -/

structure Kept (initialDelayMs maxDelayMs : UInt64) (c : ReconnectController) (log : ReconnectLog) : Prop where
  initial : c.initialDelayNs.toNat = initialDelayMs.toNat * 1000000
  most : c.maxDelayNs.toNat = max (maxDelayMs.toNat * 1000000) (initialDelayMs.toNat * 1000000)
  delay : c.currentDelayNs.toNat = min (c.initialDelayNs.toNat * 2 ^ (outageOf log).failures) c.maxDelayNs.toNat
  requestPast : c.lastRequestNs ≤ latest log
  attemptPast : c.lastAttemptNs ≤ latest log
  idle : Idle c → (outageOf log).request = none ∧ (outageOf log).lastAttempt = none
  attempted : ∀ time, (outageOf log).lastAttempt = some time →
    c.lastAttemptNs = time ∧ (time = 0 → c.lastRequestNs = 0)
  requested : (outageOf log).lastAttempt = none → c.disabled = false → c.reconnectRequested = true →
    (outageOf log).request = some c.lastRequestNs ∧
    (c.lastAttemptNs = 0 ∨ c.lastAttemptNs = c.lastRequestNs ∨ c.initialDelayNs = 0)
  reconnecting : c.disabled = false → c.reconnecting = true → (outageOf log).lastAttempt ≠ none
  started : c.maxAttempts ≠ 0 →
    (outageOf log).started ≤ c.attemptCount.toNat ∧ (outageOf log).started ≤ c.maxAttempts.toNat

theorem outageSnoc (log : ReconnectLog) (e : ReconnectCall × Bool) :
    outageOf (log ++ [e]) = (outageOf log).next e := List.foldl_concat _ _ _ _
theorem latestSnoc (log : ReconnectLog) (e : ReconnectCall × Bool) :
    latest (log ++ [e]) = (timeOf e.1).getD (latest log) :=
  List.foldl_concat _ _ _ _
theorem latestGrows {log : ReconnectLog} {call : ReconnectCall} (timely : Timely log call) (answer : Bool) :
    latest log ≤ latest (log ++ [(call,answer)]) := by
  rw [latestSnoc]
  cases time : timeOf call with
  | none => exact UInt64.le_refl _
  | some t => exact timely t time
theorem dueIff (c : ReconnectController) (nowNs : UInt64) : c.shouldReconnect nowNs = true ↔
    c.disabled = false ∧ c.reconnectRequested = true ∧ c.reconnecting = false ∧
      ¬ (c.maxAttempts ≠ 0 ∧ c.maxAttempts ≤ c.attemptCount) ∧
      c.baseTime.toNat + c.currentDelayNs.toNat ≤ nowNs.toNat := by
  have spans : ¬ nowNs < c.baseTime →
    (c.currentDelayNs ≤ nowNs - c.baseTime ↔ c.baseTime.toNat + c.currentDelayNs.toNat ≤ nowNs.toNat) := by
    intro past
    have enough : c.baseTime ≤ nowNs := UInt64.not_lt.mp past
    rw [UInt64.le_iff_toNat_le,UInt64.toNat_sub_of_le _ _ enough]
    have bound := UInt64.le_iff_toNat_le.mp enough
    omega
  unfold ReconnectController.shouldReconnect
  by_cases off : c.disabled = true
  · simp [off]
  · by_cases asked : c.reconnectRequested = false
    · simp [asked]
    · by_cases busy : c.reconnecting = true
      · simp [busy]
      · by_cases full : c.maxAttempts ≠ 0 ∧ c.maxAttempts ≤ c.attemptCount
        · rw [if_neg off,if_neg asked,if_neg busy,if_pos full]
          simp [full]
        · rw [if_neg off,if_neg asked,if_neg busy,if_neg full]
          simp only [Bool.not_eq_true] at off busy
          simp only [Bool.not_eq_false] at asked
          split
          · next early =>
            have short := UInt64.lt_iff_toNat_lt.mp early
            refine iff_of_false (by simp) fun due => ?_
            omega
          · next past =>
            rw [decide_eq_true_iff,spans past]
            exact ⟨fun waited => ⟨off,asked,busy,full,waited⟩,fun due => due.2.2.2.2⟩
theorem minNat (a b : UInt64) : (min a b).toNat = min a.toNat b.toNat := by
  have same : min a b = if a ≤ b then a else b := rfl
  rw [same]
  split
  · next below =>
    have bound := UInt64.le_iff_toNat_le.mp below
    omega
  · next above =>
    have bound := mt UInt64.le_iff_toNat_le.mpr above
    omega
theorem doubledDelay {c : ReconnectController} {failures : Nat}
    (delay : c.currentDelayNs.toNat = min (c.initialDelayNs.toNat * 2 ^ failures) c.maxDelayNs.toNat) :
    (min c.doubled c.maxDelayNs).toNat = min (c.initialDelayNs.toNat * 2 ^ (failures + 1)) c.maxDelayNs.toNat := by
  have fits := c.maxDelayNs.toNat_lt
  have half : (c.maxDelayNs / 2).toNat = c.maxDelayNs.toNat / 2 := UInt64.toNat_div _ _
  have twice : c.initialDelayNs.toNat * 2 ^ (failures + 1) = 2 * (c.initialDelayNs.toNat * 2 ^ failures) := by
    rw [Nat.pow_succ,← Nat.mul_assoc,Nat.mul_comm]
  rw [minNat,twice]
  unfold ReconnectController.doubled
  split
  · next above =>
    have more := UInt64.lt_iff_toNat_lt.mp above
    omega
  · next below =>
    have less := mt UInt64.lt_iff_toNat_lt.mpr below
    have two : (2 : UInt64).toNat = 2 := rfl
    have product : (c.currentDelayNs * 2).toNat = c.currentDelayNs.toNat * 2 := by
      rw [UInt64.toNat_mul,two]
      exact Nat.mod_eq_of_lt (by omega)
    omega
-- A failure at the attempt limit leaves the delay as it is.
theorem limitDelay {c : ReconnectController} {failures : Nat}
    (delay : c.currentDelayNs.toNat = min (c.initialDelayNs.toNat * 2 ^ failures) c.maxDelayNs.toNat)
    (settled : c.currentDelayNs = c.maxDelayNs ∨ c.initialDelayNs = 0) :
    c.currentDelayNs.toNat = min (c.initialDelayNs.toNat * 2 ^ (failures + 1)) c.maxDelayNs.toNat := by
  rw [Nat.pow_succ,← Nat.mul_assoc]
  rcases settled with most | none
  · rw [most] at delay ⊢
    omega
  · rw [delay,none]
    simp

section
variable {initialDelayMs maxDelayMs : UInt64} {c : ReconnectController} {log : ReconnectLog}

theorem keptBase (kept : Kept initialDelayMs maxDelayMs c log) (on : c.disabled = false)
    (asked : c.reconnectRequested = true) :
    ∃ base ∈ (outageOf log).base, base.toNat ≤ (latest log).toNat ∧
      (base = c.baseTime ∨ c.currentDelayNs.toNat = 0) := by
  unfold Outage.base ReconnectController.baseTime
  cases attempt : (outageOf log).lastAttempt with
  | some time =>
    obtain ⟨rfl,zero⟩ := kept.attempted time attempt
    refine ⟨c.lastAttemptNs,rfl,UInt64.le_iff_toNat_le.mp kept.attemptPast,.inl ?_⟩
    split
    · next none => rw [zero none,none]
    · rfl
  | none =>
    obtain ⟨request,timer⟩ := kept.requested attempt on asked
    refine ⟨c.lastRequestNs,request,UInt64.le_iff_toNat_le.mp kept.requestPast,?_⟩
    rcases timer with none | same | free
    · exact .inl (if_pos none).symm
    · refine .inl ?_
      rw [same,ite_self]
    · refine .inr ?_
      rw [kept.delay,free]
      simp
theorem lawKept (kept : Kept initialDelayMs maxDelayMs c log) : BackoffLaw initialDelayMs maxDelayMs c log where
  waits := by
    intro nowNs later due
    obtain ⟨on,asked,-,-,waited⟩ := (dueIff c nowNs).mp due
    obtain ⟨base,known,past,same | free⟩ := keptBase kept on asked
    · exact ⟨base,known,same ▸ waited⟩
    · have reached := UInt64.le_iff_toNat_le.mp later
      exact ⟨base,known,by omega⟩
  delay := by rw [kept.delay,kept.initial,kept.most]
  capped := fun limited => (kept.started limited).2
  unmoved := by
    intro known nowNs reason
    unfold ReconnectController.requestReconnect
    by_cases off : c.disabled = true
    · exact if_pos off
    · rw [if_neg off,if_neg fun quiet => known (kept.idle ⟨Bool.eq_false_iff.mpr off,quiet⟩).1]

/-! One call. -/

-- After an opening or a reset there is no outage.
theorem keptFresh (kept : Kept initialDelayMs maxDelayMs c log) {after : ReconnectController} {more : ReconnectLog}
    (settings : after.initialDelayNs = c.initialDelayNs ∧ after.maxDelayNs = c.maxDelayNs)
    (current : after.currentDelayNs = c.initialDelayNs)
    (quiet : Idle after) (past : after.lastRequestNs ≤ latest more ∧ after.lastAttemptNs ≤ latest more)
    (outage : outageOf more = {}) :
    Kept initialDelayMs maxDelayMs after more := by
  have ordered : c.initialDelayNs.toNat ≤ c.maxDelayNs.toNat := by
    rw [kept.initial,kept.most]
    exact Nat.le_max_right _ _
  constructor
  · rw [settings.1,kept.initial]
  · rw [settings.2,kept.most]
  · rw [current,outage,settings.1,settings.2,Nat.pow_zero,Nat.mul_one,Nat.min_eq_left ordered]
  · exact past.1
  · exact past.2
  · exact fun _ => by rw [outage]; exact ⟨rfl,rfl⟩
  · rw [outage]
    exact fun _ impossible => (nomatch impossible)
  · exact fun _ _ asked => absurd (quiet.2.1.symm.trans asked) (by decide)
  · exact fun _ busy => absurd (quiet.2.2.symm.trans busy) (by decide)
  · rw [outage]
    exact fun _ => ⟨Nat.zero_le _,Nat.zero_le _⟩
-- A call that starts nothing and only lets time pass.
theorem keptQuiet (kept : Kept initialDelayMs maxDelayMs c log) {more : ReconnectLog}
    (same : outageOf more = outageOf log)
    (later : latest log ≤ latest more) : Kept initialDelayMs maxDelayMs c more := by
  obtain ⟨initial,most,delay,requestPast,attemptPast,idle,attempted,requested,reconnecting,started⟩ := kept
  rw [← same] at delay idle attempted requested reconnecting started
  exact ⟨initial,most,delay,UInt64.le_trans requestPast later,UInt64.le_trans attemptPast
    later,idle,attempted,requested,reconnecting,started⟩
-- Giving up, by an order or after the last failure allowed.
theorem keptDisabled (kept : Kept initialDelayMs maxDelayMs c log) {more : ReconnectLog} {failures : Nat}
    (outage : outageOf more = {outageOf log with failures}) (later : latest log ≤ latest more)
    (delay : c.currentDelayNs.toNat = min (c.initialDelayNs.toNat * 2 ^ failures) c.maxDelayNs.toNat) :
    Kept initialDelayMs maxDelayMs c.disable more := by
  unfold ReconnectController.disable
  constructor
  · exact kept.initial
  · exact kept.most
  · rw [outage]
    exact delay
  · exact UInt64.le_trans kept.requestPast later
  · exact UInt64.le_trans kept.attemptPast later
  · exact fun still => (nomatch still.1)
  · rw [outage]
    exact kept.attempted
  · exact fun _ off => (nomatch off)
  · exact fun off => (nomatch off)
  · rw [outage]
    exact kept.started
theorem keptFirstRequest (kept : Kept initialDelayMs maxDelayMs c log) {nowNs : UInt64}
    {reason : ReconnectReason} (quiet : Idle c)
    (timely : latest log ≤ nowNs) (sane : Sane c (.requestReconnect nowNs reason)) :
    Kept initialDelayMs maxDelayMs {c with reconnectRequested := true, lastRequestNs := nowNs, reason}
      (log ++ [(.requestReconnect nowNs reason,false)]) := by
  have time : latest (log ++ [(.requestReconnect nowNs reason,false)]) = nowNs := latestSnoc _ _
  obtain ⟨fresh,untried⟩ := kept.idle quiet
  have outage : outageOf (log ++ [(.requestReconnect nowNs reason,false)]) =
    {outageOf log with request := some nowNs} := by
    rw [outageSnoc,Outage.next,fresh]
    rfl
  constructor
  · exact kept.initial
  · exact kept.most
  · rw [outage]
    exact kept.delay
  · rw [time]
    exact UInt64.le_refl _
  · rw [time]
    exact UInt64.le_trans kept.attemptPast timely
  · exact fun still => (nomatch still.2.1)
  · rw [outage,untried]
    exact fun _ impossible => (nomatch impossible)
  · rw [outage]
    exact fun _ _ _ => ⟨rfl,sane quiet⟩
  · rw [outage]
    exact kept.reconnecting
  · rw [outage]
    exact kept.started
-- A request during an outage changes nothing but, where the outage had none, what the log says was asked first.
theorem keptLaterRequest (kept : Kept initialDelayMs maxDelayMs c log) {nowNs : UInt64}
    {reason : ReconnectReason} (busy : ¬ Idle c)
    (timely : latest log ≤ nowNs) :
    Kept initialDelayMs maxDelayMs c (log ++ [(.requestReconnect nowNs reason,false)]) := by
  have time : latest (log ++ [(.requestReconnect nowNs reason,false)]) = nowNs := latestSnoc _ _
  have outage : outageOf (log ++ [(.requestReconnect nowNs reason,false)]) =
      {outageOf log with request := (outageOf log).request.or (some nowNs)} := outageSnoc _ _
  constructor
  · exact kept.initial
  · exact kept.most
  · rw [outage]
    exact kept.delay
  · rw [time]
    exact UInt64.le_trans kept.requestPast timely
  · rw [time]
    exact UInt64.le_trans kept.attemptPast timely
  · exact fun still => absurd still busy
  · rw [outage]
    exact kept.attempted
  · rw [outage]
    intro untried on asked
    obtain ⟨known,timer⟩ := kept.requested untried on asked
    refine ⟨?_,timer⟩
    rw [known]
    rfl
  · rw [outage]
    exact kept.reconnecting
  · rw [outage]
    exact kept.started
theorem keptRequest (kept : Kept initialDelayMs maxDelayMs c log) {nowNs : UInt64} {reason : ReconnectReason}
    (timely : latest log ≤ nowNs) (sane : Sane c (.requestReconnect nowNs reason)) :
    Kept initialDelayMs maxDelayMs (c.requestReconnect nowNs reason)
      (log ++ [(.requestReconnect nowNs reason,false)]) := by
  unfold ReconnectController.requestReconnect
  by_cases quiet : Idle c
  · rw [if_neg (by simp [quiet.1]),if_pos quiet.2]
    exact keptFirstRequest kept quiet timely sane
  · have unchanged : (if c.disabled = true then c
      else if c.reconnectRequested = false ∧ c.reconnecting = false then
        {c with reconnectRequested := true, lastRequestNs := nowNs, reason} else c) = c := by
      split
      · rfl
      · next on => exact if_neg fun waiting => quiet ⟨Bool.eq_false_iff.mpr on,waiting⟩
    rw [unchanged]
    exact keptLaterRequest kept quiet timely
theorem keptAttempt (kept : Kept initialDelayMs maxDelayMs c log) {call : ReconnectCall} {nowNs : UInt64}
    {started : Nat}
    (on : c.disabled = false) (timely : latest log ≤ nowNs) (time : timeOf call = some nowNs)
    (next : (outageOf log).next (call,true) = {outageOf log with lastAttempt := some nowNs, started})
    (counted : c.maxAttempts ≠ 0 →
      started ≤ c.attemptCount.toNat + 1 ∧ started ≤ c.maxAttempts.toNat ∧ c.attemptCount.toNat + 1 < 2^32) :
    Kept initialDelayMs maxDelayMs (c.onReconnectAttempt nowNs) (log ++ [(call,true)]) := by
  have outage := outageSnoc log (call,true)
  have last : latest (log ++ [(call,true)]) = nowNs := by
    rw [latestSnoc,time]
    rfl
  rw [next] at outage
  unfold ReconnectController.onReconnectAttempt
  rw [if_neg (by simp [on])]
  constructor
  · exact kept.initial
  · exact kept.most
  · rw [outage]
    exact kept.delay
  · rw [last]
    exact UInt64.le_trans kept.requestPast timely
  · rw [last]
    exact UInt64.le_refl _
  · exact fun still => (nomatch still.2.2)
  · rw [outage]
    intro at_ same
    cases same
    refine ⟨rfl,fun zero => ?_⟩
    have none := UInt64.le_trans kept.requestPast timely
    rw [zero] at none
    exact UInt64.le_antisymm none UInt64.zero_le
  · rw [outage]
    exact fun impossible => (nomatch impossible)
  · rw [outage]
    exact fun _ _ impossible => (nomatch impossible)
  · rw [outage]
    intro limited
    obtain ⟨count,capped,room⟩ := counted limited
    refine ⟨?_,capped⟩
    have one : (1 : UInt32).toNat = 1 := rfl
    rw [UInt32.toNat_add,one,Nat.mod_eq_of_lt room]
    exact count
theorem keptFailure (kept : Kept initialDelayMs maxDelayMs c log) {nowNs : UInt64} (timely : latest log ≤ nowNs)
    (sane : Sane c (.onReconnectFailure nowNs)) :
    Kept initialDelayMs maxDelayMs c.onReconnectFailure (log ++ [(.onReconnectFailure nowNs,false)]) := by
  have outage := outageSnoc log (.onReconnectFailure nowNs,false)
  have last : latest (log ++ [(.onReconnectFailure nowNs,false)]) = nowNs := latestSnoc _ _
  have now : (outageOf log).next
    (.onReconnectFailure nowNs,false) = {outageOf log with failures := (outageOf log).failures + 1} := rfl
  rw [now] at outage
  unfold ReconnectController.onReconnectFailure
  split
  · next full =>
    have later : latest log ≤ latest (log ++ [(.onReconnectFailure nowNs,false)]) := by
      rw [last]
      exact timely
    exact keptDisabled kept outage later (limitDelay kept.delay (sane.2 full))
  · next room =>
    constructor
    · exact kept.initial
    · exact kept.most
    · rw [outage]
      exact doubledDelay kept.delay
    · rw [last]
      exact UInt64.le_trans kept.requestPast timely
    · rw [last]
      exact UInt64.le_trans kept.attemptPast timely
    · exact fun still => (nomatch still.2.1)
    · rw [outage]
      exact kept.attempted
    · rw [outage]
      intro untried on _
      have asked : c.reconnectRequested = true := by
        cases unasked : c.reconnectRequested with
        | true => rfl
        | false =>
          cases busy : c.reconnecting with
          | true => exact absurd untried (kept.reconnecting on busy)
          | false => exact absurd ⟨on,unasked,busy⟩ sane.1
      exact kept.requested untried on asked
    · exact fun _ off => (nomatch off)
    · rw [outage]
      exact kept.started
theorem keptNext (kept : Kept initialDelayMs maxDelayMs c log) (call : ReconnectCall) (timely : Timely log call)
    (sane : Sane c call) :
    Kept initialDelayMs maxDelayMs (reconnectStep c call).1 (log ++ [(call,(reconnectStep c call).2)]) := by
  have later := latestGrows timely (reconnectStep c call).2
  have requestPast := UInt64.le_trans kept.requestPast later
  have attemptPast := UInt64.le_trans kept.attemptPast later
  have outage := outageSnoc log (call,(reconnectStep c call).2)
  cases call with
  | onConnectionOpen nowNs => exact keptFresh kept ⟨rfl,rfl⟩ rfl ⟨rfl,rfl,rfl⟩ ⟨requestPast,attemptPast⟩ outage
  | onReconnectSuccess nowNs => exact keptFresh kept ⟨rfl,rfl⟩ rfl ⟨rfl,rfl,rfl⟩ ⟨requestPast,attemptPast⟩ outage
  | reset => exact keptFresh kept ⟨rfl,rfl⟩ rfl ⟨rfl,rfl,rfl⟩ ⟨UInt64.zero_le,UInt64.zero_le⟩ outage
  | requestReconnect nowNs reason => exact keptRequest kept (timely nowNs rfl) sane
  | onReconnectFailure nowNs => exact keptFailure kept (timely nowNs rfl) sane
  | onReconnectAttempt nowNs =>
    cases on : c.disabled with
    | true =>
      have ignored : reconnectStep c (.onReconnectAttempt nowNs) = (c,false) := by
        simp [reconnectStep,ReconnectController.onReconnectAttempt,on]
      rw [ignored] at outage later ⊢
      exact keptQuiet kept outage later
    | false =>
      have taken : reconnectStep c (.onReconnectAttempt nowNs) = (c.onReconnectAttempt nowNs,true) := by
        simp [reconnectStep,on]
      rw [taken]
      refine keptAttempt kept on (timely nowNs rfl) rfl rfl fun limited => ?_
      obtain ⟨count,capped⟩ := kept.started limited
      exact ⟨Nat.le_succ_of_le count,capped,sane on limited⟩
  | attemptWhenDue nowNs =>
    by_cases due : c.shouldReconnect nowNs = true
    · have taken : reconnectStep c (.attemptWhenDue nowNs) = (c.onReconnectAttempt nowNs,true) := if_pos due
      rw [taken]
      obtain ⟨on,-,-,room,-⟩ := (dueIff c nowNs).mp due
      refine keptAttempt kept on (timely nowNs rfl) rfl rfl fun limited => ?_
      obtain ⟨count,-⟩ := kept.started limited
      have below : c.attemptCount.toNat < c.maxAttempts.toNat :=
        UInt32.lt_iff_toNat_lt.mp (UInt32.not_le.mp fun full => room ⟨limited,full⟩)
      have bound := c.maxAttempts.toNat_lt
      omega
    · have idle : reconnectStep c (.attemptWhenDue nowNs) = (c,false) := if_neg due
      rw [idle] at outage later ⊢
      exact keptQuiet kept outage later
  | disable => exact keptDisabled kept outage later kept.delay
end

theorem newKept {initialDelayMs maxDelayMs : UInt64} (fits : DelaysFit initialDelayMs maxDelayMs)
    (maxAttempts : UInt32) :
    Kept initialDelayMs maxDelayMs (.new initialDelayMs maxDelayMs maxAttempts) [] := by
  have million : (1000000 : UInt64).toNat = 1000000 := rfl
  have first : (msToNs initialDelayMs).toNat = initialDelayMs.toNat * 1000000 := by
    rw [msToNs,UInt64.toNat_mul,million,Nat.mod_eq_of_lt fits.1]
  have second : (msToNs maxDelayMs).toNat = maxDelayMs.toNat * 1000000 := by
    rw [msToNs,UInt64.toNat_mul,million,Nat.mod_eq_of_lt fits.2]
  have most : (ReconnectController.new initialDelayMs maxDelayMs maxAttempts).maxDelayNs.toNat =
      max (maxDelayMs.toNat * 1000000) (initialDelayMs.toNat * 1000000) := by
    unfold ReconnectController.new
    simp only
    split
    · next below =>
      have less := UInt64.lt_iff_toNat_lt.mp below
      omega
    · next above =>
      have more := mt UInt64.lt_iff_toNat_lt.mpr above
      omega
  constructor
  · exact first
  · exact most
  · have initial : (ReconnectController.new initialDelayMs maxDelayMs maxAttempts).initialDelayNs.toNat =
      initialDelayMs.toNat * 1000000 := first
    have current : (ReconnectController.new initialDelayMs maxDelayMs maxAttempts).currentDelayNs.toNat =
      initialDelayMs.toNat * 1000000 := first
    have none : (outageOf []).failures = 0 := rfl
    rw [current,most,initial,none,Nat.pow_zero,Nat.mul_one,Nat.min_eq_left (Nat.le_max_right _ _)]
  · exact UInt64.le_refl _
  · exact UInt64.le_refl _
  · exact fun _ => ⟨rfl,rfl⟩
  · exact fun _ impossible => (nomatch impossible)
  · exact fun _ _ asked => (nomatch asked)
  · exact fun _ busy => (nomatch busy)
  · exact fun _ => ⟨Nat.zero_le _,Nat.zero_le _⟩

def afterCalls (initialDelayMs maxDelayMs : UInt64) (maxAttempts : UInt32) (calls : List ReconnectCall) :
    ReconnectController × ReconnectLog :=
  Machine.run reconnectStep (.new initialDelayMs maxDelayMs maxAttempts) [] calls
def LawAlways (initialDelayMs maxDelayMs : UInt64) (maxAttempts : UInt32) (calls : List ReconnectCall) : Prop :=
  ∀ before, before <+: calls →
    BackoffLaw initialDelayMs maxDelayMs (afterCalls initialDelayMs maxDelayMs maxAttempts before).1
    (afterCalls initialDelayMs maxDelayMs maxAttempts before).2

theorem backoffLawKept {initialDelayMs maxDelayMs : UInt64} {maxAttempts : UInt32} {calls : List ReconnectCall}
    (fits : DelaysFit initialDelayMs maxDelayMs)
    (timely : Machine.Along reconnectStep (fun _ log call => Timely log call)
      (.new initialDelayMs maxDelayMs maxAttempts) [] calls)
    (sane : Machine.Along reconnectStep (fun c _ call => Sane c call)
      (.new initialDelayMs maxDelayMs maxAttempts) [] calls) :
    LawAlways initialDelayMs maxDelayMs maxAttempts calls := by
  rintro before ⟨rest,rfl⟩
  have along := Machine.alongBoth (Machine.alongPrefix timely) (Machine.alongPrefix sane)
  exact lawKept (Machine.invariantAlong (P := Kept initialDelayMs maxDelayMs)
    (fun _ _ call kept asked => keptNext kept call asked.1 asked.2) (newKept fits maxAttempts) along)

def oneFailure : List ReconnectCall :=
  [.onConnectionOpen 1,.requestReconnect 10 .transportError,.attemptWhenDue
    1000000010,.onReconnectFailure 1000000020,
    .requestReconnect 1000000030 .staleFeed,.attemptWhenDue 3000000010,.onReconnectSuccess 3000000020]
theorem oneFailureLaw : LawAlways 1000 8000 3 oneFailure :=
  backoffLawKept ⟨by decide,by decide⟩ (by decide +kernel) (by decide +kernel)
-- The second outage is due at once, by the attempt of the first.
def secondOutage : List ReconnectCall :=
  [.onConnectionOpen 1,.requestReconnect 10 .transportError,.attemptWhenDue
    1000000010,.onReconnectSuccess 1000000020,
    .requestReconnect 5000000000 .transportError]
theorem secondOutageEarly :
    ¬ ∀ (initialDelayMs maxDelayMs : UInt64) (maxAttempts : UInt32) (calls : List ReconnectCall),
    DelaysFit initialDelayMs maxDelayMs →
      Machine.Along reconnectStep (fun _ log call => Timely log call)
        (.new initialDelayMs maxDelayMs maxAttempts) [] calls →
        LawAlways initialDelayMs maxDelayMs maxAttempts calls := by
  intro claimed
  have law := claimed 1000 8000 0 secondOutage ⟨by decide,by decide⟩ (by decide +kernel) secondOutage
    (List.prefix_refl _)
  obtain ⟨base,known,waited⟩ := law.waits 5000000000 (by decide +kernel) (by decide +kernel)
  have request : (outageOf (afterCalls 1000 8000 0 secondOutage).2).base = some 5000000000 := by decide +kernel
  cases request.symm.trans known
  revert waited
  decide +kernel

end Polytope.ReconnectBackoff
