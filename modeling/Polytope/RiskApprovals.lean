import Polytope.Engine
import Polytope.RiskEdge

/-! Approvals over whole runs of one engine. The duplicate guard remembers the evidence of
every evaluation it lets pass and the rate guard counts every evaluation it lets pass,
whatever the later stages decide; the reservation book changes only with an approval. -/
namespace Polytope.RiskApprovals
open RiskTypes RiskGuards Reservation Pipeline RiskEvaluation Engine
open Intent (OpportunityIntent Evidence evidence)

abbrev Entry := EngineOp × Option RiskPipelineResult

def opEvidence (op : EngineOp) : Option Evidence := (opIntent op).map evidence
def second (op : EngineOp) : Nat := opNowNs op / kNsPerSecond
def approvedEntry (x : Entry) : Bool := x.2.any (·.decision.approved)
def charged (x : Entry) : Bool := x.2.any (passed .duplicateGuard)
def slotted (x : Entry) : Bool := x.2.any (passed .rateLimitGuard)

def grant (x : Entry) : Option ApprovedIntent :=
  x.2.bind fun r => if r.decision.approved then some r.approvedIntent else none
def grants (log : EngineLog) : List ApprovedIntent := log.filterMap grant
def grantedEvidence (log : EngineLog) : List Evidence := (grants log).map fun g => evidence g.intent

def slotsIn (log : EngineLog) (s : Nat) : Nat := log.countP fun x => slotted x && decide (second x.1 = s)
def approvedIn (log : EngineLog) (s : Nat) : Nat := log.countP fun x => approvedEntry x && decide (second x.1 = s)
def burnedIn (log : EngineLog) (s : Nat) : Nat :=
  log.countP fun x => (slotted x && !approvedEntry x) && decide (second x.1 = s)

theorem slotsSplit (log s) : slotsIn log s ≤ approvedIn log s + burnedIn log s := by
  unfold slotsIn approvedIn burnedIn
  induction log with
  | nil => simp
  | cons x rest ih =>
    simp only [List.countP_cons]
    cases slotted x <;> cases approvedEntry x <;> cases decide (second x.1 = s) <;> simp <;> omega

/-! What one step does to the two guards. -/

def DuplicateStep (e e' : RiskEngine) (x : Entry) : Prop :=
  (charged x = false ∧ ∀ v, Seen e'.pipeline.duplicateGuard v ↔ Seen e.pipeline.duplicateGuard v) ∨
  (charged x = true ∧ ∃ own, opEvidence x.1 = some own ∧ ¬ Seen e.pipeline.duplicateGuard own ∧
    ∀ v, Seen e'.pipeline.duplicateGuard v ↔ v = own ∨ Seen e.pipeline.duplicateGuard v)
def RateStep (e e' : RiskEngine) (x : Entry) : Prop :=
  (slotted x = false ∧ e'.pipeline.rateLimitGuard = e.pipeline.rateLimitGuard) ∨
  (e'.pipeline.rateLimitGuard.windowSecond = second x.1 ∧ e'.pipeline.rateLimitGuard.usedInWindow =
    e.pipeline.rateLimitGuard.usedAt (opNowNs x.1) + if slotted x then 1 else 0)

theorem duplicateFailKeeps {g : DuplicateIntentGuard} {i} (fail : (g.check i).2.pass = false) :
    (g.check i).1 = g := by
  rcases duplicateCases g i with ⟨same,_⟩ | ⟨same,_⟩ | ⟨pass,_⟩
  · exact same
  · exact same
  · rw [pass] at fail
    cases fail
theorem duplicatePassSeen {g : DuplicateIntentGuard} {i} (fresh : (g.check i).2.pass = true) :
    ¬ Seen g (evidence i) ∧ ∀ v, Seen (g.check i).1 v ↔ v = evidence i ∨ Seen g v := by
  rcases duplicateCases g i with ⟨_,fail,_⟩ | ⟨_,fail,_⟩ | ⟨_,new,seen⟩
  · rw [fail] at fresh
    cases fresh
  · rw [fail] at fresh
    cases fresh
  · exact ⟨new,seen⟩

theorem ratePassCounts {p : RiskPipeline} {input}
    (slot : ((rateGuardFor p input).check input.nowNs).2.pass = true) :
    ((rateGuardFor p input).check input.nowNs).1.windowSecond = input.nowNs / kNsPerSecond ∧
    ((rateGuardFor p input).check input.nowNs).1.usedInWindow = p.rateLimitGuard.usedAt input.nowNs + 1 := by
  rcases rateCases (rateGuardFor p input) input.nowNs with ⟨_,_,after⟩ | ⟨fail,_⟩
  · rw [after]
    exact ⟨rfl,rfl⟩
  · rw [fail] at slot
    cases slot
theorem rateFailKeeps {p : RiskPipeline} {input}
    (fail : ((rateGuardFor p input).check input.nowNs).2.pass = false) :
    ((rateGuardFor p input).check input.nowNs).1.windowSecond = input.nowNs / kNsPerSecond ∧
    ((rateGuardFor p input).check input.nowNs).1.usedInWindow = p.rateLimitGuard.usedAt input.nowNs ∧
    (effectivePolicy input).maxApprovalsPerSecond ≤ p.rateLimitGuard.usedAt input.nowNs := by
  rcases rateCases (rateGuardFor p input) input.nowNs with ⟨pass,_⟩ | ⟨_,_,full,after⟩
  · rw [pass] at fail
    cases fail
  · rw [after]
    exact ⟨rfl,rfl,full⟩

theorem slotTaken {p : RiskPipeline} {input op r} (now : input.nowNs = opNowNs op)
    (slot : ((rateGuardFor p input).check input.nowNs).2.pass = true) (marked : passed .rateLimitGuard r = true) :
    ((rateGuardFor p input).check input.nowNs).1.windowSecond = second op ∧
    ((rateGuardFor p input).check input.nowNs).1.usedInWindow =
      p.rateLimitGuard.usedAt (opNowNs op) + if slotted (op,some r) then 1 else 0 := by
  obtain ⟨window,used⟩ := ratePassCounts slot
  refine ⟨window.trans (congrArg (· / kNsPerSecond) now),?_⟩
  simp only [slotted,Option.any_some,marked]
  exact used.trans (congrArg (p.rateLimitGuard.usedAt · + 1) now)

theorem stepGuards (e op) :
    DuplicateStep e (engineStep e op).1 (op,(engineStep e op).2) ∧
    RateStep e (engineStep e op).1 (op,(engineStep e op).2) ∧
    ∀ g ∈ grant (op,(engineStep e op).2), charged (op,(engineStep e op).2) = true ∧
      opEvidence op = some (evidence g.intent) := by
  have stepped := engineStepStepped e op
  generalize engineStep e op = out at *
  obtain ⟨e',answer⟩ := out
  have idle : ∀ r, r.decision.approved = false → ∀ g ∈ grant (op,some r), charged (op,some r) = true ∧
      opEvidence op = some (evidence g.intent) := by
    intro r rejected g mem
    simp [grant,rejected] at mem
  cases stepped with
  | released _ => exact ⟨.inl ⟨rfl,fun _ => Iff.rfl⟩,.inl ⟨rfl,rfl⟩,by simp [grant]⟩
  | expired _ => exact ⟨.inl ⟨rfl,fun _ => Iff.rfl⟩,.inl ⟨rfl,rfl⟩,by simp [grant]⟩
  | refused view refused unmarked =>
    exact ⟨.inl ⟨unmarked.1,fun _ => Iff.rfl⟩,.inl ⟨unmarked.2,rfl⟩,idle _ refused.1⟩
  | evaluated view evaluation =>
    obtain ⟨now,_,own⟩ := evaluatedViewShape view
    cases evaluation with
    | early refused unmarked =>
      exact ⟨.inl ⟨unmarked.1,fun _ => Iff.rfl⟩,.inl ⟨unmarked.2,rfl⟩,idle _ refused.1⟩
    | duplicate intent fail rejected reason unmarked =>
      refine ⟨.inl ⟨unmarked.1,fun v => ?_⟩,.inl ⟨unmarked.2,rfl⟩,idle _ rejected⟩
      rw [duplicateFailKeeps fail]
    | rateLimited intent fresh fail rejected reason once unslotted =>
      obtain ⟨new,seen⟩ := duplicatePassSeen fresh
      obtain ⟨window,used,_⟩ := rateFailKeeps fail
      refine ⟨.inr ⟨once,_,own _ intent,new,seen⟩,.inr ⟨?_,?_⟩,idle _ rejected⟩
      · exact window.trans (congrArg (· / kNsPerSecond) now)
      · simp only [slotted,Option.any_some,unslotted]
        exact used.trans (congrArg _ now)
    | later intent fresh slot refused once slotted =>
      obtain ⟨new,seen⟩ := duplicatePassSeen fresh
      exact ⟨.inr ⟨once,_,own _ intent,new,seen⟩,.inr (slotTaken now slot slotted),idle _ refused.1⟩
    | unreserved intent fresh slot _ rejected _ once slotted =>
      obtain ⟨new,seen⟩ := duplicatePassSeen fresh
      exact ⟨.inr ⟨once,_,own _ intent,new,seen⟩,.inr (slotTaken now slot slotted),idle _ rejected⟩
    | approved intent fresh slot checked _ reserved decided cost reservation granted once slotted =>
      obtain ⟨new,seen⟩ := duplicatePassSeen fresh
      refine ⟨.inr ⟨once,_,own _ intent,new,seen⟩,.inr (slotTaken now slot slotted),?_⟩
      intro g mem
      simp only [grant,Option.bind_some,decided,if_true,Option.mem_def,Option.some.injEq] at mem
      subst mem
      rw [granted]
      exact ⟨once,own _ intent⟩

/-! The guards against the log of the run. -/

structure Recorded (e : RiskEngine) (log : EngineLog) : Prop where
  book : ReservationLedger.Consistent e.reservations
  seen : ∀ v, Seen e.pipeline.duplicateGuard v ↔ ∃ x ∈ log, charged x = true ∧ opEvidence x.1 = some v
  used : e.pipeline.rateLimitGuard.usedInWindow ≤ slotsIn log e.pipeline.rateLimitGuard.windowSecond
  grantsSeen : ∀ v ∈ grantedEvidence log, Seen e.pipeline.duplicateGuard v
  once : (grantedEvidence log).Nodup

theorem Recorded.usedAt {e log} (ok : Recorded e log) (nowNs) :
    e.pipeline.rateLimitGuard.usedAt nowNs ≤ slotsIn log (nowNs / kNsPerSecond) := by
  unfold RateLimitGuard.usedAt
  split
  · next same =>
    rw [same]
    exact ok.used
  · exact Nat.zero_le _

theorem slotsAppend (log x s) :
    slotsIn (log ++ [x]) s = slotsIn log s + if slotted x && decide (second x.1 = s) then 1 else 0 := by
  simp [slotsIn,List.countP_append,List.countP_cons]
theorem grantedAppend (log x) :
    grantedEvidence (log ++ [x]) = grantedEvidence log ++ ((grant x).map fun g => evidence g.intent).toList := by
  cases here : grant x <;> simp [grantedEvidence,grants,here]

theorem recordedInitial (runtime) : Recorded {runtime} [] := by
  refine ⟨ReservationLedger.initial,?_,Nat.le_refl 0,by simp [grantedEvidence,grants],List.nodup_nil⟩
  rintro (h | k) <;> simp [Seen]

theorem recordedSeen {e e' log x} (ok : Recorded e log) (step : DuplicateStep e e' x) (v) :
    Seen e'.pipeline.duplicateGuard v ↔ ∃ y ∈ log ++ [x], charged y = true ∧ opEvidence y.1 = some v := by
  rcases step with ⟨uncharged,same⟩ | ⟨marked,own,carried,_,grown⟩
  · rw [same,ok.seen]
    simp [uncharged]
  · rw [grown,ok.seen]
    constructor
    · rintro (rfl | ⟨y,mem,rest⟩)
      · exact ⟨x,by simp,marked,carried⟩
      · exact ⟨y,List.mem_append_left _ mem,rest⟩
    · rintro ⟨y,mem,theirs,evidence⟩
      rcases List.mem_append.mp mem with old | new
      · exact .inr ⟨y,old,theirs,evidence⟩
      · cases List.mem_singleton.mp new
        rw [carried] at evidence
        exact .inl (Option.some.inj evidence).symm
theorem recordedUsed {e e' log x} (ok : Recorded e log) (step : RateStep e e' x) :
    e'.pipeline.rateLimitGuard.usedInWindow ≤ slotsIn (log ++ [x]) e'.pipeline.rateLimitGuard.windowSecond := by
  rw [slotsAppend]
  rcases step with ⟨_,same⟩ | ⟨window,used⟩
  · rw [same]
    exact ok.used.trans (Nat.le_add_right _ _)
  · have before := ok.usedAt (opNowNs x.1)
    have same : opNowNs x.1 / kNsPerSecond = second x.1 := rfl
    rw [used,window,← same]
    simp only [decide_true,Bool.and_true]
    omega

theorem recordedStep (e log op) (ok : Recorded e log) :
    Recorded (engineStep e op).1 (log ++ [(op,(engineStep e op).2)]) := by
  obtain ⟨duplicate,rate,granted⟩ := stepGuards e op
  have seen := recordedSeen ok duplicate
  have grows : ∀ v, Seen e.pipeline.duplicateGuard v → Seen (engineStep e op).1.pipeline.duplicateGuard v := by
    intro v old
    obtain ⟨y,mem,rest⟩ := (ok.seen v).mp old
    exact (seen v).mpr ⟨y,List.mem_append_left _ mem,rest⟩
  refine ⟨engineConsistent ok.book,seen,recordedUsed ok rate,?_,?_⟩
  · intro v mem
    rw [grantedAppend] at mem
    rcases List.mem_append.mp mem with old | new
    · exact grows v (ok.grantsSeen v old)
    · rw [Option.mem_toList,Option.map_eq_some_iff] at new
      obtain ⟨g,here,rfl⟩ := new
      obtain ⟨marked,own⟩ := granted g here
      exact (seen _).mpr ⟨_,by simp,marked,own⟩
  · rw [grantedAppend]
    cases here : grant (op,(engineStep e op).2) with
    | none => simpa using ok.once
    | some g =>
      obtain ⟨marked,own⟩ := granted g here
      rcases duplicate with ⟨uncharged,_⟩ | ⟨_,v,carried,fresh,_⟩
      · rw [marked] at uncharged
        cases uncharged
      · rw [own] at carried
        cases Option.some.inj carried
        refine List.nodup_append.mpr ⟨ok.once,by simp,?_⟩
        intro a old b new same
        simp only [Option.map_some,Option.toList_some,List.mem_singleton] at new
        subst new same
        exact fresh (ok.grantsSeen _ old)

theorem runRecorded (runtime ops) : Recorded (runEngine runtime ops).1 (runEngine runtime ops).2 :=
  Machine.invariant recordedStep ops (recordedInitial runtime)

/-! Approvals and the reservation book. -/

def Carries (r : RiskReservation) : Evidence → Prop
  | .hash h => r.idempotencyHash = h
  | .key k => r.idempotencyKey = k
def bookBefore (e : RiskEngine) (op : EngineOp) : ReservationBook :=
  match evaluatedView e op with
  | some input => expireOld e.reservations input.nowNs
  | none => e.reservations
def ReservesOne (before after : ReservationBook) (r : RiskPipelineResult) : Prop :=
  ∃ stored, after.reservations = before.reservations ++ [stored] ∧ isActive stored = true ∧
    Carries stored (evidence r.approvedIntent.intent) ∧ stored.reservationId = r.reservation.reservationId

theorem storedCarries (b i nowNs track) : Carries (storedReservation b i nowNs track) (evidence i) := by
  unfold evidence
  split
  · next hash => simp [Carries,storedReservation,buildReservation,reservationKeyFor,hash]
  · rfl

theorem reservedOne {b i input} (ok : (reservationFor b i input).2.ok = true) :
    ∃ stored, (reservationFor b i input).1.reservations = b.reservations ++ [stored] ∧ isActive stored = true ∧
      Carries stored (evidence i) ∧ stored.reservationId = (reservationFor b i input).2.reservationId := by
  rcases ReservationLedger.tryReserveCases b i (approvedDecision i (effectivePolicy input)) input.nowNs
    (shouldTrackReservationLedgerDetail (effectivePolicy input)) with ⟨refused,_⟩ | ⟨_,_,_,_,booked⟩
  · rw [reservationFor,refused] at ok
    cases ok
  · rw [reservationFor,booked]
    exact ⟨_,rfl,ReservationLedger.storedActive,storedCarries ..,rfl⟩

theorem stepReserves {e op r} (answer : (engineStep e op).2 = some r) :
    (r.decision.approved = true → ReservesOne (bookBefore e op) (engineStep e op).1.reservations r ∧
      opEvidence op = some (evidence r.approvedIntent.intent)) ∧
    (r.decision.approved = false → (engineStep e op).1.reservations = bookBefore e op) := by
  have stepped := engineStepStepped e op
  generalize engineStep e op = out at *
  obtain ⟨e',result⟩ := out
  simp only at answer
  subst answer
  unfold bookBefore
  cases stepped with
  | refused view refused _ =>
    rw [view]
    exact ⟨fun approved => absurd approved (by simp [refused.1]),fun _ => rfl⟩
  | evaluated view evaluation =>
    obtain ⟨_,_,own⟩ := evaluatedViewShape view
    rw [view]
    simp only
    have idle : r.decision.approved = false → ∀ P : Prop, r.decision.approved = true → P := by
      intro rejected P approved
      rw [rejected] at approved
      cases approved
    cases evaluation with
    | early refused _ => exact ⟨idle refused.1 _,fun _ => rfl⟩
    | duplicate _ _ rejected _ _ => exact ⟨idle rejected _,fun _ => rfl⟩
    | rateLimited _ _ _ rejected _ _ _ => exact ⟨idle rejected _,fun _ => rfl⟩
    | later _ _ _ refused _ _ => exact ⟨idle refused.1 _,fun _ => rfl⟩
    | unreserved _ _ _ _ rejected _ _ _ => exact ⟨idle rejected _,fun _ => rfl⟩
    | approved intent _ _ _ same reserved decided _ reservation granted _ _ =>
      cases Option.some.inj same
      refine ⟨fun _ => ?_,fun rejected => idle rejected _ decided⟩
      obtain ⟨stored,appended,active,carried,id⟩ := reservedOne reserved
      refine ⟨⟨stored,appended,active,by rw [granted]; exact carried,by rw [reservation]; exact id⟩,?_⟩
      rw [granted]
      exact own _ intent

theorem approvalsAtMostOnce (runtime : RiskRuntimeContext) (ops : List EngineOp) :
    (grantedEvidence (runEngine runtime ops).2).Nodup ∧
    ∀ op r, (engineStep (runEngine runtime ops).1 op).2 = some r →
      (r.decision.approved = true →
        ReservesOne (bookBefore (runEngine runtime ops).1 op)
          (engineStep (runEngine runtime ops).1 op).1.reservations r ∧
        opEvidence op = some (evidence r.approvedIntent.intent)) ∧
      (r.decision.approved = false →
        (engineStep (runEngine runtime ops).1 op).1.reservations = bookBefore (runEngine runtime ops).1 op) :=
  ⟨(runRecorded runtime ops).once,fun _ _ answer => stepReserves answer⟩

/-! Rejections of the two guards. -/

def Justified (e : RiskEngine) (log : EngineLog) (op : EngineOp) : Prop :=
  ∀ r ∈ (engineStep e op).2,
    (r.decision.rejectReason = .duplicateIntent ∨ r.decision.rejectReason = .duplicateReservation →
      ∃ x ∈ log, approvedEntry x = true ∧ opEvidence x.1 = opEvidence op) ∧
    (r.decision.rejectReason = .approvalRateLimit →
      (opPolicy e.runtime op).maxApprovalsPerSecond ≤ approvedIn log (second op))
-- An active reservation has the bundle and the idempotency hash of the intent, also where the
-- hash is that of an idempotency key on one side only.
def KeyTaken (b : ReservationBook) (i : OpportunityIntent) : Prop :=
  ∃ r ∈ b.reservations, isActive r = true ∧ keyOf r = reservationKeyFor i
-- No slot of this evaluation went to a rejected one: its evidence has not been charged without
-- an approval, and it is not rejected evaluations that fill up its second; and where its
-- reservation key is taken, its evidence has been charged.
def Unburned (e : RiskEngine) (log : EngineLog) (op : EngineOp) : Prop :=
  (evaluatedView e op).isSome = true →
    (∀ x ∈ log, charged x = true → approvedEntry x = false → opEvidence x.1 ≠ opEvidence op) ∧
    ¬ (approvedIn log (second op) < (opPolicy e.runtime op).maxApprovalsPerSecond ∧
      (opPolicy e.runtime op).maxApprovalsPerSecond ≤ approvedIn log (second op) + burnedIn log (second op)) ∧
    ∀ input ∈ evaluatedView e op, ∀ i ∈ input.intent, KeyTaken (expireOld e.reservations input.nowNs) i →
      ∃ x ∈ log, charged x = true ∧ opEvidence x.1 = opEvidence op
instance (b i) : Decidable (KeyTaken b i) := by
  unfold KeyTaken
  infer_instance
instance (e log op) : Decidable (Justified e log op) := by
  unfold Justified
  infer_instance
instance (e log op) : Decidable (Unburned e log op) := by
  unfold Unburned
  infer_instance

theorem duplicateReservationTaken {b i input} (ok : ReservationLedger.Consistent b)
    (same : reservationRejectReason (reservationFor b i input).2.rejectReason = .duplicateReservation) :
    KeyTaken b i := by
  unfold reservationFor tryReserve at same
  split at same
  · simp [reject,reservationRejectReason] at same
  split at same
  · simp [reject,reservationRejectReason] at same
  split at same
  · simp [reject,reservationRejectReason] at same
  split at same
  · simp [reject,reservationRejectReason] at same
  split at same
  · next there =>
    obtain ⟨id,found⟩ := Option.isSome_iff_exists.mp (AList.lookup_isSome.mpr there)
    obtain ⟨r,held,active,key⟩ := (ok.keys _ _).mp found
    exact ⟨r,List.mem_of_getElem? (ReservationLedger.indexOfFind held).2.1,active,key⟩
  · simp [accept,reservationRejectReason] at same
theorem reservationUncharged (t) : reservationRejectReason t ≠ .duplicateIntent ∧
    reservationRejectReason t ≠ .approvalRateLimit := by
  cases t <;> decide

theorem justifiedStep {e log op} (ok : Recorded e log) (unburned : Unburned e log op) : Justified e log op := by
  have stepped := engineStepStepped e op
  unfold Justified
  generalize engineStep e op = out at *
  obtain ⟨e',answer⟩ := out
  have idle : ∀ r, Refused r → (r.decision.rejectReason = .duplicateIntent ∨
      r.decision.rejectReason = .duplicateReservation →
        ∃ x ∈ log, approvedEntry x = true ∧ opEvidence x.1 = opEvidence op) ∧
      (r.decision.rejectReason = .approvalRateLimit →
        (opPolicy e.runtime op).maxApprovalsPerSecond ≤ approvedIn log (second op)) := by
    intro r refused
    obtain ⟨_,intent,reservation,rate⟩ := refused
    exact ⟨fun same => absurd same (not_or.mpr ⟨intent,reservation⟩),fun same => absurd same rate⟩
  intro r mem
  simp only [Option.mem_def] at mem
  subst mem
  cases stepped with
  | refused view refused _ => exact idle _ refused
  | evaluated view evaluation =>
    obtain ⟨now,policy,own⟩ := evaluatedViewShape view
    obtain ⟨fresh,room,untaken⟩ := unburned (by rw [view]; rfl)
    cases evaluation with
    | early refused _ => exact idle _ refused
    | later _ _ _ refused _ _ => exact idle _ refused
    | unreserved intent new _ same _ reason _ _ =>
      cases Option.some.inj same
      rw [reason]
      refine ⟨fun kind => ?_,fun kind => absurd kind (reservationUncharged _).2⟩
      have taken := duplicateReservationTaken (ReservationLedger.expireOldConsistent ok.book _)
        (kind.resolve_left (reservationUncharged _).1)
      obtain ⟨x,mem,marked,theirs⟩ := untaken _ view _ intent taken
      exact absurd ((ok.seen _).mpr ⟨x,mem,marked,theirs.trans (own _ intent)⟩) (duplicatePassSeen new).1
    | duplicate intent fail _ reason _ =>
      rw [reason]
      rcases duplicateCases e.pipeline.duplicateGuard _ with ⟨_,_,kind,seen⟩ | ⟨_,_,kind⟩ | ⟨pass,_⟩
      · rw [kind]
        refine ⟨fun _ => ?_,by simp [rejectReasonFor]⟩
        obtain ⟨x,mem,marked,theirs⟩ := (ok.seen _).mp seen
        refine ⟨x,mem,?_,theirs.trans (own _ intent).symm⟩
        by_contra rejected
        exact fresh x mem marked (by simpa using rejected) (theirs.trans (own _ intent).symm)
      · rw [kind]
        exact ⟨by simp [rejectReasonFor],by simp [rejectReasonFor]⟩
      · rw [pass] at fail
        cases fail
    | rateLimited _ _ fail _ reason _ _ =>
      rw [reason]
      rcases rateCases _ _ with ⟨pass,_⟩ | ⟨_,kind,full,_⟩
      · rw [pass] at fail
        cases fail
      · rw [kind]
        refine ⟨by simp [rejectReasonFor],fun _ => ?_⟩
        have used := (ok.usedAt (opNowNs op)).trans (slotsSplit log _)
        have full : (opPolicy e.runtime op).maxApprovalsPerSecond ≤ e.pipeline.rateLimitGuard.usedAt
          (opNowNs op) := by
          rw [← policy,← now]
          exact full
        by_contra few
        exact room ⟨by omega,full.trans used⟩
    | approved _ _ _ _ _ _ decided _ _ _ _ _ =>
      have none : r.decision.rejectReason = .none := by
        simp only [RiskDecision.approved,decide_eq_true_eq] at decided
        exact decided.2
      rw [none]
      exact ⟨by simp,by simp⟩

theorem guardsChargeApprovals (runtime : RiskRuntimeContext) (ops : List EngineOp)
    (unburned : Machine.Along engineStep Unburned {runtime} [] ops) :
    Machine.Along engineStep Justified {runtime} [] ops :=
  Machine.alongImp (fun s log op ok _ => recordedStep s log op ok) (fun _ _ _ => justifiedStep)
    (recordedInitial runtime) unburned

def evaluateOn (books : List MarketDepth.MarketStateSnapshot) : EngineOp :=
  .evaluate (RiskEdge.losingIntent 100) {nowNs := 10, latestSnapshots := books}
theorem approvedThenDuplicate :
    Machine.Along engineStep Justified {} [] [evaluateOn [RiskEdge.askBook RiskEdge.oneLot],
      evaluateOn [RiskEdge.askBook RiskEdge.oneLot]] :=
  guardsChargeApprovals {} _ (by decide +kernel)

-- The first evaluation finds no book and is rejected; the second finds one and is a duplicate.
theorem missingBookBurns :
    ¬ ∀ runtime ops, Machine.Along engineStep Justified {runtime} [] ops := by
  intro claimed
  have burned := claimed {} [evaluateOn [],evaluateOn [RiskEdge.askBook RiskEdge.oneLot]]
  revert burned
  decide +kernel

end Polytope.RiskApprovals
