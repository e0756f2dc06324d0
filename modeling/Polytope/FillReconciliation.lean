import Polytope.ChainState
import Polytope.Machine
import Polytope.Sorting

/-! FillReconciler: hints from the market feed wait in a bounded ring until a fill from the chain
confirms one of them or they expire. The store of fills is told of every delivery and answers with a
code that nobody reads. -/
namespace Polytope.FillReconciliation
open ChainState (ConfirmedDirection FillMappingStatus)
open Sorting (Sorter)

inductive HintDirection where | unknown | buyAggressorHint | sellAggressorHint
  deriving DecidableEq, Repr
structure PendingTradeHint where
  hintId : UInt64 := 0
  marketId : String := ""
  assetId : String := ""
  priceTick : Int := 0
  sizeLots : Int := 0
  wsRecvMonotonicNs : Nat := 0
  hintDirection : HintDirection := .unknown
  finalized : Bool := false
  deriving DecidableEq, Repr
structure ConfirmedFill where
  fillId : String := ""
  marketId : String := ""
  assetId : String := ""
  priceTick : Int := 0
  sizeLots : Int := 0
  direction : ConfirmedDirection := .unknown
  mappingStatus : FillMappingStatus := .unmappedFill
  blockNumber : Nat := 0
  txHash : String := ""
  logIndex : Nat := 0
  chainSeenMonotonicNs : Nat := 0
  removed : Bool := false
  deriving DecidableEq, Repr
structure ChainConfirmConfig where
  pendingWindowMs : Nat := 5000
  maxCandidateMatches : Nat := 8
  expireUnmatchedMs : Nat := 10000
  deriving DecidableEq, Repr

inductive ReconciliationStatus where
  | confirmedOneToOne | confirmedOneToMany | confirmedManyToOne | ambiguous | unmatchedHint | unmatchedFill
  | expiredHint | removedByReorg
  deriving DecidableEq, Repr
structure ReconciliationResult where
  status : ReconciliationStatus := .unmatchedHint
  fillId : String := ""
  hintIds : List UInt64 := []
  marketId : String := ""
  assetId : String := ""
  priceTick : Int := 0
  sizeLots : Int := 0
  hintDirection : HintDirection := .unknown
  confirmedDirection : ConfirmedDirection := .unknown
  candidateCount : Nat := 0
  finalized : Bool := false
  reason : String := ""
  deriving DecidableEq, Repr

/-! ConfirmedFillStore. -/

inductive ConfirmedFillStoreCode where | inserted | duplicate | updated | markedRemoved | removedUnknown
  deriving DecidableEq, Repr
abbrev ConfirmedFillStore := String → Option ConfirmedFill
def ConfirmedFillStore.put (store : ConfirmedFillStore) (id : String) (fill : ConfirmedFill) :
    ConfirmedFillStore :=
  fun key => if key = id then some fill else store key
def storedId (fill : ConfirmedFill) : String :=
  if fill.fillId = "" then fill.txHash ++ ":" ++ toString fill.logIndex else fill.fillId
def sameFill (old new : ConfirmedFill) : Bool :=
  old.blockNumber = new.blockNumber ∧ old.txHash = new.txHash ∧ old.logIndex = new.logIndex ∧
  old.priceTick = new.priceTick ∧ old.sizeLots = new.sizeLots ∧ old.assetId = new.assetId ∧
  old.marketId = new.marketId ∧ old.direction = new.direction
def upsert (store : ConfirmedFillStore) (fill : ConfirmedFill) : ConfirmedFillStore × ConfirmedFillStoreCode :=
  let normalized := {fill with fillId := storedId fill}
  match store (storedId fill) with
  | none => (store.put (storedId fill) normalized,if fill.removed then .removedUnknown else .inserted)
  | some old =>
    if fill.removed then (store.put (storedId fill) {old with removed := true},.markedRemoved)
    else if old.removed = false ∧ sameFill old normalized then (store,.duplicate)
    else (store.put (storedId fill) normalized,.updated)

/-! PendingTradeHintRing. -/

def kPendingCapacity : Nat := 4096
def pushHint (pending : List PendingTradeHint) (hint : PendingTradeHint) : List PendingTradeHint :=
  (if kPendingCapacity ≤ pending.length then pending.tail else pending) ++ [hint]
def hintAge (target : Nat) (hint : PendingTradeHint) : Nat :=
  if target ≤ hint.wsRecvMonotonicNs then hint.wsRecvMonotonicNs - target else target - hint.wsRecvMonotonicNs
def pendingWindowNs (config : ChainConfirmConfig) : Nat := config.pendingWindowMs * 1000000 % 2^64
def expireUnmatchedNs (config : ChainConfirmConfig) : Nat := config.expireUnmatchedMs * 1000000 % 2^64
-- A hint that is still pending and fits the fill within the window.
def fits (config : ChainConfirmConfig) (fill : ConfirmedFill) (hint : PendingTradeHint) : Bool :=
  hint.finalized = false ∧ hint.marketId = fill.marketId ∧ hint.assetId = fill.assetId ∧
  hint.priceTick = fill.priceTick ∧ hint.sizeLots = fill.sizeLots ∧
  hintAge fill.chainSeenMonotonicNs hint ≤ pendingWindowNs config
-- Pointers into the ring, nearest in time first.
def candidates (sorter : Sorter (PendingTradeHint × Nat)) (config : ChainConfirmConfig)
    (pending : List PendingTradeHint)
    (fill : ConfirmedFill) : List (PendingTradeHint × Nat) :=
  sorter.sort (fun lhs rhs =>
    decide (hintAge fill.chainSeenMonotonicNs lhs.1 < hintAge fill.chainSeenMonotonicNs rhs.1))
    (pending.zipIdx.filter fun slot => fits config fill slot.1)
def overdue (config : ChainConfirmConfig) (nowNs : Nat) (hint : PendingTradeHint) : Bool :=
  hint.finalized = false ∧ expireUnmatchedNs config < nowNs - hint.wsRecvMonotonicNs

/-! FillReconciler. -/

structure FillReconciler where
  pending : List PendingTradeHint := []
  confirmedStore : Option ConfirmedFillStore := none
def baseResultFromHint (hint : PendingTradeHint) (status : ReconciliationStatus) (reason : String) :
    ReconciliationResult :=
  { status
    hintIds := [hint.hintId]
    marketId := hint.marketId
    assetId := hint.assetId
    priceTick := hint.priceTick
    sizeLots := hint.sizeLots
    hintDirection := hint.hintDirection
    reason }
def baseResultFromFill (fill : ConfirmedFill) (status : ReconciliationStatus) (reason : String) :
    ReconciliationResult :=
  { status
    fillId := fill.fillId
    marketId := fill.marketId
    assetId := fill.assetId
    priceTick := fill.priceTick
    sizeLots := fill.sizeLots
    confirmedDirection := fill.direction
    reason }
def mappingText : FillMappingStatus → String
  | .mapped => "Mapped"
  | .unmappedFill => "UnmappedFill"
  | .ambiguousFill => "AmbiguousFill"
def mapped (fill : ConfirmedFill) : Bool :=
  fill.mappingStatus = .mapped ∧ fill.marketId ≠ "" ∧ fill.assetId ≠ ""

def onWsHint (r : FillReconciler) (hint : PendingTradeHint) : FillReconciler × ReconciliationResult :=
  ({r with pending := pushHint r.pending hint},baseResultFromHint hint .unmatchedHint
    "WS hint stored as unconfirmed")
def capped (config : ChainConfirmConfig) (found : List (PendingTradeHint × Nat)) : List (PendingTradeHint × Nat) :=
  if 0 < config.maxCandidateMatches ∧ config.maxCandidateMatches < found.length then
    found.take config.maxCandidateMatches
  else found
def reconcile (r : FillReconciler) (fill : ConfirmedFill) :
    List (PendingTradeHint × Nat) → FillReconciler × ReconciliationResult
  | [] => (r,baseResultFromFill fill .unmatchedFill "no matching WS hint")
  | [(hint,index)] =>
    ({r with pending := r.pending.modify index fun h => {h with finalized := true}},
      { baseResultFromFill fill .confirmedOneToOne "chain fill confirmed WS hint" with
        hintIds := [hint.hintId]
        hintDirection := hint.hintDirection
        candidateCount := 1
        finalized := true })
  | found =>
    (r,{ baseResultFromFill fill .ambiguous "multiple WS hints match chain fill" with
      candidateCount := found.length
      hintIds := found.map fun slot => slot.1.hintId })
def onChainFill (sorter : Sorter (PendingTradeHint × Nat)) (config : ChainConfirmConfig) (r : FillReconciler)
    (fill : ConfirmedFill) : FillReconciler × ReconciliationResult :=
  let r := {r with confirmedStore := r.confirmedStore.map fun store => (upsert store fill).1}
  if fill.removed then (r,baseResultFromFill fill .removedByReorg "chain log removed by reorg")
  else if mapped fill = false then (r,baseResultFromFill fill .unmatchedFill (mappingText fill.mappingStatus))
  else reconcile r fill (capped config (candidates sorter config r.pending fill))
def expireUnmatched (config : ChainConfirmConfig) (r : FillReconciler) (nowNs : Nat) :
    FillReconciler × List ReconciliationResult :=
  ({r with pending := r.pending.filter fun hint => !overdue config nowNs hint},
    (r.pending.filter (overdue config nowNs)).map fun hint =>
      baseResultFromHint hint .expiredHint "WS hint expired without chain confirmation")

inductive ReconcilerOp where
  | onWsHint (hint : PendingTradeHint)
  | onChainFill (fill : ConfirmedFill)
  | expireUnmatched (nowNs : Nat)
  deriving DecidableEq
def reconcilerStep (sorter : Sorter (PendingTradeHint × Nat)) (config : ChainConfirmConfig) (r : FillReconciler) :
    ReconcilerOp → FillReconciler × List ReconciliationResult
  | .onWsHint hint => ((onWsHint r hint).1,[(onWsHint r hint).2])
  | .onChainFill fill => ((onChainFill sorter config r fill).1,[(onChainFill sorter config r fill).2])
  | .expireUnmatched nowNs => expireUnmatched config r nowNs

/-! What a run reported. -/

abbrev ReconcilerLog := List (ReconcilerOp × List ReconciliationResult)
def confirmations (log : ReconcilerLog) : List (String × UInt64) :=
  log.flatMap fun entry => entry.2.flatMap fun r =>
    if r.status = .confirmedOneToOne then r.hintIds.map fun hint => (r.fillId,hint) else []
def expiries (log : ReconcilerLog) : List UInt64 :=
  log.flatMap fun entry => entry.2.flatMap fun r => if r.status = .expiredHint then r.hintIds else []

def OneToOne (log : ReconcilerLog) : Prop :=
  (∀ a ∈ confirmations log, ∀ b ∈ confirmations log, a.1 = b.1 → a.2 = b.2) ∧
  (∀ a ∈ confirmations log, ∀ b ∈ confirmations log, a.2 = b.2 → a.1 = b.1) ∧
  ∀ a ∈ confirmations log, a.2 ∉ expiries log
instance (log) : Decidable (OneToOne log) := by unfold OneToOne; infer_instance

def matching (config : ChainConfirmConfig) (r : FillReconciler) (fill : ConfirmedFill) : List PendingTradeHint :=
  r.pending.filter (fits config fill)
-- A confirmation has exactly one pending hint to choose from, and takes it.
def ConfirmsItsMatch (sorter : Sorter (PendingTradeHint × Nat)) (config : ChainConfirmConfig)
    (r : FillReconciler) :
    ReconcilerOp → Prop
  | .onChainFill fill => (onChainFill sorter config r fill).2.status = .confirmedOneToOne →
      ∃ hint, matching config r fill = [hint] ∧ (onChainFill sorter config r fill).2.hintIds = [hint.hintId]
  | _ => True

-- A delivery is in play when it gets as far as looking for hints.
def inPlay (fill : ConfirmedFill) : Bool := fill.removed = false ∧ mapped fill
def hintIds (log : ReconcilerLog) : List UInt64 :=
  log.filterMap fun entry => match entry.1 with
    | .onWsHint hint => some hint.hintId
    | _ => none
def fillsInPlay (log : ReconcilerLog) : List String :=
  log.filterMap fun entry => match entry.1 with
    | .onChainFill fill => if inPlay fill then some fill.fillId else none
    | _ => none
-- Every hint id is delivered once, and a fill that meets a hint was not delivered in play before.
def Distinct (config : ChainConfirmConfig) (r : FillReconciler) (log : ReconcilerLog) : ReconcilerOp → Prop
  | .onWsHint hint => hint.hintId ∉ hintIds log
  | .onChainFill fill => inPlay fill = true → matching config r fill ≠ [] → fill.fillId ∉ fillsInPlay log
  | .expireUnmatched _ => True
-- The candidate limit does not leave one hint of several.
def Uncut (config : ChainConfirmConfig) (r : FillReconciler) : ReconcilerOp → Prop
  | .onChainFill fill => inPlay fill = true → config.maxCandidateMatches = 1 → (matching config r fill).length ≤ 1
  | _ => True
instance (config r log op) : Decidable (Distinct config r log op) := by
  cases op <;> unfold Distinct <;> infer_instance
instance (config r op) : Decidable (Uncut config r op) := by
  cases op <;> unfold Uncut <;> infer_instance

structure Settled (r : FillReconciler) (log : ReconcilerLog) : Prop where
  oneToOne : OneToOne log
  confirmed : ∀ c ∈ confirmations log, ∀ hint ∈ r.pending, hint.hintId = c.2 → hint.finalized = true
  expired : ∀ hint ∈ r.pending, hint.hintId ∉ expiries log
  -- Of the hints the ring has room for none is lost: each waits, confirmed or not, or has expired.
  recent : ∀ id ∈ (hintIds log).drop ((hintIds log).length - kPendingCapacity),
    id ∈ r.pending.map PendingTradeHint.hintId ∨ id ∈ expiries log

/-! Logs, entry by entry. -/

theorem confirmationsAppend (log log' : ReconcilerLog) :
    confirmations (log ++ log') = confirmations log ++ confirmations log' := List.flatMap_append
theorem expiriesAppend (log log' : ReconcilerLog) : expiries (log ++ log') = expiries log ++ expiries log' :=
  List.flatMap_append

theorem oneToOneSame {log more} (quiet : confirmations more = [] ∧ expiries more = []) :
    OneToOne (log ++ more) ↔ OneToOne log := by
  unfold OneToOne
  rw [confirmationsAppend,expiriesAppend,quiet.1,quiet.2,List.append_nil,List.append_nil]
theorem oneToOneConfirmed {log more fill hint} (one : confirmations more = [(fill,hint)])
    (quiet : expiries more = []) :
    OneToOne (log ++ more) ↔ OneToOne log ∧ (∀ earlier ∈ confirmations log, earlier.1 = fill ↔ earlier.2 = hint) ∧
      hint ∉ expiries log := by
  unfold OneToOne
  rw [confirmationsAppend,expiriesAppend,one,quiet,List.append_nil]
  simp only [List.mem_append,List.mem_singleton]
  constructor
  · rintro ⟨byFill,byHint,apart⟩
    refine ⟨⟨fun a ha b hb => byFill a (.inl ha) b (.inl hb),fun a ha b hb => byHint a (.inl ha) b (.inl hb),
      fun a ha => apart a (.inl ha)⟩,fun earlier mem => ?_,apart _ (.inr rfl)⟩
    exact ⟨byFill earlier (.inl mem) _ (.inr rfl),byHint earlier (.inl mem) _ (.inr rfl)⟩
  · rintro ⟨⟨byFill,byHint,apart⟩,same,fresh⟩
    refine ⟨?_,?_,?_⟩
    · rintro a (ha | rfl) b (hb | rfl) eq
      · exact byFill a ha b hb eq
      · exact (same a ha).mp eq
      · exact ((same b hb).mp eq.symm).symm
      · rfl
    · rintro a (ha | rfl) b (hb | rfl) eq
      · exact byHint a ha b hb eq
      · exact (same a ha).mpr eq
      · exact ((same b hb).mpr eq.symm).symm
      · rfl
    · rintro a (ha | rfl)
      · exact apart a ha
      · exact fresh
theorem oneToOneExpired {log more} (quiet : confirmations more = []) :
    OneToOne (log ++ more) ↔ OneToOne log ∧
      ∀ hint ∈ expiries more, ∀ earlier ∈ confirmations log, earlier.2 ≠ hint := by
  unfold OneToOne
  rw [confirmationsAppend,expiriesAppend,quiet,List.append_nil]
  simp only [List.mem_append,not_or]
  constructor
  · rintro ⟨byFill,byHint,apart⟩
    exact ⟨⟨byFill,byHint,fun a ha => (apart a ha).1⟩,fun hint mem earlier old same =>
      (apart earlier old).2 (same ▸ mem)⟩
  · rintro ⟨⟨byFill,byHint,apart⟩,fresh⟩
    exact ⟨byFill,byHint,fun a ha => ⟨apart a ha,fun mem => fresh a.2 mem a ha rfl⟩⟩

/-! What one fill does. -/

section
variable (sorter : Sorter (PendingTradeHint × Nat)) (config : ChainConfirmConfig) (r : FillReconciler)
  (fill : ConfirmedFill)

theorem slotsMatch (pending : List PendingTradeHint) (n : Nat) :
    ((pending.zipIdx n).filter fun slot => fits config fill slot.1).map Prod.fst = pending.filter
    (fits config fill) := by
  induction pending generalizing n with
  | nil => rfl
  | cons hint rest ih =>
    rw [List.zipIdx_cons,List.filter_cons,List.filter_cons]
    split
    · rw [List.map_cons,ih]
    · exact ih _
theorem candidatesMatch :
    ((candidates sorter config r.pending fill).map Prod.fst).Perm (matching config r fill) := by
  have perm := (sorter.perm
    (fun lhs rhs => decide (hintAge fill.chainSeenMonotonicNs lhs.1 < hintAge fill.chainSeenMonotonicNs rhs.1))
    (r.pending.zipIdx.filter fun slot => fits config fill slot.1)).map Prod.fst
  rw [slotsMatch] at perm
  exact perm
theorem candidatesLength : (candidates sorter config r.pending fill).length = (matching config r fill).length := by
  rw [← (candidatesMatch sorter config r fill).length_eq,List.length_map]

def onlySlot : List (PendingTradeHint × Nat) → Option (PendingTradeHint × Nat)
  | [slot] => some slot
  | _ => none
def confirmedSlot : Option (PendingTradeHint × Nat) :=
  if inPlay fill then onlySlot (capped config (candidates sorter config r.pending fill)) else none

def Reports (slot : Option (PendingTradeHint × Nat)) (out : ReconciliationResult) : Prop :=
  match slot with
  | none => out.status ≠ .confirmedOneToOne ∧ out.status ≠ .expiredHint
  | some slot => out.status = .confirmedOneToOne ∧ out.fillId = fill.fillId ∧ out.hintIds = [slot.1.hintId]

theorem reconcileReports (found) : Reports fill (onlySlot found) (reconcile r fill found).2 := by
  match found with
  | [] => exact ⟨nofun,nofun⟩
  | [slot] => exact ⟨rfl,rfl,rfl⟩
  | first::second::rest => exact ⟨nofun,nofun⟩
theorem fillReports : Reports fill (confirmedSlot sorter config r fill) (onChainFill sorter config r fill).2 := by
  unfold onChainFill confirmedSlot inPlay
  simp only
  by_cases removed : fill.removed = true
  · rw [if_pos removed,if_neg (by simp [removed])]
    exact ⟨nofun,nofun⟩
  · rw [if_neg removed]
    by_cases known : mapped fill = false
    · rw [if_pos known,if_neg (by simp [known])]
      exact ⟨nofun,nofun⟩
    · rw [if_neg known,if_pos (by simp_all)]
      exact reconcileReports _ fill _

theorem fillEntry : confirmations [(.onChainFill fill,[(onChainFill sorter config r fill).2])] =
      (confirmedSlot sorter config r fill).toList.map (fun slot => (fill.fillId,slot.1.hintId)) ∧
    expiries [(.onChainFill fill,[(onChainFill sorter config r fill).2])] = [] := by
  have reports := fillReports sorter config r fill
  cases confirmed : confirmedSlot sorter config r fill with
  | none =>
    rw [confirmed] at reports
    simp [confirmations,expiries,reports.1,reports.2]
  | some slot =>
    rw [confirmed] at reports
    obtain ⟨status,fillId,hintIds⟩ := reports
    simp [confirmations,expiries,status,fillId,hintIds]

/-! A candidate limit of one is the only one that can turn several candidates into one. -/

theorem cappedLength (found : List (PendingTradeHint × Nat)) : (capped config found).length = 1 ↔
    found.length = 1 ∨ config.maxCandidateMatches = 1 ∧ 1 < found.length := by
  unfold capped
  split
  · rename_i cut
    rw [List.length_take]
    omega
  · omega
theorem onlySlotSome {found : List (PendingTradeHint × Nat)} {slot} : onlySlot found = some slot ↔
    found = [slot] := by
  match found with
  | [] => simp [onlySlot]
  | [one] => simp [onlySlot]
  | first::second::rest => simp [onlySlot]

theorem soleMatch {hint} (sole : matching config r fill = [hint]) :
    ∃ index, capped config (candidates sorter config r.pending fill) = [(hint,index)] := by
  have one : (candidates sorter config r.pending fill).length = 1 := by rw [candidatesLength,sole]; rfl
  obtain ⟨slot,only⟩ := List.length_eq_one_iff.mp one
  have perm := candidatesMatch sorter config r fill
  rw [only,sole,List.map_singleton] at perm
  obtain rfl : slot.1 = hint := List.singleton_perm_singleton.mp perm
  refine ⟨slot.2,?_⟩
  unfold capped
  rw [if_neg (by rw [one]; omega),only]

theorem confirmedSole {slot} (uncut : config.maxCandidateMatches = 1 → (matching config r fill).length ≤ 1)
    (confirmed : confirmedSlot sorter config r fill = some slot) : inPlay fill = true ∧
    matching config r fill = [slot.1] := by
  unfold confirmedSlot at confirmed
  split at confirmed
  · rename_i play
    have only := onlySlotSome.mp confirmed
    have one : (capped config (candidates sorter config r.pending fill)).length = 1 := by rw [only]; rfl
    rw [cappedLength,candidatesLength] at one
    have sole : (matching config r fill).length = 1 := by
      rcases one with one | ⟨limit,several⟩
      · exact one
      · have := uncut limit
        omega
    obtain ⟨hint,sole⟩ := List.length_eq_one_iff.mp sole
    obtain ⟨index,same⟩ := soleMatch sorter config r fill sole
    rw [only] at same
    cases same
    exact ⟨play,sole⟩
  · cases confirmed
theorem cutConfirmed (play : inPlay fill = true) (limit : config.maxCandidateMatches = 1)
    (several : 1 < (matching config r fill).length) : ∃ slot, confirmedSlot sorter config r fill = some slot := by
  have one : (capped config (candidates sorter config r.pending fill)).length = 1 := by
    rw [cappedLength,candidatesLength]
    exact .inr ⟨limit,several⟩
  obtain ⟨slot,only⟩ := List.length_eq_one_iff.mp one
  exact ⟨slot,by rw [confirmedSlot,if_pos play,only]; rfl⟩

theorem confirmsItsMatchIff : ConfirmsItsMatch sorter config r (.onChainFill fill) ↔
    (inPlay fill = true → config.maxCandidateMatches = 1 → (matching config r fill).length ≤ 1) := by
  have reports := fillReports sorter config r fill
  constructor
  · intro confirms play limit
    by_contra several
    obtain ⟨slot,confirmed⟩ := cutConfirmed sorter config r fill play limit (Nat.lt_of_not_le several)
    rw [confirmed] at reports
    obtain ⟨hint,sole,_⟩ := confirms reports.1
    rw [sole] at several
    exact several le_rfl
  · intro uncut status
    cases confirmed : confirmedSlot sorter config r fill with
    | none =>
      rw [confirmed] at reports
      exact absurd status reports.1
    | some slot =>
      rw [confirmed] at reports
      have play : inPlay fill = true := by
        unfold confirmedSlot at confirmed
        split at confirmed
        · assumption
        · cases confirmed
      exact ⟨slot.1,(confirmedSole sorter config r fill (uncut play) confirmed).2,reports.2.2⟩

theorem fillPending : (onChainFill sorter config r fill).1.pending =
    match confirmedSlot sorter config r fill with
    | none => r.pending
    | some slot => r.pending.modify slot.2 fun h => {h with finalized := true} := by
  unfold onChainFill confirmedSlot inPlay
  simp only
  by_cases removed : fill.removed = true
  · rw [if_pos removed,if_neg (by simp [removed])]
  · rw [if_neg removed]
    by_cases known : mapped fill = false
    · rw [if_pos known,if_neg (by simp [known])]
    · rw [if_neg known,if_pos (by simp_all)]
      match capped config (candidates sorter config r.pending fill) with
      | [] => rfl
      | [slot] => rfl
      | first::second::rest => rfl

theorem confirmedTakes {slot} (confirmed : confirmedSlot sorter config r fill = some slot) :
    inPlay fill = true ∧ r.pending[slot.2]? = some slot.1 ∧ fits config fill slot.1 = true := by
  unfold confirmedSlot at confirmed
  split at confirmed
  · rename_i play
    have only := onlySlotSome.mp confirmed
    have mem : slot ∈ candidates sorter config r.pending fill := by
      have taken : slot ∈ capped config (candidates sorter config r.pending fill) := by rw [only]; exact .head _
      unfold capped at taken
      split at taken
      · exact List.mem_of_mem_take taken
      · exact taken
    obtain ⟨placed,fitting⟩ := List.mem_filter.mp ((sorter.perm _ _).mem_iff.mp mem)
    exact ⟨play,List.mem_zipIdx_iff_getElem?.mp placed,fitting⟩
  · cases confirmed

end

/-! The ring against the deliveries. -/

structure Tracked (r : FillReconciler) (log : ReconcilerLog) : Prop extends Settled r log where
  once : (hintIds log).Nodup
  kept : (r.pending.map PendingTradeHint.hintId).Sublist (hintIds log)
  sources : ∀ c ∈ confirmations log, c.1 ∈ fillsInPlay log ∧ c.2 ∈ hintIds log
  gone : ∀ id ∈ expiries log, id ∈ hintIds log

theorem hintIdsAppend (log log' : ReconcilerLog) : hintIds (log ++ log') = hintIds log ++ hintIds log' :=
  List.filterMap_append
theorem fillsAppend (log log' : ReconcilerLog) : fillsInPlay (log ++ log') = fillsInPlay log ++ fillsInPlay log' :=
  List.filterMap_append

theorem Tracked.same {r log} (ok : Tracked r log) {hint other : PendingTradeHint} (here : hint ∈ r.pending)
    (there : other ∈ r.pending) (ids : hint.hintId = other.hintId) : hint = other :=
  List.inj_on_of_nodup_map (ok.kept.nodup ok.once) here there ids

theorem trackedEmpty (store) : Tracked {confirmedStore := store} [] :=
  ⟨⟨⟨nofun,nofun,nofun⟩,nofun,nofun,nofun⟩,List.nodup_nil,.refl _,nofun,nofun⟩

-- In a list without repetitions only what stands near the end has few elements after it.
theorem fewBehind {α : Type*} {l : List α} (once : l.Nodup) {x rest n} (sub : (x::rest).Sublist l)
    (late : x ∈ l.drop (l.length - n)) : rest.length < n := by
  rw [← List.take_append_drop (l.length - n) l] at once sub
  obtain ⟨early,behind,split,before,after⟩ := List.sublist_append_iff.mp sub
  have apart := (List.nodup_append.mp once).2.2
  cases early with
  | nil =>
    rw [List.nil_append] at split
    rw [← split] at after
    have := after.length_le
    rw [List.length_cons,List.length_drop] at this
    omega
  | cons first others =>
    cases split
    exact absurd rfl (apart x (before.subset (.head _)) x late)

theorem trackedHint {r log hint} (ok : Tracked r log) (fresh : hint.hintId ∉ hintIds log) :
    Tracked (onWsHint r hint).1 (log ++ [(.onWsHint hint,[(onWsHint r hint).2])]) := by
  have quiet : confirmations [(.onWsHint hint,[(onWsHint r hint).2])] = [] ∧
      expiries [(.onWsHint hint,[(onWsHint r hint).2])] = [] := by
    simp [confirmations,expiries,onWsHint,baseResultFromHint]
  have confirmed : confirmations (log ++ [(.onWsHint hint,[(onWsHint r hint).2])]) = confirmations log := by
    rw [confirmationsAppend,quiet.1,List.append_nil]
  have expired : expiries (log ++ [(.onWsHint hint,[(onWsHint r hint).2])]) = expiries log := by
    rw [expiriesAppend,quiet.2,List.append_nil]
  have ids : hintIds (log ++ [(.onWsHint hint,[(onWsHint r hint).2])]) = hintIds log ++ [hint.hintId] :=
    hintIdsAppend ..
  have fills : fillsInPlay (log ++ [(.onWsHint hint,[(onWsHint r hint).2])]) = fillsInPlay log :=
    (fillsAppend ..).trans (List.append_nil _)
  have shrunk : (if kPendingCapacity ≤ r.pending.length then r.pending.tail else r.pending).Sublist r.pending := by
    split
    · exact List.tail_sublist _
    · exact .refl _
  have pushed : ∀ h ∈ (onWsHint r hint).1.pending, h ∈ r.pending ∨ h = hint := by
    intro h mem
    rcases List.mem_append.mp mem with old | new
    · exact .inl (shrunk.subset old)
    · exact .inr (List.mem_singleton.mp new)
  have kept : ((onWsHint r hint).1.pending.map PendingTradeHint.hintId).Sublist
    (hintIds log ++ [hint.hintId]) := by
    change ((pushHint r.pending hint).map PendingTradeHint.hintId).Sublist _
    rw [pushHint,List.map_append]
    exact ((shrunk.map _).trans ok.kept).append (.refl _)
  have once : (hintIds log ++ [hint.hintId]).Nodup := by
    refine List.nodup_append.mpr ⟨ok.once,List.nodup_singleton _,fun a old b new same => ?_⟩
    rw [List.mem_singleton.mp new] at same
    exact fresh (same ▸ old)
  refine ⟨⟨(oneToOneSame quiet).mpr ok.oneToOne,?_,?_,?_⟩,?_,?_,?_,?_⟩
  · rw [confirmed]
    intro c settled h mem same
    rcases pushed h mem with old | rfl
    · exact ok.confirmed c settled h old same
    · exact absurd (same ▸ (ok.sources c settled).2) fresh
  · rw [expired]
    intro h mem
    rcases pushed h mem with old | rfl
    · exact ok.expired h old
    · exact fun settled => fresh (ok.gone _ settled)
  · rw [ids,expired]
    intro id late
    by_cases new : id = hint.hintId
    · rw [new]
      exact .inl (List.mem_map_of_mem (List.mem_append_right _ (.head _)))
    have old : id ∈ (hintIds log).drop ((hintIds log).length - kPendingCapacity) := by
      rw [List.length_append,List.length_singleton,List.drop_append] at late
      rcases List.mem_append.mp late with late | late
      · exact (List.drop_sublist_drop_left _ (by omega)).subset late
      · exact absurd (List.mem_singleton.mp (List.mem_of_mem_drop late)) new
    refine (ok.recent id old).imp_left fun here => ?_
    change id ∈ (pushHint r.pending hint).map PendingTradeHint.hintId
    rw [pushHint,List.map_append]
    refine List.mem_append_left _ ?_
    split
    · next full =>
      cases ring : r.pending with
      | nil =>
        rw [ring] at full
        cases full
      | cons oldest rest =>
        rw [ring] at here full
        rcases List.mem_cons.mp here with rfl | here
        · have all : (oldest.hintId::(rest.map PendingTradeHint.hintId ++ [hint.hintId])).Sublist
              (hintIds log ++ [hint.hintId]) := by
            have := ok.kept
            rw [ring] at this
            exact this.append (.refl [hint.hintId])
          have few := fewBehind once all late
          rw [List.length_append,List.length_map,List.length_singleton] at few
          rw [List.length_cons] at full
          omega
        · exact here
    · exact here
  · rw [ids]
    exact once
  · rw [ids]
    exact kept
  · rw [confirmed,fills,ids]
    exact fun c settled => ⟨(ok.sources c settled).1,List.mem_append_left _ (ok.sources c settled).2⟩
  · rw [expired,ids]
    exact fun id settled => List.mem_append_left _ (ok.gone id settled)

theorem trackedFill {sorter config r log fill} (ok : Tracked r log)
    (fresh : inPlay fill = true → matching config r fill ≠ [] → fill.fillId ∉ fillsInPlay log) :
    Tracked (onChainFill sorter config r fill).1
      (log ++ [(.onChainFill fill,[(onChainFill sorter config r fill).2])]) := by
  obtain ⟨entry,quiet⟩ := fillEntry sorter config r fill
  have pending := fillPending sorter config r fill
  have expired : expiries (log ++ [(.onChainFill fill,[(onChainFill sorter config r fill).2])]) =
    expiries log := by
    rw [expiriesAppend,quiet,List.append_nil]
  have ids : hintIds (log ++ [(.onChainFill fill,[(onChainFill sorter config r fill).2])]) = hintIds log :=
    (hintIdsAppend ..).trans (List.append_nil _)
  have fills : ∀ id ∈ fillsInPlay log,
      id ∈ fillsInPlay (log ++ [(.onChainFill fill,[(onChainFill sorter config r fill).2])]) := by
    intro id mem
    rw [fillsAppend]
    exact List.mem_append_left _ mem
  cases slot : confirmedSlot sorter config r fill with
  | none =>
    rw [slot] at entry pending
    have confirmed : confirmations
      (log ++ [(.onChainFill fill,[(onChainFill sorter config r fill).2])]) = confirmations log := by
      rw [confirmationsAppend,entry]
      exact List.append_nil _
    refine ⟨⟨(oneToOneSame ⟨entry,quiet⟩).mpr ok.oneToOne,?_,?_,?_⟩,?_,?_,?_,?_⟩
    · rw [confirmed,pending]
      exact ok.confirmed
    · rw [expired,pending]
      exact ok.expired
    · rw [ids,expired,pending]
      exact ok.recent
    · rw [ids]
      exact ok.once
    · rw [ids,pending]
      exact ok.kept
    · rw [confirmed,ids]
      exact fun c settled => ⟨fills _ (ok.sources c settled).1,(ok.sources c settled).2⟩
    · rw [expired,ids]
      exact ok.gone
  | some taken =>
    rw [slot] at entry pending
    obtain ⟨play,placed,fitting⟩ := confirmedTakes sorter config r fill slot
    have there := List.mem_of_getElem? placed
    have waiting : taken.1.finalized = false := by
      unfold fits at fitting
      simp only [decide_eq_true_eq] at fitting
      exact fitting.1
    have unplayed := fresh play (List.ne_nil_of_mem (List.mem_filter.mpr ⟨there,fitting⟩))
    have confirmed : confirmations (log ++ [(.onChainFill fill,[(onChainFill sorter config r fill).2])]) =
        confirmations log ++ [(fill.fillId,taken.1.hintId)] := by
      rw [confirmationsAppend,entry]
      rfl
    have now : fill.fillId ∈ fillsInPlay
      (log ++ [(.onChainFill fill,[(onChainFill sorter config r fill).2])]) := by
      rw [fillsAppend]
      exact List.mem_append_right _ (by simp [fillsInPlay,play])
    have sameIds : (onChainFill sorter config r fill).1.pending.map PendingTradeHint.hintId =
        r.pending.map PendingTradeHint.hintId := by
      rw [pending]
      refine List.ext_getElem? fun i => ?_
      rw [List.getElem?_map,List.getElem?_map,List.getElem?_modify]
      cases r.pending[i]? with
      | none => rfl
      | some h => by_cases here : taken.2 = i <;> simp [here]
    have places : ∀ h ∈ (onChainFill sorter config r fill).1.pending,
        h = {taken.1 with finalized := true} ∨ h ∈ r.pending ∧ h.hintId ≠ taken.1.hintId := by
      rw [pending]
      intro h mem
      obtain ⟨i,held⟩ := List.mem_iff_getElem?.mp mem
      rw [List.getElem?_modify] at held
      by_cases here : taken.2 = i
      · subst here
        rw [placed] at held
        exact .inl (Option.some.inj (by simpa using held)).symm
      · simp only [if_neg here,id_map'] at held
        refine .inr ⟨List.mem_of_getElem? held,fun same => here ?_⟩
        have ids := ok.kept.nodup ok.once
        have left : (r.pending.map PendingTradeHint.hintId)[taken.2]? = some h.hintId := by
          rw [List.getElem?_map,placed,Option.map_some,same]
        have right : (r.pending.map PendingTradeHint.hintId)[i]? = some h.hintId := by
          rw [List.getElem?_map,held,Option.map_some]
        exact (List.getElem?_inj (List.getElem?_eq_some_iff.mp left).1 ids).mp (left.trans right.symm)
    have unconfirmed : ∀ earlier ∈ confirmations log, earlier.2 ≠ taken.1.hintId := by
      intro earlier settled same
      rw [ok.confirmed earlier settled taken.1 there same.symm] at waiting
      cases waiting
    refine ⟨⟨(oneToOneConfirmed entry quiet).mpr
      ⟨ok.oneToOne,fun earlier settled => ?_,ok.expired _ there⟩,?_,?_,?_⟩,
      ?_,?_,?_,?_⟩
    · exact iff_of_false (fun same => unplayed (same ▸ (ok.sources earlier settled).1))
        (unconfirmed earlier settled)
    · rw [confirmed]
      intro c settled h mem same
      rcases places h mem with rfl | ⟨old,other⟩
      · rfl
      · rcases List.mem_append.mp settled with settled | settled
        · exact ok.confirmed c settled h old same
        · rw [List.mem_singleton.mp settled] at same
          exact absurd same other
    · rw [expired]
      intro h mem
      rcases places h mem with rfl | ⟨old,_⟩
      · exact ok.expired taken.1 there
      · exact ok.expired h old
    · rw [ids,expired,sameIds]
      exact ok.recent
    · rw [ids]
      exact ok.once
    · rw [ids,sameIds]
      exact ok.kept
    · rw [confirmed,ids]
      intro c settled
      rcases List.mem_append.mp settled with settled | settled
      · exact ⟨fills _ (ok.sources c settled).1,(ok.sources c settled).2⟩
      · rw [List.mem_singleton.mp settled]
        exact ⟨now,ok.kept.subset (List.mem_map_of_mem there)⟩
    · rw [expired,ids]
      exact ok.gone

theorem expireEntry (config : ChainConfirmConfig) (r : FillReconciler) (nowNs) :
    confirmations [(.expireUnmatched nowNs,(expireUnmatched config r nowNs).2)] = [] ∧
    expiries [(.expireUnmatched nowNs,(expireUnmatched config r nowNs).2)] =
      (r.pending.filter (overdue config nowNs)).map PendingTradeHint.hintId := by
  rw [List.map_eq_flatMap]
  simp [confirmations,expiries,expireUnmatched,baseResultFromHint,List.flatMap_map]

theorem trackedExpire {config r log nowNs} (ok : Tracked r log) :
    Tracked (expireUnmatched config r nowNs).1
      (log ++ [(.expireUnmatched nowNs,(expireUnmatched config r nowNs).2)]) := by
  obtain ⟨quiet,late⟩ := expireEntry config r nowNs
  have confirmed : confirmations
    (log ++ [(.expireUnmatched nowNs,(expireUnmatched config r nowNs).2)]) = confirmations log := by
    rw [confirmationsAppend,quiet,List.append_nil]
  have expired : ∀ id, id ∈ expiries (log ++ [(.expireUnmatched nowNs,(expireUnmatched config r nowNs).2)]) ↔
      id ∈ expiries log ∨ ∃ hint ∈ r.pending, overdue config nowNs hint = true ∧ hint.hintId = id := by
    intro id
    rw [expiriesAppend,late,List.mem_append,List.mem_map]
    simp only [List.mem_filter,and_assoc]
  have ids : hintIds (log ++ [(.expireUnmatched nowNs,(expireUnmatched config r nowNs).2)]) = hintIds log :=
    (hintIdsAppend ..).trans (List.append_nil _)
  have fills : fillsInPlay (log ++ [(.expireUnmatched nowNs,(expireUnmatched config r nowNs).2)]) =
    fillsInPlay log :=
    (fillsAppend ..).trans (List.append_nil _)
  have left : ∀ hint, hint ∈ (expireUnmatched config r nowNs).1.pending ↔
      hint ∈ r.pending ∧ overdue config nowNs hint = false := by
    intro hint
    rw [← Bool.not_eq_true',← List.mem_filter (p := fun hint => !overdue config nowNs hint)]
    rfl
  refine ⟨⟨?_,?_,?_,?_⟩,?_,?_,?_,?_⟩
  · refine (oneToOneExpired quiet).mpr ⟨ok.oneToOne,?_⟩
    rw [late]
    intro id mem earlier settled same
    obtain ⟨hint,kept,rfl⟩ := List.mem_map.mp mem
    obtain ⟨there,late⟩ := List.mem_filter.mp kept
    unfold overdue at late
    simp only [decide_eq_true_eq] at late
    rw [ok.confirmed earlier settled hint there same.symm] at late
    cases late.1
  · rw [confirmed]
    exact fun c settled hint mem => ok.confirmed c settled hint ((left hint).mp mem).1
  · intro hint mem settled
    obtain ⟨there,waits⟩ := (left hint).mp mem
    rcases (expired _).mp settled with old | ⟨other,here,late,same⟩
    · exact ok.expired hint there old
    · rw [ok.same here there same,waits] at late
      cases late
  · rw [ids]
    intro id recent
    rcases ok.recent id recent with here | old
    · obtain ⟨hint,there,rfl⟩ := List.mem_map.mp here
      cases late : overdue config nowNs hint with
      | true => exact .inr ((expired _).mpr (.inr ⟨hint,there,late,rfl⟩))
      | false => exact .inl (List.mem_map_of_mem ((left hint).mpr ⟨there,late⟩))
    · exact .inr ((expired _).mpr (.inl old))
  · rw [ids]
    exact ok.once
  · rw [ids]
    exact (List.filter_sublist.map _).trans ok.kept
  · rw [confirmed,ids,fills]
    exact ok.sources
  · rw [ids]
    intro id settled
    rcases (expired id).mp settled with old | ⟨hint,there,_,rfl⟩
    · exact ok.gone id old
    · exact ok.kept.subset (List.mem_map_of_mem there)

theorem trackedStep {sorter config} (r log op) (ok : Tracked r log) (distinct : Distinct config r log op) :
    Tracked (reconcilerStep sorter config r op).1 (log ++ [(op,(reconcilerStep sorter config r op).2)]) := by
  cases op with
  | onWsHint hint => exact trackedHint ok distinct
  | onChainFill fill => exact trackedFill ok distinct
  | expireUnmatched nowNs => exact trackedExpire ok

theorem confirmsIff (sorter config r op) : ConfirmsItsMatch sorter config r op ↔ Uncut config r op := by
  cases op with
  | onWsHint hint => exact Iff.rfl
  | onChainFill fill => exact confirmsItsMatchIff sorter config r fill
  | expireUnmatched nowNs => exact Iff.rfl

def runReconciler (sorter : Sorter (PendingTradeHint × Nat)) (config : ChainConfirmConfig)
    (store : Option ConfirmedFillStore) (ops : List ReconcilerOp) : FillReconciler × ReconcilerLog :=
  Machine.run (reconcilerStep sorter config) {confirmedStore := store} [] ops

-- From an empty ring, over any order of hints, fills and expiries.
theorem reconciliationOneToOneIff (sorter : Sorter (PendingTradeHint × Nat)) (config : ChainConfirmConfig)
    (store : Option ConfirmedFillStore) (ops : List ReconcilerOp)
    (distinct : Machine.Along (reconcilerStep sorter config) (Distinct config) {confirmedStore := store} [] ops) :
    (Machine.Along (reconcilerStep sorter config) (fun r _ op => ConfirmsItsMatch sorter config r op)
        {confirmedStore := store} [] ops ∧ OneToOne (runReconciler sorter config store ops).2 ↔
      Machine.Along (reconcilerStep sorter config) (fun r _ op => Uncut config r op)
        {confirmedStore := store} [] ops) ∧
    Settled (runReconciler sorter config store ops).1 (runReconciler sorter config store ops).2 := by
  have tracked : Tracked (runReconciler sorter config store ops).1 (runReconciler sorter config store ops).2 :=
    Machine.invariantAlong trackedStep (trackedEmpty store) distinct
  have same : Machine.Along (reconcilerStep sorter config) (fun r _ op => ConfirmsItsMatch sorter config r op)
        {confirmedStore := store} [] ops ↔
      Machine.Along (reconcilerStep sorter config) (fun r _ op => Uncut config r op)
        {confirmedStore := store} [] ops :=
    Machine.alongUnder (P := fun _ _ => True) (fun op _ r _ _ => confirmsIff sorter config r op)
      (fun _ _ _ _ _ _ => trivial) trivial
  exact ⟨⟨fun h => same.mp h.1,fun h => ⟨same.mpr h,tracked.oneToOne⟩⟩,tracked.toSettled⟩

def secondHint (hintId : UInt64) (recvNs : Nat) : PendingTradeHint :=
  {hintId, marketId := "market-a", assetId := "asset-a", priceTick := 500000, sizeLots := 1000,
    wsRecvMonotonicNs := recvNs}
def chainFill : ConfirmedFill :=
  { fillId := "0xtx:1"
    marketId := "market-a"
    assetId := "asset-a"
    priceTick := 500000
    sizeLots := 1000
    direction := .buyAggressor
    mappingStatus := .mapped
    blockNumber := 100
    txHash := "0xtx"
    logIndex := 1
    chainSeenMonotonicNs := 1200 }

def racedFeeds : List ReconcilerOp :=
  [.onWsHint (secondHint 1 1000),.onChainFill chainFill,.onWsHint (secondHint 2 1300),
    .onChainFill {chainFill with removed := true},.expireUnmatched 10000001301]
theorem racedFeedsOneToOne : OneToOne (runReconciler Sorting.stable {} (some fun _ => none) racedFeeds).2 :=
  ((reconciliationOneToOneIff Sorting.stable {} (some fun _ => none) racedFeeds (by decide +kernel)).1.mpr
    (by decide +kernel)).2

-- The log is delivered twice; the second delivery takes the second hint.
theorem redeliveredFillConfirmsTwice :
    confirmations (runReconciler Sorting.stable {} (some fun _ => none)
      [.onWsHint (secondHint 1 1000),.onChainFill chainFill,.onWsHint
        (secondHint 2 1300),.onChainFill chainFill]).2 =
        [("0xtx:1",1),("0xtx:1",2)] ∧
    ¬ OneToOne (runReconciler Sorting.stable {} (some fun _ => none)
      [.onWsHint (secondHint 1 1000),.onChainFill chainFill,.onWsHint
        (secondHint 2 1300),.onChainFill chainFill]).2 := by
  decide +kernel

end Polytope.FillReconciliation
