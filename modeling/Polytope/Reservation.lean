import Polytope.RiskTypes
import Polytope.Tally
import Polytope.Machine

/-! Reservations and the ledgers that count them. A reservation copies the intent's cost
and, when detail is tracked, its lots per asset and exposure per market; the exposure and
inventory ledgers add it up on approval and take it off when it is released or expires.
Interned string pointers are the strings themselves; an empty string is the null pointer. -/
namespace Polytope.Reservation
open Intent (OpportunityIntent IntentLeg)
open RiskTypes Tally

def kMaxReservedLegs : Nat := 16

inductive ReservationStatus where | active | released | expired | consumed
  deriving DecidableEq, Repr

structure ReservedFigure where
  index : UInt32
  id : String
  amount : Int
  deriving DecidableEq, Repr

structure RiskReservation where
  reservationId : Nat := 0
  intentId : UInt64 := 0
  bundleId : UInt64 := 0
  idempotencyHash : UInt64 := 0
  reservedCostTick : Int := 0
  reservedExposureTick : Int := 0
  assets : List ReservedFigure := []
  markets : List ReservedFigure := []
  createdTsNs : Nat := 0
  expiresAtNs : Nat := 0
  status : ReservationStatus := .active
  ledgerReserved : Bool := false
  idempotencyKey : String := ""
  deriving DecidableEq, Repr

structure ReservationResult where
  ok : Bool := false
  rejectReason : RiskRejectReason := .notEvaluated
  detail : String := ""
  reservationId : Nat := 0
  deriving DecidableEq, Repr

structure ReservationKey where
  idempotencyHash : UInt64
  bundleId : UInt64
  deriving DecidableEq, Repr

def isActive (r : RiskReservation) : Bool := r.status = .active
def amounts (figures : List ReservedFigure) : List (String × Int) := figures.map fun f => (f.id,f.amount)
def keyOf (r : RiskReservation) : ReservationKey := ⟨r.idempotencyHash,r.bundleId⟩

structure ExposureLedger where
  totalReservedCostTick : Int := 0
  totalReservedExposureTick : Int := 0
  marketReservedExposureTick : Totals String := ∅
  deriving DecidableEq
def ExposureLedger.reserve (l : ExposureLedger) (r : RiskReservation) : ExposureLedger :=
  ⟨l.totalReservedCostTick + r.reservedCostTick,l.totalReservedExposureTick + r.reservedExposureTick,
    creditAll l.marketReservedExposureTick (amounts r.markets)⟩
def ExposureLedger.release (l : ExposureLedger) (r : RiskReservation) : ExposureLedger :=
  ⟨l.totalReservedCostTick - r.reservedCostTick,l.totalReservedExposureTick - r.reservedExposureTick,
    debitAll l.marketReservedExposureTick (amounts r.markets)⟩

structure InventoryLedger where
  assetReservedLots : Totals String := ∅
  deriving DecidableEq
def InventoryLedger.reserve (l : InventoryLedger) (r : RiskReservation) : InventoryLedger :=
  ⟨creditAll l.assetReservedLots (amounts r.assets)⟩
def InventoryLedger.release (l : InventoryLedger) (r : RiskReservation) : InventoryLedger :=
  ⟨debitAll l.assetReservedLots (amounts r.assets)⟩

structure RiskLedger where
  exposure : ExposureLedger := {}
  inventory : InventoryLedger := {}
  deriving DecidableEq
def RiskLedger.reserve (l : RiskLedger) (r : RiskReservation) : RiskLedger :=
  ⟨l.exposure.reserve r,l.inventory.reserve r⟩
def RiskLedger.release (l : RiskLedger) (r : RiskReservation) : RiskLedger :=
  ⟨l.exposure.release r,l.inventory.release r⟩

structure RiskLedgerSnapshot where
  activeReservations : Nat := 0
  releasedReservations : Nat := 0
  expiredReservations : Nat := 0
  consumedReservations : Nat := 0
  totalReservedCostTick : Int := 0
  totalReservedExposureTick : Int := 0
  reservedAssetLots : Totals String := ∅
  reservedMarketExposureTick : Totals String := ∅
  numericReservedAssetLots : List (UInt32 × Int) := []
  numericReservedMarketExposure : List (UInt32 × Int) := []
  deriving DecidableEq
def RiskLedger.snapshot (l : RiskLedger) : RiskLedgerSnapshot :=
  { totalReservedCostTick := l.exposure.totalReservedCostTick
    totalReservedExposureTick := l.exposure.totalReservedExposureTick
    reservedMarketExposureTick := l.exposure.marketReservedExposureTick
    reservedAssetLots := l.inventory.assetReservedLots }

structure ReservationBook where
  nextReservationId : Nat := 1
  reservations : List RiskReservation := []
  activeReservationKeys : AList (fun _ : ReservationKey => Nat) := ∅
  ledger : RiskLedger := {}
  deriving DecidableEq

def compactIndex (value : String) : UInt32 :=
  let hash := Fnv.hashString value
  ((hash >>> 32) ^^^ (hash &&& 0xffffffff)).toUInt32
def reservationKeyFor (i : OpportunityIntent) : ReservationKey :=
  ⟨if i.idempotencyHash ≠ 0 then i.idempotencyHash else Fnv.hashString i.idempotencyKey,i.bundleId⟩

def updateFirst {α : Type} (hit : α → Bool) (update : α → α) : List α → Option (List α)
  | [] => none
  | x::rest => if hit x then some (update x::rest) else (updateFirst hit update rest).map (x::·)

-- The common body of add_asset_lot and add_market_exposure: an amount is added to the
-- entry with this id, or a new entry is appended while the array has room for it.
def addFigure (figures : List ReservedFigure) (id : String) (amount : Int) : List ReservedFigure :=
  if id = "" ∨ amount = 0 then figures else
    match updateFirst (·.id = id) (fun f => {f with amount := f.amount + amount}) figures with
    | some out => out
    | none => if kMaxReservedLegs ≤ figures.length then figures
        else figures ++ [⟨compactIndex id,id,amount⟩]
def addAssetLot (assets : List ReservedFigure) (leg : IntentLeg) : List ReservedFigure :=
  addFigure assets leg.assetId leg.quantityLots
def addMarketExposure (markets : List ReservedFigure) (leg : IntentLeg) : List ReservedFigure :=
  addFigure markets leg.marketId (max leg.estimatedCostTick 0)

def buildReservation (i : OpportunityIntent) (nowNs : Nat) (trackLedgerDetail : Bool) : RiskReservation :=
  { intentId := i.intentId
    bundleId := i.bundleId
    reservedCostTick := i.estimatedCostTick
    reservedExposureTick := max i.estimatedCostTick 0
    createdTsNs := nowNs
    expiresAtNs := i.expiresAtNs
    idempotencyKey := i.idempotencyKey
    idempotencyHash := (reservationKeyFor i).idempotencyHash
    assets := if trackLedgerDetail then i.legs.foldl addAssetLot [] else []
    markets := if trackLedgerDetail then i.legs.foldl addMarketExposure [] else [] }

def reject (reason : RiskRejectReason) (detail : String) : ReservationResult :=
  {ok := false, rejectReason := reason, detail}
def accept (reservationId : Nat) : ReservationResult := {ok := true, rejectReason := .none, reservationId}

def storedReservation (b : ReservationBook) (i : OpportunityIntent) (nowNs : Nat) (track : Bool) :
    RiskReservation :=
  {buildReservation i nowNs track with reservationId := b.nextReservationId, ledgerReserved := true}

def tryReserve (b : ReservationBook) (i : OpportunityIntent) (d : RiskDecision) (nowNs : Nat)
    (trackLedgerDetail : Bool) : ReservationBook × ReservationResult :=
  if d.approved = false then (b,reject .notEvaluated "reservation requires approved risk decision")
  else if i.idempotencyHash = 0 ∧ i.idempotencyKey = "" then
    (b,reject .missingEvidence "reservation requires idempotency evidence")
  else if (reservationKeyFor i).idempotencyHash = 0 then
    (b,reject .missingEvidence "reservation requires idempotency_hash")
  else if i.expiresAtNs ≤ nowNs then (b,reject .expiredIntent "intent expired")
  else if reservationKeyFor i ∈ b.activeReservationKeys then
    (b,reject .duplicateReservation "active reservation already exists for idempotency_hash")
  else
    let r := storedReservation b i nowNs trackLedgerDetail
    ({ nextReservationId := b.nextReservationId + 1
       reservations := b.reservations ++ [r]
       activeReservationKeys := b.activeReservationKeys.insert (reservationKeyFor i) b.nextReservationId
       ledger := b.ledger.reserve r },accept b.nextReservationId)

def findReservation (b : ReservationBook) (id : Nat) : Option RiskReservation :=
  if id = 0 then none else
    match b.reservations[id - 1]? with
    | none => none
    | some r => if r.reservationId = id then some r else none

def finish (b : ReservationBook) (index : Nat) (r : RiskReservation) (status : ReservationStatus) :
    ReservationBook :=
  {b with
    ledger := if r.ledgerReserved then b.ledger.release r else b.ledger
    activeReservationKeys := b.activeReservationKeys.erase (keyOf r)
    reservations := b.reservations.set index {r with status, ledgerReserved := false}}

def release (b : ReservationBook) (id : Nat) : ReservationBook :=
  match findReservation b id with
  | none => b
  | some r => if isActive r then finish b (id - 1) r .released else b

def expireAt (nowNs : Nat) (b : ReservationBook) (index : Nat) : ReservationBook :=
  match b.reservations[index]? with
  | none => b
  | some r => if isActive r = false ∨ nowNs < r.expiresAtNs then b else finish b index r .expired
def expireOld (b : ReservationBook) (nowNs : Nat) : ReservationBook :=
  (List.range b.reservations.length).foldl (expireAt nowNs) b

-- Numeric figures by compact index, first come first served up to the array bound.
def addNumeric (figures : List (UInt32 × Int)) (f : ReservedFigure) : List (UInt32 × Int) :=
  match updateFirst (·.1 = f.index) (fun x => (x.1,x.2 + f.amount)) figures with
  | some out => out
  | none => if figures.length < kMaxReservedLegs then figures ++ [(f.index,f.amount)] else figures
def countReservation (out : RiskLedgerSnapshot) (r : RiskReservation) : RiskLedgerSnapshot :=
  match r.status with
  | .active =>
    {out with
      activeReservations := out.activeReservations + 1
      numericReservedAssetLots := r.assets.foldl addNumeric out.numericReservedAssetLots
      numericReservedMarketExposure := r.markets.foldl addNumeric out.numericReservedMarketExposure}
  | .released => {out with releasedReservations := out.releasedReservations + 1}
  | .expired => {out with expiredReservations := out.expiredReservations + 1}
  | .consumed => {out with consumedReservations := out.consumedReservations + 1}
def snapshot (b : ReservationBook) : RiskLedgerSnapshot :=
  b.reservations.foldl countReservation b.ledger.snapshot

end Polytope.Reservation
