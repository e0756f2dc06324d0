import Polytope.ReservationLedger

/-! Caps over the active reservations. An amount is granted to a reservation when it is made,
while the ledger adds up another amount, the one the reservation books. A check of the ledger
plus the new grant against a cap bounds the sum of the grants as long as no grant exceeds what
its reservation books. -/
namespace Polytope.ReservationCaps
open Intent (OpportunityIntent IntentLeg kMaxIntentLegs)
open RiskTypes Tally Reservation ReservationLedger

abbrev Grants := List (Nat × Int)
def granted (grants : Grants) (id : Nat) : Int := (grants.lookup id).getD 0
def grantedSum (grants : Grants) (rs : List RiskReservation) : Int :=
  activeSum (fun r => granted grants r.reservationId) rs
-- Negative grants count as zero.
def chargedSum (grants : Grants) (rs : List RiskReservation) : Int :=
  activeSum (fun r => max (granted grants r.reservationId) 0) rs

theorem grantedLeCharged (grants rs) : grantedSum grants rs ≤ chargedSum grants rs :=
  activeSumMono fun _ _ _ => le_max_left _ _

theorem grantedFresh {grants : Grants} {id v} (fresh : ∀ g ∈ grants, g.1 ≠ id) :
    granted (grants ++ [(id,v)]) id = v := by
  have none : grants.lookup id = none := by
    rw [List.lookup_eq_none_iff]
    intro g mem
    simpa using (fresh g mem).symm
  simp [granted,List.lookup_append,none]
theorem grantedOld {grants : Grants} {id v k} (other : k ≠ id) :
    granted (grants ++ [(id,v)]) k = granted grants k := by
  have apart : (k == id) = false := by simpa using other
  simp [granted,List.lookup_append,List.lookup_cons,apart]

structure CapHeld (booked : RiskReservation → Int) (cap : Int) (b : ReservationBook) (grants : Grants) : Prop where
  ids : ∀ g ∈ grants, g.1 ≤ b.reservations.length
  covered : ∀ r ∈ b.reservations, isActive r = true → max (granted grants r.reservationId) 0 ≤ booked r
  capped : chargedSum grants b.reservations ≤ cap

section Rule
variable {booked : RiskReservation → Int} {cap : Int}

theorem capInitial (nonneg : 0 ≤ cap) : CapHeld booked cap {} [] := ⟨by simp,by simp,nonneg⟩

theorem capFinish {grants} (b i r status) (held : CapHeld booked cap b grants) (here : b.reservations[i]? = some r)
    (active : isActive r = true) (done : status ≠ .active) : CapHeld booked cap (finish b i r status) grants := by
  have ended : isActive {r with status, ledgerReserved := false} = false := by simp [isActive,done]
  refine ⟨?_,?_,?_⟩
  · intro g mem
    simpa [finish] using held.ids g mem
  · intro s mem live
    rcases finishMember mem with old | rfl
    · exact held.covered s old live
    · rw [ended] at live
      cases live
  · have less : chargedSum grants (finish b i r status).reservations =
        chargedSum grants b.reservations - max (granted grants r.reservationId) 0 := activeSumSet here active ended
    have capped := held.capped
    omega

theorem capReserve {b b' : ReservationBook} {grants stored v} (ok : Consistent b)
    (held : CapHeld booked cap b grants)
    (appended : b'.reservations = b.reservations ++ [stored])
    (id : stored.reservationId = b.reservations.length + 1)
    (active : isActive stored = true) (within : max v 0 ≤ booked stored)
    (checked : v ≤ 0 ∨ activeSum booked b.reservations + max v 0 ≤ cap) :
    CapHeld booked cap b' (grants ++ [(stored.reservationId,v)]) := by
  have small : ∀ r ∈ b.reservations, r.reservationId ≠ stored.reservationId := by
    intro r mem
    obtain ⟨i,here⟩ := List.mem_iff_getElem?.mp mem
    have own := ok.ids i r here
    have inside := (List.getElem?_eq_some_iff.mp here).1
    omega
  have same : ∀ r ∈ b.reservations,
      granted (grants ++ [(stored.reservationId,v)]) r.reservationId = granted grants r.reservationId :=
    fun r mem => grantedOld (small r mem)
  have new : granted (grants ++ [(stored.reservationId,v)]) stored.reservationId = v := by
    refine grantedFresh fun g mem => ?_
    have := held.ids g mem
    omega
  refine ⟨?_,?_,?_⟩
  · intro g mem
    rw [appended,List.length_append,List.length_singleton]
    rcases List.mem_append.mp mem with old | last
    · have := held.ids g old
      omega
    · cases List.mem_singleton.mp last
      exact le_of_eq id
  · intro r mem live
    rw [appended] at mem
    rcases List.mem_append.mp mem with old | last
    · rw [same r old]
      exact held.covered r old live
    · cases List.mem_singleton.mp last
      rw [new]
      exact within
  · have before : chargedSum
      (grants ++ [(stored.reservationId,v)]) b.reservations ≤ chargedSum grants b.reservations :=
      activeSumMono fun r mem _ => by rw [same r mem]
    have below : chargedSum grants b.reservations ≤ activeSum booked b.reservations := activeSumMono held.covered
    have capped := held.capped
    rw [appended,chargedSum,activeSumAppend,if_pos active,new]
    change chargedSum (grants ++ [(stored.reservationId,v)]) b.reservations + max v 0 ≤ cap
    rcases checked with empty | room
    · rw [max_eq_right empty]
      omega
    · omega

end Rule

/-! The amounts a reservation books, leg by leg. At most sixteen legs never fill the array. -/

def legSum (key : IntentLeg → String) (amount : IntentLeg → Int) (legs : List IntentLeg) (k : String) : Int :=
  (legs.map fun leg => if key leg = k then amount leg else 0).sum

theorem legSumCons (key amount leg legs k) :
    legSum key amount (leg::legs) k = (if key leg = k then amount leg else 0) + legSum key amount legs k := by
  simp [legSum]
theorem legSumNonneg {key amount legs} (nonneg : ∀ leg ∈ legs, 0 ≤ amount leg) (k) :
    0 ≤ legSum key amount legs k := by
  induction legs with
  | nil => simp [legSum]
  | cons leg rest ih =>
    have head := nonneg leg List.mem_cons_self
    have later := ih fun x mem => nonneg x (List.mem_cons_of_mem leg mem)
    rw [legSumCons]
    split <;> omega
theorem legSumMono {key amount amount' legs} (le : ∀ leg ∈ legs, amount leg ≤ amount' leg) (k) :
    legSum key amount legs k ≤ legSum key amount' legs k := by
  induction legs with
  | nil => simp [legSum]
  | cons leg rest ih =>
    have head := le leg List.mem_cons_self
    have later := ih fun x mem => le x (List.mem_cons_of_mem leg mem)
    rw [legSumCons,legSumCons]
    split <;> omega

theorem updateFirstAmount {figures : List ReservedFigure} {id amount out}
    (h : updateFirst (fun f => decide (f.id = id))
      (fun f => {f with amount := f.amount + amount}) figures = some out) (k) :
    out.length = figures.length ∧ total (amounts out) k = total (amounts figures) k + if id = k then
        amount
      else 0 := by
  induction figures generalizing out with
  | nil => simp [updateFirst] at h
  | cons f rest ih =>
    unfold updateFirst at h
    split at h
    · next here =>
      cases Option.some.inj h
      have here : f.id = id := of_decide_eq_true here
      subst here
      simp only [amounts,List.map_cons,totalCons,List.length_cons,true_and]
      split <;> omega
    · obtain ⟨later,found,rfl⟩ := Option.map_eq_some_iff.mp h
      obtain ⟨length,sum⟩ := ih found
      simp only [amounts,List.map_cons,totalCons,List.length_cons] at sum ⊢
      exact ⟨by omega,by omega⟩

theorem addFigureTotal {k} (figures id amount) (room : figures.length < kMaxReservedLegs) (named : k ≠ "") :
    (addFigure figures id amount).length ≤ figures.length + 1 ∧
    total (amounts (addFigure figures id amount)) k = total (amounts figures) k + if id = k then
        amount
      else 0 := by
  unfold addFigure
  split
  · next skipped =>
    refine ⟨Nat.le_succ _,?_⟩
    rcases skipped with rfl | rfl
    · rw [if_neg named.symm,Int.add_zero]
    · simp
  · split
    · next out found =>
      obtain ⟨length,sum⟩ := updateFirstAmount found k
      exact ⟨by omega,sum⟩
    · rw [if_neg (by omega)]
      refine ⟨by simp,?_⟩
      simp [amounts,total]

theorem foldFigureTotal (key : IntentLeg → String) (amount : IntentLeg → Int) {k} (named : k ≠ "")
    (legs : List IntentLeg) (figures : List ReservedFigure)
    (room : figures.length + legs.length ≤ kMaxReservedLegs) :
    total (amounts (legs.foldl (fun out leg => addFigure out (key leg) (amount leg)) figures)) k =
      total (amounts figures) k + legSum key amount legs k := by
  induction legs generalizing figures with
  | nil => simp [legSum]
  | cons leg rest ih =>
    rw [List.length_cons] at room
    obtain ⟨length,sum⟩ := addFigureTotal figures (key leg) (amount leg) (by omega) named
    rw [List.foldl_cons,ih _ (by omega),sum,legSumCons,Int.add_assoc]

theorem bookedAssets {i : OpportunityIntent} {a} (nowNs) (few : i.legs.length ≤ kMaxIntentLegs) (named : a ≠ "") :
    total (amounts (buildReservation i nowNs true).assets) a = legSum (·.assetId) (·.quantityLots) i.legs a := by
  have sum := foldFigureTotal (·.assetId) (·.quantityLots) named i.legs []
    (by simpa [kMaxReservedLegs,kMaxIntentLegs] using few)
  exact sum.trans (Int.zero_add _)
theorem bookedMarkets {i : OpportunityIntent} {m} (nowNs) (few : i.legs.length ≤ kMaxIntentLegs) (named : m ≠ "") :
    total (amounts (buildReservation i nowNs true).markets) m =
      legSum (·.marketId) (fun leg => max leg.estimatedCostTick 0) i.legs m := by
  have sum := foldFigureTotal (·.marketId) (fun leg => max leg.estimatedCostTick 0) named i.legs []
    (by simpa [kMaxReservedLegs,kMaxIntentLegs] using few)
  exact sum.trans (Int.zero_add _)

/-! The snapshot the guards read is the ledger itself. -/

theorem countKeepsFigures (rs : List RiskReservation) (out : RiskLedgerSnapshot) :
    (rs.foldl countReservation out).totalReservedExposureTick = out.totalReservedExposureTick ∧
    (rs.foldl countReservation out).reservedMarketExposureTick = out.reservedMarketExposureTick ∧
    (rs.foldl countReservation out).reservedAssetLots = out.reservedAssetLots := by
  induction rs generalizing out with
  | nil => exact ⟨rfl,rfl,rfl⟩
  | cons r rest ih =>
    obtain ⟨total,markets,assets⟩ := ih (countReservation out r)
    rw [List.foldl_cons,total,markets,assets]
    unfold countReservation
    split <;> exact ⟨rfl,rfl,rfl⟩

theorem snapshotFigures {b} (ok : Consistent b) :
    (snapshot b).totalReservedExposureTick = activeSum (·.reservedExposureTick) b.reservations ∧
    (∀ m, figure (snapshot b).reservedMarketExposureTick m =
      activeSum (fun r => total (amounts r.markets) m) b.reservations) ∧
    (∀ a, AssetConsistent a b → figure (snapshot b).reservedAssetLots a =
      activeSum (fun r => total (amounts r.assets) a) b.reservations) := by
  obtain ⟨exposure,markets,assets⟩ := countKeepsFigures b.reservations b.ledger.snapshot
  refine ⟨exposure.trans ok.exposure,fun m => ?_,fun a fine => ?_⟩
  · rw [snapshot,markets]
    exact ok.market m
  · rw [snapshot,assets]
    exact fine.lots

end Polytope.ReservationCaps
