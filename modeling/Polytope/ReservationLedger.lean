import Polytope.Reservation

/-! What the reservation book keeps consistent over every sequence of reserve, release and
expiry: ids are positions, the key map lists exactly the active reservations, and the
ledger figures are the sums over exactly the active reservations. A ledger entry is
dropped when it reaches zero, so a figure per asset is exact only while no negative
lots are booked for that asset; exposures are clipped at zero and need no condition. -/
namespace Polytope.ReservationLedger
open Intent (OpportunityIntent IntentLeg)
open RiskTypes Tally Reservation

def activeSum (f : RiskReservation → Int) (rs : List RiskReservation) : Int :=
  (rs.map fun r => if isActive r then f r else 0).sum

@[simp] theorem activeSumNil (f) : activeSum f [] = 0 := rfl
@[simp] theorem activeSumCons (f r rs) :
    activeSum f (r::rs) = (if isActive r then f r else 0) + activeSum f rs := by
  simp [activeSum]
theorem activeSumAppend (f rs r) :
    activeSum f (rs ++ [r]) = activeSum f rs + if isActive r then f r else 0 := by
  simp [activeSum]

theorem activeSumInactive {f rs} (idle : ∀ r ∈ rs, isActive r = false) : activeSum f rs = 0 := by
  induction rs with
  | nil => rfl
  | cons r rest ih =>
    rw [activeSumCons,idle r List.mem_cons_self,ih fun s mem => idle s (List.mem_cons_of_mem r mem)]
    rfl

theorem activeSumNonneg {f rs} (nonneg : ∀ r ∈ rs, 0 ≤ f r) : 0 ≤ activeSum f rs := by
  induction rs with
  | nil => simp
  | cons r rest ih =>
    have head := nonneg r List.mem_cons_self
    have later := ih fun s mem => nonneg s (List.mem_cons_of_mem r mem)
    rw [activeSumCons]
    split <;> omega

theorem activeSumMono {f g : RiskReservation → Int} {rs}
    (le : ∀ r ∈ rs, isActive r = true → f r ≤ g r) : activeSum f rs ≤ activeSum g rs := by
  induction rs with
  | nil => simp
  | cons r rest ih =>
    have head := le r List.mem_cons_self
    have later := ih fun s mem => le s (List.mem_cons_of_mem r mem)
    rw [activeSumCons,activeSumCons]
    split
    · next active =>
      have := head active
      omega
    · omega

theorem activeSumMember {f rs} {i : Nat} {r} (nonneg : ∀ r ∈ rs, 0 ≤ f r) (here : rs[i]? = some r)
    (active : isActive r = true) : f r ≤ activeSum f rs := by
  induction rs generalizing i with
  | nil => simp at here
  | cons s rest ih =>
    have head := nonneg s List.mem_cons_self
    have tail := fun x mem => nonneg x (List.mem_cons_of_mem s mem)
    rw [activeSumCons]
    cases i with
    | zero =>
      cases Option.some.inj here
      have later := activeSumNonneg tail
      simp only [active,if_true]
      omega
    | succ i =>
      have later := ih tail (by simpa using here)
      split <;> omega

theorem activeSumSet {f rs} {i : Nat} {r r'} (here : rs[i]? = some r) (active : isActive r = true)
    (done : isActive r' = false) : activeSum f (rs.set i r') = activeSum f rs - f r := by
  induction rs generalizing i with
  | nil => simp at here
  | cons s rest ih =>
    cases i with
    | zero =>
      cases Option.some.inj here
      simp [active,done]
    | succ i =>
      have later := ih (by simpa using here)
      simp only [List.set_cons_succ,activeSumCons,later]
      omega

structure Consistent (b : ReservationBook) : Prop where
  nextId : b.nextReservationId = b.reservations.length + 1
  ids : ∀ i r, b.reservations[i]? = some r → r.reservationId = i + 1
  counted : ∀ r ∈ b.reservations, r.ledgerReserved = isActive r
  keys : ∀ k id, b.activeReservationKeys.lookup k = some id ↔
    ∃ r, findReservation b id = some r ∧ isActive r = true ∧ keyOf r = k
  cost : b.ledger.exposure.totalReservedCostTick = activeSum (·.reservedCostTick) b.reservations
  exposure : b.ledger.exposure.totalReservedExposureTick = activeSum (·.reservedExposureTick) b.reservations
  marketNonneg : ∀ r ∈ b.reservations, ∀ f ∈ r.markets, 0 ≤ f.amount
  market : ∀ m, figure b.ledger.exposure.marketReservedExposureTick m =
    activeSum (fun r => total (amounts r.markets) m) b.reservations

structure AssetConsistent (a : String) (b : ReservationBook) : Prop where
  nonneg : ∀ r ∈ b.reservations, ∀ f ∈ r.assets, f.id = a → 0 ≤ f.amount
  lots : figure b.ledger.inventory.assetReservedLots a =
    activeSum (fun r => total (amounts r.assets) a) b.reservations

theorem findByIndex {b : ReservationBook} (ok : Consistent b) {i : Nat} {r} (here : b.reservations[i]? = some r) :
    findReservation b (i + 1) = some r := by
  have id := ok.ids i r here
  simp [findReservation,here,id]
theorem indexOfFind {b : ReservationBook} {id r} (found : findReservation b id = some r) :
    0 < id ∧ b.reservations[id - 1]? = some r ∧ r.reservationId = id := by
  unfold findReservation at found
  split at found
  · contradiction
  · split at found
    · contradiction
    · next s here =>
      split at found
      · next same =>
        cases Option.some.inj found
        exact ⟨by omega,here,same⟩
      · contradiction

theorem initial : Consistent {} := by
  refine ⟨rfl,by simp,by simp,?_,rfl,rfl,by simp,fun m => rfl⟩
  intro k id
  simp [findReservation]
theorem initialAsset (a) : AssetConsistent a {} := ⟨by simp,rfl⟩

/-! Finishing one active reservation, the common step of release and expiry. -/
section Finish
variable {b : ReservationBook} {i : Nat} {r : RiskReservation} {status : ReservationStatus}

theorem finishReservations (ok : Consistent b) (here : b.reservations[i]? = some r) (active : isActive r = true) :
    finish b i r status =
      {b with
        ledger := b.ledger.release r
        activeReservationKeys := b.activeReservationKeys.erase (keyOf r)
        reservations := b.reservations.set i {r with status, ledgerReserved := false}} := by
  have reserved : r.ledgerReserved = true := by
    rw [ok.counted r (List.mem_of_getElem? here),active]
  simp [finish,reserved]

theorem finishFind (here : b.reservations[i]? = some r) (id) :
    findReservation (finish b i r status) id =
      if id = i + 1 then (if r.reservationId = id then some {r with status, ledgerReserved := false} else none)
      else findReservation b id := by
  have inside : i < b.reservations.length := (List.getElem?_eq_some_iff.mp here).1
  by_cases same : id = i + 1
  · subst same
    simp [findReservation,finish,inside]
  · rw [if_neg same]
    unfold findReservation
    by_cases zero : id = 0
    · simp [zero]
    · have apart : i ≠ id - 1 := by omega
      simp [finish,zero,List.getElem?_set_ne apart]

theorem finishMember {s} (mem : s ∈ (finish b i r status).reservations) :
    s ∈ b.reservations ∨ s = {r with status, ledgerReserved := false} :=
  List.mem_or_eq_of_mem_set mem

theorem finishIds (ok : Consistent b) (here : b.reservations[i]? = some r) (j s)
    (there : (finish b i r status).reservations[j]? = some s) : s.reservationId = j + 1 := by
  by_cases same : i = j
  · subst same
    have inside := (List.getElem?_eq_some_iff.mp here).1
    simp only [finish,List.getElem?_set_self inside,Option.some.injEq] at there
    subst there
    exact ok.ids i r here
  · simp only [finish,List.getElem?_set_ne same] at there
    exact ok.ids j s there

theorem finishKeys (ok : Consistent b) (here : b.reservations[i]? = some r) (active : isActive r = true)
    (done : status ≠ .active) (k id) :
    (finish b i r status).activeReservationKeys.lookup k = some id ↔
      ∃ s, findReservation (finish b i r status) id = some s ∧ isActive s = true ∧ keyOf s = k := by
  have mine := (ok.keys (keyOf r) (i + 1)).mpr ⟨r,findByIndex ok here,active,rfl⟩
  have shape : (finish b i r status).activeReservationKeys = b.activeReservationKeys.erase (keyOf r) := rfl
  rw [finishFind here,shape]
  by_cases gone : k = keyOf r
  · -- The key of the finished reservation leaves the map, and no other id carried it.
    subst gone
    rw [AList.lookup_erase]
    constructor
    · intro impossible
      contradiction
    · rintro ⟨s,found,live,key⟩
      split at found
      · split at found
        · cases Option.some.inj found
          simp [isActive,done] at live
        · contradiction
      · next other =>
        have theirs := (ok.keys (keyOf r) id).mpr ⟨s,found,live,key⟩
        rw [mine] at theirs
        exact absurd (Option.some.inj theirs).symm other
  · rw [AList.lookup_erase_ne gone,ok.keys k id]
    constructor
    · rintro ⟨s,found,live,key⟩
      have apart : id ≠ i + 1 := by
        rintro rfl
        rw [findByIndex ok here] at found
        cases Option.some.inj found
        exact gone key.symm
      exact ⟨s,by rw [if_neg apart,found],live,key⟩
    · rintro ⟨s,found,live,key⟩
      split at found
      · split at found
        · cases Option.some.inj found
          simp [isActive,done] at live
        · contradiction
      · exact ⟨s,found,live,key⟩

theorem finishConsistent (ok : Consistent b) (here : b.reservations[i]? = some r) (active : isActive r = true)
    (done : status ≠ .active) : Consistent (finish b i r status) := by
  have ended : isActive {r with status, ledgerReserved := false} = false := by simp [isActive,done]
  have mem := List.mem_of_getElem? here
  have sums := fun f => activeSumSet (f := f) here active ended
  have shape : finish b i r status = _ := finishReservations ok here active
  refine ⟨?_,finishIds ok here,?_,finishKeys ok here active done,?_,?_,?_,?_⟩
  · simpa [finish] using ok.nextId
  · intro s there
    rcases finishMember there with old | rfl
    · exact ok.counted s old
    · exact ended.symm
  · rw [shape]
    simp only [RiskLedger.release,ExposureLedger.release,sums,ok.cost]
  · rw [shape]
    simp only [RiskLedger.release,ExposureLedger.release,sums,ok.exposure]
  · intro s there
    rcases finishMember there with old | rfl
    · exact ok.marketNonneg s old
    · exact ok.marketNonneg r mem
  · intro m
    have nonneg : ∀ s ∈ b.reservations, 0 ≤ total (amounts s.markets) m := by
      intro s smem
      apply totalNonneg
      intro e emem _
      obtain ⟨f,fmem,rfl⟩ := List.mem_map.mp emem
      exact ok.marketNonneg s smem f fmem
    rw [shape]
    simp only [RiskLedger.release,ExposureLedger.release,sums]
    rw [figureDebitAll,ok.market m]
    · intro e emem _
      obtain ⟨f,fmem,rfl⟩ := List.mem_map.mp emem
      exact ok.marketNonneg r mem f fmem
    · rw [ok.market m]
      exact activeSumMember nonneg here active

theorem finishAsset {a} (ok : Consistent b) (fine : AssetConsistent a b) (here : b.reservations[i]? = some r)
    (active : isActive r = true) (done : status ≠ .active) : AssetConsistent a (finish b i r status) := by
  have ended : isActive {r with status, ledgerReserved := false} = false := by simp [isActive,done]
  have mem := List.mem_of_getElem? here
  have nonneg : ∀ s ∈ b.reservations, ∀ e ∈ amounts s.assets, e.1 = a → 0 ≤ e.2 := by
    intro s smem e emem same
    obtain ⟨f,fmem,rfl⟩ := List.mem_map.mp emem
    exact fine.nonneg s smem f fmem same
  constructor
  · intro s there
    rcases finishMember there with old | rfl
    · exact fine.nonneg s old
    · exact fine.nonneg r mem
  · rw [finishReservations ok here active]
    simp only [RiskLedger.release,InventoryLedger.release,activeSumSet here active ended]
    rw [figureDebitAll (nonneg r mem),fine.lots]
    rw [fine.lots]
    exact activeSumMember (fun s smem => totalNonneg (nonneg s smem)) here active

end Finish

/-! Release and expiry only ever finish active reservations, so whatever survives one
finish survives both of them. -/
section Preserves
variable {P : ReservationBook → Prop}
  (step : ∀ b i r status, P b → b.reservations[i]? = some r → isActive r = true → status ≠ .active →
    P (finish b i r status))
include step

theorem releasePreserves {b} (h : P b) (id) : P (release b id) := by
  unfold release
  split
  · exact h
  · next r found =>
    split
    · next active => exact step b (id - 1) r .released h (indexOfFind found).2.1 active (by decide)
    · exact h
theorem expireAtPreserves {b} (h : P b) (nowNs i) : P (expireAt nowNs b i) := by
  unfold expireAt
  split
  · exact h
  · next r here =>
    split
    · exact h
    · next due =>
      rw [not_or,Bool.not_eq_false] at due
      exact step b i r .expired h here due.1 (by decide)
theorem expireOldPreserves {b} (h : P b) (nowNs) : P (expireOld b nowNs) := by
  have loop : ∀ (indices : List Nat) b, P b → P (indices.foldl (expireAt nowNs) b) := by
    intro indices
    induction indices with
    | nil => exact fun _ h => h
    | cons i rest ih => exact fun b h => ih _ (expireAtPreserves step h nowNs i)
  exact loop _ b h

end Preserves

theorem releaseConsistent {b} (ok : Consistent b) (id) : Consistent (release b id) :=
  releasePreserves (fun _ _ _ _ ok => finishConsistent ok) ok id
theorem expireOldConsistent {b} (ok : Consistent b) (nowNs) : Consistent (expireOld b nowNs) :=
  expireOldPreserves (fun _ _ _ _ ok => finishConsistent ok) ok nowNs

theorem finishBoth {a} (b i r status) (both : Consistent b ∧ AssetConsistent a b)
    (here : b.reservations[i]? = some r) (active : isActive r = true) (done : status ≠ .active) :
    Consistent (finish b i r status) ∧ AssetConsistent a (finish b i r status) :=
  ⟨finishConsistent both.1 here active done,finishAsset both.1 both.2 here active done⟩
theorem releaseAsset {b a} (ok : Consistent b) (fine : AssetConsistent a b) (id) :
    AssetConsistent a (release b id) := (releasePreserves finishBoth ⟨ok,fine⟩ id).2
theorem expireOldAsset {b a} (ok : Consistent b) (fine : AssetConsistent a b) (nowNs) :
    AssetConsistent a (expireOld b nowNs) := (expireOldPreserves finishBoth ⟨ok,fine⟩ nowNs).2

/-! Reserving. -/

theorem updateFirstMember {α : Type} {hit : α → Bool} {update : α → α} {xs out y}
    (h : updateFirst hit update xs = some out) (mem : y ∈ out) :
    y ∈ xs ∨ ∃ x ∈ xs, hit x = true ∧ y = update x := by
  induction xs generalizing out with
  | nil => simp [updateFirst] at h
  | cons x rest ih =>
    unfold updateFirst at h
    split at h
    · next here =>
      cases Option.some.inj h
      rcases List.mem_cons.mp mem with rfl | old
      · exact .inr ⟨x,List.mem_cons_self,here,rfl⟩
      · exact .inl (List.mem_cons_of_mem x old)
    · obtain ⟨later,found,rfl⟩ := Option.map_eq_some_iff.mp h
      rcases List.mem_cons.mp mem with rfl | old
      · exact .inl List.mem_cons_self
      · rcases ih found old with old | ⟨z,there,hits,rfl⟩
        · exact .inl (List.mem_cons_of_mem x old)
        · exact .inr ⟨z,List.mem_cons_of_mem x there,hits,rfl⟩

theorem addFigureNonneg {figures id amount a} (old : ∀ f ∈ figures, f.id = a → 0 ≤ f.amount)
    (nonneg : id = a → 0 ≤ amount) : ∀ f ∈ addFigure figures id amount, f.id = a → 0 ≤ f.amount := by
  unfold addFigure
  split
  · exact old
  · split
    · next out found =>
      intro f mem same
      rcases updateFirstMember found mem with there | ⟨g,there,hits,rfl⟩
      · exact old f there same
      · have hits : g.id = id := of_decide_eq_true hits
        exact Int.add_nonneg (old g there same) (nonneg (hits.symm.trans same))
    · split
      · exact old
      · intro f mem same
        rcases List.mem_append.mp mem with there | new
        · exact old f there same
        · cases List.mem_singleton.mp new
          exact nonneg same

theorem foldFigureNonneg {a} {add : List ReservedFigure → IntentLeg → List ReservedFigure} {legs : List IntentLeg}
    (step : ∀ figures leg, leg ∈ legs → (∀ f ∈ figures, f.id = a → 0 ≤ f.amount) →
      ∀ f ∈ add figures leg, f.id = a → 0 ≤ f.amount)
    {figures : List ReservedFigure} (old : ∀ f ∈ figures, f.id = a → 0 ≤ f.amount) :
    ∀ f ∈ legs.foldl add figures, f.id = a → 0 ≤ f.amount := by
  induction legs generalizing figures with
  | nil => exact old
  | cons leg rest ih =>
    apply ih fun figures leg mem => step figures leg (List.mem_cons_of_mem _ mem)
    exact step figures leg List.mem_cons_self old

theorem buildMarketsNonneg (i nowNs track) : ∀ f ∈ (buildReservation i nowNs track).markets, 0 ≤ f.amount := by
  intro f mem
  cases track with
  | false => simp [buildReservation] at mem
  | true =>
    have none : ∀ g ∈ ([] : List ReservedFigure), g.id = f.id → 0 ≤ g.amount := by simp
    refine foldFigureNonneg ?_ none f mem rfl
    exact fun figures leg _ old => addFigureNonneg old fun _ => le_max_right _ _
theorem buildAssetsNonneg {i track a}
    (nonneg : track = true → ∀ leg ∈ i.legs, leg.assetId = a → 0 ≤ leg.quantityLots)
    (nowNs) : ∀ f ∈ (buildReservation i nowNs track).assets, f.id = a → 0 ≤ f.amount := by
  cases track with
  | false => simp [buildReservation]
  | true =>
    refine foldFigureNonneg ?_ (by simp)
    exact fun figures leg mem old => addFigureNonneg old (nonneg rfl leg mem)

theorem tryReserveCases (b i d nowNs track) :
    ((tryReserve b i d nowNs track).2.ok = false ∧ (tryReserve b i d nowNs track).1 = b) ∨
    (d.approved = true ∧ nowNs < i.expiresAtNs ∧ (reservationKeyFor i).idempotencyHash ≠ 0 ∧
      reservationKeyFor i ∉ b.activeReservationKeys ∧
      tryReserve b i d nowNs track =
        ({ nextReservationId := b.nextReservationId + 1
           reservations := b.reservations ++ [storedReservation b i nowNs track]
           activeReservationKeys := b.activeReservationKeys.insert (reservationKeyFor i) b.nextReservationId
           ledger := b.ledger.reserve (storedReservation b i nowNs track) },accept b.nextReservationId)) := by
  unfold tryReserve
  split
  · exact .inl ⟨rfl,rfl⟩
  · next approved =>
    split
    · exact .inl ⟨rfl,rfl⟩
    · split
      · exact .inl ⟨rfl,rfl⟩
      · next hash =>
        split
        · exact .inl ⟨rfl,rfl⟩
        · next live =>
          split
          · exact .inl ⟨rfl,rfl⟩
          · next fresh => exact .inr ⟨by simpa using approved,by omega,hash,fresh,rfl⟩

section Reserve
variable {b : ReservationBook} {i : OpportunityIntent} {d : RiskDecision} {nowNs : Nat} {track : Bool}

theorem storedKey : keyOf (storedReservation b i nowNs track) = reservationKeyFor i := rfl
theorem storedActive : isActive (storedReservation b i nowNs track) = true := rfl

theorem reservedFind (ok : Consistent b) {b' : ReservationBook}
    (shape : b'.reservations = b.reservations ++ [storedReservation b i nowNs track]) (id) :
    findReservation b' id =
      if id = b.nextReservationId then some (storedReservation b i nowNs track) else findReservation b id := by
  have next := ok.nextId
  unfold findReservation
  rw [shape]
  by_cases zero : id = 0
  · have apart : id ≠ b.nextReservationId := by omega
    simp only [zero,if_true]
    rw [if_neg (by omega)]
  · simp only [zero,if_false]
    by_cases new : id = b.nextReservationId
    · have last : id - 1 = b.reservations.length := by omega
      rw [last,List.getElem?_concat_length,if_pos new]
      exact if_pos new.symm
    · rw [if_neg new]
      by_cases old : id - 1 < b.reservations.length
      · rw [List.getElem?_append_left old]
      · rw [List.getElem?_eq_none (by simp; omega),List.getElem?_eq_none (by omega)]

theorem reservedKeys (ok : Consistent b) (fresh : reservationKeyFor i ∉ b.activeReservationKeys)
    {b' : ReservationBook} (shape : b'.reservations = b.reservations ++ [storedReservation b i nowNs track])
      (k id) :
    (b.activeReservationKeys.insert (reservationKeyFor i) b.nextReservationId).lookup k = some id ↔
      ∃ r, findReservation b' id = some r ∧ isActive r = true ∧ keyOf r = k := by
  rw [reservedFind ok shape]
  have unused : findReservation b b.nextReservationId = none := by
    have next := ok.nextId
    have beyond : b.reservations[b.nextReservationId - 1]? = none := List.getElem?_eq_none (by omega)
    simp [findReservation,beyond]
  by_cases mine : k = reservationKeyFor i
  · subst mine
    rw [AList.lookup_insert]
    constructor
    · intro same
      cases Option.some.inj same
      exact ⟨_,if_pos rfl,storedActive,storedKey⟩
    · rintro ⟨r,found,live,key⟩
      split at found
      · next same => rw [same]
      · have old := (ok.keys _ id).mpr ⟨r,found,live,key⟩
        exact absurd (AList.lookup_isSome.mp (by simp [old])) fresh
  · rw [AList.lookup_insert_ne mine,ok.keys k id]
    constructor
    · rintro ⟨r,found,live,key⟩
      have apart : id ≠ b.nextReservationId := by
        rintro rfl
        rw [unused] at found
        contradiction
      exact ⟨r,by rw [if_neg apart,found],live,key⟩
    · rintro ⟨r,found,live,key⟩
      split at found
      · cases Option.some.inj found
        exact absurd key.symm mine
      · exact ⟨r,found,live,key⟩

theorem tryReserveConsistent (ok : Consistent b) : Consistent (tryReserve b i d nowNs track).1 := by
  rcases tryReserveCases b i d nowNs track with ⟨_,same⟩ | ⟨_,_,_,fresh,booked⟩
  · rw [same]
    exact ok
  · rw [booked]
    refine ⟨?_,?_,?_,reservedKeys ok fresh rfl,?_,?_,?_,?_⟩
    · simp [ok.nextId]
    · intro j r here
      by_cases old : j < b.reservations.length
      · rw [List.getElem?_append_left old] at here
        exact ok.ids j r here
      · have last : j = b.reservations.length := by
          have := (List.getElem?_eq_some_iff.mp here).1
          simp at this
          omega
        subst last
        simp only [List.getElem?_concat_length,Option.some.injEq] at here
        subst here
        exact ok.nextId
    · intro r mem
      rcases List.mem_append.mp mem with old | new
      · exact ok.counted r old
      · cases List.mem_singleton.mp new
        rfl
    · rw [activeSumAppend,storedActive,← ok.cost]
      rfl
    · rw [activeSumAppend,storedActive,← ok.exposure]
      rfl
    · intro r mem
      rcases List.mem_append.mp mem with old | new
      · exact ok.marketNonneg r old
      · cases List.mem_singleton.mp new
        exact buildMarketsNonneg i nowNs track
    · intro m
      rw [activeSumAppend,storedActive,← ok.market m]
      exact figureCreditAll _ _ _

theorem tryReserveAsset {a} (fine : AssetConsistent a b)
    (nonneg : track = true → ∀ leg ∈ i.legs, leg.assetId = a → 0 ≤ leg.quantityLots) :
    AssetConsistent a (tryReserve b i d nowNs track).1 := by
  rcases tryReserveCases b i d nowNs track with ⟨_,same⟩ | ⟨_,_,_,_,booked⟩
  · rw [same]
    exact fine
  · rw [booked]
    constructor
    · intro r mem
      rcases List.mem_append.mp mem with old | new
      · exact fine.nonneg r old
      · cases List.mem_singleton.mp new
        exact buildAssetsNonneg nonneg nowNs
    · rw [activeSumAppend,storedActive,← fine.lots]
      exact figureCreditAll _ _ _

end Reserve

/-! Whole runs. -/

inductive BookOp where
  | tryReserve (i : OpportunityIntent) (d : RiskDecision) (nowNs : Nat) (trackLedgerDetail : Bool)
  | release (id : Nat)
  | expireOld (nowNs : Nat)
  deriving DecidableEq
def bookStep (b : ReservationBook) : BookOp → ReservationBook × Option ReservationResult
  | .tryReserve i d nowNs track =>
    ((Reservation.tryReserve b i d nowNs track).1,some (Reservation.tryReserve b i d nowNs track).2)
  | .release id => (Reservation.release b id,none)
  | .expireOld nowNs => (Reservation.expireOld b nowNs,none)
def bookAfter (ops : List BookOp) : ReservationBook := (Machine.run bookStep {} [] ops).1

def LotsNonneg (a : String) : BookOp → Prop
  | .tryReserve i _ _ track => track = true → ∀ leg ∈ i.legs, leg.assetId = a → 0 ≤ leg.quantityLots
  | _ => True
instance (a op) : Decidable (LotsNonneg a op) := by
  cases op <;> unfold LotsNonneg <;> infer_instance

theorem bookStepConsistent {b} (ok : Consistent b) (op) : Consistent (bookStep b op).1 := by
  cases op with
  | tryReserve i d nowNs track => exact tryReserveConsistent ok
  | release id => exact releaseConsistent ok id
  | expireOld nowNs => exact expireOldConsistent ok nowNs
theorem bookStepAsset {b a op} (ok : Consistent b) (fine : AssetConsistent a b) (nonneg : LotsNonneg a op) :
    AssetConsistent a (bookStep b op).1 := by
  cases op with
  | tryReserve i d nowNs track => exact tryReserveAsset fine nonneg
  | release id => exact releaseAsset ok fine id
  | expireOld nowNs => exact expireOldAsset ok fine nowNs

theorem bookAfterConsistent (ops) : Consistent (bookAfter ops) :=
  Machine.invariant (P := fun b _ => Consistent b) (fun _ _ op ok => bookStepConsistent ok op) ops initial

theorem bookAfterAsset {a ops} (nonneg : ∀ op ∈ ops, LotsNonneg a op) : AssetConsistent a (bookAfter ops) := by
  have loop : ∀ ops b log, (∀ op ∈ ops, LotsNonneg a op) → Consistent b → AssetConsistent a b →
      AssetConsistent a (Machine.run bookStep b log ops).1 := by
    intro ops
    induction ops with
    | nil => exact fun _ _ _ _ fine => fine
    | cons op rest ih =>
      intro b log nonneg ok fine
      exact ih _ _ (fun x mem => nonneg x (List.mem_cons_of_mem op mem)) (bookStepConsistent ok op)
        (bookStepAsset ok fine (nonneg op List.mem_cons_self))
  exact loop ops {} [] nonneg initial (initialAsset a)

theorem consistentKeysUnique {b} (ok : Consistent b) {i j : Nat} {r s} (hr : b.reservations[i]? = some r)
    (hs : b.reservations[j]? = some s) (ar : isActive r = true) (as : isActive s = true)
    (same : keyOf r = keyOf s) : i = j := by
  have first := (ok.keys (keyOf r) (i + 1)).mpr ⟨r,findByIndex ok hr,ar,rfl⟩
  have second := (ok.keys (keyOf r) (j + 1)).mpr ⟨s,findByIndex ok hs,as,same.symm⟩
  rw [first] at second
  have := Option.some.inj second
  omega

theorem reservationBookInvariant (ops : List BookOp) :
    (bookAfter ops).ledger.exposure.totalReservedCostTick =
      activeSum (·.reservedCostTick) (bookAfter ops).reservations ∧
    (bookAfter ops).ledger.exposure.totalReservedExposureTick =
      activeSum (·.reservedExposureTick) (bookAfter ops).reservations ∧
    (∀ m, figure (bookAfter ops).ledger.exposure.marketReservedExposureTick m =
      activeSum (fun r => total (amounts r.markets) m) (bookAfter ops).reservations) ∧
    (∀ a, (∀ op ∈ ops, LotsNonneg a op) → figure (bookAfter ops).ledger.inventory.assetReservedLots a =
      activeSum (fun r => total (amounts r.assets) a) (bookAfter ops).reservations) ∧
    (∀ k id, (bookAfter ops).activeReservationKeys.lookup k = some id ↔
      ∃ r, findReservation (bookAfter ops) id = some r ∧ isActive r = true ∧ keyOf r = k) ∧
    (∀ (i j : Nat) (r s), (bookAfter ops).reservations[i]? = some r → (bookAfter ops).reservations[j]? = some s →
      isActive r = true → isActive s = true → keyOf r = keyOf s → i = j) ∧
    (∀ (i : Nat) (r), (bookAfter ops).reservations[i]? = some r → r.reservationId = i + 1) ∧
    (∀ i d nowNs track, (tryReserve (bookAfter ops) i d nowNs track).2.ok = false →
      (tryReserve (bookAfter ops) i d nowNs track).1 = bookAfter ops) ∧
    (∀ id, (∀ r, findReservation (bookAfter ops) id = some r → isActive r = false) →
      release (bookAfter ops) id = bookAfter ops) ∧
    ((∀ r ∈ (bookAfter ops).reservations, isActive r = false) →
      (bookAfter ops).ledger.exposure.totalReservedCostTick = 0 ∧
      (bookAfter ops).ledger.exposure.totalReservedExposureTick = 0 ∧
      (∀ m, figure (bookAfter ops).ledger.exposure.marketReservedExposureTick m = 0) ∧
      (∀ a, (∀ op ∈ ops, LotsNonneg a op) →
        figure (bookAfter ops).ledger.inventory.assetReservedLots a = 0)) := by
  have ok := bookAfterConsistent ops
  refine ⟨ok.cost,ok.exposure,ok.market,fun a nonneg => (bookAfterAsset nonneg).lots,ok.keys,
    fun i j r s hr hs => consistentKeysUnique ok hr hs,ok.ids,?_,?_,?_⟩
  · intro i d nowNs track refused
    rcases tryReserveCases (bookAfter ops) i d nowNs track with ⟨_,same⟩ | ⟨_,_,_,_,booked⟩
    · exact same
    · rw [booked] at refused
      contradiction
  · intro id idle
    unfold release
    split
    · rfl
    · next r found => simp [idle r found]
  · intro idle
    refine ⟨?_,?_,fun m => ?_,fun a nonneg => ?_⟩
    · rw [ok.cost,activeSumInactive idle]
    · rw [ok.exposure,activeSumInactive idle]
    · rw [ok.market m,activeSumInactive idle]
    · rw [(bookAfterAsset nonneg).lots,activeSumInactive idle]

def lotsIntent (hash : UInt64) (lots : Int) : OpportunityIntent :=
  {idempotencyHash := hash, expiresAtNs := 10, legs := [{assetId := "A", quantityLots := lots}]}
def approvedDecision : RiskDecision := makeApprovedDecision 1 1
-- Lots +5, -5, +5 of one asset; releasing the third empties the entry, so the release of
-- the first finds nothing to take off and the books stay 5 lots apart.
def negativeLotsRun : List BookOp :=
  [.tryReserve (lotsIntent 1 5) approvedDecision 0 true,.tryReserve (lotsIntent 2 (-5)) approvedDecision 0 true,
    .tryReserve (lotsIntent 3 5) approvedDecision 0 true,.release 3,.release 1]
theorem negativeLotsDrift :
    ¬ ∀ (ops : List BookOp) (a : String), figure (bookAfter ops).ledger.inventory.assetReservedLots a =
      activeSum (fun r => total (amounts r.assets) a) (bookAfter ops).reservations := by
  intro claimed
  have drift := claimed negativeLotsRun "A"
  revert drift
  decide +kernel

end Polytope.ReservationLedger
