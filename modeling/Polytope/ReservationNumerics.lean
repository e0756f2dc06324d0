import Polytope.ReservationCaps
import Polytope.SlotTable

/-! The numeric half of a ledger snapshot. Its two tables are filled from the active reservations, one slot for each
32-bit index and sixteen slots in all, so an index shows the sum over every id folded onto it, and an index
that comes seventeenth shows nothing. -/
namespace Polytope.ReservationNumerics
open Intent (OpportunityIntent IntentLeg)
open RiskTypes Tally Reservation ReservationLedger ReservationCaps
open SlotTable (amountAt slots)

def activeFigures (figuresOf : RiskReservation → List ReservedFigure) (b : ReservationBook) :
    List ReservedFigure :=
  (b.reservations.filter isActive).flatMap figuresOf
def assetFigures (b : ReservationBook) : List ReservedFigure := activeFigures RiskReservation.assets b
def marketFigures (b : ReservationBook) : List ReservedFigure := activeFigures RiskReservation.markets b
def indexed (figures : List ReservedFigure) : List (UInt32 × Int) := figures.map fun f => (f.index,f.amount)
def indices (figures : List ReservedFigure) : List UInt32 := figures.map ReservedFigure.index

-- What the table shows for an id is what the ledger has booked for it.
def Shows (table : List (UInt32 × Int)) (booked : Totals String) (figures : List ReservedFigure) : Prop :=
  ∀ f ∈ figures, amountAt table (compactIndex f.id) = figure booked f.id
def NumericFaithful (b : ReservationBook) : Prop :=
  Shows (snapshot b).numericReservedAssetLots (snapshot b).reservedAssetLots (assetFigures b) ∧
    Shows (snapshot b).numericReservedMarketExposure (snapshot b).reservedMarketExposureTick (marketFigures b)

def ownAmount (figures : List ReservedFigure) (id : String) : Int := total (amounts figures) id
-- The active amounts of other ids that are folded onto the index of this one.
def foldedOn (figures : List ReservedFigure) (id : String) : Int :=
  total (indexed (figures.filter fun f => decide (f.id ≠ id))) (compactIndex id)
def Kept (figures : List ReservedFigure) (id : String) : Prop :=
  compactIndex id ∈ slots kMaxReservedLegs (indices figures)
-- At most sixteen indices, and no two ids on one of them.
structure Fits (figures : List ReservedFigure) : Prop where
  slots : (indices figures).toFinset.card ≤ kMaxReservedLegs
  apart : ∀ f ∈ figures, ∀ g ∈ figures, f.index = g.index → f.id = g.id

/-! The table. -/

theorem addNumericEq (table : List (UInt32 × Int)) (f : ReservedFigure) (room : Nat) :
    (match updateFirst (·.1 = f.index) (fun x => (x.1,x.2 + f.amount)) table with
      | some out => out
      | none => if table.length < room then table ++ [(f.index,f.amount)] else table) =
      SlotTable.add room table (f.index,f.amount) := by
  induction table generalizing room with
  | nil => simp [updateFirst,SlotTable.add]
  | cons x rest ih =>
    unfold updateFirst SlotTable.add
    by_cases same : x.1 = f.index
    · simp [same]
    · rw [← ih (room - 1)]
      have less : rest.length + 1 < room ↔ rest.length < room - 1 := by omega
      cases later : updateFirst (·.1 = f.index) (fun x => (x.1,x.2 + f.amount)) rest with
      | some out => simp [same]
      | none =>
        simp only [same,decide_false,Bool.false_eq_true,if_false,Option.map_none,List.length_cons,less]
        split <;> rfl
theorem addNumericAll (figures : List ReservedFigure) :
    figures.foldl addNumeric [] = SlotTable.addAll kMaxReservedLegs (indexed figures) := by
  rw [SlotTable.addAll,indexed,List.foldl_map]
  congr
  funext table f
  exact addNumericEq table f kMaxReservedLegs
theorem countNumeric (rs : List RiskReservation) (out : RiskLedgerSnapshot) :
    (rs.foldl countReservation out).numericReservedAssetLots =
      ((rs.filter isActive).flatMap RiskReservation.assets).foldl addNumeric out.numericReservedAssetLots ∧
    (rs.foldl countReservation out).numericReservedMarketExposure =
      ((rs.filter isActive).flatMap RiskReservation.markets).foldl addNumeric
      out.numericReservedMarketExposure := by
  induction rs generalizing out with
  | nil => exact ⟨rfl,rfl⟩
  | cons r rest ih =>
    obtain ⟨assets,markets⟩ := ih (countReservation out r)
    rw [List.foldl_cons,assets,markets]
    unfold countReservation
    cases status : r.status <;> simp [isActive,status]
theorem snapshotTables (b : ReservationBook) :
    (snapshot b).numericReservedAssetLots = SlotTable.addAll kMaxReservedLegs (indexed (assetFigures b)) ∧
    (snapshot b).numericReservedMarketExposure = SlotTable.addAll kMaxReservedLegs
    (indexed (marketFigures b)) := by
  obtain ⟨assets,markets⟩ := countNumeric b.reservations b.ledger.snapshot
  exact ⟨assets.trans (addNumericAll _),markets.trans (addNumericAll _)⟩

/-! One table against the ledger's totals. -/

section
variable {figures : List ReservedFigure} (indexed_ : ∀ f ∈ figures, f.index = compactIndex f.id)
include indexed_

theorem foldedTotal (id : String) :
    total (indexed figures) (compactIndex id) = ownAmount figures id + foldedOn figures id := by
  unfold ownAmount foldedOn
  induction figures with
  | nil => rfl
  | cons f rest ih =>
    have own := indexed_ f List.mem_cons_self
    have later := ih fun g mem => indexed_ g (List.mem_cons_of_mem f mem)
    simp only [indexed,amounts,List.map_cons,totalCons] at later ⊢
    rw [later]
    by_cases same : f.id = id
    · have here : f.index = compactIndex id := own.trans (congrArg compactIndex same)
      simp [same,here]
      omega
    · simp [same,totalCons]
      omega
-- A kept index shows all that is folded onto it, a lost one nothing.
theorem shownAmount (id : String) :
    amountAt (SlotTable.addAll kMaxReservedLegs (indexed figures)) (compactIndex id) =
    if compactIndex id ∈ slots kMaxReservedLegs (indices figures) then
      ownAmount figures id + foldedOn figures id
    else 0 := by
  have keys : (indexed figures).map Prod.fst = indices figures := by simp [indexed,indices]
  rw [SlotTable.addAllAmount,keys,foldedTotal indexed_]

variable (positive : ∀ f ∈ figures, 0 < f.amount)
include positive

omit indexed_ in
theorem ownPositive {f : ReservedFigure} (mem : f ∈ figures) : 0 < ownAmount figures f.id := by
  unfold ownAmount amounts
  induction figures with
  | nil => cases mem
  | cons g rest ih =>
    have head := positive g List.mem_cons_self
    have nonneg : 0 ≤ total (amounts rest) f.id := totalNonneg fun e inside _ => by
      obtain ⟨h,there,rfl⟩ := List.mem_map.mp inside
      exact (positive h (List.mem_cons_of_mem g there)).le
    rw [List.map_cons,totalCons]
    rcases List.mem_cons.mp mem with rfl | later
    · simp only [if_true]
      exact Int.add_pos_of_pos_of_nonneg head nonneg
    · have := ih (fun h there => positive h (List.mem_cons_of_mem g there)) later
      split
      · exact Int.add_pos head this
      · rwa [Int.zero_add]
omit indexed_ in
theorem foldedNone {id : String} : foldedOn figures id = 0 ↔
    ∀ g ∈ figures, compactIndex id = g.index → id = g.id := by
  have bigger : ∀ fs : List ReservedFigure, (∀ f ∈ fs, 0 < f.amount) → ∀ k, total (indexed fs) k = 0 →
    ∀ f ∈ fs, f.index ≠ k := by
    intro fs
    induction fs with
    | nil => exact fun _ _ _ f mem => (nomatch mem)
    | cons g rest ih =>
      intro above k none f mem here
      have head := above g List.mem_cons_self
      have tail := fun h there => above h (List.mem_cons_of_mem g there)
      have nonneg : 0 ≤ total (indexed rest) k := totalNonneg fun e inside _ => by
        obtain ⟨h,there,rfl⟩ := List.mem_map.mp inside
        exact (tail h there).le
      rw [indexed,List.map_cons,totalCons] at none
      change (if g.index = k then g.amount else 0) + total (indexed rest) k = 0 at none
      split at none
      · omega
      · next other =>
        rcases List.mem_cons.mp mem with rfl | later
        · exact other here
        · exact ih tail k (by omega) f later here
  constructor
  · intro none g mem same
    by_contra other
    have there : g ∈ figures.filter fun f => decide (f.id ≠ id) :=
      List.mem_filter.mpr ⟨mem,by simpa using Ne.symm other⟩
    exact bigger _ (fun f inside => positive f (List.mem_of_mem_filter inside)) _ none g there same.symm
  · intro apart
    refine SlotTable.totalAbsent fun inside => ?_
    obtain ⟨e,there,same⟩ := List.mem_map.mp inside
    obtain ⟨g,mem,rfl⟩ := List.mem_map.mp there
    obtain ⟨held,other⟩ := List.mem_filter.mp mem
    exact (of_decide_eq_true other) (apart g held same.symm).symm

theorem showsFits {booked : Totals String} (exact_ : ∀ f ∈ figures, figure booked f.id = ownAmount figures f.id) :
    Shows (SlotTable.addAll kMaxReservedLegs (indexed figures)) booked figures ↔ Fits figures := by
  constructor
  · intro shows_
    have both : ∀ f ∈ figures, Kept figures f.id ∧ foldedOn figures f.id = 0 := by
      intro f mem
      have own := ownPositive positive mem
      have shown := shows_ f mem
      rw [shownAmount indexed_,exact_ f mem] at shown
      split at shown
      · next kept => exact ⟨kept,by omega⟩
      · omega
    refine ⟨(SlotTable.slotsAll _ _).mp fun k mem => ?_,fun f mem g there same => ?_⟩
    · obtain ⟨f,inside,rfl⟩ := List.mem_map.mp mem
      rw [indexed_ f inside]
      exact (both f inside).1
    · exact (foldedNone positive).mp (both f mem).2 g there ((indexed_ f mem).symm.trans same)
  · intro fits f mem
    have kept : compactIndex f.id ∈ slots kMaxReservedLegs (indices figures) := by
      have held := (SlotTable.slotsAll _ _).mpr fits.slots f.index (List.mem_map_of_mem mem)
      rwa [indexed_ f mem] at held
    have none : foldedOn figures f.id = 0 :=
      (foldedNone positive).mpr fun g there same => fits.apart f mem g there ((indexed_ f mem).trans same)
    rw [shownAmount indexed_,if_pos kept,none,Int.add_zero,exact_ f mem]
end

/-! What every reservation of a run is made of. -/

theorem addFigureAll {Q : ReservedFigure → Prop} {figures : List ReservedFigure} {id : String} {amount : Int}
    (old : ∀ f ∈ figures, Q f) (grown : amount ≠ 0 → ∀ f, Q f → f.id = id → Q {f with amount := f.amount + amount})
    (fresh : amount ≠ 0 → Q ⟨compactIndex id,id,amount⟩) : ∀ f ∈ addFigure figures id amount, Q f := by
  unfold addFigure
  split
  · exact old
  · next booked =>
    rw [not_or] at booked
    split
    · next out found =>
      intro f mem
      rcases updateFirstMember found mem with there | ⟨g,there,hits,rfl⟩
      · exact old f there
      · exact grown booked.2 g (old g there) (of_decide_eq_true hits)
    · split
      · exact old
      · intro f mem
        rcases List.mem_append.mp mem with there | new
        · exact old f there
        · cases List.mem_singleton.mp new
          exact fresh booked.2
theorem foldFigureAll {Q : ReservedFigure → Prop}
    {addLeg : List ReservedFigure → IntentLeg → List ReservedFigure} {legs : List IntentLeg}
    (step : ∀ figures, ∀ leg ∈ legs, (∀ f ∈ figures, Q f) → ∀ f ∈ addLeg figures leg, Q f) :
    ∀ f ∈ legs.foldl addLeg [], Q f := by
  have loop : ∀ figures, (∀ f ∈ figures, Q f) → ∀ f ∈ legs.foldl addLeg figures, Q f := by
    induction legs with
    | nil => exact fun _ old => old
    | cons leg rest ih =>
      intro figures old
      exact ih (fun figures leg mem => step figures leg (List.mem_cons_of_mem _ mem)) _
        (step figures leg List.mem_cons_self old)
  exact loop [] fun _ mem => (nomatch mem)

structure FigureBooked (f : ReservedFigure) : Prop where
  index : f.index = compactIndex f.id
  positive : 0 < f.amount
theorem addFigureBooked {figures : List ReservedFigure} {id : String} {amount : Int}
    (old : ∀ f ∈ figures, FigureBooked f) (nonneg : 0 ≤ amount) :
    ∀ f ∈ addFigure figures id amount, FigureBooked f :=
  addFigureAll old (fun _ f booked _ => ⟨booked.index,by have := booked.positive; simp only; omega⟩)
    fun some => ⟨rfl,by simp only; omega⟩
theorem builtAssets (i : OpportunityIntent) (nowNs : Nat) (track : Bool) :
    ∀ f ∈ (buildReservation i nowNs track).assets, f.index = compactIndex f.id := by
  cases track with
  | false => exact fun _ mem => (nomatch mem)
  | true =>
    exact foldFigureAll fun figures leg _ old =>
      addFigureAll (Q := fun f => f.index = compactIndex f.id) old (fun _ _ same _ => same) fun _ => rfl
theorem builtMarkets (i : OpportunityIntent) (nowNs : Nat) (track : Bool) :
    ∀ f ∈ (buildReservation i nowNs track).markets, FigureBooked f := by
  cases track with
  | false => exact fun _ mem => (nomatch mem)
  | true => exact foldFigureAll fun figures leg _ old => addFigureBooked old (le_max_right _ _)
theorem builtLots {i : OpportunityIntent} {nowNs : Nat} {track : Bool}
    (nonneg : ∀ leg ∈ i.legs, track = true → 0 ≤ leg.quantityLots) :
    ∀ f ∈ (buildReservation i nowNs track).assets, FigureBooked f := by
  cases track with
  | false => exact fun _ mem => (nomatch mem)
  | true => exact foldFigureAll fun figures leg mem old => addFigureBooked old (nonneg leg mem rfl)

def Held (A M : ReservedFigure → Prop) (b : ReservationBook) : Prop :=
  ∀ r ∈ b.reservations, (∀ f ∈ r.assets, A f) ∧ ∀ f ∈ r.markets, M f
def Builds (A M : ReservedFigure → Prop) : BookOp → Prop
  | .tryReserve i _ nowNs track =>
    (∀ f ∈ (buildReservation i nowNs track).assets, A f) ∧ ∀ f ∈ (buildReservation i nowNs track).markets, M f
  | .release _ | .expireOld _ => True

section
variable {A M : ReservedFigure → Prop}

theorem finishHeld (b : ReservationBook) (i : Nat) (r : RiskReservation) (status : ReservationStatus)
    (held : Held A M b)
    (here : b.reservations[i]? = some r) : Held A M (finish b i r status) := by
  intro s mem
  rcases finishMember mem with old | rfl
  · exact held s old
  · exact held r (List.mem_of_getElem? here)
theorem bookStepHeld {b : ReservationBook} {op : BookOp} (held : Held A M b) (builds : Builds A M op) :
    Held A M (bookStep b op).1 := by
  cases op with
  | tryReserve i d nowNs track =>
    change Held A M (tryReserve b i d nowNs track).1
    rcases tryReserveCases b i d nowNs track with ⟨_,same⟩ | ⟨_,_,_,_,booked⟩
    · rw [same]
      exact held
    · rw [booked]
      intro r mem
      rcases List.mem_append.mp mem with old | new
      · exact held r old
      · cases List.mem_singleton.mp new
        exact builds
  | release id =>
    exact releasePreserves (fun b i r status held here _ _ => finishHeld b i r status held here) held id
  | expireOld nowNs =>
    exact expireOldPreserves (fun b i r status held here _ _ => finishHeld b i r status held here) held nowNs
theorem bookAfterHeld {ops : List BookOp} (builds : ∀ op ∈ ops, Builds A M op) : Held A M (bookAfter ops) := by
  have along : Machine.Along bookStep (fun _ _ op => Builds A M op) {} [] ops :=
    Machine.alongIff.mpr fun before op rest split => builds op (by simp [split])
  exact Machine.invariantAlong (P := fun b _ => Held A M b) (fun _ _ _ held builds => bookStepHeld held builds)
    (fun _ mem => (nomatch mem)) along
theorem heldAssets {b : ReservationBook} (held : Held A M b) : ∀ f ∈ assetFigures b, A f := by
  intro f mem
  obtain ⟨r,inside,there⟩ := List.mem_flatMap.mp mem
  exact (held r (List.mem_of_mem_filter inside)).1 f there
theorem heldMarkets {b : ReservationBook} (held : Held A M b) : ∀ f ∈ marketFigures b, M f := by
  intro f mem
  obtain ⟨r,inside,there⟩ := List.mem_flatMap.mp mem
  exact (held r (List.mem_of_mem_filter inside)).2 f there
end

theorem bookAfterIndexed (ops : List BookOp) :
    Held (fun f => f.index = compactIndex f.id) FigureBooked (bookAfter ops) := by
  refine bookAfterHeld fun op _ => ?_
  cases op with
  | tryReserve i d nowNs track => exact ⟨builtAssets i nowNs track,builtMarkets i nowNs track⟩
  | release id => trivial
  | expireOld nowNs => trivial
theorem bookAfterLots {ops : List BookOp} (nonneg : ∀ op ∈ ops, ∀ a, LotsNonneg a op) :
    Held FigureBooked FigureBooked (bookAfter ops) := by
  refine bookAfterHeld fun op mem => ?_
  have lots := nonneg op mem
  cases op with
  | tryReserve i d nowNs track =>
    exact ⟨builtLots fun leg inside tracked => lots leg.assetId tracked leg inside rfl,builtMarkets i nowNs track⟩
  | release id => trivial
  | expireOld nowNs => trivial
theorem ownSum (figuresOf : RiskReservation → List ReservedFigure) (b : ReservationBook) (id : String) :
    ownAmount (activeFigures figuresOf b) id = activeSum
      (fun r => total (amounts (figuresOf r)) id) b.reservations := by
  unfold ownAmount activeFigures
  induction b.reservations with
  | nil => rfl
  | cons r rest ih =>
    rw [activeSumCons,← ih]
    by_cases active : isActive r = true
    · simp [active,amounts,total]
    · simp [active,amounts,total]

def namedLegs (names : List String) : List IntentLeg := names.map fun assetId => {assetId, quantityLots := 1}
def namedIntent (hash : UInt64) (names : List String) : OpportunityIntent :=
  {idempotencyHash := hash, expiresAtNs := 10, legs := namedLegs names}
def seventeenAssets : List BookOp :=
  [.tryReserve (namedIntent 1 ["A","B","C","D","E","F","G","H","I"]) approvedDecision 0 true,
    .tryReserve (namedIntent 2 ["J","K","L","M","N","O","P","Q"]) approvedDecision 0 true]
instance (figures) : Decidable (Fits figures) :=
  decidable_of_iff (_ ∧ _) ⟨fun h => ⟨h.1,h.2⟩,fun h => ⟨h.1,h.2⟩⟩
instance (table booked figures) : Decidable (Shows table booked figures) := by
  unfold Shows
  infer_instance
end Polytope.ReservationNumerics
