import Polytope.ChainState
import Polytope.Machine

/-! What the published trade state stands for: the fills that are confirmed and not removed, kept as
a plain list. The writer agrees with the list as long as a removal reaches the entity that shows the
fill and no entity's last trade is taken back. -/
namespace Polytope.ChainFills
open ChainState FixedPointMath

structure Fill where
  fillId : String
  entityId : String
  side : AggressorSide
  priceTick : Int
  sizeLots : Int
  chainSeenNs : Nat
  deriving DecidableEq, Repr
structure FillLedger where
  confirmed : List Fill := []
  lastTrade : String → Option Fill := fun _ => none
  touched : String → Option Nat := fun _ => none

def fillOf (event : MarketStateEvent) : Fill :=
  ⟨event.chainFill.fillId,resolveEntityId event,mapDirection event.chainFill.direction,event.chainFill.priceTick,
    event.chainFill.sizeLots,event.chainFill.chainSeenMonotonicNs⟩
def Known (ledger : FillLedger) (fillId : String) : Prop := ∃ fill ∈ ledger.confirmed, fill.fillId = fillId
instance (ledger : FillLedger) (fillId : String) : Decidable (Known ledger fillId) :=
  inferInstanceAs (Decidable (∃ fill ∈ ledger.confirmed, fill.fillId = fillId))
-- The event adds a fill: it has a direction and an entity, and its id is not confirmed yet.
def AddsFill (ledger : FillLedger) (event : MarketStateEvent) : Prop :=
  ¬ (event.chainFill.fillId ≠ "" ∧ Known ledger event.chainFill.fillId) ∧
    isAmbiguous event.chainFill = false ∧ mapDirection event.chainFill.direction ≠ .unknown
instance (ledger : FillLedger) (event : MarketStateEvent) : Decidable (AddsFill ledger event) :=
  inferInstanceAs (Decidable (_ ∧ _ ∧ _))

def FillLedger.touch (ledger : FillLedger) (event : MarketStateEvent) : FillLedger :=
  if resolveEntityId event = "" then ledger
  else
    { ledger with
      touched := Function.update ledger.touched (resolveEntityId event)
        (some event.chainFill.chainSeenMonotonicNs) }
def FillLedger.add (ledger : FillLedger) (fill : Fill) : FillLedger :=
  {ledger with
    confirmed := ledger.confirmed ++ [fill]
    lastTrade := Function.update ledger.lastTrade fill.entityId (some fill)}
def FillLedger.remove (ledger : FillLedger) (fillId : String) : FillLedger :=
  if fillId = "" then ledger
  else {ledger with confirmed := ledger.confirmed.filter fun fill => decide (fill.fillId ≠ fillId)}
def FillLedger.record (ledger : FillLedger) (event : MarketStateEvent) : FillLedger :=
  if isRemoval event = true then (ledger.remove event.chainFill.fillId).touch event
  else if isConfirmation event = true ∧ resolveEntityId event ≠ "" ∧ AddsFill ledger event then
    (ledger.add (fillOf event)).touch event
  else if isConfirmation event = true then ledger.touch event
  else ledger
def ledgerOf (log : List (MarketStateEvent × ChainApplyResult)) : FillLedger :=
  log.foldl (fun ledger entry => ledger.record entry.1) {}

def Fill.within (fill : Fill) (nowNs windowNs : Nat) : Bool :=
  decide (fill.chainSeenNs ≤ nowNs) && decide (nowNs - fill.chainSeenNs ≤ windowNs)
def confirmedLots (fills : List Fill) (entityId : String) (side : AggressorSide) (nowNs windowNs : Nat) : Int :=
  ((fills.filter fun fill =>
    decide (fill.entityId = entityId) && decide (fill.side = side) && fill.within nowNs windowNs).map
    Fill.sizeLots).sum

def TotalsFit (fills : List Fill) (entityId : String) (nowNs : Nat) : Prop :=
  ∀ side ∈ [AggressorSide.buy,AggressorSide.sell], ∀ windowNs ∈ [kTwoSecondsNs,kTenSecondsNs],
    InI64 (confirmedLots fills entityId side nowNs windowNs)
instance (fills : List Fill) (entityId : String) (nowNs : Nat) : Decidable (TotalsFit fills entityId nowNs) := by
  unfold TotalsFit
  infer_instance
structure ShowsTotals (fills : List Fill) (entityId : String) (nowNs : Nat)
    (state : ConfirmedTradeState) : Prop where
  buy2s : state.confirmedBuyLots2s = confirmedLots fills entityId .buy nowNs kTwoSecondsNs
  sell2s : state.confirmedSellLots2s = confirmedLots fills entityId .sell nowNs kTwoSecondsNs
  buy10s : state.confirmedBuyLots10s = confirmedLots fills entityId .buy nowNs kTenSecondsNs
  sell10s : state.confirmedSellLots10s = confirmedLots fills entityId .sell nowNs kTenSecondsNs
def ShowsTrade (fills : List Fill) (trade : Option Fill) (state : ConfirmedTradeState) : Prop :=
  match trade with
  | none => state.hasLastTrade = false
  | some fill =>
    fill ∈ fills ∧ state.hasLastTrade = true ∧ state.lastTradePriceTick = fill.priceTick ∧
      state.lastTradeSizeLots = fill.sizeLots ∧ state.lastTakerSide = fill.side
instance (fills : List Fill) (trade : Option Fill) (state : ConfirmedTradeState) :
    Decidable (ShowsTrade fills trade state) :=
  match trade with
  | none => inferInstanceAs (Decidable (_ = _))
  | some _ => inferInstanceAs (Decidable (_ ∧ _))
def CountedOnce (fills : List Fill) : Prop := fills.Pairwise fun a b => a.fillId = b.fillId → a.fillId = ""

structure ReflectsLedger (ledger : FillLedger) (writer : ChainStateWriter) : Prop where
  once : CountedOnce ledger.confirmed
  totals : ∀ entityId nowNs, ledger.touched entityId = some nowNs →
    ShowsTotals ledger.confirmed entityId nowNs (writer.stateOf entityId)
  trade : ∀ entityId, ShowsTrade ledger.confirmed (ledger.lastTrade entityId) (writer.stateOf entityId)
def StaysReflected (writer : ChainStateWriter) (log : List (MarketStateEvent × ChainApplyResult))
    (event : MarketStateEvent) : Prop :=
  ReflectsLedger ((ledgerOf log).record event) (apply writer event).1

-- A removal finds the fill on display only at its own entity, and not as that entity's last trade.
def Removable (ledger : FillLedger) (event : MarketStateEvent) (fill : Fill) : Prop :=
  resolveEntityId event ≠ "" ∧ ledger.lastTrade fill.entityId ≠ some fill ∧
    (resolveEntityId event = fill.entityId ∨ fill.sizeLots = 0 ∨
      ∀ nowNs ∈ ledger.touched fill.entityId, fill.within nowNs kTenSecondsNs = false)
instance (ledger : FillLedger) (event : MarketStateEvent) (fill : Fill) :
    Decidable (Removable ledger event fill) :=
  inferInstanceAs (Decidable (_ ∧ _ ∧ _))
def Revocable (ledger : FillLedger) (event : MarketStateEvent) : Prop :=
  if isRemoval event = true then
    ∀ fill ∈ ledger.confirmed, fill.fillId = event.chainFill.fillId → fill.fillId ≠ "" →
      Removable ledger event fill
  else
    isConfirmation event = true ∧ resolveEntityId event ≠ "" ∧ AddsFill ledger event →
      event.chainFill.fillId ≠ "" ∨ event.chainFill.sizeLots = 0
instance (ledger : FillLedger) (event : MarketStateEvent) : Decidable (Revocable ledger event) := by
  unfold Revocable
  infer_instance
def Reversible (_ : ChainStateWriter) (log : List (MarketStateEvent × ChainApplyResult))
    (event : MarketStateEvent) : Prop :=
  Revocable (ledgerOf log) event ∧ (isRemoval event = true ∨ isConfirmation event = true →
    TotalsFit ((ledgerOf log).record event).confirmed (resolveEntityId event) event.chainFill.chainSeenMonotonicNs)
instance (writer : ChainStateWriter) (log : List (MarketStateEvent × ChainApplyResult))
    (event : MarketStateEvent) :
    Decidable (Reversible writer log event) := inferInstanceAs (Decidable (_ ∧ _))

/-! The writer's structures hold exactly the list. -/

def Fill.entry (fill : Fill) : Entry := ⟨fill.fillId,fill.chainSeenNs,fill.side,fill.sizeLots,false⟩
def Fill.applied (fill : Fill) : AppliedFill := ⟨fill.entityId,fill.side,fill.sizeLots,fill.chainSeenNs,true,false⟩
structure Tracks (fills : List Fill) (writer : ChainStateWriter) : Prop where
  once : CountedOnce fills
  live : ∀ fillId, fillId ≠ "" →
    writer.liveFill fillId = (fills.find? fun fill => decide (fill.fillId = fillId)).map Fill.applied
  anonymous : writer.liveFill "" = none
  windows : ∀ entityId, (writer.windowOf entityId).live =
    (fills.filter fun fill => decide (fill.entityId = entityId) && decide (fill.fillId ≠ "")).map Fill.entry
  void : ∀ fill ∈ fills, fill.fillId = "" → fill.sizeLots = 0

theorem confirmedLotsCons (fill : Fill) (rest : List Fill) (entityId : String) (side : AggressorSide)
    (nowNs windowNs : Nat) :
    confirmedLots (fill::rest) entityId side nowNs windowNs =
      (if fill.entityId = entityId ∧ fill.side = side ∧ fill.within nowNs windowNs = true then
          fill.sizeLots
        else 0) +
        confirmedLots rest entityId side nowNs windowNs := by
  unfold confirmedLots
  by_cases counted : fill.entityId = entityId ∧ fill.side = side ∧ fill.within nowNs windowNs = true
  · obtain ⟨own,sided,recent⟩ := counted
    simp [own,sided,recent]
  · have skipped : (decide (fill.entityId = entityId) && decide
      (fill.side = side) && fill.within nowNs windowNs) = false := by
      simpa [and_assoc] using counted
    rw [if_neg counted,List.filter_cons,skipped]
    simp
theorem entryCounted (fill : Fill) (side : AggressorSide) (nowNs windowNs : Nat) :
    isCounted side nowNs windowNs fill.entry = true ↔ fill.side = side ∧ fill.within nowNs windowNs = true := by
  simp only [isCounted,Fill.within,Bool.and_eq_true,decide_eq_true_eq]
  exact and_assoc
theorem windowLots {fills : List Fill} {writer : ChainStateWriter} (tracks : Tracks fills writer)
    (entityId : String)
    (side : AggressorSide) (nowNs windowNs : Nat) :
    (writer.windowOf entityId).lots side nowNs windowNs = confirmedLots fills entityId side nowNs windowNs := by
  rw [ConfirmedTradeWindow.lots,tracks.windows entityId]
  have void := tracks.void
  clear tracks
  induction fills with
  | nil => rfl
  | cons fill rest ih =>
    have later := ih fun other mem => void other (List.mem_cons_of_mem _ mem)
    have own := void fill List.mem_cons_self
    rw [confirmedLotsCons,← later]
    by_cases kept : fill.entityId = entityId ∧ fill.fillId ≠ ""
    · obtain ⟨entity,named⟩ := kept
      by_cases counted : isCounted side nowNs windowNs fill.entry = true
      · simp [entity,named,counted,(entryCounted fill side nowNs windowNs).mp counted]
        rfl
      · have outside := mt (entryCounted fill side nowNs windowNs).mpr counted
        rw [if_neg fun shown => outside shown.2]
        simp [entity,named,counted]
    · have none : (if fill.entityId = entityId ∧ fill.side = side ∧ fill.within nowNs windowNs = true then
          fill.sizeLots
        else 0) = 0 := by
        split
        · next shown =>
          by_cases named : fill.fillId = ""
          · exact own named
          · exact absurd ⟨shown.1,named⟩ kept
        · rfl
      have dropped : (decide (fill.entityId = entityId) && decide (fill.fillId ≠ "")) = false := by
        simpa using kept
      rw [none,List.filter_cons,dropped]
      simp

theorem storeTracks {fills : List Fill} {writer : ChainStateWriter} (tracks : Tracks fills writer) (e : String)
    (state : ConfirmedTradeState) (nowNs : Nat) : Tracks fills (writer.store e state nowNs) where
  once := tracks.once
  live := tracks.live
  anonymous := tracks.anonymous
  windows := fun entityId => by
    rw [storeWindow]
    exact tracks.windows entityId
  void := tracks.void

theorem publishShows {fills : List Fill} {writer : ChainStateWriter} (tracks : Tracks fills writer)
    {entityId : String}
    (state : ConfirmedTradeState) {nowNs : Nat} (fit : TotalsFit fills entityId nowNs) :
    ShowsTotals fills entityId nowNs (publish state (writer.windowOf entityId) nowNs) := by
  have exact {side : AggressorSide} {windowNs : Nat} (sided : side ∈ [AggressorSide.buy,AggressorSide.sell])
      (window : windowNs ∈ [kTwoSecondsNs,kTenSecondsNs]) :
      wrapI64 ((writer.windowOf entityId).lots side nowNs windowNs) =
        confirmedLots fills entityId side nowNs windowNs := by
    rw [windowLots tracks]
    exact wrapExact (fit side sided windowNs window)
  constructor <;> rw [publish,totalsEq,totalsEq] <;> exact exact (by simp) (by simp)
theorem showsTradePublish {fills : List Fill} {trade : Option Fill} {state : ConfirmedTradeState}
    {window : ConfirmedTradeWindow} {nowNs : Nat}
    (shown : ShowsTrade fills trade state) : ShowsTrade fills trade (publish state window nowNs) := by
  cases trade <;> exact shown

-- Storing an entity's state republishes that entity; every other entity must already be in order.
theorem storeReflects {l : FillLedger} {writer : ChainStateWriter} {e : String}
    {state : ConfirmedTradeState} {nowNs : Nat}
    (tracks : Tracks l.confirmed writer)
    (totals : ∀ entityId, entityId ≠ e → ∀ t, l.touched entityId = some t →
      ShowsTotals l.confirmed entityId t (writer.stateOf entityId))
    (trades : ∀ entityId, entityId ≠ e → ShowsTrade l.confirmed (l.lastTrade entityId) (writer.stateOf entityId))
    (own : ShowsTrade l.confirmed (l.lastTrade e) state) (fit : TotalsFit l.confirmed e nowNs) :
    ReflectsLedger {l with touched := Function.update l.touched e (some nowNs)} (writer.store e state nowNs) where
  once := tracks.once
  totals := by
    intro entityId t touched
    rw [storeState]
    by_cases same : entityId = e
    · subst same
      have now : nowNs = t := by simpa using touched
      rw [if_pos rfl,← now]
      exact publishShows tracks state fit
    · rw [if_neg same]
      exact totals entityId same t (by simpa [Function.update_of_ne same] using touched)
  trade := by
    intro entityId
    rw [storeState]
    by_cases same : entityId = e
    · subst same
      rw [if_pos rfl]
      exact showsTradePublish own
    · rw [if_neg same]
      exact trades entityId same

/-! Adding a fill. -/

theorem recordLive {writer : ChainStateWriter} {event : MarketStateEvent} (named : event.chainFill.fillId ≠ "")
    (fillId : String) :
    (writer.recordFill (resolveEntityId event) event.chainFill).liveFill fillId =
      if fillId = event.chainFill.fillId then some (fillOf event).applied else writer.liveFill fillId := by
  by_cases same : fillId = event.chainFill.fillId
  · subst same
    simp [ChainStateWriter.recordFill,ChainStateWriter.liveFill,named,Fill.applied,fillOf]
  · simp [ChainStateWriter.recordFill,ChainStateWriter.liveFill,named,same,AList.lookup_insert_ne same]
theorem recordWindow {writer : ChainStateWriter} {event : MarketStateEvent}
    (named : event.chainFill.fillId ≠ "") (entityId : String) :
    ((writer.recordFill (resolveEntityId event) event.chainFill).windowOf entityId).live =
      (writer.windowOf entityId).live ++ if entityId = resolveEntityId event then
          [(fillOf event).entry]
        else [] := by
  by_cases same : entityId = resolveEntityId event
  · subst same
    simp [ChainStateWriter.recordFill,ChainStateWriter.windowOf,named,liveAdd,Fill.entry,fillOf]
  · simp [ChainStateWriter.recordFill,ChainStateWriter.windowOf,named,same,AList.lookup_insert_ne same]
theorem countedOnceSnoc {fills : List Fill} {fill : Fill} (once : CountedOnce fills)
    (fresh : fill.fillId ≠ "" → ∀ other ∈ fills, other.fillId ≠ fill.fillId) : CountedOnce (fills ++ [fill]) := by
  refine List.pairwise_append.mpr ⟨once,List.pairwise_singleton _ _,?_⟩
  intro other mem last inLast same
  have eq : last = fill := List.mem_singleton.mp inLast
  subst eq
  by_cases named : last.fillId = ""
  · exact same.trans named
  · exact absurd same (fresh named other mem)

theorem recordTracks {fills : List Fill} {writer : ChainStateWriter} {event : MarketStateEvent}
    (tracks : Tracks fills writer)
    (fresh : event.chainFill.fillId ≠ "" → ∀ other ∈ fills, other.fillId ≠ event.chainFill.fillId)
    (counted : event.chainFill.fillId ≠ "" ∨ event.chainFill.sizeLots = 0) :
    Tracks (fills ++ [fillOf event]) (writer.recordFill (resolveEntityId event) event.chainFill) := by
  have once : CountedOnce (fills ++ [fillOf event]) := countedOnceSnoc tracks.once fresh
  have void : ∀ fill ∈ fills ++ [fillOf event], fill.fillId = "" → fill.sizeLots = 0 := by
    intro fill mem blank
    rcases List.mem_append.mp mem with old | new
    · exact tracks.void fill old blank
    · have eq := List.mem_singleton.mp new
      subst eq
      exact counted.resolve_left (not_not_intro blank)
  by_cases named : event.chainFill.fillId = ""
  · have unchanged : writer.recordFill (resolveEntityId event) event.chainFill = writer := if_pos named
    have blank : (fillOf event).fillId = "" := named
    rw [unchanged]
    refine ⟨once,fun fillId asked => ?_,tracks.anonymous,fun entityId => ?_,void⟩
    · rw [tracks.live fillId asked,List.find?_append]
      simp [blank,Ne.symm asked]
    · rw [tracks.windows entityId,List.filter_append]
      simp [blank]
  · have id : (fillOf event).fillId = event.chainFill.fillId := rfl
    refine ⟨once,fun fillId asked => ?_,?_,fun entityId => ?_,void⟩
    · rw [recordLive named,tracks.live fillId asked,List.find?_append]
      by_cases same : fillId = event.chainFill.fillId
      · have unknown : (fills.find? fun fill => decide (fill.fillId = fillId)) = none := by
          simpa [same] using fresh named
        rw [unknown,if_pos same]
        simp [same,id]
      · simp [same,id,Ne.symm same]
    · rw [recordLive named,if_neg (Ne.symm named)]
      exact tracks.anonymous
    · rw [recordWindow named,tracks.windows entityId,List.filter_append,List.map_append]
      by_cases same : entityId = resolveEntityId event
      · simp [same,fillOf,named]
      · simp [same,fillOf,Ne.symm same]

/-! Removing a fill. -/

theorem onceEq {fills : List Fill} (once : CountedOnce fills) {a b : Fill} (inA : a ∈ fills) (inB : b ∈ fills)
    (same : a.fillId = b.fillId) (named : a.fillId ≠ "") : a = b := by
  have symmetric : Std.Symm fun a b : Fill => a.fillId = b.fillId → a.fillId = "" :=
    ⟨fun x y apart eq => eq.trans (apart eq.symm)⟩
  by_contra different
  exact named (List.Pairwise.forall once inA inB different same)

theorem eraseLive {writer : ChainStateWriter} {fillId : String} (other : String) :
    (writer.eraseFill fillId).liveFill other = if other = fillId then none else writer.liveFill other := by
  unfold ChainStateWriter.eraseFill
  cases found : writer.liveFill fillId with
  | none =>
    by_cases same : other = fillId
    · rw [if_pos same,same,found]
    · rw [if_neg same]
  | some fill =>
    by_cases same : other = fillId
    · subst same
      simp [ChainStateWriter.liveFill]
    · simp [ChainStateWriter.liveFill,same,AList.lookup_insert_ne same]
theorem eraseWindow {writer : ChainStateWriter} {fillId : String} {fill : Fill}
    (found : writer.liveFill fillId = some fill.applied)
    (entityId : String) :
    ((writer.eraseFill fillId).windowOf entityId).live =
      if entityId = fill.entityId then
        (writer.windowOf entityId).live.filter fun entry => decide (entry.fillId ≠ fillId)
      else (writer.windowOf entityId).live := by
  unfold ChainStateWriter.eraseFill
  rw [found]
  by_cases same : entityId = fill.entityId
  · subst same
    rw [if_pos rfl,← liveMarkRemoved]
    simp [ChainStateWriter.windowOf,Fill.applied]
  · simp [ChainStateWriter.windowOf,Fill.applied,same,AList.lookup_insert_ne same]

theorem eraseTracks {fills : List Fill} {writer : ChainStateWriter} {fillId : String}
    (tracks : Tracks fills writer) (named : fillId ≠ "") :
    Tracks (fills.filter fun fill => decide (fill.fillId ≠ fillId)) (writer.eraseFill fillId) where
  once := List.Pairwise.filter _ tracks.once
  live := by
    intro other asked
    rw [eraseLive,List.find?_filter]
    by_cases same : other = fillId
    · subst same
      rw [if_pos rfl,List.find?_eq_none.mpr (by simp)]
      rfl
    · rw [if_neg same,tracks.live other asked]
      congr 2
      funext fill
      by_cases this : fill.fillId = other
      · simp [this,same]
      · simp [this]
  anonymous := by
    rw [eraseLive,if_neg (Ne.symm named)]
    exact tracks.anonymous
  windows := by
    intro entityId
    rw [List.filter_filter]
    cases found : fills.find? fun fill => decide (fill.fillId = fillId) with
    | none =>
      have gone : writer.liveFill fillId = none := by rw [tracks.live fillId named,found]; rfl
      have absent : ∀ fill ∈ fills, fill.fillId ≠ fillId := by simpa using found
      have unchanged : writer.eraseFill fillId = writer := by rw [ChainStateWriter.eraseFill,gone]
      rw [unchanged,tracks.windows entityId]
      congr 1
      refine List.filter_congr fun fill mem => ?_
      simp [absent fill mem]
    | some fill =>
      have shown : writer.liveFill fillId = some fill.applied := by rw [tracks.live fillId named,found]; rfl
      have id : fill.fillId = fillId := by simpa using List.find?_some found
      rw [eraseWindow shown,tracks.windows entityId]
      by_cases same : entityId = fill.entityId
      · rw [if_pos same,List.filter_map,List.filter_filter]
        congr 2
        funext other
        exact Bool.and_comm _ _
      · rw [if_neg same]
        congr 1
        refine List.filter_congr fun other mem => ?_
        by_cases own : other.fillId = fillId
        · have eq := onceEq tracks.once mem (List.mem_of_find?_eq_some found) (own.trans id.symm) (own ▸ named)
          have elsewhere : other.entityId ≠ entityId := fun at' => same (by rw [← at',eq])
          simp [elsewhere]
        · simp [own]
  void := fun fill mem => tracks.void fill (List.mem_of_mem_filter mem)

theorem confirmedLotsFilter {fills : List Fill} {keep : Fill → Bool} {entityId : String} {side : AggressorSide}
    {nowNs windowNs : Nat}
    (idle : ∀ fill ∈ fills, keep fill = false → fill.entityId = entityId → fill.within nowNs windowNs = true →
      fill.sizeLots = 0) :
    confirmedLots (fills.filter keep) entityId side nowNs windowNs =
      confirmedLots fills entityId side nowNs windowNs := by
  induction fills with
  | nil => rfl
  | cons fill rest ih =>
    have later := ih fun other mem => idle other (List.mem_cons_of_mem _ mem)
    rw [List.filter_cons,confirmedLotsCons fill rest]
    cases kept : keep fill with
    | true =>
      rw [if_pos rfl,confirmedLotsCons,later]
    | false =>
      have none : (if fill.entityId = entityId ∧ fill.side = side ∧ fill.within nowNs windowNs = true then
          fill.sizeLots
        else 0) = 0 := by
        split
        · next shown => exact idle fill List.mem_cons_self kept shown.1 shown.2.2
        · rfl
      rw [none,Int.zero_add]
      exact later
theorem withinTen {fill : Fill} {nowNs : Nat} (recent : fill.within nowNs kTwoSecondsNs = true) :
    fill.within nowNs kTenSecondsNs = true := by
  have wider : kTwoSecondsNs ≤ kTenSecondsNs := by decide
  simp only [Fill.within,Bool.and_eq_true,decide_eq_true_eq] at recent ⊢
  exact ⟨recent.1,Nat.le_trans recent.2 wider⟩
theorem showsTotalsFilter {fills : List Fill} {keep : Fill → Bool} {entityId : String} {nowNs : Nat}
    {state : ConfirmedTradeState}
    (shown : ShowsTotals fills entityId nowNs state)
    (idle : ∀ fill ∈ fills, keep fill = false → fill.entityId = entityId →
      fill.within nowNs kTenSecondsNs = true → fill.sizeLots = 0) :
    ShowsTotals (fills.filter keep) entityId nowNs state where
  buy2s := shown.buy2s.trans
    (confirmedLotsFilter fun fill mem gone own recent => idle fill mem gone own (withinTen recent)).symm
  sell2s := shown.sell2s.trans
    (confirmedLotsFilter fun fill mem gone own recent => idle fill mem gone own (withinTen recent)).symm
  buy10s := shown.buy10s.trans (confirmedLotsFilter idle).symm
  sell10s := shown.sell10s.trans (confirmedLotsFilter idle).symm

/-! One event. -/

structure Agrees (ledger : FillLedger) (writer : ChainStateWriter) : Prop where
  tracks : Tracks ledger.confirmed writer
  reflects : ReflectsLedger ledger writer
  owned : ∀ entityId fill, ledger.lastTrade entityId = some fill → fill.entityId = entityId

theorem knownIff {ledger : FillLedger} {writer : ChainStateWriter} (tracks : Tracks ledger.confirmed writer)
    {fillId : String}
    (named : fillId ≠ "") : (writer.liveFill fillId).isSome = true ↔ Known ledger fillId := by
  rw [tracks.live fillId named,Option.isSome_map,List.find?_isSome]
  simp [Known]
theorem touchAgrees {ledger : FillLedger} {writer : ChainStateWriter} {event : MarketStateEvent}
    {state : ConfirmedTradeState}
    (agrees : Agrees ledger writer) (placed : resolveEntityId event ≠ "")
    (fit : TotalsFit ledger.confirmed (resolveEntityId event) event.chainFill.chainSeenMonotonicNs)
    (kept : ∀ fills trade, ShowsTrade fills trade (writer.stateOf (resolveEntityId event)) →
      ShowsTrade fills trade state) :
    Agrees (ledger.touch event)
      (writer.store (resolveEntityId event) state event.chainFill.chainSeenMonotonicNs) := by
  rw [FillLedger.touch,if_neg placed]
  exact ⟨storeTracks agrees.tracks _ _ _,
    storeReflects agrees.tracks (fun entityId _ => agrees.reflects.totals entityId)
      (fun entityId _ => agrees.reflects.trade entityId)
      (kept _ _ (agrees.reflects.trade _)) fit,
    agrees.owned⟩

theorem showsTradeMono {fills more : List Fill} {trade : Option Fill} {state : ConfirmedTradeState}
    (shown : ShowsTrade fills trade state) (kept : ∀ fill, trade = some fill → fill ∈ fills → fill ∈ more) :
    ShowsTrade more trade state := by
  cases trade with
  | none => exact shown
  | some fill => exact ⟨kept fill rfl shown.1,shown.2⟩
theorem confirmedLotsSnoc (fills : List Fill) (fill : Fill) {entityId : String}
    (other : fill.entityId ≠ entityId) (side : AggressorSide)
    (nowNs windowNs : Nat) :
    confirmedLots (fills ++ [fill]) entityId side nowNs windowNs =
      confirmedLots fills entityId side nowNs windowNs := by
  simp [confirmedLots,other]
theorem addAgrees {ledger : FillLedger} {writer : ChainStateWriter} {event : MarketStateEvent}
    (agrees : Agrees ledger writer)
    (placed : resolveEntityId event ≠ "") (adds : AddsFill ledger event)
    (counted : event.chainFill.fillId ≠ "" ∨ event.chainFill.sizeLots = 0)
    (fit : TotalsFit (ledger.add (fillOf event)).confirmed
      (resolveEntityId event) event.chainFill.chainSeenMonotonicNs) :
    Agrees ((ledger.add (fillOf event)).touch event)
      ((writer.recordFill (resolveEntityId event) event.chainFill).store (resolveEntityId event)
        (traded (seen (writer.stateOf (resolveEntityId event)) event.chainFill) event.chainFill)
        event.chainFill.chainSeenMonotonicNs) := by
  have fresh : event.chainFill.fillId ≠ "" → ∀ other ∈ ledger.confirmed, other.fillId ≠ event.chainFill.fillId :=
    fun named other mem same => adds.1 ⟨named,other,mem,same⟩
  have tracks := recordTracks agrees.tracks fresh counted
  have states : ∀ entityId,
      (writer.recordFill (resolveEntityId event) event.chainFill).stateOf entityId = writer.stateOf entityId := by
    intro entityId
    unfold ChainStateWriter.recordFill
    split <;> rfl
  rw [FillLedger.touch,if_neg placed]
  refine ⟨storeTracks tracks _ _ _,storeReflects (l := ledger.add (fillOf event)) tracks ?_ ?_ ?_ fit,?_⟩
  · intro entityId other t touched
    have shown := agrees.reflects.totals entityId t touched
    have lots := fun side => confirmedLotsSnoc ledger.confirmed (fillOf event) (Ne.symm other) side t
    rw [states]
    exact ⟨shown.buy2s.trans (lots _ _).symm,shown.sell2s.trans (lots _ _).symm,shown.buy10s.trans (lots _ _).symm,
      shown.sell10s.trans (lots _ _).symm⟩
  · intro entityId other
    have unchanged : (ledger.add (fillOf event)).lastTrade entityId = ledger.lastTrade entityId :=
      Function.update_of_ne other _ _
    rw [states,unchanged]
    exact showsTradeMono (agrees.reflects.trade entityId) fun fill _ mem => List.mem_append_left _ mem
  · have last : (ledger.add (fillOf event)).lastTrade (resolveEntityId event) = some (fillOf event) :=
      Function.update_self _ _ _
    rw [last]
    exact ⟨List.mem_append_right _ List.mem_cons_self,rfl,rfl,rfl,rfl⟩
  · intro entityId fill last
    by_cases same : entityId = resolveEntityId event
    · subst same
      have eq : fillOf event = fill := by simpa [FillLedger.add,fillOf] using last
      exact eq ▸ rfl
    · exact agrees.owned entityId fill (by simpa [FillLedger.add,fillOf,Function.update_of_ne same] using last)

theorem removeAgrees {ledger : FillLedger} {writer : ChainStateWriter} {event : MarketStateEvent}
    {state : ConfirmedTradeState}
    (agrees : Agrees ledger writer) (placed : resolveEntityId event ≠ "")
    (removable : ∀ fill ∈ ledger.confirmed, fill.fillId = event.chainFill.fillId → fill.fillId ≠ "" →
      Removable ledger event fill)
    (fit : TotalsFit (ledger.remove event.chainFill.fillId).confirmed
      (resolveEntityId event) event.chainFill.chainSeenMonotonicNs)
    (kept : ∀ fills trade, ShowsTrade fills trade (writer.stateOf (resolveEntityId event)) →
      ShowsTrade fills trade state) :
    Agrees ((ledger.remove event.chainFill.fillId).touch event)
      ((writer.eraseFill event.chainFill.fillId).store
        (resolveEntityId event) state event.chainFill.chainSeenMonotonicNs) := by
  by_cases named : event.chainFill.fillId = ""
  · have noFill : writer.eraseFill event.chainFill.fillId = writer := by
      rw [ChainStateWriter.eraseFill,named,agrees.tracks.anonymous]
    rw [FillLedger.remove,if_pos named] at fit ⊢
    rw [noFill]
    exact touchAgrees agrees placed fit kept
  · have tracks := eraseTracks agrees.tracks named
    have states : ∀ entityId,
        (writer.eraseFill event.chainFill.fillId).stateOf entityId = writer.stateOf entityId := by
      intro entityId
      unfold ChainStateWriter.eraseFill
      split <;> rfl
    have removed : ledger.remove event.chainFill.fillId =
        { ledger with
          confirmed := ledger.confirmed.filter fun fill => decide (fill.fillId ≠ event.chainFill.fillId) } :=
      if_neg named
    have trades : ∀ entityId fill, ledger.lastTrade entityId = some fill → fill ∈ ledger.confirmed →
        fill ∈ ledger.confirmed.filter fun fill => decide (fill.fillId ≠ event.chainFill.fillId) := by
      intro entityId fill last mem
      refine List.mem_filter.mpr ⟨mem,?_⟩
      by_contra dropped
      have same : fill.fillId = event.chainFill.fillId := by simpa using dropped
      obtain ⟨-,shown,-⟩ := removable fill mem same (same ▸ named)
      exact shown (agrees.owned entityId fill last ▸ last)
    rw [removed] at fit
    rw [FillLedger.touch,if_neg placed,removed]
    refine ⟨storeTracks tracks _ _ _,storeReflects
      (l := {ledger with confirmed := _}) tracks ?_ ?_ ?_ fit,agrees.owned⟩
    · intro entityId other t touched
      rw [states]
      refine showsTotalsFilter (agrees.reflects.totals entityId t touched) fun fill mem gone own recent => ?_
      have same : fill.fillId = event.chainFill.fillId := by simpa using gone
      obtain ⟨-,-,here | empty | expired⟩ := removable fill mem same (same ▸ named)
      · exact absurd (own.symm.trans here.symm) other
      · exact empty
      · rw [expired t (own ▸ touched)] at recent
        cases recent
    · intro entityId _
      rw [states]
      exact showsTradeMono (agrees.reflects.trade entityId) (trades entityId)
    · exact kept _ _ (showsTradeMono (agrees.reflects.trade _) (trades _))

theorem seenKeepsTrade {fills : List Fill} {trade : Option Fill} {state : ConfirmedTradeState}
    {fill : ClassifiedFillRecord}
    (shown : ShowsTrade fills trade state) : ShowsTrade fills trade (seen state fill) := by
  cases trade <;> exact shown
theorem applyRemovedAgrees {ledger : FillLedger} {writer : ChainStateWriter} {event : MarketStateEvent}
    (agrees : Agrees ledger writer)
    (removable : ∀ fill ∈ ledger.confirmed, fill.fillId = event.chainFill.fillId → fill.fillId ≠ "" →
      Removable ledger event fill)
    (fit : TotalsFit (ledger.remove event.chainFill.fillId).confirmed
      (resolveEntityId event) event.chainFill.chainSeenMonotonicNs) :
    Agrees ((ledger.remove event.chainFill.fillId).touch event) (applyRemoved writer event).1 := by
  by_cases placed : resolveEntityId event = ""
  · -- Nothing confirmed has this id, or its removal would name an entity.
    have unchanged : ledger.remove event.chainFill.fillId = ledger := by
      unfold FillLedger.remove
      by_cases named : event.chainFill.fillId = ""
      · rw [if_pos named]
      · rw [if_neg named,List.filter_eq_self.mpr]
        intro fill mem
        by_contra dropped
        have same : fill.fillId = event.chainFill.fillId := by simpa using dropped
        exact (removable fill mem same (same ▸ named)).1 placed
    rw [unchanged,FillLedger.touch,if_pos placed,applyRemoved,if_pos placed]
    exact agrees
  · rw [applyRemoved,if_neg placed]
    refine removeAgrees agrees placed removable fit fun fills trade shown => ?_
    cases trade <;> exact shown
theorem applyConfirmedAgrees {ledger : FillLedger} {writer : ChainStateWriter} {event : MarketStateEvent}
    (agrees : Agrees ledger writer)
    (placed : resolveEntityId event ≠ "")
    (counted : AddsFill ledger event → event.chainFill.fillId ≠ "" ∨ event.chainFill.sizeLots = 0)
    (fit : TotalsFit (if AddsFill ledger event then ledger.add (fillOf event) else ledger).confirmed
      (resolveEntityId event)
      event.chainFill.chainSeenMonotonicNs) :
    Agrees (if AddsFill ledger event then (ledger.add (fillOf event)).touch event else ledger.touch event)
      (applyConfirmed writer event).1 := by
  have duplicateIff : (event.chainFill.fillId ≠ "" ∧ (writer.liveFill event.chainFill.fillId).isSome = true) ↔
      event.chainFill.fillId ≠ "" ∧ Known ledger event.chainFill.fillId :=
    and_congr_right fun named => knownIff agrees.tracks named
  rw [applyConfirmed,if_neg placed]
  by_cases duplicate : event.chainFill.fillId ≠ "" ∧ Known ledger event.chainFill.fillId
  · have none : ¬ AddsFill ledger event := fun adds => adds.1 duplicate
    rw [if_neg none] at fit ⊢
    rw [if_pos (duplicateIff.mpr duplicate)]
    exact touchAgrees agrees placed fit fun _ _ => seenKeepsTrade
  · rw [if_neg (mt duplicateIff.mp duplicate)]
    by_cases ambiguous : isAmbiguous event.chainFill = true
    · have none : ¬ AddsFill ledger event := fun adds => absurd (adds.2.1.symm.trans ambiguous) Bool.false_ne_true
      rw [if_neg none] at fit ⊢
      rw [if_pos ambiguous]
      refine touchAgrees agrees placed fit fun fills trade shown => ?_
      cases trade <;> exact shown
    · rw [if_neg ambiguous]
      by_cases unknown : mapDirection event.chainFill.direction = .unknown
      · have none : ¬ AddsFill ledger event := fun adds => adds.2.2 unknown
        rw [if_neg none] at fit ⊢
        rw [if_pos unknown]
        refine touchAgrees agrees placed fit fun fills trade shown => ?_
        cases trade <;> exact shown
      · have adds : AddsFill ledger event := ⟨duplicate,Bool.eq_false_iff.mpr ambiguous,unknown⟩
        rw [if_pos adds] at fit ⊢
        rw [if_neg unknown]
        exact addAgrees agrees placed adds (counted adds) fit

theorem touchConfirmed (ledger : FillLedger) (event : MarketStateEvent) :
    (ledger.touch event).confirmed = ledger.confirmed := by
  unfold FillLedger.touch
  split <;> rfl
theorem ledgerOfSnoc (log : List (MarketStateEvent × ChainApplyResult))
    (entry : MarketStateEvent × ChainApplyResult) :
    ledgerOf (log ++ [entry]) = (ledgerOf log).record entry.1 := by
  simp [ledgerOf]
theorem applyAgrees {writer : ChainStateWriter} {log : List (MarketStateEvent × ChainApplyResult)}
    {event : MarketStateEvent}
    (agrees : Agrees (ledgerOf log) writer) (reversible : Reversible writer log event) :
    Agrees ((ledgerOf log).record event) (apply writer event).1 := by
  obtain ⟨revocable,fit⟩ := reversible
  unfold FillLedger.record at fit ⊢
  unfold apply
  unfold Revocable at revocable
  by_cases removal : isRemoval event = true
  · simp only [removal,true_or,forall_const,if_true,touchConfirmed] at revocable fit ⊢
    exact applyRemovedAgrees agrees revocable fit
  · simp only [removal,Bool.false_eq_true,if_false] at revocable fit ⊢
    by_cases confirmation : isConfirmation event = true
    · simp only [confirmation,or_true,forall_const,true_and,if_true] at revocable fit ⊢
      by_cases placed : resolveEntityId event = ""
      · have rejected : (applyConfirmed writer event).1 = writer := by rw [applyConfirmed,if_pos placed]
        have untouched : (ledgerOf log).touch event = ledgerOf log := if_pos placed
        rw [rejected,if_neg fun adds => adds.1 placed,untouched]
        exact agrees
      · simp only [ne_eq,placed,not_false_eq_true,true_and] at fit ⊢
        refine applyConfirmedAgrees agrees placed (fun adds => revocable ⟨placed,adds⟩) ?_
        by_cases adds : AddsFill (ledgerOf log) event
        · rw [if_pos adds,touchConfirmed] at fit
          rwa [if_pos adds]
        · rw [if_neg adds,touchConfirmed] at fit
          rwa [if_neg adds]
    · simp only [confirmation,false_and,Bool.false_eq_true,if_false]
      exact agrees

theorem emptyAgrees : Agrees {} {} where
  tracks :=
    ⟨List.Pairwise.nil,fun _ _ => rfl,rfl,fun _ => rfl,fun _ mem => nomatch mem⟩
  reflects :=
    ⟨List.Pairwise.nil,fun _ _ touched => (nomatch touched),fun _ => rfl⟩
  owned := fun _ _ last => nomatch last

theorem reversibleReflected (events : List MarketStateEvent)
    (reversible : Machine.Along apply Reversible {} [] events) :
    Machine.Along apply StaysReflected {} [] events := by
  refine Machine.alongImp (P := fun writer log => Agrees (ledgerOf log) writer) ?_ ?_ emptyAgrees reversible
  · intro writer log event agrees step
    rw [ledgerOfSnoc]
    exact applyAgrees agrees step
  · intro writer log event agrees step
    exact (applyAgrees agrees step).reflects

def fillEvent (type : MarketStateEventType) (fillId assetId : String) (sizeLots : Int) (seenNs : Nat) :
    MarketStateEvent :=
  {type, assetId, chainFill :=
    {fillId, assetId, priceTick := 50, sizeLots, direction := .buyAggressor, mappingStatus := .mapped,
      classification := .chainConfirmed, chainSeenMonotonicNs := seenNs}}
theorem removalOfOlderFillReflected :
    Machine.Along apply StaysReflected {} []
      [fillEvent .chainConfirmedFill "f" "A" 7 1000000000,fillEvent .chainConfirmedFill "g" "A" 5 1500000000,
        fillEvent .chainConfirmedFill "f" "A" 7 1600000000,fillEvent .chainRemovedFill "f" "A" 7 1700000000] :=
  reversibleReflected _ (by decide +kernel)
-- The last trade of A stays the removed fill; a removal that names B leaves A's totals as they were.
theorem removedFillStaysShown :
    ¬ Machine.Along apply StaysReflected {} []
        [fillEvent .chainConfirmedFill "f" "A" 7 1000000000,fillEvent .chainRemovedFill "f" "A" 7 1500000000] ∧
      ¬ Machine.Along apply StaysReflected {} []
        [fillEvent .chainConfirmedFill "f" "A" 7 1000000000,fillEvent .chainConfirmedFill "g" "A" 5 1500000000,
          fillEvent .chainRemovedFill "f" "B" 7 1700000000] := by
  constructor
  · intro along
    have shown := along.2.1.trade "A"
    revert shown
    decide +kernel
  · intro along
    have total := (along.2.2.1.totals "A" 1500000000 (by decide +kernel)).buy10s
    revert total
    decide +kernel

end Polytope.ChainFills
