import Polytope.FixedPointMath
import Polytope.Binary64
import Polytope.Fnv

/-! Order-book depth as Signal and Risk read it: a raw snapshot with price levels, the
depth view with its cumulative prefix, and the two VWAP walks over the ask side. A count
and its array are one list; the array bound stays explicit where the source clips to it. -/
namespace Polytope.MarketDepth
open FixedPointMath

def kMaxSnapshotDepth : Nat := 64

structure PriceLevel where
  priceTick : Int
  size : Binary64.Double
  deriving DecidableEq, Repr

structure PrefixLevel where
  cumQty : Int
  cumCost : Int
  deriving DecidableEq, Repr
structure DepthPrefix where
  asks : List PrefixLevel := []
  bids : List PrefixLevel := []
  deriving DecidableEq, Repr

structure MarketStateSnapshot where
  entityId : String
  version : Nat := 0
  lastBookUpdateNs : Nat := 0
  live : Bool := false
  recovering : Bool := false
  closed : Bool := false
  resolved : Bool := false
  crossed : Bool := false
  hasAsk : Bool := false
  bids : List PriceLevel := []
  asks : List PriceLevel := []
  snapshotVersionHash : UInt64 := 0
  stateHash : UInt64 := 0
  usableForDepth : Bool := false
  deriving DecidableEq, Repr

structure MarketDepthView where
  assetIndex : Nat := 0
  bookVersion : Nat := 0
  snapshotVersionHash : UInt64 := 0
  lastWsRecvNs : Nat := 0
  usableForDepth : Bool := false
  recovering : Bool := false
  crossed : Bool := false
  closed : Bool := false
  resolved : Bool := false
  bids : List PriceLevel := []
  asks : List PriceLevel := []
  depthPrefix : DepthPrefix := {}
  deriving DecidableEq, Repr
def hashDepthViews (views : List MarketDepthView) : UInt64 :=
  views.foldl (fun hash view =>
    Fnv.mixNat (Fnv.mixU64 (Fnv.mixNat (Fnv.mixNat hash view.assetIndex) view.bookVersion)
      view.snapshotVersionHash) view.lastWsRecvNs)
    Fnv.offset

def priceLevelSizeLots (level : PriceLevel) : Int :=
  if Binary64.isFinite level.size = false ∨ Binary64.value level.size ≤ 0 then 0
  else if 9223372036854775808 ≤ Binary64.value level.size then i64Max
  else (Binary64.value level.size).floor

theorem sizeLotsNonneg (level) : 0 ≤ priceLevelSizeLots level := by
  unfold priceLevelSizeLots
  split
  · exact le_rfl
  · split
    · decide
    · next positive _ =>
      rw [not_or,not_le] at positive
      exact Rat.le_floor_iff.mpr (le_of_lt positive.2)

theorem sizeLotsFits (level) : priceLevelSizeLots level ≤ i64Max := by
  unfold priceLevelSizeLots
  split
  · decide
  · split
    · exact le_rfl
    · next below =>
      rw [not_le] at below
      have upper : (Binary64.value level.size).floor < 9223372036854775808 := by
        rw [Rat.floor_lt_iff]
        exact_mod_cast below
      simp only [i64Max]
      omega

def levelLots (level : PriceLevel) : Int :=
  if 0 < level.priceTick then priceLevelSizeLots level else 0

def prefixFrom (qty cost : Int) : List PriceLevel → List PrefixLevel
  | [] => []
  | level::rest =>
    let available := levelLots level
    let levelCost := if 0 < available then saturatingMulI64 level.priceTick available else 0
    let qty' := saturatingAddI64 qty available
    let cost' := saturatingAddI64 cost levelCost
    ⟨qty',cost'⟩::prefixFrom qty' cost' rest
def buildDepthPrefix (bids asks : List PriceLevel) : DepthPrefix :=
  ⟨prefixFrom 0 0 (asks.take kMaxSnapshotDepth),prefixFrom 0 0 (bids.take kMaxSnapshotDepth)⟩
def askDepthFromPrefix (p : DepthPrefix) : Int := (p.asks.getLast?.map PrefixLevel.cumQty).getD 0

def marketDepthViewFromSnapshot (s : MarketStateSnapshot) (assetIndex : Nat) : MarketDepthView :=
  let bids := s.bids.take kMaxSnapshotDepth
  let asks := s.asks.take kMaxSnapshotDepth
  { assetIndex, bids, asks
    bookVersion := s.version
    snapshotVersionHash := if s.snapshotVersionHash ≠ 0 then s.snapshotVersionHash else s.stateHash
    lastWsRecvNs := s.lastBookUpdateNs
    usableForDepth := s.usableForDepth
    recovering := s.recovering
    crossed := s.crossed
    closed := s.closed
    resolved := s.resolved
    depthPrefix := buildDepthPrefix bids asks }

structure VwapMathResult where
  ok : Bool := false
  totalCostTick : Int := 0
  vwapTick : Int := 0
  worstPriceTick : Int := 0
  executableQtyLots : Int := 0
  deriving DecidableEq, Repr

structure LinearWalk where
  remaining : Int
  result : VwapMathResult
  deriving DecidableEq, Repr

-- One iteration of the level loop. The depth total keeps growing after the order is filled.
def linearLevel (w : LinearWalk) (level : PriceLevel) : Option LinearWalk :=
  let available := priceLevelSizeLots level
  if level.priceTick ≤ 0 ∨ available ≤ 0 then some w else do
    let executable ← checkedAddI64 w.result.executableQtyLots available
    if w.remaining ≤ 0 then some {w with result := {w.result with executableQtyLots := executable}}
    else
      let take := min w.remaining available
      let levelCost ← checkedMulI64 level.priceTick take
      let total ← checkedAddI64 w.result.totalCostTick levelCost
      some ⟨w.remaining - take,
        {w.result with
          executableQtyLots := executable
          totalCostTick := total
          worstPriceTick := max w.result.worstPriceTick level.priceTick}⟩

def buyVwapLinear (asks : List PriceLevel) (qtyLots : Int) : VwapMathResult :=
  if asks = [] ∨ qtyLots ≤ 0 then {} else
    match asks.foldlM linearLevel ⟨qtyLots,{}⟩ with
    | none => {}
    | some w =>
      if 0 < w.remaining then w.result
      else {w.result with ok := true, vwapTick := w.result.totalCostTick.tdiv qtyLots}

def buyVwapPrefix (p : DepthPrefix) (asks : List PriceLevel) (qtyLots : Int) : VwapMathResult :=
  if qtyLots ≤ 0 ∨ p.asks = [] ∨ asks = [] ∨ asks.length < p.asks.length then {} else
    let visible := askDepthFromPrefix p
    let failed : VwapMathResult := {executableQtyLots := visible}
    if visible < qtyLots then failed else
      match p.asks.findIdx? (fun level => decide (qtyLots ≤ level.cumQty)) with
      | none => failed
      | some index =>
        let before := if index = 0 then ⟨0,0⟩ else p.asks.getD (index - 1) ⟨0,0⟩
        let remaining := qtyLots - before.cumQty
        let price := (asks.map PriceLevel.priceTick).getD index 0
        if remaining < 0 ∨ price ≤ 0 then failed else
          match checkedMulI64 price remaining with
          | none => {}
          | some partialCost =>
            match checkedAddI64 before.cumCost partialCost with
            | none => {}
            | some total => ⟨true,total,total.tdiv qtyLots,price,visible⟩

def visibleAskLots (asks : List PriceLevel) : Int := (asks.map levelLots).sum

theorem linearLevelDepth {w level next} (h : linearLevel w level = some next) :
    next.result.executableQtyLots = w.result.executableQtyLots + levelLots level := by
  unfold linearLevel at h
  simp only at h
  split at h
  · next skipped =>
    cases Option.some.inj h
    have := sizeLotsNonneg level
    unfold levelLots
    split <;> omega
  · next counted =>
    rw [not_or,not_le,not_le] at counted
    simp only [bind,Option.bind_eq_some_iff] at h
    obtain ⟨executable,sum,last⟩ := h
    obtain ⟨_,rfl⟩ := checkedAddExact.mp sum
    split at last
    · cases Option.some.inj last
      simp [levelLots,counted.1]
    · simp only [Option.bind_eq_some_iff] at last
      obtain ⟨_,_,_,_,last⟩ := last
      cases Option.some.inj last
      simp [levelLots,counted.1]

theorem linearWalkDepth {asks w out} (h : asks.foldlM linearLevel w = some out) :
    out.result.executableQtyLots = w.result.executableQtyLots + visibleAskLots asks := by
  induction asks generalizing w with
  | nil =>
    cases Option.some.inj h
    simp [visibleAskLots]
  | cons level rest ih =>
    rw [List.foldlM_cons] at h
    obtain ⟨next,first,later⟩ := Option.bind_eq_some_iff.mp h
    have step := linearLevelDepth first
    have rest := ih later
    simp only [visibleAskLots,List.map_cons,List.sum_cons] at rest ⊢
    omega

theorem buyVwapLinearDepth {asks qtyLots} (ok : (buyVwapLinear asks qtyLots).ok = true) :
    (buyVwapLinear asks qtyLots).executableQtyLots = visibleAskLots asks := by
  by_cases idle : asks = [] ∨ qtyLots ≤ 0
  · simp [buyVwapLinear,idle] at ok
  · cases walk : asks.foldlM linearLevel ⟨qtyLots,{}⟩ with
    | none => simp [buyVwapLinear,idle,walk] at ok
    | some w =>
      have depth := linearWalkDepth walk
      simp only [zero_add] at depth
      simp only [buyVwapLinear,idle,walk,if_false]
      split <;> exact depth

end Polytope.MarketDepth
