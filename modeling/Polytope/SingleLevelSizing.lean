import Polytope.OrderDecisionEngine
import Mathlib.Tactic.Ring

/-! Bundles whose legs all stand on books of one ask level and give the same whole number of
bundles. There is one quantity to try, every leg costs its price, and whether the bundle is
worth taking is a question about the cost of one bundle. -/
namespace Polytope.SingleLevelSizing
open FixedPointMath MarketDepth SizeCandidates BundleSizing OrderDecisionEngine
open RiskTypes (RiskPolicySnapshot)

structure BookedLeg where
  depth : MarketDepthView
  ratio : Int
  price : Int
  size : Int
  deriving DecidableEq
def BookedLeg.curve (b : BookedLeg) : CostCurve := ⟨[⟨b.price,b.size,b.size,b.price * b.size⟩],b.size⟩
def BookedLeg.sizing (b : BookedLeg) : SizingLeg := ⟨b.ratio,b.depth,b.curve⟩
def unitCost (books : List BookedLeg) : Int := (books.map fun b => b.price * b.ratio).sum

structure BookedLeg.Sound (q : Int) (b : BookedLeg) : Prop where
  ratio : 0 < b.ratio
  price : 0 < b.price
  enough : b.ratio ≤ b.size
  qty : b.size.tdiv b.ratio = q
  sizeFits : b.size ≤ i64Max
  costFits : InI64 (b.price * b.size)

def LegDeep (minDepthMarginBps q : Int) (b : BookedLeg) : Prop :=
  0 < minDepthMarginBps → minDepthMarginBps * (b.ratio * q) ≤ b.size * 10000
instance (m q b) : Decidable (LegDeep m q b) := by unfold LegDeep; infer_instance

def Worthwhile (policy : RiskPolicySnapshot) (payout q : Int) (books : List BookedLeg) : Prop :=
  (∀ b ∈ books, LegDeep policy.minDepthMarginBps q b) ∧
  (0 < policy.maxTotalCostTick → unitCost books * q ≤ policy.maxTotalCostTick) ∧
  InI64 ((payout - unitCost books) * q) ∧
  policy.minPostRiskUnitEdgeTick ≤ payout - unitCost books ∧
  policy.minPostRiskTotalEdgeTick ≤ (payout - unitCost books) * q ∧
  policy.minEdgeBps ≤ ratioBps (payout - unitCost books) (unitCost books)
instance (policy payout q books) : Decidable (Worthwhile policy payout q books) := by
  unfold Worthwhile; infer_instance

/-! Arithmetic of one leg. -/

theorem lotsFit {q} {b : BookedLeg} (sound : b.Sound q) : 0 < b.ratio * q ∧ b.ratio * q ≤ b.size := by
  have nonneg : 0 ≤ b.size := le_trans (le_of_lt sound.ratio) sound.enough
  have whole : b.size / b.ratio = q := by
    rw [← Int.tdiv_eq_ediv_of_nonneg nonneg]
    exact sound.qty
  have positive : 1 ≤ q := by
    rw [← whole]
    exact (Int.le_ediv_iff_mul_le sound.ratio).mpr (by simpa using sound.enough)
  refine ⟨Int.mul_pos sound.ratio (by omega),?_⟩
  rw [← whole]
  exact Int.mul_ediv_self_le (ne_of_gt sound.ratio)

theorem lotsChecked {q} {b : BookedLeg} (sound : b.Sound q) : checkedMulI64 b.ratio q = some (b.ratio * q) := by
  obtain ⟨positive,within⟩ := lotsFit sound
  exact checkedMulExact.mpr ⟨⟨le_trans (by decide) (le_of_lt positive),le_trans within sound.sizeFits⟩,rfl⟩

theorem legCostFits {q} {b : BookedLeg} (sound : b.Sound q) : InI64 (b.price * (b.ratio * q)) := by
  obtain ⟨positive,within⟩ := lotsFit sound
  have lower : 0 ≤ b.price * (b.ratio * q) := Int.mul_nonneg (le_of_lt sound.price) (le_of_lt positive)
  have upper : b.price * (b.ratio * q) ≤ b.price * b.size :=
    Int.mul_le_mul_of_nonneg_left within (le_of_lt sound.price)
  exact ⟨le_trans (by decide) lower,le_trans upper sound.costFits.2⟩

theorem priceFits {q} {b : BookedLeg} (sound : b.Sound q) : InI64 b.price := by
  have one : 1 ≤ b.size := by
    have := sound.ratio
    have := sound.enough
    omega
  have upper : b.price * 1 ≤ b.price * b.size := Int.mul_le_mul_of_nonneg_left one (le_of_lt sound.price)
  rw [Int.mul_one] at upper
  exact ⟨le_trans (by decide) (le_of_lt sound.price),le_trans upper sound.costFits.2⟩

theorem shortIff {q m} {b : BookedLeg} (sound : b.Sound q) (fits : 10000 < m → InI64 (b.ratio * q * m)) :
    b.size < ceilRatioBps (b.ratio * q) m ↔ ¬ LegDeep m q b := by
  obtain ⟨positive,within⟩ := lotsFit sound
  unfold ceilRatioBps LegDeep
  by_cases plain : b.ratio * q ≤ 0 ∨ m ≤ 10000
  · have small : m ≤ 10000 := plain.resolve_left (by omega)
    rw [if_pos plain]
    refine iff_of_false (by omega) fun short => short fun some => ?_
    calc m * (b.ratio * q) ≤ 10000 * (b.ratio * q) := Int.mul_le_mul_of_nonneg_right small (le_of_lt positive)
      _ ≤ b.size * 10000 := by omega
  · rw [if_neg plain,not_or] at *
    have fits := fits (not_le.mp plain.2)
    have scaled : checkedMulI64 (b.ratio * q) m = some (b.ratio * q * m) := checkedMulExact.mpr ⟨fits,rfl⟩
    have swap : m * (b.ratio * q) = b.ratio * q * m := Int.mul_comm _ _
    have nonneg : 0 ≤ b.ratio * q * m := Int.mul_nonneg (le_of_lt positive) (by omega)
    have upper := fits.2
    simp only [scaled,ceilDivPositive]
    rw [Int.tdiv_eq_ediv_of_nonneg (by omega),swap]
    simp only [i64Max] at upper ⊢
    omega

theorem marginIff {q m} {b : BookedLeg} (sound : b.Sound q) (some : 0 < m) (fits : m ≤ i64Max) :
    ratioBps b.size (b.ratio * q) < m ↔ ¬ LegDeep m q b := by
  obtain ⟨positive,within⟩ := lotsFit sound
  have nonneg : 0 ≤ b.size * 10000 := by omega
  have quotient : 0 ≤ b.size * 10000 / (b.ratio * q) := Int.ediv_nonneg nonneg (le_of_lt positive)
  have clamped : ratioBps b.size (b.ratio * q) < m ↔ b.size * 10000 / (b.ratio * q) < m := by
    rw [ratioBps,if_neg (by omega),Int.tdiv_eq_ediv_of_nonneg nonneg]
    simp only [clampI64,i64Max,i64Min] at fits ⊢
    omega
  rw [clamped,Int.ediv_lt_iff_lt_mul positive,LegDeep]
  constructor
  · intro short deep
    have := deep some
    omega
  · intro short
    by_contra deep
    exact short fun _ => by omega

theorem levelAdded {q} {b : BookedLeg} {level : PriceLevel} (sound : b.Sound q) (price : level.priceTick = b.price)
    (size : priceLevelSizeLots level = b.size) :
    addLevel {} level = some ⟨b.curve.levels,b.size,b.price * b.size⟩ := by
  have some := sound.price
  have ratio := sound.ratio
  have enough := sound.enough
  have cost : checkedMulI64 b.price b.size = .some (b.price * b.size) := checkedMulExact.mpr ⟨sound.costFits,rfl⟩
  have qty : checkedAddI64 0 b.size = .some b.size :=
    checkedZeroAdd ⟨le_trans (show i64Min ≤ 0 by decide) (by omega),sound.sizeFits⟩
  have total := checkedZeroAdd sound.costFits
  have counted : ¬ (kMaxCostCurveLevels ≤ ([] : List CostCurveLevel).length ∨ b.price ≤ 0 ∨ b.size ≤ 0) := by
    simp only [kMaxCostCurveLevels,List.length_nil]
    omega
  simp only [addLevel,price,size,cost,qty,total,bind,Option.bind]
  rw [if_neg counted]
  rfl

theorem curveBuilt {q} {b : BookedLeg} {level : PriceLevel} {leg : CombinatorialBundles.BundleLeg}
    (sound : b.Sound q)
    (buy : leg.side = .buy) (asks : b.depth.asks = [level]) (price : level.priceTick = b.price)
    (size : priceLevelSizeLots level = b.size) : buildBuyCurve leg b.depth = .ok b.curve := by
  have some : ¬ (b.curve.levels = [] ∨ b.size ≤ 0) := by
    have ratio := sound.ratio
    have enough := sound.enough
    simp only [BookedLeg.curve,List.cons_ne_nil,false_or]
    omega
  rw [buildBuyCurve,asks,if_neg (by simp [buy]),if_neg (List.cons_ne_nil _ _),List.foldlM_cons,
    levelAdded sound price size]
  simp only [bind,Option.bind,List.foldlM_nil,pure]
  rw [if_neg some]
  rfl

/-! The cursor has one quantity to offer. -/

theorem streamEnds {bounds rounds last} {legs : List CursorLeg} (positive : 1 ≤ bounds.minBundleQty)
    (ended : ∀ leg ∈ legs, leg.breakpoints = []) : stream bounds rounds last legs = [] := by
  have left : levelsLeft legs = 0 := by
    induction legs with
    | nil => rfl
    | cons leg rest ih =>
      have head := ended leg List.mem_cons_self
      have tail := ih fun other inside => ended other (List.mem_cons_of_mem _ inside)
      simp only [levelsLeft,List.map_cons,List.sum_cons,head,List.length_nil] at tail ⊢
      omega
  induction rounds generalizing last with
  | zero => rfl
  | succ rounds ih => rw [streamMoreRounds positive (by omega),ih]

theorem leastSame {bounds q start} {legs : List CursorLeg} (enough : bounds.minBundleQty ≤ q)
    (same : ∀ leg ∈ legs, leg.candidate bounds = q) (below : q ≤ start) (some : legs ≠ [] ∨ q = start) :
    legs.foldl (fun next leg =>
      let c := leg.candidate bounds
      if bounds.minBundleQty ≤ c ∧ c < next then c else next) start = q := by
  induction legs generalizing start with
  | nil => exact (some.resolve_left fun h => h rfl).symm
  | cons leg rest ih =>
    have head := same leg List.mem_cons_self
    have tail := fun other inside => same other (List.mem_cons_of_mem leg inside)
    simp only [List.foldl_cons,head]
    by_cases lower : bounds.minBundleQty ≤ q ∧ q < start
    · rw [if_pos lower]
      exact ih tail le_rfl (.inr rfl)
    · rw [if_neg lower]
      exact ih tail below (.inr (by omega))

theorem skipKeeps {bounds passed} {leg : CursorLeg} {cumulative} (single : leg.breakpoints = [cumulative])
    (stays : passed (leg.candidate bounds) = false) : leg.skip bounds passed = leg := by
  obtain ⟨ratio,breakpoints⟩ := leg
  subst single
  have kept : List.dropWhile (fun c => passed (candidateAt bounds ratio c)) [cumulative] = [cumulative] :=
    List.dropWhile_cons_of_neg (by rw [Bool.not_eq_true]; exact stays)
  rw [CursorLeg.skip,kept]

theorem enumerateSingle {bounds q} {legs : List CursorLeg} (positive : 1 ≤ bounds.minBundleQty)
    (enough : bounds.minBundleQty ≤ q) (below : q < i64Max) (some : legs ≠ [])
    (single : ∀ leg ∈ legs, ∃ cumulative, leg.breakpoints = [cumulative] ∧
      candidateAt bounds leg.ratio cumulative = q) : enumerate bounds legs = [q] := by
  have offers : ∀ leg ∈ legs, leg.candidate bounds = q := by
    intro leg inside
    obtain ⟨cumulative,only,value⟩ := single leg inside
    rw [CursorLeg.candidate,only]
    exact value
  have kept : advanceInvalidCandidates bounds legs = legs := by
    rw [advanceInvalidCandidates]
    conv_rhs => rw [← List.map_id legs]
    refine List.map_congr_left fun leg inside => ?_
    obtain ⟨cumulative,only,_⟩ := single leg inside
    exact skipKeeps only (by rw [offers leg inside]; exact decide_eq_false (by omega))
  have least : leastCandidate bounds legs = q := leastSame enough offers (le_of_lt below) (.inl some)
  have passed : ∀ leg ∈ passCandidate bounds q legs, leg.breakpoints = [] := by
    intro leg inside
    obtain ⟨old,oldInside,rfl⟩ := List.mem_map.mp inside
    obtain ⟨cumulative,only,value⟩ := single old oldInside
    simp [CursorLeg.skip,only,value]
  have levels : ∃ rounds, levelsLeft legs = rounds + 1 := by
    obtain ⟨leg,rest,rfl⟩ := List.exists_cons_of_ne_nil some
    obtain ⟨cumulative,only,_⟩ := single leg List.mem_cons_self
    refine ⟨levelsLeft rest,?_⟩
    simp only [levelsLeft,List.map_cons,List.sum_cons,only,List.length_singleton]
    omega
  obtain ⟨rounds,count⟩ := levels
  rw [enumerate,count,streamRound,kept,least,if_neg (by omega),if_neg (by omega),streamEnds positive passed]

theorem candidatesBooked {books : List BookedLeg} {q} (sound : ∀ b ∈ books, b.Sound q) (some : books ≠ [])
    (positive : 1 ≤ q) (below : q < i64Max) : candidatesFor {} (books.map BookedLeg.sizing) = [q] := by
  refine enumerateSingle (by decide) (by simpa [OrderDecisionConfig.bounds] using positive) below
    (by simpa using some) ?_
  intro leg inside
  obtain ⟨sizing,inSizing,rfl⟩ := List.mem_map.mp inside
  obtain ⟨b,inBooks,rfl⟩ := List.mem_map.mp inSizing
  refine ⟨b.size,rfl,?_⟩
  have holds := sound b inBooks
  have ratio := holds.ratio
  simp only [candidateAt,SizingLeg.cursor,BookedLeg.sizing,holds.qty,OrderDecisionConfig.bounds]
  rw [if_neg (by omega),if_neg (by omega),if_neg (by omega)]

/-! Filling every leg of a bundle quantity. -/

def Filled (q : Int) (b : BookedLeg) (fill : LegFill) : Prop :=
  fill.qtyLots = b.ratio * q ∧ fill.costTick = b.price * (b.ratio * q) ∧ fill.worstPriceTick = b.price

theorem fillOne (level : CostCurveLevel) (start : List CostCurveLevel) {target total : Int} (some : 0 < target)
    (within : target ≤ level.cumulativeQtyLots) (price : 0 < level.priceTick)
    (costFits : InI64 (level.priceTick * target)) (fits : InI64 (total + level.priceTick * target)) :
    ∃ fill, fillLevels target [level] {levels := start} total = .some (fill,total + level.priceTick * target) ∧
      fill.qtyLots = target ∧ fill.costTick = level.priceTick * target ∧
        fill.worstPriceTick = level.priceTick := by
  have delta : checkedMulI64 level.priceTick target = .some (level.priceTick * target) :=
    checkedMulExact.mpr ⟨costFits,rfl⟩
  have first := checkedZeroAdd costFits
  have sum : checkedAddI64 total (level.priceTick * target) = .some (total + level.priceTick * target) :=
    checkedAddExact.mpr ⟨fits,rfl⟩
  have take : min level.cumulativeQtyLots target = target := by omega
  have room : ¬ (level.cumulativeQtyLots ≤ 0 ∨ target ≤ 0 ∨ level.priceTick ≤ 0) := by omega
  by_cases used : level.cumulativeQtyLots ≤ target
  · refine ⟨⟨[],target,level.priceTick * target,level.priceTick⟩,?_,rfl,rfl,rfl⟩
    simp only [fillLevels,if_pos some,Int.sub_zero,if_neg room,take,delta,first,sum,bind,Option.bind,Int.zero_add,
      if_pos used,lt_irrefl,if_false]
  · refine ⟨⟨[level],target,level.priceTick * target,level.priceTick⟩,?_,rfl,rfl,rfl⟩
    simp only [fillLevels,if_pos some,Int.sub_zero,if_neg room,take,delta,first,sum,bind,Option.bind,Int.zero_add,
      if_neg used]

theorem legFilled {b : BookedLeg} {q total} (sound : b.Sound q) (positive : 1 ≤ q)
    (fits : InI64 (total + b.price * (b.ratio * q))) :
    ∃ fill, advanceIncrementalLeg b.sizing q 0 {levels := b.curve.levels} total =
      some (fill,total + b.price * (b.ratio * q)) ∧ Filled q b fill := by
  obtain ⟨some,within⟩ := lotsFit sound
  have lots : checkedMulI64 b.sizing.ratio q = .some (b.ratio * q) := lotsChecked sound
  have forward : ¬ (b.sizing.ratio ≤ 0 ∨ q < 0) := by
    have : 0 < b.sizing.ratio := sound.ratio
    omega
  have inside : ¬ (b.ratio * q < 0 ∨ b.sizing.curve.totalQtyLots < b.ratio * q) := by
    have : b.ratio * q ≤ b.sizing.curve.totalQtyLots := within
    omega
  have unused : List.dropWhile
    (fun level : CostCurveLevel => decide (level.cumulativeQtyLots ≤ 0)) b.curve.levels =
      b.curve.levels := List.dropWhile_cons_of_neg (by simp; omega)
  obtain ⟨fill,filled,qty,cost,worst⟩ := fillOne ⟨b.price,b.size,b.size,b.price * b.size⟩
    b.curve.levels some within sound.price (legCostFits sound) fits
  refine ⟨fill,?_,qty,cost,worst⟩
  rw [advanceIncrementalLeg,if_neg forward,lots]
  simp only [bind,Option.bind,unused]
  rw [if_neg inside]
  exact filled

theorem unitCostCons (b) (books : List BookedLeg) : unitCost (b::books) = b.price * b.ratio + unitCost books := by
  simp [unitCost]
theorem unitCostNonneg {books : List BookedLeg} {q} (sound : ∀ b ∈ books, b.Sound q) : 0 ≤ unitCost books := by
  induction books with
  | nil => exact le_rfl
  | cons b rest ih =>
    obtain ⟨head,tail⟩ := List.forall_mem_cons.mp sound
    have cost := Int.mul_pos head.price head.ratio
    have rest := ih tail
    rw [unitCostCons]
    omega
theorem unitCostPos {books : List BookedLeg} {q} (sound : ∀ b ∈ books, b.Sound q) (some : books ≠ []) :
    0 < unitCost books := by
  obtain ⟨b,rest,rfl⟩ := List.exists_cons_of_ne_nil some
  obtain ⟨head,tail⟩ := List.forall_mem_cons.mp sound
  have cost := Int.mul_pos head.price head.ratio
  have others := unitCostNonneg tail
  rw [unitCostCons]
  omega

theorem costSplit (b : BookedLeg) (books : List BookedLeg) (q total : Int) :
    total + b.price * (b.ratio * q) + unitCost books * q = total + unitCost (b::books) * q := by
  rw [unitCostCons]
  ring

-- The sums of the first legs fit because they are below the sum of all of them.
theorem partialFits {b : BookedLeg} {books : List BookedLeg} {q total} (sound : ∀ other ∈ b::books, other.Sound q)
    (positive : 1 ≤ q) (nonneg : 0 ≤ total) (fits : InI64 (total + unitCost (b::books) * q)) :
    0 ≤ total + b.price * (b.ratio * q) ∧ InI64 (total + b.price * (b.ratio * q)) := by
  obtain ⟨head,tail⟩ := List.forall_mem_cons.mp sound
  have lots := (lotsFit head).1
  have cost := Int.mul_nonneg (le_of_lt head.price) (le_of_lt lots)
  have later := Int.mul_nonneg (unitCostNonneg tail) (show 0 ≤ q by omega)
  have upper := fits.2
  rw [← costSplit] at upper
  refine ⟨by omega,le_trans (show i64Min ≤ 0 by decide) (by omega),by omega⟩

def startFill (b : BookedLeg) : LegFill := {levels := b.curve.levels}
-- Only a margin above the whole is multiplied out.
def MarginFits (m q : Int) (books : List BookedLeg) : Prop := ∀ b ∈ books, 10000 < m → InI64 (b.ratio * q * m)
instance (m q books) : Decidable (MarginFits m q books) := by unfold MarginFits; infer_instance

theorem legsFilled {books : List BookedLeg} {q m total} (sound : ∀ b ∈ books, b.Sound q) (positive : 1 ≤ q)
    (margins : MarginFits m q books) (deep : ∀ b ∈ books, LegDeep m q b) (nonneg : 0 ≤ total)
    (fits : InI64 (total + unitCost books * q)) :
    ∃ fills, advanceLegs m q 0 (books.map BookedLeg.sizing) (books.map startFill) total =
      .ok (fills,total + unitCost books * q) ∧ List.Forall₂ (Filled q) books fills := by
  induction books generalizing total with
  | nil => exact ⟨[],by simp [advanceLegs,unitCost],.nil⟩
  | cons b rest ih =>
    obtain ⟨partNonneg,part⟩ := partialFits sound positive nonneg fits
    obtain ⟨head,tail⟩ := List.forall_mem_cons.mp sound
    obtain ⟨margin,margins⟩ := List.forall_mem_cons.mp margins
    obtain ⟨deep,deepTail⟩ := List.forall_mem_cons.mp deep
    have lots : checkedMulI64 b.sizing.ratio q = .some (b.ratio * q) := lotsChecked head
    have within : ¬ b.sizing.curve.totalQtyLots < ceilRatioBps (b.ratio * q) m := fun short =>
      (shortIff head margin).mp short deep
    obtain ⟨fill,advanced,filled⟩ := legFilled head positive part
    obtain ⟨fills,later,all⟩ := ih tail margins deepTail partNonneg (by rw [costSplit]; exact fits)
    refine ⟨fill::fills,?_,.cons filled all⟩
    rw [List.map_cons,List.map_cons,advanceLegs]
    simp only [lots,if_neg within,startFill,advanced]
    rw [later,costSplit]
    rfl

theorem legsShort {books : List BookedLeg} {q m total} (sound : ∀ b ∈ books, b.Sound q) (positive : 1 ≤ q)
    (margins : MarginFits m q books) (short : ¬ ∀ b ∈ books, LegDeep m q b) (nonneg : 0 ≤ total)
    (fits : InI64 (total + unitCost books * q)) :
    advanceLegs m q 0 (books.map BookedLeg.sizing) (books.map startFill) total = .error .partialFillRisk := by
  induction books generalizing total with
  | nil => exact absurd (fun _ inside => nomatch inside) short
  | cons b rest ih =>
    obtain ⟨partNonneg,part⟩ := partialFits sound positive nonneg fits
    obtain ⟨head,tail⟩ := List.forall_mem_cons.mp sound
    obtain ⟨margin,margins⟩ := List.forall_mem_cons.mp margins
    have lots : checkedMulI64 b.sizing.ratio q = .some (b.ratio * q) := lotsChecked head
    rw [List.map_cons,List.map_cons,advanceLegs]
    simp only [lots]
    by_cases deep : LegDeep m q b
    · have within : ¬ b.sizing.curve.totalQtyLots < ceilRatioBps (b.ratio * q) m := fun refused =>
        (shortIff head margin).mp refused deep
      obtain ⟨fill,advanced,_⟩ := legFilled head positive part
      have later := ih tail margins (fun all => short (List.forall_mem_cons.mpr ⟨deep,all⟩)) partNonneg
        (by rw [costSplit]; exact fits)
      simp only [if_neg within,startFill,advanced]
      rw [later]
      rfl
    · exact if_pos ((shortIff head margin).mpr deep)

/-! The verdict on the one quantity. -/

structure Tradable (policy : RiskPolicySnapshot) (payout q : Int) (books : List BookedLeg) : Prop where
  sound : ∀ b ∈ books, b.Sound q
  some : books ≠ []
  positive : 1 ≤ q
  below : q < i64Max
  margins : MarginFits policy.minDepthMarginBps q books
  payoutFits : InI64 (payout * q)
  costFits : InI64 (unitCost books * q)

def sizedBook (q : Int) (b : BookedLeg) : Intent.OrderDecisionLegLite :=
  { assetIndex := b.depth.assetIndex
    side := .buy
    quantityLots := b.ratio * q
    estimatedVwapTick := b.price
    worstPriceTick := b.price
    estimatedCostTick := b.price * (b.ratio * q) }
def sizeFor (payout q : Int) (books : List BookedLeg) : BundleSize :=
  ⟨q,payout * q,unitCost books * q,payout - unitCost books,(payout - unitCost books) * q,
    ratioBps (payout - unitCost books) (unitCost books),books.map (sizedBook q)⟩

theorem sizedLegs {q} {books : List BookedLeg} {fills} (sound : ∀ b ∈ books, b.Sound q)
    (filled : List.Forall₂ (Filled q) books fills) :
    List.zipWith sizedLeg (books.map BookedLeg.sizing) fills = books.map (sizedBook q) := by
  induction filled with
  | nil => rfl
  | @cons b fill books fills first _ ih =>
    obtain ⟨head,tail⟩ := List.forall_mem_cons.mp sound
    obtain ⟨qty,cost,worst⟩ := first
    have lots := (lotsFit head).1
    have vwap : (b.price * (b.ratio * q)).tdiv (b.ratio * q) = b.price := Int.mul_tdiv_cancel _ (by omega)
    have later := ih tail
    simp only [List.map_cons,List.zipWith_cons_cons,later,sizedLeg,qty,cost,worst,vwap]
    rfl

theorem filledPositive {q} {books : List BookedLeg} {fills} (sound : ∀ b ∈ books, b.Sound q)
    (filled : List.Forall₂ (Filled q) books fills) :
    fills.any (fun fill => decide (fill.qtyLots ≤ 0 ∨ fill.costTick < 0)) = false := by
  induction filled with
  | nil => rfl
  | @cons b fill books fills first _ ih =>
    obtain ⟨head,tail⟩ := List.forall_mem_cons.mp sound
    have lots := (lotsFit head).1
    have cost := Int.mul_nonneg (le_of_lt head.price) (le_of_lt lots)
    have later := ih tail
    have clear : ¬ (fill.qtyLots ≤ 0 ∨ fill.costTick < 0) := by
      rw [first.1,first.2.1]
      omega
    rw [List.any_cons,later,decide_eq_false clear]
    rfl

theorem totalCostFree {q cost : Int} (fits : InI64 cost) : totalCost {} q cost = some cost := by
  have free : checkedMulI64 0 q = some 0 := checkedMulExact.mpr ⟨by rw [Int.zero_mul]; decide,by rw [Int.zero_mul]⟩
  simp only [totalCost,free,checkedAddZero fits,bind,Option.bind]

theorem edgePointIff {policy : RiskPolicySnapshot} {payout q unit : Int} {point} (positive : 1 ≤ q)
    (cost : 0 < unit) (payoutFits : InI64 (payout * q)) :
    edgePoint policy payout q (unit * q) = some point ↔
      (InI64 ((payout - unit) * q) ∧ policy.minPostRiskUnitEdgeTick ≤ payout - unit ∧
        policy.minPostRiskTotalEdgeTick ≤ (payout - unit) * q ∧
        policy.minEdgeBps ≤ ratioBps (payout - unit) unit) ∧
      point = ⟨q,unit * q,payout - unit,(payout - unit) * q,ratioBps (payout - unit) unit⟩ := by
  have paid : checkedMulI64 payout q = some (payout * q) := checkedMulExact.mpr ⟨payoutFits,rfl⟩
  have difference : payout * q - unit * q = (payout - unit) * q := by ring
  have perUnit : ((payout - unit) * q).tdiv q = payout - unit := Int.mul_tdiv_cancel _ (by omega)
  have scale : ratioBps ((payout - unit) * q) (unit * q) = ratioBps (payout - unit) unit := by
    have some : unit * q ≠ 0 := Int.mul_ne_zero (by omega) (by omega)
    have scaled : (payout - unit) * q * 10000 = (payout - unit) * 10000 * q := by ring
    simp only [ratioBps,if_neg some,if_neg (show unit ≠ 0 by omega),scaled]
    rw [Int.mul_tdiv_mul_of_pos_left _ _ (by omega)]
  simp only [edgePoint,paid,bind,Option.bind]
  by_cases fits : InI64 ((payout - unit) * q)
  · have edge : checkedSubI64 (payout * q) (unit * q) = some ((payout - unit) * q) :=
      checkedSubExact.mpr ⟨by rw [difference]; exact fits,difference.symm⟩
    simp only [edge,perUnit,scale]
    split
    · next low =>
      refine iff_of_false (fun h => nomatch h) fun h => ?_
      omega
    · next high =>
      rw [Option.some_inj]
      constructor
      · intro same
        exact ⟨⟨fits,by omega,by omega,by omega⟩,same.symm⟩
      · intro same
        exact same.2.symm
  · have edge : checkedSubI64 (payout * q) (unit * q) = none := by
      unfold checkedSubI64 narrow
      rw [if_neg (by rw [difference]; exact fits)]
    simp only [edge]
    exact iff_of_false (fun h => nomatch h) fun h => fits h.1.1

variable {call : DecideCall} {q : Int} {books : List BookedLeg}

theorem startBooked (books : List BookedLeg) :
    startWalk (books.map BookedLeg.sizing) = {state := {legs := books.map startFill}} := by
  simp only [startWalk,List.map_map]
  rfl

theorem walkOne (evaluate w) (q : Int) : walkCandidates evaluate w [q] = evaluate w q := by
  rw [walkCandidates,walkCandidates]
  split <;> rfl

theorem evaluatedDeep (tradable : Tradable call.policy (guaranteedPerBundle call) q books)
    (deep : ∀ b ∈ books, LegDeep call.policy.minDepthMarginBps q b) :
    ∃ fills, List.Forall₂ (Filled q) books fills ∧
      evaluateCandidate {} call (books.map BookedLeg.sizing) (startWalk (books.map BookedLeg.sizing)) q =
      Walk.price {} call q {state := ⟨q,fills,unitCost books * q⟩} := by
  have positive := tradable.positive
  obtain ⟨fills,advanced,filled⟩ := legsFilled tradable.sound positive tradable.margins deep le_rfl
    (by rw [Int.zero_add]; exact tradable.costFits)
  refine ⟨fills,filled,?_⟩
  have reached : ¬ q < ({} : OrderDecisionConfig).bounds.minBundleQty := by
    simp only [OrderDecisionConfig.bounds]
    omega
  rw [startBooked,evaluateCandidate,if_neg reached]
  simp only [advanceIncrementalState]
  rw [if_neg (by omega),advanced,Int.zero_add]
  rfl

theorem evaluatedShort (tradable : Tradable call.policy (guaranteedPerBundle call) q books)
    (short : ¬ ∀ b ∈ books, LegDeep call.policy.minDepthMarginBps q b) :
    (evaluateCandidate {} call (books.map BookedLeg.sizing) (startWalk (books.map BookedLeg.sizing)) q).best =
    none := by
  have positive := tradable.positive
  have refused := legsShort tradable.sound positive tradable.margins short le_rfl
    (by rw [Int.zero_add]; exact tradable.costFits)
  have reached : ¬ q < ({} : OrderDecisionConfig).bounds.minBundleQty := by
    simp only [OrderDecisionConfig.bounds]
    omega
  rw [startBooked,evaluateCandidate,if_neg reached]
  simp only [advanceIncrementalState]
  rw [if_neg (by omega),refused]
  rfl

theorem pricedBest (fills) (tradable : Tradable call.policy (guaranteedPerBundle call) q books) {point state} :
    (Walk.price {} call q {state := ⟨q,fills,unitCost books * q⟩}).best = some (point,state) ↔
      (0 < call.policy.maxTotalCostTick → unitCost books * q ≤ call.policy.maxTotalCostTick) ∧
      edgePoint call.policy (guaranteedPerBundle call) q (unitCost books * q) = some point ∧
      state = ⟨q,fills,unitCost books * q⟩ := by
  simp only [Walk.price,totalCostFree tradable.costFits]
  by_cases broke : 0 < call.policy.maxTotalCostTick ∧ call.policy.maxTotalCostTick < unitCost books * q
  · rw [if_pos broke]
    refine iff_of_false (fun h => nomatch h) fun h => ?_
    have := h.1 broke.1
    omega
  · rw [if_neg broke]
    cases priced : edgePoint call.policy (guaranteedPerBundle call) q (unitCost books * q) with
    | none => exact iff_of_false (fun h => nomatch h) fun h => (nomatch h.2.1)
    | some found =>
      simp only [Walk.offer,Option.some_inj,Prod.mk.injEq]
      constructor
      · rintro ⟨same,rfl⟩
        exact ⟨fun some => by omega,same,rfl⟩
      · rintro ⟨-,same,rfl⟩
        exact ⟨same,rfl⟩

theorem worthIff (tradable : Tradable call.policy (guaranteedPerBundle call) q books)
    (deep : ∀ b ∈ books, LegDeep call.policy.minDepthMarginBps q b) {point} :
    (0 < call.policy.maxTotalCostTick → unitCost books * q ≤ call.policy.maxTotalCostTick) ∧
      edgePoint call.policy (guaranteedPerBundle call) q (unitCost books * q) = some point ↔
    Worthwhile call.policy (guaranteedPerBundle call) q books ∧
      point = ⟨q,unitCost books * q,guaranteedPerBundle call - unitCost books,
        (guaranteedPerBundle call - unitCost books) * q,
        ratioBps (guaranteedPerBundle call - unitCost books) (unitCost books)⟩ := by
  rw [edgePointIff tradable.positive (unitCostPos tradable.sound tradable.some) tradable.payoutFits]
  unfold Worthwhile
  constructor
  · rintro ⟨cost,edge,point⟩
    exact ⟨⟨deep,cost,edge⟩,point⟩
  · rintro ⟨⟨_,cost,edge⟩,point⟩
    exact ⟨cost,edge,point⟩

theorem sizedWorthwhile (tradable : Tradable call.policy (guaranteedPerBundle call) q books)
    (worth : Worthwhile call.policy (guaranteedPerBundle call) q books) :
    sizeOver {} call (books.map BookedLeg.sizing) [q] = .ok (sizeFor (guaranteedPerBundle call) q books) := by
  obtain ⟨fills,filled,evaluated⟩ := evaluatedDeep tradable worth.1
  obtain ⟨cost,priced⟩ := (worthIff tradable worth.1).mpr ⟨worth,rfl⟩
  have best := (pricedBest fills tradable).mpr ⟨cost,priced,rfl⟩
  rw [sizeOver,walkOne,evaluated]
  simp only [sizeResult,best,filledPositive tradable.sound filled,sizedLegs tradable.sound filled]
  rfl

theorem sizedRefused (tradable : Tradable call.policy (guaranteedPerBundle call) q books)
    (poor : ¬ Worthwhile call.policy (guaranteedPerBundle call) q books) :
    ∃ reason, sizeOver {} call (books.map BookedLeg.sizing) [q] = .error reason := by
  have none : (evaluateCandidate {} call (books.map BookedLeg.sizing)
    (startWalk (books.map BookedLeg.sizing)) q).best =
      none := by
    by_cases deep : ∀ b ∈ books, LegDeep call.policy.minDepthMarginBps q b
    · obtain ⟨fills,_,evaluated⟩ := evaluatedDeep tradable deep
      rw [evaluated,Option.eq_none_iff_forall_not_mem]
      rintro ⟨point,state⟩ found
      obtain ⟨cost,priced,_⟩ := (pricedBest fills tradable).mp found
      exact poor ((worthIff tradable deep).mp ⟨cost,priced⟩).1
    · exact evaluatedShort tradable deep
  rw [sizeOver,walkOne]
  simp only [sizeResult,none]
  split
  · exact ⟨_,rfl⟩
  · split
    · exact ⟨_,rfl⟩
    · split <;> exact ⟨_,rfl⟩

/-! The generic engine on such a bundle, with its default configuration and an empty cache. -/

def limitedBook (q : Int) (b : BookedLeg) : Intent.OrderDecisionLegLite :=
  {sizedBook q b with limitPriceTick := b.price}

theorem limitFree {b : BookedLeg} (sound : b.Sound q) : buildBuyLimit {} 0 b.price = .ok b.price := by
  have price := sound.price
  simp only [buildBuyLimit,checkedAddZero (priceFits sound)]
  rw [if_neg (by omega)]
  rfl

theorem limitBooked {legs : List CombinatorialBundles.BundleLeg} (sound : ∀ b ∈ books, b.Sound q)
    (free : ∀ leg ∈ legs, leg.maxPriceTick = 0) :
    limitLegs {} legs (books.map (sizedBook q)) = .ok (books.map (limitedBook q)) := by
  induction books generalizing legs with
  | nil => rfl
  | cons b rest ih =>
    have uncapped : (legs.headD {}).maxPriceTick = 0 := by
      cases legs with
      | nil => rfl
      | cons leg _ => exact free leg List.mem_cons_self
    obtain ⟨head,tail⟩ := List.forall_mem_cons.mp sound
    have limit : buildBuyLimit {} 0 (sizedBook q b).worstPriceTick = .ok b.price := limitFree head
    have later := ih tail fun leg inside => free leg (List.mem_of_mem_tail inside)
    rw [List.map_cons,limitLegs,uncapped,limit]
    simp only [bind,Except.bind]
    rw [later]
    rfl

theorem optimizedBooked (tradable : Tradable call.policy (guaranteedPerBundle call) q books)
    (prepared : legsFor call = .ok (books.map BookedLeg.sizing)) :
    (optimize {} {} call).2 = sizeOver {} call (books.map BookedLeg.sizing) [q] := by
  simp only [optimize,prepared,candidatesBooked tradable.sound tradable.some tradable.positive tradable.below]

theorem engineGeneric (valid : validate call = none) :
    (engineDecide {} {} call).2 = (genericCompute {} {} call).2 := by
  simp only [engineDecide,genericDecide,valid]
  rfl

theorem engineTakes (tradable : Tradable call.policy (guaranteedPerBundle call) q books)
    (valid : validate call = none) (prepared : legsFor call = .ok (books.map BookedLeg.sizing))
    (free : ∀ leg ∈ call.bundle.legs, leg.maxPriceTick = 0)
    (worth : Worthwhile call.policy (guaranteedPerBundle call) q books) :
    ∃ decision, (engineDecide {} {} call).2 = accept decision ∧ decision.type = .paperOrderDecision ∧
      decision.chosenBundleQty = q ∧ decision.estimatedTotalCostTick = unitCost books * q ∧
      decision.unitEdgeTick = guaranteedPerBundle call - unitCost books ∧
      decision.totalEdgeTick = (guaranteedPerBundle call - unitCost books) * q ∧
      decision.edgeBps = ratioBps (guaranteedPerBundle call - unitCost books) (unitCost books) ∧
      decision.legs = books.map (limitedBook q) := by
  have limits : limitLegs {} call.bundle.legs (sizeFor (guaranteedPerBundle call) q books).legs =
      .ok (books.map (limitedBook q)) := limitBooked tradable.sound free
  rw [engineGeneric valid]
  simp only [genericCompute,optimizedBooked tradable prepared,sizedWorthwhile tradable worth,settle,buildDecision,
    limits,bind,Except.bind]
  exact ⟨_,rfl,rfl,rfl,rfl,rfl,rfl,rfl,rfl⟩

theorem engineRefuses (tradable : Tradable call.policy (guaranteedPerBundle call) q books)
    (valid : validate call = none) (prepared : legsFor call = .ok (books.map BookedLeg.sizing))
    (poor : ¬ Worthwhile call.policy (guaranteedPerBundle call) q books) :
    (engineDecide {} {} call).2.ok = false := by
  obtain ⟨reason,refused⟩ := sizedRefused tradable poor
  rw [engineGeneric valid]
  simp only [genericCompute,optimizedBooked tradable prepared,refused]
  rfl

end Polytope.SingleLevelSizing
