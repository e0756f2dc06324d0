import Polytope.SizeOptimizer
import Polytope.PrefixSweep

/-! The fixed-shape implementation against the generic one. Its one quantity is a candidate of the generic walk
and passes the same tests there, so the walk ends at least as well; and since the walk can only stop at smaller
quantities, the limits that held for the one quantity hold for the best one. -/
namespace Polytope.FixedShapeDomination
open ListRelation FixedPointMath MarketDepth SizeCandidates BundleSizing AskSweep CandidateCursor SizingState
  SizingWalk SizeOptimizer PrefixSweep
open OrderDecisionEngine
open Intent (OrderDecisionType OrderDecisionLegLite OrderDecisionLite IntentLeg kMaxOrderDecisionLegs)
open CombinatorialBundles (BundleLeg)
open RiskTypes (RiskPolicySnapshot)

structure WellBooked (view : MarketDepthView) : Prop where
  few : view.asks.length ≤ kMaxSnapshotDepth
  indexed : view.depthPrefix = buildDepthPrefix view.bids view.asks
  ascending : Ascending (askSteps view.asks)
-- Every leg of the bundle has its leg of the intent; or there are none, and no view passes for the index zero.
def ViewsCovered (call : DecideCall) : Prop :=
  call.bundle.legs.length ≤ call.intent.legs.length ∨
    call.intent.legs = [] ∧ ∀ view ∈ call.depthViews, view.assetIndex ≠ 0
structure PlanFits (config : OrderDecisionConfig) (call : DecideCall) (bundleQty : Int) : Prop where
  lots : ∀ view ∈ call.depthViews, visibleAskLots view.asks ≤ i64Max
  books : ∀ view ∈ call.depthViews, wholeCost view.asks ≤ i64Max
  fee : InI64 (config.feePerBundleTick * bundleQty)
  latency : InI64 (config.latencyBufferPerBundleTick * bundleQty)
  slippage : InI64 (config.slippageBufferPerBundleTick * bundleQty)
  margin : 10000 < call.policy.minDepthMarginBps → ∀ leg ∈ call.bundle.legs.zipIdx,
    InI64 (ratioForLeg leg.1 call.intent.legs[leg.2]? * bundleQty * call.policy.minDepthMarginBps)
  buffer : InI64 config.priceProtectionBufferTick

/-! The legs of both. -/

theorem viewMem {views : List MarketDepthView} {assetIndex fallback view}
    (found : findDepthView views assetIndex fallback = some view) :
    view ∈ views := by
  unfold findDepthView at found
  split at found
  · next named =>
    cases found
    exact List.mem_of_find?_eq_some named
  · exact List.mem_of_getElem? found
theorem viewSame {call : DecideCall} {index : Nat} (named : ∀ leg ∈ call.intent.legs, leg.assetIndex ≠ 0)
    (covered : ViewsCovered call)
    (inside : index < call.bundle.legs.length) :
    findFixedShapeDepth call.depthViews
      ((call.intent.legs[index]?.map IntentLeg.assetIndex).getD 0) index = viewFor call index := by
  unfold findFixedShapeDepth viewFor
  cases given : call.intent.legs[index]? with
  | some leg => exact if_pos (named leg (List.mem_of_getElem? given))
  | none =>
    rcases covered with enough | ⟨_,nonzero⟩
    · rw [List.getElem?_eq_none_iff] at given
      omega
    · have unnamed : call.depthViews.find? (fun view => view.assetIndex == 0) = none :=
        List.find?_eq_none.mpr fun view mem => by simpa using nonzero view mem
      simp [findDepthView,unnamed]

structure FastLeg (call : DecideCall) (leg : BundleLeg × Nat) (out : FixedShapeLeg) : Prop where
  buy : leg.1.side = .buy
  ratio : out.ratio = ratioForLeg leg.1 call.intent.legs[leg.2]?
  view : viewFor call leg.2 = some out.depth
  usable : depthFlagsUsable out.depth = true
  some : out.depth.asks ≠ []
  qty : out.executableQty = executableAskQty out.depth
  enough : out.ratio ≤ out.executableQty
def specLeg (call : DecideCall) (leg : BundleLeg × Nat) : SpecLeg :=
  ⟨leg.1.side,ratioForLeg leg.1
    call.intent.legs[leg.2]?,(call.intent.legs[leg.2]?.map IntentLeg.assetIndex).getD 0⟩
theorem specLegs {call : DecideCall} (few : call.bundle.legs.length ≤ kMaxOrderDecisionLegs) :
    (buildSpec call).legs = call.bundle.legs.zipIdx.map (specLeg call) := by
  unfold buildSpec
  rw [List.take_of_length_le few]
  rfl
theorem fastLeg {call : DecideCall} {leg : BundleLeg} {index out}
    (named : ∀ leg ∈ call.intent.legs, leg.assetIndex ≠ 0) (covered : ViewsCovered call)
    (inside : index < call.bundle.legs.length)
    (made : fixedShapeLeg call index (specLeg call (leg,index)) = .ok out) :
    FastLeg call (leg,index) out := by
  unfold fixedShapeLeg specLeg at made
  obtain ⟨buy,made⟩ := Machine.guardOk made
  simp only at buy made
  rw [viewSame named covered inside] at made
  split at made
  · cases made
  next depth found =>
  obtain ⟨usable,made⟩ := Machine.guardOk made
  obtain ⟨enough,made⟩ := Machine.guardOk made
  cases made
  rw [not_or,Bool.not_eq_false] at usable
  have flags := usable.2
  unfold depthUsable at flags
  rw [Bool.and_eq_true,Bool.and_eq_true,decide_eq_true_iff] at flags
  exact ⟨not_ne_iff.mp buy,rfl,found,flags.1.1,flags.1.2,rfl,not_lt.mp enough⟩
theorem fastLegs {call : DecideCall} {index : Nat} {legs : List BundleLeg} {outs}
    (named : ∀ leg ∈ call.intent.legs, leg.assetIndex ≠ 0) (covered : ViewsCovered call)
    (inside : index + legs.length ≤ call.bundle.legs.length)
    (made : fixedShapeLegs call index ((legs.zipIdx index).map (specLeg call)) = .ok outs) :
    List.Forall₂ (FastLeg call) (legs.zipIdx index) outs := by
  induction legs generalizing index outs with
  | nil =>
    cases made
    exact .nil
  | cons leg rest ih =>
    rw [List.length_cons] at inside
    rw [List.zipIdx_cons] at made ⊢
    rw [List.map_cons,fixedShapeLegs] at made
    obtain ⟨first,here,made⟩ := Machine.bindOk.mp made
    obtain ⟨later,others,made⟩ := Machine.bindOk.mp made
    cases made
    exact .cons (fastLeg named covered (by omega) here) (ih (by omega) others)

-- A leg as the two implementations see it.
structure Twin (fast : FixedShapeLeg) (leg : SizingLeg) : Prop where
  ratio : fast.ratio = leg.ratio
  view : fast.depth = leg.depth
  qty : fast.executableQty = leg.curve.totalQtyLots
  total : leg.curve.totalQtyLots = depth (askSteps leg.depth.asks)
  booked : WellBooked leg.depth
  lots : depth (askSteps leg.depth.asks) ≤ i64Max
  costs : wholeCost leg.depth.asks ≤ i64Max
  some : leg.depth.asks ≠ []

theorem prefixSome {view : MarketDepthView} (booked : WellBooked view) (some : view.asks ≠ []) :
    view.depthPrefix.asks ≠ [] := by
  rw [booked.indexed,prefixWhole booked.few]
  intro none
  have length := congrArg List.length none
  rw [prefixLength] at length
  exact some (List.length_eq_zero_iff.mp length)
theorem wholeBook {asks : List PriceLevel} (few : asks.length ≤ kMaxSnapshotDepth) :
    bookDepth asks = depth (askSteps asks) ∧ bookCost asks = wholeCost asks := by
  have lots : bookDepth asks = depth (askSteps asks) := (bookWhole few).trans (askDepth asks).symm
  refine ⟨lots,?_⟩
  have nonneg : 0 ≤ bookDepth asks := depthNonneg (bookSized asks)
  unfold bookCost wholeCost
  rw [bookSweep nonneg le_rfl,lots]
theorem twins {call : DecideCall} {pairs : List (BundleLeg × Nat)} {fast : List FixedShapeLeg}
    (legs : List.Forall₂ (FastLeg call) pairs fast)
    (booked : ∀ view ∈ call.depthViews, WellBooked view)
    (lots : ∀ view ∈ call.depthViews, visibleAskLots view.asks ≤ i64Max)
    (books : ∀ view ∈ call.depthViews, wholeCost view.asks ≤ i64Max) :
    ∃ made, List.Forall₂ (PreparedLeg call) pairs made ∧ List.Forall₂ Twin fast made := by
  induction legs with
  | nil => exact ⟨[],.nil,.nil⟩
  | @cons leg out pairs fast here later ih =>
    obtain ⟨made,prepared,same⟩ := ih
    have mem := viewMem here.view
    have whole := wholeBook (booked _ mem).few
    have fits := lots _ mem
    rw [← askDepth] at fits
    have qty : out.executableQty = depth (askSteps out.depth.asks) := by
      rw [here.qty,executableAskQty,if_pos (prefixSome (booked _ mem) here.some),(booked _ mem).indexed,
        prefixDepth (booked _ mem).few fits]
    have positive : 0 < out.ratio := here.ratio ▸ ratioPositive leg.1 _
    have enough := here.enough
    obtain ⟨curve,built⟩ := curveDone here.buy (show 0 < bookDepth out.depth.asks by omega) (by omega)
      (whole.2 ▸ books _ mem)
    have total := (curveOf built).total
    exact ⟨⟨out.ratio,out.depth,curve⟩::made,.cons ⟨here.buy,here.ratio,here.view,here.usable,built⟩ prepared,
      .cons ⟨rfl,rfl,by rw [total,whole.1,qty],by rw [total,whole.1],booked _ mem,fits,books _ mem,here.some⟩ same⟩

/-! The one quantity of the fixed-shape implementation. -/

section
variable {config : OrderDecisionConfig} {call : DecideCall} {fast : List FixedShapeLeg} {legs : List SizingLeg}

def floors (fast : List FixedShapeLeg) (start : Int) : Int :=
  fast.foldl (fun q leg => min q (leg.executableQty.tdiv leg.ratio)) start
theorem floorsFrom (fast : List FixedShapeLeg) (start : Int) :
    floors fast start = start ∨ ∃ leg ∈ fast, floors fast start = leg.executableQty.tdiv leg.ratio := by
  induction fast generalizing start with
  | nil => exact .inl rfl
  | cons leg rest ih =>
    rcases ih (min start (leg.executableQty.tdiv leg.ratio)) with same | ⟨other,mem,same⟩
    · rcases le_total start (leg.executableQty.tdiv leg.ratio) with le | le
      · exact .inl (same.trans (min_eq_left le))
      · exact .inr ⟨leg,List.mem_cons_self,same.trans (min_eq_right le)⟩
    · exact .inr ⟨other,List.mem_cons_of_mem _ mem,same⟩
theorem floorsBelow (fast : List FixedShapeLeg) (start : Int) :
    floors fast start ≤ start ∧ ∀ leg ∈ fast, floors fast start ≤ leg.executableQty.tdiv leg.ratio := by
  induction fast generalizing start with
  | nil => exact ⟨le_rfl,fun leg mem => (by cases mem)⟩
  | cons leg rest ih =>
    obtain ⟨least,each⟩ := ih (min start (leg.executableQty.tdiv leg.ratio))
    exact ⟨le_trans least (min_le_left _ _),List.forall_mem_cons.mpr ⟨le_trans least (min_le_right _ _),each⟩⟩
theorem floorsGreatest {start r : Int} (least : r ≤ start)
    (each : ∀ leg ∈ fast, r ≤ leg.executableQty.tdiv leg.ratio) : r ≤ floors fast start := by
  induction fast generalizing start with
  | nil => exact least
  | cons leg rest ih =>
    obtain ⟨here,later⟩ := List.forall_mem_cons.mp each
    exact ih (le_min least here) later

theorem qtyOffered (some : fast ≠ []) (positive : 1 ≤ fixedShapeQty config fast)
    (sentinel : fixedShapeQty config fast ≠ i64Max)
    (ratios : ∀ leg ∈ fast, 0 < leg.ratio) :
    ∃ leg ∈ fast, candidateAt config.bounds leg.ratio leg.executableQty = fixedShapeQty config fast := by
  have caps : config.bounds.maxBundleQty = config.maxBundleQty := rfl
  have value : fixedShapeQty config fast =
      if 0 < config.maxBundleQty then min (floors fast i64Max) config.maxBundleQty else floors fast i64Max := rfl
  obtain ⟨first,rest,rfl⟩ := List.exists_cons_of_ne_nil some
  obtain ⟨most,each⟩ := floorsBelow (first::rest) i64Max
  have at' : ∀ leg ∈ first::rest, 1 ≤ leg.executableQty.tdiv leg.ratio →
    candidateAt config.bounds leg.ratio leg.executableQty =
      if 0 < config.maxBundleQty ∧ config.maxBundleQty < leg.executableQty.tdiv leg.ratio then config.maxBundleQty
      else leg.executableQty.tdiv leg.ratio := by
    intro leg mem some
    have ratio := ratios leg mem
    unfold candidateAt
    rw [if_neg (by omega)]
    simp only
    rw [if_neg (by omega),caps]
  rcases floorsFrom (first::rest) i64Max with none | ⟨leg,mem,same⟩
  · refine ⟨first,List.mem_cons_self,?_⟩
    have large := each first List.mem_cons_self
    rw [none] at large value
    have one : (1 : Int) ≤ i64Max := by decide
    rw [at' first List.mem_cons_self (by omega),value]
    rw [value] at sentinel
    split at sentinel
    · next capped =>
      rw [if_pos capped]
      split <;> omega
    · exact absurd rfl sentinel
  · refine ⟨leg,mem,?_⟩
    rw [same] at value
    have one : 1 ≤ leg.executableQty.tdiv leg.ratio := by
      rw [value] at positive
      split at positive <;> omega
    rw [at' leg mem one,value]
    split
    · next exceeds => rw [if_pos exceeds.1,min_eq_right (le_of_lt exceeds.2)]
    · next below =>
      split
      · next capped => exact (min_eq_left (not_lt.mp fun exceeds => below ⟨capped,exceeds⟩)).symm
      · rfl
theorem qtyGreatest {r : Int} (each : ∀ leg ∈ fast, r ≤ leg.executableQty.tdiv leg.ratio) (least : r ≤ i64Max)
    (capped : 0 < config.maxBundleQty → r ≤ config.maxBundleQty) : r ≤ fixedShapeQty config fast := by
  have below := floorsGreatest least each
  unfold fixedShapeQty
  simp only
  change r ≤ if 0 < config.maxBundleQty then min (floors fast i64Max) config.maxBundleQty else floors fast i64Max
  split
  · next some => exact le_min below (capped some)
  · exact below

-- The one quantity is the greatest that every book can fill.
theorem deepSmaller (curved : Curved legs) (same : List.Forall₂ Twin fast legs) {m r : Int}
    (candidate : r ∈ candidatesFor config legs)
    (deep : Deep m legs r) : r ≤ fixedShapeQty config fast := by
  refine qtyGreatest (fun leg mem => ?_) (le_of_lt ((candidatesMem curved _).mp candidate).2.1)
    (candidateWithin curved candidate).2
  obtain ⟨own,inside,twin⟩ := forallLeft same leg mem
  obtain ⟨lotsFit,enough⟩ := deep own inside
  have ratio := (curved own inside).1
  have lots := (ceilRatioLe lotsFit _).trans enough
  rw [twin.ratio,twin.qty,Int.tdiv_eq_ediv_of_nonneg (le_of_lt (curved own inside).2.some)]
  exact (Int.le_ediv_iff_mul_le ratio).mpr (by rw [Int.mul_comm]; exact lots)
theorem qtyCandidate (curved : Curved legs) (same : List.Forall₂ Twin fast legs) (some : fast ≠ [])
    (least : config.bounds.minBundleQty ≤ fixedShapeQty config fast)
    (sentinel : fixedShapeQty config fast ≠ i64Max) :
    fixedShapeQty config fast ∈ candidatesFor config legs := by
  have ratios : ∀ leg ∈ fast, 0 < leg.ratio := by
    intro leg mem
    obtain ⟨made,inside,twin⟩ := forallLeft same leg mem
    exact twin.ratio ▸ (curved made inside).1
  have one := leastPositive config
  obtain ⟨leg,mem,offered⟩ := qtyOffered some (by omega) sentinel ratios
  obtain ⟨made,inside,twin⟩ := forallLeft same leg mem
  have below : fixedShapeQty config fast ≤ i64Max := by
    have most := (floorsBelow fast i64Max).1
    unfold fixedShapeQty
    simp only
    change (if 0 < config.maxBundleQty then min (floors fast i64Max) config.maxBundleQty
      else floors fast i64Max) ≤ i64Max
    split <;> omega
  refine (candidatesMem curved _).mpr
    ⟨least,by omega,made.cursor,List.mem_map_of_mem inside,_,curveEnd (curved made inside).2,?_⟩
  rw [← offered,twin.ratio,twin.qty]
  rfl

/-! Its prices. -/

def LastAt (q : Int) (leg : SizingLeg) (out : OrderDecisionLegLite) : Prop :=
  out.worstPriceTick = lastPrice (askSteps leg.depth.asks) (leg.ratio * q)
theorem pricedLegs {q m total : Int} {out} (curved : Curved legs) (same : List.Forall₂ Twin fast legs)
    (some : 0 < q) (start : total ≤ i64Max)
    (priced : priceLegs m q fast total = .ok out) :
    Deep m legs q ∧ out.2 = total + legsCost legs q ∧ out.2 ≤ i64Max ∧ List.Forall₂ (LastAt q) legs out.1 := by
  induction same generalizing total out with
  | nil =>
    cases priced
    exact ⟨fun leg mem => (by cases mem),by simp [legsCost],start,.nil⟩
  | @cons fastLeg leg fast legs here later ih =>
    obtain ⟨legCurved,others⟩ := curvedCons.mp curved
    unfold priceLegs at priced
    split at priced
    · cases priced
    next legQty lots =>
    obtain ⟨fits,rfl⟩ := checkedMulExact.mp lots
    obtain ⟨deep,priced⟩ := Machine.guardOk priced
    rw [not_lt] at deep
    simp only at priced
    rw [here.ratio] at fits deep priced
    rw [here.qty] at deep
    have positive : 0 < leg.ratio * q := Int.mul_pos legCurved.1 some
    have within : leg.ratio * q ≤ depth (askSteps leg.depth.asks) := here.total ▸ (ceilRatioLe fits m).trans deep
    have vwap : buyVwap fastLeg.depth (leg.ratio * q) = ⟨true,sweep (askSteps leg.depth.asks) (leg.ratio * q),
        (sweep (askSteps leg.depth.asks) (leg.ratio * q)).tdiv (leg.ratio * q),lastPrice
        (askSteps leg.depth.asks) (leg.ratio * q),
        depth (askSteps leg.depth.asks)⟩ := by
      rw [here.view,buyVwap,if_pos (prefixSome here.booked here.some),here.booked.indexed,
        prefixPriced here.booked.few here.lots here.costs positive within]
    rw [vwap] at priced
    simp only [if_true] at priced
    split at priced
    · cases priced
    next sum added =>
    obtain ⟨sumFits,rfl⟩ := checkedAddExact.mp added
    obtain ⟨⟨outs,rest⟩,laterPriced,priced⟩ := Machine.bindOk.mp priced
    cases priced
    obtain ⟨deepLater,sums,below,lasts⟩ := ih others sumFits.2 laterPriced
    refine ⟨deepCons.mpr ⟨⟨fits,deep⟩,deepLater⟩,?_,below,.cons rfl lasts⟩
    have cost : legSweep leg q = sweep (askSteps leg.depth.asks) (leg.ratio * q) :=
      curveSweep legCurved.2 (le_of_lt positive) (here.total ▸ within)
    simp only at sums ⊢
    rw [sums,legsCostCons,cost,Int.add_assoc]

theorem costSame {q legCost cost : Int} (fee : InI64 (config.feePerBundleTick * q))
    (latency : InI64 (config.latencyBufferPerBundleTick * q))
    (slippage : InI64 (config.slippageBufferPerBundleTick * q))
    (costs : fixedShapeCost config q legCost = some cost) :
    totalCost config q legCost = some cost := by
  have product : ∀ {charge : Int}, InI64 (charge * q) → multiplyOrZero charge q = charge * q := by
    intro charge fits
    unfold multiplyOrZero
    rw [checkedMulExact.mpr ⟨fits,rfl⟩]
    rfl
  unfold fixedShapeCost at costs
  rw [product fee,product latency,product slippage] at costs
  unfold totalCost
  rw [checkedMulExact.mpr ⟨fee,rfl⟩,checkedMulExact.mpr ⟨latency,rfl⟩,checkedMulExact.mpr ⟨slippage,rfl⟩]
  exact costs
theorem edgeSame {policy : RiskPolicySnapshot} {guaranteed q cost : Int} {outs size}
    (made : fixedShapeEdge policy guaranteed q cost outs = .ok size) :
    ∃ point, edgePoint policy guaranteed q cost = some point ∧ size.totalEdgeTick = point.totalEdgeTick ∧
      size.legs = outs ∧
      size.bestBundleQty = q := by
  unfold fixedShapeEdge at made
  split at made
  · cases made
  next payout payouts =>
  split at made
  · cases made
  next total totals =>
  simp only at made
  obtain ⟨enough,made⟩ := Machine.guardOk made
  cases made
  rw [not_or,not_or] at enough
  refine ⟨⟨q,cost,total.tdiv q,total,ratioBps total cost⟩,?_,rfl,rfl,rfl⟩
  unfold edgePoint
  simp only [payouts,totals,bind,Option.bind_some]
  exact if_neg (not_or.mpr ⟨enough.2.1,not_or.mpr ⟨enough.1,enough.2.2⟩⟩)

/-! Smaller quantities. -/

theorem ceilRatioMono {value value' bps : Int} (nonneg : 0 ≤ value) (le : value ≤ value')
    (fits : 10000 < bps → InI64 (value' * bps)) :
    ceilRatioBps value bps ≤ ceilRatioBps value' bps := by
  by_cases plain : bps ≤ 10000
  · unfold ceilRatioBps
    rw [if_pos (.inr plain),if_pos (.inr plain)]
    exact le
  have most := fits (not_le.mp plain)
  have scaled : value * bps ≤ value' * bps := Int.mul_le_mul_of_nonneg_right le (by omega)
  have scaledNonneg : 0 ≤ value * bps := Int.mul_nonneg nonneg (by omega)
  have least : i64Min ≤ 0 := by decide
  have upper := most.2
  have up : ∀ {v : Int}, 0 ≤ v → 0 ≤ v * bps → InI64 (v * bps) →
    ceilRatioBps v bps = min ((v * bps + 9999).tdiv 10000) i64Max := by
    intro v vNonneg vScaled vFits
    unfold ceilRatioBps
    by_cases none : v ≤ 0
    · rw [if_pos (.inl none),show v = 0 by omega,Int.zero_mul]
      decide
    · rw [if_neg (not_or.mpr ⟨none,plain⟩),checkedMulExact.mpr ⟨vFits,rfl⟩]
      simp only
      unfold ceilDivPositive
      rw [if_neg (by decide),show v * bps + 10000 - 1 = v * bps + 9999 by ring]
  rw [up nonneg scaledNonneg ⟨by omega,by omega⟩,up (nonneg.trans le) (by omega) most]
  exact min_le_min_right _ (Int.tdiv_le_tdiv (by decide) (by omega))
theorem deepLower {q r m : Int} (curved : Curved legs)
    (margin : ∀ leg ∈ legs, 10000 < m → InI64 (leg.ratio * q * m)) (nonneg : 0 ≤ r) (le : r ≤ q)
    (deep : Deep m legs q) : Deep m legs r := by
  intro leg mem
  obtain ⟨fits,enough⟩ := deep leg mem
  have ratio := (curved leg mem).1
  have lots : leg.ratio * r ≤ leg.ratio * q := Int.mul_le_mul_of_nonneg_left le (le_of_lt ratio)
  have some : 0 ≤ leg.ratio * r := Int.mul_nonneg (le_of_lt ratio) nonneg
  have least : i64Min ≤ 0 := by decide
  have most := fits.2
  exact ⟨⟨by omega,by omega⟩,(ceilRatioMono some lots (margin leg mem)).trans enough⟩

theorem limitLower {legMax worst worst' limit : Int} (buffer : InI64 config.priceProtectionBufferTick)
    (some : 0 < worst') (le : worst' ≤ worst)
    (limited : buildBuyLimit config legMax worst = .ok limit) :
    ∃ limit', buildBuyLimit config legMax worst' = .ok limit' := by
  unfold buildBuyLimit at limited
  obtain ⟨_,limited⟩ := Machine.guardOk limited
  split at limited
  · cases limited
  next price sum =>
  obtain ⟨fits,rfl⟩ := checkedAddExact.mp sum
  simp only at limited
  obtain ⟨allowed,_⟩ := Machine.guardOk limited
  have lower := buffer.1
  have upper := fits.2
  have add : checkedAddI64 worst' config.priceProtectionBufferTick = .some _ :=
    checkedAddExact.mpr ⟨⟨by omega,by omega⟩,rfl⟩
  unfold buildBuyLimit
  rw [if_neg (by omega),add]
  simp only
  rw [if_neg fun exceeds => allowed ⟨exceeds.1,by omega⟩]
  exact ⟨_,rfl⟩
def Lower (out out' : OrderDecisionLegLite) : Prop :=
  0 < out'.worstPriceTick ∧ out'.worstPriceTick ≤ out.worstPriceTick
theorem limitsLower {bundleLegs : List BundleLeg} {outs outs' done}
    (buffer : InI64 config.priceProtectionBufferTick)
    (lower : List.Forall₂ Lower outs outs') (limited : limitLegs config bundleLegs outs = .ok done) :
    ∃ done', limitLegs config bundleLegs outs' = .ok done' := by
  induction lower generalizing bundleLegs done with
  | nil => exact ⟨[],by cases bundleLegs <;> rfl⟩
  | @cons out out' outs outs' here later ih =>
    rw [limitLegs] at limited
    obtain ⟨limit,first,limited⟩ := Machine.bindOk.mp limited
    obtain ⟨rest,others,limited⟩ := Machine.bindOk.mp limited
    obtain ⟨limit',first'⟩ := limitLower buffer here.1 here.2 first
    obtain ⟨rest',others'⟩ := ih others
    rw [limitLegs]
    exact ⟨_,Machine.bindOk.mpr ⟨limit',first',Machine.bindOk.mpr ⟨rest',others',rfl⟩⟩⟩
theorem legsLower {q r m : Int} {fills outs} (curved : Curved legs) (same : List.Forall₂ Twin fast legs)
    (some : 0 < r) (le : r ≤ q)
    (deep : Deep m legs q) (filled : FilledAt r legs fills) (lasts : List.Forall₂ (LastAt q) legs outs) :
    List.Forall₂ Lower outs (List.zipWith sizedLeg legs fills) := by
  induction same generalizing fills outs with
  | nil =>
    cases lasts
    cases filled
    exact .nil
  | @cons fastLeg leg fast legs here later ih =>
    obtain ⟨legCurved,others⟩ := curvedCons.mp curved
    obtain ⟨deepHere,deepLater⟩ := deepCons.mp deep
    obtain _ | ⟨filledHere,filledLater⟩ := filled
    obtain _ | ⟨lastHere,lastLater⟩ := lasts
    refine .cons ?_ (ih others deepLater filledLater lastLater)
    have lots : 0 < leg.ratio * r := Int.mul_pos legCurved.1 some
    have more : leg.ratio * r ≤ leg.ratio * q := Int.mul_le_mul_of_nonneg_left le (le_of_lt legCurved.1)
    have within : leg.ratio * q ≤ depth (askSteps leg.depth.asks) :=
      here.total ▸ (ceilRatioLe deepHere.1 m).trans deepHere.2
    have worst := (filledHere.worst lots).trans (curveLast legCurved.2 lots (by rw [here.total]; omega))
    have rises := lastMono here.booked.ascending lots more within
    obtain ⟨size,sized,mem⟩ := lastMem (askSteps leg.depth.asks) (leg.ratio * r) lots (more.trans within)
    have price := askPriced _ _ mem sized
    unfold LastAt at lastHere
    unfold Lower
    rw [lastHere]
    change 0 < (_ : LegFill).worstPriceTick ∧ (_ : LegFill).worstPriceTick ≤ _
    rw [worst]
    exact ⟨price,rises⟩

-- The quantity passes every test of the generic walk, at the same edge.
theorem qtyPriced {q legCost cost : Int} {outs size} (curved : Curved legs) (same : List.Forall₂ Twin fast legs)
    (fee : InI64 (config.feePerBundleTick * q)) (latency : InI64 (config.latencyBufferPerBundleTick * q))
    (slippage : InI64 (config.slippageBufferPerBundleTick * q)) (least : config.bounds.minBundleQty ≤ q)
    (priced : priceLegs call.policy.minDepthMarginBps q fast 0 = .ok (outs,legCost))
    (costs : fixedShapeCost config q legCost = some cost)
    (budget : ¬ (0 < call.policy.maxTotalCostTick ∧ call.policy.maxTotalCostTick < cost))
    (made : fixedShapeEdge call.policy (guaranteedPerBundle call) q cost outs = .ok size) :
    ∃ point, Priced config call legs point ∧ point.bundleQty = q ∧ size.totalEdgeTick = point.totalEdgeTick ∧
      legsCost legs q ≤ i64Max ∧ List.Forall₂ (LastAt q) legs size.legs := by
  have one := leastPositive config
  obtain ⟨deep,sum,below,lasts⟩ := pricedLegs curved same (by omega) (by decide) priced
  simp only [Int.zero_add] at sum below
  subst sum
  obtain ⟨point,edge,total,outsSame,_⟩ := edgeSame made
  obtain ⟨qty,paid⟩ := edgeQty edge
  refine ⟨point,⟨?_,?_,?_,?_,?_⟩,qty,total,below,outsSame ▸ lasts⟩
  · rw [qty]
    exact least
  · rw [qty]
    exact deep
  · rw [qty,paid]
    exact costSame fee latency slippage costs
  · intro capped
    rw [paid]
    exact not_lt.mp fun exceeds => budget ⟨capped,exceeds⟩
  · rw [qty,paid]
    exact edge

structure FixedShaped (config : OrderDecisionConfig) (call : DecideCall) (spec : FixedShapeOrderDecisionSpec)
    (fast : List FixedShapeLeg)
    (size : BundleSize) : Prop where
  legs : fixedShapeLegs call 0 spec.legs = .ok fast
  least : config.bounds.minBundleQty ≤ fixedShapeQty config fast
  sentinel : fixedShapeQty config fast ≠ i64Max
  priced : ∃ outs legCost cost,
    priceLegs call.policy.minDepthMarginBps (fixedShapeQty config fast) fast 0 = .ok (outs,legCost) ∧
    fixedShapeCost config (fixedShapeQty config fast) legCost = some cost ∧
    ¬ (0 < call.policy.maxTotalCostTick ∧ call.policy.maxTotalCostTick < cost) ∧
    fixedShapeEdge call.policy spec.guaranteedPayoutPerBundleTick (fixedShapeQty config fast) cost outs = .ok size
theorem fixedShaped {spec size} (sized : fixedShapeSize config call spec = .ok size) :
    ∃ fast, FixedShaped config call spec fast size := by
  unfold fixedShapeSize at sized
  obtain ⟨fast,legs,sized⟩ := Machine.bindOk.mp sized
  simp only at sized
  obtain ⟨qty,sized⟩ := Machine.guardOk sized
  obtain ⟨⟨outs,legCost⟩,priced,sized⟩ := Machine.bindOk.mp sized
  simp only at sized
  split at sized
  · cases sized
  next cost costs =>
  obtain ⟨budget,sized⟩ := Machine.guardOk sized
  rw [not_or,not_lt] at qty
  exact ⟨fast,legs,qty.1,qty.2,outs,legCost,cost,priced,costs,budget,sized⟩

theorem fixedOk (ok : (fixedShapeDecide config {} call).2.ok = true) : validate call = none ∧ ∃ size decision,
    fixedShapeSize config call (buildSpec call) = .ok size ∧
      buildDecision config call size (fixedShapeSnapshotHash call) = .ok decision ∧
      (fixedShapeDecide config {} call).2.decision = decision := by
  unfold fixedShapeDecide at ok ⊢
  split at ok
  · next refused found =>
    rw [validateRefuses found] at ok
    cases ok
  next valid =>
  simp only at ok ⊢
  unfold fixedShapeCompute at ok ⊢
  split at ok
  · cases ok
  next size sized =>
  unfold settle at ok ⊢
  split at ok
  · cases ok
  next decision built =>
  exact ⟨valid,size,decision,sized,built,rfl⟩
theorem genericDone {legs size decision} (valid : validate call = none) (found : legsFor call = .ok legs)
    (sized : sizeOver config call legs (candidatesFor config legs) = .ok size)
    (built : buildDecision config call size call.intent.snapshotVersionHash = .ok decision) :
    (genericDecide config {} call).2.ok = true ∧ (genericDecide config {} call).2.decision = decision := by
  have optimized : (optimize config {} call).2 = .ok size := by
    rw [optimizeEmpty,found]
    exact sized
  have settled : (genericDecide config {} call).2 =
    (settle config (optimize config {} call).1 call size call.intent.snapshotVersionHash).2 := by
    unfold genericDecide
    rw [valid]
    simp only
    unfold genericCompute
    rw [optimized]
  unfold settle at settled
  rw [built] at settled
  rw [settled]
  exact ⟨rfl,rfl⟩
theorem decided {size hash decision} (built : buildDecision config call size hash = .ok decision) :
    (∃ outs, limitLegs config call.bundle.legs size.legs = .ok outs) ∧
    decision.totalEdgeTick = size.totalEdgeTick ∧
      decision.chosenBundleQty = size.bestBundleQty := by
  obtain ⟨outs,limited,built⟩ := Machine.bindOk.mp built
  cases built
  exact ⟨⟨outs,limited⟩,rfl,rfl⟩

end

theorem genericDominates (config : OrderDecisionConfig) (call : DecideCall)
    (booked : ∀ view ∈ call.depthViews, WellBooked view)
    (named : ∀ leg ∈ call.intent.legs, leg.assetIndex ≠ 0) (covered : ViewsCovered call)
    (fits : PlanFits config call (fixedShapeDecide config {} call).2.decision.chosenBundleQty)
    (ok : (fixedShapeDecide config {} call).2.ok = true) :
    (genericDecide config {} call).2.ok = true ∧
      (fixedShapeDecide config {} call).2.decision.totalEdgeTick ≤
      (genericDecide config {} call).2.decision.totalEdgeTick := by
  obtain ⟨valid,size,decision,sized,built,same⟩ := fixedOk ok
  obtain ⟨fast,shaped⟩ := fixedShaped sized
  obtain ⟨some,few⟩ := validShape valid
  obtain ⟨⟨limits,limited⟩,edge,chosen⟩ := decided built
  obtain ⟨outs,legCost,cost,priced,costs,budget,made⟩ := shaped.priced
  have qty : size.bestBundleQty = fixedShapeQty config fast := by
    obtain ⟨_,_,_,_,qty⟩ := edgeSame made
    exact qty
  rw [same,chosen,qty] at fits
  rw [same,edge]
  -- The prepared legs of the generic implementation.
  have legs := shaped.legs
  rw [specLegs few] at legs
  obtain ⟨made',prepared,twin⟩ := twins (fastLegs named covered (by omega) legs) booked fits.lots fits.books
  have found : legsFor call = .ok made' :=
    legsForExact.mpr ⟨⟨some,few,covered.elim .inr fun none => .inl none.1⟩,prepared⟩
  have curved := preparedCurved prepared
  have fastSome : fast ≠ [] := by
    rintro rfl
    have length := (prepared.length_eq.trans twin.length_eq.symm)
    rw [List.length_zipIdx] at length
    exact some (List.length_eq_zero_iff.mp length)
  have margin : ∀ leg ∈ made', 10000 < call.policy.minDepthMarginBps →
    InI64 (leg.ratio * fixedShapeQty config fast * call.policy.minDepthMarginBps) := by
    intro leg mem large
    obtain ⟨pair,inside,own⟩ := forallLeft prepared.flip leg mem
    rw [own.ratio]
    exact fits.margin large pair inside
  -- The walk reaches the quantity and keeps at least its edge.
  obtain ⟨point,pointPriced,pointQty,pointEdge,legsFit,lasts⟩ :=
    qtyPriced curved twin fits.fee fits.latency fits.slippage shaped.least priced costs budget made
  have candidate := qtyCandidate curved twin fastSome shaped.least shaped.sentinel
  have deep := pointPriced.deep
  rw [pointQty] at deep
  have positive : ∀ r ∈ candidatesFor config made', 0 < r := by
    intro r mem
    have one := (candidateWithin curved mem).1
    omega
  obtain ⟨best,state,walked,more⟩ : AtLeast point.totalEdgeTick
      (walkCandidates (evaluateCandidate config call made') (startWalk made') (candidatesFor config made')) :=
    walkReaches curved (startAt config call (candidatesFor config made') made' curved) (List.Subset.refl _)
      (candidatesSorted curved)
      (fun r mem => le_of_lt (positive r mem)) pointPriced (pointQty ▸ legsFit) (pointQty ▸ candidate) rfl
      fun r mem le => deepLower curved margin (le_of_lt (positive r mem)) (pointQty ▸ le) deep
  have best' := walkChosen curved walked
  have bestMem := best'.candidate
  have bestSome := positive _ bestMem
  simp only at bestMem bestSome
  have smaller : best.bundleQty ≤ fixedShapeQty config fast := deepSmaller curved twin bestMem best'.priced.deep
  -- The limits of the larger quantity hold for the best one.
  obtain ⟨limits',limited'⟩ :=
    limitsLower fits.buffer (legsLower curved twin bestSome smaller deep best'.state.filled lasts) limited
  obtain ⟨ok',decided'⟩ := genericDone valid found (sizeFound curved walked)
    (Machine.bindOk.mpr ⟨limits',limited',rfl⟩)
  refine ⟨ok',?_⟩
  rw [decided',pointEdge]
  exact more

def quoted (assetIndex : Nat) (first second : Int) : MarketDepthView :=
  let asks : List PriceLevel := [⟨first,⟨0x4014000000000000⟩⟩,⟨second,⟨0x4014000000000000⟩⟩]
  {assetIndex, usableForDepth := true, asks, depthPrefix := buildDepthPrefix [] asks}
-- Two books of two levels of five lots each; a bundle takes one lot of each.
def shaped (legs : List IntentLeg) (views : List MarketDepthView) : DecideCall :=
  { intent := {bundleId := 1, status := .paperOpportunity, legs}
    bundle := {bundleId := 1, guaranteedPayoutTick := 100, legs := [{quantityLots := 1},{quantityLots := 1}]}
    depthViews := views
    policy := {minDepthMarginBps := 10000}
    nowNs := 1000 }
def bothLegs : DecideCall := shaped [{assetIndex := 4},{assetIndex := 9}] [quoted 9 30 50,quoted 4 40 60]

-- The fixed shape takes all ten lots, for less than the first five are worth.
theorem bothLegsDominate : (genericDecide {} {} bothLegs).2.ok = true ∧
    (fixedShapeDecide {} {} bothLegs).2.decision.totalEdgeTick ≤
    (genericDecide {} {} bothLegs).2.decision.totalEdgeTick := by
  have qty : (fixedShapeDecide {} {} bothLegs).2.decision.chosenBundleQty = 10 := by decide +kernel
  have booked : ∀ view ∈ bothLegs.depthViews, WellBooked view := by
    refine List.forall_mem_cons.mpr ⟨⟨by decide,rfl,?_⟩,List.forall_mem_singleton.mpr ⟨by decide,rfl,?_⟩⟩
    · unfold Ascending
      decide +kernel
    · unfold Ascending
      decide +kernel
  have fits : PlanFits {} bothLegs (fixedShapeDecide {} {} bothLegs).2.decision.chosenBundleQty := by
    rw [qty]
    exact ⟨by decide +kernel,by decide +kernel,by decide,by decide,by decide,by decide +kernel,by decide⟩
  exact genericDominates {} bothLegs booked (by decide) (.inl (by decide)) fits (by decide +kernel)

-- An intent with fewer legs than the bundle; and one without legs, next to a view with the index zero.
theorem genericRefusesShortIntent :
    ((∀ leg ∈ (shaped [{assetIndex := 4}] [quoted 4 40 60,quoted 9 30 50]).intent.legs, leg.assetIndex ≠ 0 ∧
        ∃ view ∈ [quoted 4 40 60,quoted 9 30 50], view.assetIndex = leg.assetIndex) ∧
      (fixedShapeDecide {} {} (shaped [{assetIndex := 4}] [quoted 4 40 60,quoted 9 30 50])).2.ok = true ∧
      (genericDecide {} {} (shaped [{assetIndex := 4}] [quoted 4 40 60,quoted 9 30 50])).2.ok = false) ∧
    (fixedShapeDecide {} {} (shaped [] [quoted 4 40 60,quoted 9 30 50,quoted 0 90 95])).2.ok = true ∧
      (genericDecide {} {} (shaped [] [quoted 4 40 60,quoted 9 30 50,quoted 0 90 95])).2.ok = false := by
  decide +kernel

end Polytope.FixedShapeDomination
