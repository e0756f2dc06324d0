import Polytope.KernelAgreement
import Polytope.FastPathPipeline
import Polytope.SlotTable
import Polytope.LinearSweep

/-! The reference decision of the differential verifier. It prices a spec by walking the books
level by level, on books of any length, and then asks the ledger for room. Where the kernel gives
a result the two agree on every figure. They part over approval only: the kernel alone looks at
the depth margin, the reference alone at what the ledger already holds. -/
namespace Polytope.DifferentialReference
open FixedPointMath MarketDepth BundleSizing FixedShapeKernel SingleLevelSizing KernelAgreement
open FastPathPipeline (DecisionPathSnapshot finalize)
open RiskTypes (RiskPolicySnapshot RiskDecisionType)
open Reservation (RiskLedgerSnapshot)

abbrev Reason := FastPathPipeline.FastPathRejectReason

-- The verifier looks at no prefix.
def executableAskQty (depth : MarketDepthView) : Int := OrderDecisionEngine.linearAskQty depth.asks

structure GenericLegWork where
  depth : MarketDepthView
  ratioQtyLots : Int
  executableQtyLots : Int
def GenericLegWork.bundleQty (work : GenericLegWork) : Int := work.executableQtyLots.tdiv work.ratioQtyLots
def genericLeg (views : List MarketDepthView) (policy : RiskPolicySnapshot) (nowNs : Nat) (leg : KernelLeg) :
    Except Reason GenericLegWork :=
  if leg.side ≠ .buy then .error .sellLeg
  else if leg.ratioQtyLots ≤ 0 then .error .unsupportedExecutableSide
  else match views.find? (fun view => view.assetIndex == leg.assetIndex) with
    | none => .error .missingDepthView
    | some depth =>
      if depthIsUsable policy nowNs depth = false then .error .badDepthView
      else if executableAskQty depth < leg.ratioQtyLots then .error .badDepthView
      else .ok ⟨depth,leg.ratioQtyLots,executableAskQty depth⟩
def genericLegs (views : List MarketDepthView) (policy : RiskPolicySnapshot) (nowNs : Nat) : List KernelLeg →
    Except Reason (List GenericLegWork)
  | [] => .ok []
  | leg::rest => do
    let work ← genericLeg views policy nowNs leg
    let later ← genericLegs views policy nowNs rest
    .ok (work::later)

structure GenericPriced where
  plannedQtyLots : Int
  vwap : VwapMathResult
def priceLegs (bundleQty : Int) : List GenericLegWork → Int → Except Reason (List GenericPriced × Int)
  | [],total => .ok ([],total)
  | work::rest,total =>
    match checkedMulI64 work.ratioQtyLots bundleQty with
    | none => .error .unsupportedExecutableSide
    | some planned =>
      if (buyVwapLinear work.depth.asks planned).ok = false then .error .badDepthView
      else match checkedAddI64 total (buyVwapLinear work.depth.asks planned).totalCostTick with
        | none => .error .unsupportedExecutableSide
        | some total => do
          let (later,total) ← priceLegs bundleQty rest total
          .ok (⟨planned,buyVwapLinear work.depth.asks planned⟩::later,total)

def numericAmount (table : List (UInt32 × Int)) (index : Nat) : Int :=
  ((table.find? fun entry => entry.1.toNat == index).map Prod.snd).getD 0
def numericAssetLots (ledger : RiskLedgerSnapshot) (assetIndex : Nat) : Int :=
  numericAmount ledger.numericReservedAssetLots assetIndex
def numericMarketExposure (ledger : RiskLedgerSnapshot) (marketIndex : Nat) : Int :=
  numericAmount ledger.numericReservedMarketExposure marketIndex

def incomingExposure (legs : List (KernelLeg × GenericPriced)) : List (Nat × Int) :=
  legs.map fun leg => (leg.1.marketIndex,max 0 leg.2.vwap.totalCostTick)
def incomingLots (legs : List (KernelLeg × GenericPriced)) : List (Nat × Int) :=
  legs.map fun leg => (leg.1.assetIndex,leg.2.plannedQtyLots)
-- Legs of one market, or of one asset, share a slot of the table they are summed in. The sums wrap, so the word
-- in a
-- slot is that of the exact sum.
def overCap (cap : Int) (held : Nat → Int) (incoming : List (Nat × Int)) : Bool :=
  (SlotTable.addAll kMaxFixedShapeKernelLegs incoming).any fun entry =>
  decide (cap < addI64 (held entry.1) (wrapI64 entry.2))
def riskLimitRejection (legs : List (KernelLeg × GenericPriced)) (totalCost : Int) (policy : RiskPolicySnapshot)
    (ledger : RiskLedgerSnapshot) : RiskDecisionType :=
  if 0 < policy.maxTotalCostTick ∧ policy.maxTotalCostTick < totalCost then .rejectCostLimit
  else if 0 < policy.maxTotalExposureTick ∧
    policy.maxTotalExposureTick < addI64 ledger.totalReservedExposureTick totalCost then
    .rejectTotalExposureLimit
  else if 0 < policy.maxSingleMarketExposureTick ∧
      overCap policy.maxSingleMarketExposureTick (numericMarketExposure ledger) (incomingExposure legs) = true then
    .rejectSingleMarketExposureLimit
  else if 0 < policy.maxInventoryLotsPerAsset ∧
      overCap policy.maxInventoryLotsPerAsset (numericAssetLots ledger) (incomingLots legs) = true then
        .rejectInventoryLimit
  else .pass

def fallenBack (reason : Reason) : DecisionPathSnapshot :=
  finalize {fallbackRequired := true, rejectReason := reason}
def lowEdge (rejection : RiskDecisionType) : Bool :=
  rejection = .rejectLowUnitEdge ∨ rejection = .rejectLowTotalEdge ∨ rejection = .rejectLowEdgeBps ∨
    rejection = .rejectInsufficientDepth
def judged (spec : FixedShapeKernelSpec) (edge : EdgeMathResult) (legs : List GenericPriced)
    (bundleQty totalCost : Int)
    (policy : RiskPolicySnapshot) (ledger : RiskLedgerSnapshot) : DecisionPathSnapshot :=
  let onEdge := edgeRejection spec edge bundleQty policy
  let rejection := if onEdge = .pass then
      riskLimitRejection (spec.legs.zip legs) totalCost policy ledger
    else onEdge
  let approved := decide (rejection = .pass)
  finalize
    { producedIntent := true
      producedPlan := approved
      intentStatus := if lowEdge rejection = true then .rejectedLowEdge else .paperOpportunity
      riskRejectReason := if approved then .none else riskRejectReason rejection
      bundleId := spec.bundleId
      bundleQty
      totalCostTick := totalCost
      unitEdgeTick := edge.unitEdgeTick
      totalEdgeTick := edge.totalEdgeTick
      edgeBps := edge.edgeBps
      orderCount := if approved then spec.legs.length else 0 }
def referencePriced (spec : FixedShapeKernelSpec) (views : List MarketDepthView) (policy : RiskPolicySnapshot)
    (nowNs : Nat) :
    Except Reason (Int × List GenericPriced × Int) :=
  if spec.legs = [] then .error .emptyBundle
  else if kMaxFixedShapeKernelLegs < spec.legs.length then .error .tooManyLegs
  else if policy.riskEnabled = false ∨ policy.killSwitchEnabled = true then .error .policyIncompatible
  else do
    let works ← genericLegs views policy nowNs spec.legs
    let bundleQty := works.foldl (fun qty leg => min qty leg.bundleQty) i64Max
    if bundleQty ≤ 0 ∨ bundleQty = i64Max then .error .badDepthView else do
      let (legs,totalCost) ← priceLegs bundleQty works 0
      .ok (bundleQty,legs,totalCost)
def referenceGenericDecision (spec : FixedShapeKernelSpec) (views : List MarketDepthView)
    (policy : RiskPolicySnapshot)
    (ledger : RiskLedgerSnapshot) (nowNs : Nat) : DecisionPathSnapshot :=
  match referencePriced spec views policy nowNs with
  | .error reason => fallenBack reason
  | .ok (bundleQty,legs,totalCost) =>
    judged spec (computeEdge spec.guaranteedPayoutTick (ceilDivPositive totalCost bundleQty) 0 0 0 bundleQty)
      legs bundleQty totalCost
      policy ledger

-- The kernel itself makes no plan, so the snapshot counts the legs of its order decision.
def snapshotFromFastKernel (result : FastKernelResult) : DecisionPathSnapshot :=
  finalize
    { producedIntent := true
      intentStatus := result.intent.status
      riskRejectReason := result.riskRejectReason
      bundleId := result.intent.bundleId
      bundleQty := result.bundleQty
      totalCostTick := result.totalCostTick
      unitEdgeTick := result.unitEdgeTick
      totalEdgeTick := result.totalEdgeTick
      edgeBps := result.edgeBps
      orderCount := result.orderDecision.legs.length
      decisionHash := result.orderDecision.decisionHash }

/-! What the two have in common, and what each asks for on its own. -/

structure PricedFigures where
  fallbackRequired : Bool
  rejectReason : Reason
  producedIntent : Bool
  bundleId : UInt64
  bundleQty : Int
  totalCostTick : Int
  unitEdgeTick : Int
  totalEdgeTick : Int
  edgeBps : Int
  deriving DecidableEq, Repr
def pricedFigures (s : DecisionPathSnapshot) : PricedFigures :=
  ⟨s.fallbackRequired,s.rejectReason,s.producedIntent,s.bundleId,s.bundleQty,s.totalCostTick,s.unitEdgeTick,
    s.totalEdgeTick,s.edgeBps⟩

section
variable (spec : FixedShapeKernelSpec) (views : List MarketDepthView) (policy : RiskPolicySnapshot)
  (ledger : RiskLedgerSnapshot)

def plannedLots (leg : KernelLeg) : Int := (bookedLeg views leg).ratio * wholeBundles (booksOf spec views)
def plannedCost (leg : KernelLeg) : Int := (bookedLeg views leg).price * plannedLots spec views leg
def Margined : Prop := ∀ b ∈ booksOf spec views,
    LegDeep policy.minDepthMarginBps (wholeBundles (booksOf spec views)) b
instance : Decidable (Margined spec views policy) := by unfold Margined; infer_instance

-- The ledger adds in words. What it holds and what the bundle brings are taken to fit one.
structure LedgerFits : Prop where
  exposure : InI64 (ledger.totalReservedExposureTick + (spec.legs.map (plannedCost spec views)).sum)
  market : ∀ leg ∈ spec.legs, InI64 (numericMarketExposure ledger leg.marketIndex +
    ((spec.legs.filter fun other => other.marketIndex = leg.marketIndex).map (plannedCost spec views)).sum)
  asset : ∀ leg ∈ spec.legs, InI64 (numericAssetLots ledger leg.assetIndex +
    ((spec.legs.filter fun other => other.assetIndex = leg.assetIndex).map (plannedLots spec views)).sum)
structure LedgerRoom : Prop where
  exposure : 0 < policy.maxTotalExposureTick →
    ledger.totalReservedExposureTick + (spec.legs.map (plannedCost spec views)).sum ≤ policy.maxTotalExposureTick
  market : 0 < policy.maxSingleMarketExposureTick →
    ∀ leg ∈ spec.legs, numericMarketExposure ledger leg.marketIndex +
    ((spec.legs.filter fun other => other.marketIndex = leg.marketIndex).map (plannedCost spec views)).sum ≤
    policy.maxSingleMarketExposureTick
  asset : 0 < policy.maxInventoryLotsPerAsset → ∀ leg ∈ spec.legs, numericAssetLots ledger leg.assetIndex +
    ((spec.legs.filter fun other => other.assetIndex = leg.assetIndex).map (plannedLots spec views)).sum ≤
    policy.maxInventoryLotsPerAsset

end

/-! The reference on books of one level. -/

section
variable {spec : FixedShapeKernelSpec} {views : List MarketDepthView} {policy : RiskPolicySnapshot} {nowNs : Nat}

def genericOf (b : BookedLeg) : GenericLegWork := ⟨b.depth,b.ratio,b.size⟩
def genericPricedOf (q : Int) (b : BookedLeg) : GenericPriced :=
  ⟨b.ratio * q,⟨true,b.price * (b.ratio * q),b.price,b.price,b.size⟩⟩

theorem usableLegs {first legs works} (ok : collectWork views policy nowNs first legs = .ok works) :
    ∀ leg ∈ legs, ∀ depth, views.find? (fun view => view.assetIndex == leg.assetIndex) = some depth →
      depthIsUsable policy nowNs depth = true := by
  induction legs generalizing first works with
  | nil => exact fun _ none => nomatch none
  | cons leg rest ih =>
    rw [collectWork] at ok
    obtain ⟨work,worked,ok⟩ := Machine.bindOk.mp ok
    obtain ⟨_,ok⟩ := Machine.guardOk ok
    obtain ⟨later,others,_⟩ := Machine.bindOk.mp ok
    refine List.forall_mem_cons.mpr ⟨fun depth found => ?_,ih others⟩
    unfold legWork at worked
    obtain ⟨_,worked⟩ := Machine.guardOk worked
    obtain ⟨_,worked⟩ := Machine.guardOk worked
    simp only [found] at worked
    obtain ⟨usable,_⟩ := Machine.guardOk worked
    exact Bool.eq_true_of_not_eq_false usable
theorem askQtySingle {leg : KernelLeg} (stands : Standing views leg) :
    executableAskQty (bookedLeg views leg).depth = (bookedLeg views leg).size := by
  obtain ⟨level,asks,price,size⟩ := stands.level
  have some := stands.price
  have sum := @checkedZeroAdd (bookedLeg views leg).size
    ⟨le_trans (by decide) (size ▸ sizeLotsNonneg level),stands.sizeFits⟩
  rw [executableAskQty,OrderDecisionEngine.linearAskQty,asks,kMaxSnapshotDepth,List.take_succ_cons,
    List.take_nil,List.foldlM_cons,
    if_neg (by omega),size,sum]
  rfl
theorem legFound {leg : KernelLeg} (stands : Standing views leg)
    (usable : depthIsUsable policy nowNs (bookedLeg views leg).depth = true) :
    genericLeg views policy nowNs leg = .ok (genericOf (bookedLeg views leg)) := by
  have ratio := stands.ratio
  have enough := stands.enough
  rw [genericLeg,if_neg (fun sell => sell stands.side),if_neg (by omega),stands.found]
  simp only
  rw [if_neg (by rw [usable]; decide),askQtySingle stands,if_neg (by omega),genericOf,stands.sameRatio]
theorem legsFound {legs : List KernelLeg} (stands : ∀ leg ∈ legs, Standing views leg)
    (usable : ∀ leg ∈ legs, depthIsUsable policy nowNs (bookedLeg views leg).depth = true) :
    genericLegs views policy nowNs legs = .ok ((legs.map (bookedLeg views)).map genericOf) := by
  induction legs with
  | nil => rfl
  | cons leg rest ih =>
    obtain ⟨head,tail⟩ := List.forall_mem_cons.mp stands
    obtain ⟨here,later⟩ := List.forall_mem_cons.mp usable
    rw [genericLegs,legFound head here,ih tail later]
    rfl
theorem linearSingle {q : Int} {b : BookedLeg} {level : PriceLevel} (asks : b.depth.asks = [level])
    (price : level.priceTick = b.price)
    (size : priceLevelSizeLots level = b.size) (sound : b.Sound q) :
    buyVwapLinear b.depth.asks (b.ratio * q) = ⟨true,b.price * (b.ratio * q),b.price,b.price,b.size⟩ := by
  obtain ⟨positive,within⟩ := lotsFit sound
  have some := sound.price
  have costs := (legCostFits sound).2
  have lots : levelLots level = b.size := (if_pos (by omega)).trans size
  have taken := @LinearSweep.linearTaken ⟨b.ratio * q,{}⟩ level (le_of_lt positive) le_rfl le_rfl
    (by rw [lots,Int.zero_add]; exact sound.sizeFits)
    (by rw [lots,price,min_eq_left within,Int.zero_add]; exact costs)
  rw [lots,price,min_eq_left within] at taken
  simp only [Int.zero_add,Int.sub_self,if_pos positive,max_eq_right (le_of_lt some)] at taken
  rw [asks,buyVwapLinear,if_neg (by simp; omega),List.foldlM_cons,taken]
  simp only [bind,Option.bind_some,List.foldlM_nil,pure]
  rw [if_neg (lt_irrefl 0),Int.mul_tdiv_cancel _ (by omega)]
theorem booksPriced {legs : List KernelLeg} {q total : Int} (stands : ∀ leg ∈ legs, Standing views leg)
    (sound : ∀ b ∈ legs.map (bookedLeg views), b.Sound q) (positive : 1 ≤ q) (nonneg : 0 ≤ total)
    (fits : InI64 (total + unitCost (legs.map (bookedLeg views)) * q)) :
    priceLegs q ((legs.map (bookedLeg views)).map genericOf) total =
      .ok ((legs.map (bookedLeg views)).map (genericPricedOf q),total + unitCost
        (legs.map (bookedLeg views)) * q) := by
  induction legs generalizing total with
  | nil => simp [priceLegs,unitCost]
  | cons leg rest ih =>
    obtain ⟨here,later⟩ := List.forall_mem_cons.mp stands
    rw [List.map_cons] at sound fits ⊢
    obtain ⟨head,tail⟩ := List.forall_mem_cons.mp sound
    obtain ⟨level,asks,price,size⟩ := here.level
    obtain ⟨still,sumFits⟩ := partialFits sound positive nonneg fits
    rw [← costSplit] at fits
    rw [List.map_cons,priceLegs,genericOf]
    simp only [lotsChecked head,linearSingle asks price size head]
    rw [if_neg (by decide),checkedAddExact.mpr ⟨sumFits,rfl⟩]
    simp only
    rw [ih later tail still fits,costSplit]
    rfl

theorem referenceRan {result} (ran : Ran spec views policy nowNs result)
    (noFallback : run spec views policy nowNs = .ok result) :
    referencePriced spec views policy nowNs = .ok (wholeBundles (booksOf spec views),
      (booksOf spec views).map (genericPricedOf (wholeBundles (booksOf spec views))),
      unitCost (booksOf spec views) * wholeBundles (booksOf spec views)) := by
  have tradable := ran.tradable
  unfold run at noFallback
  obtain ⟨_,ok⟩ := Machine.guardOk noFallback
  obtain ⟨_,ok⟩ := Machine.guardOk ok
  obtain ⟨enabled,ok⟩ := Machine.guardOk ok
  obtain ⟨works,work,_⟩ := Machine.bindOk.mp ok
  have usable : ∀ leg ∈ spec.legs, depthIsUsable policy nowNs (bookedLeg views leg).depth = true :=
    fun leg mem => usableLegs work leg mem _ (ran.standing leg mem).found
  have least : ((booksOf spec views).map genericOf).foldl
    (fun qty leg => min qty leg.bundleQty) i64Max = wholeBundles (booksOf spec views) := by
    have kernel : ((booksOf spec views).map workOf).foldl (fun qty leg => min qty leg.bundleQty) i64Max = _ :=
      leastShared (List.forall_mem_map.mpr fun b inside => (tradable.sound b inside).qty) (le_of_lt tradable.below)
        (.inl fun none => tradable.some (List.map_eq_nil_iff.mp none))
    rw [List.foldl_map] at kernel ⊢
    exact kernel
  have found : genericLegs views policy nowNs spec.legs = .ok ((booksOf spec views).map genericOf) :=
    legsFound ran.standing usable
  have priced : priceLegs (wholeBundles (booksOf spec views)) ((booksOf spec views).map genericOf) 0 = _ :=
    booksPriced ran.standing tradable.sound tradable.positive le_rfl
      (by rw [Int.zero_add]; exact tradable.costFits)
  rw [Int.zero_add] at priced
  have positive := tradable.positive
  have below := tradable.below
  rw [referencePriced,if_neg ran.legs.1,if_neg (not_lt.mpr ran.legs.2),if_neg enabled]
  refine Machine.bindOk.mpr ⟨_,found,?_⟩
  simp only [least]
  rw [if_neg (by omega)]
  exact Machine.bindOk.mpr ⟨_,priced,rfl⟩

/-! Room in the ledger. -/

theorem overCapIff (cap : Int) (held : Nat → Int) {legs : List KernelLeg} (key : KernelLeg → Nat)
    (amount : KernelLeg → Int)
    (few : legs.length ≤ kMaxFixedShapeKernelLegs)
    (fits : ∀ leg ∈ legs, InI64
      (held (key leg) + ((legs.filter fun other => key other = key leg).map amount).sum)) :
    ¬ overCap cap held (legs.map fun leg => (key leg,amount leg)) = true ↔
      ∀ leg ∈ legs, held (key leg) + ((legs.filter fun other => key other = key leg).map amount).sum ≤ cap := by
  have slots : ((legs.map fun leg => (key leg,amount leg)).map Prod.fst).toFinset.card ≤
    kMaxFixedShapeKernelLegs :=
    le_trans (List.toFinset_card_le _) (by simpa using few)
  have totals : ∀ k, Tally.total
    (legs.map fun leg => (key leg,amount leg)) k =
    ((legs.filter fun other => key other = k).map amount).sum := by
    intro k
    clear few fits slots
    induction legs with
    | nil => rfl
    | cons leg rest ih =>
      rw [List.map_cons,Tally.totalCons,ih,List.filter_cons]
      by_cases own : key leg = k
      · simp [own]
      · simp [own]
  have entries := SlotTable.addAllEntries slots fun k v => addI64 (held k) (wrapI64 v) ≤ cap
  rw [overCap,List.any_eq_true,not_exists]
  simp only [not_and,decide_eq_true_eq,not_lt]
  rw [entries,List.map_map,List.forall_mem_map]
  simp only [Function.comp,totals]
  refine forall₂_congr fun leg mem => ?_
  rw [addI64,Int.add_comm,wrapAdd,Int.add_comm,wrapExact (fits leg mem)]
theorem plannedTotal (legs : List KernelLeg) (q : Int) :
    (legs.map fun leg => (bookedLeg views leg).price * ((bookedLeg views leg).ratio * q)).sum = unitCost
    (legs.map (bookedLeg views)) * q := by
  induction legs with
  | nil => simp [unitCost]
  | cons leg rest ih =>
    have split := costSplit (bookedLeg views leg) (rest.map (bookedLeg views)) q 0
    rw [Int.zero_add,Int.zero_add] at split
    rw [List.map_cons,List.sum_cons,ih,List.map_cons,split]
theorem roomIff {ledger : RiskLedgerSnapshot} {q : Int} (few : spec.legs.length ≤ kMaxFixedShapeKernelLegs)
    (fits : LedgerFits spec views ledger)
    (sound : ∀ b ∈ booksOf spec views, b.Sound q) (whole : wholeBundles (booksOf spec views) = q) :
    riskLimitRejection (spec.legs.zip ((booksOf spec views).map (genericPricedOf q)))
      (unitCost (booksOf spec views) * q) policy ledger = .pass ↔
      (0 < policy.maxTotalCostTick → unitCost (booksOf spec views) * q ≤ policy.maxTotalCostTick) ∧
      LedgerRoom spec views policy ledger := by
  have paired : spec.legs.zip ((booksOf spec views).map (genericPricedOf q)) =
      spec.legs.map fun leg => (leg,genericPricedOf q (bookedLeg views leg)) := by
    rw [booksOf,List.map_map,← List.map_prod_left_eq_zip]
    rfl
  have lots : incomingLots (spec.legs.zip ((booksOf spec views).map (genericPricedOf q))) =
      spec.legs.map fun leg => (leg.assetIndex,plannedLots spec views leg) := by
    rw [paired,incomingLots,List.map_map]
    refine List.map_congr_left fun leg mem => ?_
    rw [plannedLots,whole]
    rfl
  have costs : incomingExposure (spec.legs.zip ((booksOf spec views).map (genericPricedOf q))) =
      spec.legs.map fun leg => (leg.marketIndex,plannedCost spec views leg) := by
    rw [paired,incomingExposure,List.map_map]
    refine List.map_congr_left fun leg mem => ?_
    have one := sound _ (List.mem_map_of_mem mem)
    have nonneg := Int.mul_nonneg (le_of_lt one.price) (le_of_lt (lotsFit one).1)
    rw [plannedCost,plannedLots,whole]
    exact congrArg (Prod.mk _) (max_eq_right nonneg)
  have total : (spec.legs.map (plannedCost spec views)).sum = unitCost (booksOf spec views) * q := by
    rw [booksOf,← plannedTotal]
    refine congrArg List.sum (List.map_congr_left fun leg _ => ?_)
    rw [plannedCost,plannedLots,whole]
  have markets := overCapIff policy.maxSingleMarketExposureTick
    (numericMarketExposure ledger) KernelLeg.marketIndex (plannedCost spec views) few fits.market
  have assets := overCapIff policy.maxInventoryLotsPerAsset (numericAssetLots ledger) KernelLeg.assetIndex
    (plannedLots spec views) few fits.asset
  have sum : addI64 ledger.totalReservedExposureTick (unitCost (booksOf spec views) * q) =
      ledger.totalReservedExposureTick + (spec.legs.map (plannedCost spec views)).sum := by
    rw [← total]
    exact wrapExact fits.exposure
  unfold riskLimitRejection
  rw [lots,costs,sum]
  split
  · next broke => exact iff_of_false (by simp) fun room => absurd (room.1 broke.1) (not_le.mpr broke.2)
  next cheap =>
  split
  · next full =>
    refine iff_of_false (by simp) fun room => ?_
    have fits := room.2.exposure full.1
    omega
  next free =>
  split
  · next full => exact iff_of_false (by simp) fun room => markets.mpr (room.2.market full.1) full.2
  next spread =>
  split
  · next full => exact iff_of_false (by simp) fun room => assets.mpr (room.2.asset full.1) full.2
  next stocked =>
  refine iff_of_true rfl ⟨fun some => by omega,fun some => by omega,fun some => markets.mp fun taken =>
    spread ⟨some,taken⟩,
    fun some => assets.mp fun taken => stocked ⟨some,taken⟩⟩

/-! The two decisions. -/

theorem riskLimitNotLow (legs : List (KernelLeg × GenericPriced)) (totalCost : Int) (ledger : RiskLedgerSnapshot) :
    lowEdge (riskLimitRejection legs totalCost policy ledger) = false := by
  unfold riskLimitRejection
  repeat' split
  all_goals rfl
theorem opportunitySame {s t : DecisionPathSnapshot} (priced : pricedFigures s = pricedFigures t)
    (status : s.intentStatus = t.intentStatus) :
    FastPathPipeline.opportunityHash s = FastPathPipeline.opportunityHash t := by
  simp only [pricedFigures,PricedFigures.mk.injEq] at priced
  obtain ⟨fallback,reason,intent,bundle,qty,cost,unit,total,bps⟩ := priced
  simp only [FastPathPipeline.opportunityHash,fallback,reason,intent,bundle,qty,cost,unit,total,bps,status]
-- Unfolded first: left to themselves the hashes of the two sides are compared.
theorem hashOfFinal (s : DecisionPathSnapshot) :
    (finalize s).opportunityHash = FastPathPipeline.opportunityHash (finalize s) := by
  have priced : pricedFigures (finalize s) = pricedFigures s := by
    unfold finalize pricedFigures
    rfl
  have status : (finalize s).intentStatus = s.intentStatus := by
    unfold finalize
    rfl
  rw [opportunitySame priced status]
  unfold finalize
  rfl
theorem kernelPass {edge : EdgeMathResult} {q : Int} {books : List BookedLeg} {total : Int}
    (sound : ∀ b ∈ books, b.Sound q)
    (margin : policy.minDepthMarginBps ≤ i64Max) :
    kernelRejection spec policy (books.map (pricedOf q)) edge q total = .pass ↔
      (∀ b ∈ books, LegDeep policy.minDepthMarginBps q b) ∧
      (0 < policy.maxTotalCostTick → total ≤ policy.maxTotalCostTick) ∧
      edgeRejection spec edge q policy = .pass := by
  have shallow := shortLegs sound margin
  unfold kernelRejection
  split
  · next short => exact iff_of_false (by simp) fun all => shallow.mp short all.1
  next deep =>
  split
  · next broke => exact iff_of_false (by simp) fun all => absurd (all.2.1 broke.1) (not_le.mpr broke.2)
  next cheap =>
  rw [shallow,not_not] at deep
  exact ⟨fun passed => ⟨deep,fun some => by omega,passed⟩,fun all => all.2.2⟩

end

theorem referenceAgrees {spec : FixedShapeKernelSpec} {views : List MarketDepthView}
    {policy : RiskPolicySnapshot} {nowNs : Nat} {result : FastKernelResult}
    (margin : policy.minDepthMarginBps ≤ i64Max)
    (prefixed : ∀ view ∈ views, view.depthPrefix = buildDepthPrefix view.bids view.asks)
    (exact : NoOverflow spec views policy) (noFallback : run spec views policy nowNs = .ok result)
    (ledger : RiskLedgerSnapshot) :
    let generic := referenceGenericDecision spec views policy ledger nowNs
    let fast := snapshotFromFastKernel result
    pricedFigures fast = pricedFigures generic ∧
    (result.producedOrderDecision = true → fast.opportunityHash = generic.opportunityHash) ∧
    (LedgerFits spec views ledger → (generic.producedPlan = true ∧ Margined spec views policy ↔
      result.producedOrderDecision = true ∧ LedgerRoom spec views policy ledger)) := by
  intro generic fast
  have ran := kernelRan prefixed exact noFallback
  let q := wholeBundles (booksOf spec views)
  let cost := unitCost (booksOf spec views) * q
  let edge := computeEdge spec.guaranteedPayoutTick (ceilDivPositive cost q) 0 0 0 q
  let limits := riskLimitRejection
    (spec.legs.zip ((booksOf spec views).map (genericPricedOf q))) cost policy ledger
  have judgement : generic = judged spec edge
    ((booksOf spec views).map (genericPricedOf q)) q cost policy ledger := by
    simp only [generic,referenceGenericDecision,referenceRan ran noFallback]
    rfl
  have figures : pricedFigures fast = pricedFigures generic := by
    rw [judgement]
    simp only [fast,ran.answer]
    rfl
  have approved : result.producedOrderDecision = true ↔
      Margined spec views policy ∧ (0 < policy.maxTotalCostTick → cost ≤ policy.maxTotalCostTick) ∧
        edgeRejection spec edge q policy = .pass := by
    rw [ran.answer]
    exact decide_eq_true_iff.trans (kernelPass ran.tradable.sound margin)
  have room (fits : LedgerFits spec views ledger) : limits = .pass ↔
    (0 < policy.maxTotalCostTick → cost ≤ policy.maxTotalCostTick) ∧ LedgerRoom spec views policy ledger :=
    roomIff ran.legs.2 fits ran.tradable.sound rfl
  have planned : generic.producedPlan = true ↔ edgeRejection spec edge q policy = .pass ∧ limits = .pass := by
    rw [judgement]
    change decide ((if edgeRejection spec edge q policy = .pass then limits
      else edgeRejection spec edge q policy) = .pass) = true ↔ _
    rw [decide_eq_true_iff]
    split
    · next enough => exact ⟨fun clear => ⟨enough,clear⟩,And.right⟩
    · next poor => exact iff_of_false poor fun both => poor both.1
  refine ⟨figures,fun taken => ?_,?_⟩
  · have enough := (approved.mp taken).2.2
    have fastStatus : fast.intentStatus = .paperOpportunity := by
      simp only [fast]
      rw [ran.answer] at taken ⊢
      exact if_pos taken
    have genericStatus : generic.intentStatus = .paperOpportunity := by
      rw [judgement]
      change (if lowEdge (if edgeRejection spec edge q policy = .pass then limits
        else edgeRejection spec edge q policy) = true then _ else _) = _
      rw [if_pos enough,riskLimitNotLow]
      rfl
    have hashes := opportunitySame figures (fastStatus.trans genericStatus.symm)
    rw [judgement] at hashes ⊢
    exact (hashOfFinal _).trans (hashes.trans (hashOfFinal _).symm)
  · intro fits
    rw [planned,approved,room fits]
    exact ⟨fun both => ⟨⟨both.2,both.1.2.1,both.1.1⟩,both.1.2.2⟩,fun both =>
      ⟨⟨both.1.2.2,both.1.2.1,both.2⟩,both.1.1⟩⟩

-- Both books show the margin, and a ledger that holds nothing has room.
theorem pairReferenceAgrees : ∃ result, run pairSpec (pairViews 1000) {} 1000 = .ok result ∧
    pricedFigures (snapshotFromFastKernel result) = pricedFigures
      (referenceGenericDecision pairSpec (pairViews 1000) {} {} 1000) ∧
    (snapshotFromFastKernel result).opportunityHash =
    (referenceGenericDecision pairSpec (pairViews 1000) {} {} 1000).opportunityHash ∧
    (referenceGenericDecision pairSpec (pairViews 1000) {} {} 1000).producedPlan = true := by
  have produced : ∃ result ∈ (run pairSpec (pairViews 1000) {} 1000).toOption,
    result.producedOrderDecision = true := by
    decide +kernel
  obtain ⟨result,ran,produced⟩ := produced
  rw [Machine.memToOption] at ran
  obtain ⟨figures,hashes,plans⟩ := referenceAgrees (by decide) (by decide +kernel) (by decide +kernel) ran {}
  have fits : LedgerFits pairSpec (pairViews 1000) {} := ⟨by decide +kernel,by decide +kernel,by decide +kernel⟩
  exact ⟨result,ran,figures,hashes
    produced,((plans fits).mpr ⟨produced,by decide +kernel,by decide +kernel,by decide +kernel⟩).1⟩

end Polytope.DifferentialReference
