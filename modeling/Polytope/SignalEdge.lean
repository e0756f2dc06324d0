import Polytope.PricingPaths
import Polytope.CostRevalidator

/-! From a cost to an intent: the edge of a bundle after fees and buffers, computed per bundle on the average cost rounded
up, and the intent that carries the totals. -/
namespace Polytope.SignalEdge
open FixedPointMath MarketDepth AskSweep SizingState PrefixSweep LinearSweep SignalPricing PricingPaths
open FixedShapeKernel (computeEdge EdgeMathResult makeIntentId intentSide)
open CostRevalidator (depthMarginBps)
open Intent (SignalConfig OpportunityIntent IntentLeg IntentStatus kMaxIntentLegs)
open CombinatorialBundles (BundleLeg CandidateBundle hashCandidateBundle)

structure FeeModel where
  defaultFeeTick : Int
  deriving DecidableEq, Repr
structure LatencyBufferModel where
  defaultLatencyBufferTick : Int
  deriving DecidableEq, Repr
structure SlippageBufferModel where
  defaultSlippageBufferTick : Int := 0
  deriving DecidableEq, Repr
def SlippageBufferModel.estimate (model : SlippageBufferModel) (config : SignalConfig) : Int :=
  if config.slippageBufferTick ≠ 0 then config.slippageBufferTick else model.defaultSlippageBufferTick

inductive EdgeFailureReason where
  | none | invalidCost | belowMinUnitEdge | belowMinTotalEdge | belowMinEdgeBps | belowMinBundleQty
  deriving DecidableEq, Repr
structure EdgeBreakdown where
  passed : Bool := false
  guaranteedPayoutPerBundleTick : Int := 0
  vwapCostPerBundleTick : Int := 0
  feePerBundleTick : Int := 0
  latencyBufferPerBundleTick : Int := 0
  slippageBufferPerBundleTick : Int := 0
  unitEdgeTick : Int := 0
  totalEdgeTick : Int := 0
  edgeBps : Int := 0
  bundleQty : Int := 0
  failureReason : EdgeFailureReason := .none
  deriving DecidableEq, Repr

structure TheoreticalEdgeCalculator where
  feeModel : FeeModel
  latencyBufferModel : LatencyBufferModel
  slippageBufferModel : SlippageBufferModel := {}
  deriving DecidableEq, Repr
def edgeFailure (bundle : CandidateBundle) (config : SignalConfig) (out : EdgeBreakdown) : EdgeFailureReason :=
  if out.bundleQty < config.minBundleQty then .belowMinBundleQty
  else if out.unitEdgeTick < max config.minUnitEdgeTick bundle.minEdgeTick then .belowMinUnitEdge
  else if out.totalEdgeTick < config.minTotalEdgeTick then .belowMinTotalEdge
  else if out.edgeBps < config.minEdgeBps then .belowMinEdgeBps
  else .none
def TheoreticalEdgeCalculator.calculate (calculator : TheoreticalEdgeCalculator) (bundle : CandidateBundle)
    (cost : CostResult)
    (config : SignalConfig) : EdgeBreakdown :=
  let out : EdgeBreakdown :=
    { guaranteedPayoutPerBundleTick := bundle.guaranteedPayoutTick
      vwapCostPerBundleTick := cost.avgCostTick
      feePerBundleTick := calculator.feeModel.defaultFeeTick
      latencyBufferPerBundleTick := calculator.latencyBufferModel.defaultLatencyBufferTick
      slippageBufferPerBundleTick := calculator.slippageBufferModel.estimate config
      bundleQty := cost.bundleQty }
  if cost.executable = false ∨ cost.bundleQty ≤ 0 then {out with failureReason := .invalidCost}
  else
    let edge := computeEdge out.guaranteedPayoutPerBundleTick out.vwapCostPerBundleTick out.feePerBundleTick
      out.latencyBufferPerBundleTick out.slippageBufferPerBundleTick out.bundleQty
    if edge.ok = false then {out with failureReason := .invalidCost}
    else
      let out :=
        {out with unitEdgeTick := edge.unitEdgeTick, totalEdgeTick := edge.totalEdgeTick, edgeBps := edge.edgeBps}
      let reason := edgeFailure bundle config out
      {out with passed := decide (reason = .none), failureReason := reason}

/-! IntentBuilder. -/

-- The snapshot version is the one of the snapshots where they are given.
structure IntentBuildInput where
  bundle : Option CandidateBundle := none
  snapshotVersion : Nat := 0
  snapshotVersionHash : UInt64 := 0
  cost : Option CostResult := none
  edge : Option EdgeBreakdown := none
  nowNs : Nat := 0
  ttlNs : Nat := 0
  oracleArtifactVersion : Nat := 0
  oracleArtifactHash : UInt64 := 0
  constraintHash : UInt64 := 0
  bundleHash : UInt64 := 0
  deriving DecidableEq
def effectiveBundleHash (input : IntentBuildInput) : UInt64 :=
  if input.bundleHash ≠ 0 then input.bundleHash else (input.bundle.map hashCandidateBundle).getD 0
open Fnv in
def effectiveArtifactHash (input : IntentBuildInput) (bundleHash : UInt64) : UInt64 :=
  if input.oracleArtifactHash ≠ 0 then input.oracleArtifactHash
  else mixU64 (mixU64 (mixNat offset input.oracleArtifactVersion) input.constraintHash) bundleHash
def copyBundleLeg (source : BundleLeg) : IntentLeg :=
  {marketId := source.marketId, assetId := source.assetId, side := intentSide source.side,
    quantityLots := source.quantityLots}
def copyPricedLeg (bundleQty : Int) (target : IntentLeg) (source : FillSimulationLeg) : IntentLeg :=
  if source.assetId = "" then target
  else
    let requested := saturatingMulI64 source.requestedQtyLots bundleQty
    {target with
      assetId := source.assetId
      quantityLots := source.requestedQtyLots
      estimatedVwapTick := source.vwapPriceTick
      worstPriceTick := source.worstPriceTick
      estimatedCostTick := source.totalCostTick
      requestedQtyLots := requested
      executableQtyLots := source.executableQtyLots
      depthMarginBps := depthMarginBps source.executableQtyLots requested
      enoughDepth := source.enoughDepth}
def copyPricedLegs (bundleQty : Int) : List IntentLeg → List FillSimulationLeg → List IntentLeg
  | targets,[] => targets
  | [],source::sources => copyPricedLeg bundleQty {} source::copyPricedLegs bundleQty [] sources
  | target::targets,source::sources =>
    copyPricedLeg bundleQty target source::copyPricedLegs bundleQty targets sources
def saturatingAddU64 (lhs rhs : Nat) : Nat := min (lhs + rhs) (2^64 - 1)
def buildIntent (input : IntentBuildInput) : OpportunityIntent :=
  match input.bundle,input.cost,input.edge with
  | some bundle,some cost,some edge =>
    let bundleId := UInt64.ofNat bundle.bundleId
    let bundleHash := effectiveBundleHash input
    let intentId := makeIntentId bundleId bundleHash input.snapshotVersionHash edge.bundleQty edge.unitEdgeTick
    { intentId, bundleId, bundleHash
      status := if edge.passed then .paperOpportunity else .rejectedLowEdge
      enoughDepth := cost.executable
      constraintHash := input.constraintHash
      oracleArtifactHash := effectiveArtifactHash input bundleHash
      snapshotVersion := input.snapshotVersion
      snapshotVersionHash := input.snapshotVersionHash
      bundleQty := edge.bundleQty
      originalBundleQty := edge.bundleQty
      guaranteedPayoutTick := saturatingMulI64 edge.guaranteedPayoutPerBundleTick edge.bundleQty
      estimatedCostTick := cost.totalCostTick
      estimatedFeeTick := saturatingMulI64 edge.feePerBundleTick edge.bundleQty
      latencyBufferTick := saturatingMulI64 edge.latencyBufferPerBundleTick edge.bundleQty
      slippageBufferTick := saturatingMulI64 edge.slippageBufferPerBundleTick edge.bundleQty
      maxLegSlippageTick := cost.maxLegSlippageTick
      unitEdgeTick := edge.unitEdgeTick
      totalEdgeTick := edge.totalEdgeTick
      estimatedEdgeTick := edge.totalEdgeTick
      edgeBps := edge.edgeBps
      createdTsNs := input.nowNs
      expiresAtNs := saturatingAddU64 input.nowNs input.ttlNs
      legs := copyPricedLegs cost.bundleQty ((bundle.legs.take kMaxIntentLegs).map copyBundleLeg) (costLegs cost)
      idempotencyHash := intentId }
  | _,_,_ => {}

/-! Costs are not negative, and the average times the quantity exceeds them by less than the quantity. -/

-- A view without ask sums is swept level by level.
def ViewIndexed (view : MarketDepthView) : Prop :=
  view.depthPrefix.asks = [] ∨ view.depthPrefix = buildDepthPrefix view.bids view.asks
def BookIndexed : LegBook → Prop
  | .snapshot _ => True
  | .depth view => ViewIndexed view

theorem linearNonneg {asks : List PriceLevel} {q : Int} (ok : (buyVwapLinear asks q).ok = true) :
    0 ≤ (buyVwapLinear asks q).totalCostTick := by
  obtain ⟨some,total⟩ := linearCost ok
  rw [total]
  exact sweepNonneg (askSized asks) (askPriced asks) (le_of_lt some)
theorem prefixNonneg {p : DepthPrefix} {asks : List PriceLevel} {q : Int}
    (paid : ∀ entry ∈ p.asks, 0 ≤ entry.cumCost) :
    0 ≤ (buyVwapPrefix p asks q).totalCostTick := by
  unfold buyVwapPrefix
  split
  · exact le_rfl
  simp only
  split
  · exact le_rfl
  split
  · exact le_rfl
  next index _ =>
  have before : 0 ≤ (if index = 0 then (⟨0,0⟩ : PrefixLevel) else p.asks.getD (index - 1) ⟨0,0⟩).cumCost := by
    split
    · exact le_rfl
    rw [List.getD_eq_getElem?_getD]
    cases found : p.asks[index - 1]? with
    | none => exact le_rfl
    | some entry => exact paid entry (List.mem_of_getElem? found)
  generalize (if index = 0 then (⟨0,0⟩ : PrefixLevel) else p.asks.getD (index - 1) ⟨0,0⟩) = entry at before ⊢
  split
  · exact le_rfl
  next bought =>
  rw [not_or,not_lt,not_le] at bought
  split
  · exact le_rfl
  next partialCost product =>
  obtain ⟨_,rfl⟩ := checkedMulExact.mp product
  split
  · exact le_rfl
  next total sum =>
  obtain ⟨_,rfl⟩ := checkedAddExact.mp sum
  exact Int.add_nonneg before (Int.mul_nonneg (le_of_lt bought.2) bought.1)
theorem bookNonneg {book : LegBook} (indexed : BookIndexed book) {q : Int} (ok : (book.vwap q).ok = true) :
    0 ≤ (book.vwap q).totalCostTick := by
  cases book with
  | snapshot s => exact linearNonneg ok
  | depth view =>
    unfold LegBook.vwap at ok ⊢
    simp only at ok ⊢
    split at ok
    · next full =>
      rw [if_pos full]
      refine prefixNonneg fun entry mem => ?_
      rw [Or.resolve_left indexed full] at mem
      exact (prefixBelow (le_refl (0 : Int)) (le_refl (0 : Int)) entry mem).2
    · next bare =>
      rw [if_neg bare]
      exact linearNonneg ok
theorem executedNonneg {inputs out works} (done : Executed inputs out works)
    (indexed : ∀ work ∈ works, BookIndexed work.input.book) :
    0 ≤ out.totalCostTick := by
  rw [done.total]
  apply List.sum_nonneg
  intro cost mem
  obtain ⟨leg,inside,rfl⟩ := List.mem_map.mp mem
  obtain ⟨work,there,ok,same⟩ := ListRelation.forallLeft done.legs.flip leg inside
  rw [same]
  exact bookNonneg (indexed work there) ok

theorem ceilDivBounds {n d : Int} (some : 0 < d) (nonneg : 0 ≤ n) (fits : n ≤ i64Max) :
    n ≤ ceilDivPositive n d * d ∧ ceilDivPositive n d * d < n + d := by
  have exact : ceilDivPositive n d = (n + d - 1) / d := by
    unfold ceilDivPositive
    rw [if_neg (by omega),Int.tdiv_eq_ediv_of_nonneg (by omega)]
    refine min_eq_left ?_
    have below : (n + d - 1) / d ≤ n ∨ n = 0 := by
      rcases Int.lt_or_eq_of_le nonneg with positive | zero
      · left
        apply Int.ediv_le_of_le_mul some
        nlinarith
      · exact .inr zero.symm
    rcases below with below | zero
    · omega
    · rw [zero,Int.zero_add,Int.ediv_eq_zero_of_lt (by omega) (by omega)]
      decide
  have division := Int.mul_ediv_add_emod (n + d - 1) d
  have low := Int.emod_nonneg (n + d - 1) (by omega : d ≠ 0)
  have high := Int.emod_lt_of_pos (n + d - 1) some
  rw [exact,Int.mul_comm]
  constructor
  · omega
  · omega

/-! The costs Signal works with. -/

inductive Quoted : CostResult → Prop
  | bundle (bundle snapshots) : Quoted (priceBundle bundle snapshots)
  | batch (plan snapshots) : Quoted (priceRuntimePlanSnapshots plan snapshots)
  | depth (plan depth) (indexed : ∀ view ∈ depth.depthViews, ViewIndexed view) :
    Quoted (priceRuntimePlanDepth plan depth)
structure Exact (cost : CostResult) : Prop where
  some : 0 < cost.bundleQty
  nonneg : 0 ≤ cost.totalCostTick
  fits : cost.totalCostTick ≤ i64Max
  average : cost.avgCostTick = ceilDivPositive cost.totalCostTick cost.bundleQty

theorem inputsExact {find : String → RuntimeLeg → Option LegBook}
    (indexed : ∀ assetId leg book, find assetId leg = some book → BookIndexed book)
    {legs : List RuntimeLeg} (ran :
      (Machine.settled (priceInputs (legs.map (planInput find)))).executable = true) :
    Exact (Machine.settled (priceInputs (legs.map (planInput find)))) := by
  obtain ⟨works,done⟩ := executed (executedSettled ran)
  have books : ∀ work ∈ works, BookIndexed work.input.book := by
    intro work mem
    have made : Except.ok work.input ∈ legs.map (planInput find) := done.inputs ▸ List.mem_map_of_mem mem
    obtain ⟨leg,_,input⟩ := List.mem_map.mp made
    unfold planInput at input
    split at input
    · cases input
    split at input
    · cases input
    next book found =>
    rw [← Except.ok.inj input]
    exact indexed _ _ book found
  exact ⟨done.some,executedNonneg done books,done.fits.2,done.average⟩
theorem snapshotIndexed {snapshots : List MarketStateSnapshot} {assetId leg book}
    (found : snapshotForAsset snapshots assetId leg = some book) :
    BookIndexed book := by
  obtain ⟨s,_,rfl⟩ := Option.map_eq_some_iff.mp found
  trivial
theorem planExact {plan ok find} (indexed : ∀ assetId leg book, find assetId leg = some book → BookIndexed book)
    (ran : (pricePlan plan ok find).executable = true) : Exact (pricePlan plan ok find) := by
  unfold pricePlan at ran ⊢
  split at ran
  · cases ran
  next shape =>
  rw [if_neg shape]
  obtain ⟨some,nonneg,fits,average⟩ := inputsExact indexed ran
  exact ⟨some,nonneg,fits,average⟩
theorem quotedExact {cost : CostResult} (quoted : Quoted cost) (ran : cost.executable = true) : Exact cost := by
  cases quoted with
  | bundle bundle snapshots =>
    unfold priceBundle at ran ⊢
    cases vector : priceVector bundle snapshots with
    | error reason =>
      rw [vector] at ran
      cases ran
    | ok inputs =>
      rw [vector] at ran
      simp only at ran ⊢
      unfold priceVector at vector
      obtain ⟨_,vector⟩ := Machine.guardOk vector
      have same := @vectorLegs _ [] _ _ vector
      rw [← same] at ran ⊢
      exact inputsExact (fun assetId leg book found => snapshotIndexed found) ran
  | batch plan snapshots => exact planExact (fun assetId leg book found => snapshotIndexed found) ran
  | depth plan depth indexed =>
    refine planExact (fun assetId leg book found => ?_) ran
    obtain ⟨view,looked,rfl⟩ := Option.map_eq_some_iff.mp found
    exact indexed view (List.mem_of_find?_eq_some looked)

/-! The edge. -/

theorem saturatingExact {lhs rhs : Int} (fits : InI64 (lhs * rhs)) : saturatingMulI64 lhs rhs = lhs * rhs := by
  unfold saturatingMulI64
  rw [checkedMulExact.mpr ⟨fits,rfl⟩]

theorem computeEdgeExact {payout cost fee latency slippage q : Int} (gross : InI64 (payout - cost))
    (afterFee : InI64 (payout - cost - fee))
    (afterLatency : InI64 (payout - cost - fee - latency))
    (unit : InI64 (payout - cost - fee - latency - slippage))
    (total : InI64 ((payout - cost - fee - latency - slippage) * q)) :
    computeEdge payout cost fee latency slippage q =
      ⟨true,payout - cost - fee - latency - slippage,(payout - cost - fee - latency - slippage) * q,
        ratioBps (payout - cost - fee - latency - slippage) cost⟩ := by
  unfold computeEdge
  rw [checkedSubExact.mpr ⟨gross,rfl⟩]
  simp only
  rw [checkedSubExact.mpr ⟨afterFee,rfl⟩]
  simp only
  rw [checkedSubExact.mpr ⟨afterLatency,rfl⟩]
  simp only
  rw [checkedSubExact.mpr ⟨unit,rfl⟩]
  simp only
  rw [checkedMulExact.mpr ⟨total,rfl⟩]

section
variable (calculator : TheoreticalEdgeCalculator) (config : SignalConfig) (bundle : CandidateBundle)
  (cost : CostResult)

def feePerBundle : Int := calculator.feeModel.defaultFeeTick
def latencyPerBundle : Int := calculator.latencyBufferModel.defaultLatencyBufferTick
def slippagePerBundle : Int := calculator.slippageBufferModel.estimate config
def grossPerBundle : Int := bundle.guaranteedPayoutTick - cost.avgCostTick
def unitEdge : Int := grossPerBundle bundle cost - feePerBundle calculator - latencyPerBundle
    calculator - slippagePerBundle calculator config
-- Every figure of the edge and of the intent fits.
structure EdgeFits : Prop where
  payout : InI64 (bundle.guaranteedPayoutTick * cost.bundleQty)
  fee : InI64 (feePerBundle calculator * cost.bundleQty)
  latency : InI64 (latencyPerBundle calculator * cost.bundleQty)
  slippage : InI64 (slippagePerBundle calculator config * cost.bundleQty)
  gross : InI64 (grossPerBundle bundle cost)
  afterFee : InI64 (grossPerBundle bundle cost - feePerBundle calculator)
  afterLatency : InI64 (grossPerBundle bundle cost - feePerBundle calculator - latencyPerBundle calculator)
  unit : InI64 (unitEdge calculator config bundle cost)
  total : InI64 (unitEdge calculator config bundle cost * cost.bundleQty)
def intentFor (input : IntentBuildInput) : OpportunityIntent :=
  buildIntent
    {input with bundle := some bundle, cost := some cost, edge := some (calculator.calculate bundle cost config)}

variable {calculator config bundle cost}

structure Calculated (calculator : TheoreticalEdgeCalculator) (config : SignalConfig) (bundle : CandidateBundle)
    (cost : CostResult)
    (edge : EdgeBreakdown) : Prop where
  payout : edge.guaranteedPayoutPerBundleTick = bundle.guaranteedPayoutTick
  fee : edge.feePerBundleTick = feePerBundle calculator
  latency : edge.latencyBufferPerBundleTick = latencyPerBundle calculator
  slippage : edge.slippageBufferPerBundleTick = slippagePerBundle calculator config
  qty : edge.bundleQty = cost.bundleQty
  total : edge.totalEdgeTick = unitEdge calculator config bundle cost * cost.bundleQty
theorem calculated (fits : EdgeFits calculator config bundle cost) (ran : cost.executable = true)
    (positive : 0 < cost.bundleQty) :
    Calculated calculator config bundle cost (calculator.calculate bundle cost config) := by
  have edge : computeEdge bundle.guaranteedPayoutTick cost.avgCostTick calculator.feeModel.defaultFeeTick
      calculator.latencyBufferModel.defaultLatencyBufferTick
        (calculator.slippageBufferModel.estimate config) cost.bundleQty = _ :=
    computeEdgeExact fits.gross fits.afterFee fits.afterLatency fits.unit fits.total
  have counted : ¬ (cost.executable = false ∨ cost.bundleQty ≤ 0) := by
    rw [ran]
    simpa using positive
  unfold TheoreticalEdgeCalculator.calculate
  rw [if_neg counted]
  simp only
  rw [edge]
  exact ⟨rfl,rfl,rfl,rfl,rfl,rfl⟩

end

/-- The intent of an executable cost never promises more edge than its own payout, cost, fee and buffers leave, and
promises less by fewer ticks than it holds bundles. -/
theorem edgeNeverOverstated (calculator : TheoreticalEdgeCalculator) (config : SignalConfig)
    (bundle : CandidateBundle) (cost : CostResult)
    (quoted : Quoted cost) (ran : cost.executable = true) (fits : EdgeFits calculator config bundle cost)
    (input : IntentBuildInput) :
    let intent := intentFor calculator config bundle cost input
    let left :=
      intent.guaranteedPayoutTick - intent.estimatedCostTick - intent.estimatedFeeTick - intent.latencyBufferTick -
      intent.slippageBufferTick
    intent.totalEdgeTick ≤ left ∧ left - intent.totalEdgeTick < intent.bundleQty := by
  obtain ⟨positive,nonneg,top,average⟩ := quotedExact quoted ran
  obtain ⟨payout,fee,latency,slippage,qty,total⟩ := calculated fits ran positive
  obtain ⟨below,above⟩ := ceilDivBounds positive nonneg top
  rw [← average] at below above
  unfold intentFor buildIntent
  simp only
  rw [payout,fee,latency,slippage,qty,total,saturatingExact fits.payout,saturatingExact
    fits.fee,saturatingExact fits.latency,
    saturatingExact fits.slippage]
  have spread : unitEdge calculator config bundle cost * cost.bundleQty =
    bundle.guaranteedPayoutTick * cost.bundleQty -
      cost.avgCostTick * cost.bundleQty - feePerBundle calculator * cost.bundleQty - latencyPerBundle
        calculator * cost.bundleQty -
      slippagePerBundle calculator config * cost.bundleQty := by
    unfold unitEdge grossPerBundle
    ring
  rw [spread]
  constructor
  · omega
  · omega

-- Three bundles of three lots for 314 ticks: one tick of their edge is lost to the rounding.
def tripled : CandidateBundle :=
  {bundleId := 1, guaranteedPayoutTick := 120,
    legs := [{marketId := "vote", assetId := "yes", quantityLots := 3}]}
def tripledBook : List MarketStateSnapshot :=
  [{entityId := "yes", hasAsk := true, asks := [⟨30,⟨0x4014000000000000⟩⟩,⟨41,⟨0x4014000000000000⟩⟩]}]
def tripledCost : CostResult := priceBundle tripled tripledBook
theorem tripledNotOverstated : (intentFor ⟨⟨1⟩,⟨1⟩,⟨1⟩⟩ {} tripled tripledCost {}).totalEdgeTick = 36 ∧
    (let intent := intentFor ⟨⟨1⟩,⟨1⟩,⟨1⟩⟩ {} tripled tripledCost {}
    let left :=
      intent.guaranteedPayoutTick - intent.estimatedCostTick - intent.estimatedFeeTick - intent.latencyBufferTick -
      intent.slippageBufferTick
    intent.totalEdgeTick ≤ left ∧ left - intent.totalEdgeTick < intent.bundleQty) := by
  have fits : EdgeFits ⟨⟨1⟩,⟨1⟩,⟨1⟩⟩ {} tripled tripledCost :=
    ⟨by decide +kernel,by decide +kernel,by decide +kernel,by decide +kernel,by decide +kernel,
      by decide +kernel,by decide +kernel,
      by decide +kernel,by decide +kernel⟩
  exact ⟨by decide +kernel,edgeNeverOverstated ⟨⟨1⟩,⟨1⟩,⟨1⟩⟩ {} tripled tripledCost
    (.bundle tripled tripledBook) (by decide +kernel) fits {}⟩

end Polytope.SignalEdge
