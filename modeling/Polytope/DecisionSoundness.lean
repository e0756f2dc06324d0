import Polytope.SizeOptimizer

/-! What a decision of the generic implementation says about the books it was taken on. The optimizer
advances one state through all candidates and keeps a copy at the best one; the limits are set
afterwards. -/
namespace Polytope.DecisionSoundness
open FixedPointMath MarketDepth SizeCandidates BundleSizing AskSweep SizingState SizingWalk SizeOptimizer
  OrderDecisionEngine
open Intent (OrderDecisionType OrderDecisionLite OrderDecisionLegLite)
open CombinatorialBundles (BundleLeg)
open RiskTypes (RiskPolicySnapshot)

structure SoundLeg (config : OrderDecisionConfig) (call : DecideCall) (bundleQty : Int) (leg : BundleLeg × Nat)
    (view : MarketDepthView)
    (out : OrderDecisionLegLite) : Prop where
  found : viewFor call leg.2 = some view
  assetIndex : out.assetIndex = view.assetIndex
  side : leg.1.side = .buy ∧ out.side = .buy
  qty : out.quantityLots = ratioForLeg leg.1 call.intent.legs[leg.2]? * bundleQty
  depth : out.quantityLots ≤ visibleAskLots view.asks
  margin : InI64 (out.quantityLots * call.policy.minDepthMarginBps) →
    out.quantityLots * call.policy.minDepthMarginBps ≤ visibleAskLots view.asks * 10000
  cost : out.estimatedCostTick = sweep (askSteps view.asks) out.quantityLots
  worst : out.worstPriceTick = lastPrice (askSteps view.asks) out.quantityLots
  limit : out.limitPriceTick = out.worstPriceTick + config.priceProtectionBufferTick
  bounded : 0 ≤ config.priceProtectionBufferTick → Ascending (askSteps view.asks) →
    worstPrice (askSteps view.asks) out.quantityLots ≤ out.limitPriceTick
structure Sound (config : OrderDecisionConfig) (call : DecideCall) (decision : OrderDecisionLite) : Prop where
  least : max 1 config.minBundleQty ≤ decision.chosenBundleQty
  most : 0 < config.maxBundleQty → decision.chosenBundleQty ≤ config.maxBundleQty
  legs : List.Forall₂ (fun leg out => ∃ view, SoundLeg config call decision.chosenBundleQty leg view out)
    call.bundle.legs.zipIdx decision.legs
  cost : decision.estimatedTotalCostTick = (decision.legs.map OrderDecisionLegLite.estimatedCostTick).sum +
    (config.feePerBundleTick + config.latencyBufferPerBundleTick + config.slippageBufferPerBundleTick) *
    decision.chosenBundleQty
  budget : 0 < call.policy.maxTotalCostTick → decision.estimatedTotalCostTick ≤ call.policy.maxTotalCostTick
  payout : decision.guaranteedPayoutTick = guaranteedPerBundle call * decision.chosenBundleQty
  edge : decision.totalEdgeTick =
    guaranteedPerBundle call * decision.chosenBundleQty - decision.estimatedTotalCostTick
  unitEdge : decision.unitEdgeTick = decision.totalEdgeTick.tdiv decision.chosenBundleQty
  edgeBps : decision.edgeBps = ratioBps decision.totalEdgeTick decision.estimatedTotalCostTick
  unitEnough : call.policy.minPostRiskUnitEdgeTick ≤ decision.unitEdgeTick
  totalEnough : call.policy.minPostRiskTotalEdgeTick ≤ decision.totalEdgeTick
  bpsEnough : call.policy.minEdgeBps ≤ decision.edgeBps

/-! The depth margin. -/

theorem ceilRatioMargin {value bps depth : Int} (nonneg : 0 ≤ value) (fits : InI64 (value * bps))
    (covers : ceilRatioBps value bps ≤ depth) : value * bps ≤ depth * 10000 := by
  unfold ceilRatioBps at covers
  split at covers
  · next plain =>
    have small : value * bps ≤ value * 10000 := by
      rcases plain with none | plain
      · rw [show value = 0 by omega,Int.zero_mul,Int.zero_mul]
      · exact Int.mul_le_mul_of_nonneg_left plain nonneg
    omega
  next scaled =>
  rw [not_or,not_le,not_le] at scaled
  rw [checkedMulExact.mpr ⟨fits,rfl⟩] at covers
  simp only at covers
  have more : 0 ≤ value * bps := Int.mul_nonneg nonneg (by omega)
  have upper := fits.2
  unfold ceilDivPositive at covers
  rw [if_neg (by decide),Int.tdiv_eq_ediv_of_nonneg (by omega)] at covers
  omega

/-! The limits. -/

theorem buyLimitExact {config : OrderDecisionConfig} {legMax worst limit}
    (limited : buildBuyLimit config legMax worst = .ok limit) :
    0 < worst ∧ limit = worst + config.priceProtectionBufferTick := by
  unfold buildBuyLimit at limited
  obtain ⟨some,limited⟩ := Machine.guardOk limited
  split at limited
  · cases limited
  next price sum =>
  obtain ⟨_,rfl⟩ := checkedAddExact.mp sum
  simp only at limited
  obtain ⟨_,limited⟩ := Machine.guardOk limited
  cases limited
  exact ⟨not_le.mp some,rfl⟩

section
variable {config : OrderDecisionConfig} {call : DecideCall} {q : Int}

theorem soundLeg {leg : BundleLeg × Nat} {made : SizingLeg} {fill : LegFill} {limit}
    (prepared : PreparedLeg call leg made) (some : 0 < q)
    (filled : LegAt made (made.ratio * q) fill) (fits : InI64 (made.ratio * q))
    (deep : ceilRatioBps (made.ratio * q) call.policy.minDepthMarginBps ≤ made.curve.totalQtyLots)
    (limited : buildBuyLimit config leg.1.maxPriceTick fill.worstPriceTick = .ok limit) :
    SoundLeg config call q leg made.depth {sizedLeg made fill with limitPriceTick := limit} := by
  have curve := curveOf prepared.curve
  have positive : 0 < made.ratio := prepared.ratio ▸ ratioPositive leg.1 _
  have lots : 0 < made.ratio * q := Int.mul_pos positive some
  have within := le_trans (ceilRatioLe fits call.policy.minDepthMarginBps) deep
  have visible := curveWithin curve
  have last : fill.worstPriceTick = lastPrice (askSteps made.depth.asks) (made.ratio * q) := by
    rw [filled.worst lots,curveLast curve lots within]
  obtain ⟨_,exact⟩ := buyLimitExact limited
  refine ⟨prepared.view,rfl,⟨prepared.buy,rfl⟩,?_,?_,?_,?_,?_,exact,?_⟩
  · exact filled.qty.trans (congrArg (· * q) prepared.ratio)
  · exact filled.qty.le.trans (within.trans visible)
  · intro product
    change InI64 (fill.qtyLots * _) at product
    change fill.qtyLots * _ ≤ _
    rw [filled.qty] at product ⊢
    exact ceilRatioMargin (le_of_lt lots) product (deep.trans visible)
  · change fill.costTick = sweep _ fill.qtyLots
    rw [filled.cost,filled.qty]
    exact curveSweep curve (le_of_lt lots) within
  · change fill.worstPriceTick = lastPrice _ fill.qtyLots
    rw [last,filled.qty]
  · intro nonneg ascending
    change worstPrice _ fill.qtyLots ≤ limit
    rw [filled.qty,worstIsLast (askSized _) (askPriced _) ascending lots (by rw [askDepth]; omega),exact,last]
    omega

theorem soundLegs {index : Nat} {legs : List BundleLeg} {made : List SizingLeg} {fills outs} (some : 0 < q)
    (prepared : List.Forall₂ (PreparedLeg call) (legs.zipIdx index) made) (filled : FilledAt q made fills)
    (deep : Deep call.policy.minDepthMarginBps made q)
    (limited : limitLegs config legs (List.zipWith sizedLeg made fills) = .ok outs) :
    List.Forall₂ (fun leg out => ∃ view, SoundLeg config call q leg view out) (legs.zipIdx index) outs ∧
      (outs.map OrderDecisionLegLite.estimatedCostTick).sum = legsCost made q := by
  induction legs generalizing index made fills outs with
  | nil =>
    cases prepared
    cases filled
    cases limited
    exact ⟨.nil,rfl⟩
  | cons leg rest ih =>
    rw [List.zipIdx_cons] at prepared ⊢
    obtain _ | ⟨here,others⟩ := prepared
    obtain _ | ⟨filledHere,filledLater⟩ := filled
    obtain ⟨deepHere,deepLater⟩ := deepCons.mp deep
    rw [List.zipWith_cons_cons,limitLegs] at limited
    obtain ⟨limit,limitHere,limited⟩ := Machine.bindOk.mp limited
    obtain ⟨later,limitLater,limited⟩ := Machine.bindOk.mp limited
    cases limited
    obtain ⟨sound,costs⟩ := ih others filledLater deepLater limitLater
    refine ⟨.cons ⟨_,soundLeg here some filledHere deepHere.1 deepHere.2 limitHere⟩ sound,?_⟩
    rw [List.map_cons,List.sum_cons,costs,legsCostCons]
    exact congrArg (· + _) filledHere.cost

theorem genericOk (ok : (genericDecide config {} call).2.ok = true) :
    ∃ legs size decision, legsFor call = .ok legs ∧
      sizeOver config call legs (candidatesFor config legs) = .ok size ∧
      buildDecision config call size call.intent.snapshotVersionHash = .ok decision ∧
        (genericDecide config {} call).2.decision = decision := by
  have empty := optimizeEmpty config call
  unfold genericDecide at ok ⊢
  split at ok
  · next refused found =>
    rw [validateRefuses found] at ok
    cases ok
  simp only at ok ⊢
  unfold genericCompute at ok ⊢
  split at ok
  · cases ok
  next size optimized =>
  rw [optimized] at empty
  unfold settle at ok ⊢
  split at ok
  · cases ok
  next decision built =>
  cases found : legsFor call with
  | error reason =>
    rw [found] at empty
    cases empty
  | ok legs =>
    rw [found] at empty
    exact ⟨legs,size,decision,rfl,empty.symm,built,rfl⟩

end

theorem genericDecisionSound (config : OrderDecisionConfig) (call : DecideCall)
    (ok : (genericDecide config {} call).2.ok = true) :
    Sound config call (genericDecide config {} call).2.decision := by
  obtain ⟨legs,size,decision,found,sized,built,same⟩ := genericOk ok
  obtain ⟨_,prepared⟩ := legsForExact.mp found
  have curved := preparedCurved prepared
  obtain ⟨best,state,chosen,rfl⟩ := sizeChosen curved sized
  obtain ⟨outs,limited,built⟩ := Machine.bindOk.mp built
  obtain ⟨least,most⟩ := candidateWithin curved chosen.candidate
  have edge := edgeOf chosen.priced.edge
  have cost := totalCostExact chosen.priced.cost
  have some : 0 < best.bundleQty := by
    have one : 1 ≤ best.bundleQty := le_trans (le_max_left _ _) least
    omega
  obtain ⟨sound,costs⟩ := soundLegs some prepared chosen.state.filled chosen.priced.deep limited
  rw [same]
  cases built
  refine ⟨least,most,sound,?_,chosen.priced.budget,rfl,edge.total,edge.unit,edge.bps,edge.unitEnough,
    edge.totalEnough,edge.bpsEnough⟩
  rw [← costs] at cost
  exact cost

-- Two legs, the second with two lots a bundle, on books of two levels of five and ten lots each.
def book (assetIndex : Nat) (first second : Int) (lots : UInt64) : MarketDepthView :=
  {assetIndex, usableForDepth := true, asks := [⟨first,⟨lots⟩⟩,⟨second,⟨lots⟩⟩]}
def twoLegs : DecideCall :=
  { intent :=
      { bundleId := 1
        status := .paperOpportunity
        legs := [{assetIndex := 4, quantityLots := 1},{assetIndex := 9, quantityLots := 2}] }
    bundle := { bundleId := 1, guaranteedPayoutTick := 100, legs := [{quantityLots := 1},{quantityLots := 2}] }
    depthViews := [book 9 20 21 0x4024000000000000,book 4 40 41 0x4014000000000000]
    policy := {minDepthMarginBps := 11000}
    nowNs := 1000 }

theorem twoLegsSound : Sound {} twoLegs (genericDecide {} {} twoLegs).2.decision :=
  genericDecisionSound {} twoLegs (by decide +kernel)

-- The buffer may be negative: then the limit is below the worst price that was swept.
theorem limitBelowWorst :
    (genericDecide {priceProtectionBufferTick := -1} {} twoLegs).2.ok = true ∧
    ∃ out ∈ (genericDecide {priceProtectionBufferTick := -1} {} twoLegs).2.decision.legs,
      ∃ view ∈ twoLegs.depthViews,
      view.assetIndex = out.assetIndex ∧
      out.limitPriceTick < worstPrice (askSteps view.asks) out.quantityLots := by
  decide +kernel

end Polytope.DecisionSoundness
