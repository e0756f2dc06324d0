import Polytope.SizingWalk
import Polytope.OrderDecisionEngine
import Polytope.ListRelation

/-! The size optimizer as a whole: the legs it prepares, and what it returns over candidates it
enumerated itself. -/
namespace Polytope.SizeOptimizer
open ListRelation FixedPointMath MarketDepth SizeCandidates BundleSizing AskSweep CandidateCursor SizingState
  SizingWalk OrderDecisionEngine
open Intent (IntentLeg OrderDecisionType kMaxOrderDecisionLegs)
open CombinatorialBundles (BundleLeg)
open RiskTypes (RiskPolicySnapshot)

/-! Calls that are looked at. -/

theorem validateRefuses {call : DecideCall} {refused} (found : validate call = some refused) :
    refused.ok = false := by
  unfold validate at found
  split at found
  · cases found
    rfl
  split at found
  · cases found
    rfl
  split at found
  · cases found
    rfl
  · cases found
theorem validShape {call : DecideCall} (valid : validate call = none) : call.bundle.legs ≠ [] ∧
    call.bundle.legs.length ≤ kMaxOrderDecisionLegs := by
  unfold validate at valid
  split at valid
  · cases valid
  split at valid
  · cases valid
  split at valid
  · cases valid
  next shape =>
  rw [not_or,not_or,not_or,not_lt] at shape
  exact shape.2.2
/-! Prepared legs. -/

def viewFor (call : DecideCall) (index : Nat) : Option MarketDepthView :=
  findDepthView call.depthViews ((call.intent.legs[index]?.map IntentLeg.assetIndex).getD 0) index
structure PreparedLeg (call : DecideCall) (leg : BundleLeg × Nat) (out : SizingLeg) : Prop where
  buy : leg.1.side = .buy
  ratio : out.ratio = ratioForLeg leg.1 call.intent.legs[leg.2]?
  view : viewFor call leg.2 = some out.depth
  usable : depthFlagsUsable out.depth = true
  curve : buildBuyCurve leg.1 out.depth = .ok out.curve
def Prepared (call : DecideCall) (legs : List SizingLeg) : Prop :=
  List.Forall₂ (PreparedLeg call) call.bundle.legs.zipIdx legs

theorem ratioPositive (leg : BundleLeg) (intentLeg) : 0 < ratioForLeg leg intentLeg := by
  unfold ratioForLeg
  split
  · next own => exact own
  split
  · split
    · next given => exact given
    · exact Int.one_pos
  · exact Int.one_pos
theorem prepareLegExact {call index leg out} : prepareLeg call index leg = .ok out ↔
    PreparedLeg call (leg,index) out := by
  have positive := ratioPositive leg call.intent.legs[index]?
  unfold prepareLeg
  simp only
  constructor
  · intro prepared
    obtain ⟨buy,prepared⟩ := Machine.guardOk prepared
    obtain ⟨_,prepared⟩ := Machine.guardOk prepared
    split at prepared
    · cases prepared
    next depth found =>
    obtain ⟨usable,prepared⟩ := Machine.guardOk prepared
    obtain ⟨curve,built,prepared⟩ := Machine.bindOk.mp prepared
    cases prepared
    exact ⟨not_ne_iff.mp buy,rfl,found,by simpa using usable,built⟩
  · rintro ⟨buy,ratio,view,usable,curve⟩
    obtain ⟨_,depth,_⟩ := out
    simp only at buy ratio view usable curve
    subst ratio
    unfold viewFor at view
    rw [if_neg (not_ne_iff.mpr buy),if_neg (not_le.mpr positive),view]
    simp only
    rw [if_neg (by rw [usable]; exact Bool.noConfusion),curve]
    rfl
theorem prepareLegsExact {call index legs outs} :
    prepareLegs call index legs = .ok outs ↔ List.Forall₂ (PreparedLeg call) (legs.zipIdx index) outs := by
  induction legs generalizing index outs with
  | nil =>
    constructor
    · intro prepared
      cases prepared
      exact .nil
    · intro prepared
      cases prepared
      rfl
  | cons leg rest ih =>
    rw [prepareLegs,List.zipIdx_cons]
    constructor
    · intro prepared
      obtain ⟨first,here,prepared⟩ := Machine.bindOk.mp prepared
      obtain ⟨later,others,prepared⟩ := Machine.bindOk.mp prepared
      cases prepared
      exact .cons (prepareLegExact.mp here) (ih.mp others)
    · rintro (_ | ⟨here,others⟩)
      exact Machine.bindOk.mpr ⟨_,prepareLegExact.mpr here,Machine.bindOk.mpr ⟨_,ih.mpr others,rfl⟩⟩

-- The guards before the legs are looked at.
def Shaped (call : DecideCall) : Prop :=
  call.bundle.legs ≠ [] ∧ call.bundle.legs.length ≤ kMaxOrderDecisionLegs ∧
    (call.intent.legs = [] ∨ call.bundle.legs.length ≤ call.intent.legs.length)
theorem legsForExact {call legs} : legsFor call = .ok legs ↔ Shaped call ∧ Prepared call legs := by
  unfold legsFor Prepared
  rw [← prepareLegsExact]
  constructor
  · intro found
    obtain ⟨counted,found⟩ := Machine.guardOk found
    obtain ⟨covered,found⟩ := Machine.guardOk found
    rw [not_or,not_lt] at counted
    refine ⟨⟨counted.1,counted.2,?_⟩,found⟩
    by_cases none : call.intent.legs = []
    · exact .inl none
    · exact .inr (not_lt.mp fun fewer => covered ⟨none,fewer⟩)
  · rintro ⟨⟨some,few,covered⟩,prepared⟩
    rw [if_neg (not_or.mpr ⟨some,not_lt.mpr few⟩),if_neg,prepared]
    rintro ⟨given,fewer⟩
    rcases covered with none | enough
    · exact given none
    · exact absurd fewer (not_lt.mpr enough)

theorem preparedCurved {call legs} (prepared : Prepared call legs) : Curved legs :=
  forallRight prepared fun leg _ made => ⟨made.ratio ▸ ratioPositive leg.1 _,curveOf made.curve⟩

/-! The candidates of curved legs. -/

theorem risingCursors {legs} (curved : Curved legs) : Rising (legs.map SizingLeg.cursor) := by
  intro cursor mem
  obtain ⟨leg,inside,rfl⟩ := List.mem_map.mp mem
  have curve := (curved leg inside).2
  change leg.curve.breakpoints.Pairwise (· ≤ ·)
  rw [curve.ends]
  exact breakpointsRising (curveOfSized curve)
theorem leastPositive (config : OrderDecisionConfig) : 1 ≤ config.bounds.minBundleQty := le_max_left _ _

section
variable {config : OrderDecisionConfig} {legs : List SizingLeg}

theorem candidatesMem (curved : Curved legs) (q : Int) : q ∈ candidatesFor config legs ↔
    config.bounds.minBundleQty ≤ q ∧ q < i64Max ∧ Offers config.bounds (legs.map SizingLeg.cursor) q :=
  enumerateMem (leastPositive config) (risingCursors curved) q
theorem candidatesSorted (curved : Curved legs) : (candidatesFor config legs).Pairwise (· < ·) :=
  enumerateSorted (leastPositive config) (risingCursors curved)
theorem candidateCapped {bounds : Bounds} {ratio cumulative : Int} (capped : 0 < bounds.maxBundleQty) :
    candidateAt bounds ratio cumulative ≤ bounds.maxBundleQty := by
  unfold candidateAt
  split
  · exact le_of_lt capped
  simp only
  split
  · exact le_of_lt capped
  split
  · exact le_rfl
  · next below => exact not_lt.mp fun exceeds => below ⟨capped,exceeds⟩
theorem candidateWithin (curved : Curved legs) {q : Int} (mem : q ∈ candidatesFor config legs) :
    max 1 config.minBundleQty ≤ q ∧ (0 < config.maxBundleQty → q ≤ config.maxBundleQty) := by
  obtain ⟨least,_,leg,_,cumulative,_,rfl⟩ := (candidatesMem curved q).mp mem
  exact ⟨least,@candidateCapped config.bounds leg.ratio cumulative⟩

end

/-! The tests of one candidate, read back. -/

theorem totalCostExact {config : OrderDecisionConfig} {q legCost cost : Int}
    (costs : totalCost config q legCost = some cost) :
    cost = legCost + (config.feePerBundleTick + config.latencyBufferPerBundleTick +
      config.slippageBufferPerBundleTick) * q := by
  unfold totalCost at costs
  obtain ⟨fee,fees,costs⟩ := Option.bind_eq_some_iff.mp costs
  obtain ⟨latency,latencies,costs⟩ := Option.bind_eq_some_iff.mp costs
  obtain ⟨slippage,slippages,costs⟩ := Option.bind_eq_some_iff.mp costs
  obtain ⟨first,adds,costs⟩ := Option.bind_eq_some_iff.mp costs
  obtain ⟨second,addsNext,costs⟩ := Option.bind_eq_some_iff.mp costs
  obtain ⟨_,rfl⟩ := checkedMulExact.mp fees
  obtain ⟨_,rfl⟩ := checkedMulExact.mp latencies
  obtain ⟨_,rfl⟩ := checkedMulExact.mp slippages
  obtain ⟨_,rfl⟩ := checkedAddExact.mp adds
  obtain ⟨_,rfl⟩ := checkedAddExact.mp addsNext
  obtain ⟨_,rfl⟩ := checkedAddExact.mp costs
  ring
structure EdgeOf (policy : RiskPolicySnapshot) (guaranteed : Int) (point : EdgeCurvePoint) : Prop where
  total : point.totalEdgeTick = guaranteed * point.bundleQty - point.totalCostTick
  unit : point.unitEdgeTick = point.totalEdgeTick.tdiv point.bundleQty
  bps : point.edgeBps = ratioBps point.totalEdgeTick point.totalCostTick
  unitEnough : policy.minPostRiskUnitEdgeTick ≤ point.unitEdgeTick
  totalEnough : policy.minPostRiskTotalEdgeTick ≤ point.totalEdgeTick
  bpsEnough : policy.minEdgeBps ≤ point.edgeBps
theorem edgeOf {policy : RiskPolicySnapshot} {guaranteed q cost point}
    (edge : edgePoint policy guaranteed q cost = some point) :
    EdgeOf policy guaranteed point := by
  unfold edgePoint at edge
  obtain ⟨payout,payouts,edge⟩ := Option.bind_eq_some_iff.mp edge
  obtain ⟨total,totals,edge⟩ := Option.bind_eq_some_iff.mp edge
  obtain ⟨_,rfl⟩ := checkedMulExact.mp payouts
  obtain ⟨_,rfl⟩ := checkedSubExact.mp totals
  simp only at edge
  split at edge
  · cases edge
  next enough =>
  rw [not_or,not_or,not_lt,not_lt,not_lt] at enough
  cases edge
  exact ⟨rfl,rfl,rfl,enough.2.1,enough.1,enough.2.2⟩

/-! What the optimizer returns. -/

theorem optimizeEmpty (config : OrderDecisionConfig) (call : DecideCall) :
    (optimize config {} call).2 = (legsFor call).bind fun legs =>
    sizeOver config call legs (candidatesFor config legs) := by
  unfold optimize
  cases legsFor call with
  | error reason => rfl
  | ok legs => rfl

theorem optimizeSized {config : OrderDecisionConfig} {cache call size}
    (optimized : (optimize config cache call).2 = .ok size) :
    ∃ legs candidates, legsFor call = .ok legs ∧ sizeOver config call legs candidates = .ok size := by
  unfold optimize at optimized
  cases found : legsFor call with
  | error reason =>
    rw [found] at optimized
    cases optimized
  | ok legs =>
    rw [found] at optimized
    simp only at optimized
    split at optimized
    · next stored _ => exact ⟨legs,stored,rfl,(Machine.guardOk optimized).2⟩
    · exact ⟨legs,_,rfl,optimized⟩

def bestSize (call : DecideCall) (legs : List SizingLeg) (best : EdgeCurvePoint)
    (state : IncrementalEvalState) : BundleSize :=
  { bestBundleQty := best.bundleQty
    guaranteedPayoutTick := guaranteedPerBundle call * best.bundleQty
    totalCostTick := best.totalCostTick
    unitEdgeTick := best.unitEdgeTick
    totalEdgeTick := best.totalEdgeTick
    edgeBps := best.edgeBps
    legs := List.zipWith sizedLeg legs state.legs }

section
variable {config : OrderDecisionConfig} {call : DecideCall} {legs : List SizingLeg} {candidates : List Int}

theorem walkChosen (curved : Curved legs) {best}
    (found : (walkCandidates (evaluateCandidate config call legs) (startWalk legs) candidates).best = some best) :
    Chosen config call legs candidates best := by
  obtain ⟨_,walk⟩ := walkKeeps curved (startAt config call candidates legs curved) (List.Subset.refl candidates)
  exact walk.best best found
theorem sizeChosen (curved : Curved legs) {size} (sized : sizeOver config call legs candidates = .ok size) :
    ∃ best state, Chosen config call legs candidates (best,state) ∧ size = bestSize call legs best state := by
  unfold sizeOver sizeResult at sized
  split at sized
  · split at sized
    · cases sized
    split at sized
    · cases sized
    split at sized
    · cases sized
    · cases sized
  next best state found =>
  obtain ⟨_,sized⟩ := Machine.guardOk sized
  cases sized
  exact ⟨best,state,walkChosen curved found,rfl⟩

theorem filledSome {q : Int} {fills : List LegFill} (curved : Curved legs) (some : 0 < q)
    (filled : FilledAt q legs fills) :
    ∀ fill ∈ fills, 0 < fill.qtyLots ∧ 0 ≤ fill.costTick := by
  induction filled with
  | nil => exact fun fill mem => (by cases mem)
  | @cons leg fill legs fills here later ih =>
    obtain ⟨legCurved,others⟩ := curvedCons.mp curved
    refine List.forall_mem_cons.mpr ⟨⟨?_,?_⟩,ih others⟩
    · rw [here.qty]
      exact Int.mul_pos legCurved.1 some
    · rw [here.cost]
      exact legSweepNonneg legCurved (le_of_lt some)
-- A quantity that is bought fills every leg, so the last test of the optimizer never refuses one.
theorem chosenFilled (curved : Curved legs) {best state}
    (chosen : Chosen config call legs candidates (best,state)) :
    state.legs.any (fun fill => decide (fill.qtyLots ≤ 0 ∨ fill.costTick < 0)) = false := by
  have least := chosen.priced.least
  have one := leastPositive config
  simp only at least
  rw [List.any_eq_false]
  intro fill mem
  have some : 0 < best.bundleQty := by omega
  have filled := filledSome curved some chosen.state.filled fill mem
  simp only [decide_eq_true_iff]
  omega
theorem sizeFound (curved : Curved legs) {best state}
    (found : (walkCandidates (evaluateCandidate config call legs) (startWalk legs) candidates).best = some
      (best,state)) :
    sizeOver config call legs candidates = .ok (bestSize call legs best state) := by
  unfold sizeOver sizeResult
  rw [found]
  simp only
  rw [chosenFilled curved (walkChosen curved found),if_neg Bool.noConfusion]
  rfl

end

end Polytope.SizeOptimizer
