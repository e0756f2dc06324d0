import Polytope.SizeOptimizer
import Mathlib.Data.List.MinMax
import Mathlib.Tactic.IntervalCases

/-! Bundles of legs of one lot each. Between two neighbouring candidates every leg stays inside one level of
its book, so the edge is linear there and no quantity in between beats both of them. -/
namespace Polytope.OptimalSizing
open FixedPointMath MarketDepth SizeCandidates BundleSizing AskSweep CandidateCursor SizingState
  SizingWalk SizeOptimizer
open OrderDecisionEngine

def legViews (call : DecideCall) : List MarketDepthView :=
  call.bundle.legs.zipIdx.filterMap fun leg => viewFor call leg.2
def Sizable (call : DecideCall) : Prop :=
  Shaped call ∧ ∀ leg ∈ call.bundle.legs.zipIdx, leg.1.side = .buy ∧
    ∃ view ∈ viewFor call leg.2, depthFlagsUsable view = true ∧ 0 < bookDepth view.asks
instance (call) : Decidable (Sizable call) := by unfold Sizable Shaped; infer_instance
def Within (config : OrderDecisionConfig) (views : List MarketDepthView) (q : Int) : Prop :=
  1 ≤ q ∧ (∀ view ∈ views, q ≤ bookDepth view.asks) ∧ (0 < config.maxBundleQty → q ≤ config.maxBundleQty)
instance (config views q) : Decidable (Within config views q) := by unfold Within; infer_instance

def chargesPerBundle (config : OrderDecisionConfig) : Int :=
  config.feePerBundleTick + config.latencyBufferPerBundleTick + config.slippageBufferPerBundleTick
def booksCost (views : List MarketDepthView) (q : Int) : Int :=
  (views.map fun view => sweep (askSteps view.asks) q).sum
def exactCost (config : OrderDecisionConfig) (views : List MarketDepthView) (q : Int) : Int :=
  booksCost views q + chargesPerBundle config * q
def exactEdge (config : OrderDecisionConfig) (call : DecideCall) (views : List MarketDepthView) (q : Int) : Int :=
  guaranteedPerBundle call * q - exactCost config views q

-- The amounts computed for one quantity, in the order they are computed.
structure SumsFit (config : OrderDecisionConfig) (call : DecideCall) (views : List MarketDepthView)
    (q : Int) : Prop where
  books : booksCost views q ≤ i64Max
  fee : InI64 (config.feePerBundleTick * q)
  latency : InI64 (config.latencyBufferPerBundleTick * q)
  slippage : InI64 (config.slippageBufferPerBundleTick * q)
  withFee : InI64 (booksCost views q + config.feePerBundleTick * q)
  withLatency : InI64 (booksCost views q + config.feePerBundleTick * q + config.latencyBufferPerBundleTick * q)
  cost : InI64 (exactCost config views q)
  payout : InI64 (guaranteedPerBundle call * q)
  edge : InI64 (exactEdge config call views q)
structure SizingFits (config : OrderDecisionConfig) (call : DecideCall) (views : List MarketDepthView) : Prop where
  lots : ∀ view ∈ views, bookDepth view.asks ≤ i64Max
  books : ∀ view ∈ views, bookCost view.asks ≤ i64Max
  sums : ∀ q, Within config views q → SumsFit config call views q

/-! Legs of one lot. -/

def Ones (legs : List SizingLeg) : Prop := ∀ leg ∈ legs, leg.ratio = 1
theorem onesCons {leg : SizingLeg} {legs} : Ones (leg::legs) ↔ leg.ratio = 1 ∧ Ones legs := List.forall_mem_cons

theorem candidateOne {bounds : Bounds} {cumulative : Int} (some : 1 ≤ cumulative) :
    candidateAt bounds 1 cumulative = if 0 < bounds.maxBundleQty ∧ bounds.maxBundleQty < cumulative then
        bounds.maxBundleQty
      else cumulative := by
  unfold candidateAt
  rw [if_neg (by omega),Int.tdiv_one]
  simp only
  rw [if_neg (by omega)]

-- The neighbours of q among the candidates; zero stands in where there is none below.
theorem neighbours {q : Int} (some : 0 < q) (candidates : List Int) {top : Int} (above : q ≤ top) :
    ∃ low high, 0 ≤ low ∧ low < q ∧ q ≤ high ∧ high ≤ top ∧ (low = 0 ∨ low ∈ candidates) ∧
      (high = top ∨ high ∈ candidates) ∧
      ∀ c ∈ candidates, c ≤ low ∨ high ≤ c := by
  induction candidates with
  | nil => exact ⟨0,top,le_rfl,some,above,le_rfl,.inl rfl,.inl rfl,fun c mem => (by cases mem)⟩
  | cons c rest ih =>
    obtain ⟨low,high,nonneg,below,upper,capped,lowFrom,highFrom,apart⟩ := ih
    have lowOld : low = 0 ∨ low ∈ c::rest := lowFrom.imp_right (List.mem_cons_of_mem c)
    have highOld : high = top ∨ high ∈ c::rest := highFrom.imp_right (List.mem_cons_of_mem c)
    by_cases lower : c < q
    · by_cases closer : low < c
      · refine ⟨c,high,by omega,lower,upper,capped,.inr List.mem_cons_self,highOld,?_⟩
        refine List.forall_mem_cons.mpr ⟨.inl le_rfl,fun d mem => ?_⟩
        have := apart d mem
        omega
      · exact ⟨low,high,nonneg,below,upper,capped,lowOld,highOld,List.forall_mem_cons.mpr ⟨.inl (by omega),apart⟩⟩
    · by_cases closer : c < high
      · refine ⟨low,c,nonneg,below,by omega,by omega,lowOld,.inr List.mem_cons_self,?_⟩
        refine List.forall_mem_cons.mpr ⟨.inr le_rfl,fun d mem => ?_⟩
        have := apart d mem
        omega
      · exact ⟨low,high,nonneg,below,upper,capped,lowOld,highOld,List.forall_mem_cons.mpr ⟨.inr (by omega),apart⟩⟩

def Room (config : OrderDecisionConfig) (legs : List SizingLeg) (q : Int) : Prop :=
  1 ≤ q ∧ (∀ leg ∈ legs, q ≤ leg.curve.totalQtyLots) ∧ (0 < config.maxBundleQty → q ≤ config.maxBundleQty)

section
variable {config : OrderDecisionConfig} {legs : List SizingLeg} {q : Int}

theorem breakpointSome {leg : SizingLeg} (curve : CurveOf leg.depth.asks leg.curve) {b}
    (mem : b ∈ leg.curve.breakpoints) : 1 ≤ b := by
  rw [curve.ends] at mem
  have positive := curvePositive curve
  generalize curveSteps leg.curve.levels = steps at mem positive
  cases steps with
  | nil => cases mem
  | cons step rest =>
    have here := (positive step List.mem_cons_self).2
    rw [breakpoints] at mem
    rcases List.mem_cons.mp mem with rfl | later
    · omega
    · have sized : Sized rest := fun other inside => le_of_lt (positive other (List.mem_cons_of_mem _ inside)).2
      have above := breakpointsAbove sized b later
      omega

-- The whole depth of the leg that runs out first, or the cap, is offered.
theorem roomTop (curved : Curved legs) (ones : Ones legs) (some : legs ≠ []) (room : Room config legs q) :
    ∃ top, Room config legs top ∧ q ≤ top ∧ Offers config.bounds (legs.map SizingLeg.cursor) top := by
  obtain ⟨leg,least⟩ := Option.ne_none_iff_exists'.mp
    (mt (List.argmin_eq_none (f := fun leg : SizingLeg => leg.curve.totalQtyLots)).mp some)
  have mem := List.argmin_mem least
  have curve := (curved leg mem).2
  have positive := curve.some
  have last := curveEnd curve
  refine ⟨candidateAt config.bounds 1 leg.curve.totalQtyLots,?_,?_,leg.cursor,List.mem_map_of_mem mem,_,last,?_⟩
  · rw [candidateOne (by omega)]
    refine ⟨?_,fun other inside => ?_,fun capped => ?_⟩
    · split <;> omega
    · have fewer : leg.curve.totalQtyLots ≤ other.curve.totalQtyLots := 
      List.le_of_mem_argmin (f := fun leg : SizingLeg => leg.curve.totalQtyLots) inside least
      split <;> omega
    · change 0 < config.bounds.maxBundleQty at capped
      change _ ≤ config.bounds.maxBundleQty
      split <;> omega
  · have within := room.2.1 leg mem
    have cap : 0 < config.bounds.maxBundleQty → q ≤ config.bounds.maxBundleQty := room.2.2
    rw [candidateOne (by omega)]
    split <;> omega
  · rw [show leg.cursor.ratio = 1 from ones leg mem]

theorem legsLinear (curved : Curved legs) (ones : Ones legs) {low high : Int} (nonneg : 0 ≤ low) (lt : low < high)
    (within : ∀ leg ∈ legs, high ≤ leg.curve.totalQtyLots)
    (apart : ∀ leg ∈ legs, ∀ b ∈ leg.curve.breakpoints, b ≤ low ∨ high ≤ b) :
    ∃ slope, ∀ x, low ≤ x → x ≤ high → legsCost legs x = legsCost legs low + slope * (x - low) := by
  induction legs with
  | nil => exact ⟨0,fun x _ _ => (by simp [legsCost])⟩
  | cons leg rest ih =>
    obtain ⟨here,others⟩ := curvedCons.mp curved
    obtain ⟨one,onesLater⟩ := onesCons.mp ones
    obtain ⟨withinHere,withinLater⟩ := List.forall_mem_cons.mp within
    obtain ⟨apartHere,apartLater⟩ := List.forall_mem_cons.mp apart
    obtain ⟨slope,linear⟩ := ih others onesLater withinLater apartLater
    have ends := here.2.ends
    obtain ⟨price,segment⟩ :=
      sweepLinear (curveOfSized here.2) nonneg lt (curveDepth here.2 ▸ withinHere) (ends ▸ apartHere)
    refine ⟨price + slope,fun x lower upper => ?_⟩
    rw [legsCostCons,legsCostCons,linear x lower
      upper,legSweep,legSweep,one,Int.one_mul,Int.one_mul,segment x lower upper]
    ring

def edgeAt (config : OrderDecisionConfig) (guaranteed : Int) (legs : List SizingLeg) (q : Int) : Int :=
  guaranteed * q - (legsCost legs q + chargesPerBundle config * q)

-- No quantity that pays for itself beats all candidates.
theorem betterCandidate (curved : Curved legs) (ones : Ones legs) (some : legs ≠ [])
    (least : config.minBundleQty ≤ 1)
    (below : ∀ top, Room config legs top → top < i64Max) (room : Room config legs q) {guaranteed : Int}
    (pays : 0 ≤ edgeAt config guaranteed legs q) :
    ∃ c ∈ candidatesFor config legs, Room config legs c ∧
      edgeAt config guaranteed legs q ≤ edgeAt config guaranteed legs c := by
  have minimum : config.bounds.minBundleQty = 1 := max_eq_left least
  have candidate : ∀ c, Room config legs c → Offers config.bounds (legs.map SizingLeg.cursor) c →
    c ∈ candidatesFor config legs :=
    fun c inside offered => (candidatesMem curved c).mpr ⟨minimum ▸ inside.1,below c inside,offered⟩
  obtain ⟨top,topRoom,above,offered⟩ := roomTop curved ones some room
  obtain ⟨low,high,nonneg,lower,upper,capped,lowFrom,highFrom,apart⟩ :=
    neighbours (lt_of_lt_of_le Int.one_pos room.1) (candidatesFor config legs) above
  have highRoom : Room config legs high :=
    ⟨by have := room.1; omega,fun leg mem => capped.trans (topRoom.2.1 leg mem),fun cap =>
      capped.trans (topRoom.2.2 cap)⟩
  have highMem : high ∈ candidatesFor config legs := by
    rcases highFrom with rfl | mem
    · exact candidate high topRoom offered
    · exact mem
  have ends : ∀ leg ∈ legs, ∀ b ∈ leg.curve.breakpoints, b ≤ low ∨ high ≤ b := by
    intro leg mem b end'
    by_contra between
    rw [not_or,not_le,not_le] at between
    have cap : 0 < config.bounds.maxBundleQty → high ≤ config.bounds.maxBundleQty := highRoom.2.2
    have own : candidateAt config.bounds 1 b = b := by
      rw [candidateOne (breakpointSome (curved leg mem).2 end'),if_neg (by omega)]
    have bRoom : Room config legs b :=
      ⟨breakpointSome (curved leg mem).2 end',fun other inside =>
        (le_of_lt between.2).trans (highRoom.2.1 other inside),
        fun capped => (le_of_lt between.2).trans (highRoom.2.2 capped)⟩
    have split := apart b (candidate b bRoom
      ⟨leg.cursor,List.mem_map_of_mem mem,b,end',by rw [show leg.cursor.ratio = 1 from ones leg mem,own]⟩)
    omega
  obtain ⟨slope,linear⟩ := legsLinear curved ones nonneg (by omega) highRoom.2.1 ends
  have atQ := linear q (le_of_lt lower) upper
  have atHigh := linear high (by omega) le_rfl
  -- On the segment the edge moves by one gain a bundle; whichever end it rises to is a candidate.
  obtain ⟨gain,isGain⟩ : ∃ gain, gain = guaranteed - slope - chargesPerBundle config := ⟨_,rfl⟩
  have edgeQ : edgeAt config guaranteed legs q = edgeAt config guaranteed legs low + gain * (q - low) := by
    unfold edgeAt
    rw [atQ,isGain]
    ring
  have edgeHigh : edgeAt config guaranteed legs high =
    edgeAt config guaranteed legs low + gain * (high - low) := by
    unfold edgeAt
    rw [atHigh,isGain]
    ring
  rcases le_or_gt 0 gain with rises | falls
  · refine ⟨high,highMem,highRoom,?_⟩
    have more : gain * (q - low) ≤ gain * (high - low) := Int.mul_le_mul_of_nonneg_left (by omega) rises
    omega
  · have less : gain * (q - low) < 0 := Int.mul_neg_of_neg_of_pos falls (by omega)
    rcases lowFrom with rfl | mem
    · have zero : edgeAt config guaranteed legs 0 = 0 := by
        unfold edgeAt
        rw [legsCostZero curved]
        ring
      omega
    · refine ⟨low,mem,⟨?_,fun leg inside => ?_,fun cap => ?_⟩,by omega⟩
      · have := (candidateWithin curved mem).1
        omega
      · have := room.2.1 leg inside
        omega
      · have := room.2.2 cap
        omega

end

/-! From the views of the call to the prepared legs. -/

theorem preparedViews {call : DecideCall} {pairs : List (CombinatorialBundles.BundleLeg × Nat)}
    {legs : List SizingLeg}
    (prepared : List.Forall₂ (PreparedLeg call) pairs legs) :
    pairs.filterMap (fun leg => viewFor call leg.2) = legs.map SizingLeg.depth := by
  induction prepared with
  | nil => rfl
  | cons here later ih => simp only [List.filterMap_cons,here.view,ih,List.map_cons]
theorem preparedOnes {call : DecideCall} {pairs : List (CombinatorialBundles.BundleLeg × Nat)}
    {legs : List SizingLeg}
    (prepared : List.Forall₂ (PreparedLeg call) pairs legs)
    (ones : ∀ leg ∈ pairs, ratioForLeg leg.1 call.intent.legs[leg.2]? = 1) :
    Ones legs := by
  induction prepared with
  | nil => exact fun leg mem => (by cases mem)
  | cons here later ih =>
    obtain ⟨one,rest⟩ := List.forall_mem_cons.mp ones
    exact onesCons.mpr ⟨here.ratio.trans one,ih rest⟩
theorem prepares {call : DecideCall} {pairs : List (CombinatorialBundles.BundleLeg × Nat)}
    (each : ∀ leg ∈ pairs, leg.1.side = .buy ∧ ∃ view ∈ viewFor call leg.2, depthFlagsUsable view = true ∧
      0 < bookDepth view.asks)
    (lots : ∀ view ∈ pairs.filterMap (fun leg => viewFor call leg.2), bookDepth view.asks ≤ i64Max)
    (books : ∀ view ∈ pairs.filterMap (fun leg => viewFor call leg.2), bookCost view.asks ≤ i64Max) :
    ∃ legs, List.Forall₂ (PreparedLeg call) pairs legs := by
  induction pairs with
  | nil => exact ⟨[],.nil⟩
  | cons leg rest ih =>
    obtain ⟨⟨buy,view,mem,usable,some⟩,later⟩ := List.forall_mem_cons.mp each
    have found : viewFor call leg.2 = .some view := mem
    simp only [List.filterMap_cons,found] at lots books
    obtain ⟨lotsHere,lotsLater⟩ := List.forall_mem_cons.mp lots
    obtain ⟨booksHere,booksLater⟩ := List.forall_mem_cons.mp books
    obtain ⟨legs,prepared⟩ := ih later lotsLater booksLater
    obtain ⟨curve,built⟩ := curveDone buy some lotsHere booksHere
    exact ⟨⟨_,view,curve⟩::legs,.cons ⟨buy,rfl,found,usable,built⟩ prepared⟩
theorem sizableLegs {call : DecideCall} {legs} (found : legsFor call = .ok legs) : Sizable call := by
  obtain ⟨shaped,prepared⟩ := legsForExact.mp found
  refine ⟨shaped,?_⟩
  unfold Prepared at prepared
  clear found
  generalize call.bundle.legs.zipIdx = pairs at prepared
  induction prepared with
  | nil => exact fun leg mem => (by cases mem)
  | cons here later ih =>
    have curve := curveOf here.curve
    exact List.forall_mem_cons.mpr ⟨⟨here.buy,_,here.view,here.usable,curve.total ▸ curve.some⟩,ih⟩

section
variable {config : OrderDecisionConfig} {call : DecideCall} {legs : List SizingLeg} {q : Int}

theorem roomExact (curved : Curved legs) : Within config (legs.map SizingLeg.depth) q ↔ Room config legs q := by
  unfold Within Room
  rw [List.forall_mem_map]
  refine and_congr_right fun _ => and_congr_left fun _ => forall₂_congr fun leg mem => ?_
  rw [(curved leg mem).2.total]
theorem legsCostBooks (curved : Curved legs) (ones : Ones legs) (room : Room config legs q) :
    legsCost legs q = booksCost (legs.map SizingLeg.depth) q := by
  unfold legsCost booksCost
  rw [List.map_map]
  congr 1
  refine List.map_congr_left fun leg mem => ?_
  have some := room.1
  rw [legSweep,ones leg mem,Int.one_mul]
  exact curveSweep (curved leg mem).2 (by omega) (room.2.1 leg mem)
theorem edgeExact (curved : Curved legs) (ones : Ones legs) (room : Room config legs q) :
    edgeAt config (guaranteedPerBundle call) legs q = exactEdge config call (legs.map SizingLeg.depth) q := by
  unfold edgeAt exactEdge exactCost
  rw [legsCostBooks curved ones room]
theorem deepRoom (ones : Ones legs) (margin : call.policy.minDepthMarginBps ≤ 10000)
    (lots : ∀ leg ∈ legs, leg.curve.totalQtyLots ≤ i64Max)
    (some : 1 ≤ q) (within : ∀ leg ∈ legs, q ≤ leg.curve.totalQtyLots) :
    Deep call.policy.minDepthMarginBps legs q := by
  intro leg mem
  have least : i64Min ≤ 0 := by decide
  rw [ones leg mem,Int.one_mul]
  unfold ceilRatioBps
  rw [if_pos (.inr margin)]
  exact ⟨⟨by omega,(within leg mem).trans (lots leg mem)⟩,within leg mem⟩
theorem roomDeep (curved : Curved legs) (ones : Ones legs) (mem : q ∈ candidatesFor config legs)
    (deep : Deep call.policy.minDepthMarginBps legs q) : Room config legs q := by
  obtain ⟨least,most⟩ := candidateWithin curved mem
  refine ⟨le_trans (le_max_left _ _) least,fun leg inside => ?_,most⟩
  have here := deep leg inside
  rw [ones leg inside,Int.one_mul] at here
  exact (ceilRatioLe here.1 _).trans here.2

-- What a quantity with room is priced at.
def pointAt (config : OrderDecisionConfig) (call : DecideCall) (legs : List SizingLeg) (q : Int) :
    EdgeCurvePoint :=
  let cost := legsCost legs q + chargesPerBundle config * q
  let edge := guaranteedPerBundle call * q - cost
  ⟨q,cost,edge.tdiv q,edge,ratioBps edge cost⟩
theorem ratioNonneg {numerator denominator : Int} (top : 0 ≤ numerator) (bottom : 0 ≤ denominator) :
    0 ≤ ratioBps numerator denominator := by
  have most : (0 : Int) ≤ i64Max := by decide
  unfold ratioBps
  split
  · split
    · exact most
    · rw [if_neg (by omega)]
  · have quotient : 0 ≤ (numerator * 10000).tdiv denominator := Int.tdiv_nonneg (by omega) bottom
    unfold clampI64
    omega
theorem pricedRoom (curved : Curved legs) (ones : Ones legs) (noCap : call.policy.maxTotalCostTick ≤ 0)
    (unit : call.policy.minPostRiskUnitEdgeTick ≤ 0) (bps : call.policy.minEdgeBps ≤ 0)
    (total : 0 ≤ call.policy.minPostRiskTotalEdgeTick)
    (least : config.minBundleQty ≤ 1) (deep : Deep call.policy.minDepthMarginBps legs q)
    (room : Room config legs q)
    (fits : SumsFit config call (legs.map SizingLeg.depth) q)
    (charged : 0 ≤ exactCost config (legs.map SizingLeg.depth) q)
    (pays : call.policy.minPostRiskTotalEdgeTick ≤ exactEdge config call (legs.map SizingLeg.depth) q) :
    Priced config call legs (pointAt config call legs q) := by
  have books := legsCostBooks curved ones room
  have minimum : config.bounds.minBundleQty = 1 := max_eq_left least
  have cost : exactCost config (legs.map SizingLeg.depth) q = legsCost legs q + chargesPerBundle config * q :=
    by rw [exactCost,books]
  have edge : exactEdge config call (legs.map SizingLeg.depth) q =
      guaranteedPerBundle call * q - (legsCost legs q + chargesPerBundle config * q) := by rw [exactEdge,cost]
  have three : legsCost legs
    q + config.feePerBundleTick * q + config.latencyBufferPerBundleTick * q +
      config.slippageBufferPerBundleTick * q =
      legsCost legs q + chargesPerBundle config * q := by
    unfold chargesPerBundle
    ring
  rw [cost] at charged
  rw [edge] at pays
  have some := room.1
  refine ⟨minimum ▸ room.1,deep,?_,fun capped => by omega,?_⟩
  · have withFee := fits.withFee
    have withLatency := fits.withLatency
    have all := fits.cost
    rw [← books] at withFee withLatency
    rw [cost,← three] at all
    unfold totalCost pointAt
    simp only [checkedMulExact.mpr ⟨fits.fee,rfl⟩,checkedMulExact.mpr ⟨fits.latency,rfl⟩,checkedMulExact.mpr
      ⟨fits.slippage,rfl⟩,
      checkedAddExact.mpr ⟨withFee,rfl⟩,checkedAddExact.mpr ⟨withLatency,rfl⟩,checkedAddExact.mpr
        ⟨all,rfl⟩,three,bind,Option.bind_some]
  · have payout := fits.payout
    have fitsEdge := fits.edge
    rw [edge] at fitsEdge
    have unitNonneg : 0 ≤ (guaranteedPerBundle call * q - (legsCost legs q + chargesPerBundle config * q)).tdiv
      q :=
      Int.tdiv_nonneg (by omega) (by omega)
    have bpsNonneg := ratioNonneg (total.trans pays) charged
    unfold edgePoint pointAt
    simp only [checkedMulExact.mpr ⟨payout,rfl⟩,checkedSubExact.mpr ⟨fitsEdge,rfl⟩,bind,Option.bind_some]
    rw [if_neg]
    omega

-- The walk does at least as well as any quantity that pays enough.
theorem walkTakes (curved : Curved legs) (ones : Ones legs) (some : legs ≠ [])
    (noCap : call.policy.maxTotalCostTick ≤ 0)
    (margin : call.policy.minDepthMarginBps ≤ 10000) (unit : call.policy.minPostRiskUnitEdgeTick ≤ 0)
    (bps : call.policy.minEdgeBps ≤ 0)
    (total : 0 ≤ call.policy.minPostRiskTotalEdgeTick) (least : config.minBundleQty ≤ 1)
    (fits : SizingFits config call (legs.map SizingLeg.depth))
    (below : ∀ q, Within config (legs.map SizingLeg.depth) q → q < i64Max)
    (charged : ∀ q, Within config (legs.map SizingLeg.depth) q → 0 ≤ exactCost config (legs.map SizingLeg.depth) q)
    (within : Within config (legs.map SizingLeg.depth) q)
    (pays : call.policy.minPostRiskTotalEdgeTick ≤ exactEdge config call (legs.map SizingLeg.depth) q) :
    AtLeast (exactEdge config call (legs.map SizingLeg.depth) q)
      (walkCandidates (evaluateCandidate config call legs) (startWalk legs) (candidatesFor config legs)) := by
  have room := (roomExact curved).mp within
  have lots : ∀ leg ∈ legs, leg.curve.totalQtyLots ≤ i64Max := by
    intro leg mem
    rw [(curved leg mem).2.total]
    exact fits.lots _ (List.mem_map_of_mem mem)
  rw [← edgeExact curved ones room] at pays ⊢
  obtain ⟨c,mem,roomAt,better⟩ := betterCandidate curved ones some least
    (fun top topRoom => below top ((roomExact curved).mpr topRoom)) room (total.trans pays)
  have inside : Within config (legs.map SizingLeg.depth) c := (roomExact curved).mpr roomAt
  have deep : ∀ r ∈ candidatesFor config legs, r ≤ c → Deep call.policy.minDepthMarginBps legs r :=
    fun r there le =>
    deepRoom ones margin lots (le_trans (le_max_left _ _) (candidateWithin curved there).1) fun leg here =>
      le.trans (roomAt.2.1 leg here)
  have sums := fits.sums c inside
  have enough := pays.trans better
  rw [edgeExact curved ones roomAt] at enough
  have priced := pricedRoom curved ones noCap unit bps total least (deep c mem le_rfl) roomAt sums
    (charged c inside) enough
  have books := sums.books
  rw [← legsCostBooks curved ones roomAt] at books
  have reached : AtLeast (edgeAt config (guaranteedPerBundle call) legs c)
      (walkCandidates (evaluateCandidate config call legs) (startWalk legs) (candidatesFor config legs)) :=
    walkReaches curved (startAt config call (candidatesFor config legs) legs curved) (List.Subset.refl _)
      (candidatesSorted curved)
      (fun r there => le_trans (by decide)
        (le_trans (le_max_left 1 config.minBundleQty) (candidateWithin curved there).1)) priced
          books mem rfl deep
  obtain ⟨best,state,found,more⟩ := reached
  exact ⟨best,state,found,better.trans more⟩

theorem takenWithin (curved : Curved legs) (ones : Ones legs) {best}
    (chosen : Chosen config call legs (candidatesFor config legs) best) :
    Within config (legs.map SizingLeg.depth) best.1.bundleQty ∧
      best.1.totalEdgeTick = exactEdge config call (legs.map SizingLeg.depth) best.1.bundleQty ∧
      call.policy.minPostRiskTotalEdgeTick ≤ best.1.totalEdgeTick := by
  have room := roomDeep curved ones chosen.candidate chosen.priced.deep
  have edge := edgeOf chosen.priced.edge
  refine ⟨(roomExact curved).mpr room,?_,edge.totalEnough⟩
  rw [← edgeExact curved ones room,edge.total,totalCostExact chosen.priced.cost]
  rfl

end

theorem optimalSizing (config : OrderDecisionConfig) (call : DecideCall)
    (ones : ∀ leg ∈ call.bundle.legs.zipIdx, ratioForLeg leg.1 call.intent.legs[leg.2]? = 1)
    (noCap : call.policy.maxTotalCostTick ≤ 0) (margin : call.policy.minDepthMarginBps ≤ 10000)
    (unit : call.policy.minPostRiskUnitEdgeTick ≤ 0) (bps : call.policy.minEdgeBps ≤ 0)
    (total : 0 ≤ call.policy.minPostRiskTotalEdgeTick)
    (least : config.minBundleQty ≤ 1) (fits : SizingFits config call (legViews call))
    (below : ∀ q, Within config (legViews call) q → q < i64Max)
    (charged : ∀ q, Within config (legViews call) q → 0 ≤ exactCost config (legViews call) q) :
    ((∃ size, (optimize config {} call).2 = .ok size) ↔ Sizable call ∧
      ∃ q, Within config (legViews call) q ∧
        call.policy.minPostRiskTotalEdgeTick ≤ exactEdge config call (legViews call) q) ∧
    ∀ size, (optimize config {} call).2 = .ok size → Within config (legViews call) size.bestBundleQty ∧
      size.totalEdgeTick = exactEdge config call (legViews call) size.bestBundleQty ∧
      ∀ q, Within config (legViews call) q → exactEdge config call (legViews call) q ≤ size.totalEdgeTick := by
  rw [optimizeEmpty config call]
  cases found : legsFor call with
  | error reason =>
    refine ⟨iff_of_false (fun ⟨size,ok⟩ => (by cases ok)) ?_,fun size ok => (by cases ok)⟩
    rintro ⟨⟨shaped,each⟩,_⟩
    obtain ⟨legs,prepared⟩ := prepares each fits.lots fits.books
    rw [legsForExact.mpr ⟨shaped,prepared⟩] at found
    cases found
  | ok legs =>
    obtain ⟨shaped,prepared⟩ := legsForExact.mp found
    have curved := preparedCurved prepared
    have one := preparedOnes prepared ones
    have views : legViews call = legs.map SizingLeg.depth := preparedViews prepared
    have some : legs ≠ [] := by
      rintro rfl
      have none := prepared.length_eq
      rw [List.length_zipIdx] at none
      exact shaped.1 (List.length_eq_zero_iff.mp none)
    rw [views] at fits below charged ⊢
    have takes : ∀ q, Within config (legs.map SizingLeg.depth) q →
        call.policy.minPostRiskTotalEdgeTick ≤ exactEdge config call (legs.map SizingLeg.depth) q →
        ∃ best state, sizeOver config call legs (candidatesFor config legs) = .ok (bestSize call legs best state) ∧
          exactEdge config call (legs.map SizingLeg.depth) q ≤ best.totalEdgeTick := by
      intro q within pays
      obtain ⟨best,state,walked,more⟩ :=
        walkTakes curved one some noCap margin unit bps total least fits below charged within pays
      exact ⟨best,state,sizeFound curved walked,more⟩
    refine ⟨⟨fun ⟨size,ok⟩ => ⟨sizableLegs found,?_⟩,fun ⟨_,q,within,pays⟩ => ?_⟩,fun size ok => ?_⟩
    · obtain ⟨best,state,chosen,rfl⟩ := sizeChosen curved ok
      obtain ⟨within,exact,enough⟩ := takenWithin curved one chosen
      exact ⟨best.bundleQty,within,exact ▸ enough⟩
    · obtain ⟨best,state,sized,_⟩ := takes q within pays
      exact ⟨_,sized⟩
    · obtain ⟨best,state,chosen,rfl⟩ := sizeChosen curved ok
      obtain ⟨within,exact,enough⟩ := takenWithin curved one chosen
      refine ⟨within,exact,fun q inside => ?_⟩
      rcases lt_or_ge (exactEdge config call (legs.map SizingLeg.depth) q)
        call.policy.minPostRiskTotalEdgeTick with little | pays
      · exact (le_of_lt little).trans enough
      · obtain ⟨best',state',sized,more⟩ := takes q inside pays
        have same := Except.ok.inj (sized.symm.trans ok)
        have edges : best'.totalEdgeTick = best.totalEdgeTick := congrArg BundleSize.totalEdgeTick same
        exact more.trans (le_of_eq edges)

def ladder (assetIndex : Nat) (levels : List (Int × UInt64)) : MarketDepthView :=
  {assetIndex, usableForDepth := true, asks := levels.map fun level => ⟨level.1,⟨level.2⟩⟩}
def oneEach (payout : Int) (views : List MarketDepthView) : DecideCall :=
  { intent := {legs := views.map fun view => {assetIndex := view.assetIndex, quantityLots := 1}}
    bundle := {guaranteedPayoutTick := payout, legs := views.map fun _ => {quantityLots := 1}}
    depthViews := views
    policy := {minDepthMarginBps := 10000}
    nowNs := 1000 }
-- Two lots at 40 and two at 45; three at 30 and one at 60.
def twoLadders : DecideCall :=
  oneEach 100 [ladder 4 [(40,0x4000000000000000),(45,0x4000000000000000)],ladder 9
    [(30,0x4008000000000000),(60,0x3FF0000000000000)]]

theorem laddersOptimal : ∃ size, (optimize {} {} twoLadders).2 = .ok size ∧ size.bestBundleQty = 3 ∧
    ∀ q, Within {} (legViews twoLadders) q →
      exactEdge {} twoLadders (legViews twoLadders) q ≤ size.totalEdgeTick := by
  have few : ∀ q, Within {} (legViews twoLadders) q → 1 ≤ q ∧ q ≤ 4 := by
    rintro q ⟨some,within,_⟩
    exact ⟨some,le_trans (within (ladder 4 [(40,0x4000000000000000),(45,0x4000000000000000)])
      (by decide +kernel)) (by decide +kernel)⟩
  have fits : SizingFits {} twoLadders (legViews twoLadders) := by
    refine ⟨by decide +kernel,by decide +kernel,fun q within => ?_⟩
    obtain ⟨some,most⟩ := few q within
    interval_cases q <;> constructor <;> decide +kernel
  have optimal := optimalSizing {} twoLadders (by decide +kernel) (by decide) (by decide) (by decide)
    (by decide) (by decide) (by decide) fits
    (fun q within => lt_of_le_of_lt (few q within).2 (by decide)) fun q within => by
      obtain ⟨some,most⟩ := few q within
      interval_cases q <;> decide +kernel
  obtain ⟨size,ok⟩ := optimal.1.mpr ⟨by decide +kernel,3,by decide +kernel,by decide +kernel⟩
  refine ⟨size,ok,?_,(optimal.2 size ok).2.2⟩
  have value : (optimize {} {} twoLadders).2.toOption.map BundleSize.bestBundleQty = some 3 := by decide +kernel
  rw [ok] at value
  exact Option.some.inj value

-- One bundle is there and pays, and the optimizer refuses: the book's cost overflows, a refund of fees
-- turns the cost and with it the basis points negative, the view is not usable, the depth is the cursor's
-- sentinel.
theorem payingRefused :
    (∀ call ∈ [oneEach 900000 [ladder 4 [(400000,0x42D6BCC41E900000)]],oneEach 100
      [{ladder 4 [(40,0x4000000000000000)] with recovering := true}],
        oneEach 1 [ladder 4 [(1,0x43E0000000000000)]]],
      (optimize {} {} call).2.isOk = false ∧ Within {} (legViews call) 1 ∧
      0 ≤ exactEdge {} call (legViews call) 1) ∧
    (optimize {feePerBundleTick := -50} {} (oneEach 1 [ladder 4 [(40,0x4000000000000000)]])).2.isOk = false ∧
      Within {feePerBundleTick := -50} (legViews (oneEach 1 [ladder 4 [(40,0x4000000000000000)]])) 1 ∧
      0 ≤ exactEdge {feePerBundleTick := -50} (oneEach 1 [ladder 4 [(40,0x4000000000000000)]])
        (legViews (oneEach 1 [ladder 4 [(40,0x4000000000000000)]])) 1 := by
  decide +kernel

end Polytope.OptimalSizing
