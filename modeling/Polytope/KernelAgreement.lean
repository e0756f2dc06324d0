import Polytope.FixedShapeKernel
import Polytope.SingleLevelSizing

/-! The scalar kernel and the generic path on the same spec and views. Where the kernel does
not ask for a fallback every leg stands on a book of one level, so both paths judge the same
single quantity. They part only when the expiry the kernel writes into its intent wraps
around: the generic path then refuses the intent as expired. -/
namespace Polytope.KernelAgreement
open FixedPointMath MarketDepth BundleSizing OrderDecisionEngine FixedShapeKernel SingleLevelSizing
open Intent (OrderDecisionLite OrderDecisionLegLite)
open RiskTypes (RiskPolicySnapshot RiskDecisionType)

def bookedLeg (views : List MarketDepthView) (leg : KernelLeg) : BookedLeg :=
  match views.find? (fun view => view.assetIndex == leg.assetIndex) with
  | none => ⟨{},leg.ratioQtyLots,0,0⟩
  | some depth => match depth.asks with
    | [] => ⟨depth,leg.ratioQtyLots,0,0⟩
    | level::_ => ⟨depth,leg.ratioQtyLots,level.priceTick,priceLevelSizeLots level⟩
def booksOf (spec : FixedShapeKernelSpec) (views : List MarketDepthView) : List BookedLeg :=
  spec.legs.map (bookedLeg views)
def wholeBundles (books : List BookedLeg) : Int := (books.head?.map fun b => b.size.tdiv b.ratio).getD 0

-- The products formed in 64 bits: a level's cost, a scaled leg quantity and the payout.
def NoOverflow (spec : FixedShapeKernelSpec) (views : List MarketDepthView) (policy : RiskPolicySnapshot) : Prop :=
  (∀ b ∈ booksOf spec views, InI64 (b.price * b.size)) ∧
  MarginFits policy.minDepthMarginBps (wholeBundles (booksOf spec views)) (booksOf spec views) ∧
  InI64 (spec.guaranteedPayoutTick * wholeBundles (booksOf spec views))
instance (spec views policy) : Decidable (NoOverflow spec views policy) := by unfold NoOverflow; infer_instance

def Profitable (spec : FixedShapeKernelSpec) (views : List MarketDepthView) (policy : RiskPolicySnapshot) : Prop :=
  Worthwhile policy spec.guaranteedPayoutTick (wholeBundles (booksOf spec views)) (booksOf spec views)
instance (spec views policy) : Decidable (Profitable spec views policy) := by unfold Profitable; infer_instance

/-! Reading a leg of the kernel back as a book of one level. -/

def workOf (b : BookedLeg) : LegWork := ⟨b.depth,b.ratio,b.size,b.price⟩

structure Standing (views : List MarketDepthView) (leg : KernelLeg) : Prop where
  side : leg.side = .buy
  ratio : 0 < leg.ratioQtyLots
  found : views.find? (fun view => view.assetIndex == leg.assetIndex) = some (bookedLeg views leg).depth
  usable : depthFlagsUsable (bookedLeg views leg).depth = true
  sameRatio : (bookedLeg views leg).ratio = leg.ratioQtyLots
  price : 0 < (bookedLeg views leg).price
  enough : leg.ratioQtyLots ≤ (bookedLeg views leg).size
  sizeFits : (bookedLeg views leg).size ≤ i64Max
  level : ∃ level, (bookedLeg views leg).depth.asks = [level] ∧ level.priceTick = (bookedLeg views leg).price ∧
    priceLevelSizeLots level = (bookedLeg views leg).size
  indexed : ∃ cost, (bookedLeg views leg).depth.depthPrefix.asks = [⟨(bookedLeg views leg).size,cost⟩]

theorem singlePrefix (bids : List PriceLevel) (level : PriceLevel) :
    ∃ cost, (buildDepthPrefix bids [level]).asks = [⟨levelLots level,cost⟩] := by
  have lots : saturatingAddI64 0 (levelLots level) = levelLots level := by
    have fits : InI64 (levelLots level) := by
      unfold levelLots
      split
      · exact ⟨le_trans (by decide) (sizeLotsNonneg level),sizeLotsFits level⟩
      · decide
    rw [saturatingAddI64,checkedZeroAdd fits]
  simp only [buildDepthPrefix,kMaxSnapshotDepth,List.take_succ_cons,List.take_nil,prefixFrom,lots]
  exact ⟨_,rfl⟩

variable {views : List MarketDepthView} {policy : RiskPolicySnapshot} {nowNs : Nat}

theorem legStands {leg work} (prefixed : ∀ view ∈ views, view.depthPrefix = buildDepthPrefix view.bids view.asks)
    (ok : legWork views policy nowNs leg = .ok work) :
    Standing views leg ∧ work = workOf (bookedLeg views leg) := by
  unfold legWork at ok
  obtain ⟨buy,ok⟩ := Machine.guardOk ok
  obtain ⟨ratio,ok⟩ := Machine.guardOk ok
  rw [not_not] at buy
  cases found : views.find? (fun view => view.assetIndex == leg.assetIndex) with
  | none =>
    rw [found] at ok
    cases ok
  | some depth =>
    simp only [found] at ok
    obtain ⟨usable,ok⟩ := Machine.guardOk ok
    obtain ⟨single,ok⟩ := Machine.guardOk ok
    obtain ⟨enough,ok⟩ := Machine.guardOk ok
    rw [not_or,not_not,not_not] at single
    obtain ⟨level,asks⟩ := List.length_eq_one_iff.mp single.1
    have built := prefixed depth (List.mem_of_find?_eq_some found)
    rw [asks] at built
    obtain ⟨cost,indexed⟩ := singlePrefix depth.bids level
    rw [← built] at indexed
    have executable : executableAskQty depth = levelLots level := by
      rw [executableAskQty,if_pos (by rw [indexed]; exact List.cons_ne_nil _ _),askDepthFromPrefix,indexed]
      rfl
    rw [not_or,not_lt,executable] at enough
    have price : 0 < level.priceTick := by
      by_contra low
      have none : levelLots level = 0 := if_neg low
      omega
    have lots : levelLots level = priceLevelSizeLots level := if_pos price
    rw [lots] at enough indexed executable
    have best : bestAskTick depth = level.priceTick := by
      rw [bestAskTick,if_pos (by rw [indexed]; exact List.cons_ne_nil _ _),asks,indexed,bestAskFromPrefix,
        if_pos ⟨show 0 < priceLevelSizeLots level by omega,price⟩]
    have flags : depthFlagsUsable depth = true := by
      rw [Bool.not_eq_false,depthIsUsable,Bool.and_eq_true,Bool.and_eq_true] at usable
      exact usable.1.1
    have booked : bookedLeg views leg = ⟨depth,leg.ratioQtyLots,level.priceTick,priceLevelSizeLots level⟩ := by
      simp only [bookedLeg,found,asks]
    rw [executable,best] at ok
    refine ⟨⟨buy,by omega,?_,?_,?_,?_,?_,?_,?_,?_⟩,?_⟩ <;> rw [booked]
    · exact found
    · exact flags
    · exact price
    · exact enough.1
    · exact sizeLotsFits level
    · exact ⟨level,asks,rfl,rfl⟩
    · exact ⟨cost,indexed⟩
    · exact (Except.ok.inj ok).symm

theorem collected {first legs works}
    (prefixed : ∀ view ∈ views, view.depthPrefix = buildDepthPrefix view.bids view.asks)
    (ok : collectWork views policy nowNs first legs = .ok works) :
    (∀ leg ∈ legs, Standing views leg) ∧ works = (legs.map (bookedLeg views)).map workOf ∧
    ∃ q, (∀ qty ∈ first, qty = q) ∧ ∀ work ∈ works, work.bundleQty = q := by
  induction legs generalizing first works with
  | nil =>
    cases Except.ok.inj ok
    refine ⟨fun _ none => (nomatch none),rfl,first.getD 0,?_,fun _ none => (nomatch none)⟩
    intro qty given
    rw [Option.mem_def.mp given]
    rfl
  | cons leg rest ih =>
    rw [collectWork] at ok
    obtain ⟨work,worked,ok⟩ := Machine.bindOk.mp ok
    obtain ⟨same,ok⟩ := Machine.guardOk ok
    obtain ⟨later,collectedLater,ok⟩ := Machine.bindOk.mp ok
    cases Except.ok.inj ok
    obtain ⟨stands,booked⟩ := legStands prefixed worked
    obtain ⟨others,rfl,q,shared,equal⟩ := ih collectedLater
    have given : first.getD work.bundleQty = q := shared _ rfl
    refine ⟨List.forall_mem_cons.mpr ⟨stands,others⟩,by rw [booked]; rfl,q,?_,?_⟩
    · intro qty here
      rw [Option.mem_def.mp here] at given
      exact given
    · refine List.forall_mem_cons.mpr ⟨?_,equal⟩
      cases first with
      | none => exact given
      | some qty =>
        have agree : work.bundleQty = qty := by simpa using same
        exact agree.trans given

theorem leastShared {works : List LegWork} {q start : Int} (same : ∀ work ∈ works, work.bundleQty = q)
    (below : q ≤ start) (some : works ≠ [] ∨ q = start) :
    works.foldl (fun qty leg => min qty leg.bundleQty) start = q := by
  induction works generalizing start with
  | nil => exact (some.resolve_left fun h => h rfl).symm
  | cons work rest ih =>
    rw [List.foldl_cons,same work List.mem_cons_self,min_eq_right below]
    exact ih (List.forall_mem_cons.mp same).2 le_rfl (.inr rfl)

/-! Pricing every leg. -/

def pricedOf (q : Int) (b : BookedLeg) : PricedLeg :=
  ⟨workOf b,b.ratio * q,⟨true,b.price * (b.ratio * q),b.price,b.price,b.size⟩,ratioBps b.size (b.ratio * q)⟩

structure Shown (b : BookedLeg) : Prop where
  level : ∃ level, b.depth.asks = [level] ∧ level.priceTick = b.price
  indexed : ∃ cost, b.depth.depthPrefix.asks = [⟨b.size,cost⟩]

theorem vwapShown {q} {b : BookedLeg} (shown : Shown b) (sound : b.Sound q) :
    buyVwap b.depth (b.ratio * q) = ⟨true,b.price * (b.ratio * q),b.price,b.price,b.size⟩ := by
  obtain ⟨level,asks,price⟩ := shown.level
  obtain ⟨cost,indexed⟩ := shown.indexed
  obtain ⟨positive,within⟩ := lotsFit sound
  have some := sound.price
  have visible : askDepthFromPrefix b.depth.depthPrefix = b.size := by
    rw [askDepthFromPrefix,indexed]
    rfl
  have product : checkedMulI64 b.price (b.ratio * q) = .some (b.price * (b.ratio * q)) :=
    checkedMulExact.mpr ⟨legCostFits sound,rfl⟩
  have sum := checkedZeroAdd (legCostFits sound)
  have vwap : (b.price * (b.ratio * q)).tdiv (b.ratio * q) = b.price := Int.mul_tdiv_cancel _ (by omega)
  have first : [(⟨b.size,cost⟩ : PrefixLevel)].findIdx?
    (fun level => decide (b.ratio * q ≤ level.cumQty)) = .some 0 := by
    simp [List.findIdx?_cons,within]
  rw [buyVwap,if_pos (by rw [indexed]; exact List.cons_ne_nil _ _),buyVwapPrefix,visible,indexed,asks]
  rw [if_neg (by simp; omega)]
  simp only
  rw [if_neg (by omega),first]
  simp only [if_true,Int.sub_zero,List.map_cons,List.map_nil,List.getD_cons_zero,price]
  rw [if_neg (by omega),product]
  simp only [sum,vwap]

theorem pricedBooks {q total} {books : List BookedLeg} {legs total'} (shown : ∀ b ∈ books, Shown b)
    (sound : ∀ b ∈ books, b.Sound q) (ok : priceWork q (books.map workOf) total = .ok (legs,total'))
    (fits : InI64 total) :
    legs = books.map (pricedOf q) ∧ total' = total + unitCost books * q ∧ InI64 total' := by
  induction books generalizing total legs total' with
  | nil =>
    cases Except.ok.inj ok
    exact ⟨rfl,by simp [unitCost],fits⟩
  | cons b rest ih =>
    obtain ⟨head,tail⟩ := List.forall_mem_cons.mp sound
    obtain ⟨seen,seenTail⟩ := List.forall_mem_cons.mp shown
    have lots : checkedMulI64 (workOf b).ratioQtyLots q = some (b.ratio * q) := lotsChecked head
    have vwap : buyVwap (workOf b).depth (b.ratio * q) = _ := vwapShown seen head
    rw [List.map_cons,priceWork] at ok
    simp only [lots,vwap] at ok
    rw [if_neg (by decide)] at ok
    cases sum : checkedAddI64 total (b.price * (b.ratio * q)) with
    | none =>
      rw [sum] at ok
      cases ok
    | some next =>
      obtain ⟨nextFits,rfl⟩ := checkedAddExact.mp sum
      simp only [sum] at ok
      obtain ⟨⟨later,last⟩,priced,ok⟩ := Machine.bindOk.mp ok
      cases Except.ok.inj ok
      obtain ⟨rfl,added,lastFits⟩ := ih seenTail tail priced nextFits
      exact ⟨rfl,by rw [added,costSplit],lastFits⟩

/-! The kernel's verdict. -/

theorem averageCost {unit q : Int} (cost : 0 ≤ unit) (positive : 1 ≤ q) (fits : InI64 (unit * q)) :
    ceilDivPositive (unit * q) q = unit := by
  have total : 0 ≤ unit * q := Int.mul_nonneg cost (by omega)
  have share : (unit * q + q - 1) / q = unit := by
    rw [show unit * q + q - 1 = q - 1 + unit * q by omega,Int.add_mul_ediv_right _ _ (by omega),
      Int.ediv_eq_zero_of_lt (by omega) (by omega),Int.zero_add]
  have below : unit * 1 ≤ unit * q := Int.mul_le_mul_of_nonneg_left positive cost
  have upper := fits.2
  rw [ceilDivPositive,if_neg (by omega),Int.tdiv_eq_ediv_of_nonneg (by omega),share]
  omega

theorem unitFits {unit q : Int} (positive : 1 ≤ q) (fits : InI64 (unit * q)) : InI64 unit := by
  obtain ⟨lower,upper⟩ := fits
  have spread : unit * q = unit + unit * (q - 1) := by ring
  rw [spread] at lower upper
  rcases le_total 0 unit with up | down
  · have more := Int.mul_nonneg up (show 0 ≤ q - 1 by omega)
    exact ⟨le_trans (by decide) up,by omega⟩
  · have less := Int.mul_nonneg (show 0 ≤ -unit by omega) (show 0 ≤ q - 1 by omega)
    rw [Int.neg_mul] at less
    exact ⟨by omega,le_trans down (by decide)⟩

theorem edgeFits {payout unit q : Int} (positive : 1 ≤ q) (fits : InI64 ((payout - unit) * q)) :
    computeEdge payout unit 0 0 0 q = ⟨true,payout - unit,(payout - unit) * q,ratioBps (payout - unit) unit⟩ := by
  have gross : checkedSubI64 payout unit = some (payout - unit) :=
    checkedSubExact.mpr ⟨unitFits positive fits,rfl⟩
  have net := checkedSubZero (unitFits positive fits)
  have total : checkedMulI64 (payout - unit) q = some ((payout - unit) * q) := checkedMulExact.mpr ⟨fits,rfl⟩
  simp only [computeEdge,gross,net,total]

theorem edgeOverflows {payout unit q : Int} (wide : ¬ InI64 ((payout - unit) * q)) :
    (computeEdge payout unit 0 0 0 q).ok = false := by
  have total : checkedMulI64 (payout - unit) q = none := if_neg wide
  unfold computeEdge
  cases gross : checkedSubI64 payout unit with
  | none => rfl
  | some edge =>
    obtain ⟨fits,rfl⟩ := checkedSubExact.mp gross
    simp only [checkedSubZero fits,total]

structure Loose (spec : FixedShapeKernelSpec) (policy : RiskPolicySnapshot) : Prop where
  qty : spec.minBundleQty ≤ 1
  unit : spec.minUnitEdgeTick ≤ policy.minPostRiskUnitEdgeTick
  total : spec.minTotalEdgeTick ≤ policy.minPostRiskTotalEdgeTick
  bps : spec.minEdgeBps ≤ policy.minEdgeBps

theorem edgeApproved {spec : FixedShapeKernelSpec} {edge q} (loose : Loose spec policy) (positive : 1 ≤ q) :
    edgeRejection spec edge q policy = .pass ↔
      edge.ok = true ∧ policy.minPostRiskUnitEdgeTick ≤ edge.unitEdgeTick ∧
      policy.minPostRiskTotalEdgeTick ≤ edge.totalEdgeTick ∧ policy.minEdgeBps ≤ edge.edgeBps := by
  have reached : ¬ q < max spec.minBundleQty 1 := by
    have := loose.qty
    omega
  unfold edgeRejection
  rw [if_neg reached,max_eq_right loose.unit,max_eq_right loose.total,max_eq_right loose.bps]
  constructor
  · intro passed
    split at passed
    · cases passed
    · next fine =>
      split at passed
      · cases passed
      · split at passed
        · cases passed
        · split at passed
          · cases passed
          · exact ⟨by simpa using fine,by omega,by omega,by omega⟩
  · rintro ⟨fine,unit,total,bps⟩
    rw [if_neg (by simp [fine]),if_neg (by omega),if_neg (by omega),if_neg (by omega),if_neg]
    simp [RiskTypes.passesEdgeThresholds,unit,total,bps]

theorem shortLegs {q m : Int} {books : List BookedLeg} (sound : ∀ b ∈ books, b.Sound q) (fits : m ≤ i64Max) :
    (0 < m ∧ (books.map (pricedOf q)).any (fun leg => decide (leg.depthMarginBps < m)) = true) ↔
      ¬ ∀ b ∈ books, LegDeep m q b := by
  rw [List.any_eq_true]
  constructor
  · rintro ⟨some,leg,inside,short⟩ deep
    obtain ⟨b,inBooks,rfl⟩ := List.mem_map.mp inside
    exact (marginIff (sound b inBooks) some fits).mp (of_decide_eq_true short) (deep b inBooks)
  · intro short
    rw [not_forall] at short
    obtain ⟨b,short⟩ := short
    rw [Classical.not_imp] at short
    have some : 0 < m := by
      by_contra none
      exact short.2 fun some => absurd some none
    exact ⟨some,pricedOf q b,List.mem_map_of_mem short.1,
      decide_eq_true ((marginIff (sound b short.1) some fits).mpr short.2)⟩

theorem kernelApproves {spec : FixedShapeKernelSpec} {q} {books : List BookedLeg}
    (tradable : Tradable policy spec.guaranteedPayoutTick q books) (loose : Loose spec policy)
    (margin : policy.minDepthMarginBps ≤ i64Max) :
    kernelRejection spec policy (books.map (pricedOf q))
      (computeEdge spec.guaranteedPayoutTick (unitCost books) 0 0 0 q) q (unitCost books * q) = .pass ↔
    Worthwhile policy spec.guaranteedPayoutTick q books := by
  unfold kernelRejection Worthwhile
  by_cases short : 0 < policy.minDepthMarginBps ∧
      (books.map (pricedOf q)).any (fun leg => decide (leg.depthMarginBps < policy.minDepthMarginBps)) = true
  · rw [if_pos short]
    exact iff_of_false (fun h => nomatch h) fun worth => (shortLegs tradable.sound margin).mp short worth.1
  · have deep : ∀ b ∈ books, LegDeep policy.minDepthMarginBps q b := by
      by_contra shallow
      exact short ((shortLegs tradable.sound margin).mpr shallow)
    rw [if_neg short]
    by_cases broke : 0 < policy.maxTotalCostTick ∧ policy.maxTotalCostTick < unitCost books * q
    · rw [if_pos broke]
      refine iff_of_false (fun h => nomatch h) fun worth => ?_
      have := worth.2.1 broke.1
      omega
    · rw [if_neg broke,edgeApproved loose tradable.positive]
      by_cases fits : InI64 ((spec.guaranteedPayoutTick - unitCost books) * q)
      · rw [edgeFits tradable.positive fits]
        constructor
        · rintro ⟨-,unit,total,bps⟩
          exact ⟨deep,fun some => by omega,fits,unit,total,bps⟩
        · rintro ⟨_,_,_,unit,total,bps⟩
          exact ⟨rfl,unit,total,bps⟩
      · rw [edgeOverflows fits]
        exact iff_of_false (fun h => nomatch h.1) fun worth => fits worth.2.2.1

structure Ran (spec : FixedShapeKernelSpec) (views : List MarketDepthView)
    (policy : RiskPolicySnapshot) (nowNs : Nat)
    (result : FastKernelResult) : Prop where
  legs : spec.legs ≠ [] ∧ spec.legs.length ≤ kMaxFixedShapeKernelLegs
  standing : ∀ leg ∈ spec.legs, Standing views leg
  tradable : Tradable policy spec.guaranteedPayoutTick (wholeBundles (booksOf spec views)) (booksOf spec views)
  answer : result = kernelResult spec policy nowNs
    ((booksOf spec views).map (pricedOf (wholeBundles (booksOf spec views))))
    (wholeBundles (booksOf spec views)) (unitCost (booksOf spec views) * wholeBundles (booksOf spec views))

theorem soundOf {spec : FixedShapeKernelSpec} {q} (standing : ∀ leg ∈ spec.legs, Standing views leg)
    (shared : ∀ work ∈ (booksOf spec views).map workOf, work.bundleQty = q)
    (costs : ∀ b ∈ booksOf spec views, InI64 (b.price * b.size)) : ∀ b ∈ booksOf spec views, b.Sound q := by
  intro b inside
  obtain ⟨leg,inLegs,rfl⟩ := List.mem_map.mp inside
  have stands := standing leg inLegs
  refine ⟨by rw [stands.sameRatio]; exact stands.ratio,stands.price,
    by rw [stands.sameRatio]; exact stands.enough,?_,
    stands.sizeFits,costs _ inside⟩
  exact shared _ (List.mem_map_of_mem inside)

theorem shownOf {spec : FixedShapeKernelSpec} (standing : ∀ leg ∈ spec.legs, Standing views leg) :
    ∀ b ∈ booksOf spec views, Shown b := by
  intro b inside
  obtain ⟨leg,inLegs,rfl⟩ := List.mem_map.mp inside
  obtain ⟨level,asks,price,_⟩ := (standing leg inLegs).level
  exact ⟨⟨level,asks,price⟩,(standing leg inLegs).indexed⟩

theorem kernelRan {spec result}
    (prefixed : ∀ view ∈ views, view.depthPrefix = buildDepthPrefix view.bids view.asks)
    (exact : NoOverflow spec views policy) (ok : run spec views policy nowNs = .ok result) :
    Ran spec views policy nowNs result := by
  unfold run at ok
  obtain ⟨some,ok⟩ := Machine.guardOk ok
  obtain ⟨few,ok⟩ := Machine.guardOk ok
  obtain ⟨_,ok⟩ := Machine.guardOk ok
  obtain ⟨works,work,ok⟩ := Machine.bindOk.mp ok
  obtain ⟨standing,rfl,q,_,shared⟩ := collected prefixed work
  have filled : booksOf spec views ≠ [] := by simpa [booksOf] using some
  have sound := soundOf standing shared exact.1
  have same : wholeBundles (booksOf spec views) = q := by
    obtain ⟨b,rest,books⟩ := List.exists_cons_of_ne_nil filled
    have head := (sound b (by rw [books]; exact List.mem_cons_self)).qty
    rw [wholeBundles,books]
    exact head
  have within : q ≤ i64Max := by
    obtain ⟨b,rest,books⟩ := List.exists_cons_of_ne_nil filled
    have inside : b ∈ booksOf spec views := by rw [books]; exact List.mem_cons_self
    have nonneg : 0 ≤ b.size := le_trans (le_of_lt (sound b inside).ratio) (sound b inside).enough
    rw [← (sound b inside).qty]
    exact le_trans (Int.tdiv_le_self _ nonneg) (sound b inside).sizeFits
  have least := leastShared shared within (.inl (by simpa using some))
  rw [least] at ok
  obtain ⟨bounded,ok⟩ := Machine.guardOk ok
  obtain ⟨⟨legs,total⟩,priced,ok⟩ := Machine.bindOk.mp ok
  obtain ⟨rfl,rfl,fits⟩ := pricedBooks (shownOf standing) sound priced (by decide)
  rw [Int.zero_add] at fits
  have answer := (Except.ok.inj ok).symm
  rw [Int.zero_add] at answer
  refine ⟨⟨some,by omega⟩,standing,?_,?_⟩ <;> rw [same]
  · have margins := exact.2.1
    have payout := exact.2.2
    rw [same] at margins payout
    exact ⟨sound,filled,by omega,by omega,margins,payout,fits⟩
  · exact answer

/-! The generic path's call. -/

theorem legPrepared {call : DecideCall} {leg : KernelLeg} {index intentLeg q}
    {bundleLeg : CombinatorialBundles.BundleLeg}
    (stands : Standing views leg) (sound : (bookedLeg views leg).Sound q) (sees : call.depthViews = views)
    (listed : call.intent.legs[index]? = some intentLeg) (indexed : intentLeg.assetIndex = leg.assetIndex)
    (side : bundleLeg.side = leg.side) (quantity : bundleLeg.quantityLots = leg.ratioQtyLots) :
    prepareLeg call index bundleLeg = .ok (bookedLeg views leg).sizing := by
  obtain ⟨level,asks,price,size⟩ := stands.level
  have ratio := stands.ratio
  have buy : bundleLeg.side = .buy := side.trans stands.side
  have wanted : ratioForLeg bundleLeg (some intentLeg) = leg.ratioQtyLots := by
    rw [ratioForLeg,quantity,if_pos ratio]
  have depth : findDepthView views leg.assetIndex index = some (bookedLeg views leg).depth := by
    rw [findDepthView,stands.found]
  simp only [prepareLeg,listed,wanted,sees,Option.map_some,Option.getD_some,indexed,depth,stands.usable,
    curveBuilt sound buy asks price size,bind,Except.bind]
  rw [if_neg (by simp [buy]),if_neg (by omega),if_neg (by decide),BookedLeg.sizing,stands.sameRatio]

theorem legsPrepared {call : DecideCall} {legs : List KernelLeg} {index q}
    (standing : ∀ leg ∈ legs, Standing views leg) (sound : ∀ leg ∈ legs, (bookedLeg views leg).Sound q)
    (sees : call.depthViews = views)
    (listed : ∀ offset leg, legs[offset]? = some leg →
      ∃ intentLeg, call.intent.legs[index + offset]? = some intentLeg ∧ intentLeg.assetIndex = leg.assetIndex) :
    prepareLegs call index (legs.map bundleLegOf) = .ok ((legs.map (bookedLeg views)).map BookedLeg.sizing) := by
  induction legs generalizing index with
  | nil => rfl
  | cons leg rest ih =>
    obtain ⟨intentLeg,found,indexed⟩ := listed 0 leg rfl
    obtain ⟨stands,standTail⟩ := List.forall_mem_cons.mp standing
    obtain ⟨head,tail⟩ := List.forall_mem_cons.mp sound
    have first : prepareLeg call index (bundleLegOf leg) = .ok (bookedLeg views leg).sizing :=
      legPrepared stands head sees found indexed rfl rfl
    have shifted : ∀ offset other, rest[offset]? = some other →
        ∃ intentLeg, call.intent.legs[index + 1 + offset]? = some intentLeg ∧
          intentLeg.assetIndex = other.assetIndex := by
      intro offset other here
      rw [Nat.add_assoc,Nat.add_comm 1]
      exact listed (offset + 1) other here
    have later := ih standTail tail shifted
    rw [List.map_cons,prepareLegs,first]
    simp only [bind,Except.bind]
    rw [later]
    rfl

theorem sourceListed (spec : FixedShapeKernelSpec) (old) {offset : Nat} {leg : KernelLeg}
    (here : spec.legs[offset]? = some leg) :
    ∃ intentLeg, (sourceLegs spec old)[offset]? = some intentLeg ∧ intentLeg.assetIndex = leg.assetIndex := by
  rw [sourceLegs,List.getElem?_map,List.getElem?_zipIdx,here]
  exact ⟨_,rfl,rfl⟩

variable {spec : FixedShapeKernelSpec} {result : FastKernelResult}

theorem genericLegs (ran : Ran spec views policy nowNs result) (intent) :
    legsFor (genericCall spec intent views policy nowNs) = .ok ((booksOf spec views).map BookedLeg.sizing) := by
  have sound : ∀ leg ∈ spec.legs, (bookedLeg views leg).Sound (wholeBundles (booksOf spec views)) :=
    fun leg inside => ran.tradable.sound _ (List.mem_map_of_mem inside)
  have count : (sourceLegs spec intent.legs).length = spec.legs.length := by simp [sourceLegs]
  have bundle : (bundleFromSpec spec).legs.length = spec.legs.length := by simp [bundleFromSpec]
  have filled := List.length_pos_iff.mpr ran.legs.1
  have few := ran.legs.2
  rw [legsFor,if_neg,if_neg]
  · refine legsPrepared ran.standing sound rfl fun offset leg here => ?_
    rw [Nat.zero_add]
    exact sourceListed spec intent.legs here
  · simp only [genericCall,count,bundle]
    omega
  · rw [← List.length_eq_zero_iff]
    simp only [genericCall,bundle,Intent.kMaxOrderDecisionLegs]
    simp only [kMaxFixedShapeKernelLegs] at few
    omega

theorem genericValid (views : List MarketDepthView) (policy : RiskPolicySnapshot) (nowNs : Nat) {intent}
    (legs : spec.legs ≠ [] ∧ spec.legs.length ≤ kMaxFixedShapeKernelLegs)
    (bundle : spec.bundleId ≠ 0) (sameBundle : intent.bundleId = spec.bundleId) :
    validate (genericCall spec intent views policy nowNs) =
      if intent.expiresAtNs ≠ 0 ∧ intent.expiresAtNs ≤ nowNs then
        some (reject .rejectExpiredIntent "intent expired") else none := by
  have status : ¬ (genericCall spec intent views policy nowNs).intent.status ≠ .paperOpportunity :=
    fun other => other rfl
  have count : (bundleFromSpec spec).legs.length = spec.legs.length := List.length_map ..
  have whole : ¬ ((genericCall spec intent views policy nowNs).bundle.bundleId = 0 ∨
      (genericCall spec intent views policy nowNs).intent.bundleId.toNat ≠
        (genericCall spec intent views policy nowNs).bundle.bundleId ∨
      (genericCall spec intent views policy nowNs).bundle.legs = [] ∨
      Intent.kMaxOrderDecisionLegs < (genericCall spec intent views policy nowNs).bundle.legs.length) := by
    rintro (zero | other | none | many)
    · exact bundle (UInt64.toNat_inj.mp zero)
    · exact other (congrArg UInt64.toNat sameBundle)
    · exact legs.1 (List.map_eq_nil_iff.mp none)
    · exact absurd (le_of_eq_of_le count legs.2) (not_le_of_gt many)
  rw [validate,if_neg status,if_neg whole]
  rfl

theorem kernelPayout {intent} {q : Int}
    (payout : intent.guaranteedPayoutTick = saturatingMulI64 spec.guaranteedPayoutTick q) :
    guaranteedPerBundle (genericCall spec intent views policy nowNs) = spec.guaranteedPayoutTick := by
  rw [guaranteedPerBundle]
  by_cases zero : spec.guaranteedPayoutTick = 0
  · have none : saturatingMulI64 0 q = 0 := by
      simp [saturatingMulI64,checkedMulI64,narrow,InI64,i64Min,i64Max]
    rw [if_neg (fun some => some zero)]
    exact payout.trans (by rw [zero,none])
  · exact if_pos zero

theorem wrappedExpiry {nowNs : Nat} (timed : nowNs < 2^64) :
    ((nowNs + 1000000000) % 2^64 ≠ 0 ∧ (nowNs + 1000000000) % 2^64 ≤ nowNs) ↔ ¬ nowNs + 1000000000 ≤ 2^64 := by
  omega

/-! What the two paths have to agree on. -/

structure LegFigures where
  quantityLots : Int
  estimatedVwapTick : Int
  worstPriceTick : Int
  limitPriceTick : Int
  estimatedCostTick : Int
  deriving DecidableEq, Repr
structure Figures where
  chosenBundleQty : Int
  estimatedTotalCostTick : Int
  unitEdgeTick : Int
  totalEdgeTick : Int
  edgeBps : Int
  legs : List LegFigures
  deriving DecidableEq, Repr
def legFigures (leg : OrderDecisionLegLite) : LegFigures :=
  ⟨leg.quantityLots,leg.estimatedVwapTick,leg.worstPriceTick,leg.limitPriceTick,leg.estimatedCostTick⟩
def figures (decision : OrderDecisionLite) : Figures :=
  ⟨decision.chosenBundleQty,decision.estimatedTotalCostTick,decision.unitEdgeTick,decision.totalEdgeTick,
    decision.edgeBps,decision.legs.map legFigures⟩
def SameDecision (fast : FastKernelResult) (generic : FastPathResult) : Prop :=
  (fast.producedOrderDecision = true ↔ generic.orderDecision.type = .paperOrderDecision) ∧
  (fast.producedOrderDecision = true → figures fast.orderDecision = figures generic.orderDecision)
instance (fast generic) : Decidable (SameDecision fast generic) := by unfold SameDecision; infer_instance

def bookFigures (q : Int) (b : BookedLeg) : LegFigures :=
  ⟨b.ratio * q,b.price,b.price,b.price,b.price * (b.ratio * q)⟩
def worthFigures (payout q : Int) (books : List BookedLeg) : Figures :=
  ⟨q,unitCost books * q,payout - unitCost books,(payout - unitCost books) * q,
    ratioBps (payout - unitCost books) (unitCost books),books.map (bookFigures q)⟩

theorem kernelLegFigures (legs : List KernelLeg) (q) :
    (List.zipWith kernelDecisionLeg legs ((legs.map (bookedLeg views)).map (pricedOf q))).map legFigures =
      (legs.map (bookedLeg views)).map (bookFigures q) := by
  induction legs with
  | nil => rfl
  | cons leg rest ih => exact congrArg (_::·) ih

theorem genericLegFigures (legs : List KernelLeg) (q) :
    (List.zipWith indexedLeg ((legs.map (bookedLeg views)).map (limitedBook q)) legs).map legFigures =
      (legs.map (bookedLeg views)).map (bookFigures q) := by
  induction legs with
  | nil => rfl
  | cons leg rest ih => exact congrArg (_::·) ih

theorem kernelVerdict (ran : Ran spec views policy nowNs result) (loose : Loose spec policy)
    (margin : policy.minDepthMarginBps ≤ i64Max) :
    (result.producedOrderDecision = true ↔ Profitable spec views policy) ∧
    (Profitable spec views policy → figures result.orderDecision =
      worthFigures spec.guaranteedPayoutTick (wholeBundles (booksOf spec views)) (booksOf spec views)) := by
  have tradable := ran.tradable
  have average := averageCost
    (le_of_lt (unitCostPos tradable.sound tradable.some)) tradable.positive tradable.costFits
  have verdict := kernelApproves tradable loose margin
  rw [ran.answer]
  simp only [kernelResult,average]
  refine ⟨by rw [decide_eq_true_iff]; exact verdict,fun worth => ?_⟩
  have approved := verdict.mpr worth
  simp only [approved,decide_true,if_true]
  rw [edgeFits tradable.positive worth.2.2.1]
  simp only [figures,fillOrderDecision,signed,fillIntent,worthFigures,booksOf,kernelLegFigures]

theorem genericRefuses {intent}
    (refused : (engineDecide {} {} (genericCall spec intent views policy nowNs)).2.ok = false) :
    (genericOrderDecisionResult spec intent views policy nowNs).orderDecision.type ≠ .paperOrderDecision := by
  simp only [genericOrderDecisionResult,genericResult,refused,if_true]
  exact fun taken => nomatch taken

theorem genericTakes {intent q} (tradable : Tradable policy
      (guaranteedPerBundle (genericCall spec intent views policy nowNs)) q (booksOf spec views))
    (valid : validate (genericCall spec intent views policy nowNs) = none)
    (prepared : legsFor (genericCall spec intent views policy nowNs) = .ok
      ((booksOf spec views).map BookedLeg.sizing))
    (worth : Worthwhile policy (guaranteedPerBundle (genericCall spec intent views policy nowNs)) q
      (booksOf spec views)) :
    (genericOrderDecisionResult spec intent views policy nowNs).orderDecision.type = .paperOrderDecision ∧
    figures (genericOrderDecisionResult spec intent views policy nowNs).orderDecision =
      worthFigures (guaranteedPerBundle (genericCall spec intent views policy nowNs)) q (booksOf spec views) := by
  have free : ∀ leg ∈ (genericCall spec intent views policy nowNs).bundle.legs, leg.maxPriceTick = 0 := by
    intro leg inside
    obtain ⟨source,_,rfl⟩ := List.mem_map.mp inside
    rfl
  obtain ⟨decision,taken,type,qty,cost,unit,total,bps,legs⟩ := engineTakes tradable valid prepared free worth
  simp only [genericOrderDecisionResult,taken,genericResult,accept]
  rw [if_neg (by decide)]
  refine ⟨type,?_⟩
  simp only [figures,signed,qty,cost,unit,total,bps,legs,booksOf,genericLegFigures,worthFigures]

theorem timelyAgrees (ran : Ran spec views policy nowNs result) (loose : Loose spec policy)
    (margin : policy.minDepthMarginBps ≤ i64Max)
    (valid : validate (genericCall spec result.intent views policy nowNs) = none) :
    SameDecision result (genericOrderDecisionResult spec result.intent views policy nowNs) := by
  obtain ⟨produced,fast⟩ := kernelVerdict ran loose margin
  have payout : guaranteedPerBundle
    (genericCall spec result.intent views policy nowNs) = spec.guaranteedPayoutTick :=
    kernelPayout (by rw [ran.answer]; rfl)
  have tradable := ran.tradable
  rw [← payout] at tradable
  by_cases worth : Profitable spec views policy
  · obtain ⟨type,generic⟩ :=
      genericTakes tradable valid (genericLegs ran result.intent) (by rw [payout]; exact worth)
    rw [payout] at generic
    exact ⟨iff_of_true (produced.mpr worth) type,fun _ => (fast worth).trans generic.symm⟩
  · have refused := engineRefuses tradable valid (genericLegs ran result.intent) (by rw [payout]; exact worth)
    exact ⟨iff_of_false (fun taken => worth (produced.mp taken)) (genericRefuses refused),
      fun taken => absurd (produced.mp taken) worth⟩

theorem expiredAgrees {refusal} (ran : Ran spec views policy nowNs result) (loose : Loose spec policy)
    (margin : policy.minDepthMarginBps ≤ i64Max) (failed : refusal.ok = false)
    (expired : validate (genericCall spec result.intent views policy nowNs) = some refusal) :
    SameDecision result (genericOrderDecisionResult spec result.intent views policy nowNs) ↔
      ¬ Profitable spec views policy := by
  have produced := (kernelVerdict ran loose margin).1
  have refused : (engineDecide {} {} (genericCall spec result.intent views policy nowNs)).2.ok = false := by
    simp only [engineDecide,genericDecide,expired]
    exact failed
  have generic := genericRefuses refused
  constructor
  · intro agree worth
    exact generic (agree.1.mp (produced.mpr worth))
  · intro poor
    exact ⟨iff_of_false (fun taken => poor (produced.mp taken)) generic,fun taken =>
      absurd (produced.mp taken) poor⟩

theorem kernelAgreesIff {spec : FixedShapeKernelSpec} {views : List MarketDepthView} {policy : RiskPolicySnapshot}
    {nowNs : Nat} {result : FastKernelResult}
    (timed : nowNs < 2^64) (margin : policy.minDepthMarginBps ≤ i64Max) (bundle : spec.bundleId ≠ 0)
    (loose : Loose spec policy)
    (prefixed : ∀ view ∈ views, view.depthPrefix = buildDepthPrefix view.bids view.asks)
    (exact : NoOverflow spec views policy) (noFallback : run spec views policy nowNs = .ok result) :
    SameDecision result (genericOrderDecisionResult spec result.intent views policy nowNs) ↔
      nowNs + 1000000000 ≤ 2^64 ∨ ¬ Profitable spec views policy := by
  have ran := kernelRan prefixed exact noFallback
  have same : result.intent.bundleId = spec.bundleId := by rw [ran.answer]; rfl
  have expires : result.intent.expiresAtNs = (nowNs + 1000000000) % 2^64 := by rw [ran.answer]; rfl
  have valid := genericValid views policy nowNs ran.legs bundle same
  rw [expires] at valid
  by_cases time : nowNs + 1000000000 ≤ 2^64
  · rw [if_neg (fun wrapped => (wrappedExpiry timed).mp wrapped time)] at valid
    exact iff_of_true (timelyAgrees ran loose margin valid) (.inl time)
  · rw [if_pos ((wrappedExpiry timed).mpr time)] at valid
    rw [expiredAgrees ran loose margin rfl valid]
    exact ⟨.inr,fun either => either.resolve_left time⟩

-- Three lots of one asset and two of another; both books hold one whole bundle and some margin.
def pairSpec : FixedShapeKernelSpec :=
  {bundleId := 1, legs := [⟨1,1,.buy,3⟩,⟨2,2,.buy,2⟩], guaranteedPayoutTick := 100}
def bookAt (assetIndex recvNs : Nat) (price : Int) (size : UInt64) : MarketDepthView :=
  { assetIndex
    lastWsRecvNs := recvNs
    usableForDepth := true
    asks := [⟨price,⟨size⟩⟩]
    depthPrefix := buildDepthPrefix [] [⟨price,⟨size⟩⟩] }
def pairViews (recvNs : Nat) : List MarketDepthView :=
  [bookAt 1 recvNs 10 0x4014000000000000,bookAt 2 recvNs 20 0x4008000000000000]

theorem pairAgrees : ∃ result, run pairSpec (pairViews 1000) {} 1000 = .ok result ∧
    result.producedOrderDecision = true ∧
    SameDecision result (genericOrderDecisionResult pairSpec result.intent (pairViews 1000) {} 1000) := by
  have produced : ∃ result ∈ (run pairSpec (pairViews 1000) {} 1000).toOption,
    result.producedOrderDecision = true := by
    decide +kernel
  obtain ⟨result,ran,produced⟩ := produced
  rw [Machine.memToOption] at ran
  refine ⟨result,ran,produced,(kernelAgreesIff (by decide) (by decide) (by decide) ?_ ?_ ?_ ran).mpr
    (.inl (by decide))⟩
  · exact ⟨by decide,by decide,by decide,by decide⟩
  · decide +kernel
  · decide +kernel

theorem wrappedExpiryDisagrees :
    pairSpec.bundleId ≠ 0 ∧ Loose pairSpec {} ∧
    (∀ view ∈ pairViews (2^64 - 1), view.depthPrefix = buildDepthPrefix view.bids view.asks) ∧
    NoOverflow pairSpec (pairViews (2^64 - 1)) {} ∧
    ∃ result ∈ (run pairSpec (pairViews (2^64 - 1)) {} (2^64 - 1)).toOption,
      ¬ SameDecision result (genericOrderDecisionResult pairSpec result.intent (pairViews (2^64 - 1))
        {} (2^64 - 1)) :=
  ⟨by decide,⟨by decide,by decide,by decide,by decide⟩,by decide +kernel,by decide +kernel,by decide +kernel⟩

end Polytope.KernelAgreement
