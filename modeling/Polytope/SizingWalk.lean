import Polytope.SizingState

/-! The walk over the candidate quantities: the state always stands at the last quantity that could be
filled, the best candidate keeps the state it was priced with, and no later candidate lowers it. -/
namespace Polytope.SizingWalk
open FixedPointMath MarketDepth SizeCandidates BundleSizing AskSweep SizingState
open RiskTypes (RiskPolicySnapshot)

def legSweep (leg : SizingLeg) (q : Int) : Int := sweep (curveSteps leg.curve.levels) (leg.ratio * q)
def legsCost (legs : List SizingLeg) (q : Int) : Int := (legs.map fun leg => legSweep leg q).sum
def Curved (legs : List SizingLeg) : Prop := ∀ leg ∈ legs, 0 < leg.ratio ∧ CurveOf leg.depth.asks leg.curve
-- The book of every leg is deep enough for q bundles and the margin on top.
def Deep (minDepthMarginBps : Int) (legs : List SizingLeg) (q : Int) : Prop :=
  ∀ leg ∈ legs, InI64 (leg.ratio * q) ∧ ceilRatioBps (leg.ratio * q) minDepthMarginBps ≤ leg.curve.totalQtyLots

theorem legsCostCons (leg : SizingLeg) (legs q) : legsCost (leg::legs) q = legSweep leg q + legsCost legs q := by
  simp [legsCost]
theorem curvedCons {leg : SizingLeg} {legs} : Curved (leg::legs) ↔
    (0 < leg.ratio ∧ CurveOf leg.depth.asks leg.curve) ∧ Curved legs :=
  List.forall_mem_cons
theorem deepCons {m : Int} {leg : SizingLeg} {legs q} : Deep m (leg::legs) q ↔
    (InI64 (leg.ratio * q) ∧ ceilRatioBps (leg.ratio * q) m ≤ leg.curve.totalQtyLots) ∧ Deep m legs q :=
  List.forall_mem_cons
theorem ceilRatioLe {value : Int} (fits : InI64 value) (bps : Int) : value ≤ ceilRatioBps value bps := by
  unfold ceilRatioBps
  split
  · exact le_rfl
  next some =>
  split
  · exact le_rfl
  next scaled fit =>
  obtain ⟨_,rfl⟩ := checkedMulExact.mp fit
  rw [not_or,not_le,not_le] at some
  have more : value * 10000 ≤ value * bps := Int.mul_le_mul_of_nonneg_left (by omega) (by omega)
  have upper := fits.2
  unfold ceilDivPositive
  rw [if_neg (by decide),Int.tdiv_eq_ediv_of_nonneg (by omega)]
  omega
theorem legSweepNonneg {leg : SizingLeg} {q : Int} (curved : 0 < leg.ratio ∧ CurveOf leg.depth.asks leg.curve)
    (nonneg : 0 ≤ q) :
    0 ≤ legSweep leg q :=
  sweepNonneg (curveOfSized curved.2) (curveOfPriced curved.2) (Int.mul_nonneg (le_of_lt curved.1) nonneg)
theorem legSweepMono {leg : SizingLeg} {q q' : Int} (curved : 0 < leg.ratio ∧ CurveOf leg.depth.asks leg.curve)
    (nonneg : 0 ≤ q)
    (le : q ≤ q') : legSweep leg q ≤ legSweep leg q' :=
  sweepMono (curveOfSized curved.2) (curveOfPriced curved.2) (Int.mul_nonneg (le_of_lt curved.1) nonneg)
    (Int.mul_le_mul_of_nonneg_left le (le_of_lt curved.1))
theorem legsCostNonneg {legs : List SizingLeg} {q : Int} (curved : Curved legs) (nonneg : 0 ≤ q) :
    0 ≤ legsCost legs q := by
  induction legs with
  | nil => exact le_rfl
  | cons leg rest ih =>
    obtain ⟨here,later⟩ := curvedCons.mp curved
    have head := legSweepNonneg here nonneg
    have tail := ih later
    rw [legsCostCons]
    omega

/-! One advance over all legs. -/

def FilledAt (q : Int) (legs : List SizingLeg) (fills : List LegFill) : Prop :=
  List.Forall₂ (fun leg fill => LegAt leg (leg.ratio * q) fill) legs fills

theorem advanceLegsSound {m bundleQty currentQ : Int} {legs fills total out} (curved : Curved legs)
    (filled : FilledAt currentQ legs fills)
    (advanced : advanceLegs m bundleQty currentQ legs fills total = .ok out) :
    FilledAt bundleQty legs out.1 ∧ out.2 = total + (legsCost legs bundleQty - legsCost legs currentQ) ∧
      Deep m legs bundleQty := by
  induction filled generalizing total out with
  | nil =>
    cases advanced
    exact ⟨.nil,by simp [legsCost],fun leg mem => (by cases mem)⟩
  | @cons leg fill legs fills here later ih =>
    obtain ⟨legCurved,others⟩ := curvedCons.mp curved
    unfold advanceLegs at advanced
    split at advanced
    · cases advanced
    next legQty lots =>
    obtain ⟨fits,rfl⟩ := checkedMulExact.mp lots
    split at advanced
    · cases advanced
    next deep =>
    split at advanced
    · cases advanced
    next first total' advancedLeg =>
    obtain ⟨⟨later',total''⟩,rest,advanced⟩ := Machine.bindOk.mp advanced
    cases advanced
    obtain ⟨filledLeg,sum,_⟩ := advanceSound legCurved.2 here advancedLeg
    obtain ⟨filledRest,sumRest,deepRest⟩ := ih others rest
    simp only at sum sumRest filledLeg filledRest
    refine ⟨.cons filledLeg filledRest,?_,deepCons.mpr ⟨⟨fits,not_lt.mp deep⟩,deepRest⟩⟩
    have now := filledLeg.cost
    have before := here.cost
    simp only
    rw [sumRest,sum,legsCostCons,legsCostCons,now,before,legSweep,legSweep]
    ring
theorem advanceLegsPartial {m bundleQty currentQ : Int} {legs fills total}
    (refused : advanceLegs m bundleQty currentQ legs fills total = .error .partialFillRisk) :
    ¬ Deep m legs bundleQty := by
  induction legs generalizing fills total with
  | nil => cases refused
  | cons leg rest ih =>
    cases fills with
    | nil => cases refused
    | cons fill fills =>
      intro deep
      obtain ⟨here,later⟩ := deepCons.mp deep
      unfold advanceLegs at refused
      rw [checkedMulExact.mpr ⟨here.1,rfl⟩] at refused
      simp only at refused
      rw [if_neg (not_lt.mpr here.2)] at refused
      split at refused
      · cases refused
      · rcases Machine.bindError.mp refused with stopped | ⟨_,_,stopped⟩
        · exact ih stopped later
        · cases stopped
theorem advanceLegsDone {m bundleQty currentQ : Int} {legs fills total} (curved : Curved legs)
    (filled : FilledAt currentQ legs fills)
    (nonneg : 0 ≤ currentQ) (le : currentQ ≤ bundleQty) (deep : Deep m legs bundleQty) (start : 0 ≤ total)
    (fits : total + (legsCost legs bundleQty - legsCost legs currentQ) ≤ i64Max)
    (each : ∀ leg ∈ legs, legSweep leg bundleQty ≤ i64Max) :
    ∃ out, advanceLegs m bundleQty currentQ legs fills total = .ok out := by
  induction filled generalizing total with
  | nil => exact ⟨_,rfl⟩
  | @cons leg fill legs fills here later ih =>
    obtain ⟨legCurved,others⟩ := curvedCons.mp curved
    obtain ⟨deepHere,deepLater⟩ := deepCons.mp deep
    obtain ⟨eachHere,eachLater⟩ := List.forall_mem_cons.mp each
    rw [legsCostCons,legsCostCons] at fits
    have grows := legSweepMono legCurved nonneg le
    have restGrows : legsCost legs currentQ ≤ legsCost legs bundleQty :=
      List.sum_le_sum fun other mem => legSweepMono (others other mem) nonneg le
    have before : fill.costTick = legSweep leg currentQ := here.cost
    have room := le_trans (ceilRatioLe deepHere.1 m) deepHere.2
    obtain ⟨⟨first,total'⟩,advanced⟩ := advanceDone legCurved.2 bundleQty total here legCurved.1 nonneg le
      deepHere.1 room eachHere start (by change total + (legSweep leg bundleQty - fill.costTick) ≤ i64Max; omega)
    obtain ⟨reached,sum,_⟩ := advanceSound legCurved.2 here advanced
    have now : first.costTick = legSweep leg bundleQty := reached.cost
    simp only at sum
    obtain ⟨out,rest⟩ : ∃ out, advanceLegs m bundleQty currentQ legs fills total' = .ok out :=
      ih others deepLater (by omega) (by omega) eachLater
    unfold advanceLegs
    rw [checkedMulExact.mpr ⟨deepHere.1,rfl⟩]
    simp only
    rw [if_neg (not_lt.mpr deepHere.2),advanced]
    simp only
    rw [rest]
    exact ⟨_,rfl⟩

structure StateAt (legs : List SizingLeg) (q : Int) (state : IncrementalEvalState) : Prop where
  current : state.currentQ = q
  nonneg : 0 ≤ q
  filled : FilledAt q legs state.legs
  total : state.totalLegCostTick = legsCost legs q
theorem stateSound {m q c : Int} {legs state next} (curved : Curved legs) (at' : StateAt legs c state)
    (advanced : advanceIncrementalState legs m q state = .ok next) : StateAt legs q next ∧ c ≤ q ∧
    Deep m legs q := by
  unfold advanceIncrementalState at advanced
  split at advanced
  · cases advanced
  next forward =>
  rw [at'.current] at forward advanced
  obtain ⟨⟨fills,total⟩,moved,advanced⟩ := Machine.bindOk.mp advanced
  cases advanced
  obtain ⟨filled,sum,deep⟩ := advanceLegsSound curved at'.filled moved
  have nonneg := at'.nonneg
  refine ⟨⟨rfl,by omega,filled,?_⟩,by omega,deep⟩
  simp only at sum ⊢
  rw [sum,at'.total]
  ring
theorem statePartial {m q : Int} {legs state}
    (refused : advanceIncrementalState legs m q state = .error .partialFillRisk) :
    ¬ Deep m legs q := by
  unfold advanceIncrementalState at refused
  split at refused
  · cases refused
  · rcases Machine.bindError.mp refused with stopped | ⟨_,_,stopped⟩
    · exact advanceLegsPartial stopped
    · cases stopped
theorem stateDone {m q c : Int} {legs state} (curved : Curved legs) (at' : StateAt legs c state) (le : c ≤ q)
    (deep : Deep m legs q)
    (fits : legsCost legs q ≤ i64Max) : ∃ next, advanceIncrementalState legs m q state = .ok next := by
  have nonneg := at'.nonneg
  have total := at'.total
  have start := legsCostNonneg curved nonneg
  have each : ∀ leg ∈ legs, legSweep leg q ≤ i64Max := by
    intro leg mem
    have one : legSweep leg q ≤ legsCost legs q :=
      List.single_le_sum (by
        intro cost inside
        obtain ⟨other,there,rfl⟩ := List.mem_map.mp inside
        exact legSweepNonneg (curved other there) (by omega)) _ (List.mem_map_of_mem mem)
    omega
  obtain ⟨out,moved⟩ : ∃ out, advanceLegs m q c legs state.legs state.totalLegCostTick = .ok out :=
    advanceLegsDone curved at'.filled nonneg le deep (by omega) (by omega) each
  unfold advanceIncrementalState
  rw [at'.current,if_neg (by omega),moved]
  exact ⟨_,rfl⟩

/-! Candidates. -/

-- A candidate that passes every test, with the cost and the edge reported for it.
structure Priced (config : OrderDecisionConfig) (call : DecideCall) (legs : List SizingLeg)
    (point : EdgeCurvePoint) : Prop where
  least : config.bounds.minBundleQty ≤ point.bundleQty
  deep : Deep call.policy.minDepthMarginBps legs point.bundleQty
  cost : totalCost config point.bundleQty (legsCost legs point.bundleQty) = some point.totalCostTick
  budget : 0 < call.policy.maxTotalCostTick → point.totalCostTick ≤ call.policy.maxTotalCostTick
  edge : edgePoint call.policy (guaranteedPerBundle call) point.bundleQty point.totalCostTick = some point
structure Chosen (config : OrderDecisionConfig) (call : DecideCall) (legs : List SizingLeg) (candidates : List Int)
    (best : EdgeCurvePoint × IncrementalEvalState) : Prop where
  priced : Priced config call legs best.1
  state : StateAt legs best.1.bundleQty best.2
  candidate : best.1.bundleQty ∈ candidates

theorem edgeQty {policy : RiskPolicySnapshot} {guaranteed q cost point}
    (edge : edgePoint policy guaranteed q cost = some point) :
    point.bundleQty = q ∧ point.totalCostTick = cost := by
  unfold edgePoint at edge
  obtain ⟨_,_,edge⟩ := Option.bind_eq_some_iff.mp edge
  obtain ⟨_,_,edge⟩ := Option.bind_eq_some_iff.mp edge
  simp only at edge
  split at edge
  · cases edge
  · cases edge
    exact ⟨rfl,rfl⟩

section
variable {config : OrderDecisionConfig} {call : DecideCall} {legs : List SizingLeg}
  {candidates : List Int} {w : Walk}

structure WalkAt (config : OrderDecisionConfig) (call : DecideCall) (legs : List SizingLeg)
    (candidates : List Int) (c : Int)
    (w : Walk) : Prop where
  state : StateAt legs c w.state
  best : ∀ best, w.best = some best → Chosen config call legs candidates best

-- What one candidate does to the walk.
inductive Evaluated (config : OrderDecisionConfig) (call : DecideCall) (legs : List SizingLeg) (w : Walk)
    (q : Int) : Walk → Prop
  | idle : Evaluated config call legs w q w
  | refused (shallow : ¬ Deep call.policy.minDepthMarginBps legs q) :
    Evaluated config call legs w q {w with sawPartialReject := true, candidatesExhausted := true}
  | moved {state} (advanced : advanceIncrementalState legs call.policy.minDepthMarginBps q w.state = .ok state)
    (least : config.bounds.minBundleQty ≤ q) (overBudget : Bool) :
    Evaluated config call legs w q {w with state, sawBudgetReject := overBudget}
  | offered {state cost point}
    (advanced : advanceIncrementalState legs call.policy.minDepthMarginBps q w.state = .ok state)
    (least : config.bounds.minBundleQty ≤ q) (costs : totalCost config q state.totalLegCostTick = some cost)
    (budget : 0 < call.policy.maxTotalCostTick → cost ≤ call.policy.maxTotalCostTick)
    (edge : edgePoint call.policy (guaranteedPerBundle call) q cost = some point) :
    Evaluated config call legs w q (Walk.offer {w with state} point)
theorem evaluated (config call legs w q) :
    Evaluated config call legs w q (evaluateCandidate config call legs w q) := by
  unfold evaluateCandidate
  split
  · exact .idle
  next least =>
  rw [not_lt] at least
  split
  · next refused => exact .refused (statePartial refused)
  · exact .idle
  next state advanced =>
  unfold Walk.price
  simp only
  split
  · exact .moved advanced least w.sawBudgetReject
  next cost costs =>
  split
  · exact .moved advanced least true
  next budget =>
  split
  · exact .moved advanced least w.sawBudgetReject
  next point edge =>
  exact .offered advanced least costs (fun capped => not_lt.mp fun exceeds => budget ⟨capped,exceeds⟩) edge

theorem offerBest (w : Walk) (point) : (w.offer point).best = some (point,w.state) ∨
    (w.offer point).best = w.best := by
  unfold Walk.offer
  split
  · exact .inl rfl
  · split
    · exact .inl rfl
    · exact .inr rfl
theorem offerState (w : Walk) (point) : (w.offer point).state = w.state ∧
    (w.offer point).candidatesExhausted = w.candidatesExhausted := by
  unfold Walk.offer
  split
  · exact ⟨rfl,rfl⟩
  · split
    · exact ⟨rfl,rfl⟩
    · exact ⟨rfl,rfl⟩
theorem evaluateKeeps {c q : Int} (curved : Curved legs) (at' : WalkAt config call legs candidates c w)
    (there : q ∈ candidates) :
    ∃ c', WalkAt config call legs candidates c' (evaluateCandidate config call legs w q) ∧ (c' = c ∨ c' = q) := by
  have step := evaluated config call legs w q
  generalize evaluateCandidate config call legs w q = next at step ⊢
  cases step with
  | idle => exact ⟨c,at',.inl rfl⟩
  | refused _ => exact ⟨c,⟨at'.state,at'.best⟩,.inl rfl⟩
  | moved advanced least overBudget =>
    exact ⟨q,⟨(stateSound curved at'.state advanced).1,at'.best⟩,.inr rfl⟩
  | @offered state cost point advanced least costs budget edge =>
    obtain ⟨reached,_,deep⟩ := stateSound curved at'.state advanced
    obtain ⟨qty,total⟩ := edgeQty edge
    refine ⟨q,⟨?_,?_⟩,.inr rfl⟩
    · rw [(offerState _ _).1]
      exact reached
    · intro best found
      rcases offerBest {w with state} point with new | old
      · cases new.symm.trans found
        subst qty total
        rw [reached.total] at costs
        exact ⟨⟨least,deep,costs,budget,edge⟩,reached,there⟩
      · exact at'.best best (old ▸ found)

theorem walkKeeps {c : Int} (curved : Curved legs) (at' : WalkAt config call legs candidates c w)
    {more : List Int} (inside : more ⊆ candidates) :
    ∃ c', WalkAt config call legs candidates c' (walkCandidates (evaluateCandidate config call legs) w more) := by
  induction more generalizing w c with
  | nil => exact ⟨c,at'⟩
  | cons q rest ih =>
    obtain ⟨here,later⟩ := List.cons_subset.mp inside
    obtain ⟨c',step,_⟩ := evaluateKeeps curved at' here
    rw [walkCandidates]
    split
    · exact ⟨c',step⟩
    · exact ih step later
theorem legsCostZero {legs : List SizingLeg} (curved : Curved legs) : legsCost legs 0 = 0 := by
  have none : ∀ leg ∈ legs, legSweep leg 0 = 0 := by
    intro leg mem
    rw [legSweep,Int.mul_zero]
    exact sweepZero (curveOfSized (curved leg mem).2)
  unfold legsCost
  rw [List.map_congr_left none]
  simp
theorem startFilled {legs : List SizingLeg} (curved : Curved legs) :
    FilledAt 0 legs (startWalk legs).state.legs := by
  unfold FilledAt startWalk
  simp only
  induction legs with
  | nil => exact .nil
  | cons leg rest ih =>
    obtain ⟨here,later⟩ := curvedCons.mp curved
    refine .cons ⟨⟨[],rfl,?_⟩,?_,?_,?_⟩ (ih later)
    · simp [curveSteps,depth]
    · simp
    · rw [Int.mul_zero]
      exact (sweepZero (curveOfSized here.2)).symm
    · intro some
      simp at some
theorem startState {legs : List SizingLeg} (curved : Curved legs) : StateAt legs 0 (startWalk legs).state := by
  refine ⟨rfl,le_rfl,startFilled curved,?_⟩
  rw [legsCostZero curved]
  rfl
theorem startAt (config call candidates) (legs : List SizingLeg) (curved : Curved legs) :
    WalkAt config call legs candidates 0 (startWalk legs) :=
  ⟨startState curved,fun best found => (by cases found)⟩

/-! No later candidate lowers the best edge. -/

theorem offerAtLeast (w : Walk) (point) : ∃ best state, (w.offer point).best = some (best,state) ∧
    point.totalEdgeTick ≤ best.totalEdgeTick ∧
    ∀ old, w.best = some old → old.1.totalEdgeTick ≤ best.totalEdgeTick := by
  unfold Walk.offer
  cases found : w.best with
  | none => exact ⟨point,w.state,rfl,le_rfl,fun old none => (by cases none)⟩
  | some incumbent =>
    obtain ⟨best,state⟩ := incumbent
    simp only
    split
    · next better =>
      refine ⟨point,w.state,rfl,le_rfl,fun old same => ?_⟩
      cases same
      unfold betterEdgeCandidate at better
      split at better
      · exact le_of_lt (of_decide_eq_true better)
      · next same => exact le_of_eq (not_ne_iff.mp same).symm
    · next worse =>
      refine ⟨best,state,found,?_,fun old same => (by cases same; exact le_rfl)⟩
      unfold betterEdgeCandidate at worse
      split at worse
      · exact not_lt.mp fun more => worse (decide_eq_true more)
      · next same => exact le_of_eq (not_ne_iff.mp same)

def AtLeast (edge : Int) (w : Walk) : Prop := ∃ best state, w.best = some (best,state) ∧ edge ≤ best.totalEdgeTick
theorem evaluateAtLeast {edge q : Int} (already : AtLeast edge w) :
    AtLeast edge (evaluateCandidate config call legs w q) := by
  obtain ⟨best,state,found,more⟩ := already
  have step := evaluated config call legs w q
  generalize evaluateCandidate config call legs w q = next at step ⊢
  cases step with
  | idle => exact ⟨best,state,found,more⟩
  | refused _ => exact ⟨best,state,found,more⟩
  | moved _ _ _ => exact ⟨best,state,found,more⟩
  | @offered state' _ point _ _ _ _ _ =>
    obtain ⟨best',state'',found',_,older⟩ := offerAtLeast {w with state := state'} point
    exact ⟨best',state'',found',le_trans more (older _ found)⟩
theorem walkAtLeast {edge : Int} (already : AtLeast edge w) (more : List Int) :
    AtLeast edge (walkCandidates (evaluateCandidate config call legs) w more) := by
  induction more generalizing w with
  | nil => exact already
  | cons q rest ih =>
    rw [walkCandidates]
    split
    · exact evaluateAtLeast already
    · exact ih (evaluateAtLeast already)

-- A candidate that passes every test is reached when the ones before it are deep enough, and the best edge is
-- at least its own.
theorem walkReaches {c : Int} (curved : Curved legs) (at' : WalkAt config call legs candidates c w)
    {more : List Int} {point : EdgeCurvePoint}
    (inside : more ⊆ candidates) (sorted : more.Pairwise (· < ·)) (ahead : ∀ q ∈ more, c ≤ q)
    (priced : Priced config call legs point)
    (fits : legsCost legs point.bundleQty ≤ i64Max) (there : point.bundleQty ∈ more)
    (running : w.candidatesExhausted = false)
    (before : ∀ q ∈ more, q ≤ point.bundleQty → Deep call.policy.minDepthMarginBps legs q) :
    AtLeast point.totalEdgeTick (walkCandidates (evaluateCandidate config call legs) w more) := by
  induction more generalizing w c with
  | nil => cases there
  | cons q rest ih =>
    obtain ⟨here,later⟩ := List.cons_subset.mp inside
    obtain ⟨first,others⟩ := List.pairwise_cons.mp sorted
    have le : c ≤ q := ahead q List.mem_cons_self
    rw [walkCandidates]
    by_cases own : q = point.bundleQty
    · subst own
      obtain ⟨state,advanced⟩ := stateDone curved at'.state le priced.deep fits
      have reached := (stateSound curved at'.state advanced).1
      have done : evaluateCandidate config call legs w point.bundleQty = Walk.offer {w with state} point := by
        unfold evaluateCandidate
        rw [if_neg (not_lt.mpr priced.least),advanced]
        simp only
        unfold Walk.price
        simp only
        rw [reached.total,priced.cost]
        simp only
        rw [if_neg fun both => not_lt.mpr (priced.budget both.1) both.2,priced.edge]
      have reachedBest : AtLeast point.totalEdgeTick (evaluateCandidate config call legs w point.bundleQty) := by
        rw [done]
        obtain ⟨best,state',found,more,_⟩ := offerAtLeast {w with state} point
        exact ⟨best,state',found,more⟩
      split
      · exact reachedBest
      · exact walkAtLeast reachedBest rest
    · have below : point.bundleQty ∈ rest := (List.mem_cons.mp there).resolve_left fun same => own same.symm
      have deep := before q List.mem_cons_self (le_of_lt (first _ below))
      have goesOn : (evaluateCandidate config call legs w q).candidatesExhausted = false := by
        have step := evaluated config call legs w q
        generalize evaluateCandidate config call legs w q = next at step ⊢
        cases step with
        | idle => exact running
        | refused shallow => exact absurd deep shallow
        | moved _ _ _ => exact running
        | offered _ _ _ _ _ =>
          rw [(offerState _ _).2]
          exact running
      obtain ⟨c',step,which⟩ := evaluateKeeps curved at' here
      rw [if_neg (by rw [goesOn]; exact Bool.false_ne_true)]
      refine ih step later others (fun r mem => ?_) below goesOn fun r mem => before r (List.mem_cons_of_mem _ mem)
      have next := first r mem
      rcases which with rfl | rfl
      · exact le_trans le (le_of_lt next)
      · exact le_of_lt next

end

end Polytope.SizingWalk
