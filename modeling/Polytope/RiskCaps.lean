import Polytope.ReservationCaps
import Polytope.RiskApprovals
import Polytope.ExecutionPlanner

/-! Exposure and inventory caps over whole runs of one engine with its own ledger. The
exposure guard checks the repriced cost and the reservation books the signal's estimate; the
inventory guard checks the ratio of a leg and the planner orders the ratio of every bundle. -/
namespace Polytope.RiskCaps
open FixedPointMath RiskTypes CostRevalidator RiskGuards Reservation ReservationLedger ReservationCaps Pipeline
  RiskEvaluation Engine
open RiskApprovals RiskEdge Tally ExecutionTypes ExecutionPlanner
open Intent (OpportunityIntent IntentLeg)

def grantOf (f : EngineOp → RiskPipelineResult → Int) (x : Entry) : Option (Nat × Int) :=
  x.2.bind fun r => if r.decision.approved then some (r.reservation.reservationId,f x.1 r) else none
def grantsOf (f : EngineOp → RiskPipelineResult → Int) (log : EngineLog) : Grants := log.filterMap (grantOf f)

theorem grantsAppend (f log x) : grantsOf f (log ++ [x]) = grantsOf f log ++ (grantOf f x).toList := by
  cases here : grantOf f x <;> simp [grantsOf,here]
theorem grantRejected {f op r} (rejected : r.decision.approved = false) : grantOf f (op,some r) = none := by
  simp [grantOf,rejected]
theorem grantApproved {f op r} (approved : r.decision.approved = true) :
    grantOf f (op,some r) = some (r.reservation.reservationId,f op r) := by
  simp [grantOf,approved]

/-! One step of the engine on its book. -/

theorem revalidatedLegs {i input} (ok : (revalidatedCost i input).ok = true) :
    ∀ leg ∈ i.legs, leg.assetId ≠ "" ∧ 0 < leg.quantityLots := by
  unfold revalidatedCost at ok
  split at ok
  · exact latestLegsValid (depthViewRefuses _) (revalidateAccepted ok).1
  · exact latestLegsValid (snapshotRefuses _) (revalidateAccepted ok).1

theorem engineAsset {e op a} (ok : Consistent e.reservations) (fine : AssetConsistent a e.reservations) :
    AssetConsistent a (engineStep e op).1.reservations := by
  have stepped := engineStepStepped e op
  generalize engineStep e op = out at *
  obtain ⟨e',answer⟩ := out
  cases stepped with
  | released _ => exact releaseAsset ok fine _
  | expired _ => exact expireOldAsset ok fine _
  | refused _ _ _ => exact fine
  | evaluated view evaluation =>
    have expired := expireOldAsset ok fine
    cases evaluation with
    | early _ _ => exact expired _
    | duplicate _ _ _ _ _ => exact expired _
    | rateLimited _ _ _ _ _ _ _ => exact expired _
    | later _ _ _ _ _ _ => exact expired _
    | unreserved _ _ _ _ _ _ _ _ => exact expired _
    | approved _ _ _ checked same _ _ _ _ _ _ _ =>
      cases Option.some.inj same
      have legs := revalidatedLegs checked.cost
      exact tryReserveAsset (expired _) fun _ leg mem _ => le_of_lt (legs leg mem).2

def Grantable (booked : RiskReservation → Int) (cap : Int) (f : EngineOp → RiskPipelineResult → Int)
    (e : RiskEngine) (op : EngineOp) : Prop :=
  ∀ input i r, evaluatedView e op = some input → input.intent = some i →
    Checked i (pipelineView e (expireOld e.reservations input.nowNs) input) →
    r.cost = revalidatedCost i (pipelineView e (expireOld e.reservations input.nowNs) input) →
    r.approvedIntent.intent = i →
    max (f op r) 0 ≤ booked (storedReservation (expireOld e.reservations input.nowNs) i input.nowNs
      (shouldTrackReservationLedgerDetail (opPolicy e.runtime op))) ∧
    (f op r ≤ 0 ∨ activeSum booked (expireOld e.reservations input.nowNs).reservations + max (f op r) 0 ≤ cap)

theorem capStep {booked cap f e log op} (ok : Consistent e.reservations)
    (held : CapHeld booked cap e.reservations (grantsOf f log)) (grantable : Grantable booked cap f e op) :
    CapHeld booked cap (engineStep e op).1.reservations (grantsOf f (log ++ [(op,(engineStep e op).2)])) := by
  have stepped := engineStepStepped e op
  generalize engineStep e op = out at *
  obtain ⟨e',answer⟩ := out
  rw [grantsAppend]
  have idle : ∀ b x, grantOf f x = none → CapHeld booked cap b (grantsOf f log) →
      CapHeld booked cap b (grantsOf f log ++ (grantOf f x).toList) := by
    intro b x none held
    rw [none]
    simpa using held
  cases stepped with
  | released _ => exact idle _ _ rfl (releasePreserves capFinish held _)
  | expired _ => exact idle _ _ rfl (expireOldPreserves capFinish held _)
  | refused _ refused _ => exact idle _ _ (grantRejected refused.1) held
  | evaluated view evaluation =>
    have expired := fun nowNs => expireOldPreserves capFinish held nowNs
    obtain ⟨_,policy,_⟩ := evaluatedViewShape view
    cases evaluation with
    | early refused _ => exact idle _ _ (grantRejected refused.1) (expired _)
    | duplicate _ _ rejected _ _ => exact idle _ _ (grantRejected rejected) (expired _)
    | rateLimited _ _ _ rejected _ _ _ => exact idle _ _ (grantRejected rejected) (expired _)
    | later _ _ _ refused _ _ => exact idle _ _ (grantRejected refused.1) (expired _)
    | unreserved _ _ _ _ rejected _ _ _ => exact idle _ _ (grantRejected rejected) (expired _)
    | approved intent _ _ checked same reserved decided cost reservation given _ _ =>
      cases Option.some.inj same
      obtain ⟨within,room⟩ := grantable _ _ _ view intent checked cost given
      rw [grantApproved decided,reservation]
      rcases tryReserveCases _ _ _ _ _ with ⟨refused,_⟩ | ⟨_,_,_,_,booked⟩
      · rw [reservationFor,refused] at reserved
        cases reserved
      · have consistent := expireOldConsistent ok
        rw [reservationFor,booked]
        refine capReserve (consistent _) (expired _) rfl (consistent _).nextId storedActive ?_ room
        rw [← policy] at within
        exact within

/-! The sums of the guards and the ledgers. -/

def bookedMarket (i : OpportunityIntent) (marketId : String) : Int :=
  legSum (·.marketId) (fun leg => max leg.estimatedCostTick 0) i.legs marketId
def incomingAsset (i : OpportunityIntent) (assetId : String) : Int :=
  legSum (·.assetId) (fun leg => max leg.quantityLots 0) i.legs assetId
-- Every sum formed from the ledger's figures and the intent's stays a 64-bit number.
structure SumsFit (ledger : RiskLedgerSnapshot) (i : OpportunityIntent)
    (cost : CostRevalidationResult) : Prop where
  booked : InI64 (ledger.totalReservedCostTick + i.estimatedCostTick) ∧
    InI64 (ledger.totalReservedExposureTick + max i.estimatedCostTick 0)
  total : InI64 (ledger.totalReservedExposureTick + max cost.riskTotalCostTick 0)
  guarded : ∀ m ∈ marketCosts i cost, InI64 (figure ledger.reservedMarketExposureTick m.1 + m.2)
  markets : ∀ leg ∈ i.legs, leg.marketId ≠ "" → InI64 (bookedMarket i leg.marketId) ∧
    InI64 (figure ledger.reservedMarketExposureTick leg.marketId + bookedMarket i leg.marketId)
  assets : ∀ leg ∈ i.legs, leg.assetId ≠ "" → InI64 (incomingAsset i leg.assetId) ∧
    InI64 (figure ledger.reservedAssetLots leg.assetId + incomingAsset i leg.assetId)
instance (ledger i cost) : Decidable (SumsFit ledger i cost) :=
  decidable_of_iff (_ ∧ _ ∧ _ ∧ _ ∧ _)
    ⟨fun h => ⟨h.1,h.2.1,h.2.2.1,h.2.2.2.1,h.2.2.2.2⟩,fun h => ⟨h.1,h.2,h.3,h.4,h.5⟩⟩

-- As long as the sum of a key fits, the 64-bit counter holds it.
theorem foldCreditFigure (key : IntentLeg → String) (amount : IntentLeg → Int) {k} (named : k ≠ "")
    {legs : List IntentLeg} (nonneg : ∀ leg ∈ legs, 0 ≤ amount leg) {t : Totals String} (start : 0 ≤ figure t k)
    (fits : figure t k + legSum key amount legs k ≤ i64Max) :
    figure (legs.foldl (fun out leg => if key leg = "" then out else creditI64 out (key leg) (amount leg)) t) k =
      figure t k + legSum key amount legs k := by
  induction legs generalizing t with
  | nil => simp [legSum]
  | cons leg rest ih =>
    obtain ⟨here,later⟩ := List.forall_mem_cons.mp nonneg
    have more : 0 ≤ legSum key amount rest k := legSumNonneg later k
    rw [legSumCons] at fits ⊢
    rw [List.foldl_cons]
    split
    · next empty =>
      rw [empty,if_neg named.symm] at fits ⊢
      rw [ih later start (by omega),Int.zero_add]
    · by_cases same : key leg = k
      · rw [if_pos same] at fits ⊢
        have least : i64Min ≤ 0 := by decide
        have counted : figure (creditI64 t (key leg) (amount leg)) k = figure t k + amount leg := by
          rw [same,creditI64]
          simp only [figure,AList.lookup_insert,Option.getD_some]
          exact wrapExact ⟨by unfold figure at start; omega,by unfold figure at fits; omega⟩
        rw [ih later (by omega) (by omega),counted,Int.add_assoc]
      · rw [if_neg same] at fits ⊢
        have other : figure (creditI64 t (key leg) (amount leg)) k = figure t k := by
          rw [creditI64]
          simp only [figure,AList.lookup_insert_ne (Ne.symm same)]
        rw [ih later (by omega) (by omega),other,Int.zero_add]

theorem legSumOther {key amount legs k} (none : ∀ leg ∈ legs, key leg ≠ k) : legSum key amount legs k = 0 := by
  induction legs with
  | nil => rfl
  | cons leg rest ih =>
    rw [legSumCons,if_neg (none leg List.mem_cons_self),ih fun x mem => none x (List.mem_cons_of_mem leg mem)]
    rfl

/-! The exposure cap. -/

def pricedView (runtime : RiskRuntimeContext) (op : EngineOp) : Option RiskInputView :=
  (evaluatedView {runtime} op).map fun input => {input with policy := input.policy.or runtime.policy}
theorem pricedViewOf {e op input} (view : evaluatedView e op = some input) :
    pricedView e.runtime op = some {input with policy := input.policy.or e.runtime.policy} := by
  have same : evaluatedView {runtime := e.runtime} op = evaluatedView e op := by
    cases op <;> rfl
  rw [pricedView,same,view]
  rfl

def repricedLegCost (i : OpportunityIntent) (input : RiskInputView) (leg : IntentLeg) : Int :=
  if signalReused i input then leg.estimatedCostTick
  else if input.depthViews.items ≠ [] then pricedLeg (depthViewSource input.depthViews.items) i leg
  else pricedLeg (snapshotSource input.snapshots.items) i leg
-- The repriced cost in one market; the only market of an intent carries its whole cost.
def marketGrant (i : OpportunityIntent) (input : RiskInputView) (marketId : String) : Int :=
  match entries (estimatedMarketCosts i.legs) with
  | [(only,_)] => if only = marketId then max (revalidatedCost i input).riskTotalCostTick 0 else 0
  | _ => legSum (·.marketId) (repricedLegCost i input) i.legs marketId

def costGrant (_ : EngineOp) (r : RiskPipelineResult) : Int := r.cost.riskTotalCostTick
def marketCostGrant (runtime : RiskRuntimeContext) (marketId : String) (op : EngineOp)
    (r : RiskPipelineResult) : Int :=
  ((pricedView runtime op).map fun input => marketGrant r.approvedIntent.intent input marketId).getD 0

def OwnLedger (policy : RiskPolicySnapshot) (e : RiskEngine) (op : EngineOp) : Prop :=
  ∀ input ∈ evaluatedView e op, e.runtime.ledger = none ∧ input.ledger = none ∧ opPolicy e.runtime op = policy
def Counted (e : RiskEngine) (op : EngineOp) : Prop :=
  ∀ input ∈ evaluatedView e op, ∀ i ∈ input.intent,
    let cost := revalidatedCost i {input with policy := input.policy.or e.runtime.policy}
    cost.ok = true → SumsFit (snapshot (expireOld e.reservations input.nowNs)) i cost
def Covered (policy : RiskPolicySnapshot) (e : RiskEngine) (_ : EngineLog) (op : EngineOp) : Prop :=
  OwnLedger policy e op ∧ Counted e op ∧
    ∀ input ∈ pricedView e.runtime op, ∀ i ∈ input.intent, (revalidatedCost i input).ok = true →
    (revalidatedCost i input).riskTotalCostTick ≤ max i.estimatedCostTick 0 ∧
    ∀ leg ∈ i.legs, leg.marketId ≠ "" → marketGrant i input leg.marketId ≤ bookedMarket i leg.marketId
instance (policy e op) : Decidable (OwnLedger policy e op) := by
  unfold OwnLedger
  infer_instance
instance (e op) : Decidable (Counted e op) := by
  unfold Counted
  infer_instance
instance (policy e log op) : Decidable (Covered policy e log op) := by
  unfold Covered
  infer_instance

theorem ownSnapshot {policy e op input} (own : OwnLedger policy e op)
    (view : evaluatedView e op = some input) (b) :
    (pipelineView e b input).ledger.getD {} = snapshot b := by
  obtain ⟨runtime,caller,_⟩ := own input view
  simp [pipelineView,ledgerFor,runtime,caller]
theorem ownPolicy {policy e op input} (own : OwnLedger policy e op) (view : evaluatedView e op = some input) (b) :
    effectivePolicy (pipelineView e b input) = policy := by
  obtain ⟨_,fixed,_⟩ := evaluatedViewShape view
  exact fixed.trans (own input view).2.2

theorem countedSums {e op input i} (counted : Counted e op) (view : evaluatedView e op = some input)
    (intent : input.intent = some i)
    (checked : Checked i (pipelineView e (expireOld e.reservations input.nowNs) input)) :
    SumsFit (snapshot (expireOld e.reservations input.nowNs)) i
      (revalidatedCost i (pipelineView e (expireOld e.reservations input.nowNs) input)) :=
  counted input view i intent checked.cost
theorem bookedFits {ledger i cost} (fits : SumsFit ledger i cost) {m : String} (named : m ≠ "") :
    bookedMarket i m ≤ i64Max := by
  by_cases some : ∃ leg ∈ i.legs, leg.marketId = m
  · obtain ⟨leg,mem,rfl⟩ := some
    exact (fits.markets leg mem named).1.2
  · rw [bookedMarket,legSumOther fun leg mem same => some ⟨leg,mem,same⟩]
    decide
theorem incomingFits {ledger i cost} (fits : SumsFit ledger i cost) {a : String} (named : a ≠ "") :
    incomingAsset i a ≤ i64Max := by
  by_cases some : ∃ leg ∈ i.legs, leg.assetId = a
  · obtain ⟨leg,mem,rfl⟩ := some
    exact (fits.assets leg mem named).1.2
  · rw [incomingAsset,legSumOther fun leg mem same => some ⟨leg,mem,same⟩]
    decide

theorem exposureChecked {policy e op input i b} (own : OwnLedger policy e op)
    (view : evaluatedView e op = some input)
    (ok : Consistent b) (checked : Checked i (pipelineView e b input))
    (fits : SumsFit (snapshot b) i (revalidatedCost i (pipelineView e b input))) :
    (0 < policy.maxTotalExposureTick → activeSum (·.reservedExposureTick) b.reservations +
      max (revalidatedCost i (pipelineView e b input)).riskTotalCostTick 0 ≤ policy.maxTotalExposureTick) ∧
    (0 < policy.maxSingleMarketExposureTick → ∀ m ∈ marketCosts i (revalidatedCost i (pipelineView e b input)),
      activeSum (fun r => total (amounts r.markets) m.1) b.reservations + m.2 ≤
        policy.maxSingleMarketExposureTick) := by
  obtain ⟨exposure,markets,_⟩ := snapshotFigures ok
  have pass := exposureGuardPass checked.exposure
  rw [ownSnapshot own view,ownPolicy own view] at pass
  refine ⟨fun capped => ?_,fun capped m mem => ?_⟩
  · rw [← exposure,← wrapExact fits.total]
    exact pass.1 capped
  · rw [← markets,← wrapExact (fits.guarded m mem)]
    exact pass.2 capped m mem

theorem costGrantable {policy e log op} (ok : Consistent e.reservations) (covered : Covered policy e log op)
    (capped : 0 < policy.maxTotalExposureTick) :
    Grantable (·.reservedExposureTick) policy.maxTotalExposureTick costGrant e op := by
  intro input i r view intent checked cost _
  have within := (covered.2.2 _ (pricedViewOf view) i intent checked.cost).1
  have fits := countedSums covered.2.1 view intent checked
  have room := (exposureChecked covered.1 view (expireOldConsistent ok _) checked fits).1 capped
  rw [costGrant,cost]
  exact ⟨max_le within (le_max_right _ _),.inr room⟩

theorem marketGrantRoom {i input m room cap} (named : m ≠ "") (fits : bookedMarket i m ≤ i64Max)
    (within : marketGrant i input m ≤ bookedMarket i m)
    (checked : ∀ c ∈ marketCosts i (revalidatedCost i input), c.1 = m → room + c.2 ≤ cap) :
    marketGrant i input m ≤ 0 ∨ room + max (marketGrant i input m) 0 ≤ cap := by
  have figured : figure (estimatedMarketCosts i.legs) m = bookedMarket i m :=
    (foldCreditFigure (·.marketId) (fun leg => max leg.estimatedCostTick 0) named
      (fun _ _ => le_max_right _ _) le_rfl
      (by rwa [figureEmpty,Int.zero_add])).trans (Int.zero_add _)
  have nonneg : 0 ≤ bookedMarket i m := legSumNonneg (fun _ _ => le_max_right _ _) m
  unfold marketGrant marketCosts at *
  split at within
  · next only _ alone =>
    rw [alone] at checked
    split
    · next same =>
      have := checked (only,max (revalidatedCost i input).riskTotalCostTick 0) (List.mem_singleton_self _) same
      omega
    · exact .inl le_rfl
  · next several =>
    have listed : figure (estimatedMarketCosts i.legs) m ≠ 0 → room + bookedMarket i m ≤ cap := by
      intro live
      split at checked
      · next alone => exact absurd alone (several _ _)
      · rw [← figured]
        exact checked _ (entryOfFigure live) rfl
    by_cases idle : bookedMarket i m = 0
    · exact .inl (by omega)
    · have := listed (by rwa [figured])
      exact .inr (by omega)

theorem foldCreditKey {key : IntentLeg → String} {amount : IntentLeg → Int} {legs : List IntentLeg}
    {t : Totals String} {k}
    (mem : k ∈ legs.foldl (fun out leg => if key leg = "" then out else creditI64 out (key leg) (amount leg)) t) :
    k ∈ t ∨ ∃ leg ∈ legs, key leg = k := by
  induction legs generalizing t with
  | nil => exact .inl mem
  | cons leg rest ih =>
    rcases ih mem with old | ⟨x,there,same⟩
    · simp only at old
      split at old
      · exact .inl old
      · rcases (AList.mem_insert _).mp old with rfl | old
        · exact .inr ⟨leg,List.mem_cons_self,rfl⟩
        · exact .inl old
    · exact .inr ⟨x,List.mem_cons_of_mem leg there,same⟩
theorem marketGrantOther {i input m} (none : ∀ leg ∈ i.legs, leg.marketId ≠ m) :
    marketGrant i input m ≤ bookedMarket i m := by
  have nonneg : 0 ≤ bookedMarket i m := legSumNonneg (fun _ _ => le_max_right _ _) m
  unfold marketGrant
  split
  · next only v alone =>
    split
    · next same =>
      have key : only ∈ estimatedMarketCosts i.legs := by
        have here : (only,v) ∈ entries (estimatedMarketCosts i.legs) := by
          rw [alone]; exact List.mem_singleton_self _
        exact entryKey here
      rcases foldCreditKey key with empty | ⟨leg,mem,theirs⟩
      · exact absurd empty (AList.notMem_empty only)
      · exact absurd (theirs.trans same) (none leg mem)
    · exact nonneg
  · rw [legSumOther none]
    exact nonneg

theorem marketGrantable {policy e log op m} (ok : Consistent e.reservations) (covered : Covered policy e log op)
    (total : 0 < policy.maxTotalExposureTick) (capped : 0 < policy.maxSingleMarketExposureTick) (named : m ≠ "") :
    Grantable (fun r => Tally.total (amounts r.markets) m) policy.maxSingleMarketExposureTick
      (marketCostGrant e.runtime m) e op := by
  intro input i r view intent checked cost given
  have priced := pricedViewOf view
  have expired := expireOldConsistent ok input.nowNs
  have few := (validatorPass checked.validator).2.2.2.2
  have fits := countedSums covered.2.1 view intent checked
  have value : marketCostGrant e.runtime m op r =
      marketGrant i (pipelineView e (expireOld e.reservations input.nowNs) input) m := by
    rw [marketCostGrant,priced,given]
    rfl
  have within : marketGrant i
    (pipelineView e (expireOld e.reservations input.nowNs) input) m ≤ bookedMarket i m := by
    by_cases some : ∃ leg ∈ i.legs, leg.marketId = m
    · obtain ⟨leg,mem,rfl⟩ := some
      exact (covered.2.2 _ priced i intent checked.cost).2 leg mem named
    · exact marketGrantOther fun leg mem same => some ⟨leg,mem,same⟩
  have nonneg : 0 ≤ bookedMarket i m := legSumNonneg (fun _ _ => le_max_right _ _) m
  have track : shouldTrackReservationLedgerDetail (opPolicy e.runtime op) = true := by
    rw [(covered.1 input view).2.2]
    simp [shouldTrackReservationLedgerDetail,total]
  rw [value,track]
  refine ⟨?_,marketGrantRoom named (bookedFits fits named) within fun c mem same => ?_⟩
  · exact (max_le within nonneg).trans (le_of_eq (bookedMarkets input.nowNs few named).symm)
  · have room := (exposureChecked covered.1 view expired checked fits).2 capped c mem
    rw [same] at room
    exact room

structure ExposureHeld (policy : RiskPolicySnapshot) (runtime : RiskRuntimeContext) (e : RiskEngine)
    (log : EngineLog) :
    Prop where
  context : e.runtime = runtime
  book : Consistent e.reservations
  total : CapHeld (·.reservedExposureTick) policy.maxTotalExposureTick e.reservations (grantsOf costGrant log)
  market : 0 < policy.maxSingleMarketExposureTick → ∀ m ≠ "",
    CapHeld (fun r => Tally.total (amounts r.markets) m) policy.maxSingleMarketExposureTick e.reservations
      (grantsOf (marketCostGrant runtime m) log)

theorem contextKept (e op) : (engineStep e op).1.runtime = e.runtime := by
  have stepped := engineStepStepped e op
  generalize engineStep e op = out at *
  obtain ⟨e',answer⟩ := out
  cases stepped <;> rfl

theorem exposureStep {policy runtime} (capped : 0 < policy.maxTotalExposureTick) (e log op)
    (held : ExposureHeld policy runtime e log) (covered : Covered policy e log op) :
    ExposureHeld policy runtime (engineStep e op).1 (log ++ [(op,(engineStep e op).2)]) := by
  refine ⟨(contextKept e op).trans held.context,engineConsistent held.book,?_,fun single m named => ?_⟩
  · exact capStep held.book held.total (costGrantable held.book covered capped)
  · have grantable := marketGrantable held.book covered capped single named
    rw [held.context] at grantable
    exact capStep held.book (held.market single m named) grantable

def pricedIntent (hash : UInt64) (estimate bundles : Int) : OpportunityIntent :=
  {losingIntent (100 * bundles) with
    idempotencyHash := hash
    estimatedCostTick := estimate
    bundleQty := bundles
    legs := [{marketId := "m", assetId := "a", quantityLots := 1, estimatedCostTick := estimate}]}
def evaluatePriced (policy : RiskPolicySnapshot) (i : OpportunityIntent) : EngineOp :=
  .evaluate i {nowNs := 10, latestSnapshots := [askBook tenLots], policy}
def exposurePolicy : RiskPolicySnapshot :=
  {maxTotalExposureTick := 100, maxSingleMarketExposureTick := 100, maxAllowedCostDriftTick := 100}

def lotGrant (assetId : String) (_ : EngineOp) (r : RiskPipelineResult) : Int :=
  plannedLots r.approvedIntent.intent.bundleQty r.approvedIntent.intent.legs assetId

def SingleBundle (policy : RiskPolicySnapshot) (e : RiskEngine) (_ : EngineLog) (op : EngineOp) : Prop :=
  OwnLedger policy e op ∧ Counted e op ∧ ∀ input ∈ evaluatedView e op, ∀ i ∈ input.intent, i.bundleQty ≤ 1
instance (policy e log op) : Decidable (SingleBundle policy e log op) := by
  unfold SingleBundle
  infer_instance

theorem plannedOne (legs a) : plannedLots 1 legs a = legSum (·.assetId) (·.quantityLots) legs a := by
  simp [plannedLots,legSum]

theorem inventoryChecked {policy e op input i b a} (own : OwnLedger policy e op)
    (view : evaluatedView e op = some input)
    (ok : Consistent b) (fine : AssetConsistent a b) (checked : Checked i (pipelineView e b input))
    (capped : 0 < policy.maxInventoryLotsPerAsset)
    (fits : InI64 (figure (snapshot b).reservedAssetLots a + figure (incomingLots i.legs) a))
    (live : figure (incomingLots i.legs) a ≠ 0) :
    activeSum (fun r => total (amounts r.assets) a) b.reservations + figure (incomingLots i.legs) a ≤
      policy.maxInventoryLotsPerAsset := by
  have pass := inventoryGuardPass checked.inventory (by rwa [ownPolicy own view]) _ (entryOfFigure live)
  rw [ownSnapshot own view,ownPolicy own view] at pass
  rw [← (snapshotFigures ok).2.2 a fine,← wrapExact fits]
  exact pass

theorem lotGrantable {policy e log op a} (ok : Consistent e.reservations) (fine : AssetConsistent a e.reservations)
    (single : SingleBundle policy e log op) (capped : 0 < policy.maxInventoryLotsPerAsset) :
    Grantable (fun r => total (amounts r.assets) a) policy.maxInventoryLotsPerAsset (lotGrant a) e op := by
  intro input i r view intent checked _ given
  have bundles : i.bundleQty = 1 := by
    have positive := (validatorPass checked.validator).1
    have few := single.2.2 input view i intent
    omega
  have fits := countedSums single.2.1 view intent checked
  have few := (validatorPass checked.validator).2.2.2.2
  have legs := revalidatedLegs checked.cost
  have track : shouldTrackReservationLedgerDetail (opPolicy e.runtime op) = true := by
    rw [(single.1 input view).2.2]
    simp [shouldTrackReservationLedgerDetail,capped]
  have value : lotGrant a op r = legSum (·.assetId) (·.quantityLots) i.legs a := by
    rw [lotGrant,given,bundles,plannedOne]
  have nonneg : 0 ≤ legSum (·.assetId) (·.quantityLots) i.legs a :=
    legSumNonneg (fun leg mem => le_of_lt (legs leg mem).2) a
  rw [value,track,max_eq_left nonneg]
  by_cases named : a = ""
  · have none : legSum (·.assetId) (·.quantityLots) i.legs a = 0 :=
      legSumOther fun leg mem same => (legs leg mem).1 (same.trans named)
    have figures : ∀ f ∈ (buildReservation i input.nowNs true).assets, f.id = a → 0 ≤ f.amount :=
      buildAssetsNonneg (fun _ leg mem _ => le_of_lt (legs leg mem).2) input.nowNs
    rw [none]
    refine ⟨totalNonneg ?_,.inl le_rfl⟩
    intro entry mem own
    obtain ⟨f,there,rfl⟩ := List.mem_map.mp mem
    exact figures f there own
  · refine ⟨le_of_eq (bookedAssets input.nowNs few named).symm,?_⟩
    have clipped : incomingAsset i a = legSum (·.assetId) (·.quantityLots) i.legs a := by
      refine le_antisymm ?_ (legSumMono (fun leg _ => le_max_left _ _) a)
      exact legSumMono (fun leg mem => le_of_eq (max_eq_left (le_of_lt (legs leg mem).2))) a
    have figured : figure (incomingLots i.legs) a = incomingAsset i a :=
      (foldCreditFigure (·.assetId) (fun leg => max leg.quantityLots 0) named (fun _ _ => le_max_right _ _) le_rfl
        (by rw [figureEmpty,Int.zero_add]; exact incomingFits fits named)).trans (Int.zero_add _)
    by_cases live : figure (incomingLots i.legs) a = 0
    · exact .inl (by omega)
    · right
      rw [← clipped,← figured]
      refine inventoryChecked single.1 view (expireOldConsistent ok _)
        (expireOldAsset ok fine _) checked capped ?_ live
      rw [figured] at live ⊢
      obtain ⟨leg,mem,same⟩ : ∃ leg ∈ i.legs, leg.assetId = a := by
        by_contra none
        exact live (legSumOther fun leg mem same => none ⟨leg,mem,same⟩)
      rw [← same] at named ⊢
      exact (fits.assets leg mem named).2

structure InventoryHeld (policy : RiskPolicySnapshot) (e : RiskEngine) (log : EngineLog) : Prop where
  book : Consistent e.reservations
  assets : ∀ a, AssetConsistent a e.reservations
  lots : ∀ a, CapHeld (fun r => total (amounts r.assets) a) policy.maxInventoryLotsPerAsset e.reservations
    (grantsOf (lotGrant a) log)

theorem inventoryStep {policy} (capped : 0 < policy.maxInventoryLotsPerAsset) (e log op)
    (held : InventoryHeld policy e log) (single : SingleBundle policy e log op) :
    InventoryHeld policy (engineStep e op).1 (log ++ [(op,(engineStep e op).2)]) := by
  refine ⟨engineConsistent held.book,fun a => engineAsset held.book (held.assets a),fun a => ?_⟩
  exact capStep held.book (held.lots a) (lotGrantable held.book (held.assets a) single capped)

theorem inventoryCapHolds (runtime : RiskRuntimeContext) (policy : RiskPolicySnapshot) (ops : List EngineOp)
    (capped : 0 < policy.maxInventoryLotsPerAsset)
    (single : Machine.Along engineStep (SingleBundle policy) {runtime} [] ops) (assetId : String) :
    grantedSum (grantsOf (lotGrant assetId) (runEngine runtime ops).2)
      (runEngine runtime ops).1.reservations.reservations ≤ policy.maxInventoryLotsPerAsset ∧
    ∀ envelope nowNs config plan, envelope.approval.approvedBundleQty = envelope.sourceIntent.bundleQty →
      buildPlan envelope nowNs config = .ok plan → orderedLots plan.orders assetId =
        plannedLots envelope.sourceIntent.bundleQty envelope.sourceIntent.legs assetId := by
  have start : InventoryHeld policy {runtime} [] :=
    ⟨initial,initialAsset,fun a => capInitial (by omega)⟩
  have held : InventoryHeld policy (runEngine runtime ops).1 (runEngine runtime ops).2 :=
    Machine.invariantAlong (inventoryStep capped) start single
  refine ⟨(grantedLeCharged ..).trans (held.lots assetId).capped,?_⟩
  intro envelope nowNs config plan same built
  rw [buildPlanLots built,same]

def inventoryPolicy : RiskPolicySnapshot := {maxInventoryLotsPerAsset := 3}

theorem oneBundleInventoryCapped :
    grantedSum (grantsOf (lotGrant "a") (runEngine {} [evaluatePriced inventoryPolicy (pricedIntent 1 60 1)]).2)
      (runEngine {} [evaluatePriced inventoryPolicy (pricedIntent 1 60 1)]).1.reservations.reservations ≤ 3 :=
  (inventoryCapHolds {} inventoryPolicy _ (by decide) (by decide +kernel) "a").1

-- Five bundles of one lot: the guard counts one lot against the cap of three, the plan orders five.
theorem fiveBundlesOverCap :
    ¬ ∀ runtime policy ops assetId, 0 < policy.maxInventoryLotsPerAsset →
      Machine.Along engineStep (fun e _ op => OwnLedger policy e op) {runtime} [] ops →
      grantedSum (grantsOf (lotGrant assetId) (runEngine runtime ops).2)
        (runEngine runtime ops).1.reservations.reservations ≤ policy.maxInventoryLotsPerAsset := by
  intro claimed
  have capped := claimed {} inventoryPolicy [evaluatePriced inventoryPolicy (pricedIntent 1 300 5)] "a" (by decide)
    (by decide +kernel)
  revert capped
  decide +kernel

end Polytope.RiskCaps
