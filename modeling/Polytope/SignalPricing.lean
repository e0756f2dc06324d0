import Polytope.FixedShapeKernel
import Polytope.CombinatorialBundles
import Polytope.Machine

/-! VWAPPrecheck: what Signal takes a bundle to cost. A bundle is priced on snapshots looked up by asset id, or a
runtime plan on a snapshot batch or on depth views looked up by asset index. The three bodies are one here,
over the book each leg was found with; the order of their checks is kept. Stage timings and the book age,
which is always zero, are not modelled. -/
namespace Polytope.SignalPricing
open FixedPointMath MarketDepth
open FixedShapeKernel (bestAskFromPrefix)
open Intent (kMaxIntentLegs)
open CombinatorialBundles (Side BundleLeg CandidateBundle hashCandidateBundle)

inductive ExecutableBookSide where | bids | asks | unsupported
  deriving DecidableEq, Repr
def resolveSide : Side → ExecutableBookSide
  | .buy => .asks
  | .sell => .unsupported

inductive CostFailureReason where
  | none | missingSnapshot | missingBookSide | insufficientDepth | invalidQuantity | invalidLeg
  deriving DecidableEq, Repr
structure FillSimulationLeg where
  assetId : String := ""
  requestedQtyLots : Int := 0
  executableQtyLots : Int := 0
  vwapPriceTick : Int := 0
  totalCostTick : Int := 0
  worstPriceTick : Int := 0
  enoughDepth : Bool := false
  deriving DecidableEq, Repr
structure CostResult where
  executable : Bool := false
  bundleQty : Int := 0
  totalCostTick : Int := 0
  avgCostTick : Int := 0
  maxLegSlippageTick : Int := 0
  failureReason : CostFailureReason := .none
  fixedLegs : List FillSimulationLeg := []
  legs : List FillSimulationLeg := []
  deriving DecidableEq, Repr
def failure (reason : CostFailureReason) : CostResult := {failureReason := reason}
def costLegs (cost : CostResult) : List FillSimulationLeg :=
  if cost.fixedLegs ≠ [] then cost.fixedLegs else cost.legs.take kMaxIntentLegs

/-! Runtime plans. -/

structure RuntimeLeg where
  marketId : Option String := none
  assetId : Option String := none
  assetIndex : Nat := 0
  side : Side := .buy
  executableSide : ExecutableBookSide := .bids
  ratioQtyLots : Int := 0
  maxPriceTick : Int := 0
  deriving DecidableEq
structure BundleRuntimePlan where
  bundle : Option CandidateBundle := none
  bundleId : Nat := 0
  bundleHash : UInt64 := 0
  oracleArtifactHash : UInt64 := 0
  constraintHash : UInt64 := 0
  legs : List RuntimeLeg := []
  uniqueAssets : List (String × Nat) := []
  guaranteedPayoutTick : Int := 0
  minUnitEdgeTick : Int := 0
  minTotalEdgeTick : Int := 0
  minEdgeBps : Int := 0
  deriving DecidableEq

-- The index of an asset: how many other assets were met before it. The source keeps it in 32 bits, more assets
-- than it can hold.
def assetIndexOf (seen : List String) (assetId : String) : Nat := seen.idxOf assetId
def noteAsset (seen : List String) (assetId : String) : List String :=
  if assetId ∈ seen then seen else seen ++ [assetId]
def runtimeLeg (seen : List String) (leg : BundleLeg) : RuntimeLeg :=
  { marketId := some leg.marketId
    assetId := some leg.assetId
    assetIndex := assetIndexOf seen leg.assetId
    side := leg.side
    executableSide := resolveSide leg.side
    ratioQtyLots := leg.quantityLots
    maxPriceTick := leg.maxPriceTick }
def noteUnique (unique : List (String × Nat)) (assetId : String) (index : Nat) : List (String × Nat) :=
  if unique.any (fun entry => entry.2 == index) || decide (kMaxIntentLegs ≤ unique.length) then unique
  else unique ++ [(assetId,index)]
def runtimeLegs : List String → List (String × Nat) → List BundleLeg →
    List String × List (String × Nat) × List RuntimeLeg
  | seen,unique,[] => (seen,unique,[])
  | seen,unique,leg::rest =>
    let seen := noteAsset seen leg.assetId
    let made := runtimeLeg seen leg
    let (seen,unique,later) := runtimeLegs seen (noteUnique unique leg.assetId made.assetIndex) rest
    (seen,unique,made::later)
def runtimePlan (seen : List String) (artifactHash constraintHash : UInt64) (bundle : CandidateBundle) :
    List String × BundleRuntimePlan :=
  let (seen,uniqueAssets,legs) := runtimeLegs seen [] (bundle.legs.take kMaxIntentLegs)
  (seen,{ bundle := some bundle
          bundleId := bundle.bundleId
          bundleHash := hashCandidateBundle bundle
          oracleArtifactHash := artifactHash
          constraintHash, legs, uniqueAssets
          guaranteedPayoutTick := bundle.guaranteedPayoutTick
          minUnitEdgeTick := bundle.minEdgeTick
          minTotalEdgeTick := bundle.minEdgeTick })
def plansFrom (artifactHash constraintHash : UInt64) : List String → List CandidateBundle → List BundleRuntimePlan
  | _,[] => []
  | seen,bundle::rest =>
    let (seen,plan) := runtimePlan seen artifactHash constraintHash bundle
    plan::plansFrom artifactHash constraintHash seen rest
def buildRuntimePlans (bundles : List CandidateBundle) (artifactHash constraintHash : UInt64) :
    List BundleRuntimePlan :=
  plansFrom artifactHash constraintHash [] bundles
-- What the artifact reader asks of the bundles it loads.
def validateBundles (bundles : List CandidateBundle) : Bool :=
  bundles.all (fun bundle => decide (bundle.legs.length ≤ CombinatorialBundles.kMaxBundleLegs)) &&
    decide (bundles.map (·.bundleId)).Nodup

/-! One leg. -/

inductive LegBook where
  | snapshot (s : MarketStateSnapshot)
  | depth (view : MarketDepthView)
  deriving DecidableEq, Repr
def LegBook.hasAsks : LegBook → Bool
  | .snapshot s => s.hasAsk && decide (s.asks ≠ [])
  | .depth view => decide (view.asks ≠ [])

structure LegCapacity where
  leg : FillSimulationLeg := {}
  bestPriceTick : Int := 0
  deriving DecidableEq, Repr
-- An overflow leaves behind what was counted before it.
def scanLevel (out : LegCapacity) (level : PriceLevel) : Except LegCapacity LegCapacity :=
  let available := priceLevelSizeLots level
  if level.priceTick ≤ 0 ∨ available ≤ 0 then .ok out
  else
    let best := if out.bestPriceTick = 0 then level.priceTick else out.bestPriceTick
    match checkedAddI64 out.leg.executableQtyLots available with
    | none => .error ⟨out.leg,best⟩
    | some executable => .ok ⟨{out.leg with executableQtyLots := executable},best⟩
def scanLevels (asks : List PriceLevel) (out : LegCapacity) : CostFailureReason × LegCapacity :=
  match (asks.take kMaxSnapshotDepth).foldlM scanLevel out with
  | .error out => (.invalidLeg,out)
  | .ok out =>
    (.none,
      { out with
        leg := {out.leg with enoughDepth := decide (out.leg.requestedQtyLots ≤ out.leg.executableQtyLots)} })
def calculateBuyCapacity (assetId : String) (targetQtyLots : Int) (executableSide : ExecutableBookSide)
    (book : LegBook) :
    CostFailureReason × LegCapacity :=
  if targetQtyLots ≤ 0 then (.invalidQuantity,{})
  else if executableSide ≠ .asks then (.invalidLeg,{})
  else if book.hasAsks = false then (.missingBookSide,{})
  else
    let leg : FillSimulationLeg := {assetId, requestedQtyLots := targetQtyLots}
    match book with
    | .snapshot s => scanLevels s.asks ⟨leg,0⟩
    | .depth view =>
      if view.depthPrefix.asks ≠ [] then
        let executable := askDepthFromPrefix view.depthPrefix
        (.none,⟨{leg with executableQtyLots := executable, enoughDepth := decide (targetQtyLots ≤ executable)},
          bestAskFromPrefix 0 view.asks view.depthPrefix.asks⟩)
      else scanLevels view.asks ⟨leg,0⟩

def LegBook.vwap (book : LegBook) (quantityLots : Int) : VwapMathResult :=
  match book with
  | .snapshot s => buyVwapLinear (s.asks.take kMaxSnapshotDepth) quantityLots
  | .depth view =>
    if view.depthPrefix.asks ≠ [] then buyVwapPrefix view.depthPrefix view.asks quantityLots
    else buyVwapLinear (view.asks.take kMaxSnapshotDepth) quantityLots
def priceBuyLegForQuantity (assetId : String) (book : LegBook) (quantityLots : Int) (out : FillSimulationLeg) :
    CostFailureReason × FillSimulationLeg :=
  if quantityLots ≤ 0 then (.invalidQuantity,out)
  else
    let priced := book.vwap quantityLots
    if priced.ok = false then (.insufficientDepth,out)
    else (.none,{out with
      assetId
      totalCostTick := priced.totalCostTick
      vwapPriceTick := priced.vwapTick
      worstPriceTick := priced.worstPriceTick
      enoughDepth := true})

/-! All legs. -/

structure LegInput where
  assetId : String
  ratio : Int
  executableSide : ExecutableBookSide
  book : LegBook
  deriving DecidableEq, Repr
structure LegWork where
  input : LegInput
  capacity : LegCapacity
  deriving DecidableEq, Repr

-- A leg whose book was not found fails the result as a whole, an unusable book keeps the legs so far.
def capacityLoop : CostResult → List (Except CostFailureReason LegInput) →
    Except CostResult (CostResult × List LegWork)
  | result,[] => .ok (result,[])
  | _,.error reason::_ => .error (failure reason)
  | result,.ok input::rest =>
    let (reason,capacity) := calculateBuyCapacity input.assetId input.ratio input.executableSide input.book
    let result := {result with legs := result.legs ++ [capacity.leg]}
    if reason ≠ .none then .error {result with failureReason := reason} else do
      let (result,later) ← capacityLoop result rest
      .ok (result,⟨input,capacity⟩::later)
def quantityLoop : CostResult → List FillSimulationLeg → Except CostResult CostResult
  | result,[] => .ok result
  | result,leg::rest =>
    if leg.enoughDepth = false ∨ leg.requestedQtyLots ≤ 0 then
      .error {result with failureReason := .insufficientDepth}
    else
      quantityLoop
        {result with bundleQty := min result.bundleQty (leg.executableQtyLots.tdiv leg.requestedQtyLots)} rest
def priceLoop : CostResult → Int → Nat → List LegWork → Except CostResult (CostResult × Int)
  | result,totalBundleLots,_,[] => .ok (result,totalBundleLots)
  | result,totalBundleLots,index,work::rest =>
    match checkedMulI64 work.input.ratio result.bundleQty with
    | none => .error (failure .invalidQuantity)
    | some plannedQtyLots =>
      let (reason,priced) := priceBuyLegForQuantity work.input.assetId work.input.book plannedQtyLots
        work.capacity.leg
      let legs := result.legs.set index priced
      if reason ≠ .none then .error {result with failureReason := reason, legs}
      else match checkedAddI64 result.totalCostTick priced.totalCostTick with
        | none => .error (failure .invalidLeg)
        | some totalCostTick =>
          match checkedAddI64 totalBundleLots plannedQtyLots with
          | none => .error (failure .invalidQuantity)
          | some totalBundleLots =>
            priceLoop {result with
              legs, totalCostTick
              maxLegSlippageTick := max result.maxLegSlippageTick
                (priced.worstPriceTick - work.capacity.bestPriceTick)}
              totalBundleLots (index + 1) rest
def priceInputs (inputs : List (Except CostFailureReason LegInput)) : Except CostResult CostResult := do
  let (result,work) ← capacityLoop {} inputs
  let result ← quantityLoop {result with bundleQty := i64Max} result.legs
  if result.bundleQty ≤ 0 ∨ result.bundleQty = i64Max then
    .error {result with failureReason := .insufficientDepth}
  else do
    let (result,totalBundleLots) ← priceLoop result 0 0 work
    if totalBundleLots ≤ 0 then .error (failure .invalidQuantity)
    else .ok {result with
      avgCostTick := ceilDivPositive result.totalCostTick result.bundleQty
      executable := true
      failureReason := .none}

/-! The three entry points. -/

def priceVectorLeg (snapshots : List MarketStateSnapshot) (leg : BundleLeg) : Except CostFailureReason LegInput :=
  if leg.assetId = "" ∨ leg.marketId = "" then .error .invalidLeg
  else if leg.quantityLots ≤ 0 then .error .invalidQuantity
  else if resolveSide leg.side = .unsupported then .error .invalidLeg
  else match snapshots.find? fun s => decide (s.entityId = leg.assetId) with
    | none => .error .missingSnapshot
    | some s => .ok ⟨leg.assetId,leg.quantityLots,resolveSide leg.side,.snapshot s⟩
def priceVector (bundle : CandidateBundle) (snapshots : List MarketStateSnapshot) :
    Except CostFailureReason (List LegInput) :=
  if bundle.legs.length = 0 ∨ kMaxIntentLegs < bundle.legs.length then .error .invalidLeg
  else bundle.legs.mapM (priceVectorLeg snapshots)
def priceBundle (bundle : CandidateBundle) (snapshots : List MarketStateSnapshot) : CostResult :=
  match priceVector bundle snapshots with
  | .error reason => failure reason
  | .ok inputs => Machine.settled (priceInputs (inputs.map .ok))

structure SnapshotBatchReadResult where
  ok : Bool := false
  snapshots : List MarketStateSnapshot := []
  deriving DecidableEq, Repr
structure DepthReadResult where
  ok : Bool := false
  depthViews : List MarketDepthView := []
  deriving DecidableEq, Repr
def planInput (find : String → RuntimeLeg → Option LegBook) (leg : RuntimeLeg) :
    Except CostFailureReason LegInput :=
  match leg.assetId with
  | none => .error .invalidLeg
  | some assetId =>
    match find assetId leg with
    | none => .error .missingSnapshot
    | some book => .ok ⟨assetId,leg.ratioQtyLots,leg.executableSide,book⟩
def pricePlan (plan : BundleRuntimePlan) (ok : Bool) (find : String → RuntimeLeg → Option LegBook) : CostResult :=
  if plan.bundle = none ∨ plan.legs.length = 0 ∨ kMaxIntentLegs < plan.legs.length ∨ ok = false then
    failure .invalidLeg
  else
    let result := Machine.settled (priceInputs (plan.legs.map (planInput find)))
    {result with fixedLegs := result.legs, legs := []}
def snapshotForAsset (snapshots : List MarketStateSnapshot) (assetId : String) (_ : RuntimeLeg) : Option LegBook :=
  (snapshots.find? fun s => decide (s.entityId = assetId)).map .snapshot
def depthForAsset (depthViews : List MarketDepthView) (_ : String) (leg : RuntimeLeg) : Option LegBook :=
  (depthViews.find? fun view => decide (view.assetIndex = leg.assetIndex)).map .depth
def priceRuntimePlanSnapshots (plan : BundleRuntimePlan) (snapshots : SnapshotBatchReadResult) : CostResult :=
  pricePlan plan snapshots.ok (snapshotForAsset snapshots.snapshots)
def priceRuntimePlanDepth (plan : BundleRuntimePlan) (depth : DepthReadResult) : CostResult :=
  pricePlan plan depth.ok (depthForAsset depth.depthViews)

/-! What an executable result holds. -/

structure Capable (work : LegWork) : Prop where
  ratio : 0 < work.input.ratio
  side : work.input.executableSide = .asks
  asks : work.input.book.hasAsks = true
  capacity : calculateBuyCapacity work.input.assetId work.input.ratio work.input.executableSide
    work.input.book = (.none,work.capacity)
theorem capable {input capacity}
    (found : calculateBuyCapacity input.assetId input.ratio input.executableSide input.book =
      (.none,capacity)) :
    Capable ⟨input,capacity⟩ := by
  have found' := found
  unfold calculateBuyCapacity at found
  split at found
  · cases found
  next ratio =>
  split at found
  · cases found
  next side =>
  split at found
  · cases found
  next asks =>
  exact ⟨by simp only; omega,not_ne_iff.mp side,by simpa using asks,found'⟩
theorem capacityWork {result out : CostResult} {works} {inputs : List (Except CostFailureReason LegInput)}
    (done : capacityLoop result inputs = .ok (out,works)) : inputs = works.map (fun work => .ok work.input) ∧
      (∀ work ∈ works, Capable work) ∧
      out = {result with legs := result.legs ++ works.map fun work => work.capacity.leg} := by
  induction inputs generalizing result works with
  | nil =>
    cases done
    refine ⟨rfl,fun work mem => (by cases mem),?_⟩
    rw [List.map_nil,List.append_nil]
  | cons input rest ih =>
    cases input with
    | error reason => cases done
    | ok input =>
      unfold capacityLoop at done
      cases found : calculateBuyCapacity input.assetId input.ratio input.executableSide input.book with
      | mk reason capacity =>
      rw [found] at done
      simp only at done
      obtain ⟨fine,done⟩ := Machine.guardOk done
      obtain ⟨⟨out',later⟩,looped,done⟩ := Machine.bindOk.mp done
      cases done
      obtain ⟨rfl,each,same⟩ := ih looped
      rw [not_ne_iff.mp fine] at found
      refine ⟨rfl,List.forall_mem_cons.mpr ⟨capable found,each⟩,?_⟩
      rw [same,List.map_cons,List.append_assoc]
      rfl

def minimum (start : Int) (works : List LegWork) : Int :=
  works.foldl (fun qty work =>
    min qty (work.capacity.leg.executableQtyLots.tdiv work.capacity.leg.requestedQtyLots)) start
theorem quantityWork {works : List LegWork} {result out : CostResult}
    (done : quantityLoop result (works.map fun work => work.capacity.leg) = .ok out) :
    (∀ work ∈ works, work.capacity.leg.enoughDepth = true) ∧
      out = {result with bundleQty := minimum result.bundleQty works} := by
  induction works generalizing result with
  | nil =>
    cases done
    exact ⟨fun work mem => (by cases mem),rfl⟩
  | cons work rest ih =>
    rw [List.map_cons,quantityLoop] at done
    obtain ⟨fine,done⟩ := Machine.guardOk done
    obtain ⟨each,same⟩ := ih done
    rw [not_or] at fine
    refine ⟨List.forall_mem_cons.mpr ⟨by simpa using fine.1,each⟩,?_⟩
    rw [same]
    rfl

-- A leg priced for q bundles.
def PricedAt (q : Int) (work : LegWork) (leg : FillSimulationLeg) : Prop :=
  (work.input.book.vwap (work.input.ratio * q)).ok = true ∧
  leg = {work.capacity.leg with
    assetId := work.input.assetId
    totalCostTick := (work.input.book.vwap (work.input.ratio * q)).totalCostTick
    vwapPriceTick := (work.input.book.vwap (work.input.ratio * q)).vwapTick
    worstPriceTick := (work.input.book.vwap (work.input.ratio * q)).worstPriceTick
    enoughDepth := true}
theorem pricedAt {assetId book q out leg} (priced : priceBuyLegForQuantity assetId book q out = (.none,leg)) :
    (book.vwap q).ok = true ∧ leg = {out with
      assetId
      totalCostTick := (book.vwap q).totalCostTick
      vwapPriceTick := (book.vwap q).vwapTick
      worstPriceTick := (book.vwap q).worstPriceTick
      enoughDepth := true} := by
  unfold priceBuyLegForQuantity at priced
  split at priced
  · cases priced
  simp only at priced
  split at priced
  · cases priced
  next ok =>
  cases priced
  exact ⟨by simpa using ok,rfl⟩

structure LegsPriced (start : CostResult) (works : List LegWork) (done : List FillSimulationLeg)
    (out : CostResult) : Prop where
  legs : ∃ priced, out.legs = done ++ priced ∧ List.Forall₂ (PricedAt start.bundleQty) works priced ∧
    out.totalCostTick = start.totalCostTick + (priced.map FillSimulationLeg.totalCostTick).sum
  qty : out.bundleQty = start.bundleQty
  fixed : out.fixedLegs = start.fixedLegs
  fits : InI64 start.totalCostTick → InI64 out.totalCostTick
theorem priceWork {works : List LegWork} {result out : CostResult} {lots lots' : Int}
    {done : List FillSimulationLeg}
    (legs : result.legs = done ++ works.map fun work => work.capacity.leg)
    (looped : priceLoop result lots done.length works = .ok (out,lots')) : LegsPriced result works done out := by
  induction works generalizing result lots done with
  | nil =>
    cases looped
    exact ⟨⟨[],legs,.nil,by simp⟩,rfl,rfl,id⟩
  | cons work rest ih =>
    unfold priceLoop at looped
    split at looped
    · cases looped
    next planned product =>
    obtain ⟨_,rfl⟩ := checkedMulExact.mp product
    cases found : priceBuyLegForQuantity work.input.assetId work.input.book
      (work.input.ratio * result.bundleQty) work.capacity.leg with
    | mk reason priced =>
    rw [found] at looped
    simp only at looped
    obtain ⟨fine,looped⟩ := Machine.guardOk looped
    split at looped
    · cases looped
    next total sum =>
    split at looped
    · cases looped
    obtain ⟨fits,rfl⟩ := checkedAddExact.mp sum
    rw [not_ne_iff.mp fine] at found
    have set : result.legs.set done.length priced = (done ++ [priced]) ++ rest.map fun work =>
      work.capacity.leg := by
      rw [legs,List.map_cons,List.set_append_right _ _
        (le_refl _),Nat.sub_self,List.set_cons_zero,List.append_assoc]
      rfl
    have length : done.length + 1 = (done ++ [priced]).length := by simp
    rw [length] at looped
    obtain ⟨⟨later,same,each,total⟩,qty,fixed,small⟩ := ih set looped
    refine ⟨⟨priced::later,?_,.cons (pricedAt found) each,?_⟩,qty,fixed,fun _ => small fits⟩
    · rw [same,List.append_assoc]
      rfl
    · rw [total,List.map_cons,List.sum_cons,Int.add_assoc]

structure Executed (inputs : List (Except CostFailureReason LegInput)) (out : CostResult)
    (works : List LegWork) : Prop where
  inputs : inputs = works.map fun work => .ok work.input
  capable : ∀ work ∈ works, Capable work
  enough : ∀ work ∈ works, work.capacity.leg.enoughDepth = true
  qty : out.bundleQty = minimum i64Max works
  some : 0 < out.bundleQty
  bounded : out.bundleQty ≠ i64Max
  legs : List.Forall₂ (PricedAt out.bundleQty) works out.legs
  total : out.totalCostTick = (out.legs.map FillSimulationLeg.totalCostTick).sum
  fits : InI64 out.totalCostTick
  average : out.avgCostTick = ceilDivPositive out.totalCostTick out.bundleQty
  fixed : out.fixedLegs = []
theorem executed {inputs out} (priced : priceInputs inputs = .ok out) : ∃ works, Executed inputs out works := by
  unfold priceInputs at priced
  obtain ⟨⟨first,works⟩,capacities,priced⟩ := Machine.bindOk.mp priced
  obtain ⟨same,each,rfl⟩ := capacityWork capacities
  obtain ⟨second,quantity,priced⟩ := Machine.bindOk.mp priced
  simp only [List.nil_append] at quantity
  obtain ⟨enough,rfl⟩ := quantityWork quantity
  obtain ⟨fine,priced⟩ := Machine.guardOk priced
  rw [not_or,not_le] at fine
  obtain ⟨⟨third,lots⟩,looped,priced⟩ := Machine.bindOk.mp priced
  obtain ⟨⟨legs,made,prices,total⟩,qty,fixed,fits⟩ := @priceWork _ _ _ _ _ [] rfl looped
  obtain ⟨_,priced⟩ := Machine.guardOk priced
  cases priced
  rw [List.nil_append] at made
  have zero : InI64 0 := by decide
  refine ⟨works,same,each,enough,qty,?_,?_,?_,?_,fits zero,rfl,fixed⟩
  · exact qty ▸ fine.1
  · exact qty ▸ fine.2
  · simp only [made]
    exact qty ▸ prices
  · simp only [made]
    rw [total]
    exact Int.zero_add _

/-! Nothing is executable before the last step. -/

def Idle {α : Type} (kept : α → CostResult) (x : Except CostResult α) : Prop :=
  (∀ out, x = .ok out → (kept out).executable = false) ∧ ∀ out, x = .error out → out.executable = false
theorem idleOk {α : Type} {kept : α → CostResult} {out : α} (idle : (kept out).executable = false) :
    Idle kept (.ok out) := by
  refine ⟨fun other same => ?_,fun other same => (by cases same)⟩
  cases same
  exact idle
theorem idleError {α : Type} {kept : α → CostResult} {out : CostResult} (idle : out.executable = false) :
    Idle kept (.error out) := by
  refine ⟨fun other same => (by cases same),fun other same => ?_⟩
  cases same
  exact idle
theorem idleBind {α β : Type} {kept : α → CostResult} {kept' : β → CostResult} {x : Except CostResult α}
    {f : α → Except CostResult β}
    (first : Idle kept x) (later : ∀ out, (kept out).executable = false → Idle kept' (f out)) :
    Idle kept' (x >>= f) := by
  cases x with
  | error out => exact idleError (first.2 out rfl)
  | ok out => exact later out (first.1 out rfl)
theorem capacityIdle {inputs : List (Except CostFailureReason LegInput)} {result : CostResult}
    (idle : result.executable = false) :
    Idle Prod.fst (capacityLoop result inputs) := by
  induction inputs generalizing result with
  | nil => exact idleOk idle
  | cons input rest ih =>
    cases input with
    | error reason => exact idleError rfl
    | ok input =>
      unfold capacityLoop
      simp only
      split
      · exact idleError idle
      · exact idleBind (ih idle) fun out kept => idleOk kept
theorem quantityIdle {legs : List FillSimulationLeg} {result : CostResult} (idle : result.executable = false) :
    Idle id (quantityLoop result legs) := by
  induction legs generalizing result with
  | nil => exact idleOk idle
  | cons leg rest ih =>
    unfold quantityLoop
    split
    · exact idleError idle
    · exact ih idle
theorem priceIdle {works : List LegWork} {result : CostResult} {lots : Int} {index : Nat}
    (idle : result.executable = false) :
    Idle Prod.fst (priceLoop result lots index works) := by
  induction works generalizing result lots index with
  | nil => exact idleOk idle
  | cons work rest ih =>
    unfold priceLoop
    split
    · exact idleError rfl
    simp only
    split
    · exact idleError idle
    split
    · exact idleError rfl
    split
    · exact idleError rfl
    · exact ih idle
theorem pricedIdle {inputs : List (Except CostFailureReason LegInput)} {out}
    (stopped : priceInputs inputs = .error out) :
    out.executable = false := by
  unfold priceInputs at stopped
  rcases Machine.bindError.mp stopped with first | ⟨⟨result,work⟩,first,stopped⟩
  · exact (capacityIdle rfl).2 out first
  have idle : result.executable = false := (capacityIdle rfl).1 _ first
  have quantity : Idle id (quantityLoop {result with bundleQty := i64Max} result.legs) := quantityIdle idle
  rcases Machine.bindError.mp stopped with second | ⟨result',second,stopped⟩
  · exact quantity.2 out second
  have idle' : result'.executable = false := quantity.1 _ second
  rcases Machine.guardError stopped with same | stopped
  · rw [← same]
    exact idle'
  rcases Machine.bindError.mp stopped with third | ⟨⟨result'',lots⟩,third,stopped⟩
  · exact (priceIdle idle').2 out third
  rcases Machine.guardError stopped with same | stopped
  · rw [← same]
    rfl
  · cases stopped
theorem executedSettled {inputs : List (Except CostFailureReason LegInput)}
    (ran : (Machine.settled (priceInputs inputs)).executable = true) :
    priceInputs inputs = .ok (Machine.settled (priceInputs inputs)) := by
  cases priced : priceInputs inputs with
  | ok out => rfl
  | error out =>
    have idle := pricedIdle priced
    rw [priced] at ran
    change out.executable = true at ran
    rw [idle] at ran
    cases ran

end Polytope.SignalPricing
