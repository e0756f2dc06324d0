import Mathlib.Data.List.Induction
import Polytope.PaperTrading

/-! Whose book a position or a filled order is marked from. Marks are found by index, snapshots come by
asset id, and a snapshot whose asset no plan has named goes to index 0. -/
namespace Polytope.PaperMarks
open ExecutionTypes PaperAccounting MarketDepth PaperTrading

def state (startingCashTick : Int) (inputs : List PaperInput) : PaperTradingEngine :=
  (Machine.run engineStep (started startingCashTick) [] inputs).1
theorem stateSnoc (startingCashTick before input) :
    state startingCashTick (before ++ [input]) = (engineStep (state startingCashTick before) input).1 := by
  unfold state
  rw [Machine.runAppend]
  rfl

/-! The asset ids plans name with an index, and the latest snapshot of an asset. -/

def planNames (orders : List ChildOrder) : List (String × Nat) :=
  (orders.filter fun order => order.assetId ≠ "").map fun order => (order.assetId,order.assetIndex)
def named : PaperInput → List (String × Nat)
  | .orderPlan plan => planNames plan.orders
  | .executionReport _ | .markSnapshot _ | .observation => []
def namings (inputs : List PaperInput) : List (String × Nat) := inputs.flatMap named
def snapshotOf (assetId : String) : PaperInput → Option MarketStateSnapshot
  | .markSnapshot snapshot => if snapshot.entityId = assetId then some snapshot else none
  | _ => none
def latest (assetId : String) (inputs : List PaperInput) : Option MarketStateSnapshot :=
  (inputs.filterMap (snapshotOf assetId)).getLast?

def OwnView (inputs : List PaperInput) (assetId : String) (view : MarketDepthView) : Prop :=
  ∃ snapshot, latest assetId inputs = some snapshot ∧ view = marketDepthViewFromSnapshot snapshot view.assetIndex
-- The one book an asset may be marked from: none while its index has no view.
def ownBooks (engine : PaperTradingEngine) (inputs : List PaperInput) (assetId : String) (assetIndex : Nat) :
    List MarketDepthView :=
  if (findDepth engine.depthViews assetIndex).isSome then
    ((latest assetId inputs).map fun snapshot => marketDepthViewFromSnapshot snapshot assetIndex).toList
  else []
def ownPnl (engine : PaperTradingEngine) (inputs : List PaperInput) : PaperPnLResult :=
  engine.portfolio.entries.foldl
    (fun result held => addPosition (ownBooks engine inputs held.1 held.2.assetIndex) result held.2)
    {equityMidTick := engine.ledger.cash.cashTick, equityLiquidationTick := engine.ledger.cash.cashTick,
      realizedPnlTick := engine.ledger.cash.realizedPnlTick}
def ownMarked (engine : PaperTradingEngine) (inputs : List PaperInput) (order : PaperFilledOrderSnapshot) :
    PaperFilledOrderSnapshot :=
  PaperTradingEngine.markedOrder (ownBooks engine inputs order.assetId order.assetIndex) order
structure OwnMarks (engine : PaperTradingEngine) (inputs : List PaperInput) : Prop where
  injective : ∀ asset other index, engine.assetIndexByAssetId.lookup asset = some index →
    engine.assetIndexByAssetId.lookup other = some index → asset = other
  orders : ∀ order ∈ engine.filledOrders, ∀ view, findDepth engine.depthViews order.assetIndex = some view →
    OwnView inputs order.assetId view
  positions : ∀ asset position, engine.portfolio.lookup asset = some position →
    ∀ view, findDepth engine.depthViews position.assetIndex = some view → OwnView inputs asset view
  filled : engine.filledOrderSnapshots = engine.filledOrders.map (ownMarked engine inputs)
  equity : engine.pnl = ownPnl engine inputs

-- Plans give every asset id one index and no two the same, and a snapshot of an asset not yet named
-- comes only where index 0 is never another asset's.
structure IndexesKeptApart (inputs : List PaperInput) : Prop where
  oneIndex : ∀ x ∈ namings inputs, ∀ y ∈ namings inputs, x.1 = y.1 ↔ x.2 = y.2
  unnamed : ∀ before snapshot after, inputs = before ++ .markSnapshot snapshot::after →
    (∃ index, (snapshot.entityId,index) ∈ namings before) ∨
    ∀ asset, (asset,0) ∈ namings inputs → asset = snapshot.entityId

theorem namingsSnoc (before input) : namings (before ++ [input]) = namings before ++ named input := by
  simp [namings]
theorem namingsSub {before after : List PaperInput} : namings before ⊆ namings (before ++ after) := by
  intro x mem
  simp only [namings,List.flatMap_append]
  exact List.mem_append_left _ mem
theorem latestSnapshot (before snapshot asset) : latest asset (before ++ [.markSnapshot snapshot]) =
    if snapshot.entityId = asset then some snapshot else latest asset before := by
  unfold latest
  rw [List.filterMap_append]
  by_cases own : snapshot.entityId = asset
  · simp [snapshotOf,own]
  · simp [snapshotOf,own]
theorem latestOther {before asset input} (silent : ∀ snapshot, input ≠ .markSnapshot snapshot) :
    latest asset (before ++ [input]) = latest asset before := by
  unfold latest
  rw [List.filterMap_append]
  cases input with
  | markSnapshot snapshot => exact absurd rfl (silent snapshot)
  | executionReport _ | orderPlan _ | observation => simp [snapshotOf]

/-! The views. -/

theorem findPlaced (view : MarketDepthView) (views : List MarketDepthView) (index) :
    findDepth (placed view views) index = if view.assetIndex = index then some view
      else findDepth views index := by
  unfold findDepth
  induction views with
  | nil =>
    by_cases here : view.assetIndex = index <;> simp [placed,here]
  | cons other rest ih =>
    rw [placed]
    by_cases same : other.assetIndex = view.assetIndex
    · rw [if_pos same]
      by_cases here : view.assetIndex = index
      · simp [here]
      · simp [here,same]
    · rw [if_neg same]
      by_cases here : other.assetIndex = index
      · have elsewhere : ¬ view.assetIndex = index := fun h => same (here.trans h.symm)
        simp [here,elsewhere]
      · simp only [List.find?_cons,here,decide_false]
        exact ih

/-! Every index the engine holds comes from a plan, beside the asset id it was named with. -/

structure Tracks (names : List (String × Nat)) (engine : PaperTradingEngine) : Prop where
  indexed : ∀ asset index, engine.assetIndexByAssetId.lookup asset = some index → (asset,index) ∈ names
  known : ∀ asset index, (asset,index) ∈ names → ∃ index', engine.assetIndexByAssetId.lookup asset = some index'
  adapter : ∀ key order, engine.adapterOrders.lookup key = some order →
    order.assetId = "" ∨ (order.assetId,order.assetIndex) ∈ names
  same : ∀ key, (engine.childOrders.lookup key).map ObservedChildOrder.order = engine.adapterOrders.lookup key
  orders : ∀ order ∈ engine.filledOrders, (order.assetId,order.assetIndex) ∈ names
  positions : ∀ asset position, engine.portfolio.lookup asset = some position → (asset,position.assetIndex) ∈ names

theorem recordKeeps (plan : OrderPlan) (orders : List ChildOrder) (engine : PaperTradingEngine) :
    (orders.foldl (PaperTradingEngine.recordOrder plan) engine).depthViews = engine.depthViews ∧
      (orders.foldl (PaperTradingEngine.recordOrder plan) engine).filledOrders = engine.filledOrders ∧
      (orders.foldl (PaperTradingEngine.recordOrder plan) engine).portfolio = engine.portfolio ∧
      (orders.foldl (PaperTradingEngine.recordOrder plan) engine).adapterOrders = engine.adapterOrders := by
  induction orders generalizing engine with
  | nil => exact ⟨rfl,rfl,rfl,rfl⟩
  | cons order rest ih => exact ih (engine.recordOrder plan order)
theorem planNamesCons (order rest) : planNames (order::rest) =
    (if order.assetId ≠ "" then [(order.assetId,order.assetIndex)] else []) ++ planNames rest := by
  unfold planNames
  by_cases unnamed : order.assetId ≠ ""
  · simp [unnamed]
  · simp only [ne_eq,not_not] at unnamed
    simp [unnamed]
theorem recordIndexes (plan : OrderPlan) (orders : List ChildOrder) {engine : PaperTradingEngine}
    {names : List (String × Nat)}
    (indexed : ∀ asset index, engine.assetIndexByAssetId.lookup asset = some index → (asset,index) ∈ names)
    (known : ∀ asset index, (asset,index) ∈ names →
      ∃ index', engine.assetIndexByAssetId.lookup asset = some index') :
    (∀ asset index, (orders.foldl (PaperTradingEngine.recordOrder plan) engine).assetIndexByAssetId.lookup
      asset = some index →
        (asset,index) ∈ names ++ planNames orders) ∧
      ∀ asset index, (asset,index) ∈ names ++ planNames orders →
        ∃ index', (orders.foldl (PaperTradingEngine.recordOrder plan) engine).assetIndexByAssetId.lookup asset =
          some index' := by
  induction orders generalizing engine names with
  | nil =>
    simp only [planNames,List.filter_nil,List.map_nil,List.append_nil]
    exact ⟨indexed,known⟩
  | cons order rest ih =>
    rw [planNamesCons,← List.append_assoc,List.foldl_cons]
    apply ih
    all_goals
      intro asset index h
      simp only [PaperTradingEngine.recordOrder] at h ⊢
    · by_cases unnamed : order.assetId ≠ ""
      · rw [if_pos unnamed] at h
        rw [if_pos unnamed,List.mem_append]
        by_cases own : asset = order.assetId
        · subst own
          rw [AList.lookup_insert] at h
          cases h
          exact .inr List.mem_cons_self
        · rw [AList.lookup_insert_ne own] at h
          exact .inl (indexed asset index h)
      · rw [if_neg unnamed] at h
        rw [if_neg unnamed,List.append_nil]
        exact indexed asset index h
    · by_cases unnamed : order.assetId ≠ ""
      · rw [if_pos unnamed] at h ⊢
        by_cases own : asset = order.assetId
        · subst own
          exact ⟨_,AList.lookup_insert _⟩
        · rw [AList.lookup_insert_ne own]
          rcases List.mem_append.mp h with old | new
          · exact known asset index old
          · cases List.mem_singleton.mp new
            exact absurd rfl own
      · rw [if_neg unnamed] at h ⊢
        rw [List.append_nil] at h
        exact known asset index h

def observed (plan : OrderPlan) (orders : List ChildOrder) (adapter : ByKey ChildOrder) : ByKey ChildOrder :=
  orders.foldl (fun adapter order => adapter.insert (childKey plan.planId order.orderId) order) adapter
theorem recordSame (plan : OrderPlan) (orders : List ChildOrder) {engine : PaperTradingEngine}
    {adapter : ByKey ChildOrder}
    (same : ∀ key, (engine.childOrders.lookup key).map ObservedChildOrder.order = adapter.lookup key) (key) :
    ((orders.foldl (PaperTradingEngine.recordOrder plan) engine).childOrders.lookup key).map
    ObservedChildOrder.order =
      (observed plan orders adapter).lookup key := by
  induction orders generalizing engine adapter with
  | nil => exact same key
  | cons order rest ih =>
    apply ih
    intro key
    unfold PaperTradingEngine.recordOrder
    simp only
    by_cases here : key = childKey plan.planId order.orderId
    · subst here
      rw [AList.lookup_insert,AList.lookup_insert]
      rfl
    · rw [AList.lookup_insert_ne here,AList.lookup_insert_ne here]
      exact same key
theorem observedNamed (plan : OrderPlan) (orders : List ChildOrder) {adapter : ByKey ChildOrder}
    {names : List (String × Nat)}
    (named : ∀ key order, adapter.lookup key = some order →
      order.assetId = "" ∨ (order.assetId,order.assetIndex) ∈ names) :
    ∀ key order, (observed plan orders adapter).lookup key = some order →
      order.assetId = "" ∨ (order.assetId,order.assetIndex) ∈ names ++ planNames orders := by
  induction orders generalizing adapter names with
  | nil =>
    simp only [planNames,List.filter_nil,List.map_nil,List.append_nil]
    exact named
  | cons first rest ih =>
    rw [planNamesCons,← List.append_assoc]
    refine ih fun key order found => ?_
    by_cases here : key = childKey plan.planId first.orderId
    · subst here
      rw [AList.lookup_insert] at found
      cases found
      by_cases unnamed : first.assetId = ""
      · exact .inl unnamed
      · rw [if_pos unnamed]
        exact .inr (List.mem_append_right _ List.mem_cons_self)
    · rw [AList.lookup_insert_ne here] at found
      exact (named key order found).imp_right (List.mem_append_left _)

theorem tracksPlan {names engine} (tracks : Tracks names engine) (plan : OrderPlan) :
    Tracks (names ++ planNames plan.orders) (engine.onOrderPlan plan) := by
  have kept := recordKeeps plan plan.orders
    {engine with terminalByPlan := engine.terminalByPlan.insert plan.planId (terminalOf plan)}
  obtain ⟨_,orders,portfolio,adapter⟩ := kept
  obtain ⟨indexed,known⟩ := @recordIndexes plan plan.orders
    {engine with terminalByPlan := engine.terminalByPlan.insert plan.planId (terminalOf plan)} names
      tracks.indexed tracks.known
  have observes : (engine.onOrderPlan plan).adapterOrders = observed plan plan.orders engine.adapterOrders :=
    congrArg (observed plan plan.orders) adapter
  refine ⟨indexed,known,?_,?_,?_,?_⟩
  · rw [observes]
    exact observedNamed plan plan.orders tracks.adapter
  · rw [observes]
    exact recordSame plan plan.orders tracks.same
  · intro order mem
    exact List.mem_append_left _ (tracks.orders order (orders ▸ mem))
  · intro asset position found
    exact List.mem_append_left _ (tracks.positions asset position (portfolio ▸ found))

theorem boughtIndex (p asset index lots cost) : (bought p asset index lots cost).assetIndex = index := by
  unfold bought
  simp only
  split <;> rfl
theorem portfolioTracks {names : List (String × Nat)} {portfolio : Positions} {fill : FillApplication}
    (own : (fill.assetId,fill.assetIndex) ∈ names)
    (positions : ∀ asset position, portfolio.lookup asset = some position → (asset,position.assetIndex) ∈ names) :
    ∀ asset position, (portfolioApply portfolio fill).1.lookup asset = some position →
      (asset,position.assetIndex) ∈ names := by
  intro asset position found
  unfold portfolioApply applyBuy at found
  split at found
  · exact positions asset position found
  split at found
  · exact positions asset position found
  · simp only at found
    by_cases here : asset = fill.assetId
    · subst here
      rw [AList.lookup_insert] at found
      cases found
      rw [boughtIndex]
      exact own
    · rw [AList.lookup_insert_ne here] at found
      exact positions asset position found
theorem tracksFill {names engine fill order} (tracks : Tracks names engine)
    (found : engine.adapterOrders.lookup (childKey fill.report.planId fill.report.childOrderId) = some order)
    (asset : fill.assetId = order.assetId) (index : fill.assetIndex = order.assetIndex)
    (named : order.assetId ≠ "") :
    Tracks names (engine.handleFill fill) := by
  have own : (order.assetId,order.assetIndex) ∈ names := (tracks.adapter _ order found).resolve_left named
  unfold PaperTradingEngine.handleFill
  simp only
  split
  · refine ⟨tracks.indexed,tracks.known,tracks.adapter,tracks.same,?_,?_⟩
    · intro filled mem
      rcases List.mem_append.mp mem with old | new
      · exact tracks.orders filled old
      · cases List.mem_singleton.mp new
        obtain ⟨observed,recorded,same⟩ := Option.map_eq_some_iff.mp ((tracks.same _).trans found)
        simp only [recorded]
        rw [← same] at own
        exact own
    · exact portfolioTracks (asset ▸ index ▸ own) tracks.positions
  · exact ⟨tracks.indexed,tracks.known,tracks.adapter,tracks.same,tracks.orders,tracks.positions⟩
theorem tracksReport {names engine} (tracks : Tracks names engine) (report) :
    Tracks names (engine.onExecutionReport report) := by
  have counted : Tracks names (engine.countReport report) :=
    ⟨tracks.indexed,tracks.known,tracks.adapter,tracks.same,tracks.orders,tracks.positions⟩
  unfold PaperTradingEngine.onExecutionReport
  split
  · next fill observes =>
    unfold observeReport at observes
    obtain ⟨_,_,observes⟩ := Option.bind_eq_some_iff.mp observes
    obtain ⟨order,found,observes⟩ := Option.bind_eq_some_iff.mp observes
    split at observes
    · cases observes
    · next named =>
      cases observes
      exact tracksFill counted found rfl rfl named
  · exact counted

theorem tracksNext {before engine} (tracks : Tracks (namings before) engine) (input) :
    Tracks (namings (before ++ [input])) (engineStep engine input).1 := by
  rw [namingsSnoc]
  cases input with
  | orderPlan plan => exact tracksPlan tracks plan
  | executionReport report =>
    rw [named,List.append_nil]
    exact tracksReport tracks report
  | markSnapshot snapshot =>
    rw [named,List.append_nil]
    exact ⟨tracks.indexed,tracks.known,tracks.adapter,tracks.same,tracks.orders,tracks.positions⟩
  | observation =>
    rw [named,List.append_nil]
    exact tracks

/-! Every view shows the asset its index is given to. -/

theorem viewsKept {engine : PaperTradingEngine} {input} (silent : ∀ snapshot, input ≠ .markSnapshot snapshot) :
    (engineStep engine input).1.depthViews = engine.depthViews := by
  cases input with
  | markSnapshot snapshot => exact absurd rfl (silent snapshot)
  | observation => rfl
  | orderPlan plan =>
    exact (recordKeeps plan plan.orders
      {engine with terminalByPlan := engine.terminalByPlan.insert plan.planId (terminalOf plan)}).1
  | executionReport report =>
    unfold engineStep PaperTradingEngine.onExecutionReport
    simp only
    split
    · unfold PaperTradingEngine.handleFill
      simp only
      split <;> rfl
    · rfl

structure Viewed (inputs before : List PaperInput) (engine : PaperTradingEngine) : Prop where
  indexes : ∀ index view, findDepth engine.depthViews index = some view →
    index = 0 ∨ ∃ asset, (asset,index) ∈ namings before
  own : ∀ index view, findDepth engine.depthViews index = some view → ∀ asset, (asset,index) ∈ namings inputs →
    OwnView before asset view

section
variable {inputs before : List PaperInput} {engine : PaperTradingEngine} {snapshot : MarketStateSnapshot}
  {after : List PaperInput}

theorem namedBefore (split : inputs = before ++ .markSnapshot snapshot::after) :
    namings before ⊆ namings inputs := by
  rw [split]
  exact namingsSub
-- Whoever has the index the snapshot goes to is the snapshot's own asset.
theorem snapshotOwner (apart : IndexesKeptApart inputs) (split : inputs = before ++ .markSnapshot snapshot::after)
    (tracks : Tracks (namings before) engine) {asset : String}
    (mem : (asset,(engine.assetIndexByAssetId.lookup snapshot.entityId).getD 0) ∈ namings inputs) :
    asset = snapshot.entityId := by
  cases known : engine.assetIndexByAssetId.lookup snapshot.entityId with
  | some index =>
    rw [known] at mem
    exact (apart.oneIndex _ mem _ (namedBefore split (tracks.indexed _ _ known))).mpr rfl
  | none =>
    rw [known] at mem
    rcases apart.unnamed before snapshot after split with ⟨index,here⟩ | only
    · obtain ⟨index',found⟩ := tracks.known _ _ here
      cases known.symm.trans found
    · exact only asset mem
-- Where a view stands under an index of the snapshot's asset, the snapshot goes to that index.
theorem snapshotIndex (apart : IndexesKeptApart inputs) (split : inputs = before ++ .markSnapshot snapshot::after)
    (tracks : Tracks (namings before) engine) (viewed : Viewed inputs before engine) {index : Nat}
    {view : MarketDepthView}
    (found : findDepth engine.depthViews index = some view) (mem : (snapshot.entityId,index) ∈ namings inputs) :
    (engine.assetIndexByAssetId.lookup snapshot.entityId).getD 0 = index := by
  cases known : engine.assetIndexByAssetId.lookup snapshot.entityId with
  | some index' => exact (apart.oneIndex _ (namedBefore split (tracks.indexed _ _ known)) _ mem).mp rfl
  | none =>
    rcases viewed.indexes index view found with zero | ⟨first,named⟩
    · exact zero.symm
    · have same : first = snapshot.entityId := (apart.oneIndex _ (namedBefore split named) _ mem).mpr rfl
      subst same
      obtain ⟨index',found⟩ := tracks.known _ _ named
      cases known.symm.trans found
theorem viewedSnapshot (apart : IndexesKeptApart inputs) (split : inputs = before ++ .markSnapshot snapshot::after)
    (tracks : Tracks (namings before) engine) (viewed : Viewed inputs before engine) :
    Viewed inputs (before ++ [.markSnapshot snapshot]) (engine.onMarkSnapshot snapshot) := by
  have sameNames : namings (before ++ [.markSnapshot snapshot]) = namings before := by
    rw [namingsSnoc,named,List.append_nil]
  constructor
  · intro index view found
    rw [PaperTradingEngine.onMarkSnapshot,findPlaced] at found
    rw [sameNames]
    split at found
    · next here =>
      rw [← here]
      change (engine.assetIndexByAssetId.lookup snapshot.entityId).getD 0 = 0 ∨ _
      cases known : engine.assetIndexByAssetId.lookup snapshot.entityId with
      | none => exact .inl rfl
      | some index => exact .inr ⟨snapshot.entityId,tracks.indexed _ _ known⟩
    · exact viewed.indexes index view found
  · intro index view found asset mem
    rw [PaperTradingEngine.onMarkSnapshot,findPlaced] at found
    unfold OwnView
    rw [latestSnapshot]
    split at found
    · next here =>
      cases found
      rw [← here] at mem
      rw [if_pos (snapshotOwner apart split tracks mem).symm]
      exact ⟨snapshot,rfl,rfl⟩
    · next elsewhere =>
      have other : snapshot.entityId ≠ asset := by
        rintro rfl
        exact elsewhere (snapshotIndex apart split tracks viewed found mem)
      rw [if_neg other]
      exact viewed.own index view found asset mem
end

theorem tracksStart (startingCashTick) : Tracks [] (started startingCashTick) where
  indexed _ _ found := nomatch found
  known _ _ mem := nomatch mem
  adapter _ _ found := nomatch found
  same _ := rfl
  orders _ mem := nomatch mem
  positions _ _ found := nomatch found
theorem viewedStart (inputs startingCashTick) : Viewed inputs [] (started startingCashTick) where
  indexes _ _ found := nomatch found
  own _ _ found := nomatch found

theorem reached {inputs} (apart : IndexesKeptApart inputs) (startingCashTick) {before} (part : before <+: inputs) :
    Tracks (namings before) (state startingCashTick before) ∧
      Viewed inputs before (state startingCashTick before) := by
  induction before using List.reverseRecOn with
  | nil => exact ⟨tracksStart startingCashTick,viewedStart inputs startingCashTick⟩
  | append_singleton before input ih =>
    obtain ⟨after,split⟩ := part
    rw [List.append_assoc] at split
    obtain ⟨tracks,viewed⟩ := ih ⟨_,split⟩
    rw [stateSnoc]
    refine ⟨tracksNext tracks input,?_⟩
    by_cases shows : ∃ snapshot, input = .markSnapshot snapshot
    · obtain ⟨snapshot,rfl⟩ := shows
      exact viewedSnapshot apart split.symm tracks viewed
    · have silent : ∀ snapshot, input ≠ .markSnapshot snapshot := fun snapshot same => shows ⟨snapshot,same⟩
      constructor
      · intro index view found
        rw [viewsKept silent] at found
        rw [namingsSnoc]
        exact (viewed.indexes index view found).imp_right fun ⟨asset,mem⟩ => ⟨asset,List.mem_append_left _ mem⟩
      · intro index view found asset mem
        rw [viewsKept silent] at found
        unfold OwnView
        rw [latestOther silent]
        exact viewed.own index view found asset mem

/-! The marks shown are those of the own books. -/

theorem foundIndex {views index view} (found : findDepth views index = some view) : view.assetIndex = index := by
  simpa using List.find?_some found
theorem ownFound {engine : PaperTradingEngine} {inputs asset index}
    (own : ∀ view, findDepth engine.depthViews index = some view → OwnView inputs asset view) :
    findDepth (ownBooks engine inputs asset index) index = findDepth engine.depthViews index := by
  unfold ownBooks
  cases found : findDepth engine.depthViews index with
  | none => rfl
  | some view =>
    obtain ⟨snapshot,seen,shown⟩ := own view found
    rw [foundIndex found] at shown
    simp only [Option.isSome_some,if_true,seen,Option.map_some,Option.toList_some]
    rw [← shown]
    simp [findDepth,foundIndex found]
theorem markedByFound {views others : List MarketDepthView} {order : PaperFilledOrderSnapshot}
    (same : findDepth views order.assetIndex = findDepth others order.assetIndex) :
    PaperTradingEngine.markedOrder views order = PaperTradingEngine.markedOrder others order := by
  unfold PaperTradingEngine.markedOrder PaperTradingEngine.orderMark
  rw [same]
theorem addedByFound {views others : List MarketDepthView} {position : Position}
    (same : findDepth views position.assetIndex = findDepth others position.assetIndex) (result) :
    addPosition views result position = addPosition others result position := by
  unfold addPosition positionMark
  rw [same]
theorem ownEquity {engine : PaperTradingEngine} {inputs}
    (positions : ∀ asset position, engine.portfolio.lookup asset = some position →
      ∀ view, findDepth engine.depthViews position.assetIndex = some view → OwnView inputs asset view) :
    engine.pnl = ownPnl engine inputs := by
  unfold PaperTradingEngine.pnl computePnl ownPnl
  rw [List.foldl_map]
  refine List.foldl_ext _ _ _ fun result held mem => addedByFound (Eq.symm ?_) result
  exact ownFound (positions held.1 held.2 (AList.mem_lookup_iff.mpr mem))

theorem marksBelongToAsset (startingCashTick : Int) (inputs : List PaperInput) (apart : IndexesKeptApart inputs) :
    ∀ before, before <+: inputs → OwnMarks (state startingCashTick before) before := by
  intro before part
  obtain ⟨tracks,viewed⟩ := reached apart startingCashTick part
  have past : namings before ⊆ namings inputs := by
    obtain ⟨after,rfl⟩ := part
    exact namingsSub
  have orders : ∀ order ∈ (state startingCashTick before).filledOrders, ∀ view,
      findDepth (state startingCashTick before).depthViews order.assetIndex = some view →
        OwnView before order.assetId view :=
    fun order mem view found => viewed.own _ view found _ (past (tracks.orders order mem))
  have positions : ∀ asset position,
    (state startingCashTick before).portfolio.lookup asset = some position → ∀ view,
      findDepth (state startingCashTick before).depthViews position.assetIndex = some view →
        OwnView before asset view :=
    fun asset position held view found => viewed.own _ view found _ (past (tracks.positions asset position held))
  refine ⟨fun asset other index first second => ?_,orders,positions,?_,ownEquity positions⟩
  · exact (apart.oneIndex _ (past (tracks.indexed _ _ first)) _ (past (tracks.indexed _ _ second))).mpr rfl
  · exact List.map_congr_left fun order mem => markedByFound (ownFound (orders order mem)).symm

def boughtAt (assetIndex : Nat) : List PaperInput :=
  [.orderPlan {planId := 77, orders := [{orderId := 11, assetId := "a", assetIndex, quantityLots := 10}]},
    .executionReport
      {planId := 77, childOrderId := 11, status := .filled, filledLots := 10, avgFillPriceTick := 700}]
def shownBook (assetId : String) : PaperInput := .markSnapshot {entityId := assetId}
theorem strangerMarksNoIndexSeven :
    OwnMarks (state 0 (boughtAt 7 ++ [shownBook "a",shownBook "z"]))
      (boughtAt 7 ++ [shownBook "a",shownBook "z"]) :=
  marksBelongToAsset 0 (boughtAt 7 ++ [shownBook "a",shownBook "z"])
    { oneIndex := by decide +kernel
      unnamed := fun _ _ _ _ => .inr fun asset mem => by
        have names : namings (boughtAt 7 ++ [shownBook "a",shownBook "z"]) = [("a",7)] := by decide +kernel
        rw [names] at mem
        simp at mem } _ (List.prefix_refl _)
-- The book of an asset no plan has named marks the order of the asset at index 0.
theorem strangerMarksIndexZero :
    ¬ OwnMarks (state 0 (boughtAt 0 ++ [shownBook "z"])) (boughtAt 0 ++ [shownBook "z"]) := by
  intro own
  have stray : ∃ order ∈ (state 0 (boughtAt 0 ++ [shownBook "z"])).filledOrders,
      (findDepth (state 0 (boughtAt 0 ++ [shownBook "z"])).depthViews order.assetIndex).isSome = true ∧
        latest order.assetId (boughtAt 0 ++ [shownBook "z"]) = none := by decide +kernel
  obtain ⟨order,mem,shown,never⟩ := stray
  obtain ⟨view,found⟩ := Option.isSome_iff_exists.mp shown
  obtain ⟨snapshot,seen,_⟩ := own.orders order mem view found
  cases seen.symm.trans never

end Polytope.PaperMarks
