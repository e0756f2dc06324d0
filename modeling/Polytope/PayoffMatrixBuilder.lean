import Polytope.OracleFaithfulness
import Polytope.BundlePayout
import Polytope.Sorting
import Mathlib.Data.List.ProdSigma
import Mathlib.Data.String.Basic

/-! PayoffMatrixBuilder on the enumerated states: one row a state, one column an asset, the columns by asset
id whatever order the variables come in. The entry of a state and an asset is read off the state's bit of
the variable that carries the asset. -/
namespace Polytope.PayoffMatrixBuilder
open OracleTypes StateEnumeration Sorting
open ConstraintCompiler (compile WellFormed groundedBound)
open CombinatorialBundles (payoutOneTick)
open OracleFaithfulness (Compiled compiledWellFormed satisfiesCongr rule)

structure AssetColumn where
  varId : Nat := 0
  assetId : String := ""
  deriving DecidableEq
structure PayoffEntry where
  stateId : Nat := 0
  assetIndex : Nat := 0
  payoutTick : Int := 0
  deriving DecidableEq
structure PayoffMatrix where
  assetIds : List String := []
  stateIds : List Nat := []
  entries : List PayoffEntry := []
  rowCount : Nat := 0
  columnCount : Nat := 0
  payoffHash : UInt64 := 0
  deriving DecidableEq
structure PayoffMatrixBuildResult where
  matrix : PayoffMatrix := {}
  errors : List String := []
  deriving DecidableEq

def bitIsSet (state : FeasibleState) (varId : Nat) : Bool := (⟨state.bitsetWords⟩ : StateBitset).test varId

-- seen_assets holds the asset ids of the columns.
structure ColumnBuild where
  columns : List AssetColumn := []
  errors : List String := []
def addColumn (built : ColumnBuild) (v : BooleanVariable) : ColumnBuild :=
  if v.assetId = "" then {built with errors := built.errors ++
    ["variable " ++ v.variableKey ++ " missing asset_id"]}
  else if v.assetId ∈ built.columns.map (·.assetId) then
    {built with errors := built.errors ++ ["duplicate asset_id: " ++ v.assetId]}
  else {built with columns := built.columns ++ [⟨v.varId,v.assetId⟩]}

open Fnv in
def hashEntry (h : UInt64) (e : PayoffEntry) : UInt64 :=
  mixI64 (mixU32 (mixNat h e.stateId) e.assetIndex) e.payoutTick
open Fnv in
def hashPayoffMatrix (m : PayoffMatrix) : UInt64 :=
  m.entries.foldl hashEntry
    (m.stateIds.foldl mixNat (m.assetIds.foldl mixClosedString
      (mixU32 (mixU32 offset m.rowCount) m.columnCount)))

def rowOf (columns : List AssetColumn) (state : FeasibleState) : List PayoffEntry :=
  columns.mapIdx fun assetIndex column =>
    {stateId := state.stateId, assetIndex, payoutTick := if bitIsSet state column.varId then payoutOneTick else 0}
def matrixOf (columns : List AssetColumn) (states : List FeasibleState) : PayoffMatrix :=
  let matrix : PayoffMatrix :=
    { assetIds := columns.map (·.assetId), stateIds := states.map (·.stateId),
      entries := states.flatMap (rowOf columns)
      rowCount := states.length % 2^32, columnCount := columns.length % 2^32 }
  {matrix with payoffHash := hashPayoffMatrix matrix}

section
variable (sorter : Sorter AssetColumn)

def buildColumns (vars : List BooleanVariable) : ColumnBuild :=
  let built := vars.foldl addColumn {}
  {built with columns := sorter.sort (byKey (·.assetId)) built.columns}
def build (vars : List BooleanVariable) (states : List FeasibleState) : PayoffMatrixBuildResult :=
  let built := buildColumns sorter vars
  if built.errors ≠ [] then {errors := built.errors} else {matrix := matrixOf built.columns states}
end

/-! What the enumeration and the matrix are to be. -/

structure StatesExact (set : CompiledConstraintSet) (result : StateEnumerationResult) : Prop where
  settled : result.code = .none ∧ result.errors = []
  rising : (result.feasibleStates.map (·.stateId)).Pairwise (· < ·)
  members : ∀ mask, mask ∈ result.feasibleStates.map (·.stateId) ↔
    mask < 2 ^ set.vars.length ∧ Feasible set mask.testBit
  reads : ∀ state ∈ result.feasibleStates, ∀ v, bitIsSet state v = state.stateId.testBit v
  once : ∀ x, Feasible set x →
    ∃! state, state ∈ result.feasibleStates ∧ ∀ v < set.vars.length, bitIsSet state v = x v
structure MatrixExact (bindings : List BooleanVariable) (states : List FeasibleState)
    (m : PayoffMatrix) : Prop where
  columns : m.assetIds.Perm (bindings.map (·.assetId)) ∧ m.assetIds.Pairwise (· < ·)
  rows : m.stateIds = states.map (·.stateId)
  -- Row by row and column by column, one entry each.
  cells : m.entries.map (fun e => (e.stateId,e.assetIndex)) = m.stateIds.product (List.range m.assetIds.length)
  payouts : ∀ e ∈ m.entries, ∀ v ∈ bindings, m.assetIds[e.assetIndex]? = some v.assetId →
    e.payoutTick = if e.stateId.testBit v.varId then payoutOneTick else 0

/-! The states. -/

section
variable {set : CompiledConstraintSet}

theorem sizedConstraints (ok : WellFormed set) : ∀ c ∈ set.constraints, c.varIds.length = c.coeffs.length :=
  fun c mem => (ok.grounded c mem).sized.symm
theorem feasibleCongr (ok : WellFormed set) {x y : Nat → Bool} (agree : ∀ v < set.vars.length, x v = y v) :
    Feasible set x ↔ Feasible set y := by
  have each : ∀ c ∈ set.constraints, satisfies x c = satisfies y c := by
    intro c mem
    exact satisfiesCongr fun v inside => agree v (groundedBound ok (ok.grounded c mem) inside)
  exact forall₂_congr fun c mem => by rw [each c mem]

variable (ok : WellFormed set) (few : set.vars.length ≤ kMaxBruteforceVariables)
include few

theorem maskFits {mask} (inside : mask < 2 ^ set.vars.length) : mask < 2^64 :=
  inside.trans_le (Nat.pow_le_pow_right (by omega) (few.trans (by decide)))

include ok

theorem stateMem {state : FeasibleState} : state ∈ (enumerate set).feasibleStates ↔
    (state.stateId < 2 ^ set.vars.length ∧ Feasible set state.stateId.testBit) ∧
    state.bitsetWords = [UInt64.ofNat state.stateId] := by
  have bits : ∀ mask, mask < 2 ^ set.vars.length →
      (set.constraints.all (satisfies (stateBitsetFromMask (UInt64.ofNat mask)).test) = true ↔
        Feasible set mask.testBit) := by
    intro mask inside
    rw [List.all_eq_true,show (stateBitsetFromMask (UInt64.ofNat mask)).test = mask.testBit from
      funext fun v => maskTest (maskFits few inside) v]
    rfl
  rw [enumerateStates (sizedConstraints ok) few,List.mem_map]
  constructor
  · rintro ⟨mask,mem,rfl⟩
    obtain ⟨inside,held⟩ := List.mem_filter.mp mem
    have bound := List.mem_range.mp inside
    exact ⟨⟨bound,(bits mask bound).mp held⟩,rfl⟩
  · rintro ⟨⟨bound,held⟩,words⟩
    refine ⟨state.stateId,List.mem_filter.mpr ⟨List.mem_range.mpr bound,(bits _ bound).mpr held⟩,?_⟩
    rw [← words]
theorem statesRising : ((enumerate set).feasibleStates.map (·.stateId)).Pairwise (· < ·) := by
  rw [enumerateStates (sizedConstraints ok) few,List.map_map]
  have ids : ((·.stateId) ∘ fun mask => (⟨mask,[UInt64.ofNat mask]⟩ : FeasibleState)) = id := rfl
  rw [ids,List.map_id]
  exact List.pairwise_lt_range.sublist List.filter_sublist
theorem stateReads {state} (mem : state ∈ (enumerate set).feasibleStates) (v : Nat) :
    bitIsSet state v = state.stateId.testBit v := by
  obtain ⟨⟨bound,_⟩,words⟩ := (stateMem ok few).mp mem
  rw [bitIsSet,words]
  exact maskTest (maskFits few bound) v

theorem statesExact : StatesExact set (enumerate set) where
  settled := by rw [enumerateWhole (sizedConstraints ok) few]; exact ⟨rfl,rfl⟩
  rising := statesRising ok few
  members mask := by
    rw [List.mem_map]
    constructor
    · rintro ⟨state,mem,rfl⟩
      exact ((stateMem ok few).mp mem).1
    · exact fun held => ⟨⟨mask,[UInt64.ofNat mask]⟩,(stateMem ok few).mpr ⟨held,rfl⟩,rfl⟩
  reads _ mem := stateReads ok few mem
  once x held := by
    let mask := Nat.ofBits fun v : Fin set.vars.length => x v
    have bits : ∀ v < set.vars.length, mask.testBit v = x v := fun v inside => Nat.testBit_ofBits_lt _ v inside
    have here : (⟨mask,[UInt64.ofNat mask]⟩ : FeasibleState) ∈ (enumerate set).feasibleStates :=
      (stateMem ok few).mpr ⟨⟨Nat.ofBits_lt_two_pow _,(feasibleCongr ok bits).mpr held⟩,rfl⟩
    refine ⟨_,⟨here,fun v inside => (stateReads ok few here v).trans (bits v inside)⟩,?_⟩
    rintro other ⟨mem,same⟩
    obtain ⟨⟨bound,_⟩,words⟩ := (stateMem ok few).mp mem
    have equal : other.stateId = mask := by
      refine Nat.eq_of_testBit_eq fun v => ?_
      rcases lt_or_ge v set.vars.length with inside | outside
      · exact (stateReads ok few mem v).symm.trans ((same v inside).trans (bits v inside).symm)
      · have high : 2 ^ set.vars.length ≤ 2 ^ v := Nat.pow_le_pow_right (by omega) outside
        rw [Nat.testBit_lt_two_pow (bound.trans_le high),Nat.testBit_lt_two_pow
          ((Nat.ofBits_lt_two_pow _).trans_le high)]
    calc other = ⟨other.stateId,other.bitsetWords⟩ := rfl
      _ = ⟨mask,[UInt64.ofNat mask]⟩ := by rw [words,equal]
end

/-! The columns. -/

def columnOf (v : BooleanVariable) : AssetColumn := ⟨v.varId,v.assetId⟩
def Bindable (vars : List BooleanVariable) : Prop := (∀ v ∈ vars, v.assetId ≠ "") ∧ (vars.map (·.assetId)).Nodup

theorem columnsClean {vars : List BooleanVariable} {built : ColumnBuild} :
    (vars.foldl addColumn built).errors = [] ↔
    built.errors = [] ∧ (∀ v ∈ vars, v.assetId ≠ "" ∧ v.assetId ∉ built.columns.map (·.assetId)) ∧
      (vars.map (·.assetId)).Nodup := by
  induction vars generalizing built with
  | nil => simp
  | cons v rest ih =>
    rw [List.foldl_cons,ih,addColumn]
    split
    · next missing => simp [missing]
    · next named =>
      split
      · next old => exact iff_of_false (by simp) fun held => (held.2.1 v List.mem_cons_self).2 old
      · next fresh =>
        simp only [List.map_append,List.map_cons,List.map_nil,List.nodup_cons,List.mem_append,
          List.mem_singleton,not_or,
          List.mem_map,not_exists,not_and,List.forall_mem_cons] at fresh ⊢
        constructor
        · rintro ⟨clean,each,unique⟩
          exact ⟨clean,⟨⟨named,fresh⟩,fun w mem => ⟨(each w mem).1,(each w mem).2.1⟩⟩,fun w mem =>
            (each w mem).2.2,unique⟩
        · rintro ⟨clean,⟨_,each⟩,apart,unique⟩
          exact ⟨clean,fun w mem => ⟨(each w mem).1,(each w mem).2,apart w mem⟩,unique⟩
theorem columnsAdded {vars : List BooleanVariable} {built : ColumnBuild}
    (clean : (vars.foldl addColumn built).errors = []) :
    (vars.foldl addColumn built).columns = built.columns ++ vars.map columnOf := by
  induction vars generalizing built with
  | nil => simp
  | cons v rest ih =>
    obtain ⟨_,each,_⟩ := columnsClean.mp clean
    obtain ⟨named,fresh⟩ := each v List.mem_cons_self
    have added : addColumn built v = {built with columns := built.columns ++ [columnOf v]} := by
      rw [addColumn,if_neg named,if_neg fresh]
      rfl
    rw [List.foldl_cons,added] at clean ⊢
    rw [ih clean,List.append_assoc]
    rfl

section
variable (sorter : Sorter AssetColumn) {vars : List BooleanVariable}

theorem buildErrors {states} : (build sorter vars states).errors = [] ↔ Bindable vars := by
  have clean : (buildColumns sorter vars).errors = [] ↔ Bindable vars := by
    refine columnsClean.trans ?_
    simp [Bindable]
  rw [← clean,build]
  split
  · next refused => simp [refused]
  · next accepted => simpa using accepted
theorem buildAccepted (bindable : Bindable vars) (states) :
    build sorter vars states =
      {matrix := matrixOf (sorter.sort (byKey (·.assetId)) (vars.map columnOf)) states} := by
  have clean : (vars.foldl addColumn {}).errors = [] := columnsClean.mpr ⟨rfl,by simpa using bindable.1,bindable.2⟩
  have columns : (vars.foldl addColumn {}).columns = vars.map columnOf := columnsAdded clean
  rw [build,buildColumns]
  simp only [clean,columns,ne_eq,not_true_eq_false,if_false]
theorem buildReordered (other : Sorter AssetColumn) {order} (perm : order.Perm vars)
    (bindable : Bindable vars) (states) :
    build other order states = build sorter vars states := by
  have again : Bindable order :=
    ⟨fun v mem => bindable.1 v (perm.mem_iff.mp mem),((perm.map _).nodup_iff).mpr bindable.2⟩
  have distinct : ((order.map columnOf).map (·.assetId)).Nodup := by
    rw [List.map_map]
    exact again.2
  rw [buildAccepted other again,buildAccepted sorter bindable,sortUnique other _ sorter
    (perm.map columnOf) distinct]
end

/-! The entries. -/

theorem rowCells (columns : List AssetColumn) (state : FeasibleState) :
    (rowOf columns state).map (fun e => (e.stateId,e.assetIndex)) = (List.range columns.length).map
    (Prod.mk state.stateId) := by
  apply List.ext_getElem
  · simp [rowOf]
  · intro i _ _
    simp [rowOf]
theorem matrixCells (columns : List AssetColumn) (states : List FeasibleState) :
    (states.flatMap (rowOf columns)).map (fun e => (e.stateId,e.assetIndex)) =
      (states.map (·.stateId)).product (List.range columns.length) := by
  induction states with
  | nil => rfl
  | cons state rest ih =>
    rw [List.flatMap_cons,List.map_append,rowCells,ih,List.map_cons]
    exact (List.product_cons _ _ _).symm
theorem entryFound {columns : List AssetColumn} {states : List FeasibleState} {e}
    (mem : e ∈ states.flatMap (rowOf columns)) :
    ∃ state ∈ states, ∃ column, columns[e.assetIndex]? = some column ∧ e.stateId = state.stateId ∧
      e.payoutTick = if bitIsSet state column.varId then payoutOneTick else 0 := by
  obtain ⟨state,there,inRow⟩ := List.mem_flatMap.mp mem
  obtain ⟨i,bound,rfl⟩ := List.mem_mapIdx.mp inRow
  exact ⟨state,there,_,List.getElem?_eq_getElem bound,rfl,rfl⟩

theorem matrixExact {columns : List AssetColumn} {bindings : List BooleanVariable} {states : List FeasibleState}
    (same : columns.Perm (bindings.map columnOf)) (rising : columns.Pairwise fun a b => a.assetId < b.assetId)
    (bindable : Bindable bindings) (reads : ∀ state ∈ states, ∀ v, bitIsSet state v = state.stateId.testBit v) :
    MatrixExact bindings states (matrixOf columns states) where
  columns := by
    have assets := same.map AssetColumn.assetId
    rw [List.map_map] at assets
    exact ⟨assets,List.pairwise_map.mpr rising⟩
  rows := rfl
  cells := by
    rw [matrixOf,List.length_map]
    exact matrixCells columns states
  payouts e mem v listed here := by
    obtain ⟨state,there,column,found,id,payout⟩ := entryFound mem
    obtain ⟨w,source,rfl⟩ := List.mem_map.mp (same.mem_iff.mp (List.mem_of_getElem? found))
    have asset : w.assetId = v.assetId := by
      have read : (columns.map (·.assetId))[e.assetIndex]? = some v.assetId := here
      rw [List.getElem?_map,found] at read
      exact Option.some.inj read
    have binding : w = v := List.inj_on_of_nodup_map bindable.2 source listed asset
    rw [payout,id,← reads state there,binding]
    rfl

theorem payoffExact (sorter : Sorter AssetColumn) {set} (compiled : Compiled set)
    (few : set.vars.length ≤ kMaxBruteforceVariables) :
    StatesExact set (enumerate set) ∧ ∀ bindings,
      ((build sorter bindings (enumerate set).feasibleStates).errors = [] ↔ Bindable bindings) ∧
      (Bindable bindings →
        MatrixExact bindings (enumerate set).feasibleStates
          (build sorter bindings (enumerate set).feasibleStates).matrix ∧
        ∀ (other : Sorter AssetColumn) (order : List BooleanVariable), order.Perm bindings →
          build other order (enumerate set).feasibleStates = build sorter bindings
            (enumerate set).feasibleStates) := by
  have states := statesExact (compiledWellFormed compiled) few
  refine ⟨states,fun bindings => ⟨buildErrors sorter,fun bindable => ⟨?_,fun other order perm => ?_⟩⟩⟩
  · have distinct : ((bindings.map columnOf).map (·.assetId)).Nodup := by
      rw [List.map_map]
      exact bindable.2
    rw [buildAccepted sorter bindable]
    exact matrixExact (sorter.perm _ _) (sortRising sorter _ distinct) bindable states.reads
  · exact buildReordered sorter other perm bindable _

def pairVars : List BooleanVariable :=
  [{variableKey := "m1:YES", marketId := "m1", outcomeId := "YES", assetId := "asset_yes"},
    {variableKey := "m1:NO", marketId := "m1", outcomeId := "NO", assetId := "asset_no"}]
def pairSet : CompiledConstraintSet := (compile [rule .exactlyOne ["m1:YES","m1:NO"]] pairVars).compiled
-- Two states, each with its own asset paid; the key order NO, YES numbers the variables.
theorem pairPayoffs :
    (enumerate pairSet).feasibleStates = [⟨1,[1]⟩,⟨2,[2]⟩] ∧
      (build stable pairSet.vars (enumerate pairSet).feasibleStates).matrix.entries.map
      (·.payoutTick) = [1000000,0,0,1000000] ∧
      StatesExact pairSet (enumerate pairSet) ∧
      MatrixExact pairSet.vars (enumerate pairSet).feasibleStates
        (build stable pairSet.vars (enumerate pairSet).feasibleStates).matrix := by
  have compiled : Compiled pairSet := .rules (by decide +kernel)
  have bindable : Bindable pairSet.vars := by
    unfold Bindable
    decide +kernel
  obtain ⟨states,matrices⟩ := payoffExact stable compiled (by decide +kernel)
  exact ⟨by decide +kernel,by decide +kernel,states,((matrices pairSet.vars).2 bindable).1⟩

end Polytope.PayoffMatrixBuilder
