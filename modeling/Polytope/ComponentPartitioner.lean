import Polytope.ConstraintCompiler
import Polytope.DisjointSet
import Mathlib.Data.List.Lex

/-! The constraint graph and its connected components. Each component is classified by the
shapes of its constraints; nothing else about them is looked at. -/
namespace Polytope.ComponentPartitioner
open OracleTypes ConstraintCompiler
open DisjointSet (Forest)

structure ConstraintGraphNode where
  varId : Nat
  variableId : String
  marketId : String
  eventId : String := ""
  deriving DecidableEq
structure ConstraintGraphEdge where
  constraintId : Nat
  varIds : List Nat
  deriving DecidableEq
structure ConstraintGraph where
  nodes : List ConstraintGraphNode
  edges : List ConstraintGraphEdge
  graphHash : UInt64 := 0
  deriving DecidableEq

open Fnv in
def hashConstraintGraph (g : ConstraintGraph) : UInt64 :=
  let nodes := g.nodes.foldl
    (fun h n => [n.variableId,n.marketId,n.eventId].foldl mixClosedString (mixU32 h n.varId)) offset
  g.edges.foldl (fun h e => e.varIds.foldl mixU32 (mixU32 (mixU32 h e.constraintId) e.varIds.length)) nodes
def buildGraph (set : CompiledConstraintSet) : ConstraintGraph :=
  let graph : ConstraintGraph :=
    { nodes := set.vars.map fun v => {varId := v.varId, variableId := v.variableKey, marketId := v.marketId}
      edges := set.constraints.mapIdx fun i c => {constraintId := i, varIds := c.varIds.insertionSort (· ≤ ·)} }
  {graph with graphHash := hashConstraintGraph graph}

inductive ComponentKind where
  | smallEnumerable | exactlyOne | atMostOne | implicationDag | weightedThreshold | genericLinearBoolean
  deriving DecidableEq
structure CompiledComponent where
  componentId : Nat := 0
  variableIds : List Nat := []
  constraintIds : List Nat := []
  componentHash : String := ""
  kind : ComponentKind := .genericLinearBoolean
  deriving DecidableEq

/-! Classification. -/

def allCoeffsOne (c : LinearBooleanConstraint) : Bool := c.coeffs.all fun coeff => decide (coeff = 1)
def unitSum (op : ConstraintOp) (c : LinearBooleanConstraint) : Bool :=
  decide (c.op = op) && decide (c.rhs = 1) && allCoeffsOne c
def isExactlyOneConstraint (c : LinearBooleanConstraint) (component : CompiledComponent) : Bool :=
  unitSum .equal c && decide (c.varIds.length = component.variableIds.length)
def isAtMostOneConstraint (c : LinearBooleanConstraint) (component : CompiledComponent) : Bool :=
  unitSum .lessEqual c && decide (c.varIds.length = component.variableIds.length)
def isLargeExactlyOneHyperedge (c : LinearBooleanConstraint) : Bool :=
  unitSum .equal c && decide (2 < c.varIds.length)
def isLargeAtMostOneHyperedge (c : LinearBooleanConstraint) : Bool :=
  unitSum .lessEqual c && decide (2 < c.varIds.length)
def isBinaryComplementConstraint (c : LinearBooleanConstraint) : Bool :=
  unitSum .equal c && decide (c.varIds.length = 2)

def constraintsOf (set : CompiledConstraintSet) (component : CompiledComponent) : List LinearBooleanConstraint :=
  component.constraintIds.filterMap fun id => set.constraints[id]?
def supportedShape (c : LinearBooleanConstraint) : Bool :=
  isLargeExactlyOneHyperedge c || isLargeAtMostOneHyperedge c || isBinaryComplementConstraint c
def classifySingle (component : CompiledComponent) : List LinearBooleanConstraint → Option ComponentKind
  | [c] =>
    if isExactlyOneConstraint c component then some .exactlyOne
    else if isAtMostOneConstraint c component then some .atMostOne
    else none
  | _ => none
def classifyComponent (component : CompiledComponent) (set : CompiledConstraintSet) : ComponentKind :=
  let constraints := constraintsOf set component
  match classifySingle component constraints with
  | some kind => kind
  | none =>
    let supported := constraints ≠ [] ∧ constraints.all supportedShape
    if supported ∧ constraints.any isLargeExactlyOneHyperedge then .exactlyOne
    else if supported ∧ constraints.any isLargeAtMostOneHyperedge then .atMostOne
    else if component.variableIds.length ≤ 32 then .smallEnumerable
    else .genericLinearBoolean

def kindCode : ComponentKind → UInt64
  | .smallEnumerable => 0
  | .exactlyOne => 1
  | .atMostOne => 2
  | .implicationDag => 3
  | .weightedThreshold => 4
  | .genericLinearBoolean => 5
open Fnv in
def hashComponents (components : List CompiledComponent) : UInt64 :=
  components.foldl (fun h c =>
    let ids := c.variableIds.foldl mixU32
      (mixU32 (mixByte (mixU32 h c.componentId) (kindCode c.kind)) c.variableIds.length)
    c.constraintIds.foldl mixU32 (mixU32 ids c.constraintIds.length)) offset
def componentHashString (c : CompiledComponent) : String := toString (hashComponents [c]).toNat

/-! Partition. -/

def uniteInto (size root : Nat) (s : Forest) (v : Nat) : Forest :=
  if root < size ∧ v < size then s.unite root v else s
def uniteEdge (size : Nat) (s : Forest) (e : ConstraintGraphEdge) : Forest :=
  match e.varIds with
  | [] => s
  | root::_ => e.varIds.foldl (uniteInto size root) s

-- The components found so far, each with its root; a component's id is its position.
abbrev Groups := List (Nat × CompiledComponent)
def modifyGroup (root : Nat) (f : CompiledComponent → CompiledComponent) (groups : Groups) : Groups :=
  groups.map fun g => if g.1 = root then (g.1,f g.2) else g
def addVariable (root varId : Nat) (groups : Groups) : Groups :=
  if root ∈ groups.map (·.1) then
    modifyGroup root (fun c => {c with variableIds := c.variableIds ++ [varId]}) groups
  else groups ++ [(root,{componentId := groups.length, variableIds := [varId]})]
def addConstraint (root constraintId : Nat) (groups : Groups) : Groups :=
  modifyGroup root (fun c => {c with constraintIds := c.constraintIds ++ [constraintId]}) groups
def placeNode (s : Forest × Groups) (n : ConstraintGraphNode) : Forest × Groups :=
  let found := s.1.find n.varId
  (found.1,addVariable found.2 n.varId s.2)
def placeEdge (s : Forest × Groups) (e : ConstraintGraphEdge) : Forest × Groups :=
  match e.varIds with
  | [] => s
  | first::_ =>
    let found := s.1.find first
    (found.1,addConstraint found.2 e.constraintId s.2)
def groupComponents (graph : ConstraintGraph) : Forest × Groups :=
  let united := graph.edges.foldl (uniteEdge graph.nodes.length) DisjointSet.initial
  graph.edges.foldl placeEdge (graph.nodes.foldl placeNode (united,[]))

def sortComponent (c : CompiledComponent) : CompiledComponent :=
  { c with
    variableIds := c.variableIds.insertionSort (· ≤ ·)
    constraintIds := c.constraintIds.insertionSort (· ≤ ·) }
def classified (set : CompiledConstraintSet) (c : CompiledComponent) : CompiledComponent :=
  let c := {c with kind := classifyComponent c set}
  {c with componentHash := componentHashString c}
def renumber (i : Nat) (c : CompiledComponent) : CompiledComponent :=
  let c := {c with componentId := i}
  {c with componentHash := componentHashString c}
structure ComponentPartitionResult where
  components : List CompiledComponent
  partitionHash : UInt64
  deriving DecidableEq
def partition (graph : ConstraintGraph) (set : CompiledConstraintSet) : ComponentPartitionResult :=
  let components := (groupComponents graph).2.map fun g => classified set (sortComponent g.2)
  let sorted := (components.insertionSort fun l r => l.variableIds ≤ r.variableIds).mapIdx renumber
  {components := sorted, partitionHash := hashComponents sorted}

/-! The variables of an edge end up under one root. -/

def Together (s : Forest) (u v : Nat) : Prop := s.root u = s.root v

theorem uniteAllKeeps {size root : Nat} {vs : List Nat} {s : Forest} {u v} (same : Together s u v) :
    Together (vs.foldl (uniteInto size root) s) u v := by
  induction vs generalizing s with
  | nil => exact same
  | cons w rest ih =>
    refine ih ?_
    unfold uniteInto
    split
    · exact (DisjointSet.uniteTogether s root w u v).mpr (.inl same)
    · exact same
theorem uniteAllJoins {size root : Nat} {vs : List Nat} (inside : root < size)
    (bound : ∀ v ∈ vs, v < size) {s : Forest} :
    ∀ v ∈ vs, Together (vs.foldl (uniteInto size root) s) root v := by
  induction vs generalizing s with
  | nil => simp
  | cons w rest ih =>
    intro v mem
    rw [List.foldl_cons]
    rcases List.mem_cons.mp mem with rfl | later
    · refine uniteAllKeeps ?_
      rw [uniteInto,if_pos ⟨inside,bound v List.mem_cons_self⟩]
      exact (DisjointSet.uniteTogether s root v root v).mpr (.inr (.inl ⟨rfl,rfl⟩))
    · exact ih (fun x there => bound x (List.mem_cons_of_mem _ there)) v later

theorem uniteEdgeKeeps {size s} (e : ConstraintGraphEdge) {u v} (same : Together s u v) :
    Together (uniteEdge size s e) u v := by
  unfold uniteEdge
  split
  · exact same
  · exact uniteAllKeeps same
theorem uniteEdgeJoins {size s} {e : ConstraintGraphEdge} (bound : ∀ v ∈ e.varIds, v < size) {u v}
    (first : u ∈ e.varIds)
    (second : v ∈ e.varIds) : Together (uniteEdge size s e) u v := by
  unfold uniteEdge
  split
  · next none =>
    rw [none] at first
    cases first
  · next root rest shape =>
    have joins := uniteAllJoins (s := s) (bound root (shape ▸ List.mem_cons_self)) bound
    exact (joins u first).symm.trans (joins v second)
theorem uniteEdgesKeep {size} {edges : List ConstraintGraphEdge} {s u v} (same : Together s u v) :
    Together (edges.foldl (uniteEdge size) s) u v := by
  induction edges generalizing s with
  | nil => exact same
  | cons e rest ih => exact ih (uniteEdgeKeeps e same)
theorem uniteEdgesJoin {size} {edges : List ConstraintGraphEdge} {s} {e} (mem : e ∈ edges)
    (bound : ∀ v ∈ e.varIds, v < size) {u v}
    (first : u ∈ e.varIds) (second : v ∈ e.varIds) : Together (edges.foldl (uniteEdge size) s) u v := by
  induction edges generalizing s with
  | nil => cases mem
  | cons head rest ih =>
    rw [List.foldl_cons]
    rcases List.mem_cons.mp mem with rfl | later
    · exact uniteEdgesKeep (uniteEdgeJoins bound first second)
    · exact ih later

/-! The groups are the classes of the final roots. -/

-- The groups after the variables vs and the edges es, under the root function r.
structure Grouped (r : Nat → Nat) (vs : List Nat) (es : List ConstraintGraphEdge) (groups : Groups) : Prop where
  unique : (groups.map (·.1)).Nodup
  vars : ∀ g ∈ groups, g.2.variableIds = vs.filter fun v => decide (r v = g.1)
  constraints : ∀ g ∈ groups,
    g.2.constraintIds = (es.filter fun e => decide (e.varIds.head?.map r = some g.1)).map (·.constraintId)
  covered : ∀ k, k ∈ groups.map (·.1) ↔ ∃ v ∈ vs, r v = k

theorem modifyKeys (root f) (groups : Groups) : (modifyGroup root f groups).map (·.1) = groups.map (·.1) := by
  rw [modifyGroup,List.map_map]
  apply List.map_congr_left
  intro g _
  simp only [Function.comp]
  split <;> rfl
theorem modifyMember {root f} {groups : Groups} {g} (mem : g ∈ modifyGroup root f groups) :
    ∃ old ∈ groups, g = if old.1 = root then (old.1,f old.2) else old := by
  obtain ⟨old,there,rfl⟩ := List.mem_map.mp mem
  exact ⟨old,there,rfl⟩

theorem rootsAppend (r : Nat → Nat) (vs v k) : (∃ w ∈ vs ++ [v], r w = k) ↔ (∃ w ∈ vs, r w = k) ∨ r v = k := by
  simp [List.mem_append,or_and_right,exists_or]

theorem knownGrouped {r vs groups} (ok : Grouped r vs [] groups) {v} (known : r v ∈ groups.map (·.1)) :
    Grouped r (vs ++ [v]) []
      (modifyGroup (r v) (fun c => {c with variableIds := c.variableIds ++ [v]}) groups) := by
  refine ⟨by rw [modifyKeys]; exact ok.unique,?_,?_,?_⟩
  · intro g mem
    obtain ⟨old,there,rfl⟩ := modifyMember mem
    rw [List.filter_append]
    split
    · next here => simp [ok.vars old there,here]
    · next other => simp [ok.vars old there,Ne.symm other]
  · intro g mem
    obtain ⟨old,there,rfl⟩ := modifyMember mem
    split <;> exact ok.constraints old there
  · intro k
    rw [modifyKeys,rootsAppend,ok.covered]
    refine ⟨.inl,?_⟩
    rintro (old | rfl)
    · exact old
    · exact (ok.covered _).mp known

theorem freshGrouped {r vs groups} (ok : Grouped r vs [] groups) {v} (fresh : r v ∉ groups.map (·.1)) :
    Grouped r (vs ++ [v]) [] (groups ++ [(r v,{componentId := groups.length, variableIds := [v]})]) := by
  have lone : vs.filter (fun w => decide (r w = r v)) = [] := by
    rw [List.filter_eq_nil_iff]
    intro w mem same
    exact fresh ((ok.covered _).mpr ⟨w,mem,decide_eq_true_eq.mp same⟩)
  refine ⟨?_,?_,?_,?_⟩
  · rw [List.map_append,List.nodup_append]
    refine ⟨ok.unique,by simp,?_⟩
    intro a old b last same
    rw [same,List.mem_singleton.mp last] at old
    exact fresh old
  · intro g mem
    rw [List.filter_append]
    rcases List.mem_append.mp mem with old | last
    · have other : r v ≠ g.1 := fun same => fresh (same ▸ List.mem_map_of_mem old)
      simp [ok.vars g old,other]
    · rw [List.mem_singleton.mp last,lone]
      simp
  · intro g mem
    rcases List.mem_append.mp mem with old | last
    · exact ok.constraints g old
    · rw [List.mem_singleton.mp last]
      rfl
  · intro k
    rw [List.map_append,List.mem_append,rootsAppend,ok.covered]
    simp [eq_comm]

theorem addVariableGrouped {r vs groups} (ok : Grouped r vs [] groups) (v) :
    Grouped r (vs ++ [v]) [] (addVariable (r v) v groups) := by
  unfold addVariable
  split
  · next known => exact knownGrouped ok known
  · next fresh => exact freshGrouped ok fresh

theorem addConstraintGrouped {r vs es groups} (ok : Grouped r vs es groups) {e : ConstraintGraphEdge} {first}
    (head : e.varIds.head? = some first) :
    Grouped r vs (es ++ [e]) (addConstraint (r first) e.constraintId groups) := by
  unfold addConstraint
  refine ⟨by rw [modifyKeys]; exact ok.unique,?_,?_,by rw [modifyKeys]; exact ok.covered⟩
  · intro g mem
    obtain ⟨old,there,rfl⟩ := modifyMember mem
    split <;> exact ok.vars old there
  · intro g mem
    obtain ⟨old,there,rfl⟩ := modifyMember mem
    rw [List.filter_append]
    split
    · next here => simp [ok.constraints old there,head,here]
    · next other => simp [ok.constraints old there,head,Ne.symm other]
theorem emptyEdgeGrouped {r vs es groups} (ok : Grouped r vs es groups) {e : ConstraintGraphEdge}
    (none : e.varIds = []) :
    Grouped r vs (es ++ [e]) groups := by
  refine ⟨ok.unique,ok.vars,?_,ok.covered⟩
  intro g mem
  rw [ok.constraints g mem,List.filter_append]
  simp [none]

theorem placeNodesGrouped {r} (nodes : List ConstraintGraphNode) {s : Forest × Groups} {vs : List Nat}
    (roots : ∀ v, s.1.root v = r v)
    (ok : Grouped r vs [] s.2) :
    (∀ v, (nodes.foldl placeNode s).1.root v = r v) ∧
      Grouped r (vs ++ nodes.map (·.varId)) [] (nodes.foldl placeNode s).2 := by
  induction nodes generalizing s vs with
  | nil => simpa using ⟨roots,ok⟩
  | cons n rest ih =>
    have found : (s.1.find n.varId).2 = r n.varId := by rw [DisjointSet.findRoot,roots]
    have placed : Grouped r (vs ++ [n.varId]) [] (placeNode s n).2 := by
      rw [placeNode,found]
      exact addVariableGrouped ok n.varId
    have next := ih (fun v => by rw [placeNode,DisjointSet.findKeeps,roots]) placed
    rw [List.foldl_cons,List.map_cons]
    simpa using next
theorem placeEdgesGrouped {r vs} {edges : List ConstraintGraphEdge} {s : Forest × Groups} {es}
    (roots : ∀ v, s.1.root v = r v)
    (ok : Grouped r vs es s.2) : Grouped r vs (es ++ edges) (edges.foldl placeEdge s).2 := by
  induction edges generalizing s es with
  | nil => simpa using ok
  | cons e rest ih =>
    rw [List.foldl_cons,List.append_cons]
    cases shape : e.varIds with
    | nil =>
      have same : placeEdge s e = s := by rw [placeEdge,shape]
      rw [same]
      exact ih roots (emptyEdgeGrouped ok shape)
    | cons first tail =>
      have placed : placeEdge s e = ((s.1.find first).1,addConstraint (s.1.find first).2 e.constraintId s.2) := by
        rw [placeEdge,shape]
      rw [placed]
      refine ih (fun v => by rw [DisjointSet.findKeeps,roots]) ?_
      rw [DisjointSet.findRoot,roots]
      exact addConstraintGrouped ok (by rw [shape]; rfl)

/-! What a component of the partition is. -/

structure Component (set : CompiledConstraintSet) (component : CompiledComponent) : Prop where
  increasing : component.variableIds.Pairwise (· < ·)
  bounded : ∀ v ∈ component.variableIds, v < set.vars.length
  constraints : ∀ id ∈ component.constraintIds, ∃ c, set.constraints[id]? = some c ∧
    ∀ v ∈ c.varIds, v ∈ component.variableIds
  kind : component.kind = classifyComponent component set

theorem graphNodes {set} (ok : WellFormed set) :
    (buildGraph set).nodes.map (·.varId) = List.range set.vars.length := by
  apply List.ext_getElem
  · simp [buildGraph]
  · intro i first _
    have bound : i < set.vars.length := by simpa [buildGraph] using first
    simpa [buildGraph] using ok.numbered i _ (List.getElem?_eq_getElem bound)
theorem graphEdge {set e} (mem : e ∈ (buildGraph set).edges) :
    ∃ c, set.constraints[e.constraintId]? = some c ∧ ∀ v, v ∈ e.varIds ↔ v ∈ c.varIds := by
  obtain ⟨i,here⟩ := List.mem_iff_getElem?.mp mem
  simp only [buildGraph,List.getElem?_mapIdx,Option.map_eq_some_iff] at here
  obtain ⟨c,there,rfl⟩ := here
  exact ⟨c,there,fun v => (List.perm_insertionSort _ c.varIds).mem_iff⟩
theorem edgeBound {set} (ok : WellFormed set) {e} (mem : e ∈ (buildGraph set).edges) :
    ∀ v ∈ e.varIds, v < set.vars.length := by
  intro v there
  obtain ⟨c,here,ids⟩ := graphEdge mem
  exact groundedBound ok (ok.grounded c (List.mem_of_getElem? here)) ((ids v).mp there)

def finalRoot (set : CompiledConstraintSet) (v : Nat) : Nat :=
  ((buildGraph set).edges.foldl (uniteEdge (buildGraph set).nodes.length) DisjointSet.initial).root v
theorem finalRootEdge {set} (ok : WellFormed set) {e} (mem : e ∈ (buildGraph set).edges) {u v}
    (first : u ∈ e.varIds)
    (second : v ∈ e.varIds) : finalRoot set u = finalRoot set v := by
  apply uniteEdgesJoin mem _ first second
  have size : (buildGraph set).nodes.length = set.vars.length := by simp [buildGraph]
  rw [size]
  exact edgeBound ok mem
theorem componentsGrouped {set} (ok : WellFormed set) :
    Grouped (finalRoot set) (List.range set.vars.length) (buildGraph set).edges
      (groupComponents (buildGraph set)).2 := by
  have empty : Grouped (finalRoot set) [] [] [] := ⟨by simp,by simp,by simp,by simp⟩
  have nodes := placeNodesGrouped (buildGraph set).nodes
    (s := ((buildGraph set).edges.foldl (uniteEdge (buildGraph set).nodes.length) DisjointSet.initial,[]))
    (fun _ => rfl) empty
  rw [List.nil_append,graphNodes ok] at nodes
  exact placeEdgesGrouped nodes.1 nodes.2

theorem partitionMember {graph set component} (mem : component ∈ (partition graph set).components) :
    ∃ g ∈ (groupComponents graph).2, component.variableIds = g.2.variableIds.insertionSort (· ≤ ·) ∧
      component.constraintIds = g.2.constraintIds.insertionSort (· ≤ ·) ∧
      component.kind = classifyComponent component set := by
  obtain ⟨i,here⟩ := List.mem_iff_getElem?.mp mem
  simp only [partition,List.getElem?_mapIdx,Option.map_eq_some_iff] at here
  obtain ⟨c,there,rfl⟩ := here
  have source := (List.perm_insertionSort _ _).mem_iff.mp (List.mem_of_getElem? there)
  obtain ⟨g,inside,rfl⟩ := List.mem_map.mp source
  exact ⟨g,inside,rfl,rfl,rfl⟩

theorem partitionComponent {set component} (ok : WellFormed set)
    (mem : component ∈ (partition (buildGraph set) set).components) :
    Component set component := by
  have grouped := componentsGrouped ok
  obtain ⟨g,there,ids,constraints,kind⟩ := partitionMember mem
  have member : ∀ v, v ∈ component.variableIds ↔ v < set.vars.length ∧ finalRoot set v = g.1 := by
    intro v
    rw [ids,(List.perm_insertionSort _ _).mem_iff,grouped.vars g there]
    simp
  have unique : component.variableIds.Nodup := by
    rw [ids,(List.perm_insertionSort _ _).nodup_iff,grouped.vars g there]
    exact List.nodup_range.filter _
  have sorted : component.variableIds.Pairwise (· ≤ ·) := by
    rw [ids]
    exact List.pairwise_insertionSort _ _
  refine ⟨?_,fun v mem => ((member v).mp mem).1,?_,kind⟩
  · exact (sorted.and unique).imp fun h => Nat.lt_of_le_of_ne h.1 h.2
  · intro id listed
    rw [constraints,(List.perm_insertionSort _ _).mem_iff,grouped.constraints g there] at listed
    obtain ⟨e,kept,rfl⟩ := List.mem_map.mp listed
    obtain ⟨inside,root⟩ := List.mem_filter.mp kept
    rw [decide_eq_true_eq,Option.map_eq_some_iff] at root
    obtain ⟨first,head,same⟩ := root
    obtain ⟨c,here,vars⟩ := graphEdge inside
    refine ⟨c,here,fun v listed => (member v).mpr ?_⟩
    have there := (vars v).mpr listed
    exact ⟨edgeBound ok inside v there,(finalRootEdge ok inside there (List.mem_of_mem_head? head)).trans same⟩

end Polytope.ComponentPartitioner
