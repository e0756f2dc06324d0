import Polytope.OracleFaithfulness

/-! The partition of a compiled set: its components are the classes of the variables connected
through constraints, and the checks of the components together are the check of the whole. -/
namespace Polytope.PartitionSoundness
open OracleTypes ConstraintCompiler ComponentPartitioner StateEnumeration OracleFaithfulness
open DisjointSet (Forest Within)

def Shares (set : CompiledConstraintSet) (u v : Nat) : Prop := ∃ c ∈ set.constraints, u ∈ c.varIds ∧ v ∈ c.varIds
def Connected (set : CompiledConstraintSet) : Nat → Nat → Prop := Relation.ReflTransGen (Shares set)
def restriction (component : CompiledComponent) (x : Nat → Bool) (v : Nat) : Bool :=
  decide (v ∈ component.variableIds) && x v

structure Sound (set : CompiledConstraintSet) (components : List CompiledComponent) : Prop where
  ids : (components.flatMap (·.variableIds)).Perm (set.vars.map (·.varId))
  constraints : (components.flatMap (·.constraintIds)).Perm (List.range set.constraints.length)
  inside : ∀ component ∈ components, ∀ id ∈ component.constraintIds, ∀ c, set.constraints[id]? = some c →
    ∀ v ∈ c.varIds, v ∈ component.variableIds
  connected : ∀ u ∈ set.vars.map (·.varId), ∀ v ∈ set.vars.map (·.varId),
    (∃ component ∈ components, u ∈ component.variableIds ∧ v ∈ component.variableIds) ↔ Connected set u v
  feasible : ∀ state : StateBitset, (check set state).feasible = true ↔
    ∀ component ∈ components, SatisfiedBy set component (restriction component state.test)

/-! The classes are the connected variables. -/

theorem connectedEquivalence (set) : Equivalence (Connected set) := by
  refine ⟨fun _ => .refl,fun path => ?_,fun first second => first.trans second⟩
  induction path with
  | refl => exact .refl
  | tail _ share ih =>
    obtain ⟨c,mem,left,right⟩ := share
    exact .head ⟨c,mem,right,left⟩ ih

theorem uniteAllWithin {R : Nat → Nat → Prop} (equiv : Equivalence R) {size root : Nat} {vs : List Nat}
    {s : Forest} (ok : Within R s)
    (pairs : ∀ v ∈ vs, R root v) : Within R (vs.foldl (uniteInto size root) s) := by
  induction vs generalizing s with
  | nil => exact ok
  | cons v rest ih =>
    refine ih ?_ fun w mem => pairs w (List.mem_cons_of_mem _ mem)
    unfold uniteInto
    split
    · exact DisjointSet.uniteWithin equiv ok (pairs v List.mem_cons_self)
    · exact ok
theorem uniteEdgesWithin {R : Nat → Nat → Prop} (equiv : Equivalence R) {size}
    {edges : List ConstraintGraphEdge} {s : Forest}
    (ok : Within R s) (pairs : ∀ e ∈ edges, ∀ u ∈ e.varIds, ∀ v ∈ e.varIds, R u v) :
    Within R (edges.foldl (uniteEdge size) s) := by
  induction edges generalizing s with
  | nil => exact ok
  | cons e rest ih =>
    refine ih ?_ fun d mem => pairs d (List.mem_cons_of_mem _ mem)
    have here := pairs e List.mem_cons_self
    unfold uniteEdge
    split
    · exact ok
    · next root tail shape => exact uniteAllWithin equiv ok (here root (shape ▸ List.mem_cons_self))

section
variable {set : CompiledConstraintSet} (ok : WellFormed set)
include ok

theorem finalRootShares {u v} (share : Shares set u v) : finalRoot set u = finalRoot set v := by
  obtain ⟨c,mem,first,second⟩ := share
  obtain ⟨i,here⟩ := List.mem_iff_getElem?.mp mem
  have edge : (buildGraph set).edges[i]? = some ⟨i,c.varIds.insertionSort (· ≤ ·)⟩ := by simp [buildGraph,here]
  have sorted : ∀ w, w ∈ c.varIds.insertionSort (· ≤ ·) ↔ w ∈ c.varIds :=
    fun w => (List.perm_insertionSort _ _).mem_iff
  exact finalRootEdge ok (List.mem_of_getElem? edge) ((sorted u).mpr first) ((sorted v).mpr second)
theorem finalRootConnected (u v) : finalRoot set u = finalRoot set v ↔ Connected set u v := by
  constructor
  · refine uniteEdgesWithin (connectedEquivalence set)
      (DisjointSet.initialWithin (connectedEquivalence set)) ?_ u v
    intro e mem a first b second
    obtain ⟨c,here,ids⟩ := graphEdge mem
    exact .single ⟨c,List.mem_of_getElem? here,(ids a).mp first,(ids b).mp second⟩
  · intro path
    induction path with
    | refl => rfl
    | tail _ share ih => exact ih.trans (finalRootShares ok share)

end

/-! The classes of a root function cover a list once. -/

theorem classesPerm {α : Type} (r : α → Option Nat) {keys : List Nat} {xs : List α} (unique : keys.Nodup)
    (once : xs.Nodup)
    (covered : ∀ x ∈ xs, ∃ k ∈ keys, r x = some k) :
    (keys.flatMap fun k => xs.filter fun x => decide (r x = some k)).Perm xs := by
  refine (List.perm_ext_iff_of_nodup ?_ once).mpr fun x => ?_
  · refine List.nodup_flatMap.mpr ⟨fun k _ => once.filter _,unique.imp fun apart => ?_⟩
    intro x first second
    simp only [List.mem_filter,decide_eq_true_eq] at first second
    exact apart (Option.some.inj (first.2.symm.trans second.2))
  · simp only [List.mem_flatMap,List.mem_filter,decide_eq_true_eq]
    constructor
    · rintro ⟨_,_,mem,_⟩
      exact mem
    · intro mem
      obtain ⟨k,there,same⟩ := covered x mem
      exact ⟨k,there,mem,same⟩

theorem partitionPerm (graph set) :
    ((partition graph set).components.map fun c => (c.variableIds,c.constraintIds)).Perm
      ((groupComponents graph).2.map fun g =>
        (g.2.variableIds.insertionSort (· ≤ ·),g.2.constraintIds.insertionSort (· ≤ ·))) := by
  have renumbered : ∀ cs : List CompiledComponent,
      (cs.mapIdx renumber).map (fun c => (c.variableIds,c.constraintIds)) = cs.map fun c =>
      (c.variableIds,c.constraintIds) := by
    intro cs
    apply List.ext_getElem
    · simp
    · simp [renumber]
  rw [partition,renumbered]
  refine ((List.perm_insertionSort _ _).map _).trans ?_
  rw [List.map_map]
  exact .refl _

section
variable {set : CompiledConstraintSet} (ok : WellFormed set)
include ok

theorem varIds : set.vars.map (·.varId) = List.range set.vars.length := by
  rw [← graphNodes ok]
  simp [buildGraph]
theorem edgeRoot {e} (mem : e ∈ (buildGraph set).edges) :
    ∃ k ∈ (groupComponents (buildGraph set)).2.map (·.1), e.varIds.head?.map (finalRoot set) = some k := by
  obtain ⟨c,here,ids⟩ := graphEdge mem
  obtain ⟨v,listed⟩ := List.exists_mem_of_ne_nil _ (ok.grounded c (List.mem_of_getElem? here)).filled
  obtain ⟨first,rest,shape⟩ := List.exists_cons_of_ne_nil (List.ne_nil_of_mem ((ids v).mpr listed))
  have bound := edgeBound ok mem first (shape ▸ List.mem_cons_self)
  refine ⟨finalRoot set first,((componentsGrouped ok).covered _).mpr ⟨first,by simpa using bound,rfl⟩,?_⟩
  rw [shape]
  rfl

theorem variablesOnce : ((partition (buildGraph set) set).components.flatMap (·.variableIds)).Perm
    (List.range set.vars.length) := by
  have grouped := componentsGrouped ok
  have classes := classesPerm (fun v => some (finalRoot set v)) grouped.unique
    (List.nodup_range (n := set.vars.length))
    fun v mem => ⟨finalRoot set v,(grouped.covered _).mpr ⟨v,mem,rfl⟩,rfl⟩
  have perm := (partitionPerm (buildGraph set) set).flatMap_right (·.1)
  rw [List.flatMap_map,List.flatMap_map] at perm
  rw [List.flatMap_map] at classes
  refine perm.trans ((List.Perm.flatMap_left _ fun g mem => ?_).trans classes)
  refine (List.perm_insertionSort _ _).trans ?_
  rw [grouped.vars g mem]
  simp
theorem constraintsOnce :
    ((partition (buildGraph set) set).components.flatMap (·.constraintIds)).Perm
    (List.range set.constraints.length) := by
  have grouped := componentsGrouped ok
  have numbered : (buildGraph set).edges.map (·.constraintId) = List.range set.constraints.length := by
    apply List.ext_getElem
    · simp [buildGraph]
    · simp [buildGraph]
  have once : (buildGraph set).edges.Nodup := by
    apply List.Nodup.of_map (·.constraintId)
    rw [numbered]
    exact List.nodup_range
  have classes := (classesPerm
    (fun e : ConstraintGraphEdge => e.varIds.head?.map (finalRoot set)) grouped.unique once
    fun e mem => edgeRoot ok mem).map (·.constraintId)
  have perm := (partitionPerm (buildGraph set) set).flatMap_right (·.2)
  rw [List.flatMap_map,List.flatMap_map] at perm
  rw [List.flatMap_map,List.map_flatMap,numbered] at classes
  refine perm.trans ((List.Perm.flatMap_left _ fun g mem => ?_).trans classes)
  refine (List.perm_insertionSort _ _).trans ?_
  rw [grouped.constraints g mem]

theorem memberRoot {component} (mem : component ∈ (partition (buildGraph set) set).components) :
    ∃ k, ∀ v, v ∈ component.variableIds ↔ v < set.vars.length ∧ finalRoot set v = k := by
  obtain ⟨g,there,ids,_,_⟩ := partitionMember mem
  refine ⟨g.1,fun v => ?_⟩
  rw [ids,(List.perm_insertionSort _ _).mem_iff,(componentsGrouped ok).vars g there]
  simp
theorem sharedIff {u v} (first : u < set.vars.length) (second : v < set.vars.length) :
    (∃ component ∈ (partition (buildGraph set) set).components, u ∈ component.variableIds ∧
      v ∈ component.variableIds) ↔
      Connected set u v := by
  rw [← finalRootConnected ok]
  constructor
  · rintro ⟨component,mem,inU,inV⟩
    obtain ⟨k,members⟩ := memberRoot ok mem
    exact ((members u).mp inU).2.trans ((members v).mp inV).2.symm
  · intro same
    have listed := (variablesOnce ok).mem_iff.mpr (List.mem_range.mpr first)
    obtain ⟨component,mem,inU⟩ := List.mem_flatMap.mp listed
    obtain ⟨k,members⟩ := memberRoot ok mem
    exact ⟨component,mem,inU,(members v).mpr ⟨second,same ▸ ((members u).mp inU).2⟩⟩

theorem feasibleIff (state : StateBitset) : (check set state).feasible = true ↔
    ∀ component ∈ (partition (buildGraph set) set).components,
      SatisfiedBy set component (restriction component state.test) := by
  have sized : ∀ c ∈ set.constraints, c.varIds.length = c.coeffs.length :=
    fun c mem => (ok.grounded c mem).sized.symm
  have kept : ∀ component ∈ (partition (buildGraph set) set).components,
      (SatisfiedBy set component (restriction component state.test) ↔ SatisfiedBy set component state.test) := by
    intro component mem
    refine satisfiedSupport ok (partitionComponent ok mem) _ _ fun v listed => ?_
    simp [restriction,listed]
  rw [check,checkSized sized,List.all_eq_true]
  constructor
  · intro all component mem
    refine (kept component mem).mpr fun c listed => ?_
    obtain ⟨id,_,here⟩ := List.mem_filterMap.mp listed
    exact all c (List.mem_of_getElem? here)
  · intro all c mem
    obtain ⟨id,here⟩ := List.mem_iff_getElem?.mp mem
    have bound := (List.getElem?_eq_some_iff.mp here).1
    have listed := (constraintsOnce ok).mem_iff.mpr (List.mem_range.mpr bound)
    obtain ⟨component,there,inside⟩ := List.mem_flatMap.mp listed
    exact (kept component there).mp (all component there) c (List.mem_filterMap.mpr ⟨id,inside,here⟩)

end

theorem partitionSound {set} (compiled : Compiled set) :
    Sound set (partition (buildGraph set) set).components := by
  have ok := compiledWellFormed compiled
  refine ⟨?_,constraintsOnce ok,?_,?_,feasibleIff ok⟩
  · rw [varIds ok]
    exact variablesOnce ok
  · intro component mem id listed c here
    obtain ⟨d,there,inside⟩ := (partitionComponent ok mem).constraints id listed
    rw [here] at there
    exact Option.some.inj there ▸ inside
  · intro u first v second
    rw [varIds ok,List.mem_range] at first second
    exact sharedIff ok first second
-- Three yes/no markets and the rule that exactly one of them resolves to yes: one component of six.
theorem racePartitionSound :
    Compiled raceSet ∧ ((partition (buildGraph raceSet) raceSet).components.map (·.variableIds)) =
      [[0,1,2,3,4,5]] ∧
      Sound raceSet (partition (buildGraph raceSet) raceSet).components := by
  have compiled : Compiled raceSet := .intrinsic _ (.rules (by decide +kernel))
  exact ⟨compiled,by decide +kernel,partitionSound compiled⟩

end Polytope.PartitionSoundness
