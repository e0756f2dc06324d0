import Polytope.ComponentOracles

/-! When a component's oracle answers for the component's constraints. Each kind has its own
condition: the cardinality oracles need the constraints to say what the count says, and the
enumerating oracle checks a global state with local numbers. -/
namespace Polytope.OracleFaithfulness
open OracleTypes ConstraintCompiler ComponentPartitioner StateEnumeration ComponentOracles Cardinality
open FixedPointMath (i64Max InI64)

inductive Compiled : CompiledConstraintSet → Prop where
  | rules {rulebook vars} (ok : (compile rulebook vars).errors = []) : Compiled (compile rulebook vars).compiled
  | intrinsic {set} (markets) (ok : Compiled set) : Compiled (withIntrinsic markets set)
theorem compiledWellFormed {set} (compiled : Compiled set) : WellFormed set := by
  induction compiled with
  | rules ok => exact compileWellFormed ok
  | intrinsic markets _ ih => exact intrinsicWellFormed markets ih

def SatisfiedBy (set : CompiledConstraintSet) (component : CompiledComponent) (x : Nat → Bool) : Prop :=
  ∀ c ∈ constraintsOf set component, satisfies x c = true
def valueOf (set : CompiledConstraintSet) (x : Nat → Bool) (key : String) : Bool :=
  x ((indexVariables set.vars key).getD 0)
def Profits (set : CompiledConstraintSet) (component : CompiledComponent)
    (objective : List BundleObjectiveLeg) : Set Int :=
  {p | ∃ state : StateBitset, SatisfiedBy set component state.test ∧ profit (valueOf set state.test) objective = p}
structure Faithful (set : CompiledConstraintSet) (component : CompiledComponent) (oracle : FeasibleStateOracle)
    (objective : List BundleObjectiveLeg) : Prop where
  feasible : ∀ state, oracle.isFeasible state = true ↔ SatisfiedBy set component state.test
  least : IsLeast (Profits set component objective) (oracle.minPayoff objective).minProfitTick

-- No partial sum of the objective leaves the 64-bit range, in any assignment.
def InRange (objective : List BundleObjectiveLeg) : Prop :=
  ∀ (value : String → Bool) (n : Nat), InI64 (profit value (objective.take n)) ∧
    ∀ leg ∈ objective[n]?, InI64 (profit value (objective.take n) + gain (value leg.variableId) leg)
def Over (set : CompiledConstraintSet) (component : CompiledComponent)
    (objective : List BundleObjectiveLeg) : Prop :=
  ∀ leg ∈ objective, leg.variableId ∈ keysOf set component

/-! The conditions. -/

def CoversOnce (set : CompiledConstraintSet) (component : CompiledComponent) : Prop :=
  ∀ c ∈ constraintsOf set component, c.varIds.Nodup ∧ (c.op = .equal → ∀ v ∈ component.variableIds, v ∈ c.varIds)
def PairwiseExclusive (set : CompiledConstraintSet) (component : CompiledComponent) : Prop :=
  (∀ c ∈ constraintsOf set component, c.varIds.Nodup ∧ c.op ≠ .equal) ∧
    ∀ u ∈ component.variableIds, ∀ v ∈ component.variableIds, u ≠ v →
      ∃ c ∈ constraintsOf set component, u ∈ c.varIds ∧ v ∈ c.varIds
-- Renumbering leaves every variable the constraints depend on in place.
def KeepsNumbers (set : CompiledConstraintSet) (component : CompiledComponent) : Prop :=
  ∀ v ∈ component.variableIds, Depends (SatisfiedBy set component) v → localId component v = v
def Agrees (set : CompiledConstraintSet) (component : CompiledComponent) : Prop :=
  match component.kind with
  | .smallEnumerable => KeepsNumbers set component
  | .exactlyOne => CoversOnce set component
  | .atMostOne => PairwiseExclusive set component
  | _ => True

/-! Shapes of the constraints of a classified component. -/

theorem unitSumCounts {op c} (unit : unitSum op c = true) (sized : c.coeffs.length = c.varIds.length) :
    c.op = op ∧ ∀ x, satisfies x c = evaluate (trueCount x c.varIds) op 1 := by
  simp only [unitSum,allCoeffsOne,Bool.and_eq_true,decide_eq_true_eq,List.all_eq_true] at unit
  obtain ⟨⟨sameOp,rhs⟩,ones⟩ := unit
  have coeffs : c.coeffs = List.replicate c.varIds.length 1 := by
    rw [← sized]
    exact List.eq_replicate_of_mem ones
  exact ⟨sameOp,fun x => by rw [satisfies,lhsOnes x coeffs,sameOp,rhs]⟩

def Counting (c : LinearBooleanConstraint) : Prop :=
  (c.op = .equal ∧ ∀ x, satisfies x c = true ↔ trueCount x c.varIds = 1) ∨
    (c.op = .lessEqual ∧ ∀ x, satisfies x c = true ↔ trueCount x c.varIds ≤ 1)
theorem unitSumEqual {c} (unit : unitSum .equal c = true) (sized : c.coeffs.length = c.varIds.length) :
    c.op = .equal ∧ ∀ x, satisfies x c = true ↔ trueCount x c.varIds = 1 := by
  obtain ⟨op,counts⟩ := unitSumCounts unit sized
  refine ⟨op,fun x => ?_⟩
  rw [counts,evaluate,decide_eq_true_eq]
  omega
theorem unitSumLessEqual {c} (unit : unitSum .lessEqual c = true) (sized : c.coeffs.length = c.varIds.length) :
    c.op = .lessEqual ∧ ∀ x, satisfies x c = true ↔ trueCount x c.varIds ≤ 1 := by
  obtain ⟨op,counts⟩ := unitSumCounts unit sized
  refine ⟨op,fun x => ?_⟩
  rw [counts,evaluate,decide_eq_true_eq]
  omega

theorem supportedUnit {c} (supported : supportedShape c = true) : unitSum .equal c = true ∨
    unitSum .lessEqual c = true := by
  simp only [supportedShape,isLargeExactlyOneHyperedge,isLargeAtMostOneHyperedge,isBinaryComplementConstraint,
    Bool.or_eq_true,
    Bool.and_eq_true] at supported
  rcases supported with (large | large) | binary
  · exact .inl large.1
  · exact .inr large.1
  · exact .inl binary.1
theorem classifySingleShape {component cs kind} (h : classifySingle component cs = some kind) :
    ∃ c, cs = [c] ∧ ((kind = .exactlyOne ∧ unitSum .equal c = true) ∨
      (kind = .atMostOne ∧ unitSum .lessEqual c = true)) := by
  unfold classifySingle at h
  split at h
  · next c =>
    split at h
    · next exactly =>
      rw [isExactlyOneConstraint,Bool.and_eq_true] at exactly
      exact ⟨c,rfl,.inl ⟨(Option.some.inj h).symm,exactly.1⟩⟩
    · split at h
      · next most =>
        rw [isAtMostOneConstraint,Bool.and_eq_true] at most
        exact ⟨c,rfl,.inr ⟨(Option.some.inj h).symm,most.1⟩⟩
      · cases h
  · cases h

theorem classifyShape (component set) :
    (classifyComponent component set = .exactlyOne →
      (∀ c ∈ constraintsOf set component, unitSum .equal c = true ∨ unitSum .lessEqual c = true) ∧
        ∃ c ∈ constraintsOf set component, unitSum .equal c = true) ∧
    (classifyComponent component set = .atMostOne →
      ∀ c ∈ constraintsOf set component, unitSum .equal c = true ∨ unitSum .lessEqual c = true) ∧
    (classifyComponent component set = .smallEnumerable → component.variableIds.length ≤ 32) := by
  unfold classifyComponent
  simp only
  split
  · next kind single =>
    obtain ⟨c,shape,cases_⟩ := classifySingleShape single
    rw [shape]
    rcases cases_ with ⟨rfl,unit⟩ | ⟨rfl,unit⟩ <;> simp [unit]
  · split
    · next exactly =>
      obtain ⟨⟨_,supported⟩,large⟩ := exactly
      rw [List.all_eq_true] at supported
      obtain ⟨c,there,edge⟩ := List.any_eq_true.mp large
      rw [isLargeExactlyOneHyperedge,Bool.and_eq_true] at edge
      exact ⟨fun _ => ⟨fun d mem => supportedUnit (supported d mem),c,there,edge.1⟩,by simp,by simp⟩
    · split
      · next most =>
        have supported := most.1.2
        rw [List.all_eq_true] at supported
        exact ⟨by simp,fun _ d mem => supportedUnit (supported d mem),by simp⟩
      · split
        · next small => exact ⟨by simp,by simp,fun _ => small⟩
        · exact ⟨by simp,by simp,by simp⟩

/-! Feasibility. -/

theorem satisfiesCongr {x y : Nat → Bool} {c} (agree : ∀ v ∈ c.varIds, x v = y v) :
    satisfies x c = satisfies y c := by
  have same : lhs x c = lhs y c := by
    unfold lhs
    congr 1
    apply List.map_congr_left
    intro t mem
    rw [agree t.1 (List.of_mem_zip mem).1]
  rw [satisfies,satisfies,same]

theorem uniqueIds {set component} (comp : Component set component) : component.variableIds.Nodup :=
  comp.increasing.imp fun h => Nat.ne_of_lt h
theorem countSupport {set component} (comp : Component set component) {x y : Nat → Bool}
    (agree : ∀ v < set.vars.length, x v = y v) :
    trueCount x component.variableIds = trueCount y component.variableIds :=
  trueCountCongr fun v mem => agree v (comp.bounded v mem)

section
variable {set : CompiledConstraintSet} {component : CompiledComponent} (ok : WellFormed set)
  (comp : Component set component)
include ok comp

theorem constraintInside {c} (mem : c ∈ constraintsOf set component) :
    (∀ v ∈ c.varIds, v ∈ component.variableIds) ∧ c.coeffs.length = c.varIds.length := by
  obtain ⟨id,listed,here⟩ := List.mem_filterMap.mp mem
  obtain ⟨d,there,inside⟩ := comp.constraints id listed
  rw [here] at there
  cases Option.some.inj there
  exact ⟨inside,(ok.grounded c (List.mem_of_getElem? here)).sized⟩
theorem satisfiedSupport (x y : Nat → Bool) (agree : ∀ v ∈ component.variableIds, x v = y v) :
    SatisfiedBy set component x ↔ SatisfiedBy set component y := by
  have same : ∀ c ∈ constraintsOf set component, satisfies x c = satisfies y c := fun c mem =>
    satisfiesCongr fun v there => agree v ((constraintInside ok comp mem).1 v there)
  constructor
  · exact fun sat c mem => same c mem ▸ sat c mem
  · exact fun sat c mem => (same c mem).symm ▸ sat c mem

theorem overAssignments {P : (Nat → Bool) → Prop}
    (support : ∀ x y, (∀ v < set.vars.length, x v = y v) → (P x ↔ P y)) :
    (∀ state : StateBitset, P state.test ↔ SatisfiedBy set component state.test) ↔
    ∀ x, P x ↔ SatisfiedBy set component x := by
  refine ⟨fun states x => ?_,fun all state => all state.test⟩
  have values : ∀ v < set.vars.length, (assignment x set.vars.length).test v = x v :=
    fun v bound => assignmentTest x bound
  rw [← support _ _ values,states]
  exact satisfiedSupport ok comp _ _ fun v mem => values v (comp.bounded v mem)

theorem countingConstraint {c} (mem : c ∈ constraintsOf set component)
    (unit : unitSum .equal c = true ∨ unitSum .lessEqual c = true) :
    Counting c := by
  have sized := (constraintInside ok comp mem).2
  rcases unit with equal | less
  · exact .inl (unitSumEqual equal sized)
  · exact .inr (unitSumLessEqual less sized)

theorem nodupOfSingles {c} (mem : c ∈ constraintsOf set component) (counting : Counting c)
    (singles : ∀ v ∈ component.variableIds, satisfies (fun u => decide (u = v)) c = true) : c.varIds.Nodup := by
  rw [List.nodup_iff_count_le_one]
  intro v
  by_cases listed : v ∈ c.varIds
  · have sat := singles v ((constraintInside ok comp mem).1 v listed)
    rcases counting with ⟨_,counts⟩ | ⟨_,counts⟩
    · rw [counts,trueCountOne] at sat
      omega
    · rwa [counts,trueCountOne] at sat
  · rw [List.count_eq_zero.mpr listed]
    omega

theorem exactlyOneExact (kind : component.kind = .exactlyOne) :
    (∀ x, trueCount x component.variableIds = 1 ↔ SatisfiedBy set component x) ↔ CoversOnce set component := by
  obtain ⟨units,d,inside,equation⟩ := (classifyShape component set).1 (comp.kind ▸ kind)
  have counting := fun c mem => countingConstraint ok comp mem (units c mem)
  constructor
  · intro exact_
    have singles : ∀ v ∈ component.variableIds, SatisfiedBy set component fun u => decide (u = v) := by
      intro v mem
      rw [← exact_,trueCountOne]
      exact List.count_eq_one_of_mem (uniqueIds comp) mem
    intro c mem
    refine ⟨nodupOfSingles ok comp mem (counting c mem) fun v there =>
      singles v there c mem,fun equal v there => ?_⟩
    have sat := singles v there c mem
    rcases counting c mem with ⟨_,counts⟩ | ⟨less,_⟩
    · rw [counts,trueCountOne] at sat
      exact List.one_le_count_iff.mp sat.ge
    · rw [less] at equal
      cases equal
  · intro covers x
    have whole : ∀ c ∈ constraintsOf set component, c.op = .equal →
      trueCount x c.varIds = trueCount x component.variableIds := by
      intro c mem equal
      exact le_antisymm (trueCountMono x (covers c mem).1 (constraintInside ok comp mem).1)
        (trueCountMono x (uniqueIds comp) ((covers c mem).2 equal))
    constructor
    · intro one c mem
      rcases counting c mem with ⟨equal,counts⟩ | ⟨_,counts⟩
      · rw [counts,whole c mem equal,one]
      · rw [counts,← one]
        exact trueCountMono x (covers c mem).1 (constraintInside ok comp mem).1
    · intro sat
      obtain ⟨equal,counts⟩ := unitSumEqual equation (constraintInside ok comp inside).2
      rw [← whole d inside equal]
      exact (counts x).mp (sat d inside)

theorem exclusiveOfExact (counting : ∀ c ∈ constraintsOf set component, Counting c)
    (exact_ : ∀ x, trueCount x component.variableIds ≤ 1 ↔ SatisfiedBy set component x) :
    PairwiseExclusive set component := by
  have none : SatisfiedBy set component fun _ => false := by
    rw [← exact_,trueCountNone]
    omega
  have singles : ∀ v ∈ component.variableIds, SatisfiedBy set component fun u => decide (u = v) := by
    intro v mem
    rw [← exact_,trueCountOne]
    exact List.nodup_iff_count_le_one.mp (uniqueIds comp) v
  have unique : ∀ c ∈ constraintsOf set component, c.varIds.Nodup := fun c mem =>
    nodupOfSingles ok comp mem (counting c mem) fun v there => singles v there c mem
  have bounds : ∀ c ∈ constraintsOf set component, c.op ≠ .equal := by
    intro c mem equal
    rcases counting c mem with ⟨_,counts⟩ | ⟨less,_⟩
    · have sat := (counts _).mp (none c mem)
      rw [trueCountNone] at sat
      omega
    · rw [less] at equal
      cases equal
  refine ⟨fun c mem => ⟨unique c mem,bounds c mem⟩,fun u inU v inV apart => ?_⟩
  by_contra! never
  have both : SatisfiedBy set component fun w => decide (w = u) || decide (w = v) := by
    intro c mem
    rcases counting c mem with ⟨equal,_⟩ | ⟨_,counts⟩
    · exact absurd equal (bounds c mem)
    · rw [counts,trueCountTwo apart]
      have once := List.nodup_iff_count_le_one.mp (unique c mem)
      by_cases first : u ∈ c.varIds
      · rw [List.count_eq_zero.mpr (never c mem first)]
        exact once u
      · rw [List.count_eq_zero.mpr first,Nat.zero_add]
        exact once v
  rw [← exact_,trueCountTwo apart,List.count_eq_one_of_mem (uniqueIds comp) inU,
    List.count_eq_one_of_mem (uniqueIds comp) inV] at both
  omega

theorem exactOfExclusive (counting : ∀ c ∈ constraintsOf set component, Counting c)
    (exclusive : PairwiseExclusive set component) (x) :
    trueCount x component.variableIds ≤ 1 ↔ SatisfiedBy set component x := by
  obtain ⟨bounds,share⟩ := exclusive
  constructor
  · intro few c mem
    rcases counting c mem with ⟨equal,_⟩ | ⟨_,counts⟩
    · exact absurd equal (bounds c mem).2
    · rw [counts]
      exact (trueCountMono x (bounds c mem).1 (constraintInside ok comp mem).1).trans few
  · intro sat
    by_contra many
    obtain ⟨u,inU,v,inV,apart,onU,onV⟩ := trueCountPair (not_le.mp many) (uniqueIds comp)
    obtain ⟨c,mem,first,second⟩ := share u inU v inV apart
    rcases counting c mem with ⟨equal,_⟩ | ⟨_,counts⟩
    · exact (bounds c mem).2 equal
    · have pair : trueCount x [u,v] ≤ trueCount x c.varIds := by
        refine trueCountMono x (by simp [apart]) ?_
        intro w there
        simp only [List.mem_cons,List.not_mem_nil,or_false] at there
        rcases there with rfl | rfl
        · exact first
        · exact second
      have two : trueCount x [u,v] = 2 := by simp [trueCount,onU,onV]
      have few := (counts x).mp (sat c mem)
      omega

theorem atMostOneExact (kind : component.kind = .atMostOne) :
    (∀ x, trueCount x component.variableIds ≤ 1 ↔ SatisfiedBy set component x) ↔
    PairwiseExclusive set component := by
  have units := (classifyShape component set).2.1 (comp.kind ▸ kind)
  have counting := fun c mem => countingConstraint ok comp mem (units c mem)
  exact ⟨exclusiveOfExact ok comp counting,exactOfExclusive ok comp counting⟩

end

theorem renameSatisfies (x : Nat → Bool) (f : Nat → Nat) (c : LinearBooleanConstraint) :
    satisfies x {c with varIds := c.varIds.map f} = satisfies (x ∘ f) c := by
  have same : lhs x {c with varIds := c.varIds.map f} = lhs (x ∘ f) c := by
    simp [lhs,List.zip_map_left,Function.comp_def]
  rw [satisfies,satisfies,same]
theorem idxOfLow {ids : List Nat} (increasing : ids.Pairwise (· < ·)) {k v} (above : ∀ u ∈ ids, k ≤ u)
    (mem : v ∈ ids) :
    ids.idxOf v + k ≤ v := by
  induction ids generalizing k with
  | nil => cases mem
  | cons u rest ih =>
    rw [List.pairwise_cons] at increasing
    by_cases here : u = v
    · subst here
      simpa using above u mem
    · have later : v ∈ rest := by simpa [Ne.symm here] using mem
      have step := ih increasing.2 (k := k + 1) (fun w there => by
        have := above u List.mem_cons_self
        have := increasing.1 w there
        omega) later
      rw [List.idxOf_cons_ne _ here]
      omega

section
variable {set : CompiledConstraintSet} {component : CompiledComponent} (ok : WellFormed set)
  (comp : Component set component)
include ok comp

theorem subsetSatisfied (x : Nat → Bool) :
    (∀ c ∈ (subsetCompiledSet component set).constraints, c.varIds.length = c.coeffs.length) ∧
    ((subsetCompiledSet component set).constraints.all (satisfies x) = true ↔
      SatisfiedBy set component (x ∘ localId component)) := by
  constructor
  · intro c mem
    obtain ⟨d,there,rfl⟩ := List.mem_map.mp mem
    simp [(constraintInside ok comp there).2]
  · simp only [subsetCompiledSet,List.all_map,List.all_eq_true,Function.comp_apply,renameSatisfies]
    rfl
theorem smallFeasible (state : StateBitset) :
    (smallEnumOracle set component).isFeasible state = true ↔
    SatisfiedBy set component (state.test ∘ localId component) := by
  obtain ⟨sized,sat⟩ := subsetSatisfied ok comp state.test
  rw [← sat]
  simp only [smallEnumOracle,check,checkSized sized]
theorem smallEnumExact :
    (∀ x, SatisfiedBy set component (x ∘ localId component) ↔ SatisfiedBy set component x) ↔
    KeepsNumbers set component := by
  refine renumberedIff (satisfiedSupport ok comp) ?_ ?_ comp.bounded
  · intro u first v _ same
    exact (List.idxOf_inj first).mp same
  · intro v mem
    exact idxOfLow comp.increasing (fun u _ => Nat.zero_le u) mem

end

/-! Profits. -/

theorem profitCongr {f g : String → Bool} {objective : List BundleObjectiveLeg}
    (agree : ∀ leg ∈ objective, f leg.variableId = g leg.variableId) :
    profit f objective = profit g objective := by
  unfold profit
  congr 1
  apply List.map_congr_left
  intro leg mem
  rw [agree leg mem]

section
variable {set : CompiledConstraintSet} {component : CompiledComponent} (ok : WellFormed set)
  (comp : Component set component)
include ok comp

theorem variablesOfIds : (variablesOf set component).map (·.varId) = component.variableIds := by
  have total : ∀ v ∈ component.variableIds, set.vars[v]? ≠ none := by
    intro v mem
    rw [List.getElem?_eq_getElem (comp.bounded v mem)]
    exact Option.some_ne_none _
  have picked : (variablesOf set component).map some = component.variableIds.map fun v => set.vars[v]? :=
    filterMapTotal total
  apply List.ext_getElem?
  intro i
  have entry := congrArg (fun l => l[i]?) picked
  simp only [List.getElem?_map] at entry ⊢
  cases here : component.variableIds[i]? with
  | none =>
    rw [here] at entry
    simpa using entry
  | some v =>
    rw [here] at entry
    obtain ⟨w,there,same⟩ := Option.map_eq_some_iff.mp entry
    rw [there,Option.map_some,ok.numbered v w same.symm]
theorem variablesOfMem {w} (mem : w ∈ variablesOf set component) : w ∈ set.vars ∧
    w.varId ∈ component.variableIds := by
  obtain ⟨v,_,here⟩ := List.mem_filterMap.mp mem
  refine ⟨List.mem_of_getElem? here,?_⟩
  rw [← variablesOfIds ok comp]
  exact List.mem_map_of_mem mem
theorem variableAt {v} (mem : v ∈ component.variableIds) : ∃ w ∈ variablesOf set component, w.varId = v := by
  rw [← variablesOfIds ok comp] at mem
  exact List.mem_map.mp mem
theorem variableKeyInj {u w} (first : u ∈ variablesOf set component) (second : w ∈ variablesOf set component) :
    u.variableKey = w.variableKey ↔ u.varId = w.varId := by
  constructor
  · intro same
    rw [List.inj_on_of_nodup_map ok.unique (variablesOfMem ok comp first).1 (variablesOfMem ok comp second).1 same]
  · intro same
    have unique : ((variablesOf set component).map (·.varId)).Nodup := by
      rw [variablesOfIds ok comp]
      exact uniqueIds comp
    rw [List.inj_on_of_nodup_map unique first second same]

theorem valueOfVariable (x : Nat → Bool) {w} (mem : w ∈ variablesOf set component) :
    valueOf set x w.variableKey = x w.varId := by
  rw [valueOf,indexUnique ok.unique (variablesOfMem ok comp mem).1]
  rfl
omit ok comp in
theorem profitOver {objective} (within : Over set component objective) {f g : String → Bool}
    (agree : ∀ w ∈ variablesOf set component, f w.variableKey = g w.variableKey) :
    profit f objective = profit g objective := by
  refine profitCongr fun leg mem => ?_
  obtain ⟨w,there,same⟩ := List.mem_map.mp (within leg mem)
  rw [← same]
  exact agree w there
theorem profitsAssignments {objective} (within : Over set component objective) {p} :
    p ∈ Profits set component objective ↔
      ∃ x, SatisfiedBy set component x ∧ profit (valueOf set x) objective = p := by
  refine ⟨fun ⟨state,sat,value⟩ => ⟨state.test,sat,value⟩,fun ⟨x,sat,value⟩ =>
    ⟨assignment x set.vars.length,?_,?_⟩⟩
  · refine (satisfiedSupport ok comp _ _ fun v mem => ?_).mpr sat
    exact assignmentTest x (comp.bounded v mem)
  · rw [← value]
    refine profitOver within fun w mem => ?_
    rw [valueOfVariable ok comp _ mem,valueOfVariable ok comp _ mem]
    exact assignmentTest x (comp.bounded _ (variablesOfMem ok comp mem).2)

theorem singleProfit {objective} (within : Over set component objective) {x : Nat → Bool} {w}
    (mem : w ∈ variablesOf set component)
    (only : ∀ u ∈ component.variableIds, x u = decide (u = w.varId)) :
    (single objective w.variableKey).1 = profit (valueOf set x) objective := by
  rw [single]
  simp only
  refine profitOver within fun u there => ?_
  rw [valueOfVariable ok comp _ there,only _ (variablesOfMem ok comp there).2]
  simp only [variableKeyInj ok comp there mem]
theorem singleProfits {objective} (within : Over set component objective) {p} :
    (∃ c ∈ (keysOf set component).map (single objective), c.1 = p) ↔
      ∃ x, trueCount x component.variableIds = 1 ∧ profit (valueOf set x) objective = p := by
  constructor
  · rintro ⟨c,listed,rfl⟩
    rw [keysOf,List.map_map] at listed
    obtain ⟨w,mem,rfl⟩ := List.mem_map.mp listed
    refine ⟨fun u => decide (u = w.varId),?_,(singleProfit ok comp within mem fun _ _ => rfl).symm⟩
    rw [trueCountOne]
    exact List.count_eq_one_of_mem (uniqueIds comp) (variablesOfMem ok comp mem).2
  · rintro ⟨x,one,rfl⟩
    obtain ⟨v,mem,only⟩ := trueCountSingle one
    obtain ⟨w,there,rfl⟩ := variableAt ok comp mem
    exact ⟨_,List.mem_map_of_mem (List.mem_map_of_mem there),singleProfit ok comp within there only⟩


theorem localIndex {w} (mem : w ∈ variablesOf set component) :
    indexVariables (subsetCompiledSet component set).vars w.variableKey = some (localId component w.varId) := by
  have keys : (subsetCompiledSet component set).vars.map (·.variableKey) = (variablesOf set component).map
    (·.variableKey) := by
    apply List.ext_getElem?
    intro i
    simp only [subsetCompiledSet,List.getElem?_map,List.getElem?_mapIdx,Option.map_map]
    rfl
  have unique : ((subsetCompiledSet component set).vars.map (·.variableKey)).Nodup := by
    rw [keys]
    have ids : ((variablesOf set component).map (·.varId)).Nodup := by
      rw [variablesOfIds ok comp]
      exact uniqueIds comp
    refine ids.of_map.map_on ?_
    intro u first v second same
    exact List.inj_on_of_nodup_map ids first second ((variableKeyInj ok comp first second).mp same)
  obtain ⟨i,here⟩ := List.mem_iff_getElem?.mp mem
  have position : localId component w.varId = i := by
    have entry : component.variableIds[i]? = some w.varId := by
      rw [← variablesOfIds ok comp,List.getElem?_map,here]
      rfl
    obtain ⟨bound,value⟩ := List.getElem?_eq_some_iff.mp entry
    rw [localId,← value]
    exact (uniqueIds comp).idxOf_getElem i bound
  have there : {w with varId := i} ∈ (subsetCompiledSet component set).vars := by
    refine List.mem_iff_getElem?.mpr ⟨i,?_⟩
    simp [subsetCompiledSet,here]
  rw [position]
  exact indexUnique unique there

theorem enumeratedProfit {objective} (within : Over set component objective) {mask : Nat} (small : mask < 2^64) :
    (enumerated (subsetCompiledSet component set) objective ⟨mask,[UInt64.ofNat mask]⟩).1 =
      profit (valueOf set (mask.testBit ∘ localId component)) objective := by
  have known : (objective.filter fun leg =>
    (indexVariables (subsetCompiledSet component set).vars leg.variableId).isSome) = objective := by
    rw [List.filter_eq_self]
    intro leg mem
    obtain ⟨w,there,same⟩ := List.mem_map.mp (within leg mem)
    rw [← same,localIndex ok comp there]
    rfl
  simp only [enumerated,known]
  refine profitOver within fun w mem => ?_
  rw [valueOfVariable ok comp _ mem,localIndex ok comp mem]
  exact maskTest small _

theorem enumeratedProfits {objective} (within : Over set component objective)
    (small : component.variableIds.length ≤ 32) {p} :
    (∃ c ∈ (enumerate (subsetCompiledSet component set)).feasibleStates.map
      (enumerated (subsetCompiledSet component set) objective),
      c.1 = p) ↔ ∃ x, SatisfiedBy set component x ∧ profit (valueOf set x) objective = p := by
  have size : (subsetCompiledSet component set).vars.length = component.variableIds.length := by
    rw [← variablesOfIds ok comp]
    simp [subsetCompiledSet]
  have words : ∀ {mask : Nat}, mask < 2 ^ component.variableIds.length → mask < 2^64 := fun bound =>
    bound.trans_le (Nat.pow_le_pow_right (by omega) (by omega))
  have feasible : ∀ {mask : Nat}, mask < 2^64 → ((subsetCompiledSet component set).constraints.all
      (satisfies (stateBitsetFromMask (UInt64.ofNat mask)).test) = true ↔
        SatisfiedBy set component (mask.testBit ∘ localId component)) := by
    intro mask bound
    rw [(subsetSatisfied ok comp _).2]
    exact satisfiedSupport ok comp _ _ fun v _ => maskTest bound _
  rw [enumerateStates (subsetSatisfied ok comp fun _ => false).1 (by rw [size]; exact small),size,List.map_map]
  constructor
  · rintro ⟨c,listed,rfl⟩
    obtain ⟨mask,mem,rfl⟩ := List.mem_map.mp listed
    obtain ⟨inside,sat⟩ := List.mem_filter.mp mem
    have bound := words (List.mem_range.mp inside)
    exact ⟨_,(feasible bound).mp sat,(enumeratedProfit ok comp within bound).symm⟩
  · rintro ⟨x,sat,rfl⟩
    let mask := Nat.ofBits fun i : Fin component.variableIds.length => x (component.variableIds.get i)
    have inside : mask < 2 ^ component.variableIds.length := Nat.ofBits_lt_two_pow _
    have bits : ∀ v ∈ component.variableIds, (mask.testBit ∘ localId component) v = x v := by
      intro v mem
      have position : localId component v < component.variableIds.length := List.idxOf_lt_length_of_mem mem
      rw [Function.comp_apply,Nat.testBit_ofBits_lt _ _ position]
      simp [localId]
    have bound := words inside
    refine ⟨_,List.mem_map.mpr ⟨mask,List.mem_filter.mpr ⟨List.mem_range.mpr inside,?_⟩,rfl⟩,?_⟩
    · exact (feasible bound).mpr ((satisfiedSupport ok comp _ _ bits).mpr sat)
    · rw [Function.comp_apply,enumeratedProfit ok comp within bound]
      refine profitOver within fun w mem => ?_
      rw [valueOfVariable ok comp _ mem,valueOfVariable ok comp _ mem]
      exact bits _ (variablesOfMem ok comp mem).2

/-! The oracle of a component. -/

theorem oracleExact {oracle} (here : oracleFor set component = some oracle) :
    (∀ state, oracle.isFeasible state = true ↔ SatisfiedBy set component state.test) ↔ Agrees set component := by
  rw [Agrees]
  cases kind : component.kind with
  | smallEnumerable =>
    rw [oracleFor,kind] at here
    cases here
    simp only
    rw [← smallEnumExact ok comp,← overAssignments ok comp]
    · exact forall_congr' fun state => by rw [smallFeasible ok comp]
    · intro x y agree
      refine satisfiedSupport ok comp _ _ fun v mem => agree _ ?_
      exact (idxOfLow comp.increasing (fun u _ => Nat.zero_le u) mem).trans_lt (comp.bounded v mem)
  | exactlyOne =>
    rw [oracleFor,kind] at here
    cases here
    simp only
    rw [← exactlyOneExact ok comp kind,← overAssignments ok comp]
    · exact forall_congr' fun state => by rw [exactlyOneOracle,decide_eq_true_eq]
    · exact fun x y agree => by rw [countSupport comp agree]
  | atMostOne =>
    rw [oracleFor,kind] at here
    cases here
    simp only
    rw [← atMostOneExact ok comp kind,← overAssignments ok comp]
    · exact forall_congr' fun state => by rw [atMostOneOracle,decide_eq_true_eq]
    · exact fun x y agree => by rw [countSupport comp agree]
  | implicationDag => rw [oracleFor,kind] at here; cases here
  | weightedThreshold => rw [oracleFor,kind] at here; cases here
  | genericLinearBoolean => rw [oracleFor,kind] at here; cases here

theorem idleProfit {objective} (within : Over set component objective) {x : Nat → Bool}
    (zero : trueCount x component.variableIds = 0) :
    profit (valueOf set x) objective = profit (fun _ => false) objective := by
  refine profitOver within fun w mem => ?_
  rw [valueOfVariable ok comp _ mem]
  rw [trueCount,List.length_eq_zero_iff,List.filter_eq_nil_iff] at zero
  exact Bool.eq_false_of_not_eq_true (zero _ (variablesOfMem ok comp mem).2)

theorem oracleProfits {oracle objective} (here : oracleFor set component = some oracle)
    (agrees : Agrees set component)
    (within : Over set component objective) :
    ∃ candidates, oracle.minPayoff objective = worstCase component.componentId candidates ∧
      ∀ p, (∃ c ∈ candidates, c.1 = p) ↔ p ∈ Profits set component objective := by
  simp only [profitsAssignments ok comp within]
  rw [Agrees] at agrees
  cases kind : component.kind with
  | smallEnumerable =>
    rw [oracleFor,kind] at here
    cases here
    exact ⟨_,rfl,fun p => enumeratedProfits ok comp within ((classifyShape component set).2.2 (comp.kind ▸ kind))⟩
  | exactlyOne =>
    rw [oracleFor,kind] at here
    rw [kind] at agrees
    cases here
    refine ⟨_,rfl,fun p => ?_⟩
    simp only [← (exactlyOneExact ok comp kind).mpr agrees]
    exact singleProfits ok comp within
  | atMostOne =>
    rw [oracleFor,kind] at here
    rw [kind] at agrees
    cases here
    refine ⟨_,rfl,fun p => ?_⟩
    simp only [← (atMostOneExact ok comp kind).mpr agrees]
    constructor
    · rintro ⟨c,listed,rfl⟩
      rcases List.mem_cons.mp listed with rfl | later
      · exact ⟨fun _ => false,by rw [trueCountNone]; omega,idleProfit ok comp within (trueCountNone _)⟩
      · obtain ⟨x,one,value⟩ := (singleProfits ok comp within).mp ⟨c,later,rfl⟩
        exact ⟨x,one.le,value⟩
    · rintro ⟨x,few,rfl⟩
      rcases Nat.le_one_iff_eq_zero_or_eq_one.mp few with zero | one
      · exact ⟨_,List.mem_cons_self,(idleProfit ok comp within zero).symm⟩
      · obtain ⟨c,later,value⟩ := (singleProfits ok comp within).mpr ⟨x,one,rfl⟩
        exact ⟨c,List.mem_cons_of_mem _ later,value⟩
  | implicationDag => rw [oracleFor,kind] at here; cases here
  | weightedThreshold => rw [oracleFor,kind] at here; cases here
  | genericLinearBoolean => rw [oracleFor,kind] at here; cases here

end

theorem minPayoffBelow {set component oracle} (here : oracleFor set component = some oracle) (objective) :
    (oracle.minPayoff objective).minProfitTick ≠ i64Max := by
  unfold oracleFor at here
  split at here
  · cases here
    exact worstCaseBelow _ _
  · cases here
    exact worstCaseBelow _ _
  · cases here
    exact worstCaseBelow _ _
  · cases here

theorem oracleFaithfulIff {set component oracle objective} (compiled : Compiled set)
    (mem : component ∈ (partition (buildGraph set) set).components) (here : oracleFor set component = some oracle)
    (within : Over set component objective) (range : InRange objective) :
    Faithful set component oracle objective ↔
      Agrees set component ∧ ∃ p ∈ Profits set component objective, p < i64Max := by
  have ok := compiledWellFormed compiled
  have comp := partitionComponent ok mem
  constructor
  · intro faithful
    refine ⟨(oracleExact ok comp here).mp faithful.feasible,_,faithful.least.1,?_⟩
    obtain ⟨state,_,value⟩ := faithful.least.1
    have fits := (range (valueOf set state.test) objective.length).1
    rw [List.take_length,value] at fits
    exact lt_of_le_of_ne fits.2 (minPayoffBelow here objective)
  · rintro ⟨agrees,p,listed,small⟩
    obtain ⟨candidates,run,same⟩ := oracleProfits ok comp here agrees within
    refine ⟨(oracleExact ok comp here).mpr agrees,?_⟩
    obtain ⟨c,there,rfl⟩ := (same p).mpr listed
    have least := worstCaseLeast component.componentId ⟨c,there,small⟩
    rw [run]
    exact ⟨(same _).mp least.1,fun q member => least.2 ((same q).mpr member)⟩

def keyed (keys : List String) : List BooleanVariable := keys.map fun key => {variableKey := key}
def rule (type : RuleType) (keys : List String) : ValidatedRule :=
  {ruleId := "r", type, variableIds := keys, approved := true}
def firstComponent (set : CompiledConstraintSet) : CompiledComponent :=
  ((partition (buildGraph set) set).components.head?).getD {}

def trioSet : CompiledConstraintSet := (compile [rule .exactlyOne ["a","b","c"]] (keyed ["a","b","c"])).compiled
def trioObjective : List BundleObjectiveLeg := [{variableId := "a", payoutIfTrueTick := 1000000}]
theorem trioFaithful :
    Faithful trioSet (firstComponent trioSet)
      (exactlyOneOracle trioSet (firstComponent trioSet)) trioObjective := by
  have kind : (firstComponent trioSet).kind = .exactlyOne := by decide +kernel
  have compiled : Compiled trioSet := .rules (by decide +kernel)
  have range : InRange trioObjective := by
    intro value n
    cases n with
    | zero =>
      simp only [trioObjective,List.take_zero,List.getElem?_cons_zero,Option.mem_some_iff,forall_eq',profit,
        gain,List.map_nil,List.sum_nil]
      cases value "a" <;> decide
    | succ n =>
      refine ⟨?_,by simp [trioObjective]⟩
      simp only [trioObjective,List.take_succ_cons,List.take_nil,profit,gain,List.map_cons,List.map_nil,
        List.sum_cons,List.sum_nil]
      cases value "a" <;> decide
  refine (oracleFaithfulIff compiled (by decide +kernel) (by rw [oracleFor,kind])
    (by unfold Over; decide +kernel) range).mpr ⟨?_,0,⟨⟨[2]⟩,?_,?_⟩,by decide⟩
  · unfold Agrees
    rw [kind]
    simp only
    unfold CoversOnce
    decide +kernel
  · unfold SatisfiedBy
    decide +kernel
  · decide +kernel

def raceMarkets : List RawMarketRecord :=
  ["m1","m2","m3"].map fun id => {marketId := id, outcomes := ["Yes","No"], assetIds := [id ++ "_yes",id ++ "_no"]}
def raceSet : CompiledConstraintSet :=
  withIntrinsic raceMarkets
    (compile [rule .exactlyOne ["m1:Yes","m2:Yes","m3:Yes"]] (variablesFromUniverse raceMarkets)).compiled
def laterPairSet : CompiledConstraintSet := (compile [rule .atLeastOne ["b","c"]] (keyed ["a","b","c"])).compiled
def laterPair : CompiledComponent :=
  ((partition (buildGraph laterPairSet) laterPairSet).components.getLast?).getD {}

-- m1:Yes with m2:No and m3:No satisfies the rule and the three pairs, and three variables are true.
-- Over variables 1 and 2 numbered 0 and 1, a state that sets neither is accepted.
theorem mixedAndRenumberedUnfaithful :
    (Compiled raceSet ∧ firstComponent raceSet ∈ (partition (buildGraph raceSet) raceSet).components ∧
      oracleFor raceSet (firstComponent raceSet) = some (exactlyOneOracle raceSet (firstComponent raceSet)) ∧
      ∀ objective, ¬ Faithful raceSet (firstComponent raceSet)
        (exactlyOneOracle raceSet (firstComponent raceSet)) objective) ∧
    (Compiled laterPairSet ∧ laterPair ∈ (partition (buildGraph laterPairSet) laterPairSet).components ∧
      oracleFor laterPairSet laterPair = some (smallEnumOracle laterPairSet laterPair) ∧
      ∀ objective, ¬ Faithful laterPairSet laterPair (smallEnumOracle laterPairSet laterPair) objective) := by
  have mixed : (firstComponent raceSet).kind = .exactlyOne := by decide +kernel
  have small : laterPair.kind = .smallEnumerable := by decide +kernel
  refine ⟨⟨.intrinsic _ (.rules (by decide +kernel)),by decide +kernel,by rw
    [oracleFor,mixed],fun objective faithful => ?_⟩,
    .rules (by decide +kernel),by decide +kernel,by rw [oracleFor,small],fun objective faithful => ?_⟩
  · have answer := faithful.feasible ⟨[22]⟩
    unfold SatisfiedBy at answer
    revert answer
    decide +kernel
  · have answer := faithful.feasible ⟨[1]⟩
    unfold SatisfiedBy at answer
    revert answer
    decide +kernel

end Polytope.OracleFaithfulness
