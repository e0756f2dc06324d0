import Polytope.OracleTypes
import Mathlib.Data.List.Sort

/-! From approved rules to linear constraints over the outcome variables, and the constraints
a yes/no market carries by itself. Variables are numbered by key order. -/
namespace Polytope.ConstraintCompiler
open OracleTypes

abbrev VariableIndex := String → Option Nat
-- unordered_map::emplace keeps the first entry of a key.
def indexVariables (vars : List BooleanVariable) : VariableIndex :=
  fun key => (vars.find? fun v => decide (v.variableKey = key)).map (·.varId)

def unknownKeys (keys : List String) (index : VariableIndex) : List String :=
  (keys.filter fun key => (index key).isNone).map ("unknown variable: " ++ ·)
def sumConstraint (keys : List String) (index : VariableIndex) (op : ConstraintOp) (rhs : Int) :
    Except (List String) LinearBooleanConstraint :=
  if keys = [] then .error ["constraint has empty variable set"]
  else if unknownKeys keys index ≠ [] then .error (unknownKeys keys index)
  else
    let varIds := keys.filterMap index
    .ok {varIds, coeffs := List.replicate varIds.length 1, op, rhs}
def exactlyOne (keys : List String) (index : VariableIndex) := sumConstraint keys index .equal 1
def atMostOne (keys : List String) (index : VariableIndex) := sumConstraint keys index .lessEqual 1
def atLeastOne (keys : List String) (index : VariableIndex) := sumConstraint keys index .greaterEqual 1
def implies (keys : List String) (index : VariableIndex) : Except (List String) LinearBooleanConstraint :=
  match keys with
  | [first,second] =>
    match index first with
    | none => .error ["unknown variable: " ++ first]
    | some a =>
      match index second with
      | none => .error ["unknown variable: " ++ second]
      | some b => .ok {varIds := [a,b], coeffs := [1,-1], op := .lessEqual, rhs := 0}
  | _ => .error ["Implies requires exactly two variables"]

def ruleError (rule : ValidatedRule) (message : String) : String := "rule " ++ rule.ruleId ++ ": " ++ message
def buildRule (index : VariableIndex) (rule : ValidatedRule) : Except (List String) LinearBooleanConstraint :=
  match rule.type with
  | .mutuallyExclusive =>
    if ruleIsExhaustive rule.coverage then exactlyOne rule.variableIds index else atMostOne rule.variableIds index
  | .exactlyOne => exactlyOne rule.variableIds index
  | .atMostOne => atMostOne rule.variableIds index
  | .atLeastOne => atLeastOne rule.variableIds index
  | .implies => implies rule.variableIds index
  | _ => .error ["unsupported rule type for constraint compiler"]
def compileRule (index : VariableIndex) (rule : ValidatedRule) : Except (List String) LinearBooleanConstraint :=
  if rule.approved = false then .error [ruleError rule "unapproved rule cannot be compiled"]
  else (buildRule index rule).mapError fun errors => errors.map (ruleError rule)

def keyErrors : List String → List BooleanVariable → List String
  | _,[] => []
  | seen,v::rest =>
    if v.variableKey = "" then "boolean variable missing variable_key" :: keyErrors seen rest
    else if v.variableKey ∈ seen then ("duplicate boolean variable: " ++ v.variableKey) :: keyErrors seen rest
    else keyErrors (v.variableKey::seen) rest
def sortVariables (vars : List BooleanVariable) : List BooleanVariable :=
  vars.insertionSort fun l r => l.variableKey ≤ r.variableKey
def normalizeVariables (vars : List BooleanVariable) : List BooleanVariable × List String :=
  ((sortVariables vars).mapIdx fun i v => if v.variableKey = "" then v else {v with varId := i},
    keyErrors [] (sortVariables vars))

open Fnv in
def hashVariable (h : UInt64) (v : BooleanVariable) : UInt64 :=
  [v.variableKey,v.marketId,v.outcomeId,v.assetId].foldl mixClosedString (mixU32 h v.varId)
def opCode : ConstraintOp → UInt64
  | .equal => 0
  | .lessEqual => 1
  | .greaterEqual => 2
open Fnv in
def hashConstraint (h : UInt64) (c : LinearBooleanConstraint) : UInt64 :=
  c.coeffs.foldl mixI32 (c.varIds.foldl mixU32 (mixU32 (mixI32 (mixByte h (opCode c.op)) c.rhs) c.varIds.length))
def hashCompiledConstraints (set : CompiledConstraintSet) : UInt64 :=
  set.constraints.foldl hashConstraint (set.vars.foldl hashVariable Fnv.offset)

structure ConstraintCompilationResult where
  compiled : CompiledConstraintSet := {}
  errors : List String := []
  deriving DecidableEq

def compiledRules (rules : List ValidatedRule) (vars : List BooleanVariable) : CompiledConstraintSet :=
  {vars, constraints := rules.filterMap fun rule => (compileRule (indexVariables vars) rule).toOption}
def ruleErrors (rules : List ValidatedRule) (vars : List BooleanVariable) : List String :=
  rules.flatMap fun rule =>
    match compileRule (indexVariables vars) rule with
    | .error errors => errors
    | .ok _ => []
def compile (rules : List ValidatedRule) (vars : List BooleanVariable) : ConstraintCompilationResult :=
  let normalized := normalizeVariables vars
  if normalized.2 ≠ [] then {compiled := {vars := normalized.1}, errors := normalized.2}
  else
    let set := compiledRules rules normalized.1
    { compiled := {set with constraintHash := hashCompiledConstraints set}
      errors := ruleErrors rules normalized.1 }

/-! Constraints a market carries by itself. -/

def yesNoStep (acc : Option Nat × Option Nat) (x : String × Nat) : Option Nat × Option Nat :=
  if lowerCopy x.1 = "yes" then (some x.2,acc.2)
  else if lowerCopy x.1 = "no" then (acc.1,some x.2)
  else acc
def isYesNoPair (outcomes : List String) : Option (Nat × Nat) :=
  if outcomes.length ≠ 2 then none
  else
    match outcomes.zipIdx.foldl yesNoStep (none,none) with
    | (some yes,some no) => some (yes,no)
    | _ => none
def intrinsicConstraint (index : VariableIndex) (m : RawMarketRecord) : Option LinearBooleanConstraint :=
  if m.outcomes.length ≠ m.assetIds.length then none
  else do
    let (yes,no) ← isYesNoPair m.outcomes
    let yesId ← index (variableKey m.marketId (m.outcomes.getD yes ""))
    let noId ← index (variableKey m.marketId (m.outcomes.getD no ""))
    some {varIds := [yesId,noId], coeffs := [1,1], op := .equal, rhs := 1}
def buildIntrinsic (markets : List RawMarketRecord) (vars : List BooleanVariable) : List LinearBooleanConstraint :=
  (markets.insertionSort fun l r => l.marketId ≤ r.marketId).filterMap (intrinsicConstraint (indexVariables vars))
def withIntrinsic (markets : List RawMarketRecord) (set : CompiledConstraintSet) : CompiledConstraintSet :=
  let merged := {set with constraints := set.constraints ++ buildIntrinsic markets set.vars}
  {merged with constraintHash := hashCompiledConstraints merged}

/-! What a successful compilation yields. -/

theorem indexFound {vars : List BooleanVariable} {key id} (found : indexVariables vars key = some id) :
    ∃ v ∈ vars, v.variableKey = key ∧ v.varId = id := by
  obtain ⟨v,here,same⟩ := Option.map_eq_some_iff.mp found
  exact ⟨v,List.mem_of_find?_eq_some here,by simpa using List.find?_some here,same⟩
theorem indexUnique {vars : List BooleanVariable} (unique : (vars.map (·.variableKey)).Nodup) {v}
    (mem : v ∈ vars) :
    indexVariables vars v.variableKey = some v.varId := by
  obtain ⟨w,found⟩ : ∃ w, vars.find? (fun w => decide (w.variableKey = v.variableKey)) = some w := by
    rw [← Option.isSome_iff_exists,List.find?_isSome]
    exact ⟨v,mem,by simp⟩
  have same : w = v :=
    List.inj_on_of_nodup_map unique (List.mem_of_find?_eq_some found) mem (by simpa using List.find?_some found)
  rw [indexVariables,found,same]
  rfl

theorem keyErrorsNil {seen : List String} {vars : List BooleanVariable} :
    keyErrors seen vars = [] ↔
      (∀ v ∈ vars, v.variableKey ≠ "" ∧ v.variableKey ∉ seen) ∧ (vars.map (·.variableKey)).Nodup := by
  induction vars generalizing seen with
  | nil => simp [keyErrors]
  | cons v rest ih =>
    rw [keyErrors]
    split
    · next missing => simp [missing]
    · next named =>
      split
      · next old => simp [old]
      · next fresh =>
        rw [ih,List.map_cons,List.nodup_cons]
        simp only [List.mem_cons,not_or,List.mem_map,not_exists,not_and,forall_eq_or_imp]
        constructor
        · rintro ⟨each,unique⟩
          exact ⟨⟨⟨named,fresh⟩,fun w mem => ⟨(each w mem).1,(each w mem).2.2⟩⟩,fun w mem =>
            (each w mem).2.1,unique⟩
        · rintro ⟨⟨_,each⟩,apart,unique⟩
          exact ⟨fun w mem => ⟨(each w mem).1,apart w mem,(each w mem).2⟩,unique⟩

structure Normalized (vars out : List BooleanVariable) : Prop where
  numbered : ∀ (i : Nat) (v : BooleanVariable), out[i]? = some v → v.varId = i
  unique : (out.map (·.variableKey)).Nodup
  source : ∀ w ∈ out, ∃ v ∈ vars, w = {v with varId := w.varId}
  target : ∀ v ∈ vars, ∃ w ∈ out, w = {v with varId := w.varId}

theorem normalizedKeys (vars) :
    (normalizeVariables vars).1.map (·.variableKey) = (sortVariables vars).map (·.variableKey) := by
  apply List.ext_getElem
  · simp [normalizeVariables]
  · intro i _ _
    simp only [normalizeVariables,List.getElem_map,List.getElem_mapIdx]
    split <;> rfl
theorem sortedMem {vars : List BooleanVariable} {v} : v ∈ sortVariables vars ↔ v ∈ vars :=
  (List.perm_insertionSort _ vars).mem_iff
theorem acceptedKeys {vars : List BooleanVariable} (ok : (normalizeVariables vars).2 = []) :
    (∀ v ∈ vars, v.variableKey ≠ "") ∧ (vars.map (·.variableKey)).Nodup := by
  obtain ⟨each,unique⟩ := keyErrorsNil.mp ok
  exact ⟨fun v mem => (each v
    (sortedMem.mpr mem)).1,(((List.perm_insertionSort _ vars).map _).nodup_iff).mp unique⟩
theorem keysAccepted {vars : List BooleanVariable} (named : ∀ v ∈ vars, v.variableKey ≠ "")
    (unique : (vars.map (·.variableKey)).Nodup) : (normalizeVariables vars).2 = [] :=
  keyErrorsNil.mpr ⟨fun v mem => ⟨named v (sortedMem.mp mem),by simp⟩,
    (((List.perm_insertionSort _ vars).map _).nodup_iff).mpr unique⟩

theorem normalizeVariablesNormalized {vars : List BooleanVariable} (ok : (normalizeVariables vars).2 = []) :
    Normalized vars (normalizeVariables vars).1 := by
  obtain ⟨named,unique⟩ := acceptedKeys ok
  have entry : ∀ (i : Nat) (v : BooleanVariable), (sortVariables vars)[i]? = some v →
      (normalizeVariables vars).1[i]? = some {v with varId := i} := by
    intro i v here
    have name := named v (sortedMem.mp (List.mem_of_getElem? here))
    simp [normalizeVariables,here,name]
  have back : ∀ (i : Nat) (w : BooleanVariable), (normalizeVariables vars).1[i]? = some w →
      ∃ v, (sortVariables vars)[i]? = some v ∧ w = {v with varId := i} := by
    intro i w here
    have bound : i < (sortVariables vars).length := by
      have := (List.getElem?_eq_some_iff.mp here).1
      simpa [normalizeVariables] using this
    have there := List.getElem?_eq_getElem bound
    refine ⟨_,there,?_⟩
    rw [entry i _ there] at here
    exact (Option.some.inj here).symm
  refine ⟨?_,?_,?_,?_⟩
  · intro i w here
    obtain ⟨v,_,rfl⟩ := back i w here
    rfl
  · rw [normalizedKeys]
    exact (((List.perm_insertionSort _ vars).map _).nodup_iff).mpr unique
  · intro w mem
    obtain ⟨i,here⟩ := List.mem_iff_getElem?.mp mem
    obtain ⟨v,there,rfl⟩ := back i w here
    exact ⟨v,sortedMem.mp (List.mem_of_getElem? there),rfl⟩
  · intro v mem
    obtain ⟨i,here⟩ := List.mem_iff_getElem?.mp (sortedMem.mpr mem)
    exact ⟨_,List.mem_of_getElem? (entry i v here),rfl⟩

theorem filterMapTotal {α β : Type} {f : α → Option β} {xs : List α} (total : ∀ x ∈ xs, f x ≠ none) :
    (xs.filterMap f).map some = xs.map f := by
  induction xs with
  | nil => rfl
  | cons x rest ih =>
    obtain ⟨y,here⟩ := Option.ne_none_iff_exists'.mp (total x List.mem_cons_self)
    rw [List.filterMap_cons,here,List.map_cons,List.map_cons,here,ih fun z mem =>
      total z (List.mem_cons_of_mem _ mem)]
theorem filterMapKnown {keys : List String} {index : VariableIndex} (known : unknownKeys keys index = []) :
    (keys.filterMap index).map some = keys.map index := by
  simp only [unknownKeys,List.map_eq_nil_iff,List.filter_eq_nil_iff,Option.isNone_iff_eq_none] at known
  exact filterMapTotal known
theorem sumConstraintOk {keys : List String} {index : VariableIndex} {op rhs c}
    (ok : sumConstraint keys index op rhs = .ok c) :
    keys ≠ [] ∧ c.varIds.map some = keys.map index ∧ c.coeffs = List.replicate c.varIds.length 1 ∧ c.op = op ∧
      c.rhs = rhs := by
  unfold sumConstraint at ok
  split at ok
  · cases ok
  · next filled =>
    split at ok
    · cases ok
    · next known =>
      rw [not_not] at known
      cases ok
      exact ⟨filled,filterMapKnown known,rfl,rfl,rfl⟩

structure Grounded (index : VariableIndex) (c : LinearBooleanConstraint) : Prop where
  sized : c.coeffs.length = c.varIds.length
  filled : c.varIds ≠ []
  known : ∀ id ∈ c.varIds, ∃ key, index key = some id

theorem sumConstraintGrounded {keys : List String} {index : VariableIndex} {op rhs c}
    (ok : sumConstraint keys index op rhs = .ok c) : Grounded index c := by
  obtain ⟨filled,ids,ones,_,_⟩ := sumConstraintOk ok
  refine ⟨by rw [ones,List.length_replicate],?_,?_⟩
  · intro none
    rw [none,List.map_nil,eq_comm,List.map_eq_nil_iff] at ids
    exact filled ids
  · intro id mem
    have there : some id ∈ keys.map index := ids ▸ List.mem_map_of_mem mem
    obtain ⟨key,_,same⟩ := List.mem_map.mp there
    exact ⟨key,same⟩
theorem impliesGrounded {keys : List String} {index : VariableIndex} {c} (ok : implies keys index = .ok c) :
    Grounded index c := by
  unfold implies at ok
  split at ok
  · next first second =>
    split at ok
    · cases ok
    · next a here =>
      split at ok
      · cases ok
      · next b there =>
        cases ok
        refine ⟨rfl,by simp,?_⟩
        intro id mem
        simp only [List.mem_cons,List.not_mem_nil,or_false] at mem
        rcases mem with rfl | rfl
        · exact ⟨first,here⟩
        · exact ⟨second,there⟩
  · cases ok
theorem buildRuleGrounded {index : VariableIndex} {rule c} (ok : buildRule index rule = .ok c) :
    Grounded index c := by
  unfold buildRule at ok
  split at ok
  · split at ok
    · exact sumConstraintGrounded ok
    · exact sumConstraintGrounded ok
  · exact sumConstraintGrounded ok
  · exact sumConstraintGrounded ok
  · exact sumConstraintGrounded ok
  · exact impliesGrounded ok
  · cases ok

theorem compileRuleOk {index : VariableIndex} {rule c} :
    compileRule index rule = .ok c ↔ rule.approved = true ∧ buildRule index rule = .ok c := by
  unfold compileRule
  cases rule.approved with
  | false => simp
  | true => cases buildRule index rule <;> simp [Except.mapError]

theorem sumConstraintRefused {keys : List String} {index : VariableIndex} {op rhs errors}
    (refused : sumConstraint keys index op rhs = .error errors) : errors ≠ [] := by
  unfold sumConstraint at refused
  split at refused
  · cases refused
    simp
  · split at refused
    · next unknown =>
      cases refused
      exact unknown
    · cases refused
theorem impliesRefused {keys : List String} {index : VariableIndex} {errors}
    (refused : implies keys index = .error errors) :
    errors ≠ [] := by
  unfold implies at refused
  split at refused
  · split at refused
    · cases refused
      simp
    · split at refused
      · cases refused
        simp
      · cases refused
  · cases refused
    simp
theorem compileRuleRefused {index : VariableIndex} {rule errors}
    (refused : compileRule index rule = .error errors) :
    errors ≠ [] := by
  unfold compileRule at refused
  split at refused
  · cases refused
    simp
  · cases built : buildRule index rule with
    | ok c =>
      rw [built] at refused
      cases refused
    | error inner =>
      rw [built] at refused
      cases refused
      rw [Ne,List.map_eq_nil_iff]
      unfold buildRule at built
      split at built
      · split at built
        · exact sumConstraintRefused built
        · exact sumConstraintRefused built
      · exact sumConstraintRefused built
      · exact sumConstraintRefused built
      · exact sumConstraintRefused built
      · exact impliesRefused built
      · cases built
        simp

theorem intrinsicConstraintOk {index : VariableIndex} {m c} (ok : intrinsicConstraint index m = some c) :
    ∃ yes no, c = {varIds := [yes,no], coeffs := [1,1], op := .equal, rhs := 1} ∧
      ∃ y n, isYesNoPair m.outcomes = some (y,n) ∧
        index (variableKey m.marketId (m.outcomes.getD y "")) = some yes ∧
        index (variableKey m.marketId (m.outcomes.getD n "")) = some no := by
  unfold intrinsicConstraint at ok
  split at ok
  · cases ok
  · simp only [bind,Option.bind_eq_some_iff] at ok
    obtain ⟨⟨y,n⟩,pair,yes,first,no,second,last⟩ := ok
    cases Option.some.inj last
    exact ⟨yes,no,rfl,y,n,pair,first,second⟩

def Labelled (outcomes : List String) (acc : Option Nat × Option Nat) : Prop :=
  (∀ y ∈ acc.1, ∃ o, outcomes[y]? = some o ∧ lowerCopy o = "yes") ∧
  ∀ n ∈ acc.2, ∃ o, outcomes[n]? = some o ∧ lowerCopy o = "no"
theorem yesNoStepLabelled {outcomes acc x} (entry : outcomes[x.2]? = some x.1) (ok : Labelled outcomes acc) :
    Labelled outcomes (yesNoStep acc x) := by
  unfold yesNoStep
  split
  · next yes => exact ⟨fun y here => ⟨x.1,Option.some.inj here ▸ entry,yes⟩,ok.2⟩
  · split
    · next no => exact ⟨ok.1,fun n here => ⟨x.1,Option.some.inj here ▸ entry,no⟩⟩
    · exact ok
theorem yesNoPairLabels {outcomes y n} (pair : isYesNoPair outcomes = some (y,n)) :
    outcomes.length = 2 ∧ (outcomes.getD y "" ∈ outcomes ∧ lowerCopy (outcomes.getD y "") = "yes") ∧
      outcomes.getD n "" ∈ outcomes ∧ lowerCopy (outcomes.getD n "") = "no" := by
  have all : ∀ (xs : List (String × Nat)) (acc : Option Nat × Option Nat), (∀ x ∈ xs, outcomes[x.2]? = some x.1) →
      Labelled outcomes acc → Labelled outcomes (xs.foldl yesNoStep acc) := by
    intro xs
    induction xs with
    | nil => exact fun _ _ ok => ok
    | cons x rest ih =>
      intro acc entries ok
      exact ih _ (fun z mem => entries z (List.mem_cons_of_mem _ mem))
        (yesNoStepLabelled (entries x List.mem_cons_self) ok)
  have labelled := all outcomes.zipIdx (none,none) (fun x mem => List.mem_zipIdx_iff_getElem?.mp mem)
    ⟨by simp,by simp⟩
  have read : ∀ (i : Nat) (o : String), outcomes[i]? = some o → outcomes.getD i "" = o ∧ o ∈ outcomes := by
    intro i o here
    exact ⟨by simp [here],List.mem_of_getElem? here⟩
  unfold isYesNoPair at pair
  split at pair
  · cases pair
  · next two =>
    split at pair
    · next yes no found =>
      rw [found] at labelled
      cases pair
      obtain ⟨a,first,isYes⟩ := labelled.1 y rfl
      obtain ⟨b,second,isNo⟩ := labelled.2 n rfl
      rw [(read y a first).1,(read n b second).1]
      exact ⟨not_not.mp two,⟨(read y a first).2,isYes⟩,(read n b second).2,isNo⟩
    · cases pair
theorem yesNoPairFound {outcomes yes no} (two : outcomes.length = 2) (first : yes ∈ outcomes)
    (second : no ∈ outcomes)
    (isYes : lowerCopy yes = "yes") (isNo : lowerCopy no = "no") :
    ∃ y n, isYesNoPair outcomes = some (y,n) ∧ outcomes.getD y "" = yes ∧ outcomes.getD n "" = no := by
  obtain ⟨a,b,rfl⟩ := List.length_eq_two.mp two
  have apart : ("no" : String) ≠ "yes" := by decide
  simp only [List.mem_cons,List.not_mem_nil,or_false] at first second
  unfold isYesNoPair
  simp only [List.zipIdx_cons,List.zipIdx_nil,List.foldl_cons,List.foldl_nil,yesNoStep]
  rcases first with rfl | rfl <;> rcases second with rfl | rfl
  · exact absurd (isNo.symm.trans isYes) apart
  · exact ⟨0,1,by simp [isYes,isNo,apart],rfl,rfl⟩
  · exact ⟨1,0,by simp [isYes,isNo,apart],rfl,rfl⟩
  · exact absurd (isNo.symm.trans isYes) apart

structure WellFormed (set : CompiledConstraintSet) : Prop where
  numbered : ∀ (i : Nat) (v : BooleanVariable), set.vars[i]? = some v → v.varId = i
  unique : (set.vars.map (·.variableKey)).Nodup
  grounded : ∀ c ∈ set.constraints, Grounded (indexVariables set.vars) c

theorem compileOk {rules vars} (ok : (compile rules vars).errors = []) :
    (normalizeVariables vars).2 = [] ∧ (compile rules vars).compiled.vars = (normalizeVariables vars).1 ∧
      (∀ rule ∈ rules, ∃ c ∈ (compile rules vars).compiled.constraints,
        compileRule (indexVariables (normalizeVariables vars).1) rule = .ok c) ∧
      ∀ c ∈ (compile rules vars).compiled.constraints, ∃ rule ∈ rules,
        compileRule (indexVariables (normalizeVariables vars).1) rule = .ok c := by
  unfold compile at ok ⊢
  simp only at ok ⊢
  split at ok
  · next bad => exact absurd ok bad
  · next good =>
    rw [if_neg good]
    rw [not_not] at good
    refine ⟨good,rfl,?_,?_⟩
    · intro rule mem
      simp only [ruleErrors,List.flatMap_eq_nil_iff] at ok
      have here := ok rule mem
      cases built : compileRule (indexVariables (normalizeVariables vars).1) rule with
      | error errors =>
        rw [built] at here
        exact absurd here (compileRuleRefused built)
      | ok c => exact ⟨c,List.mem_filterMap.mpr ⟨rule,mem,by rw [built]; rfl⟩,rfl⟩
    · intro c mem
      obtain ⟨rule,there,same⟩ := List.mem_filterMap.mp mem
      cases built : compileRule (indexVariables (normalizeVariables vars).1) rule with
      | error errors =>
        rw [built] at same
        cases same
      | ok d =>
        rw [built] at same
        cases same
        exact ⟨rule,there,built⟩

theorem compileWellFormed {rules vars} (ok : (compile rules vars).errors = []) :
    WellFormed (compile rules vars).compiled := by
  obtain ⟨accepted,same,_,source⟩ := compileOk ok
  have normalized := normalizeVariablesNormalized accepted
  refine ⟨by rw [same]; exact normalized.numbered,by rw [same]; exact normalized.unique,?_⟩
  intro c mem
  obtain ⟨rule,_,built⟩ := source c mem
  rw [same]
  exact buildRuleGrounded (compileRuleOk.mp built).2
theorem intrinsicWellFormed {set} (markets) (ok : WellFormed set) : WellFormed (withIntrinsic markets set) := by
  refine ⟨ok.numbered,ok.unique,?_⟩
  intro c mem
  rcases List.mem_append.mp mem with old | new
  · exact ok.grounded c old
  · obtain ⟨m,_,built⟩ := List.mem_filterMap.mp new
    obtain ⟨yes,no,rfl,y,n,_,first,second⟩ := intrinsicConstraintOk built
    refine ⟨rfl,by simp,?_⟩
    intro id there
    simp only [List.mem_cons,List.not_mem_nil,or_false] at there
    rcases there with rfl | rfl
    · exact ⟨_,first⟩
    · exact ⟨_,second⟩
theorem groundedBound {set c id} (ok : WellFormed set) (grounded : Grounded (indexVariables set.vars) c)
    (mem : id ∈ c.varIds) :
    id < set.vars.length := by
  obtain ⟨key,found⟩ := grounded.known id mem
  obtain ⟨v,there,_,rfl⟩ := indexFound found
  obtain ⟨i,here⟩ := List.mem_iff_getElem?.mp there
  rw [ok.numbered i v here]
  exact (List.getElem?_eq_some_iff.mp here).1

end Polytope.ConstraintCompiler
