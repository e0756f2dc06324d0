import Polytope.ConstraintCompiler

/-! What the compiled constraints say. A rule is read as a statement about which of its variables are
true, and the 0/1 solutions of the compiled rows are the assignments for which every rule holds and
every yes/no market has exactly one true side. Compilation reports an error exactly where a rule or a
variable cannot be read that way. -/
namespace Polytope.RuleMeaning
open OracleTypes ConstraintCompiler
open Cardinality (trueCount)

section
variable {κ : Type*}

def AtMostOne (x : κ → Bool) (keys : List κ) : Prop := keys.Pairwise fun a b => ¬ (x a = true ∧ x b = true)
def AtLeastOne (x : κ → Bool) (keys : List κ) : Prop := ∃ key ∈ keys, x key = true

theorem atMostOneCount (x : κ → Bool) (keys : List κ) : keys.countP x ≤ 1 ↔ AtMostOne x keys := by
  induction keys with
  | nil => simp [AtMostOne]
  | cons key rest ih =>
    unfold AtMostOne at ih ⊢
    rw [List.countP_cons,List.pairwise_cons,← ih]
    cases held : x key with
    | false => simp
    | true =>
      have idle : rest.countP x = 0 ↔ ∀ other ∈ rest, ¬ x other = true := List.countP_eq_zero
      simp only [if_true,true_and]
      rw [← idle]
      omega
theorem atLeastOneCount (x : κ → Bool) (keys : List κ) : 1 ≤ keys.countP x ↔ AtLeastOne x keys :=
  List.one_le_countP_iff

def SumHolds (x : κ → Bool) (keys : List κ) : ConstraintOp → Prop
  | .equal => AtMostOne x keys ∧ AtLeastOne x keys
  | .lessEqual => AtMostOne x keys
  | .greaterEqual => AtLeastOne x keys

end

/-! Rules read as statements. -/

def RuleHolds (x : String → Bool) (rule : ValidatedRule) : Prop :=
  match rule.type with
  | .mutuallyExclusive =>
    AtMostOne x rule.variableIds ∧ (rule.coverage = .exhaustiveAndExclusive → AtLeastOne x rule.variableIds)
  | .exactlyOne => AtMostOne x rule.variableIds ∧ AtLeastOne x rule.variableIds
  | .atMostOne => AtMostOne x rule.variableIds
  | .atLeastOne => AtLeastOne x rule.variableIds
  | .implies => rule.variableIds.Pairwise fun first second => x first = true → x second = true
  | _ => True
structure YesNo (m : RawMarketRecord) (yes no : String) : Prop where
  paired : m.outcomes.length = m.assetIds.length
  two : m.outcomes.length = 2
  yesListed : yes ∈ m.outcomes
  noListed : no ∈ m.outcomes
  isYes : lowerCopy yes = "yes"
  isNo : lowerCopy no = "no"
-- Only a market both of whose sides are variables is constrained.
def MarketHolds (known : List String) (x : String → Bool) (m : RawMarketRecord) : Prop :=
  ∀ yes no, YesNo m yes no → variableKey m.marketId yes ∈ known → variableKey m.marketId no ∈ known →
    x (variableKey m.marketId yes) = !x (variableKey m.marketId no)

inductive Compiles (known : List String) (rule : ValidatedRule) : Prop where
  | sum (approved : rule.approved = true)
    (type : rule.type ∈ [.mutuallyExclusive,.exactlyOne,.atMostOne,.atLeastOne])
      (some : rule.variableIds ≠ []) (all : ∀ key ∈ rule.variableIds, key ∈ known)
  | implication (approved : rule.approved = true) (type : rule.type = .implies) (two : rule.variableIds.length = 2)
      (all : ∀ key ∈ rule.variableIds, key ∈ known)
structure Compilable (rules : List ValidatedRule) (vars : List BooleanVariable) : Prop where
  named : ∀ v ∈ vars, v.variableKey ≠ ""
  distinct : (vars.map (·.variableKey)).Nodup
  rules : ∀ rule ∈ rules, Compiles (vars.map (·.variableKey)) rule

-- An assignment of the numbered variables, read by key.
def keyed (vars : List BooleanVariable) (x : Nat → Bool) (key : String) : Bool :=
  ((indexVariables vars key).map x).getD false

/-! One rule. -/

section
variable {vars : List BooleanVariable} {x : Nat → Bool}

theorem countKeyed {ids : List Nat} {keys : List String} (listed : ids.map some = keys.map (indexVariables vars)) :
    trueCount x ids = keys.countP (keyed vars x) := by
  unfold trueCount
  rw [← List.countP_eq_length_filter]
  induction keys generalizing ids with
  | nil =>
    rw [List.map_nil,List.map_eq_nil_iff] at listed
    rw [listed]
    rfl
  | cons key rest ih =>
    cases ids with
    | nil => cases listed
    | cons id others =>
      rw [List.map_cons,List.map_cons,List.cons.injEq] at listed
      have same : keyed vars x key = x id := by rw [keyed,← listed.1]; rfl
      rw [List.countP_cons,List.countP_cons,ih listed.2,same]
theorem sumMeans {keys : List String} {op : ConstraintOp} {c : LinearBooleanConstraint}
    (ok : sumConstraint keys (indexVariables vars) op 1 = .ok c) : satisfies x c = true ↔
    SumHolds (keyed vars x) keys op := by
  obtain ⟨_,listed,ones,sense,rhs⟩ := sumConstraintOk ok
  have most := atMostOneCount (keyed vars x) keys
  have least := atLeastOneCount (keyed vars x) keys
  unfold satisfies
  rw [lhsOnes x ones,countKeyed listed,rhs,sense]
  cases op with
  | equal =>
    simp only [evaluate,SumHolds,decide_eq_true_iff]
    rw [← most,← least]
    omega
  | lessEqual =>
    simp only [evaluate,SumHolds,decide_eq_true_iff]
    rw [← most]
    omega
  | greaterEqual =>
    simp only [evaluate,SumHolds,decide_eq_true_iff]
    rw [← least]
    omega
theorem impliesMeans {keys : List String} {c : LinearBooleanConstraint}
    (ok : implies keys (indexVariables vars) = .ok c) :
    satisfies x c = true ↔ keys.Pairwise fun first second => keyed vars x first = true →
      keyed vars x second = true := by
  unfold implies at ok
  split at ok
  · next first second =>
    split at ok
    · cases ok
    next a here =>
    split at ok
    · cases ok
    next b there =>
    cases ok
    have sameFirst : keyed vars x first = x a := by rw [keyed,here]; rfl
    have sameSecond : keyed vars x second = x b := by rw [keyed,there]; rfl
    simp only [List.pairwise_cons,List.mem_singleton,forall_eq,List.not_mem_nil,false_imp_iff,implies_true,
      List.Pairwise.nil,and_true,
      sameFirst,sameSecond,satisfies,lhs,evaluate,List.zip_cons_cons,List.zip_nil_right,List.map_cons,
      List.map_nil,List.sum_cons,
      List.sum_nil,decide_eq_true_iff]
    cases x a <;> cases x b <;> simp
  · cases ok
theorem ruleMeans {rule : ValidatedRule} {c : LinearBooleanConstraint}
    (ok : buildRule (indexVariables vars) rule = .ok c) :
    satisfies x c = true ↔ RuleHolds (keyed vars x) rule := by
  unfold buildRule at ok
  unfold RuleHolds
  cases type : rule.type <;> rw [type] at ok <;> simp only at ok ⊢
  case mutuallyExclusive =>
    split at ok
    · next exhaustive =>
      rw [sumMeans ok]
      have whole : rule.coverage = .exhaustiveAndExclusive := of_decide_eq_true exhaustive
      simp [SumHolds,whole]
    · next partly =>
      rw [sumMeans ok]
      have loose : rule.coverage ≠ .exhaustiveAndExclusive := fun whole => partly (decide_eq_true whole)
      simp [SumHolds,loose]
  case exactlyOne => exact sumMeans ok
  case atMostOne => exact sumMeans ok
  case atLeastOne => exact sumMeans ok
  case implies => exact impliesMeans ok
  all_goals cases ok

/-! Which rules compile. -/

theorem indexKnown {key : String} : (indexVariables vars key).isSome = true ↔ key ∈ vars.map (·.variableKey) := by
  unfold indexVariables
  rw [Option.isSome_map,List.find?_isSome]
  simp
theorem unknownNone {keys : List String} : unknownKeys keys (indexVariables vars) = [] ↔
    ∀ key ∈ keys, key ∈ vars.map (·.variableKey) := by
  unfold unknownKeys
  rw [List.map_eq_nil_iff,List.filter_eq_nil_iff]
  refine forall₂_congr fun key _ => ?_
  rw [← indexKnown]
  cases indexVariables vars key <;> simp
theorem sumCompiles {keys : List String} {op : ConstraintOp} {rhs : Int} :
    (∃ c, sumConstraint keys (indexVariables vars) op rhs = .ok c) ↔
    keys ≠ [] ∧ ∀ key ∈ keys, key ∈ vars.map (·.variableKey) := by
  unfold sumConstraint
  rw [← unknownNone]
  split
  · next none => simp [none]
  next some =>
  split
  · next unknown => simp [unknown]
  · next known =>
    rw [not_not] at known
    simp [some,known]
theorem impliesCompiles {keys : List String} :
    (∃ c, implies keys (indexVariables vars) = .ok c) ↔
    keys.length = 2 ∧ ∀ key ∈ keys, key ∈ vars.map (·.variableKey) := by
  unfold implies
  split
  · next first second =>
    simp only [List.mem_cons,List.not_mem_nil,or_false,forall_eq_or_imp,forall_eq,← indexKnown]
    cases indexVariables vars first <;> cases indexVariables vars second <;> simp
  · next shape =>
    refine iff_of_false (fun ⟨_,ok⟩ => nomatch ok) fun both => ?_
    obtain ⟨first,second,rfl⟩ := List.length_eq_two.mp both.1
    exact shape first second rfl
theorem ruleCompiles {rule : ValidatedRule} :
    (∃ c, compileRule (indexVariables vars) rule = .ok c) ↔ Compiles (vars.map (·.variableKey)) rule := by
  simp only [compileRuleOk,exists_and_left]
  constructor
  · rintro ⟨approved,c,ok⟩
    unfold buildRule at ok
    cases type : rule.type <;> rw [type] at ok <;> simp only at ok
    case implies =>
      obtain ⟨two,all⟩ := impliesCompiles.mp ⟨c,ok⟩
      exact .implication approved type two all
    case mutuallyExclusive =>
      split at ok
      · obtain ⟨some,all⟩ := sumCompiles.mp ⟨c,ok⟩
        exact .sum approved (by simp [type]) some all
      · obtain ⟨some,all⟩ := sumCompiles.mp ⟨c,ok⟩
        exact .sum approved (by simp [type]) some all
    case exactlyOne | atMostOne | atLeastOne =>
      obtain ⟨some,all⟩ := sumCompiles.mp ⟨c,ok⟩
      exact .sum approved (by simp [type]) some all
    all_goals cases ok
  · intro compiles
    cases compiles with
    | sum approved type some all =>
      refine ⟨approved,?_⟩
      unfold buildRule
      simp only [List.mem_cons,List.not_mem_nil,or_false] at type
      rcases type with type | type | type | type <;> rw [type] <;> simp only
      · split
        · exact sumCompiles.mpr ⟨some,all⟩
        · exact sumCompiles.mpr ⟨some,all⟩
      all_goals exact sumCompiles.mpr ⟨some,all⟩
    | implication approved type two all =>
      refine ⟨approved,?_⟩
      unfold buildRule
      rw [type]
      exact impliesCompiles.mpr ⟨two,all⟩

/-! One market. -/

theorem pairMeans {yes no : Nat} :
    satisfies x {varIds := [yes,no], coeffs := [1,1], op := .equal, rhs := 1} = true ↔ x yes = !x no := by
  simp only [satisfies,lhs,evaluate,List.zip_cons_cons,List.zip_nil_right,List.map_cons,List.map_nil,
    List.sum_cons,List.sum_nil,decide_eq_true_iff]
  cases x yes <;> cases x no <;> simp
theorem marketMeans (m : RawMarketRecord) :
    (∀ c, intrinsicConstraint (indexVariables vars) m = some c → satisfies x c = true) ↔
      MarketHolds (vars.map (·.variableKey)) (keyed vars x) m := by
  constructor
  · intro each yes no sides yesKnown noKnown
    obtain ⟨a,here⟩ := Option.isSome_iff_exists.mp (indexKnown.mpr yesKnown)
    obtain ⟨b,there⟩ := Option.isSome_iff_exists.mp (indexKnown.mpr noKnown)
    obtain ⟨y,n,pair,yesAt,noAt⟩ := yesNoPairFound sides.two sides.yesListed sides.noListed sides.isYes sides.isNo
    have built : intrinsicConstraint (indexVariables vars) m = some
      {varIds := [a,b], coeffs := [1,1], op := .equal, rhs := 1} := by
      rw [intrinsicConstraint,if_neg (fun apart => apart sides.paired),pair]
      simp only [bind,Option.bind_some,yesAt,noAt,here,there]
    have opposite := pairMeans.mp (each _ built)
    rw [keyed,keyed,here,there]
    exact opposite
  · intro holds c built
    obtain ⟨a,b,rfl,y,n,pair,here,there⟩ := intrinsicConstraintOk built
    obtain ⟨two,⟨yesListed,isYes⟩,noListed,isNo⟩ := yesNoPairLabels pair
    have paired : m.outcomes.length = m.assetIds.length := by
      by_contra apart
      rw [intrinsicConstraint,if_pos apart] at built
      cases built
    have opposite := holds _ _ ⟨paired,two,yesListed,noListed,isYes,isNo⟩ (indexKnown.mp (by rw [here]; rfl))
      (indexKnown.mp (by rw [there]; rfl))
    rw [keyed,keyed,here,there] at opposite
    exact pairMeans.mpr opposite

end

/-! The whole set. -/

theorem keysKept {vars : List BooleanVariable} (key : String) :
    key ∈ (normalizeVariables vars).1.map (·.variableKey) ↔ key ∈ vars.map (·.variableKey) := by
  rw [normalizedKeys]
  exact ((List.perm_insertionSort _ vars).map _).mem_iff
theorem cleanIff {rules : List ValidatedRule} {vars : List BooleanVariable} : (compile rules vars).errors = [] ↔
    Compilable rules vars := by
  have compiles : ∀ rule, Compiles ((normalizeVariables vars).1.map (·.variableKey)) rule ↔
    Compiles (vars.map (·.variableKey)) rule := by
    intro rule
    constructor
    all_goals
      intro one
      cases one with
      | sum approved type some all =>
        exact .sum approved type some fun key mem => by simpa only [keysKept] using all key mem
      | implication approved type two all =>
        exact .implication approved type two fun key mem => by simpa only [keysKept] using all key mem
  constructor
  · intro clean
    obtain ⟨accepted,_,built,_⟩ := compileOk clean
    obtain ⟨named,distinct⟩ := acceptedKeys accepted
    refine ⟨named,distinct,fun rule mem => ?_⟩
    obtain ⟨c,_,ok⟩ := built rule mem
    exact (compiles rule).mp (ruleCompiles.mp ⟨c,ok⟩)
  · intro ok
    have accepted := keysAccepted ok.named ok.distinct
    simp only [compile]
    rw [if_neg (fun bad => bad accepted)]
    refine List.flatMap_eq_nil_iff.mpr fun rule mem => ?_
    obtain ⟨c,built⟩ := ruleCompiles.mpr ((compiles rule).mpr (ok.rules rule mem))
    simp only [built]

theorem feasibleSplit {set : CompiledConstraintSet} {markets : List RawMarketRecord} {x : Nat → Bool} :
    Feasible (withIntrinsic markets set) x ↔
      Feasible set x ∧ ∀ m ∈ markets, MarketHolds (set.vars.map (·.variableKey)) (keyed set.vars x) m := by
  unfold Feasible
  change (∀ c ∈ set.constraints ++ buildIntrinsic markets set.vars, _) ↔ _
  rw [List.forall_mem_append]
  refine and_congr Iff.rfl ?_
  simp only [← marketMeans]
  unfold buildIntrinsic
  simp only [List.mem_filterMap,(List.perm_insertionSort _ markets).mem_iff]
  exact ⟨fun each m mem c built => each c ⟨m,mem,built⟩,fun each c ⟨m,mem,built⟩ => each m mem c built⟩
theorem everyTruth {vars out : List BooleanVariable} (normalized : Normalized vars out) (truth : String → Bool) :
    ∃ x, ∀ v ∈ vars, keyed out x v.variableKey = truth v.variableKey := by
  refine ⟨fun id => (out[id]?.map fun v => truth v.variableKey).getD false,fun v mem => ?_⟩
  obtain ⟨w,there,same⟩ := normalized.target v mem
  obtain ⟨i,here⟩ := List.mem_iff_getElem?.mp there
  have key : v.variableKey = w.variableKey := by rw [same]
  rw [key,keyed,indexUnique normalized.unique
    there,Option.map_some,Option.getD_some,normalized.numbered i w here,here]
  rfl

theorem compilationFaithful (rules : List ValidatedRule) (vars : List BooleanVariable)
    (markets : List RawMarketRecord) :
    ((compile rules vars).errors = [] ↔ Compilable rules vars) ∧
    (Compilable rules vars →
      let set := withIntrinsic markets (compile rules vars).compiled
      (∀ truth : String → Bool, ∃ x, ∀ v ∈ vars, keyed set.vars x v.variableKey = truth v.variableKey) ∧
      ∀ x, Feasible set x ↔ (∀ rule ∈ rules, RuleHolds (keyed set.vars x) rule) ∧
        ∀ m ∈ markets, MarketHolds (vars.map (·.variableKey)) (keyed set.vars x) m) := by
  refine ⟨cleanIff,fun ok => ?_⟩
  obtain ⟨accepted,same,built,source⟩ := compileOk (cleanIff.mpr ok)
  have normalized := normalizeVariablesNormalized accepted
  have numbered : (withIntrinsic markets (compile rules vars).compiled).vars = (normalizeVariables vars).1 := same
  simp only [numbered]
  refine ⟨everyTruth normalized,fun x => ?_⟩
  rw [feasibleSplit,same]
  refine and_congr ⟨fun feasible rule mem => ?_,fun holds c mem => ?_⟩ ?_
  · obtain ⟨c,inside,ok⟩ := built rule mem
    exact (ruleMeans (compileRuleOk.mp ok).2).mp (feasible c inside)
  · obtain ⟨rule,inside,ok⟩ := source c mem
    exact (ruleMeans (compileRuleOk.mp ok).2).mpr (holds rule inside)
  · unfold MarketHolds
    simp only [keysKept]

-- Two candidates exclude each other, and the first winning implies a turnout; one market has a yes and a no side.
def raceRules : List ValidatedRule :=
  [{ruleId := "winner", type := .mutuallyExclusive, variableIds := ["race:Yes","rival:Yes"], approved := true},
    {ruleId := "turnout", type := .implies, variableIds := ["race:Yes","turnout:Yes"], approved := true}]
def raceVars : List BooleanVariable :=
  [{variableKey := "race:Yes"},{variableKey := "race:No"},{variableKey := "rival:Yes"},{variableKey :=
    "turnout:Yes"}]
def raceMarkets : List RawMarketRecord := [{marketId := "race", outcomes := ["Yes","No"], assetIds := ["1","2"]}]
theorem raceCompilable : Compilable raceRules raceVars where
  named := by decide
  distinct := by decide
  rules rule mem := by
    simp only [raceRules,List.mem_cons,List.not_mem_nil,or_false] at mem
    rcases mem with rfl | rfl
    · exact .sum rfl (by decide) (by decide) (by decide)
    · exact .implication rfl rfl rfl (by decide)
theorem raceMeaning : ∀ x, Feasible (withIntrinsic raceMarkets (compile raceRules raceVars).compiled) x ↔
    (∀ rule ∈ raceRules, RuleHolds
      (keyed (withIntrinsic raceMarkets (compile raceRules raceVars).compiled).vars x) rule) ∧
      ∀ m ∈ raceMarkets, MarketHolds (raceVars.map (·.variableKey))
        (keyed (withIntrinsic raceMarkets (compile raceRules raceVars).compiled).vars x) m :=
  ((compilationFaithful raceRules raceVars raceMarkets).2 raceCompilable).2

end Polytope.RuleMeaning
