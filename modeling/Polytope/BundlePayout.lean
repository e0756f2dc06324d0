import Polytope.CombinatorialBundles

/-! The payout a generated bundle is sure of. A basket over a rule's own outcomes is covered by
the rule's constraint. A complement basket also needs each leg to be the negation of the outcome
it replaces, and only a market with exactly two outcomes carries that constraint. -/
namespace Polytope.BundlePayout
open OracleTypes ConstraintCompiler CombinatorialBundles
open Cardinality (trueCount)

def legTrue (vars : List BooleanVariable) (x : Nat → Bool) (leg : BundleLeg) : Bool :=
  vars.any fun v => decide (v.marketId = leg.marketId) && decide (v.assetId = leg.assetId) && x v.varId
def bundlePayout (vars : List BooleanVariable) (x : Nat → Bool) (b : CandidateBundle) : Int :=
  (b.legs.map fun leg => leg.quantityLots * if legTrue vars x leg then payoutOneTick else 0).sum

def constraintSet (markets : List RawMarketRecord) (rules : List ValidatedRule) : CompiledConstraintSet :=
  withIntrinsic markets (compile rules (variablesFromUniverse markets)).compiled
def Guaranteed (markets : List RawMarketRecord) : Prop :=
  ∀ rules, (∀ rule ∈ rules, rule.approved = true) → (compile rules (variablesFromUniverse markets)).errors = [] →
    (generateFromRulebook markets rules).errors = [] →
    ∀ b ∈ (generateFromRulebook markets rules).bundles, ∀ x, Feasible (constraintSet markets rules) x →
      b.guaranteedPayoutTick ≤ bundlePayout (constraintSet markets rules).vars x b

def Complementable (markets : List RawMarketRecord) (m : RawMarketRecord) : Prop :=
  ∃ b ∈ marketBindings m, ∃ c, complementOf (buildIndex markets) b = some c ∧ c.assetId ≠ ""
def DistinctKeys (markets : List RawMarketRecord) : Prop := ((bindings markets).map (·.variableId)).Nodup
-- No complement leg on a market without exactly two outcomes, unless all of them are there.
def Balanced (markets : List RawMarketRecord) : Prop :=
  DistinctKeys markets → ∀ m ∈ markets, Complementable markets m →
    m.outcomes.length = 2 ∨ ∀ n ∈ markets, Complementable markets n → n.marketId = m.marketId

/-! Bindings and variables. -/

theorem variableKeyNamed (market outcome) : variableKey market outcome ≠ "" := by
  intro empty
  have := congrArg String.length empty
  simp [variableKey] at this

def variableOf (b : VariableBinding) (varId : Nat) : BooleanVariable :=
  {varId, variableKey := b.variableId, marketId := b.marketId, outcomeId := b.outcomeId, assetId := b.assetId}
theorem universeVariables (markets) :
    variablesFromUniverse markets = (bindings markets).mapIdx fun i b => variableOf b i := by
  have each : ∀ m, marketVariables m = (marketBindings m).map fun b => variableOf b 0 := by
    intro m
    simp [marketVariables,marketBindings,variableOf]
  have all : markets.flatMap marketVariables = (bindings markets).map fun b => variableOf b 0 := by
    rw [bindings,List.map_flatMap]
    exact List.flatMap_congr fun m _ => each m
  rw [variablesFromUniverse,all]
  apply List.ext_getElem
  · simp
  · intro i _ _
    simp [variableOf]
theorem universeKeys (markets) :
    (variablesFromUniverse markets).map (·.variableKey) = (bindings markets).map (·.variableId) := by
  rw [universeVariables]
  apply List.ext_getElem
  · simp
  · intro i _ _
    simp [variableOf]
theorem bindingNamed {markets b} (mem : b ∈ bindings markets) : b.variableId ≠ "" := by
  obtain ⟨m,_,here⟩ := List.mem_flatMap.mp mem
  obtain ⟨o,_,rfl⟩ := List.mem_map.mp here
  exact variableKeyNamed _ _
theorem marketOfBinding {m b} (mem : b ∈ marketBindings m) : b.marketId = m.marketId ∧ b.outcomeId ∈ m.outcomes ∧
    b.variableId = variableKey m.marketId b.outcomeId := by
  obtain ⟨o,there,rfl⟩ := List.mem_map.mp mem
  exact ⟨rfl,(List.of_mem_zip there).1,rfl⟩

structure Carries (vars : List BooleanVariable) (markets : List RawMarketRecord) : Prop where
  numbered : ∀ (i : Nat) (v : BooleanVariable), vars[i]? = some v → v.varId = i
  unique : (vars.map (·.variableKey)).Nodup
  source : ∀ v ∈ vars, ∃ b ∈ bindings markets, v = variableOf b v.varId
  target : ∀ b ∈ bindings markets, ∃ id, variableOf b id ∈ vars

theorem compiledCarries {markets} (ok : (normalizeVariables (variablesFromUniverse markets)).2 = []) :
    Carries (normalizeVariables (variablesFromUniverse markets)).1 markets := by
  have normalized := normalizeVariablesNormalized ok
  have member : ∀ v, v ∈ variablesFromUniverse markets ↔
    ∃ i, ∃ b, (bindings markets)[i]? = some b ∧ v = variableOf b i := by
    intro v
    rw [universeVariables,List.mem_iff_getElem?]
    simp only [List.getElem?_mapIdx,Option.map_eq_some_iff]
    constructor
    · rintro ⟨i,b,here,same⟩
      exact ⟨i,b,here,same.symm⟩
    · rintro ⟨i,b,here,same⟩
      exact ⟨i,b,here,same.symm⟩
  refine ⟨normalized.numbered,normalized.unique,?_,?_⟩
  · intro w mem
    obtain ⟨v,there,same⟩ := normalized.source w mem
    obtain ⟨i,b,here,rfl⟩ := (member v).mp there
    exact ⟨b,List.mem_of_getElem? here,same⟩
  · intro b mem
    obtain ⟨i,here⟩ := List.mem_iff_getElem?.mp mem
    obtain ⟨w,there,same⟩ := normalized.target _ ((member (variableOf b i)).mpr ⟨i,b,here,rfl⟩)
    exact ⟨w.varId,same ▸ there⟩

theorem keysDistinct {markets} : (normalizeVariables (variablesFromUniverse markets)).2 = [] ↔
    DistinctKeys markets := by
  constructor
  · intro ok
    have := (acceptedKeys ok).2
    rwa [universeKeys] at this
  · intro unique
    refine keysAccepted ?_ (by rwa [universeKeys])
    intro v mem
    have there : v.variableKey ∈ (variablesFromUniverse markets).map (·.variableKey) := List.mem_map_of_mem mem
    rw [universeKeys] at there
    obtain ⟨b,here,same⟩ := List.mem_map.mp there
    rw [← same]
    exact bindingNamed here

/-! The value of an outcome in an assignment. -/

theorem byVariableFound {markets key b} (found : (buildIndex markets).byVariable key = some b) :
    b ∈ bindings markets ∧ b.variableId = key :=
  ⟨List.mem_of_find?_eq_some found,by simpa using List.find?_some found⟩
theorem resolvedKnown {markets} (rule) :
    ∀ b ∈ resolveVariables rule (buildIndex markets), b ∈ bindings markets := by
  intro b mem
  obtain ⟨key,_,found⟩ := List.mem_filterMap.mp mem
  exact (byVariableFound found).1

def idOf (vars : List BooleanVariable) (b : VariableBinding) : Nat := (indexVariables vars b.variableId).getD 0
def holds (vars : List BooleanVariable) (x : Nat → Bool) (b : VariableBinding) : Bool := x (idOf vars b)

section
variable {vars : List BooleanVariable} {markets : List RawMarketRecord} (carries : Carries vars markets)
  (x : Nat → Bool)
include carries

theorem idOfVariable {b} (mem : b ∈ bindings markets) :
    indexVariables vars b.variableId = some (idOf vars b) ∧ variableOf b (idOf vars b) ∈ vars := by
  obtain ⟨id,there⟩ := carries.target b mem
  have found : indexVariables vars b.variableId = some id := indexUnique carries.unique there
  rw [idOf,found]
  exact ⟨rfl,there⟩

theorem heldLegTrue {b} (mem : b ∈ bindings markets) (held : holds vars x b = true) :
    legTrue vars x (makeLeg b) = true := by
  rw [legTrue,List.any_eq_true]
  unfold holds at held
  exact ⟨_,(idOfVariable carries mem).2,by simp [variableOf,makeLeg,held]⟩

theorem bundlePays {bs : List VariableBinding} (known : ∀ b ∈ bs, b ∈ bindings markets) (id guaranteed) :
    ((bs.filter (holds vars x)).length : Int) * payoutOneTick ≤ bundlePayout vars x
    (makeBundle id bs guaranteed) := by
  unfold bundlePayout makeBundle
  simp only
  induction bs with
  | nil => simp
  | cons b rest ih =>
    have tail := ih fun c mem => known c (List.mem_cons_of_mem _ mem)
    have one : (makeLeg b).quantityLots = 1 := rfl
    rw [List.map_cons,List.map_cons,List.sum_cons,List.filter_cons,one]
    unfold payoutOneTick at tail ⊢
    by_cases held : holds vars x b = true
    · rw [if_pos held,if_pos (heldLegTrue carries x (known b List.mem_cons_self) held),List.length_cons]
      omega
    · rw [if_neg held]
      split <;> omega

theorem resolvedIds {keys : List String} {ids : List Nat} (same : ids.map some = keys.map (indexVariables vars))
    (all : (keys.filterMap (buildIndex markets).byVariable).length = keys.length) :
    ids = (keys.filterMap (buildIndex markets).byVariable).map (idOf vars) := by
  induction keys generalizing ids with
  | nil =>
    rw [List.map_nil,List.map_eq_nil_iff] at same
    rw [same]
    rfl
  | cons key rest ih =>
    have short := List.length_filterMap_le (buildIndex markets).byVariable rest
    cases found : (buildIndex markets).byVariable key with
    | none =>
      rw [List.filterMap_cons,found,List.length_cons] at all
      simp only at all
      omega
    | some b =>
      rw [List.filterMap_cons,found] at all ⊢
      simp only [List.length_cons,Nat.add_right_cancel_iff] at all
      obtain ⟨there,name⟩ := byVariableFound found
      cases ids with
      | nil => cases same
      | cons id ids =>
        rw [List.map_cons,List.map_cons,List.cons.injEq] at same
        have here := (idOfVariable carries there).1
        rw [name,← same.1] at here
        rw [List.map_cons,ih same.2 all,Option.some.inj here]

end

theorem trueCountMap (vars) (x : Nat → Bool) (bs : List VariableBinding) :
    trueCount x (bs.map (idOf vars)) = (bs.filter (holds vars x)).length := by
  rw [trueCount,List.filter_map,List.length_map]
  rfl

/-! The guarantee, where every complement leg negates the outcome it replaces. -/

theorem sameMarket {markets} (ok : Admitted markets) {m b c} (there : m ∈ markets) (here : b ∈ marketBindings m)
    (mem : c ∈ bindings markets) (same : c.marketId = b.marketId) : c ∈ marketBindings m := by
  obtain ⟨n,inside,found⟩ := List.mem_flatMap.mp mem
  have equal : n = m := by
    apply List.inj_on_of_nodup_map ok.unique inside there
    rw [← (marketOfBinding found).1,← (marketOfBinding here).1,same]
  exact equal ▸ found

section
variable {vars : List BooleanVariable} {markets : List RawMarketRecord} (ok : Admitted markets)
  (carries : Carries vars markets)
  {x : Nat → Bool} (intrinsic : ∀ c ∈ buildIntrinsic markets vars, satisfies x c = true)
include ok carries intrinsic

theorem pairExclusive {m yes no} (there : m ∈ markets) (two : m.outcomes.length = 2)
    (first : yes ∈ marketBindings m)
    (second : no ∈ marketBindings m) (isYes : lowerCopy yes.outcomeId = "yes")
    (isNo : lowerCopy no.outcomeId = "no") :
    holds vars x no = !holds vars x yes := by
  obtain ⟨_,inYes,keyYes⟩ := marketOfBinding first
  obtain ⟨_,inNo,keyNo⟩ := marketOfBinding second
  obtain ⟨y,n,pair,atYes,atNo⟩ := yesNoPairFound two inYes inNo isYes isNo
  have idYes := (idOfVariable carries (List.mem_flatMap.mpr ⟨m,there,first⟩)).1
  have idNo := (idOfVariable carries (List.mem_flatMap.mpr ⟨m,there,second⟩)).1
  have built : intrinsicConstraint (indexVariables vars) m =
      some {varIds := [idOf vars yes,idOf vars no], coeffs := [1,1], op := .equal, rhs := 1} := by
    unfold intrinsicConstraint
    rw [if_neg (not_not.mpr (ok.paired m there)),pair]
    simp only [Option.bind_eq_bind,Option.bind_some]
    rw [atYes,atNo,← keyYes,← keyNo,idYes,idNo]
    rfl
  have sum := intrinsic _ (List.mem_filterMap.mpr ⟨m,(List.perm_insertionSort _ markets).mem_iff.mpr there,built⟩)
  simp only [satisfies,evaluate,lhs,List.zip_cons_cons,List.zip_nil_right,List.map_cons,List.map_nil,
    List.sum_cons,List.sum_nil,
    decide_eq_true_eq] at sum
  unfold holds
  revert sum
  cases x (idOf vars yes) <;> cases x (idOf vars no) <;> decide

theorem complementNegates {m b c} (there : m ∈ markets) (two : m.outcomes.length = 2) (here : b ∈ marketBindings m)
    (opposite : complementOf (buildIndex markets) b = some c) : holds vars x c = !holds vars x b := by
  obtain ⟨mem,same,label,labelled⟩ := complementSource opposite
  have inside := sameMarket ok there here mem same
  unfold oppositeOutcome at label
  by_cases isYes : lowerCopy b.outcomeId = "yes"
  · rw [if_pos isYes] at label
    exact pairExclusive ok carries intrinsic there two here inside isYes label
  · have isNo : lowerCopy b.outcomeId = "no" := by simpa [isYesNoOutcome,isYes] using labelled
    rw [if_neg isYes,if_pos isNo] at label
    rw [pairExclusive ok carries intrinsic there two inside here label isNo,Bool.not_not]

end

theorem countComplement {α β : Type} {p : α → Bool} {q : β → Bool} {f : α → Option β} {bs : List α} {cs : List β}
    (opposite : bs.map f = cs.map some) (negates : ∀ b ∈ bs, ∀ c, f b = some c → q c = !p b) :
    (cs.filter q).length + (bs.filter p).length = cs.length := by
  induction bs generalizing cs with
  | nil =>
    rw [List.map_nil,eq_comm,List.map_eq_nil_iff] at opposite
    rw [opposite]
    rfl
  | cons b rest ih =>
    cases cs with
    | nil => cases opposite
    | cons c tail =>
      rw [List.map_cons,List.map_cons,List.cons.injEq] at opposite
      have later := ih opposite.2 fun d mem => negates d (List.mem_cons_of_mem _ mem)
      rw [List.filter_cons,List.filter_cons,negates b List.mem_cons_self c opposite.1,List.length_cons,← later]
      cases p b <;> simp <;> omega

theorem distinctMarketsApart {bs : List VariableBinding} (several : 1 < distinctMarketCount bs) (market) :
    ∃ b ∈ bs, b.marketId ≠ market := by
  by_contra! all
  have inside : (bs.map (·.marketId)).dedup ⊆ [market] := by
    intro k mem
    obtain ⟨b,there,rfl⟩ := List.mem_map.mp (List.mem_dedup.mp mem)
    exact List.mem_singleton.mpr (all b there)
  have short := (List.subperm_of_subset (List.nodup_dedup _) inside).length_le
  unfold distinctMarketCount at several
  simp only [List.length_singleton] at short
  omega

theorem complementsOnPairs {markets} (balanced : Balanced markets) (keys : DistinctKeys markets)
    {bs cs : List VariableBinding}
    (known : ∀ b ∈ bs, b ∈ bindings markets) (several : 1 < distinctMarketCount bs)
    (opposite : bs.map (complementOf (buildIndex markets)) = cs.map some)
    (traded : ∀ c ∈ cs, c.assetId ≠ "") {b} (mem : b ∈ bs) :
    ∃ m ∈ markets, b ∈ marketBindings m ∧ m.outcomes.length = 2 := by
  have complementable : ∀ b ∈ bs, ∃ m ∈ markets, b ∈ marketBindings m ∧ Complementable markets m := by
    intro b mem
    obtain ⟨m,there,here⟩ := List.mem_flatMap.mp (known b mem)
    have image : complementOf (buildIndex markets) b ∈ cs.map some := opposite ▸ List.mem_map_of_mem mem
    obtain ⟨c,inside,found⟩ := List.mem_map.mp image
    exact ⟨m,there,here,b,here,c,found.symm,traded c inside⟩
  obtain ⟨m,there,here,able⟩ := complementable b mem
  refine ⟨m,there,here,?_⟩
  rcases balanced keys m there able with two | only
  · exact two
  · obtain ⟨d,inside,apart⟩ := distinctMarketsApart several m.marketId
    obtain ⟨n,where_,at_,other⟩ := complementable d inside
    have same := only n where_ other
    rw [← (marketOfBinding at_).1] at same
    exact absurd same apart

theorem ruleCount {vars markets} {x : Nat → Bool} {rule : ValidatedRule} {c} (carries : Carries vars markets)
    (built : compileRule (indexVariables vars) rule = .ok c) (sat : satisfies x c = true)
    (all : (resolveVariables rule (buildIndex markets)).length = rule.variableIds.length) :
    (rule.type = .exactlyOne → ((resolveVariables rule (buildIndex markets)).filter (holds vars x)).length = 1) ∧
    (rule.type = .atMostOne →
      ((resolveVariables rule (buildIndex markets)).filter (holds vars x)).length ≤ 1) := by
  have sums : ∀ op rhs, sumConstraint rule.variableIds (indexVariables vars) op rhs = .ok c →
      evaluate ((resolveVariables rule (buildIndex markets)).filter (holds vars x)).length op rhs = true := by
    intro op rhs sum
    obtain ⟨_,ids,ones,sameOp,sameRhs⟩ := sumConstraintOk sum
    have here := resolvedIds carries ids all
    rw [satisfies,lhsOnes x ones,sameOp,sameRhs,here,trueCountMap] at sat
    exact sat
  have build := (compileRuleOk.mp built).2
  unfold buildRule at build
  constructor
  · intro type
    rw [type] at build
    have := sums .equal 1 build
    simp only [evaluate,decide_eq_true_eq] at this
    omega
  · intro type
    rw [type] at build
    have := sums .lessEqual 1 build
    simp only [evaluate,decide_eq_true_eq] at this
    omega

theorem balancedGuaranteed {markets} (ok : Admitted markets) (balanced : Balanced markets) :
    Guaranteed markets := by
  intro rules _ compiled generated b mem x feasible
  obtain ⟨accepted,vars,target,_⟩ := compileOk compiled
  have carries := compiledCarries accepted
  have keys := keysDistinct.mp accepted
  obtain ⟨same,valid⟩ := generateOk generated
  have traded := validateLegs valid b mem
  rw [same] at mem
  have sameVars : (constraintSet markets rules).vars =
    (normalizeVariables (variablesFromUniverse markets)).1 := vars
  rw [sameVars]
  rcases generateEmits b mem with none | ⟨rule,there,emitted⟩
  · cases none
  · obtain ⟨c,inside,built⟩ := target rule there
    have sat := feasible c (List.mem_append_left _ inside)
    have intrinsic : ∀ c ∈ buildIntrinsic markets (normalizeVariables (variablesFromUniverse markets)).1,
      satisfies x c = true := by
      intro c there
      rw [← vars] at there
      exact feasible c (List.mem_append_right _ there)
    cases emitted with
    | @basket id bs type resolved all =>
      subst resolved
      have pays := bundlePays carries x (resolvedKnown rule) id payoutOneTick
      rw [(ruleCount carries built sat all).1 type] at pays
      simpa [makeBundle] using pays
    | @complement id bs cs type resolved all several opposite filled =>
      subst resolved
      have known : ∀ c ∈ cs, c ∈ bindings markets := by
        intro c there
        have image : some c ∈ (resolveVariables rule (buildIndex markets)).map
          (complementOf (buildIndex markets)) :=
          opposite ▸ List.mem_map_of_mem there
        obtain ⟨b,_,found⟩ := List.mem_map.mp image
        exact (complementSource found).1
      have assets : ∀ c ∈ cs, c.assetId ≠ "" := fun c there => traded (makeLeg c) (List.mem_map_of_mem there)
      have total := countComplement (p := holds (normalizeVariables (variablesFromUniverse markets)).1 x)
          (q := holds (normalizeVariables (variablesFromUniverse markets)).1 x) opposite fun b inside c found => by
        obtain ⟨m,there,here,two⟩ :=
          complementsOnPairs balanced keys (resolvedKnown rule) several opposite assets inside
        exact complementNegates ok carries intrinsic there two here found
      have count : ((resolveVariables rule (buildIndex markets)).filter
          (holds (normalizeVariables (variablesFromUniverse markets)).1 x)).length ≤ 1 := by
        rcases type with type | type
        · exact ((ruleCount carries built sat all).1 type).le
        · exact (ruleCount carries built sat all).2 type
      refine le_trans ?_ (bundlePays carries x known id ((cs.length - 1 : Nat) * payoutOneTick))
      simp only [makeBundle,payoutOneTick]
      omega

/-! Without it: a rule over a market that is not a pair, with every outcome of that market false. -/

def crossRule (b d : VariableBinding) : ValidatedRule :=
  {ruleId := "cross", type := .atMostOne, variableIds := [b.variableId,b.variableId,d.variableId],
    approved := true}
def loose (vars : List BooleanVariable) (market : String) (id : Nat) : Bool :=
  match vars[id]? with
  | some v => decide (v.marketId ≠ market) && decide (lowerCopy v.outcomeId = "yes")
  | none => false

theorem outcomeBinding {markets} (ok : Admitted markets) {m o} (there : m ∈ markets) (mem : o ∈ m.outcomes) :
    ∃ b ∈ marketBindings m, b.outcomeId = o := by
  have firsts : (m.outcomes.zip m.assetIds).map Prod.fst = m.outcomes := List.map_fst_zip (ok.paired m there).le
  rw [← firsts] at mem
  obtain ⟨pair,inside,rfl⟩ := List.mem_map.mp mem
  exact ⟨_,List.mem_map_of_mem inside,rfl⟩
theorem byVariableUnique {markets} (keys : DistinctKeys markets) {b} (mem : b ∈ bindings markets) :
    (buildIndex markets).byVariable b.variableId = some b := by
  obtain ⟨d,found⟩ : ∃ d, (buildIndex markets).byVariable b.variableId = some d := by
    rw [← Option.isSome_iff_exists]
    exact List.find?_isSome.mpr ⟨b,mem,by simp⟩
  obtain ⟨there,same⟩ := byVariableFound found
  rw [found,List.inj_on_of_nodup_map keys there mem same]

section
variable {markets : List RawMarketRecord} {b c d e : VariableBinding}

theorem crossCompiled {vars} (carries : Carries vars markets) (first : b ∈ bindings markets)
    (second : d ∈ bindings markets) :
    compileRule (indexVariables vars) (crossRule b d) =
      .ok {varIds := [idOf vars b,idOf vars b,idOf vars d], coeffs := [1,1,1], op := .lessEqual, rhs := 1} := by
  have idB := (idOfVariable carries first).1
  have idD := (idOfVariable carries second).1
  rw [compileRuleOk]
  refine ⟨rfl,?_⟩
  simp [crossRule,buildRule,atMostOne,sumConstraint,unknownKeys,idB,idD]

theorem crossLegValid (ok : Admitted markets) (mem : c ∈ bindings markets) (traded : c.assetId ≠ "") (i) :
    legErrors (buildIndex markets).knownMarketIds (buildIndex markets).knownAssetIds (makeLeg c) i = [] := by
  obtain ⟨m,there,here⟩ := List.mem_flatMap.mp mem
  have market : c.marketId = m.marketId := (marketOfBinding here).1
  have named : c.marketId ≠ "" := market ▸ ok.named m there
  have known : c.marketId ∈ (buildIndex markets).knownMarketIds := by
    simp only [buildIndex,List.mem_filter,List.mem_map,decide_eq_true_eq]
    exact ⟨⟨m,there,market.symm⟩,named⟩
  have asset : c.assetId ∈ (buildIndex markets).knownAssetIds := List.mem_map_of_mem mem
  simp [legErrors,makeLeg,named,known,asset,traded,payoutOneTick]

theorem crossGenerated (ok : Admitted markets) (keys : DistinctKeys markets) (first : b ∈ bindings markets)
    (second : d ∈ bindings markets) (apart : b.marketId ≠ d.marketId)
    (forB : complementOf (buildIndex markets) b = some c)
    (forD : complementOf (buildIndex markets) d = some e) (tradedC : c.assetId ≠ "") (tradedE : e.assetId ≠ "") :
    (generateFromRulebook markets [crossRule b d]).errors = [] ∧
      (generateFromRulebook markets [crossRule b d]).bundles = [makeBundle 1 [c,c,e] (2 * payoutOneTick)] := by
  have resolved : resolveVariables (crossRule b d) (buildIndex markets) = [b,b,d] := by
    simp [resolveVariables,crossRule,byVariableUnique keys first,byVariableUnique keys second]
  have known : unresolved (crossRule b d) (buildIndex markets) = [] := by
    simp [unresolved,crossRule,byVariableUnique keys first,byVariableUnique keys second]
  have kept : skipped (crossRule b d) [b,b,d] = none := by
    simp [skipped,distinctMarketCount,kMaxBundleLegs,apart]
  have opposite : complementBindings (crossRule b d) (buildIndex markets) [b,b,d] = .ok [c,c,e] := by
    rw [complementBindingsOk]
    simp [forB,forD]
  have folded : [crossRule b d].foldl (generateRule (buildIndex markets)) {} =
      {bundles := [makeBundle 1 [c,c,e] (2 * payoutOneTick)]} := by
    have append : ∀ r, appendAtMostOneBundles (crossRule b d) [b,b,d] (buildIndex markets) r =
        push r [c,c,e] (2 * payoutOneTick) := by
      intro r
      unfold appendAtMostOneBundles appendComplement
      rw [kept,opposite]
      rfl
    have rule : generateRule (buildIndex markets) {} (crossRule b d) =
        appendAtMostOneBundles (crossRule b d) [b,b,d] (buildIndex markets) {} := by
      unfold generateRule
      rw [resolved,known]
      rfl
    rw [List.foldl_cons,rule,append]
    rfl
  have valid : validate (buildIndex markets).knownMarketIds (buildIndex markets).knownAssetIds []
      [makeBundle 1 [c,c,e] (2 * payoutOneTick)] = [] := by
    have legC := crossLegValid ok (complementSource forB).1 tradedC
    have legE := crossLegValid ok (complementSource forD).1 tradedE
    simp [validate,bundleErrors,makeBundle,masksConflict,kMaxBundleLegs,legC,legE]
  unfold generateFromRulebook
  simp only [folded,valid]
  exact ⟨rfl,rfl⟩

end

section
variable {vars : List BooleanVariable} {markets : List RawMarketRecord} (carries : Carries vars markets)
include carries

theorem looseVariable {v} (mem : v ∈ vars) (market) :
    loose vars market v.varId = (decide (v.marketId ≠ market) && decide (lowerCopy v.outcomeId = "yes")) := by
  obtain ⟨i,here⟩ := List.mem_iff_getElem?.mp mem
  rw [loose,carries.numbered i v here,here]
theorem looseBinding {b} (mem : b ∈ bindings markets) (market) :
    loose vars market (idOf vars b) = (decide (b.marketId ≠ market) && decide (lowerCopy b.outcomeId = "yes")) :=
  looseVariable carries (idOfVariable carries mem).2 market
theorem looseLeg {c : VariableBinding} {market} (same : c.marketId = market) :
    legTrue vars (loose vars market) (makeLeg c) = false := by
  rw [legTrue,List.any_eq_false]
  intro v mem
  rw [looseVariable carries mem]
  by_cases here : v.marketId = market
  · simp [here]
  · simp [makeLeg,same,here]

theorem looseIntrinsic (ok : Admitted markets) {m} (there : m ∈ markets) (many : m.outcomes.length ≠ 2) :
    ∀ c ∈ buildIntrinsic markets vars, satisfies (loose vars m.marketId) c = true := by
  intro c mem
  obtain ⟨p,sorted,built⟩ := List.mem_filterMap.mp mem
  have inside : p ∈ markets := (List.perm_insertionSort _ markets).mem_iff.mp sorted
  obtain ⟨yes,no,rfl,y,n,pair,first,second⟩ := intrinsicConstraintOk built
  obtain ⟨two,⟨inYes,isYes⟩,inNo,isNo⟩ := yesNoPairLabels pair
  have apart : p.marketId ≠ m.marketId := by
    intro same
    rw [List.inj_on_of_nodup_map ok.unique inside there same] at two
    exact many two
  have value : ∀ o id, o ∈ p.outcomes → indexVariables vars (variableKey p.marketId o) = some id →
      loose vars m.marketId id = decide (lowerCopy o = "yes") := by
    intro o id listed found
    obtain ⟨b,here,rfl⟩ := outcomeBinding ok inside listed
    obtain ⟨market,_,key⟩ := marketOfBinding here
    have known : b ∈ bindings markets := List.mem_flatMap.mpr ⟨p,inside,here⟩
    rw [← key,(idOfVariable carries known).1] at found
    rw [← Option.some.inj found,looseBinding carries known,market]
    simp [apart]
  have on : loose vars m.marketId yes = true := by rw [value _ _ inYes first,isYes]; rfl
  have off : loose vars m.marketId no = false := by rw [value _ _ inNo second,isNo]; decide
  simp [satisfies,evaluate,lhs,on,off]

end

theorem guaranteedBalanced {markets} (ok : Admitted markets) (guaranteed : Guaranteed markets) :
    Balanced markets := by
  rintro keys m there ⟨b,here,c,forB,tradedC⟩
  by_contra! bad
  obtain ⟨many,n,inside,⟨d,at_,e,forD,tradedE⟩,apart⟩ := bad
  have accepted := keysDistinct.mpr keys
  have carries := compiledCarries accepted
  have market : b.marketId = m.marketId := (marketOfBinding here).1
  have other : d.marketId = n.marketId := (marketOfBinding at_).1
  have first : b ∈ bindings markets := List.mem_flatMap.mpr ⟨m,there,here⟩
  have second : d ∈ bindings markets := List.mem_flatMap.mpr ⟨n,inside,at_⟩
  have built := crossCompiled carries first second
  have generated := crossGenerated ok keys first second
    (by rw [market,other]; exact apart.symm) forB forD tradedC tradedE
  have compiled : (compile [crossRule b d] (variablesFromUniverse markets)).errors = [] := by
    simp [compile,accepted,ruleErrors,built]
  have vars : (constraintSet markets [crossRule b d]).vars =
    (normalizeVariables (variablesFromUniverse markets)).1 :=
    (compileOk compiled).2.1
  have feasible : Feasible (constraintSet markets [crossRule b d])
      (loose (normalizeVariables (variablesFromUniverse markets)).1 m.marketId) := by
    intro k mem
    rcases List.mem_append.mp mem with rule | intrinsic
    · obtain ⟨r,inside,same⟩ := (compileOk compiled).2.2.2 k rule
      rw [List.mem_singleton.mp inside,built] at same
      cases same
      have off := looseBinding carries first m.marketId
      simp only [market,ne_eq,not_true_eq_false,decide_false,Bool.false_and] at off
      simp only [satisfies,evaluate,lhs,List.zip_cons_cons,List.zip_nil_right,List.map_cons,List.map_nil,
        List.sum_cons,List.sum_nil,
        off,Bool.false_eq_true,if_false]
      split <;> decide
    · rw [(compileOk compiled).2.1] at intrinsic
      exact looseIntrinsic carries ok there many k intrinsic
  have pays := guaranteed [crossRule b d] (by simp [crossRule]) compiled generated.1
    (makeBundle 1 [c,c,e] (2 * payoutOneTick)) (by rw [generated.2]; simp) _ feasible
  have unpaid := looseLeg carries ((complementSource forB).2.1.trans market)
  have lots : ∀ k, (makeLeg k).quantityLots = 1 := fun _ => rfl
  rw [vars] at pays
  simp only [bundlePayout,makeBundle,List.map_cons,List.map_nil,List.sum_cons,List.sum_nil,unpaid,
    lots,payoutOneTick,
    Bool.false_eq_true,if_false] at pays
  split at pays <;> omega

theorem bundlesGuaranteedIff (records : List RawMarketRecord) :
    Guaranteed (buildUniverse records).marketUniverse.markets ↔
      Balanced (buildUniverse records).marketUniverse.markets :=
  ⟨guaranteedBalanced (buildUniverseAdmitted records),balancedGuaranteed (buildUniverseAdmitted records)⟩

def threeOutcomeRecords : List RawMarketRecord :=
  [{marketId := "m1", outcomes := ["Yes","No","Maybe"], assetIds := ["a1","a2","a3"]},
    {marketId := "m2", outcomes := ["Yes","No"], assetIds := ["b1","b2"]}]
def oneYes : ValidatedRule :=
  {ruleId := "r", type := .atMostOne, variableIds := ["m1:Yes","m2:Yes"], approved := true}
-- Maybe and m2:Yes resolve: both No legs lose, and the basket was sure of one payout.
theorem threeOutcomesUnpaid :
    (buildUniverse threeOutcomeRecords).errors = [] ∧
    ¬ Guaranteed (buildUniverse threeOutcomeRecords).marketUniverse.markets := by
  refine ⟨by decide +kernel,fun guaranteed => ?_⟩
  have pays := guaranteed [oneYes] (by decide) (by decide +kernel) (by decide +kernel)
    (makeBundle 1 [⟨"m1:No","m1","No","a2"⟩,⟨"m2:No","m2","No","b2"⟩] payoutOneTick) (by decide +kernel)
    (fun id => id == 0 || id == 4) (by unfold Feasible; decide +kernel)
  revert pays
  decide +kernel

end Polytope.BundlePayout
