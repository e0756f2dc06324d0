import Polytope.Cardinality
import Polytope.Fnv
import Mathlib.Data.Int.Order.Basic
import Mathlib.Data.List.Dedup
import Mathlib.Tactic.Linarith

/-! Data model of the oracle layer: market records and the universe built from them, rules,
outcome variables and linear constraints over them. Variable ids are 32-bit in the source and
unbounded here. -/
namespace Polytope.OracleTypes
open Cardinality (trueCount)

structure RawMarketRecord where
  marketId : String := ""
  outcomes : List String := []
  assetIds : List String := []
  deriving DecidableEq

structure ArtifactManifest where
  marketCount : Nat := 0
  assetCount : Nat := 0
  llmEnabled : Bool := false
  llmOutputsUsed : Bool := false
  llmProvider : String := "none"
  deriving DecidableEq
structure MarketUniverse where
  markets : List RawMarketRecord := []
  manifest : ArtifactManifest := {}
  deriving DecidableEq
structure MarketUniverseBuildResult where
  marketUniverse : MarketUniverse := {}
  warnings : List String := []
  errors : List String := []
  deriving DecidableEq

def admitRecord (r : MarketUniverseBuildResult) (record : RawMarketRecord) : MarketUniverseBuildResult :=
  if record.marketId = "" then {r with errors := r.errors ++ ["market record missing market_id"]}
  else if record.outcomes.length ≠ record.assetIds.length then
    {r with errors := r.errors ++ ["market " ++ record.marketId ++ " outcomes and asset_ids count mismatch"]}
  else if record.marketId ∈ r.marketUniverse.markets.map (·.marketId) then
    {r with warnings := r.warnings ++ ["duplicate market ignored: " ++ record.marketId]}
  else {r with marketUniverse := {r.marketUniverse with markets := r.marketUniverse.markets ++ [record]}}
def universeAssets (markets : List RawMarketRecord) : List String :=
  ((markets.flatMap (·.assetIds)).filter (· ≠ "")).dedup
def buildUniverse (records : List RawMarketRecord) : MarketUniverseBuildResult :=
  let r := records.foldl admitRecord {}
  let manifest :=
    { marketCount := r.marketUniverse.markets.length
      assetCount := (universeAssets r.marketUniverse.markets).length }
  {r with marketUniverse := {r.marketUniverse with manifest}}

structure Admitted (markets : List RawMarketRecord) : Prop where
  named : ∀ m ∈ markets, m.marketId ≠ ""
  paired : ∀ m ∈ markets, m.outcomes.length = m.assetIds.length
  unique : (markets.map (·.marketId)).Nodup

theorem admitRecordAdmitted {r record} (ok : Admitted r.marketUniverse.markets) :
    Admitted (admitRecord r record).marketUniverse.markets := by
  unfold admitRecord
  split
  · exact ok
  · next named =>
    split
    · exact ok
    · next paired =>
      split
      · exact ok
      · next fresh =>
        rw [not_not] at paired
        refine ⟨?_,?_,?_⟩
        · intro m mem
          rcases List.mem_append.mp mem with old | last
          · exact ok.named m old
          · exact List.mem_singleton.mp last ▸ named
        · intro m mem
          rcases List.mem_append.mp mem with old | last
          · exact ok.paired m old
          · exact List.mem_singleton.mp last ▸ paired
        · rw [List.map_append,List.nodup_append]
          refine ⟨ok.unique,by simp,?_⟩
          intro a old b last same
          have here : a = record.marketId := same.trans (List.mem_singleton.mp last)
          exact fresh (here ▸ old)
theorem buildUniverseAdmitted (records) : Admitted (buildUniverse records).marketUniverse.markets := by
  have all : ∀ (rest : List RawMarketRecord) (r : MarketUniverseBuildResult), Admitted r.marketUniverse.markets →
      Admitted (rest.foldl admitRecord r).marketUniverse.markets := by
    intro rest
    induction rest with
    | nil => exact fun _ ok => ok
    | cons record rest ih => exact fun r ok => ih _ (admitRecordAdmitted ok)
  exact all records {} ⟨by simp,by simp,by simp⟩

inductive RuleType where
  | mutuallyExclusive | collectivelyExhaustive | atMostOne | atLeastOne | exactlyOne
  | implies | equivalent | disjoint | custom
  deriving DecidableEq
inductive RuleCoverage where
  | exclusiveOnly | exhaustiveAndExclusive
  deriving DecidableEq
structure ValidatedRule where
  ruleId : String := ""
  type : RuleType := .custom
  coverage : RuleCoverage := .exclusiveOnly
  variableIds : List String := []
  approved : Bool := false
  deriving DecidableEq
def ruleIsExhaustive (coverage : RuleCoverage) : Bool := decide (coverage = .exhaustiveAndExclusive)

structure BooleanVariable where
  varId : Nat := 0
  variableKey : String := ""
  marketId : String := ""
  outcomeId : String := ""
  assetId : String := ""
  deriving DecidableEq
def variableKey (marketId outcome : String) : String := marketId ++ ":" ++ outcome
def marketVariables (m : RawMarketRecord) : List BooleanVariable :=
  (m.outcomes.zip m.assetIds).map fun x =>
    {variableKey := variableKey m.marketId x.1, marketId := m.marketId, outcomeId := x.1, assetId := x.2}
def variablesFromUniverse (markets : List RawMarketRecord) : List BooleanVariable :=
  (markets.flatMap marketVariables).mapIdx fun i v => {v with varId := i}

inductive ConstraintOp where
  | equal | lessEqual | greaterEqual
  deriving DecidableEq
structure LinearBooleanConstraint where
  varIds : List Nat := []
  coeffs : List Int := []
  op : ConstraintOp := .equal
  rhs : Int := 0
  deriving DecidableEq
structure CompiledConstraintSet where
  vars : List BooleanVariable := []
  constraints : List LinearBooleanConstraint := []
  constraintHash : UInt64 := 0
  deriving DecidableEq

def lhs (x : Nat → Bool) (c : LinearBooleanConstraint) : Int :=
  ((c.varIds.zip c.coeffs).map fun t => if x t.1 then t.2 else 0).sum
def evaluate (lhs : Int) (op : ConstraintOp) (rhs : Int) : Bool :=
  match op with
  | .equal => decide (lhs = rhs)
  | .lessEqual => decide (lhs ≤ rhs)
  | .greaterEqual => decide (rhs ≤ lhs)
def satisfies (x : Nat → Bool) (c : LinearBooleanConstraint) : Bool := evaluate (lhs x c) c.op c.rhs
def Feasible (set : CompiledConstraintSet) (x : Nat → Bool) : Prop := ∀ c ∈ set.constraints, satisfies x c = true

theorem lhsOnes (x : Nat → Bool) {c : LinearBooleanConstraint}
    (ones : c.coeffs = List.replicate c.varIds.length 1) :
    lhs x c = trueCount x c.varIds := by
  unfold lhs trueCount
  rw [ones]
  induction c.varIds with
  | nil => rfl
  | cons v rest ih =>
    rw [List.length_cons,List.replicate_succ,List.zip_cons_cons,List.map_cons,List.sum_cons,ih,List.filter_cons]
    split
    · rw [List.length_cons]
      omega
    · omega

-- std::tolower in the C locale touches ASCII letters only.
def lowerCopy (value : String) : String := String.ofList (value.toList.map Char.toLower)

end Polytope.OracleTypes
