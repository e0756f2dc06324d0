import Polytope.ConstraintCompiler
import Polytope.Machine
import Mathlib.Data.List.Dedup

/-! Bundles generated from an approved rulebook. The generator reads outcome labels and the
shape of a rule; it never looks at the compiled constraints. -/
namespace Polytope.CombinatorialBundles
open OracleTypes

def payoutOneTick : Int := 1000000
def kMaxBundleLegs : Nat := 16
inductive Side where
  | buy | sell
  deriving DecidableEq
-- The types of the source's ids and figures are left open: the artifact reads and writes them bit by bit.
structure BundleLegOf (Text Figure : Type) [Inhabited Text] [Inhabited Figure] where
  marketId : Text := default
  assetId : Text := default
  side : Side := .buy
  quantityLots : Figure := default
  maxPriceTick : Figure := default
  deriving DecidableEq
-- leg_count is the length of legs.
structure CandidateBundleOf (Text Figure Id : Type) [Inhabited Text] [Inhabited Figure] [Inhabited Id] where
  bundleId : Id := default
  requiredTrueMask : UInt64 := 0
  requiredFalseMask : UInt64 := 0
  invalidMask : UInt64 := 0
  guaranteedPayoutTick : Figure := default
  legs : List (BundleLegOf Text Figure) := []
  minEdgeTick : Figure := default
  deriving DecidableEq
abbrev BundleLeg := BundleLegOf String Int
abbrev CandidateBundle := CandidateBundleOf String Int Nat
structure CandidateBundleLoadResult where
  bundles : List CandidateBundle := []
  warnings : List String := []
  errors : List String := []
  bundleHash : UInt64 := 0
  deriving DecidableEq

def sideCode : Side → UInt64
  | .buy => 0
  | .sell => 1
open Fnv in
def hashLeg (h : UInt64) (leg : BundleLeg) : UInt64 :=
  mixI64 (mixI64 (mixByte (mixClosedString (mixClosedString h leg.marketId) leg.assetId) (sideCode leg.side))
    leg.quantityLots) leg.maxPriceTick
open Fnv in
def hashCandidateBundle (b : CandidateBundle) : UInt64 :=
  let masks := [b.requiredTrueMask,b.requiredFalseMask,b.invalidMask].foldl mixU64 (mixNat offset b.bundleId)
  let count := UInt64.ofNat b.legs.length
  let counted := [(0 : UInt64),8].foldl (fun h shift => mixByte h ((count >>> shift) &&& 0xff))
    (mixI64 masks b.guaranteedPayoutTick)
  mixI64 ((b.legs.take kMaxBundleLegs).foldl hashLeg counted) b.minEdgeTick
def hashCandidateBundles (bundles : List CandidateBundle) : UInt64 :=
  bundles.foldl (fun h b => Fnv.mixU64 h (hashCandidateBundle b)) Fnv.offset

/-! BundleValidator. -/

def masksConflict (b : CandidateBundle) : Bool :=
  b.requiredTrueMask &&& b.requiredFalseMask != 0 || b.requiredTrueMask &&& b.invalidMask != 0 ||
    b.requiredFalseMask &&& b.invalidMask != 0
def bundleError (b : CandidateBundle) (message : String) : String :=
  "bundle " ++ toString b.bundleId ++ ": " ++ message
def legErrors (knownMarketIds knownAssetIds : List String) (leg : BundleLeg) (i : Nat) : List String :=
  (if leg.marketId = "" ∨ leg.marketId ∉ knownMarketIds then
      ["unknown market_id in leg " ++ toString i]
    else []) ++
  (if leg.assetId = "" ∨ leg.assetId ∉ knownAssetIds then ["unknown asset_id in leg " ++ toString i] else []) ++
  (if leg.quantityLots ≤ 0 then ["non-positive quantity_lots in leg " ++ toString i] else []) ++
  (if leg.maxPriceTick < 0 then ["negative max_price_tick in leg " ++ toString i] else [])
def bundleErrors (knownMarketIds knownAssetIds : List String) (seen : List Nat)
    (b : CandidateBundle) : List String :=
  ((if b.bundleId ∈ seen then ["duplicate bundle_id"] else []) ++
    (if b.legs.length = 0 then ["leg_count is zero"] else []) ++
    (if kMaxBundleLegs < b.legs.length then ["leg_count exceeds 16"] else []) ++
    (if masksConflict b then ["required masks conflict"] else []) ++
    ((b.legs.take kMaxBundleLegs).mapIdx fun i leg => legErrors knownMarketIds knownAssetIds leg i).flatten).map
    (bundleError b)
def validate (knownMarketIds knownAssetIds : List String) : List Nat → List CandidateBundle → List String
  | _,[] => []
  | seen,b::rest =>
    bundleErrors knownMarketIds knownAssetIds seen b ++ validate knownMarketIds knownAssetIds
      (b.bundleId::seen) rest

/-! CombinatorialBundleGenerator. -/

structure VariableBinding where
  variableId : String
  marketId : String
  outcomeId : String
  assetId : String
  deriving DecidableEq
def marketBindings (m : RawMarketRecord) : List VariableBinding :=
  (m.outcomes.zip m.assetIds).map fun x => ⟨variableKey m.marketId x.1,m.marketId,x.1,x.2⟩
def bindings (markets : List RawMarketRecord) : List VariableBinding := markets.flatMap marketBindings

structure BindingIndex where
  byVariable : String → Option VariableBinding
  byMarketOutcomeLower : String → Option (String → Option VariableBinding)
  knownMarketIds : List String
  knownAssetIds : List String
def buildIndex (markets : List RawMarketRecord) : BindingIndex where
  byVariable key := (bindings markets).find? fun b => decide (b.variableId = key)
  byMarketOutcomeLower market :=
    if (bindings markets).any fun b => decide (b.marketId = market) then
      some fun outcome =>
        (bindings markets).find? fun b => decide (b.marketId = market) && decide (lowerCopy b.outcomeId = outcome)
    else none
  knownMarketIds := (markets.map (·.marketId)).filter (· ≠ "")
  knownAssetIds := (bindings markets).map (·.assetId)

def isYesNoOutcome (outcome : String) : Bool := lowerCopy outcome = "yes" || lowerCopy outcome = "no"
def oppositeOutcome (outcome : String) : String :=
  if lowerCopy outcome = "yes" then "no" else if lowerCopy outcome = "no" then "yes" else ""
def distinctMarketCount (bs : List VariableBinding) : Nat := (bs.map (·.marketId)).dedup.length

def makeLeg (b : VariableBinding) : BundleLeg :=
  {marketId := b.marketId, assetId := b.assetId, side := .buy, quantityLots := 1, maxPriceTick := payoutOneTick}
def makeBundle (bundleId : Nat) (bs : List VariableBinding) (guaranteedPayoutTick : Int) : CandidateBundle :=
  {bundleId, guaranteedPayoutTick, legs := bs.map makeLeg}

def ruleMessage (rule : ValidatedRule) (message : String) : String := "rule " ++ rule.ruleId ++ ": " ++ message
def complementBinding (rule : ValidatedRule) (index : BindingIndex) (b : VariableBinding) :
    Except String VariableBinding :=
  if isYesNoOutcome b.outcomeId = false then
    .error (ruleMessage rule ("skipped complement basket for non-binary outcome " ++ b.variableId))
  else
    match index.byMarketOutcomeLower b.marketId with
    | none => .error (ruleMessage rule ("skipped complement basket because market is missing " ++ b.marketId))
    | some outcomes =>
      match outcomes (oppositeOutcome b.outcomeId) with
      | none =>
        .error (ruleMessage rule
          ("skipped complement basket because opposite outcome is missing for " ++ b.variableId))
      | some c => .ok c
def complementBindings (rule : ValidatedRule) (index : BindingIndex) (bs : List VariableBinding) :
    Except String (List VariableBinding) := bs.mapM (complementBinding rule index)

def warn (r : CandidateBundleLoadResult) (warning : String) : CandidateBundleLoadResult :=
  {r with warnings := r.warnings ++ [warning]}
-- next_bundle_id counts the bundles pushed so far, from one.
def push (r : CandidateBundleLoadResult) (bs : List VariableBinding) (guaranteedPayoutTick : Int) :
    CandidateBundleLoadResult :=
  {r with bundles := r.bundles ++ [makeBundle (r.bundles.length + 1) bs guaranteedPayoutTick]}
def appendComplement (rule : ValidatedRule) (bs : List VariableBinding) (index : BindingIndex)
    (r : CandidateBundleLoadResult) :
    CandidateBundleLoadResult :=
  match complementBindings rule index bs with
  | .error warning => warn r warning
  | .ok complements =>
    if complements = [] then r else push r complements ((complements.length - 1 : Nat) * payoutOneTick)
def skipped (rule : ValidatedRule) (bs : List VariableBinding) : Option String :=
  if kMaxBundleLegs < bs.length then
    some (ruleMessage rule ("skipped because leg_count exceeds " ++ toString kMaxBundleLegs))
  else if distinctMarketCount bs ≤ 1 then some (ruleMessage rule "skipped trivial single-market rule")
  else none
def appendExactlyOneBundles (rule : ValidatedRule) (bs : List VariableBinding) (index : BindingIndex)
    (r : CandidateBundleLoadResult) : CandidateBundleLoadResult :=
  match skipped rule bs with
  | some warning => warn r warning
  | none => appendComplement rule bs index (push r bs payoutOneTick)
def appendAtMostOneBundles (rule : ValidatedRule) (bs : List VariableBinding) (index : BindingIndex)
    (r : CandidateBundleLoadResult) : CandidateBundleLoadResult :=
  match skipped rule bs with
  | some warning => warn r warning
  | none => appendComplement rule bs index r

def resolveVariables (rule : ValidatedRule) (index : BindingIndex) : List VariableBinding :=
  rule.variableIds.filterMap index.byVariable
def unresolved (rule : ValidatedRule) (index : BindingIndex) : List String :=
  (rule.variableIds.filter fun key => (index.byVariable key).isNone).map fun key =>
    ruleMessage rule ("unknown variable_id " ++ key)
def generateRule (index : BindingIndex) (r : CandidateBundleLoadResult) (rule : ValidatedRule) :
    CandidateBundleLoadResult :=
  if rule.approved = false then
    {r with errors := r.errors ++ [ruleMessage rule "unapproved rule cannot generate bundles"]}
  else
    let bs := resolveVariables rule index
    let r := {r with errors := r.errors ++ unresolved rule index}
    if bs.length ≠ rule.variableIds.length then r
    else if bs.length < 2 then warn r (ruleMessage rule "skipped because it has fewer than 2 variables")
    else
      match rule.type with
      | .exactlyOne => appendExactlyOneBundles rule bs index r
      | .atMostOne => appendAtMostOneBundles rule bs index r
      | _ => warn r (ruleMessage rule "skipped unsupported rule type for combinatorial bundles")
def generateFromRulebook (markets : List RawMarketRecord) (rules : List ValidatedRule) :
    CandidateBundleLoadResult :=
  let index := buildIndex markets
  let r := rules.foldl (generateRule index) {}
  if r.errors ≠ [] then r
  else
    let validation := validate index.knownMarketIds index.knownAssetIds [] r.bundles
    if validation ≠ [] then {r with errors := validation}
    else {r with bundleHash := hashCandidateBundles r.bundles}

/-! What the generator emits. -/

def complementOf (index : BindingIndex) (b : VariableBinding) : Option VariableBinding :=
  if isYesNoOutcome b.outcomeId then
    (index.byMarketOutcomeLower b.marketId).bind fun outcomes => outcomes (oppositeOutcome b.outcomeId)
  else none
theorem complementBindingOk {rule index b c} : complementBinding rule index b = .ok c ↔
    complementOf index b = some c := by
  unfold complementBinding complementOf
  cases isYesNoOutcome b.outcomeId with
  | false => simp
  | true =>
    cases index.byMarketOutcomeLower b.marketId with
    | none => simp
    | some outcomes => cases found : outcomes (oppositeOutcome b.outcomeId) <;> simp [found]
theorem complementBindingsOk {rule index bs cs} :
    complementBindings rule index bs = .ok cs ↔ bs.map (complementOf index) = cs.map some := by
  unfold complementBindings
  induction bs generalizing cs with
  | nil =>
    rw [List.mapM_nil,List.map_nil,eq_comm (b := cs.map some),List.map_eq_nil_iff]
    constructor
    · intro h
      cases h
      rfl
    · rintro rfl
      rfl
  | cons b rest ih =>
    rw [List.mapM_cons,Machine.bindOk]
    constructor
    · rintro ⟨c,first,h⟩
      obtain ⟨tail,later,h⟩ := Machine.bindOk.mp h
      cases h
      rw [List.map_cons,List.map_cons,complementBindingOk.mp first,ih.mp later]
    · intro same
      cases cs with
      | nil => cases same
      | cons c tail =>
        rw [List.map_cons,List.map_cons,List.cons.injEq] at same
        exact ⟨c,complementBindingOk.mpr same.1,Machine.bindOk.mpr ⟨tail,ih.mpr same.2,rfl⟩⟩

theorem complementSource {markets b c} (h : complementOf (buildIndex markets) b = some c) :
    c ∈ bindings markets ∧ c.marketId = b.marketId ∧ lowerCopy c.outcomeId = oppositeOutcome b.outcomeId ∧
      isYesNoOutcome b.outcomeId = true := by
  unfold complementOf at h
  split at h
  · next labelled =>
    simp only [buildIndex] at h
    split at h
    · have hit := List.find?_some h
      simp only [Bool.and_eq_true,decide_eq_true_eq] at hit
      exact ⟨List.mem_of_find?_eq_some h,hit.1,hit.2,labelled⟩
    · cases h
  · cases h

inductive Emitted (index : BindingIndex) (rule : ValidatedRule) : CandidateBundle → Prop where
  | basket {id bs} (type : rule.type = .exactlyOne) (resolved : bs = resolveVariables rule index)
      (all : bs.length = rule.variableIds.length) : Emitted index rule (makeBundle id bs payoutOneTick)
  | complement {id bs cs} (type : rule.type = .exactlyOne ∨ rule.type = .atMostOne)
      (resolved : bs = resolveVariables rule index) (all : bs.length = rule.variableIds.length)
      (markets : 1 < distinctMarketCount bs) (opposite : bs.map (complementOf index) = cs.map some)
      (filled : cs ≠ []) : Emitted index rule (makeBundle id cs ((cs.length - 1 : Nat) * payoutOneTick))

theorem appendComplementEmits {rule bs index r} (type : rule.type = .exactlyOne ∨ rule.type = .atMostOne)
    (resolved : bs = resolveVariables rule index) (all : bs.length = rule.variableIds.length)
    (kept : skipped rule bs = none) :
    ∀ b ∈ (appendComplement rule bs index r).bundles, b ∈ r.bundles ∨ Emitted index rule b := by
  have spread : 1 < distinctMarketCount bs := by
    unfold skipped at kept
    split at kept
    · cases kept
    · split at kept
      · cases kept
      · omega
  intro b mem
  unfold appendComplement at mem
  split at mem
  · exact .inl mem
  · next cs opposite =>
    split at mem
    · exact .inl mem
    · next filled =>
      rcases List.mem_append.mp mem with old | new
      · exact .inl old
      · rw [List.mem_singleton.mp new]
        exact .inr (.complement type resolved all spread (complementBindingsOk.mp opposite) filled)

theorem generateRuleEmits (index r rule) :
    ∀ b ∈ (generateRule index r rule).bundles, b ∈ r.bundles ∨ Emitted index rule b := by
  intro b mem
  unfold generateRule at mem
  split at mem
  · exact .inl mem
  · simp only at mem
    split at mem
    · exact .inl mem
    · next all =>
      rw [not_not] at all
      split at mem
      · exact .inl mem
      · split at mem
        · next type =>
          unfold appendExactlyOneBundles at mem
          split at mem
          · exact .inl mem
          · next kept =>
            rcases appendComplementEmits (.inl type) rfl all kept b mem with old | new
            · rcases List.mem_append.mp old with old | new
              · exact .inl old
              · rw [List.mem_singleton.mp new]
                exact .inr (.basket type rfl all)
            · exact .inr new
        · next type =>
          unfold appendAtMostOneBundles at mem
          split at mem
          · exact .inl mem
          · next kept =>
            rcases appendComplementEmits (.inr type) rfl all kept b mem with old | new
            · exact .inl old
            · exact .inr new
        · exact .inl mem

theorem generateEmits {index} {rules : List ValidatedRule} {r : CandidateBundleLoadResult} :
    ∀ b ∈ (rules.foldl (generateRule index) r).bundles, b ∈ r.bundles ∨ ∃ rule ∈ rules, Emitted index rule b := by
  induction rules generalizing r with
  | nil => exact fun b mem => .inl mem
  | cons rule rest ih =>
    intro b mem
    rcases ih b mem with old | ⟨later,there,emitted⟩
    · rcases generateRuleEmits index r rule b old with old | new
      · exact .inl old
      · exact .inr ⟨rule,List.mem_cons_self,new⟩
    · exact .inr ⟨later,List.mem_cons_of_mem _ there,emitted⟩

theorem generateOk {markets rules} (ok : (generateFromRulebook markets rules).errors = []) :
    (generateFromRulebook markets rules).bundles = (rules.foldl (generateRule (buildIndex markets)) {}).bundles ∧
      validate (buildIndex markets).knownMarketIds (buildIndex markets).knownAssetIds []
        (generateFromRulebook markets rules).bundles = [] := by
  unfold generateFromRulebook at ok ⊢
  simp only at ok ⊢
  split at ok
  · next bad => exact absurd ok bad
  · next good =>
    split at ok
    · next bad => exact absurd ok bad
    · next valid =>
      rw [if_neg good,if_neg valid]
      exact ⟨rfl,not_not.mp valid⟩

theorem validateLegs {knownMarketIds knownAssetIds seen bundles}
    (ok : validate knownMarketIds knownAssetIds seen bundles = []) :
    ∀ b ∈ bundles, ∀ leg ∈ b.legs, leg.assetId ≠ "" := by
  induction bundles generalizing seen with
  | nil => simp
  | cons b rest ih =>
    rw [validate,List.append_eq_nil_iff] at ok
    intro x mem
    rcases List.mem_cons.mp mem with rfl | later
    · have here := ok.1
      simp only [bundleErrors,List.map_eq_nil_iff,List.append_eq_nil_iff] at here
      obtain ⟨⟨⟨_,short⟩,_⟩,legs⟩ := here
      have few : x.legs.length ≤ kMaxBundleLegs := by
        by_contra many
        simp [Nat.lt_of_not_le many] at short
      rw [List.take_of_length_le few,List.flatten_eq_nil_iff] at legs
      intro leg there
      obtain ⟨i,at_⟩ := List.mem_iff_getElem?.mp there
      have none := legs (legErrors knownMarketIds knownAssetIds leg i) (by
        rw [List.mem_iff_getElem?]
        exact ⟨i,by simp [at_]⟩)
      intro empty
      simp [legErrors,empty] at none
    · exact ih ok.2 x later

end Polytope.CombinatorialBundles
