import Polytope.OracleTypes
import Mathlib.Data.Nat.Bitwise

/-! States as bitsets, the feasibility check of one state and the enumeration of all states of
at most 32 variables. -/
namespace Polytope.StateEnumeration
open OracleTypes

structure StateBitset where
  words : List UInt64
  deriving DecidableEq
def StateBitset.test (s : StateBitset) (varId : Nat) : Bool :=
  match s.words[varId / 64]? with
  | some word => ((word >>> UInt64.ofNat (varId % 64)) &&& 1) != 0
  | none => false
def stateBitsetFromMask (mask : UInt64) : StateBitset := ⟨[mask]⟩

theorem wordTest (word : UInt64) {i : Nat} (small : i < 64) :
    (((word >>> UInt64.ofNat i) &&& 1) != 0) = word.toNat.testBit i := by
  have bit : ((word >>> UInt64.ofNat i) &&& 1).toNat = 1 &&& (word.toNat >>> i) := by
    rw [UInt64.toNat_and,UInt64.toNat_shiftRight,UInt64.toNat_ofNat',Nat.mod_eq_of_lt (by omega : i < 2^64),
      Nat.mod_eq_of_lt small,Nat.and_comm]
    rfl
  rw [Nat.testBit,← bit,Bool.eq_iff_iff,bne_iff_ne,bne_iff_ne,Ne,Ne,← UInt64.toNat_inj]
  rfl
theorem maskTest {mask : Nat} (small : mask < 2^64) (v) :
    (stateBitsetFromMask (UInt64.ofNat mask)).test v = mask.testBit v := by
  unfold StateBitset.test stateBitsetFromMask
  by_cases first : v < 64
  · have word : v / 64 = 0 := by omega
    have bit : v % 64 = v := by omega
    rw [word,bit]
    simp only [List.getElem?_cons_zero]
    rw [wordTest _ first,UInt64.toNat_ofNat',Nat.mod_eq_of_lt small]
  · obtain ⟨k,word⟩ : ∃ k, v / 64 = k + 1 := ⟨v / 64 - 1,by omega⟩
    rw [word]
    simp only [List.getElem?_cons_succ,List.getElem?_nil]
    exact (Nat.testBit_lt_two_pow (small.trans_le (Nat.pow_le_pow_right (by omega) (by omega)))).symm

def assignment (f : Nat → Bool) (bound : Nat) : StateBitset :=
  ⟨(List.range bound).map fun k => UInt64.ofNat (Nat.ofBits (n := 64) fun i => f (64 * k + i))⟩
theorem assignmentTest (f : Nat → Bool) {bound v} (inside : v < bound) : (assignment f bound).test v = f v := by
  have word : v / 64 < bound := by omega
  have low : v % 64 < 64 := Nat.mod_lt _ (by omega)
  have here : (assignment f bound).words[v / 64]? =
      some (UInt64.ofNat (Nat.ofBits (n := 64) fun i => f (64 * (v / 64) + i))) := by
    simp [assignment,word]
  unfold StateBitset.test
  rw [here]
  simp only
  rw [wordTest _ low,UInt64.toNat_ofNat',Nat.mod_eq_of_lt (Nat.ofBits_lt_two_pow _),Nat.testBit_ofBits_lt _ _ low]
  simp only
  rw [Nat.div_add_mod]

/-! FeasibilityChecker and StateEnumerator. -/

inductive OracleErrorCode where
  | none | invalidInput | tooManyVariables
  deriving DecidableEq
structure FeasibilityCheckResult where
  code : OracleErrorCode := .none
  feasible : Bool := false
  errors : List String := []
  deriving DecidableEq
def FeasibilityCheckResult.ok (r : FeasibilityCheckResult) : Bool :=
  decide (r.code = .none) && decide (r.errors = [])

def checkFrom (x : Nat → Bool) : Nat → List LinearBooleanConstraint → FeasibilityCheckResult
  | _,[] => {feasible := true}
  | i,c::rest =>
    if c.varIds.length ≠ c.coeffs.length then
      {code := .invalidInput, errors := ["constraint " ++ toString i ++ " has mismatched var_ids and coeffs"]}
    else if satisfies x c then checkFrom x (i+1) rest
    else {}
def check (set : CompiledConstraintSet) (state : StateBitset) : FeasibilityCheckResult :=
  checkFrom state.test 0 set.constraints

structure FeasibleState where
  stateId : Nat
  bitsetWords : List UInt64
  deriving DecidableEq
structure StateEnumerationResult where
  code : OracleErrorCode := .none
  feasibleStates : List FeasibleState := []
  errors : List String := []
  deriving DecidableEq
def kMaxBruteforceVariables : Nat := 32
-- A result with errors has been returned: later masks are not looked at.
def enumerateMask (set : CompiledConstraintSet) (r : StateEnumerationResult) (mask : Nat) :
    StateEnumerationResult :=
  if r.errors ≠ [] then r
  else
    let state := stateBitsetFromMask (UInt64.ofNat mask)
    let checked := check set state
    if checked.ok = false then {r with code := checked.code, errors := r.errors ++ checked.errors}
    else if checked.feasible then {r with feasibleStates := r.feasibleStates ++ [⟨mask,state.words⟩]}
    else r
def enumerate (set : CompiledConstraintSet) : StateEnumerationResult :=
  if kMaxBruteforceVariables < set.vars.length then
    {code := .tooManyVariables, errors := ["state enumeration supports <= 32 variables"]}
  else (List.range (2 ^ set.vars.length)).foldl (enumerateMask set) {}

theorem checkSized {x : Nat → Bool} {i} {cs : List LinearBooleanConstraint}
    (sized : ∀ c ∈ cs, c.varIds.length = c.coeffs.length) :
    checkFrom x i cs = {feasible := cs.all (satisfies x)} := by
  induction cs generalizing i with
  | nil => rfl
  | cons c rest ih =>
    rw [checkFrom,if_neg (not_not.mpr (sized c List.mem_cons_self)),ih fun d mem =>
      sized d (List.mem_cons_of_mem _ mem),
      List.all_cons]
    cases satisfies x c <;> rfl
theorem enumerateWhole {set : CompiledConstraintSet}
    (sized : ∀ c ∈ set.constraints, c.varIds.length = c.coeffs.length)
    (small : set.vars.length ≤ kMaxBruteforceVariables) :
    enumerate set = {feasibleStates := ((List.range (2 ^ set.vars.length)).filter fun mask =>
      set.constraints.all (satisfies (stateBitsetFromMask (UInt64.ofNat mask)).test)).map fun mask =>
        ⟨mask,[UInt64.ofNat mask]⟩} := by
  have all : ∀ (masks : List Nat) (states : List FeasibleState),
    masks.foldl (enumerateMask set) {feasibleStates := states} =
      {feasibleStates := states ++ (masks.filter fun mask =>
        set.constraints.all (satisfies (stateBitsetFromMask (UInt64.ofNat mask)).test)).map fun mask =>
          ⟨mask,[UInt64.ofNat mask]⟩} := by
    intro masks
    induction masks with
    | nil => simp
    | cons mask rest ih =>
      intro states
      have step : enumerateMask set {feasibleStates := states} mask =
          {feasibleStates := states ++
            if set.constraints.all (satisfies (stateBitsetFromMask (UInt64.ofNat mask)).test) then
              [⟨mask,[UInt64.ofNat mask]⟩]
            else []} := by
        simp only [enumerateMask,check,checkSized sized,FeasibilityCheckResult.ok]
        cases set.constraints.all (satisfies (stateBitsetFromMask (UInt64.ofNat mask)).test) <;>
          simp [stateBitsetFromMask]
      rw [List.foldl_cons,step,ih,List.filter_cons]
      split <;> simp
  rw [enumerate,if_neg (by omega),all]
  rfl
theorem enumerateStates {set : CompiledConstraintSet}
    (sized : ∀ c ∈ set.constraints, c.varIds.length = c.coeffs.length)
    (small : set.vars.length ≤ kMaxBruteforceVariables) :
    (enumerate set).feasibleStates = ((List.range (2 ^ set.vars.length)).filter fun mask =>
      set.constraints.all (satisfies (stateBitsetFromMask (UInt64.ofNat mask)).test)).map fun mask =>
        ⟨mask,[UInt64.ofNat mask]⟩ :=
  congrArg (·.feasibleStates) (enumerateWhole sized small)

end Polytope.StateEnumeration
