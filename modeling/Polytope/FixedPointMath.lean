import Mathlib.Data.Int.Order.Basic
import Mathlib.Order.Lattice
import Mathlib.Tactic.Linarith

/-! Signed 64-bit arithmetic as FixedPointMath.h computes it: every sum, difference
and product is formed in 128 bits first, so the exact integer is compared with the
range and either returned, refused or clamped. Division truncates toward zero. -/
namespace Polytope.FixedPointMath

def i64Max : Int := 9223372036854775807
def i64Min : Int := -9223372036854775808
def InI64 (v : Int) : Prop := i64Min ≤ v ∧ v ≤ i64Max
instance (v) : Decidable (InI64 v) := by unfold InI64; infer_instance

def narrow (v : Int) : Option Int := if InI64 v then some v else none
def checkedAddI64 (lhs rhs : Int) : Option Int := narrow (lhs + rhs)
def checkedSubI64 (lhs rhs : Int) : Option Int := narrow (lhs - rhs)
def checkedMulI64 (lhs rhs : Int) : Option Int := narrow (lhs * rhs)

def saturatingAddI64 (lhs rhs : Int) : Int :=
  match checkedAddI64 lhs rhs with
  | some out => out
  | none => if 0 ≤ rhs then i64Max else i64Min

def saturatingMulI64 (lhs rhs : Int) : Int :=
  match checkedMulI64 lhs rhs with
  | some out => out
  | none => if (0 ≤ lhs ∧ 0 ≤ rhs) ∨ (lhs < 0 ∧ rhs < 0) then i64Max else i64Min

def ceilDivPositive (numerator denominator : Int) : Int :=
  if denominator ≤ 0 then 0 else
    min ((numerator + denominator - 1).tdiv denominator) i64Max

def clampI64 (v : Int) : Int := max i64Min (min v i64Max)
def ratioBps (numerator denominator : Int) : Int :=
  if denominator = 0 then
    if 0 < numerator then i64Max else if numerator < 0 then i64Min else 0
  else clampI64 ((numerator * 10000).tdiv denominator)

-- static_cast<std::int64_t> of an unsigned 64-bit value: the upper half is negative.
def castI64 (n : Nat) : Int :=
  let word : Nat := n % 2^64
  if word < 2^63 then (word : Int) else (word : Int) - 2^64

-- A 64-bit result of signed arithmetic. The source leaves overflow undefined; here it wraps around.
def wrapI64 (v : Int) : Int := (v + 9223372036854775808) % 18446744073709551616 - 9223372036854775808
def addI64 (lhs rhs : Int) : Int := wrapI64 (lhs + rhs)
def subI64 (lhs rhs : Int) : Int := wrapI64 (lhs - rhs)
def absI64 (v : Int) : Int := wrapI64 |v|

theorem wrapExact {v} (fits : InI64 v) : wrapI64 v = v := by
  unfold InI64 i64Min i64Max at fits
  unfold wrapI64
  omega
theorem wrapRange (v : Int) : InI64 (wrapI64 v) := by
  unfold InI64 wrapI64 i64Min i64Max
  omega
theorem wrapAdd (a b : Int) : wrapI64 (wrapI64 a + b) = wrapI64 (a + b) := by
  unfold wrapI64
  omega
theorem wrapLe {v} (above : i64Min ≤ v) : wrapI64 v ≤ v := by
  unfold i64Min at above
  unfold wrapI64
  omega

@[simp] theorem narrowExact {v out} : narrow v = some out ↔ InI64 v ∧ out = v := by
  unfold narrow
  split
  · next fits => simp [fits,eq_comm]
  · next overflow => simp [overflow]
theorem checkedAddExact {a b out} : checkedAddI64 a b = some out ↔ InI64 (a + b) ∧ out = a + b := narrowExact
theorem checkedSubExact {a b out} : checkedSubI64 a b = some out ↔ InI64 (a - b) ∧ out = a - b := narrowExact
theorem checkedMulExact {a b out} : checkedMulI64 a b = some out ↔ InI64 (a * b) ∧ out = a * b := narrowExact

theorem checkedZeroAdd {a} (fits : InI64 a) : checkedAddI64 0 a = some a :=
  checkedAddExact.mpr ⟨by rw [Int.zero_add]; exact fits,(Int.zero_add a).symm⟩
theorem checkedAddZero {a} (fits : InI64 a) : checkedAddI64 a 0 = some a :=
  checkedAddExact.mpr ⟨by rw [Int.add_zero]; exact fits,(Int.add_zero a).symm⟩
theorem checkedSubZero {a} (fits : InI64 a) : checkedSubI64 a 0 = some a :=
  checkedSubExact.mpr ⟨by rw [Int.sub_zero]; exact fits,(Int.sub_zero a).symm⟩

end Polytope.FixedPointMath
