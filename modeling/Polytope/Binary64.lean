import Mathlib.Data.Rat.Floor

/-! IEEE binary64 by bit pattern, with exact rational values. Only what a caller that
compares, floors or rounds once needs: classification, the value of a finite word and
round-to-nearest-even of an exact rational. Runtime Float is not involved. -/
namespace Polytope.Binary64

structure Double where
  bits : UInt64
  deriving DecidableEq, Repr

def exponentField (x : Double) : Nat := x.bits.toNat / 2^52 % 2^11
def fractionField (x : Double) : Nat := x.bits.toNat % 2^52
def negative (x : Double) : Bool := 2^63 ≤ x.bits.toNat
def isFinite (x : Double) : Bool := exponentField x ≠ 2047

def pow2 (e : Int) : Rat := if 0 ≤ e then mkRat (2 ^ e.toNat) 1 else mkRat 1 (2 ^ (-e).toNat)
def magnitude (x : Double) : Rat :=
  if exponentField x = 0 then mkRat (fractionField x) (2^1074)
  else mkRat (2^52 + fractionField x) 1 * pow2 (exponentField x - 1075)
def value (x : Double) : Rat := if negative x then -magnitude x else magnitude x

def binaryExponent (n d : Nat) : Int :=
  let guess : Int := (Nat.log2 n : Int) - Nat.log2 d
  if pow2 guess ≤ mkRat n d then guess else guess - 1
def roundHalfEven (q : Rat) : Int :=
  let below := q.floor
  let rest := q - below
  if rest < mkRat 1 2 then below
  else if mkRat 1 2 < rest then below + 1
  else if below % 2 = 0 then below else below + 1
-- Overflow to infinity is not represented: results beyond the format stay exact
-- multiples of their ulp, which compare the same way against any finite bound.
def roundNearest (q : Rat) : Rat :=
  if q = 0 then 0 else
    let ulp := max (binaryExponent q.num.natAbs q.den - 52) (-1074)
    roundHalfEven (q * pow2 (-ulp)) * pow2 ulp

end Polytope.Binary64
