import Polytope.Binary64
import Mathlib.Algebra.Order.Floor.Ring
import Mathlib.Algebra.Order.Field.Power
import Mathlib.Tactic.FieldSimp
import Mathlib.Tactic.Linarith
import Mathlib.Tactic.Ring

/-! Numbers read from text and written to it as the C library does it in the C locale: strtod and its range
errors, strtoull, the six decimals of a double, and the double nearest to an exact number. A NaN's payload is
not kept. -/
namespace Polytope.NumberText
open Binary64

/-! The nearest double. -/

def infinityBits : Nat := 2047 * 2^52
def quietNanBits : Nat := 2047 * 2^52 + 2^51
def signed (minus : Bool) (bits : Nat) : Double := ⟨UInt64.ofNat (if minus = true then bits + 2^63 else bits)⟩
def lastPlace (q : Rat) : Int := max (binaryExponent q.num.natAbs q.den - 52) (-1074)
def significand (q : Rat) : Int := roundHalfEven (q * pow2 (-lastPlace q))
-- The top bit of the significand, and a carry out of it, add into the exponent field.
def packed (q : Rat) : Nat := (lastPlace q + 1074).toNat * 2^52 + (significand q).toNat
def nearestBits (q : Rat) : Nat := if q = 0 then 0 else min (packed q) infinityBits
def nearest (minus : Bool) (q : Rat) : Double := signed minus (nearestBits q)

theorem pow2Zpow (e : Int) : pow2 e = (2 : Rat) ^ e := by
  unfold pow2
  split
  · next up =>
    obtain ⟨n,rfl⟩ := Int.eq_ofNat_of_zero_le up
    rw [Rat.mkRat_eq_div,zpow_natCast]
    simp
  · next down =>
    obtain ⟨n,hn⟩ : ∃ n : Nat, e = -(n : Int) := ⟨(-e).toNat,by omega⟩
    subst hn
    rw [Rat.mkRat_eq_div,zpow_neg,zpow_natCast]
    simp
theorem binade {n d : Nat} (numerator : 0 < n) (denominator : 0 < d) :
    pow2 (binaryExponent n d) ≤ mkRat n d ∧ mkRat n d < pow2 (binaryExponent n d + 1) := by
  have lowN : ((2 : Rat) ^ (Nat.log2 n : Int)) ≤ n := by
    rw [zpow_natCast]
    exact_mod_cast Nat.log2_self_le numerator.ne'
  have highN : (n : Rat) < 2 ^ ((Nat.log2 n : Int) + 1) := by
    have h : n < 2 ^ (Nat.log2 n + 1) := Nat.lt_log2_self
    exact_mod_cast h
  have lowD : ((2 : Rat) ^ (Nat.log2 d : Int)) ≤ d := by
    rw [zpow_natCast]
    exact_mod_cast Nat.log2_self_le denominator.ne'
  have highD : (d : Rat) < 2 ^ ((Nat.log2 d : Int) + 1) := by
    have h : d < 2 ^ (Nat.log2 d + 1) := Nat.lt_log2_self
    exact_mod_cast h
  have dPos : (0 : Rat) < d := by exact_mod_cast denominator
  have two : (2 : Rat) ≠ 0 := by norm_num
  have ratio : mkRat n d = (n : Rat) / d := by rw [Rat.mkRat_eq_div]; simp
  -- The quotient is below twice, and above half, the power its numerator and denominator suggest.
  have below : (n : Rat) / d < 2 ^ ((Nat.log2 n : Int) - Nat.log2 d + 1) := by
    rw [div_lt_iff₀ dPos]
    calc (n : Rat) < 2 ^ ((Nat.log2 n : Int) + 1) := highN
      _ = 2 ^ ((Nat.log2 n : Int) - Nat.log2 d + 1) * 2 ^ (Nat.log2 d : Int) := by
        rw [← zpow_add₀ two]
        congr 1
        ring
      _ ≤ 2 ^ ((Nat.log2 n : Int) - Nat.log2 d + 1) * d := by gcongr
  have above : 2 ^ ((Nat.log2 n : Int) - Nat.log2 d - 1) ≤ (n : Rat) / d := by
    rw [le_div_iff₀ dPos]
    calc 2 ^ ((Nat.log2 n : Int) - Nat.log2 d - 1) * (d : Rat)
        ≤ 2 ^ ((Nat.log2 n : Int) - Nat.log2 d - 1) * 2 ^ ((Nat.log2 d : Int) + 1) := by gcongr
      _ = 2 ^ (Nat.log2 n : Int) := by rw [← zpow_add₀ two]; congr 1; ring
      _ ≤ n := lowN
  simp only [binaryExponent,pow2Zpow,ratio]
  split
  · next fits => exact ⟨fits,below⟩
  · next short => exact ⟨above,by simpa using not_le.mp short⟩
theorem roundsWithin {q : Rat} {low high : Int} (above : (low : Rat) ≤ q) (below : q ≤ high) :
    low ≤ roundHalfEven q ∧ roundHalfEven q ≤ high := by
  have floorAbove : low ≤ q.floor := Rat.le_floor_iff.mpr above
  have floorBelow : (q.floor : Rat) ≤ q := Rat.floor_le q
  have floorHigh : q.floor ≤ high := by exact_mod_cast floorBelow.trans below
  have carry : q.floor ≠ q → q.floor + 1 ≤ high := by
    intro apart
    have strict : (q.floor : Rat) < high := (lt_of_le_of_ne floorBelow apart).trans_le below
    exact_mod_cast strict
  have half : ¬ q - q.floor < mkRat 1 2 → (q.floor : Rat) ≠ q := by
    intro big same
    exact big (by rw [same,sub_self]; decide)
  unfold roundHalfEven
  dsimp only
  split
  · exact ⟨floorAbove,floorHigh⟩
  · next big =>
    have room := carry (half big)
    split
    · omega
    · split <;> omega

section
variable {q : Rat}

theorem significandBounds (positive : 0 < q) :
    0 ≤ significand q ∧ significand q ≤ 2^53 ∧ (-1074 < lastPlace q → 2^52 ≤ significand q) := by
  have two : (2 : Rat) ≠ 0 := by norm_num
  have numerator : 0 < q.num.natAbs := Int.natAbs_pos.mpr (Rat.num_ne_zero.mpr positive.ne')
  have itself : mkRat q.num.natAbs q.den = q := by
    rw [Int.natAbs_of_nonneg (Rat.num_nonneg.mpr positive.le)]
    exact Rat.mkRat_self q
  have bounds := binade numerator q.den_pos
  rw [itself,pow2Zpow,pow2Zpow] at bounds
  have place : binaryExponent q.num.natAbs q.den - 52 ≤ lastPlace q := le_max_left _ _
  have scale : (0 : Rat) < 2 ^ (-lastPlace q) := zpow_pos (by norm_num) _
  have below : q * pow2 (-lastPlace q) ≤ ((2^53 : Int) : Rat) := by
    rw [pow2Zpow]
    calc q * 2 ^ (-lastPlace q) ≤ 2 ^ (binaryExponent q.num.natAbs q.den + 1) * 2 ^ (-lastPlace q) := by
          gcongr
          exact bounds.2.le
      _ = 2 ^ (binaryExponent q.num.natAbs q.den + 1 - lastPlace q) := by rw [← zpow_add₀ two]; congr 1
      _ ≤ 2 ^ (53 : Int) := zpow_le_zpow_right₀ (by norm_num) (by omega)
      _ = ((2^53 : Int) : Rat) := by norm_num
  have nonneg : ((0 : Int) : Rat) ≤ q * pow2 (-lastPlace q) := by
    rw [pow2Zpow]
    exact_mod_cast (mul_pos positive scale).le
  have rounded := roundsWithin nonneg below
  refine ⟨rounded.1,rounded.2,fun normal => ?_⟩
  have same : lastPlace q = binaryExponent q.num.natAbs q.den - 52 := by
    rcases max_choice (binaryExponent q.num.natAbs q.den - 52) (-1074) with pick | pick
    · exact pick
    · exact absurd pick normal.ne'
  have above : ((2^52 : Int) : Rat) ≤ q * pow2 (-lastPlace q) := by
    rw [pow2Zpow]
    calc ((2^52 : Int) : Rat) = 2 ^ (binaryExponent q.num.natAbs q.den) * 2 ^ (-lastPlace q) := by
          rw [← zpow_add₀ two,same,show binaryExponent q.num.natAbs
            q.den + -(binaryExponent q.num.natAbs q.den - 52) = (52 : Int) by ring]
          norm_num
      _ ≤ q * 2 ^ (-lastPlace q) := by gcongr; exact bounds.1
  exact (roundsWithin above below).1
end

section
variable {bits : Nat} (finite : bits < infinityBits) (minus : Bool)
include finite

theorem signedBits : (signed minus bits).bits.toNat = bits + (if minus = true then 2^63 else 0) := by
  unfold infinityBits at finite
  unfold signed
  cases minus <;> simp only [Bool.false_eq_true,if_true,if_false,UInt64.toNat_ofNat'] <;> omega
theorem signedNegative : negative (signed minus bits) = minus := by
  rw [negative,signedBits finite]
  unfold infinityBits at finite
  cases minus with
  | false => simp; omega
  | true => simp
theorem signedExponent : exponentField (signed minus bits) = bits / 2^52 := by
  rw [exponentField,signedBits finite]
  unfold infinityBits at finite
  cases minus with
  | false => simp; omega
  | true => simp; omega
theorem signedFraction : fractionField (signed minus bits) = bits % 2^52 := by
  rw [fractionField,signedBits finite]
  cases minus with
  | false => simp
  | true => simp; omega
end

theorem packedMagnitude (place digits : Nat) (small : digits ≤ 2^53) (normal : 0 < place → 2^52 ≤ digits)
    (finite : place * 2^52 + digits < infinityBits) (minus : Bool) :
    magnitude (signed minus (place * 2^52 + digits)) = (digits : Rat) * pow2 ((place : Int) - 1074) := by
  have two : (2 : Rat) ≠ 0 := by norm_num
  rw [magnitude,signedExponent finite,signedFraction finite]
  by_cases denormal : digits < 2^52
  · have least : place = 0 := by omega
    subst least
    rw [Nat.zero_mul,Nat.zero_add,if_pos
      (by omega),pow2Zpow,Nat.mod_eq_of_lt denormal,Rat.mkRat_eq_div,Int.cast_natCast,Nat.cast_pow]
    rw [show ((0 : Nat) : Int) - 1074 = -(1074 : Nat) from rfl,zpow_neg,zpow_natCast,div_eq_mul_inv]
    rfl
  · rw [if_neg (by omega),Rat.mkRat_eq_div]
    by_cases carried : digits = 2^53
    · subst carried
      rw [show (place * 2^52 + 2^53) / 2^52 = place + 2 by omega,show
        (place * 2^52 + 2^53) % 2^52 = 0 by omega,pow2Zpow,pow2Zpow]
      push_cast
      rw [show (place : Int) + 2 - 1075 = (place : Int) - 1074 + 1 by ring,zpow_add_one₀ two]
      ring
    · rw [show (place * 2^52 + digits) / 2^52 = place + 1 by omega]
      rw [show (2 : Int)^52 + ((place * 2^52 + digits) % 2^52 : Nat) = digits by omega]
      push_cast
      rw [show (place : Int) + 1 - 1075 = (place : Int) - 1074 by ring]
      simp
theorem packedValue (place digits : Nat) (small : digits ≤ 2^53) (normal : 0 < place → 2^52 ≤ digits)
    (finite : place * 2^52 + digits < infinityBits) (minus : Bool) :
    value (signed minus (place * 2^52 + digits)) =
      if minus = true then -((digits : Rat) * pow2 ((place : Int) - 1074))
      else (digits : Rat) * pow2 ((place : Int) - 1074) := by
  rw [value,signedNegative finite,packedMagnitude place digits small normal finite]
theorem nearestValue {q : Rat} (nonneg : 0 ≤ q) (finite : nearestBits q < infinityBits) (minus : Bool) :
    value (nearest minus q) = if minus = true then -roundNearest q else roundNearest q := by
  rcases nonneg.eq_or_lt with zero | positive
  · subst zero
    cases minus <;> decide +kernel
  · have away : q ≠ 0 := positive.ne'
    obtain ⟨low,high,normal⟩ := significandBounds positive
    have place : (-1074 : Int) ≤ lastPlace q := le_max_right _ _
    have bits : nearestBits q = packed q := by
      unfold nearestBits at finite ⊢
      rw [if_neg away] at finite ⊢
      omega
    have read := packedValue (lastPlace q + 1074).toNat (significand q).toNat (by omega) (by omega)
      (by rw [bits] at finite; exact finite) minus
    rw [nearest,bits,packed,read]
    have back : (((significand q).toNat : Nat) : Rat) * pow2
      (((lastPlace q + 1074).toNat : Int) - 1074) = roundNearest q := by
      rw [roundNearest,if_neg away]
      have exact : (((significand q).toNat : Nat) : Rat) = (significand q : Rat) := by
        exact_mod_cast Int.toNat_of_nonneg low
      rw [exact,Int.toNat_of_nonneg (by omega),add_sub_cancel_right]
      rfl
    rw [back]

/-! strtod. -/

def isSpace (c : Char) : Bool := c = ' ' || (9 ≤ c.toNat && c.toNat ≤ 13)
def digitValue (c : Char) : Nat :=
  if '0' ≤ c ∧ c ≤ '9' then c.toNat - 48
  else if 'a' ≤ c ∧ c ≤ 'f' then c.toNat - 87
  else if 'A' ≤ c ∧ c ≤ 'F' then c.toNat - 55
  else 16
def readDigits (base : Nat) (text : List Char) : List Nat × List Char :=
  let digits := text.takeWhile fun c => digitValue c < base
  (digits.map digitValue,text.drop digits.length)
def natOf (base : Nat) (digits : List Nat) : Nat := digits.foldl (fun n digit => base * n + digit) 0
def readSign : List Char → Bool × List Char
  | '-'::rest => (true,rest)
  | '+'::rest => (false,rest)
  | rest => (false,rest)
def readMantissa (base : Nat) (text : List Char) : Option (Rat × List Char) :=
  let (whole,rest) := readDigits base text
  let (fraction,rest) :=
    match rest with
    | '.'::after => readDigits base after
    | _ => ([],rest)
  if whole = [] ∧ fraction = [] then none
  else some (mkRat (natOf base (whole ++ fraction)) (base ^ fraction.length),rest)
-- A letter without digits after it is no exponent.
def readExponent (letter : Char) : List Char → Int
  | c::rest =>
      if c.toLower = letter then
        let (minus,rest) := readSign rest
        let size : Int := natOf 10 (readDigits 10 rest).1
        if minus = true then -size else size
      else 0
  | [] => 0
def pow10 (e : Int) : Rat := if 0 ≤ e then mkRat (10 ^ e.toNat) 1 else mkRat 1 (10 ^ (-e).toNat)

inductive Numeral where
  | missing
  | number (minus : Bool) (size : Rat)
  | infinite (minus : Bool)
  | notANumber (minus : Bool)

def readNumber (text : List Char) : Option Rat :=
  match text with
  | '0'::x::hex =>
      if x.toLower = 'x' then
        match readMantissa 16 hex with
        | some (q,rest) => some (q * pow2 (readExponent 'p' rest))
        | none => some 0
      else (readMantissa 10 text).map fun (q,rest) => q * pow10 (readExponent 'e' rest)
  | _ => (readMantissa 10 text).map fun (q,rest) => q * pow10 (readExponent 'e' rest)
def strtod (text : List Char) : Numeral :=
  let (minus,rest) := readSign (text.dropWhile isSpace)
  let word := (rest.take 3).map Char.toLower
  if word = ['i','n','f'] then .infinite minus
  else if word = ['n','a','n'] then .notANumber minus
  else
    match readNumber rest with
    | some size => .number minus size
    | none => .missing

-- A result is tiny when, rounded to 53 bits with no least exponent, it is below the least normal number.
def tiny (q : Rat) : Bool :=
  let place := binaryExponent q.num.natAbs q.den - 52
  decide (roundHalfEven (q * pow2 (-place)) * pow2 place < pow2 (-1022))
def outOfRange (q : Rat) : Bool := q ≠ 0 && (infinityBits ≤ packed q || (tiny q && roundNearest q ≠ q))
def stod (text : String) : Option Double :=
  match strtod text.toList with
  | .missing => none
  | .infinite minus => some (signed minus infinityBits)
  | .notANumber minus => some (signed minus quietNanBits)
  | .number minus size => if outOfRange size = true then none else some (nearest minus size)

theorem mantissaNonneg {base : Nat} {text rest : List Char} {q : Rat}
    (read : readMantissa base text = some (q,rest)) : 0 ≤ q := by
  simp only [readMantissa,Option.ite_none_left_eq_some,Option.some.injEq,Prod.mk.injEq] at read
  rw [← read.2.1,Rat.mkRat_eq_div]
  positivity
theorem pow10Nonneg (e : Int) : 0 ≤ pow10 e := by
  unfold pow10
  split <;> rw [Rat.mkRat_eq_div] <;> positivity
theorem numberNonneg {text : List Char} {q : Rat} (read : readNumber text = some q) : 0 ≤ q := by
  have decimal : ∀ text q, (readMantissa 10 text).map
    (fun (q,rest) => q * pow10 (readExponent 'e' rest)) = some q → 0 ≤ q := by
    intro text q read
    obtain ⟨⟨mantissa,rest⟩,digits,rfl⟩ := Option.map_eq_some_iff.mp read
    exact mul_nonneg (mantissaNonneg digits) (pow10Nonneg _)
  unfold readNumber at read
  split at read
  · split at read
    · split at read
      · next hex =>
        cases read
        rw [pow2Zpow]
        exact mul_nonneg (mantissaNonneg hex) (by positivity)
      · cases read
        rfl
    · exact decimal _ _ read
  · exact decimal _ _ read
theorem stodNearest {text : String} {x : Double} {minus : Bool} {size : Rat}
    (numeral : strtod text.toList = .number minus size)
    (read : stod text = some x) : value x = if minus = true then -roundNearest size else roundNearest size := by
  have nonneg : 0 ≤ size := by
    unfold strtod at numeral
    dsimp only at numeral
    split at numeral
    · cases numeral
    · split at numeral
      · cases numeral
      · split at numeral
        · next found =>
          cases numeral
          exact numberNonneg found
        · cases numeral
  unfold stod at read
  rw [numeral] at read
  dsimp only at read
  split at read
  · cases read
  · next within =>
    cases read
    refine nearestValue nonneg ?_ minus
    unfold nearestBits
    split
    · decide
    · next away =>
      have finite : packed size < infinityBits := by
        by_contra large
        exact within (by simp [outOfRange,away,not_lt.mp large])
      omega

/-! Integers, and doubles as text. -/

def stoull (text : String) : Option UInt64 :=
  let (minus,rest) := readSign (text.toList.dropWhile isSpace)
  let digits := (readDigits 10 rest).1
  let size := natOf 10 digits
  if digits = [] ∨ 2^64 ≤ size then none else some (if minus = true then -UInt64.ofNat size else UInt64.ofNat size)
def ofInt (n : Int) : Double := nearest (n < 0) n.natAbs
def doubleText (x : Double) : String :=
  let sign := if negative x = true then "-" else ""
  if isFinite x = false then sign ++ (if fractionField x = 0 then "inf" else "nan")
  else
    let units := (roundHalfEven (magnitude x * 1000000)).toNat
    let decimals := (Nat.toDigits 10 (units % 1000000)).leftpad 6 '0'
    sign ++ toString (units / 1000000) ++ "." ++ String.ofList decimals

end Polytope.NumberText
