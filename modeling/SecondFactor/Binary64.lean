/-!
# Binary floating point numbers of 64 bits

Numbers are kept exactly, as data that a proof can see. A finite magnitude is its place in the list
of all finite magnitudes in increasing order, so two numbers are equal just when their places and
signs are.
-/

namespace SecondFactor

/-- A power of two. -/
abbrev twoTo (n : Nat) : Nat := Nat.pow 2 n

/-- A power of ten. -/
abbrev tenTo (n : Nat) : Nat := Nat.pow 10 n

/-- A double precision number. -/
inductive Binary64 where
  /-- The finite magnitude number `place`, counted from zero upwards, with a sign. -/
  | finite (negative : Bool) (place : Fin (2047 * twoTo 52))
  | infinite (negative : Bool)
  | nan
  deriving DecidableEq, Repr

namespace Binary64

/-- The quotient `num / den` rounded to the nearest whole number, a half to the even one. -/
def roundEven (num den : Nat) : Nat :=
  let q := num / den
  let r := num % den
  if 2 * r < den then q
  else if den < 2 * r then q + 1
  else q + q % 2

/-- The magnitude at a place, or infinity past the last one. -/
def ofPlace (negative : Bool) (place : Nat) : Binary64 :=
  if h : place < 2047 * twoTo 52 then .finite negative ⟨place, h⟩ else .infinite negative

/-- The number nearest to `num / den`. Magnitudes are multiples of `2 ^ -1074`, and from `2 ^ 53`
of those on they lie twice as far apart after each power of two. -/
def ofRatio (negative : Bool) (num den : Nat) : Binary64 :=
  let steps := num * twoTo 1074
  let k := (steps / den).log2 - 52
  ofPlace negative (k * twoTo 52 + roundEven steps (den * twoTo k))

/-- The number nearest to `digits * 10 ^ exponent`. Exponents far beyond the range are settled by
their size alone. -/
def ofDecimal (negative : Bool) (digits : Nat) (exponent : Int) : Binary64 :=
  let size := (Nat.repr digits).length
  if digits = 0 then ofPlace negative 0
  else if 400 < exponent + size then .infinite negative
  else if exponent + size < -400 then ofPlace negative 0
  else if 0 ≤ exponent then ofRatio negative (digits * tenTo exponent.toNat) 1
  else ofRatio negative digits (tenTo (-exponent).toNat)

/-- The number nearest to a whole number. -/
def ofInt (n : Int) : Binary64 :=
  if n.natAbs < twoTo 1025 then ofRatio (n < 0) n.natAbs 1 else .infinite (n < 0)

/-- The pair of `mantissa` and `exponent` whose `mantissa * 2 ^ exponent` is the magnitude at a
place. -/
def mantissaExponent (place : Nat) : Nat × Int :=
  let band : Nat := place / twoTo 52
  if band = 0 then (place, -1074) else (twoTo 52 + place % twoTo 52, (band : Int) - 1075)

/-- Whether a number is greater than zero. -/
def isPositive : Binary64 → Bool
  | .finite negative place => !negative && place.val != 0
  | .infinite negative => !negative
  | .nan => false

/-- Whether a number equals zero, of either sign. -/
def isZero : Binary64 → Bool
  | .finite _ place => place.val == 0
  | _ => false

/-- The whole number that a number is, if it is one. -/
def toInt? : Binary64 → Option Int
  | .finite negative place =>
    let (m, e) := mantissaExponent place.val
    let magnitude :=
      if 0 ≤ e then some (m * twoTo e.toNat)
      else if m % twoTo (-e).toNat = 0 then some (m / twoTo (-e).toNat) else none
    magnitude.map fun n => if negative then -(n : Int) else n
  | _ => none

end Binary64

end SecondFactor
