import SecondFactor.Binary64

/-!
# The shortest decimal of a double

A double is written with the fewest digits that still read back as the same double, and among those
with the digits nearest to its value.
-/

namespace SecondFactor.Binary64

/-- The number of decimal digits of a positive number. -/
def digitCount (n : Nat) : Nat := (Nat.repr n).length

/-- The exponent `k` for which `10 ^ (k - 1) ≤ num / den < 10 ^ k`. -/
def decimalExponent (num den : Nat) : Int :=
  if den ≤ num then digitCount (num / den) else 1 - (digitCount (den / num) : Int)

/-- The interval of reals that round to the magnitude at a place, as `low`, `value` and `high` over
one denominator. -/
def roundingInterval (place : Nat) : (Nat × Nat × Nat) × Nat :=
  let (m, e) := mantissaExponent place
  let below := if m = twoTo 52 ∧ e ≠ -1074 then 1 else 2
  let ends := (4 * m - below, 4 * m, 4 * m + 2)
  if 2 ≤ e then
    let s := twoTo (e - 2).toNat
    ((ends.1 * s, ends.2.1 * s, ends.2.2 * s), 1)
  else (ends, twoTo (2 - e).toNat)

/-- The multiple of `10 ^ step` nearest to the magnitude among those that round to it, as the factor
of `10 ^ step`. Only the two multiples beside the magnitude need to be tried. -/
def onGrid? (place : Nat) (step : Int) : Option Nat :=
  let ((low, value, high), den) := roundingInterval place
  let up := if step < 0 then tenTo (-step).toNat else 1
  let down := if step < 0 then 1 else tenTo step.toNat
  let unit := den * down
  let fits (n : Nat) : Bool :=
    let x := n * unit
    if place % 2 = 0 then low * up ≤ x ∧ x ≤ high * up else low * up < x ∧ x < high * up
  let n := value * up / unit
  match fits n, fits (n + 1) with
  | true, true =>
    let under := value * up - n * unit
    let above := (n + 1) * unit - value * up
    if under < above ∨ (under = above ∧ n % 2 = 0) then some n else some (n + 1)
  | true, false => some n
  | false, true => some (n + 1)
  | false, false => none

/-- The digits of the shortest decimal of a positive magnitude, with the exponent `k` of the value
`0.ddd * 10 ^ k` that they stand for. Seventeen digits always suffice. -/
def shortest (place : Nat) : List Char × Int :=
  let ((_, value, _), den) := roundingInterval place
  let k := decimalExponent value den
  let found := (List.range 17).findSome? fun i =>
    let step := k - (i + 1 : Nat)
    (onGrid? place step).map fun n => (n, step)
  match found with
  | none => (['0'], 1)
  | some (n, step) =>
    let digits := (Nat.repr n).toList
    let trimmed := (digits.reverse.dropWhile (· == '0')).reverse
    (trimmed, step + digits.length)

/-- The decimal text of a magnitude: positional from `0.0001` up to below `10 ^ 16`, with at least
one digit after the point; elsewhere with an exponent that has a sign and at least two digits. -/
def magnitudeText (place : Nat) : List Char :=
  if place = 0 then ['0', '.', '0']
  else
    let (digits, k) := shortest place
    let count : Int := digits.length
    if k ≤ -4 ∨ 16 < k then
      let fraction := match digits with
        | d :: [] => [d]
        | d :: ds => d :: '.' :: ds
        | [] => []
      let e := k - 1
      let size := (Nat.repr e.natAbs).toList
      let padded := if size.length < 2 then '0' :: size else size
      fraction ++ 'e' :: (if e < 0 then '-' else '+') :: padded
    else if k ≤ 0 then '0' :: '.' :: (List.replicate (-k).toNat '0' ++ digits)
    else if count ≤ k then digits ++ List.replicate (k - count).toNat '0' ++ ['.', '0']
    else digits.take k.toNat ++ '.' :: digits.drop k.toNat

/-- The decimal text of a number, with the texts given for infinity and for what is no number. -/
def toText (infinity notNumber : String) : Binary64 → String
  | .finite negative place =>
    String.ofList (if negative then '-' :: magnitudeText place.val else magnitudeText place.val)
  | .infinite negative => if negative then "-" ++ infinity else infinity
  | .nan => notNumber

end SecondFactor.Binary64
