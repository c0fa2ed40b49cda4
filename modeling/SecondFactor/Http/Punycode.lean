/-!
# Punycode

A label of a host name with characters outside ASCII is written in ASCII: its ASCII characters
first, then for each other character, in order of code points, a number that tells where it goes.
Labels are lists of code points, since what is read need not be a character.
-/

namespace SecondFactor.Http.Punycode

/-- The digit for a value below 36. -/
def digit (n : Nat) : Char := if n < 26 then Char.ofNat (0x61 + n) else Char.ofNat (0x16 + n)

/-- The value of a digit in any case. -/
def value? (c : Char) : Option Nat :=
  if c.isLower then some (c.toNat - 0x61)
  else if c.isUpper then some (c.toNat - 0x41)
  else if c.isDigit then some (c.toNat - 0x16)
  else none

/-- The least value of a digit that another one follows, at the weight counted by `k`. -/
def threshold (bias k : Nat) : Nat :=
  if k ≤ bias then 1 else if bias + 26 ≤ k then 26 else k - bias

/-- How far the digits for the next number are biased after one was written or read. -/
def adapt (delta count : Nat) (first : Bool) : Nat :=
  let rec shrink : (most : Nat) → (k delta : Nat) → Nat
    | 0, k, _ => k
    | most + 1, k, delta =>
      if delta > 455 then shrink most (k + 36) (delta / 35) else k + 36 * delta / (delta + 38)
  let delta := if first then delta / 700 else delta / 2
  shrink 64 0 (delta + delta / count)

/-! ## Writing -/

/-- A number in digits of variable weight. -/
def number : (most : Nat) → (bias k n : Nat) → List Char
  | 0, _, _, _ => []
  | most + 1, bias, k, n =>
    let t := threshold bias k
    if n < t then [digit n]
    else digit (t + (n - t) % (36 - t)) :: number most bias (k + 36) ((n - t) / (36 - t))

/-- Writes the positions of one character: `delta` counts the places passed since the last one. -/
def place (point : Nat) : (label : List Nat) → (delta bias done : Nat) → (first : Bool) →
    List Char × Nat × Nat × Nat × Bool
  | [], delta, bias, done, first => ([], delta, bias, done, first)
  | c :: label, delta, bias, done, first =>
    if c < point then place point label (delta + 1) bias done first
    else if c = point then
      let (rest, state) := place point label 0 (adapt delta (done + 1) first) (done + 1) false
      (number 64 bias 36 delta ++ rest, state)
    else place point label delta bias done first

/-- Writes all characters of a label that are listed in `points`, in increasing order. -/
def places (label : List Nat) : (points : List Nat) → (last delta bias done : Nat) →
    (first : Bool) → List Char
  | [], _, _, _, _, _ => []
  | p :: points, last, delta, bias, done, first =>
    let delta := delta + (p - last) * (done + 1)
    let (text, delta, bias, done, first) := place p label delta bias done first
    text ++ places label points (p + 1) (delta + 1) bias done first

/-- A label in ASCII. -/
def encode (label : List Nat) : List Char :=
  let basic := (label.filter (· < 0x80)).map Char.ofNat
  let points := ((label.filter (0x80 ≤ ·)).mergeSort (· ≤ ·)).eraseDups
  let head := if basic.isEmpty then [] else basic ++ ['-']
  head ++ places label points 0x80 0 72 basic.length true

/-! ## Reading -/

/-- The number at the beginning of a text, with what follows it. -/
def readNumber (bias : Nat) : (k weight sum : Nat) → List Char → Option (Nat × List Char)
  | _, _, _, [] => none
  | k, weight, sum, c :: s => do
    let d ← value? c
    let t := threshold bias k
    if d < t then return (sum + d * weight, s)
    readNumber bias (k + 36) (weight * (36 - t)) (sum + d * weight) s

/-- Puts the characters that numbers tell of into a label: `point` is the last one put there, and
the next one cannot stand before `place`. -/
def insert : (most : Nat) → (label : List Nat) → (point place bias : Nat) → (first : Bool) →
    List Char → Option (List Nat)
  | 0, label, _, _, _, _, _ => some label
  | most + 1, label, point, place, bias, first, s => do
    if s.isEmpty then return label
    let (delta, rest) ← readNumber bias 36 1 0 s
    let count := label.length + 1
    let point := point + (place + delta) / count
    if 0x10FFFF < point then none
    let place := (place + delta) % count
    insert most (label.take place ++ point :: label.drop place) point (place + 1)
      (adapt delta count first) false rest

/-- The label that a text in ASCII writes. -/
def decode (s : List Char) : Option (List Nat) :=
  let numbers := (s.reverse.takeWhile (· ≠ '-')).reverse
  let basic := (s.take (s.length - numbers.length)).dropLast
  insert s.length (basic.map Char.toNat) 0x80 0 72 true numbers

end SecondFactor.Http.Punycode
