import SecondFactor.Text.Composition.Table

/-!
# Canonical composition

Some sequences of code points are canonically equivalent. The composed form of a text takes every
code point apart, puts marks that follow one base into the order of their classes, and then puts
base and marks together again where one code point stands for both.
-/

namespace SecondFactor.Composition

/-! ## Hangul -/

/-- The first syllable; syllables follow in the order of their three parts. -/
def syllables : Nat := 0xAC00

/-- The first leading consonant. -/
def leads : Nat := 0x1100

/-- The first vowel. -/
def vowels : Nat := 0x1161

/-- The code point before the first trailing consonant. -/
def trails : Nat := 0x11A7

/-- The parts of a syllable. -/
def takeSyllable (n : Nat) : Option (List Nat) :=
  let s := n - syllables
  if n < syllables || 11172 ≤ s then none
  else
    let pair := [leads + s / 588, vowels + s % 588 / 28]
    some (if s % 28 = 0 then pair else pair ++ [trails + s % 28])

/-- The syllable that two code points make: two letters, or a syllable of two letters and a third
one. -/
def putSyllable (a b : Nat) : Option Nat :=
  if leads ≤ a && a < leads + 19 && vowels ≤ b && b < vowels + 21 then
    some (syllables + ((a - leads) * 21 + (b - vowels)) * 28)
  else if syllables ≤ a && a < syllables + 11172 && (a - syllables) % 28 == 0
      && trails < b && b < trails + 28 then
    some (a + (b - trails))
  else none

/-! ## Taking apart -/

/-- The combining class of a code point; zero is that of a base. -/
def classOf (n : Nat) : Nat :=
  match classes.find? fun r => r.1 ≤ n && n ≤ r.2.1 with
  | some r => r.2.2
  | none => 0

/-- A code point taken apart, as often as it and its first parts can be. -/
def takeApart : (most : Nat) → Nat → List Nat
  | 0, n => [n]
  | most + 1, n =>
    match takeSyllable n with
    | some parts => parts
    | none =>
      match renamed.lookup n, pairs.lookup n with
      | some m, _ => takeApart most m
      | none, some (a, b) => takeApart most a ++ takeApart most b
      | none, none => [n]

/-- The longest chain of decompositions. -/
def depth : Nat := 8

/-- Puts a code point behind others, before those at their end whose class is greater. -/
def place (done : List Nat) (n : Nat) : List Nat :=
  let c := classOf n
  if c = 0 then done ++ [n]
  else
    let later := (done.reverse.takeWhile fun m => c < classOf m).reverse
    done.take (done.length - later.length) ++ n :: later

/-- A text with all its code points taken apart and its marks in order. -/
def decompose (s : List Nat) : List Nat := (s.flatMap (takeApart depth)).foldl place []

/-! ## Putting together -/

/-- The code point that stands for two others. -/
def putTogether (a b : Nat) : Option Nat :=
  match putSyllable a b with
  | some n => some n
  | none =>
    match pairs.find? fun p => p.2 == (a, b) with
    | some p => if excluded.contains p.1 then none else some p.1
    | none => none

/-- Composes what follows `base`: `marks` are those that were kept behind it, `last` is the class of
the last one. -/
def composeAfter (base : Nat) (marks : List Nat) (last : Nat) : List Nat → List Nat
  | [] => base :: marks
  | n :: s =>
    let c := classOf n
    let reached := marks.isEmpty || last < c
    match if reached then putTogether base n else none with
    | some m => composeAfter m marks last s
    | none =>
      if c = 0 then base :: (marks ++ composeAfter n [] 0 s)
      else composeAfter base (marks ++ [n]) c s

/-- A text whose code points are in order, put together. -/
def compose : List Nat → List Nat
  | [] => []
  | n :: s =>
    if classOf n = 0 then composeAfter n [] 0 s
    else n :: compose s

/-- The composed form of a text. -/
def normalize (s : List Nat) : List Nat := compose (decompose s)

/-- Whether a text is in composed form. -/
def isComposed (s : List Nat) : Bool := normalize s == s

end SecondFactor.Composition
