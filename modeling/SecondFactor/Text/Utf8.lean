import SecondFactor.Text.CodePoint

/-!
# UTF-8

The encoder writes characters. The decoder refuses overlong forms and numbers beyond the last code
point; whether it lets encoded surrogates through is up to its caller.
-/

namespace SecondFactor

/-- A sequence of bytes. -/
abbrev Bytes := List UInt8

namespace Utf8

/-- The bytes of one character. -/
def encodeChar (c : Char) : Bytes :=
  let n := c.toNat
  if n < 0x80 then [.ofNat n]
  else if n < 0x800 then [.ofNat (0xC0 + n / 0x40), .ofNat (0x80 + n % 0x40)]
  else if n < 0x10000 then
    [.ofNat (0xE0 + n / 0x1000), .ofNat (0x80 + n / 0x40 % 0x40), .ofNat (0x80 + n % 0x40)]
  else
    [.ofNat (0xF0 + n / 0x40000), .ofNat (0x80 + n / 0x1000 % 0x40),
      .ofNat (0x80 + n / 0x40 % 0x40), .ofNat (0x80 + n % 0x40)]

/-- The bytes of a list of characters. -/
def encode (cs : List Char) : Bytes := cs.flatMap encodeChar

/-- The six bits that a continuation byte carries. -/
def tail? (b : UInt8) : Option Nat :=
  if 0x80 ≤ b.toNat ∧ b.toNat < 0xC0 then some (b.toNat - 0x80) else none

/-- The code point numbered `n`, if it needs a form as long as one for numbers from `least` on.
Surrogates count only where `lone` allows them. -/
def point? (lone : Bool) (least n : Nat) : Option CodePoint :=
  if n < least then none
  else
    match CodePoint.ofNat? n with
    | some (.surrogate o) => if lone then some (.surrogate o) else none
    | p => p

/-- The text that bytes encode. -/
def decode (lone : Bool) : Bytes → Option Text
  | [] => some []
  | a :: s =>
    if a.toNat < 0x80 then do
      let p ← point? lone 0 a.toNat
      return p :: (← decode lone s)
    else if a.toNat < 0xC0 then none
    else
      match s with
      | [] => none
      | b :: s =>
        if a.toNat < 0xE0 then do
          let p ← point? lone 0x80 ((a.toNat - 0xC0) * 0x40 + (← tail? b))
          return p :: (← decode lone s)
        else
          match s with
          | [] => none
          | c :: s =>
            if a.toNat < 0xF0 then do
              let p ← point? lone 0x800
                (((a.toNat - 0xE0) * 0x40 + (← tail? b)) * 0x40 + (← tail? c))
              return p :: (← decode lone s)
            else
              match s with
              | [] => none
              | d :: s => do
                let p ← point? lone 0x10000
                  ((((a.toNat - 0xF0) * 0x40 + (← tail? b)) * 0x40 + (← tail? c)) * 0x40
                    + (← tail? d))
                return p :: (← decode lone s)

/-! ## Bytes that encode no text -/

/-- What stands for bytes that encode nothing. -/
def replacement : Char := Char.ofNat 0xFFFD

/-- What a first byte tells: the character that it is, or the upper bits of one with the ranges in
which its further bytes lie. -/
def lead (b : UInt8) : List Char × Nat × List (Nat × Nat) :=
  let n := b.toNat
  let tail := (0x80, 0xBF)
  if n < 0x80 then ([Char.ofNat n], 0, [])
  else if 0xC2 ≤ n ∧ n < 0xE0 then ([], n - 0xC0, [tail])
  else if n = 0xE0 then ([], 0, [(0xA0, 0xBF), tail])
  else if n = 0xED then ([], 0xD, [(0x80, 0x9F), tail])
  else if 0xE0 < n ∧ n < 0xF0 then ([], n - 0xE0, [tail, tail])
  else if n = 0xF0 then ([], 0, [(0x90, 0xBF), tail, tail])
  else if 0xF0 < n ∧ n < 0xF4 then ([], n - 0xF0, [tail, tail, tail])
  else if n = 0xF4 then ([], 4, [(0x80, 0x8F), tail, tail])
  else ([replacement], 0, [])

/-- Reads bytes after the first ones of a character: `sum` are its bits so far, `awaited` the ranges
of the bytes still to come. Bytes that begin a character and do not end it are replaced by one
mark. -/
def decodeLossyAfter (sum : Nat) (awaited : List (Nat × Nat)) : Bytes → List Char
  | [] => if awaited.isEmpty then [] else [replacement]
  | b :: s =>
    match awaited with
    | [] =>
      let (done, sum, awaited) := lead b
      done ++ decodeLossyAfter sum awaited s
    | (least, most) :: more =>
      if least ≤ b.toNat ∧ b.toNat ≤ most then
        let sum := sum * 0x40 + b.toNat % 0x40
        if more.isEmpty then Char.ofNat sum :: decodeLossyAfter 0 [] s
        else decodeLossyAfter sum more s
      else
        let (done, sum, awaited) := lead b
        replacement :: (done ++ decodeLossyAfter sum awaited s)

/-- The text that bytes encode, with marks for those that encode nothing. -/
def decodeLossy (bytes : Bytes) : List Char := decodeLossyAfter 0 [] bytes

end Utf8

end SecondFactor
