import SecondFactor.Text.Utf8

/-!
# Bits of a compressed stream

The bits of each byte are read from the lowest one on. Reading stops where the bits run out, which
is no fault, or where they make no sense.
-/

namespace SecondFactor.Deflate

/-- The bits that are still to be read. -/
abbrev Bits := List Bool

/-- Why reading stops. -/
inductive Stop where
  | short
  | corrupt
  deriving DecidableEq, Repr

/-- A way to read a value from the front of some bits. -/
abbrev Reader (α : Type) := StateT Bits (Except Stop) α

/-- The bits of a byte. -/
def bitsOf (b : UInt8) : Bits := (List.range 8).map fun i => b.toNat.testBit i

/-- The bits of a stream. -/
def bits (bytes : Bytes) : Bits := bytes.flatMap bitsOf

namespace Reader

/-- One bit. -/
def bit : Reader Bool := fun
  | [] => .error .short
  | b :: rest => .ok (b, rest)

/-- A number of `count` bits, the lowest one first. -/
def number : (count : Nat) → Reader Nat
  | 0 => pure 0
  | count + 1 => do
    let b ← bit
    return b.toNat + 2 * (← number count)

/-- Goes on to the next whole byte. -/
def align : Reader Unit := modify fun s => s.drop (s.length % 8)

/-- Passes over some bytes. -/
def skip (count : Nat) : Reader Unit := fun s =>
  if s.length < 8 * count then .error .short else .ok ((), s.drop (8 * count))

/-- Passes over bytes up to the first one that is zero, and over that one. -/
def skipText : (most : Nat) → Reader Unit
  | 0 => throw .short
  | most + 1 => do
    if (← number 8) ≠ 0 then skipText most

end Reader

end SecondFactor.Deflate
