import SecondFactor.Deflate.Bits

/-!
# Codes of a compressed stream

Symbols are written by codes of up to fifteen bits, no one of which begins another. The lengths of
the codes tell them all: codes of one length follow each other in the order of their symbols, and
shorter codes come before longer ones.
-/

namespace SecondFactor.Deflate

/-- A set of codes. -/
structure Code where
  /-- How many codes there are of each length from one on. -/
  counts : List Nat
  /-- The symbols in the order of their codes. -/
  symbols : Array Nat
  deriving DecidableEq, Repr

namespace Code

/-- The greatest length of a code. -/
def maxLength : Nat := 15

/-- The codes with given lengths, one for each symbol; symbols with length zero have none. -/
def ofLengths (lengths : List Nat) : Code :=
  let sizes := (List.range maxLength).map (· + 1)
  let symbols (n : Nat) : List Nat := (lengths.zipIdx.filter fun p => p.1 == n).map Prod.snd
  { counts := sizes.map lengths.count, symbols := (sizes.flatMap symbols).toArray }

/-- Whether there are no codes at all. -/
def isEmpty (c : Code) : Bool := c.symbols.isEmpty

/-- How many codes of the greatest length are free, or `none` if there are more codes than fit. -/
def free? (c : Code) : Option Nat :=
  c.counts.foldlM (fun left count => if 2 * left < count then none else some (2 * left - count)) 1

/-- Whether codes use up all bit patterns. A set without codes may stand where none is needed. -/
def isComplete (c : Code) : Bool := c.isEmpty || c.free? == some 0

/-- Whether codes use up all bit patterns, or there is but one of a single bit. -/
def isUsable (c : Code) : Bool := c.isComplete || (c.counts.head? == some 1 && c.symbols.size == 1)

/-- Reads a symbol whose code is at least as long as the first length in `counts`: `code` are the
bits read so far, `first` is the first code of their length and `index` the place of its symbol. -/
def walk (symbols : Array Nat) : (counts : List Nat) → (code first index : Nat) → Reader Nat
  | [], _, _, _ => throw .corrupt
  | count :: counts, code, first, index => do
    let code := 2 * code + (← Reader.bit).toNat
    if code < first + count then
      match symbols[index + (code - first)]? with
      | some symbol => return symbol
      | none => throw .corrupt
    else if counts.all (· == 0) then throw .corrupt
    else walk symbols counts code (2 * (first + count)) (index + count)

/-- Reads a symbol. -/
def read (c : Code) : Reader Nat := walk c.symbols c.counts 0 0 0

end Code

end SecondFactor.Deflate
