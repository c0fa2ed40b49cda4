import SecondFactor.Deflate.Code

/-!
# Blocks of a compressed stream

A stream is a row of blocks. A block holds bytes as they are, or symbols that stand for single bytes
and for repetitions of bytes that came before.
-/

namespace SecondFactor.Deflate

/-- How far a stream was read: to the end of what was asked for, to where its bits run out, or to
where they make no sense. -/
inductive Progress where
  | done (out : Array UInt8) (rest : Bits)
  | short (out : Array UInt8)
  | corrupt

/-- The least number of a symbol, and how many bits are added to it. -/
abbrev Scale := List (Nat × Nat)

/-- The lengths of repetitions. -/
def lengthScale : Scale := [
  (3, 0), (4, 0), (5, 0), (6, 0), (7, 0), (8, 0), (9, 0), (10, 0), (11, 1), (13, 1), (15, 1),
  (17, 1), (19, 2), (23, 2), (27, 2), (31, 2), (35, 3), (43, 3), (51, 3), (59, 3), (67, 4), (83, 4),
  (99, 4), (115, 4), (131, 5), (163, 5), (195, 5), (227, 5), (258, 0)]

/-- How far back repetitions reach. -/
def distanceScale : Scale := [
  (1, 0), (2, 0), (3, 0), (4, 0), (5, 1), (7, 1), (9, 2), (13, 2), (17, 3), (25, 3), (33, 4),
  (49, 4), (65, 5), (97, 5), (129, 6), (193, 6), (257, 7), (385, 7), (513, 8), (769, 8), (1025, 9),
  (1537, 9), (2049, 10), (3073, 10), (4097, 11), (6145, 11), (8193, 12), (12289, 12), (16385, 13),
  (24577, 13)]

/-- The number that a symbol on a scale stands for, with the bits that are added to it. -/
def Scale.read (scale : Scale) (symbol : Nat) : Reader Nat :=
  match scale[symbol]? with
  | some (least, extra) => return least + (← Reader.number extra)
  | none => throw .corrupt

/-- The codes of a block: those for bytes and lengths, and those for distances. -/
structure Codes where
  literals : Code
  distances : Code
  deriving DecidableEq, Repr

/-- The codes that are fixed once and for all. -/
def fixedCodes : Codes where
  literals := .ofLengths (List.replicate 144 8 ++ List.replicate 112 9 ++ List.replicate 24 7
    ++ List.replicate 8 8)
  distances := .ofLengths (List.replicate 32 5)

/-! ## Codes that a block brings along -/

/-- The order in which the lengths of the codes for lengths are given. -/
def lengthOrder : List Nat := [16, 17, 18, 0, 8, 7, 9, 6, 10, 5, 11, 4, 12, 3, 13, 2, 14, 1, 15]

/-- Reads lengths of codes up to `total` of them: a symbol is a length, or tells how often the last
one or zero is repeated. Without any codes each bit is a zero. -/
def readLengths (code : Code) (total : Nat) : (most : Nat) → List Nat → Reader (List Nat)
  | 0, _ => throw .corrupt
  | most + 1, lengths => do
    if total < lengths.length then throw .corrupt
    if lengths.length = total then return lengths
    let symbol ← if code.isEmpty then (fun _ => 0) <$> Reader.bit else code.read
    let again ← match symbol with
      | 16 => do
        let count ← Reader.number 2
        match lengths.getLast? with
        | some last => pure (List.replicate (3 + count) last)
        | none => throw .corrupt
      | 17 => do pure (List.replicate (3 + (← Reader.number 3)) 0)
      | 18 => do pure (List.replicate (11 + (← Reader.number 7)) 0)
      | length => pure [length]
    readLengths code total most (lengths ++ again)

/-- Reads the codes that a block brings along. -/
def readCodes : Reader Codes := do
  let literals := 257 + (← Reader.number 5)
  let distances := 1 + (← Reader.number 5)
  let count := 4 + (← Reader.number 4)
  if 286 < literals || 30 < distances then throw .corrupt
  let given ← (List.range count).mapM fun _ => Reader.number 3
  let ordered := lengthOrder.zip given
  let code := Code.ofLengths ((List.range 19).map fun n => (ordered.lookup n).getD 0)
  if !code.isComplete then throw .corrupt
  let total := literals + distances
  let lengths ← readLengths code total (total + 1) []
  if lengths[256]? = some 0 then throw .corrupt
  let codes : Codes := ⟨.ofLengths (lengths.take literals), .ofLengths (lengths.drop literals)⟩
  if !codes.literals.isUsable || !codes.distances.isUsable then throw .corrupt
  return codes

/-! ## Contents -/

/-- Repeats `count` of the bytes that begin `distance` bytes before the end. -/
def Progress.repeatFrom (distance : Nat) : (count : Nat) → Array UInt8 → Array UInt8
  | 0, out => out
  | count + 1, out => repeatFrom distance count (out.push (out.getD (out.size - distance) 0))

/-- What a symbol of a block asks for. -/
inductive Step where
  | byte (b : UInt8)
  | again (length distance : Nat)
  | ends
  deriving DecidableEq, Repr

/-- Reads a symbol of a block with what belongs to it. -/
def Step.read (codes : Codes) : Reader Step := do
  let symbol ← codes.literals.read
  if symbol < 256 then return .byte (.ofNat symbol)
  if symbol = 256 then return .ends
  let length ← lengthScale.read (symbol - 257)
  let distance ← distanceScale.read (← codes.distances.read)
  return .again length distance

/-- Reads the symbols of a block. -/
def readSymbols (codes : Codes) : (most : Nat) → Array UInt8 → Bits → Progress
  | 0, out, _ => .short out
  | most + 1, out, s =>
    match Step.read codes s with
    | .error .short => .short out
    | .error .corrupt => .corrupt
    | .ok (.byte b, rest) => readSymbols codes most (out.push b) rest
    | .ok (.ends, rest) => .done out rest
    | .ok (.again length distance, rest) =>
      if out.size < distance then .corrupt
      else readSymbols codes most (Progress.repeatFrom distance length out) rest

/-- Reads `count` bytes that are stored as they are. -/
def readStored : (count : Nat) → Array UInt8 → Bits → Progress
  | 0, out, s => .done out s
  | count + 1, out, s =>
    match Reader.number 8 s with
    | .ok (b, rest) => readStored count (out.push (.ofNat b)) rest
    | .error _ => .short out

/-- What the head of a block tells of its contents. -/
inductive Contents where
  | stored (count : Nat)
  | coded (codes : Codes)
  deriving DecidableEq, Repr

/-- Reads the head of a block, and whether the block is the last one. -/
def Contents.read : Reader (Bool × Contents) := do
  let last ← Reader.bit
  match ← Reader.number 2 with
  | 0 =>
    Reader.align
    let count ← Reader.number 16
    let complement ← Reader.number 16
    if count + complement ≠ 0xFFFF then throw .corrupt
    return (last, .stored count)
  | 1 => return (last, .coded fixedCodes)
  | 2 => return (last, .coded (← readCodes))
  | _ => throw .corrupt

/-- Reads blocks up to the last one. Each takes at least one bit, so `most` need be no more than the
number of bits. -/
def readBlocks : (most : Nat) → Array UInt8 → Bits → Progress
  | 0, out, _ => .short out
  | most + 1, out, s =>
    match Contents.read s with
    | .error .short => .short out
    | .error .corrupt => .corrupt
    | .ok ((last, contents), rest) =>
      let progress := match contents with
        | .stored count => readStored count out rest
        | .coded codes => readSymbols codes (rest.length + 1) out rest
      match progress with
      | .done out rest => if last then .done out rest else readBlocks most out rest
      | stopped => stopped

end SecondFactor.Deflate
