import SecondFactor.Deflate.Block

/-!
# Compressed streams

A compressed stream stands alone or in one of two wrappings, each with a head before it and a check
of its contents behind it. A stream that is cut off gives what could be read of it, and what follows
its end is not looked at.
-/

namespace SecondFactor.Deflate

/-! ## Checks -/

/-- The cyclic check of some bytes. -/
def cyclicCheck (bytes : Array UInt8) : UInt32 :=
  let shift (sum : UInt32) (_ : Nat) : UInt32 :=
    if sum &&& 1 = 1 then (sum >>> 1) ^^^ 0xEDB88320 else sum >>> 1
  let add (sum : UInt32) (b : UInt8) : UInt32 :=
    (List.range 8).foldl shift (sum ^^^ b.toUInt32)
  bytes.foldl add 0xFFFFFFFF ^^^ 0xFFFFFFFF

/-- The check by two sums of some bytes. -/
def sumCheck (bytes : Array UInt8) : Nat :=
  let (a, b) := bytes.foldl (fun (a, b) byte =>
    let a := (a + byte.toNat) % 65521
    (a, (b + a) % 65521)) (1, 0)
  b * 0x10000 + a

/-! ## Wrappings -/

/-- The wrappings of a compressed stream. -/
inductive Wrapping where
  | bare
  | zlib
  | gzip
  deriving DecidableEq, Repr

namespace Wrapping

/-- Reads the head of a stream with a check by sums. A dictionary that it asks for is not there. -/
def readZlibHead : Reader Unit := do
  let method ← Reader.number 4
  let window ← Reader.number 4
  let flags ← Reader.number 8
  if ((window * 16 + method) * 256 + flags) % 31 ≠ 0 || method ≠ 8 || 7 < window then
    throw .corrupt
  if flags / 32 % 2 = 1 then
    Reader.skip 4
    throw .corrupt

/-- Reads the head of a stream with a cyclic check; `bytes` is the whole stream. -/
def readGzipHead (bytes : Bytes) : Reader Unit := do
  if (← Reader.number 16) ≠ 0x8B1F then throw .corrupt
  let method ← Reader.number 8
  let flags ← Reader.number 8
  if method ≠ 8 || 0x20 ≤ flags then throw .corrupt
  Reader.skip 6
  if flags.testBit 2 then Reader.skip (← Reader.number 16)
  if flags.testBit 3 then Reader.skipText (bytes.length + 1)
  if flags.testBit 4 then Reader.skipText (bytes.length + 1)
  if flags.testBit 1 then
    let read := bytes.length - (← get).length / 8
    let check := (cyclicCheck (bytes.take read).toArray).toNat % 0x10000
    if (← Reader.number 16) ≠ check then throw .corrupt

/-- Reads the head of a stream. -/
def readHead (w : Wrapping) (bytes : Bytes) : Reader Unit :=
  match w with
  | bare => pure ()
  | zlib => readZlibHead
  | gzip => readGzipHead bytes

/-- Reads the check behind a stream and compares it with the contents. -/
def readCheck (w : Wrapping) (out : Array UInt8) : Reader Unit := do
  match w with
  | bare => pure ()
  | zlib =>
    Reader.align
    let parts ← (List.range 4).mapM fun _ => Reader.number 8
    if parts.foldl (fun sum part => sum * 0x100 + part) 0 ≠ sumCheck out then throw .corrupt
  | gzip =>
    Reader.align
    if (← Reader.number 32) ≠ (cyclicCheck out).toNat then throw .corrupt
    if (← Reader.number 32) ≠ out.size % 0x100000000 then throw .corrupt

end Wrapping

/-- The contents of a stream, unless it is corrupt. -/
def decompress (w : Wrapping) (bytes : Bytes) : Option Bytes :=
  let s := bits bytes
  match w.readHead bytes s with
  | .error .short => some []
  | .error .corrupt => none
  | .ok (_, rest) =>
    match readBlocks (s.length + 1) #[] rest with
    | .corrupt => none
    | .short out => some out.toList
    | .done out rest =>
      match w.readCheck out rest with
      | .error .corrupt => none
      | _ => some out.toList

end SecondFactor.Deflate
