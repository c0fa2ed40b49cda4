import SecondFactor.Text.Utf8

/-!
# Encodings of a JSON document

A document is UTF-8, UTF-16 or UTF-32. A byte order mark tells which; without one, the places of
the zero bytes among the first four do, since a document begins with an ASCII character.
-/

namespace SecondFactor

/-- The order in which the bytes of a unit are written. -/
inductive ByteOrder where
  | big
  | little
  deriving DecidableEq, Repr

/-- The encodings that a JSON document may have. -/
inductive Encoding where
  | utf8
  | utf16 (order : ByteOrder)
  | utf32 (order : ByteOrder)
  deriving DecidableEq, Repr

namespace Encoding

/-- The number that two bytes write. -/
def pair (order : ByteOrder) (a b : UInt8) : Nat :=
  match order with
  | .big => a.toNat * 0x100 + b.toNat
  | .little => b.toNat * 0x100 + a.toNat

/-- Puts the decoded low half behind the high one before it, where the two form a pair. -/
def joinPairs : Text → Text
  | p :: q :: rest =>
    match p.paired? q with
    | some r => r :: joinPairs rest
    | none => p :: joinPairs (q :: rest)
  | short => short

/-- The units of a UTF-16 text, each as a code point; an odd byte at the end is refused. -/
def units16 (order : ByteOrder) : Bytes → Option Text
  | [] => some []
  | [_] => none
  | a :: b :: rest => do
    let p ← CodePoint.ofNat? (pair order a b)
    return p :: (← units16 order rest)

/-- The text that four-byte units write. -/
def units32 (order : ByteOrder) : Bytes → Option Text
  | [] => some []
  | a :: b :: c :: d :: rest => do
    let n := match order with
      | .big => pair .big a b * 0x10000 + pair .big c d
      | .little => pair .little c d * 0x10000 + pair .little a b
    let p ← CodePoint.ofNat? n
    return p :: (← units32 order rest)
  | _ => none

/-- The text that bytes write, lone surrogates let through. -/
def decode : Encoding → Bytes → Option Text
  | utf8, bytes => Utf8.decode true bytes
  | utf16 order, bytes => (units16 order bytes).map joinPairs
  | utf32 order, bytes => units32 order bytes

/-- The encoding of a document, and its bytes without the byte order mark. -/
def detect : Bytes → Encoding × Bytes
  | 0x00 :: 0x00 :: 0xFE :: 0xFF :: rest => (utf32 .big, rest)
  | 0xFF :: 0xFE :: 0x00 :: 0x00 :: rest => (utf32 .little, rest)
  | 0xFE :: 0xFF :: rest => (utf16 .big, rest)
  | 0xFF :: 0xFE :: rest => (utf16 .little, rest)
  | 0xEF :: 0xBB :: 0xBF :: rest => (utf8, rest)
  | 0x00 :: 0x00 :: c :: d :: rest => (utf32 .big, 0x00 :: 0x00 :: c :: d :: rest)
  | 0x00 :: b :: c :: d :: rest => (utf16 .big, 0x00 :: b :: c :: d :: rest)
  | a :: 0x00 :: 0x00 :: 0x00 :: rest => (utf32 .little, a :: 0x00 :: 0x00 :: 0x00 :: rest)
  | a :: 0x00 :: c :: d :: rest => (utf16 .little, a :: 0x00 :: c :: d :: rest)
  | [0x00, b] => (utf16 .big, [0x00, b])
  | [a, 0x00] => (utf16 .little, [a, 0x00])
  | bytes => (utf8, bytes)

/-- The text of a document in whichever encoding it has. -/
def decodeDocument (bytes : Bytes) : Option Text :=
  let (encoding, body) := detect bytes
  encoding.decode body

end Encoding

end SecondFactor
