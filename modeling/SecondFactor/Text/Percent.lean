import SecondFactor.Text.Hex

/-!
# Percent encoding

A percent sign with two hexadecimal digits stands for a byte. A percent sign without them stands for
itself. Bytes are read as UTF-8 within each run of ASCII characters, so an escape never combines
with a character that is written out.
-/

namespace SecondFactor.Percent

/-- The characters that bytes encode, surrogates refused. -/
def readRun (bytes : Bytes) : Option (List Char) := do
  (← Utf8.decode false bytes).mapM CodePoint.char?

/-- Decodes what follows a run of ASCII characters whose bytes, last one first, are `run`; the bytes
of a run are read by `read`. -/
def decodeAfter {m : Type → Type} [Monad m] (read : Bytes → m (List Char)) (run : Bytes) :
    List Char → m (List Char)
  | [] => read run.reverse
  | '%' :: a :: b :: s =>
    match Hex.byte? a b with
    | some byte => decodeAfter read (byte :: run) s
    | none => decodeAfter read (0x25 :: run) (a :: b :: s)
  | c :: s =>
    if c.toNat < 0x80 then decodeAfter read (.ofNat c.toNat :: run) s
    else do
      let before ← read run.reverse
      return before ++ c :: (← decodeAfter read [] s)

/-- Undoes percent encoding; fails where escapes write no valid UTF-8. -/
def decode (s : List Char) : Option (List Char) := decodeAfter readRun [] s

/-- Undoes percent encoding, with marks where escapes write no valid UTF-8. -/
def decodeLossy (s : List Char) : List Char :=
  Id.run (decodeAfter (fun bytes => pure (Utf8.decodeLossy bytes)) [] s)

/-- The escape that writes a byte, with digits in upper case. -/
def escape (b : UInt8) : List Char := ['%', Hex.upper (b.toNat / 16), Hex.upper (b.toNat % 16)]

/-- The escapes of all bytes of a character. -/
def escapeChar (c : Char) : List Char := (Utf8.encodeChar c).flatMap escape

/-- Escapes every character outside `safe`, except that escapes already present are kept. -/
def quote (safe : Char → Bool) : List Char → List Char
  | '%' :: a :: b :: s =>
    if (Hex.byte? a b).isSome then '%' :: a :: b :: quote safe s
    else (if safe '%' then ['%'] else escapeChar '%') ++ quote safe (a :: b :: s)
  | c :: s => (if safe c then [c] else escapeChar c) ++ quote safe s
  | [] => []

end SecondFactor.Percent
