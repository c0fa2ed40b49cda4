import SecondFactor.Text.Utf8

/-!
# base64url

Bytes are written six bits a character, without padding. Reading is lenient: both alphabets count,
characters outside of them are skipped, and nothing after complete padding is looked at.
-/

namespace SecondFactor.Base64Url

/-- The characters for the values below 64. -/
def alphabet : List Char :=
  "ABCDEFGHIJKLMNOPQRSTUVWXYZabcdefghijklmnopqrstuvwxyz0123456789-_".toList

/-- The character for six bits. -/
def digit (n : Nat) : Char := alphabet.getD n 'A'

/-- The six bits of a character of either alphabet. -/
def value? (c : Char) : Option Nat :=
  if 'A' ≤ c ∧ c ≤ 'Z' then some (c.toNat - 'A'.toNat)
  else if 'a' ≤ c ∧ c ≤ 'z' then some (c.toNat - 'a'.toNat + 26)
  else if '0' ≤ c ∧ c ≤ '9' then some (c.toNat - '0'.toNat + 52)
  else if c = '-' ∨ c = '+' then some 62
  else if c = '_' ∨ c = '/' then some 63
  else none

/-- Bytes without padding. -/
def encodeChars : Bytes → List Char
  | [] => []
  | [a] => [digit (a.toNat / 4), digit (a.toNat % 4 * 16)]
  | [a, b] => [digit (a.toNat / 4), digit (a.toNat % 4 * 16 + b.toNat / 16),
      digit (b.toNat % 16 * 4)]
  | a :: b :: c :: rest =>
    digit (a.toNat / 4) :: digit (a.toNat % 4 * 16 + b.toNat / 16)
      :: digit (b.toNat % 16 * 4 + c.toNat / 64) :: digit (c.toNat % 64) :: encodeChars rest

/-- Bytes without padding, as a string. -/
def encode (bytes : Bytes) : String := String.ofList (encodeChars bytes)

/-- Why a text is not read. -/
inductive ReadError where
  | notAscii
  | incomplete
  deriving DecidableEq, Repr

/-- Reads on in a group of four characters: `place` of them are read, their last bits are in `left`,
and `pads` padding characters stand behind them. -/
def scan (place left pads : Nat) : List Char → Option Bytes
  | [] => if place = 0 then some [] else none
  | c :: s =>
    if c = '=' then
      if place < 2 then scan place left pads s
      else if 4 ≤ place + (pads + 1) then some []
      else scan place left (pads + 1) s
    else
      match value? c with
      | none => scan place left pads s
      | some v =>
        match place with
        | 0 => scan 1 v 0 s
        | 1 => (scan 2 (v % 16) 0 s).map (UInt8.ofNat (left * 4 + v / 16) :: ·)
        | 2 => (scan 3 (v % 4) 0 s).map (UInt8.ofNat (left * 16 + v / 4) :: ·)
        | _ => (scan 0 0 0 s).map (UInt8.ofNat (left * 64 + v) :: ·)

/-- The bytes of a text that is first padded to a multiple of four characters. -/
def decode (t : Text) : Except ReadError Bytes :=
  match t.mapM fun p => if p.isAscii then p.char? else none with
  | none => .error .notAscii
  | some s =>
    let padded := s ++ List.replicate ((4 - s.length % 4) % 4) '='
    match scan 0 0 0 padded with
    | none => .error .incomplete
    | some bytes => .ok bytes

end SecondFactor.Base64Url
