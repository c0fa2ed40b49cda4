import SecondFactor.Text.Utf8

/-!
# Hexadecimal digits
-/

namespace SecondFactor.Hex

/-- The value of a hexadecimal digit in either case. -/
def value? (c : Char) : Option Nat :=
  if '0' ≤ c ∧ c ≤ '9' then some (c.toNat - '0'.toNat)
  else if 'a' ≤ c ∧ c ≤ 'f' then some (c.toNat - 'a'.toNat + 10)
  else if 'A' ≤ c ∧ c ≤ 'F' then some (c.toNat - 'A'.toNat + 10)
  else none

/-- The digit for a value below sixteen, in lower case. -/
def lower (n : Nat) : Char := Nat.digitChar n

/-- The digit for a value below sixteen, in upper case. -/
def upper (n : Nat) : Char := if n < 10 then Char.ofNat (0x30 + n) else Char.ofNat (0x37 + n)

/-- The byte that two digits write. -/
def byte? (a b : Char) : Option UInt8 := do return .ofNat ((← value? a) * 16 + (← value? b))

/-- Bytes as pairs of digits in lower case. -/
def encode (bytes : Bytes) : String :=
  String.ofList (bytes.flatMap fun b => [lower (b.toNat / 16), lower (b.toNat % 16)])

/-- The bytes that pairs of digits write. -/
def decode : List Char → Option Bytes
  | [] => some []
  | a :: b :: rest => do return (← byte? a b) :: (← decode rest)
  | [_] => none

end SecondFactor.Hex
