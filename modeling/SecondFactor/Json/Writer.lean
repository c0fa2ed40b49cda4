import SecondFactor.Binary64.Shortest
import SecondFactor.Json
import SecondFactor.Text.Hex

/-!
# Writing JSON

Values are written in ASCII alone: every code point outside the printable ASCII characters is
escaped, one past `U+FFFF` as a pair of surrogates.
-/

namespace SecondFactor.Json

/-- What stands between the elements of a value. -/
structure Layout where
  comma : List Char
  colon : List Char
  deriving DecidableEq, Repr

/-- No blanks. -/
def Layout.compact : Layout := ⟨[','], [':']⟩

/-- A blank after each comma and colon. -/
def Layout.spaced : Layout := ⟨[',', ' '], [':', ' ']⟩

namespace Writer

/-- The four hexadecimal digits of a number below `2 ^ 16`, in lower case. -/
def hex4 (n : Nat) : List Char :=
  [n / 0x1000 % 16, n / 0x100 % 16, n / 0x10 % 16, n % 16].map Hex.lower

/-- The escape that names a UTF-16 unit. -/
def unit (n : Nat) : List Char := '\\' :: 'u' :: hex4 n

/-- A code point between quotes. -/
def point (p : CodePoint) : List Char :=
  let n := p.val
  if n = 0x22 then ['\\', '"']
  else if n = 0x5C then ['\\', '\\']
  else if n = 0x0A then ['\\', 'n']
  else if n = 0x0D then ['\\', 'r']
  else if n = 0x09 then ['\\', 't']
  else if n = 0x0C then ['\\', 'f']
  else if n = 0x08 then ['\\', 'b']
  else if 0x20 ≤ n ∧ n < 0x7F then [Char.ofNat n]
  else if n < 0x10000 then unit n
  else unit (0xD800 + (n - 0x10000) / 0x400) ++ unit (0xDC00 + (n - 0x10000) % 0x400)

/-- A text in quotes. -/
def text (t : Text) : List Char := '"' :: (t.flatMap point ++ ['"'])

/-- A whole number. -/
def int (n : Int) : List Char :=
  if n < 0 then '-' :: (Nat.repr n.natAbs).toList else (Nat.repr n.natAbs).toList

mutual

/-- A value in a layout. -/
def value (layout : Layout) : Json → List Char
  | .null => "null".toList
  | .bool b => if b then "true".toList else "false".toList
  | .int n => int n
  | .real x => (x.toText "Infinity" "NaN").toList
  | .text t => text t
  | .array xs => '[' :: (items layout xs ++ [']'])
  | .object ms => '\x7b' :: (members layout ms ++ ['\x7d'])

/-- Elements with commas between them. -/
def items (layout : Layout) : List Json → List Char
  | [] => []
  | [x] => value layout x
  | x :: y :: rest => value layout x ++ layout.comma ++ items layout (y :: rest)

/-- Members with commas between them. -/
def members (layout : Layout) : List (Text × Json) → List Char
  | [] => []
  | [(k, v)] => text k ++ layout.colon ++ value layout v
  | (k, v) :: m :: rest =>
    text k ++ layout.colon ++ value layout v ++ layout.comma ++ members layout (m :: rest)

end

end Writer

/-- The text of a value in a layout. -/
def write (layout : Layout) (v : Json) : String := String.ofList (Writer.value layout v)

end SecondFactor.Json
