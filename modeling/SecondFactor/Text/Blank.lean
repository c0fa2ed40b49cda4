/-!
# Blanks

Two notions of a blank are in use. Numbers inside checked fields are trimmed of `White_Space`
characters. Typed answers and environment values are trimmed of those and of the four ASCII
separator controls.
-/

namespace SecondFactor.Blank

/-- The characters with the property `White_Space`. -/
def isWhiteSpace (c : Char) : Bool :=
  let n := c.toNat
  (0x9 ≤ n && n ≤ 0xD) || n == 0x20 || n == 0x85 || n == 0xA0 || n == 0x1680
    || (0x2000 ≤ n && n ≤ 0x200A) || n == 0x2028 || n == 0x2029 || n == 0x202F || n == 0x205F
    || n == 0x3000

/-- The blanks around a typed answer. -/
def isBlank (c : Char) : Bool :=
  isWhiteSpace c || (0x1C ≤ c.toNat && c.toNat ≤ 0x1F)

/-- A list without the members at both ends for which `p` holds. -/
def trimBy {α : Type} (p : α → Bool) (s : List α) : List α :=
  ((s.dropWhile p).reverse.dropWhile p).reverse

/-- A text without the blanks around it. -/
def strip (s : String) : String := String.ofList (trimBy isBlank s.toList)

end SecondFactor.Blank
