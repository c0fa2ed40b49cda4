import SecondFactor.Text.Blank
import SecondFactor.Text.DecimalDigit

/-!
# Reading whole numbers

A numeral is a row of decimal digits of any script, with single underscores between them, perhaps
with a sign and with blanks around it. Numerals of more than 4300 digits are refused, since reading
them takes too long.
-/

namespace SecondFactor.Integer

/-- How many digits a numeral may have. -/
def digitLimit : Nat := 4300

/-- The value of a decimal digit of ASCII. -/
def digit? (c : Char) : Option Nat :=
  if '0' ≤ c ∧ c ≤ '9' then some (c.toNat - '0'.toNat) else none

/-- A decimal digit of ASCII. -/
def isDigit (c : Char) : Bool := (digit? c).isSome

/-- The number that ASCII digits write; `none` where there is none or something else among them. -/
def ofDigits? (s : List Char) : Option Nat := do
  if s.isEmpty then none
  return (← s.mapM digit?).foldl (fun n d => 10 * n + d) 0

/-- A sign if there is one, and what follows. -/
def splitSign : List Char → Bool × List Char
  | '-' :: s => (true, s)
  | '+' :: s => (false, s)
  | s => (false, s)

/-- A number with a sign before it. -/
def withSign (negative : Bool) (n : Nat) : Int := if negative then -(n : Int) else n

/-- The text without underscores, unless one stands at an end or next to another. -/
def dropUnderscores? (s : List Char) : Option (List Char) :=
  let pairs := s.zip (s.drop 1)
  if s.head? = some '_' ∨ s.getLast? = some '_' ∨ pairs.contains ('_', '_') then none
  else some (s.filter (· ≠ '_'))

/-- A text without the blanks around it and with the digits of all scripts in ASCII. -/
def plain (s : List Char) : List Char :=
  (Blank.trimBy Blank.isWhiteSpace s).map DecimalDigit.toAscii

/-- The number that a numeral writes. -/
def read? (s : List Char) : Option Int := do
  let (negative, rest) := splitSign (plain s)
  let digits ← dropUnderscores? rest
  if digitLimit < digits.length then none
  return withSign negative (← ofDigits? digits)

end SecondFactor.Integer
