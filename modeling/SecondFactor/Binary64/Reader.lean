import SecondFactor.Binary64
import SecondFactor.Text.Integer

/-!
# Reading doubles

A numeral has an optional sign, digits with at most one point among them and at least one digit, and
an optional exponent. Infinity and what is no number are written as words, in any case.
-/

namespace SecondFactor.Binary64

/-- What a numeral writes without its sign. -/
def readMagnitude (negative : Bool) (s : List Char) : Option Binary64 := do
  let isMark (c : Char) : Bool := c == 'e' || c == 'E'
  let significand := s.takeWhile (!isMark ·)
  let exponent ←
    match s.dropWhile (!isMark ·) with
    | [] => some 0
    | _ :: e =>
      let (minus, ds) := Integer.splitSign e
      (Integer.ofDigits? ds).map (Integer.withSign minus)
  let whole := significand.takeWhile (· ≠ '.')
  let part := (significand.dropWhile (· ≠ '.')).drop 1
  let digits ← Integer.ofDigits? (whole ++ part)
  return ofDecimal negative digits (exponent - part.length)

/-- The number that a numeral or a word writes. -/
def read? (s : List Char) : Option Binary64 :=
  let (negative, rest) := Integer.splitSign s
  let word := String.ofList (rest.map Char.toLower)
  if word = "inf" ∨ word = "infinity" then some (.infinite negative)
  else if word = "nan" then some .nan
  else readMagnitude negative rest

/-- Whether every underscore stands between two ASCII digits. -/
def underscoresBetweenDigits : List Char → Bool
  | a :: '_' :: b :: s =>
    Integer.isDigit a && Integer.isDigit b && underscoresBetweenDigits (b :: s)
  | a :: s => a ≠ '_' && underscoresBetweenDigits s
  | [] => true

/-- A numeral of an environment variable: digits of any script, underscores between digits, blanks
around it. -/
def readLoose? (s : List Char) : Option Binary64 :=
  let ascii := Integer.plain s
  if underscoresBetweenDigits ascii then read? (ascii.filter (· ≠ '_')) else none

/-- A numeral of a checked field: ASCII digits with blanks around them, or with single underscores
among them. -/
def readField? (s : List Char) : Option Binary64 :=
  read? (Blank.trimBy Blank.isWhiteSpace s) <|> (Integer.dropUnderscores? s >>= read?)

end SecondFactor.Binary64
