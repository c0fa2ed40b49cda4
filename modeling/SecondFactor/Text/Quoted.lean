import SecondFactor.Text.Hex
import SecondFactor.Text.Printable

/-!
# Quoted texts in messages

A message quotes a text between single quotes, or between double quotes when the text holds a single
quote and no double one. Backslashes, the quote itself and what does not print are escaped.
-/

namespace SecondFactor.Quoted

/-- The last `count` hexadecimal digits of a number. -/
def hexDigits : (count : Nat) → Nat → List Char
  | 0, _ => []
  | count + 1, n => hexDigits count (n / 16) ++ [Hex.lower (n % 16)]

/-- The escape that names a code point by its number. -/
def numbered (n : Nat) : List Char :=
  if n < 0x100 then '\\' :: 'x' :: hexDigits 2 n
  else if n < 0x10000 then '\\' :: 'u' :: hexDigits 4 n
  else '\\' :: 'U' :: hexDigits 8 n

/-- A code point inside quotes. -/
def escape (quote : Char) (p : CodePoint) : List Char :=
  match p with
  | .surrogate _ => numbered p.val
  | .char c =>
    if c = quote ∨ c = '\\' then ['\\', c]
    else if c = '\t' then ['\\', 't']
    else if c = '\n' then ['\\', 'n']
    else if c = '\r' then ['\\', 'r']
    else if Printable.isPrintable p then [c]
    else numbered p.val

/-- A text with quotes around it. -/
def quoteText (t : Text) : String :=
  let mark := if t.contains (.char '\'') && !t.contains (.char '"') then '"' else '\''
  String.ofList (mark :: (t.flatMap (escape mark) ++ [mark]))

/-- A string with quotes around it. -/
def quote (s : String) : String := quoteText (Text.ofString s)

end SecondFactor.Quoted
