import SecondFactor.Text.Percent
import SecondFactor.Text.Split

/-!
# Form fields

The encoding `application/x-www-form-urlencoded`: names and values joined by `=`, fields joined by
`&`, a blank written as `+`.
-/

namespace SecondFactor.Form

/-- A field: a name and its value. -/
abbrev Field := String × String

/-- The characters that are written as they are. -/
def isPlain (c : Char) : Bool :=
  c.isAlphanum || c == '_' || c == '.' || c == '-' || c == '~'

/-- One character of a name or value. -/
def encodeChar (c : Char) : List Char :=
  if isPlain c then [c] else if c = ' ' then ['+'] else Percent.escapeChar c

/-- A name or value. -/
def encodeText (s : String) : List Char := s.toList.flatMap encodeChar

/-- Fields in order. -/
def encodeFields : List Field → List Char
  | [] => []
  | [f] => encodeText f.1 ++ '=' :: encodeText f.2
  | f :: g :: rest => encodeText f.1 ++ '=' :: (encodeText f.2 ++ '&' :: encodeFields (g :: rest))

/-- The body of a request that carries fields. -/
def encode (fields : List Field) : String := String.ofList (encodeFields fields)

/-- A name or value read back: `+` is a blank, then percent escapes are undone. -/
def decodeText (s : List Char) : Option String :=
  (Percent.decode (s.map fun c => if c = '+' then ' ' else c)).map String.ofList

/-- A field read back; without `=` the value is empty. -/
def decodeField (s : List Char) : Option Field := do
  let name ← decodeText (s.takeWhile (· ≠ '='))
  let value ← decodeText ((s.dropWhile (· ≠ '=')).drop 1)
  return (name, value)

/-- The fields of a body; empty parts between separators are skipped. -/
def decode (body : String) : Option (List Field) :=
  ((Split.on '&' body.toList).filter (!·.isEmpty)).mapM decodeField

end SecondFactor.Form
