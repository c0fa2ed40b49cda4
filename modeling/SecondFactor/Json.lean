import SecondFactor.Binary64
import SecondFactor.Text.CodePoint

/-!
# JSON values

Whole numbers and numbers with a fraction or an exponent are kept apart. Texts are code points,
since escapes can write a lone surrogate. The members of an object keep their order, and no two of
them share a key.
-/

namespace SecondFactor

/-- A JSON value. -/
inductive Json where
  | null
  | bool (b : Bool)
  | int (n : Int)
  | real (x : Binary64)
  | text (t : Text)
  | array (items : List Json)
  | object (members : List (Text × Json))

/-- The members of an object in order. -/
abbrev Members := List (Text × Json)

namespace Members

/-- The value of a key. -/
def find? (members : Members) (key : Text) : Option Json := members.lookup key

/-- Whether a key is present. -/
def hasKey (members : Members) (key : Text) : Bool := members.any (·.1 == key)

/-- Gives a key its value: in its old place if it has one, else behind all others. -/
def insert (members : Members) (key : Text) (value : Json) : Members :=
  if hasKey members key then members.map fun m => if m.1 == key then (key, value) else m
  else members ++ [(key, value)]

/-- The members with other keys than those listed. -/
def without (members : Members) (keys : List Text) : Members :=
  members.filter fun m => !keys.contains m.1

end Members

namespace Json

instance : Inhabited Json := ⟨.null⟩

instance : Coe String Json := ⟨fun s => .text (Text.ofString s)⟩

/-- An object with members whose keys are given as strings. -/
def record (members : List (String × Json)) : Json :=
  .object (members.map fun m => (Text.ofString m.1, m.2))

end Json

end SecondFactor
