/-!
# Code points and text

Texts that come out of JSON escapes may hold one half of a surrogate pair without the other. Such a
text is a list of code points, and it is a `String` exactly when no half stands alone.
-/

namespace SecondFactor

/-- A Unicode code point: a character, or a surrogate that stands alone. -/
inductive CodePoint where
  | char (c : Char)
  /-- The surrogate with code `0xD800 + offset`. -/
  | surrogate (offset : Fin 0x800)
  deriving DecidableEq, Repr

namespace CodePoint

/-- The number of a code point. -/
def val : CodePoint → Nat
  | .char c => c.toNat
  | .surrogate o => 0xD800 + o.val

/-- The code point with number `n`, if there is one. -/
def ofNat? (n : Nat) : Option CodePoint :=
  if h : n.isValidChar then some (.char (Char.ofNatAux n h))
  else if h : 0xD800 ≤ n ∧ n < 0xE000 then some (.surrogate ⟨n - 0xD800, by omega⟩)
  else none

/-- The character, unless the code point is a surrogate. -/
def char? : CodePoint → Option Char
  | .char c => some c
  | .surrogate _ => none

/-- One of the 128 code points of ASCII. -/
def isAscii (p : CodePoint) : Bool := p.val < 128

/-- The offset of a surrogate that may open a pair. -/
def high? : CodePoint → Option Nat
  | .surrogate o => if o.val < 0x400 then some o.val else none
  | .char _ => none

/-- The offset, counted from the first closing surrogate, of one that may close a pair. -/
def low? : CodePoint → Option Nat
  | .surrogate o => if o.val < 0x400 then none else some (o.val - 0x400)
  | .char _ => none

/-- The code point that a pair of surrogates stands for, if the two do form a pair. -/
def paired? (p q : CodePoint) : Option CodePoint := do
  ofNat? (0x10000 + (← p.high?) * 0x400 + (← q.low?))

instance : Coe Char CodePoint := ⟨char⟩

end CodePoint

/-- A text whose code points may be lone surrogates. -/
abbrev Text := List CodePoint

namespace Text

/-- The text of a string. -/
def ofString (s : String) : Text := s.toList.map .char

/-- The string that a text is, if no surrogate stands alone in it. -/
def toString? (t : Text) : Option String := (t.mapM CodePoint.char?).map String.ofList

instance : Coe String Text := ⟨ofString⟩

/-- A text of ASCII alone. -/
def isAscii (t : Text) : Bool := t.all CodePoint.isAscii

end Text

end SecondFactor
