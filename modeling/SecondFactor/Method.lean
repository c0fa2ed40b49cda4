import SecondFactor.Failure
import SecondFactor.Text.Split

/-!
# Second factor methods

Each text method has one input field with a fixed shape. Input of another shape is never sent, since
every code that is sent counts against the limit of tries.
-/

namespace SecondFactor

/-- A second factor, in the order in which methods are preferred. -/
inductive Method where
  | webauthn
  | totp
  | recovery
  deriving DecidableEq, Repr

namespace Method

/-- All methods, the preferred one first. -/
def all : List Method := [webauthn, totp, recovery]

/-- The word for a method. -/
def word : Method → String
  | webauthn => "webauthn"
  | totp => "totp"
  | recovery => "recovery"

/-- The method that a word stands for. -/
def ofWord? (w : String) : Option Method := all.find? fun m => m.word == w

/-- Whether a method has a text field for its input. -/
def takesText : Method → Bool
  | webauthn => false
  | totp | recovery => true

/-- A decimal digit of ASCII. -/
def isDigit (c : Char) : Bool := '0' ≤ c && c ≤ '9'

/-- A hexadecimal digit in lower case. -/
def isLowerHex (c : Char) : Bool := isDigit c || ('a' ≤ c && c ≤ 'f')

/-- Whether input has the shape of a method: six digits for a time code, and four groups of four
lower case hexadecimal digits with dashes between them for a recovery key. -/
def accepts (method : Method) (input : String) : Bool :=
  match method with
  | webauthn => false
  | totp => input.toList.length == 6 && input.toList.all isDigit
  | recovery =>
    let groups := Split.on '-' input.toList
    groups.length == 4 && groups.all fun g => g.length == 4 && g.all isLowerHex

/-- Whether a text has the shape of a method. A text with a lone surrogate in it has none. -/
def acceptsText (method : Method) (input : Text) : Bool := input.toString?.any method.accepts

/-- The method that a value names, if it does. -/
def named? : Json → Option Method
  | .text t => t.toString?.bind ofWord?
  | _ => none

/-- The method named by a field. -/
def ofJson (v : Json) : Checked Method :=
  match named? v with
  | some m => .ok m
  | none => .fault .unknownMethod

/-- The method that a value names. -/
def ofValue (v : Json) : Except Failure Method :=
  match named? v with
  | some m => .ok m
  | none => .error (.foreign (.notOneOf "TfaMethod" v))

end Method

/-- A second factor proof that was accepted locally. -/
structure Proof where
  method : Method
  payload : String
  deriving DecidableEq, Repr

namespace Proof

/-- The proof as it is sent in place of a password: its payload behind the word for its method. -/
def text (p : Proof) : String := p.method.word ++ ":" ++ p.payload

/-- A proof read from a record. -/
def ofJson (v : Json) : Checked Proof := do
  let ms ← Field.record "NegotiationResult" v
  let fields ← Checked.both (Field.required ms ["method"] Method.ofJson)
    (Field.required ms ["payload"] Field.string)
  return ⟨fields.1, fields.2⟩

end Proof

end SecondFactor
