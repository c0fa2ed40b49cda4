import SecondFactor.Binary64.Reader
import SecondFactor.Json

/-!
# Checked fields

Records are read from JSON objects field by field. A field takes values of other types where these
have an obvious meaning, and everything wrong with a record is reported at once, in field order,
each fault with its place.
-/

namespace SecondFactor

namespace Fault

/-- A step from a value into one of its parts. -/
inductive Step where
  | key (name : String)
  | index (i : Nat)
  deriving DecidableEq, Repr

/-- What is wrong with a value. -/
inductive Kind where
  | missing
  | notString
  | notUnicode
  | emptyString
  | notBool
  | unreadableBool
  | notInt
  | unreadableInt
  | fractionalInt
  | oversizedInt
  | notFinite
  | notNumber
  | unreadableNumber
  | notPositive
  | notList
  | notObject
  | notRecord (record : String)
  | unknownMethod
  | noSecondFactor
  deriving DecidableEq, Repr

namespace Kind

/-- The code of a fault. -/
def code : Kind → String
  | missing => "missing"
  | notString => "string_type"
  | notUnicode => "string_unicode"
  | emptyString => "string_too_short"
  | notBool => "bool_type"
  | unreadableBool => "bool_parsing"
  | notInt => "int_type"
  | unreadableInt => "int_parsing"
  | fractionalInt => "int_from_float"
  | oversizedInt => "int_parsing_size"
  | notFinite => "finite_number"
  | notNumber => "float_type"
  | unreadableNumber => "float_parsing"
  | notPositive => "greater_than"
  | notList => "list_type"
  | notObject => "dict_type"
  | notRecord _ => "model_type"
  | unknownMethod => "enum"
  | noSecondFactor => "value_error"

/-- The wording of a fault. -/
def message : Kind → String
  | missing => "Field required"
  | notString => "Input should be a valid string"
  | notUnicode => "Input should be a valid string, unable to parse raw data as a unicode string"
  | emptyString => "String should have at least 1 character"
  | notBool => "Input should be a valid boolean"
  | unreadableBool => "Input should be a valid boolean, unable to interpret input"
  | notInt => "Input should be a valid integer"
  | unreadableInt => "Input should be a valid integer, unable to parse string as an integer"
  | fractionalInt => "Input should be a valid integer, got a number with a fractional part"
  | oversizedInt => "Unable to parse input string as an integer, exceeded maximum size"
  | notFinite => "Input should be a finite number"
  | notNumber => "Input should be a valid number"
  | unreadableNumber => "Input should be a valid number, unable to parse string as a number"
  | notPositive => "Input should be greater than 0"
  | notList => "Input should be a valid list"
  | notObject => "Input should be a valid dictionary"
  | notRecord record => "Input should be a valid dictionary or instance of " ++ record
  | unknownMethod => "Input should be 'webauthn', 'totp' or 'recovery'"
  | noSecondFactor => "Value error, challenge contains no known second factor"

end Kind

end Fault

/-- Something wrong with a value, and where in the value. -/
structure Fault where
  kind : Fault.Kind
  place : List Fault.Step
  deriving DecidableEq, Repr

/-- A value that passed its checks, or all that is wrong with it. -/
abbrev Checked (α : Type) := Except (List Fault) α

namespace Checked

/-- Fails with one fault at the value itself. -/
def fault {α : Type} (kind : Fault.Kind) : Checked α := .error [⟨kind, []⟩]

/-- Both values, or the faults of both. -/
def both {α β : Type} : Checked α → Checked β → Checked (α × β)
  | .ok a, .ok b => .ok (a, b)
  | .ok _, .error fs => .error fs
  | .error es, .ok _ => .error es
  | .error es, .error fs => .error (es ++ fs)

/-- The same outcome, seen from one step outside. -/
def within {α : Type} (step : Fault.Step) : Checked α → Checked α
  | .ok a => .ok a
  | .error fs => .error (fs.map fun f => { f with place := step :: f.place })

/-- All values of a list, or the faults of all its elements. -/
def all {α : Type} : List (Checked α) → Checked (List α)
  | [] => .ok []
  | c :: rest => (both c (all rest)).map fun p => p.1 :: p.2

end Checked

namespace Field

/-- A text, lone surrogates let through. -/
def text : Json → Checked Text
  | .text t => .ok t
  | _ => .fault .notString

/-- A text without lone surrogates. -/
def string : Json → Checked String
  | .text t =>
    match t.toString? with
    | some s => .ok s
    | none => .fault .notUnicode
  | _ => .fault .notString

/-- A text without lone surrogates that is not empty. -/
def nonempty (v : Json) : Checked String :=
  match string v with
  | .ok s => if s.isEmpty then .fault .emptyString else .ok s
  | faults => faults

/-- A value that may be `null`. -/
def nullable {α : Type} (field : Json → Checked α) : Json → Checked (Option α)
  | .null => .ok none
  | v => (field v).map some

/-- A list whose elements are all of one kind. -/
def list {α : Type} (field : Json → Checked α) : Json → Checked (List α)
  | .array xs => .all (xs.mapIdx fun i x => (field x).within (.index i))
  | _ => .fault .notList

/-- An object with any members. -/
def object : Json → Checked Members
  | .object ms => .ok ms
  | _ => .fault .notObject

/-- The least whole number that is too large for 64 bits with a sign. -/
def wordBound : Int := 9223372036854775808

/-- Whether a whole number fits 64 bits with a sign. -/
def fitsWord (n : Int) : Bool := -wordBound ≤ n && n < wordBound

/-- The truth value that a word stands for. -/
def wordBool? (word : String) : Option Bool :=
  if ["0", "off", "f", "false", "n", "no"].contains word then some false
  else if ["1", "on", "t", "true", "y", "yes"].contains word then some true
  else none

/-- The truth value that a number stands for. -/
def numberBool (n : Int) : Checked Bool :=
  if !fitsWord n then .fault .notBool
  else if n = 0 then .ok false
  else if n = 1 then .ok true
  else .fault .unreadableBool

/-- A truth value, also as zero or one or as a word in any case. -/
def bool : Json → Checked Bool
  | .bool b => .ok b
  | .int n => numberBool n
  | .real x =>
    match x.toInt? with
    | some n => numberBool n
    | none => .fault .notBool
  | .text t =>
    match t.toString? with
    | none => .fault .notUnicode
    | some s =>
      match wordBool? (String.ofList (s.toList.map Char.toLower)) with
      | some b => .ok b
      | none => .fault .unreadableBool
  | _ => .fault .notBool

/-- The number that a plain numeral writes: digits without a needless zero, perhaps with a minus
sign. -/
def plainInt? (s : List Char) : Option Int :=
  let digits := if s.head? = some '-' then s.drop 1 else s
  if Integer.digitLimit < s.length then none
  else if digits.head? = some '0' ∧ digits.length ≠ 1 then none
  else (Integer.ofDigits? digits).map (Integer.withSign (s.head? = some '-'))

/-- Whether a text begins with a plain numeral that is too long to be read. -/
def isOversized (s : List Char) : Bool :=
  let sign := if s.head? = some '-' then 1 else 0
  let digits := (s.drop sign).takeWhile Integer.isDigit
  digits.head? ≠ some '0' && Integer.digitLimit < sign + digits.length

/-- Drops the zeros and underscores that follow a zero; `last` is the one read last, which stays
where a point or nothing follows. -/
def dropZerosAfter? (last : Char) : List Char → Option (List Char)
  | [] => some [last]
  | c :: s =>
    if c = '0' ∨ c = '_' then dropZerosAfter? c s
    else if Integer.isDigit c || c = '-' then some (c :: s)
    else if c = '.' then some (last :: c :: s)
    else none

/-- Drops the needless zeros before a number. -/
def dropZeros? : List Char → Option (List Char)
  | [] => none
  | c :: s =>
    if c = '0' then dropZerosAfter? c s
    else if Integer.isDigit c || c = '-' then some (c :: s)
    else none

/-- Drops a point and what follows it, if these are zeros. -/
def dropFraction (s : List Char) : List Char :=
  let part := (s.dropWhile (· ≠ '.')).drop 1
  if !part.isEmpty && part.all (· == '0') then s.takeWhile (· ≠ '.') else s

/-- The plain numeral for one with blanks around it, a sign, needless zeros, single underscores
between its digits or a fraction of zeros. -/
def cleanNumeral? (s : List Char) : Option (List Char) := do
  let s := Blank.trimBy Blank.isWhiteSpace s
  let s := if s.head? = some '+' then s.drop 1 else s
  let sign := if s.head? = some '-' then ['-'] else []
  let rest ← dropZeros? (s.drop sign.length)
  Integer.dropUnderscores? (dropFraction (sign ++ rest))

/-- The whole number that a numeral writes. -/
def numeralInt (s : List Char) : Checked Int :=
  if isOversized s then .fault .oversizedInt
  else
    match plainInt? s <|> (cleanNumeral? s >>= plainInt?) with
    | some n => .ok n
    | none => .fault .unreadableInt

/-- A whole number, also as a truth value, a number without fraction or a numeral. -/
def int : Json → Checked Int
  | .int n => .ok n
  | .bool b => .ok (if b then 1 else 0)
  | .real (.infinite _) => .fault .notFinite
  | .real .nan => .fault .notFinite
  | .real x =>
    match x.toInt? with
    | none => .fault .fractionalInt
    | some n => if -wordBound < n ∧ n < wordBound then .ok n else .fault .oversizedInt
  | .text t =>
    match t.toString? with
    | none => .fault .notUnicode
    | some s => numeralInt s.toList
  | _ => .fault .notInt

/-- A number, also as a truth value or a numeral. -/
def number : Json → Checked Binary64
  | .real x => .ok x
  | .int n =>
    match Binary64.ofInt n with
    | .infinite _ => .fault .notNumber
    | x => .ok x
  | .bool b => .ok (Binary64.ofInt (if b then 1 else 0))
  | .text t =>
    match t.toString? with
    | none => .fault .notUnicode
    | some s =>
      match Binary64.readField? s.toList with
      | some x => .ok x
      | none => .fault .unreadableNumber
  | _ => .fault .notNumber

/-- A number greater than zero. -/
def positive (v : Json) : Checked Binary64 :=
  match number v with
  | .ok x => if x.isPositive then .ok x else .fault .notPositive
  | faults => faults

/-- The members of a record of the given name. -/
def record (name : String) : Json → Checked Members
  | .object ms => .ok ms
  | _ => .fault (.notRecord name)

/-- The first of some keys that a record has, with its value. -/
def pick? (ms : Members) : List String → Option (String × Json)
  | [] => none
  | key :: keys =>
    match ms.find? key with
    | some v => some (key, v)
    | none => pick? ms keys

/-- A field that has to be there, under the first of its keys that is present. -/
def required {α : Type} (ms : Members) (keys : List String) (field : Json → Checked α) :
    Checked α :=
  match pick? ms keys with
  | some (key, v) => (field v).within (.key key)
  | none => .error [⟨.missing, (keys.head?.map .key).toList⟩]

/-- A field with a value for its absence. -/
def optional {α : Type} (ms : Members) (keys : List String) (absent : α)
    (field : Json → Checked α) : Checked α :=
  match pick? ms keys with
  | some (key, v) => (field v).within (.key key)
  | none => .ok absent

/-- The keys under which a record finds its fields: of each field's keys the first one present. -/
def usedKeys (ms : Members) (fields : List (List String)) : List Text :=
  fields.filterMap fun keys => (pick? ms keys).map fun p => Text.ofString p.1

/-- A record that keeps the members no field uses. A key with a lone surrogate among these hides
every other fault. -/
def withExtra {α : Type} (ms : Members) (fields : List (List String)) (checked : Checked α) :
    Checked (α × Members) :=
  let extra := ms.without (usedKeys ms fields)
  if extra.any (fun m => m.1.toString?.isNone) then .fault .notUnicode
  else checked.map fun a => (a, extra)

end Field

end SecondFactor
