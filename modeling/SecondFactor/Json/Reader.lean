import SecondFactor.Json
import SecondFactor.Text.Hex

/-!
# Reading JSON

A text is read from left to right, and the first thing wrong with it decides the error. Beyond the
standard, `NaN`, `Infinity` and `-Infinity` are numbers. Of several members with one key the last
one counts. A whole number may have `digitLimit` digits. How deep arrays and objects may be nested
is up to the machine and to whoever reads: it is what is left of the stack.
-/

namespace SecondFactor.Json

/-- Why a text is not read as JSON. -/
inductive ReadError where
  | malformed
  | integerTooLong
  | tooDeep
  deriving DecidableEq, Repr

/-- How many digits a whole number may have. -/
def digitLimit : Nat := 4300

namespace Reader

/-- The four characters that may stand between tokens. -/
def isBlank (p : CodePoint) : Bool :=
  p == .char ' ' || p == .char '\t' || p == .char '\n' || p == .char '\r'

/-- The text after the blanks at its start. -/
def skipBlanks (s : Text) : Text := s.dropWhile isBlank

/-- The value of a decimal digit of ASCII. -/
def digit? : CodePoint → Option Nat
  | .char c => if '0' ≤ c ∧ c ≤ '9' then some (c.toNat - '0'.toNat) else none
  | .surrogate _ => none

/-- The digits at the start of a text, and the text after them. -/
def digits : Text → List Nat × Text
  | [] => ([], [])
  | p :: s =>
    match digit? p with
    | some d => let (ds, rest) := digits s; (d :: ds, rest)
    | none => ([], p :: s)

/-- The number that decimal digits write. -/
def ofDigits (ds : List Nat) : Nat := ds.foldl (fun n d => 10 * n + d) 0

/-- The digits after a point, if a point with at least one digit comes next. -/
def fraction (s : Text) : List Nat × Text :=
  match s with
  | .char '.' :: s' =>
    match digits s' with
    | ([], _) => ([], s)
    | found => found
  | _ => ([], s)

/-- The exponent, if one with at least one digit comes next. -/
def exponent (s : Text) : Option Int × Text :=
  let signed : Option (Bool × Text) := match s with
    | .char c :: .char '-' :: s' => if c = 'e' ∨ c = 'E' then some (true, s') else none
    | .char c :: .char '+' :: s' => if c = 'e' ∨ c = 'E' then some (false, s') else none
    | .char c :: s' => if c = 'e' ∨ c = 'E' then some (false, s') else none
    | _ => none
  match signed with
  | none => (none, s)
  | some (negative, s') =>
    match digits s' with
    | ([], _) => (none, s)
    | (ds, rest) => (some (if negative then -(ofDigits ds : Int) else ofDigits ds), rest)

/-- A number without its sign. -/
def magnitude (negative : Bool) (s : Text) : Except ReadError (Json × Text) :=
  let (whole, s₁) := match s with
    | .char '0' :: s' => ([0], s')
    | _ => digits s
  if whole.isEmpty then .error .malformed
  else
    let (part, s₂) := fraction s₁
    let (power, s₃) := exponent s₂
    if part.isEmpty && power.isNone then
      if whole.length > digitLimit then .error .integerTooLong
      else .ok (.int (if negative then -(ofDigits whole : Int) else ofDigits whole), s₃)
    else
      .ok (.real (.ofDecimal negative (ofDigits (whole ++ part))
        (power.getD 0 - part.length)), s₃)

/-- What is left of a text behind a word that it starts with. -/
def word? (w : String) (s : Text) : Option Text :=
  let t := Text.ofString w
  if t.isPrefixOf s then some (s.drop t.length) else none

/-- A word that stands for a value, or a number. -/
def scalar (s : Text) : Except ReadError (Json × Text) :=
  match word? "null" s, word? "true" s, word? "false" s, word? "NaN" s, word? "Infinity" s,
    word? "-Infinity" s with
  | some r, _, _, _, _, _ => .ok (.null, r)
  | _, some r, _, _, _, _ => .ok (.bool true, r)
  | _, _, some r, _, _, _ => .ok (.bool false, r)
  | _, _, _, some r, _, _ => .ok (.real .nan, r)
  | _, _, _, _, some r, _ => .ok (.real (.infinite false), r)
  | _, _, _, _, _, some r => .ok (.real (.infinite true), r)
  | _, _, _, _, _, _ =>
    match s with
    | .char '-' :: s' => magnitude true s'
    | _ => magnitude false s

/-- The character that a letter behind a backslash stands for. -/
def escaped? : CodePoint → Option Char
  | .char '"' => some '"'
  | .char '\\' => some '\\'
  | .char '/' => some '/'
  | .char 'b' => some '\x08'
  | .char 'f' => some '\x0c'
  | .char 'n' => some '\n'
  | .char 'r' => some '\r'
  | .char 't' => some '\t'
  | _ => none

/-- The code point numbered by four hexadecimal digits. -/
def hexPoint? (a b c d : CodePoint) : Option CodePoint := do
  let high ← Hex.byte? (← a.char?) (← b.char?)
  let low ← Hex.byte? (← c.char?) (← d.char?)
  CodePoint.ofNat? (high.toNat * 0x100 + low.toNat)

/-- The rest of a quoted text. Each code point comes with the fact whether its number was written
out, because only surrogates written so are joined to pairs. -/
def quoted : Text → Except ReadError (List (Bool × CodePoint) × Text)
  | [] => .error .malformed
  | p :: s =>
    if p = .char '"' then .ok ([], s)
    else if p.val < 0x20 then .error .malformed
    else if p = .char '\\' then
      match s with
      | [] => .error .malformed
      | q :: s =>
        match escaped? q with
        | some c => do
          let (ps, rest) ← quoted s
          return ((false, .char c) :: ps, rest)
        | none =>
          if q = .char 'u' then
            match s with
            | a :: b :: c :: d :: s =>
              match hexPoint? a b c d with
              | some p => do
                let (ps, rest) ← quoted s
                return ((true, p) :: ps, rest)
              | none => .error .malformed
            | _ => .error .malformed
          else .error .malformed
    else do
      let (ps, rest) ← quoted s
      return ((false, p) :: ps, rest)

/-- Joins surrogates that were written out one behind the other. -/
def joinWritten : List (Bool × CodePoint) → Text
  | (true, p) :: (true, q) :: rest =>
    match p.paired? q with
    | some r => r :: joinWritten rest
    | none => p :: joinWritten ((true, q) :: rest)
  | (_, p) :: rest => p :: joinWritten rest
  | [] => []

/-- A text whose opening quote has been read. -/
def text (s : Text) : Except ReadError (Text × Text) := do
  let (ps, rest) ← quoted s
  return (joinWritten ps, rest)

/-- The elements of an array, one at least, up to its closing bracket; `most` bounds their count. -/
def items (element : Text → Except ReadError (Json × Text)) :
    (most : Nat) → Text → Except ReadError (List Json × Text)
  | 0, _ => .error .malformed
  | most + 1, s => do
    let (item, s) ← element s
    match skipBlanks s with
    | .char ']' :: s => return ([item], s)
    | .char ',' :: s =>
      let (rest, s) ← items element most (skipBlanks s)
      return (item :: rest, s)
    | _ => .error .malformed

/-- The members of an object, one at least, up to its closing brace, behind those read before. -/
def members (element : Text → Except ReadError (Json × Text)) :
    (most : Nat) → (before : Members) → Text → Except ReadError (Members × Text)
  | most + 1, before, .char '"' :: s => do
    let (key, s) ← text s
    match skipBlanks s with
    | .char ':' :: s =>
      let (value, s) ← element (skipBlanks s)
      let before := before.insert key value
      match skipBlanks s with
      | .char '\x7d' :: s => return (before, s)
      | .char ',' :: s => members element most before (skipBlanks s)
      | _ => .error .malformed
    | _ => .error .malformed
  | _, _, _ => .error .malformed

/-- A value that starts at the first code point, with `depth` levels of nesting left. -/
def value : (depth : Nat) → Text → Except ReadError (Json × Text)
  | _, .char '"' :: s => do
    let (t, s) ← text s
    return (.text t, s)
  | depth, .char '[' :: s =>
    match depth with
    | 0 => .error .tooDeep
    | depth + 1 =>
      match skipBlanks s with
      | .char ']' :: s => .ok (.array [], s)
      | s => do
        let (xs, s) ← items (value depth) (s.length + 1) s
        return (.array xs, s)
  | depth, .char '\x7b' :: s =>
    match depth with
    | 0 => .error .tooDeep
    | depth + 1 =>
      match skipBlanks s with
      | .char '\x7d' :: s => .ok (.object [], s)
      | s => do
        let (ms, s) ← members (value depth) (s.length + 1) [] s
        return (.object ms, s)
  | _, s => scalar s

end Reader

/-- The value that a text writes, for a reader who can follow so many levels of nesting. -/
def read (levels : Nat) (t : Text) : Except ReadError Json := do
  let (v, rest) ← Reader.value levels (Reader.skipBlanks t)
  if (Reader.skipBlanks rest).isEmpty then return v else throw .malformed

end SecondFactor.Json
