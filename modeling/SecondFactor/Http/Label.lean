import SecondFactor.Failure
import SecondFactor.Http.Label.Direction
import SecondFactor.Http.Label.Joining
import SecondFactor.Http.Label.Permitted
import SecondFactor.Http.Punycode
import SecondFactor.Text.Composition

/-!
# Labels of host names

The parts of a host name between its points. A label in international letters is checked character
by character before it is written in ASCII, and again after it was read from there: some characters
may only stand beside certain others, and the directions of writing may not mix.
-/

namespace SecondFactor.Http.Label

/-! ## Characters that ask for a context -/

/-- Whether a letter that joins on one side comes next, after letters that do not take part. -/
def meetsJoining (oneSided : List (Nat × Nat)) (s : List Nat) : Bool :=
  match s.dropWhile (Ranges.contain transparent) with
  | n :: _ => Ranges.contain joinsBoth n || Ranges.contain oneSided n
  | [] => false

/-- Whether a character is a sign that joins consonants. -/
def isVirama (n : Nat) : Bool := Composition.classOf n == 9

/-- Whether a joiner may stand where it does: behind such a sign, or, if it keeps letters apart,
between letters that would join. What precedes it is `before`, the last character first. -/
def joinerFits (n : Nat) (before after : List Nat) : Bool :=
  before.head?.any isVirama
    || (n == 0x200C && meetsJoining joinsLeft before && meetsJoining joinsRight after)

/-- Whether a character may stand where it does; `none` if it is not one that asks for a context. -/
def fitsContext? (n : Nat) (before after : List Nat) : Option Bool :=
  let beside (script : List (Nat × Nat)) (s : List Nat) : Bool :=
    match s with
    | m :: _ => Ranges.contain script m
    | [] => false
  let label := before ++ n :: after
  if n = 0xB7 then some (before.head? = some 0x6C && after.head? = some 0x6C)
  else if n = 0x375 then some (beside greek after)
  else if n = 0x5F3 || n = 0x5F4 then some (beside hebrew before)
  else if n = 0x30FB then some (label.any (Ranges.contain japanese))
  else if 0x660 ≤ n && n ≤ 0x669 then some (!label.any fun m => 0x6F0 ≤ m && m ≤ 0x6F9)
  else if 0x6F0 ≤ n && n ≤ 0x6F9 then some (!label.any fun m => 0x660 ≤ m && m ≤ 0x669)
  else none

/-- Checks the characters of a label one after the other. -/
def checkCharacters (before : List Nat) : List Nat → Except HostFault Unit
  | [] => .ok ()
  | n :: after => do
    if !Ranges.contain permitted n then
      if n = 0x200C || n = 0x200D then
        if !joinerFits n before after then throw .malformed
      else
        match fitsContext? n before after with
        | some true => pure ()
        | some false => throw .misplacedCharacter
        | none => throw .forbiddenCharacter
    checkCharacters (n :: before) after

/-! ## Whole labels -/

/-- Whether the directions in a label go together: one that holds a letter written from right to
left begins with such a letter, holds none of the other direction and numbers of one kind at most,
and ends with a letter or a number. -/
def directionsFit (directions : List Direction) : Bool :=
  let isRight (d : Direction) : Bool := d = .rightToLeft || d = .arabic
  let ending := (directions.reverse.dropWhile (· = .mark)).head?.getD .unknown
  !directions.contains .unknown
    && (!directions.any (fun d => isRight d || d = .arabicNumber)
      || (isRight (directions.head?.getD .unknown) && !directions.contains .leftToRight
        && !(directions.contains .number && directions.contains .arabicNumber)
        && (isRight ending || ending = .number || ending = .arabicNumber)))

/-- Whether a label has the shape of one: it is in composed form, hyphens stand inside it and not in
its third and fourth place, and it does not begin with a mark. -/
def isShaped (label : List Nat) : Bool :=
  !label.isEmpty && label.length ≤ 254 && Composition.isComposed label
    && (label.drop 2).take 2 ≠ [0x2D, 0x2D] && label.head? ≠ some 0x2D && label.getLast? ≠ some 0x2D
    && !label.head?.any (Ranges.contain marks)

/-- Checks a label in international letters. -/
def check (label : List Nat) : Except HostFault Unit := do
  if !isShaped label then throw .malformed
  checkCharacters [] label
  if !directionsFit (label.map Direction.ofPoint) then throw .mixedDirections

/-- What a label in ASCII begins with that stands for one in other letters. -/
def marker : List Char := ['x', 'n', '-', '-']

/-- How long a label in ASCII may be. -/
def maxLength : Nat := 63

/-- The label in international letters that a label in ASCII stands for. -/
def decode (label : List Char) : Except HostFault (List Nat) := do
  let label := label.map Char.toLower
  if marker.isPrefixOf label then
    let rest := label.drop marker.length
    if rest.isEmpty || rest.getLast? = some '-' then throw .malformed
    match Punycode.decode rest with
    | none => throw .malformed
    | some points =>
      check points
      return points
  else
    let points := label.map Char.toNat
    check points
    return points

/-- A label in ASCII. One that is in ASCII already stays as it is. -/
def encode (label : List Char) : Except HostFault (List Char) := do
  let ascii ←
    if label.all (·.toNat < 0x80) then do
      let _ ← decode label
      pure label
    else do
      check (label.map Char.toNat)
      pure (marker ++ Punycode.encode (label.map Char.toNat))
  if maxLength < ascii.length then throw .malformed
  return ascii

end SecondFactor.Http.Label
