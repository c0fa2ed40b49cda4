import SecondFactor.Failure
import SecondFactor.Text.Split

/-!
# Network addresses

Hosts that are numbers instead of names.
-/

namespace SecondFactor.Http.Address

/-- One number of an IPv4 address: up to three digits, no needless zero, at most 255. -/
def isOctet (s : List Char) : Bool :=
  match Integer.ofDigits? s with
  | some n => s.length ≤ 3 && n ≤ 255 && (s.length == 1 || s.head? ≠ some '0')
  | none => false

/-- How many numbers a run of digits may be read as, where single digits stand between them. -/
def numbersIn (run : List Char) : Nat := (run.length + 1) / 2

/-- Whether a text looks like an IPv4 address: four numbers with any character between two of them.
A run of three digits or more may itself be read as several numbers. -/
def isDotted (s : List Char) : Bool :=
  let runs := Split.atEach (!Integer.isDigit ·) s
  runs.length ≤ 4 && runs.all (!·.isEmpty) && 4 ≤ runs.foldl (fun n run => n + numbersIn run) 0

/-- An IPv4 address. -/
def isV4 (s : List Char) : Bool :=
  let parts := Split.on '.' s
  parts.length == 4 && parts.all isOctet

/-- A group of an IPv6 address: up to four hexadecimal digits. -/
def isGroup (s : List Char) : Bool :=
  !s.isEmpty && s.length ≤ 4 && s.all fun c => (Hex.value? c).isSome

/-- The groups that an IPv6 address writes, an IPv4 address at its end counting as two. -/
def groups? (s : List Char) : Option (List (List Char)) :=
  let parts := Split.on ':' s
  let last := parts.getLast?.getD []
  if last.contains '.' then
    if isV4 last then some (parts.dropLast ++ [['0'], ['0']]) else none
  else some parts

/-- An IPv6 address without its zone: eight groups, or fewer of them around one double colon. -/
def isPlainV6 (s : List Char) : Bool :=
  match groups? s with
  | none => false
  | some parts =>
    let inner := (parts.drop 1).dropLast
    let gap := inner.findIdx (·.isEmpty)
    if 3 ≤ parts.length && parts.length ≤ 9 then
      if gap = inner.length then parts.length == 8 && parts.all isGroup
      else
        let before := parts.take (gap + 1)
        let behind := parts.drop (gap + 2)
        let groups (half : List (List Char)) : List (List Char) := if half = [[]] then [] else half
        (groups before ++ groups behind).all isGroup
          && (groups before ++ groups behind).length ≤ 7
    else false

/-- An IPv6 address, perhaps with a zone. -/
def isV6 (s : List Char) : Bool :=
  let address := s.takeWhile (· ≠ '%')
  let zone := (s.dropWhile (· ≠ '%')).drop 1
  isPlainV6 address && (address.length == s.length || (!zone.isEmpty && !zone.contains '%'))

/-- An address of a kind that was left to the future: a version and something behind a point. -/
def isFuture (s : List Char) : Bool :=
  let version := (s.drop 1).takeWhile fun c => (Hex.value? c).isSome
  let rest := (s.drop 1).drop version.length
  s.head? = some 'v' && !version.isEmpty && rest.head? = some '.' && 2 ≤ rest.length

/-- Checks what stands between brackets. -/
def checkBracketed (s : List Char) : Except Foreign Unit :=
  if s.head? = some 'v' then
    if isFuture s then .ok () else .error (.badValue "IPvFuture address is invalid")
  else if isV4 s then .error (.badValue "An IPv4 address cannot be in brackets")
  else if isV6 s then .ok ()
  else
    .error (.badValue
      (Quoted.quote (String.ofList s) ++ " does not appear to be an IPv4 or IPv6 address"))

end SecondFactor.Http.Address
