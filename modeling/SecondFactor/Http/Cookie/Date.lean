import SecondFactor.Text.Integer
import SecondFactor.Text.Split

/-!
# Dates in cookies

The date on which a cookie ends. One form is prescribed; others are read as far as they can be told
apart. Seconds are counted from the beginning of 1970.
-/

namespace SecondFactor.Http.Cookie

/-- A date with the time of a day. -/
structure Date where
  year : Nat
  month : Nat
  day : Nat
  hour : Nat := 0
  minute : Nat := 0
  second : Nat := 0
  deriving DecidableEq, Repr

namespace Date

/-- The number of days from the beginning of 1970 to the first day of a month. -/
def daysBefore (year month : Nat) : Int :=
  let year := if month ≤ 2 then year - 1 else year
  let month := if month ≤ 2 then month + 9 else month - 3
  (365 * year + year / 4 - year / 100 + year / 400 + (153 * month + 2) / 5 : Nat) - 719468

/-- The seconds of a date, unless one of its parts is out of range. -/
def seconds? (d : Date) : Option Int :=
  if 1970 ≤ d.year && 1 ≤ d.month && d.month ≤ 12 && 1 ≤ d.day && d.day ≤ 31 && d.hour ≤ 24
      && d.minute ≤ 59 && d.second ≤ 61 then
    some (((daysBefore d.year d.month + (d.day - 1 : Nat)) * 24 + d.hour) * 3600
      + (d.minute * 60 + d.second : Nat))
  else none

/-- The year in which a time lies. -/
def yearOf (seconds : Int) : Nat :=
  let begun (i : Nat) : Bool := daysBefore (1970 + i) 1 * 86400 ≤ seconds
  1969 + ((List.range 8030).takeWhile begun).length

/-- The names of the months. -/
def months : List String :=
  ["jan", "feb", "mar", "apr", "may", "jun", "jul", "aug", "sep", "oct", "nov", "dec"]

/-- The month with a name in any case. -/
def month? (name : List Char) : Option Nat :=
  (months.findIdx? (· == String.ofList (name.map Char.toLower))).map (· + 1)

/-! ## Readers of parts -/

/-- A blank inside a date. -/
def isSpace (c : Char) : Bool := c == ' ' || (0x9 ≤ c.toNat && c.toNat ≤ 0xD)

/-- A letter, a digit or an underscore. -/
def isWord (c : Char) : Bool := c.isAlphanum || c == '_'

/-- The members at the front with property `p`, at least one of them, and what follows. -/
def run? (p : Char → Bool) (s : List Char) : Option (List Char × List Char) :=
  if s.head?.any p then some (s.takeWhile p, s.dropWhile p) else none

/-- What follows a text at the front. -/
def after? (expected s : List Char) : Option (List Char) :=
  if expected.isPrefixOf s then some (s.drop expected.length) else none

/-- The number that the first `count` characters write, all of which are digits. -/
def digits? (count : Nat) (s : List Char) : Option (Nat × List Char) :=
  if s.length < count then none
  else (Integer.ofDigits? (s.take count)).map fun n => (n, s.drop count)

/-- The number that a run of one or two digits writes. -/
def shortNumber? (s : List Char) : Option (Nat × List Char) := do
  let (digits, rest) ← run? Integer.isDigit s
  if 2 < digits.length then none
  return ((← Integer.ofDigits? digits), rest)

/-- Passes over what separates the parts of a day. -/
def separator? (s : List Char) : Option (List Char) :=
  match s with
  | c :: rest =>
    if c = '-' ∨ c = '/' then some rest
    else if isSpace c then some (s.dropWhile isSpace)
    else none
  | [] => none

/-! ## The prescribed form -/

/-- A capital letter out of some, and two small letters. -/
def abbreviation? (capitals s : List Char) : Option (List Char × List Char) :=
  match s with
  | a :: b :: c :: rest =>
    if capitals.contains a && b.isLower && c.isLower then some ([a, b, c], rest) else none
  | _ => none

/-- The parts of a date in the prescribed form; the month is still a word. -/
def prescribed? (s : List Char) : Option (List Char × Date) := do
  let (_, s) ← abbreviation? "SMTWF".toList s
  let (day, s) ← digits? 2 (← after? [',', ' '] s)
  let (month, s) ← abbreviation? "JFMASOND".toList (← after? [' '] s)
  let (year, s) ← digits? 4 (← after? [' '] s)
  let (hour, s) ← digits? 2 (← after? [' '] s)
  let (minute, s) ← digits? 2 (← after? [':'] s)
  let (second, s) ← digits? 2 (← after? [':'] s)
  let rest ← after? " GMT".toList s
  if rest.isEmpty ∨ rest = ['\n'] then
    some (month, { year, month := 0, day, hour, minute, second })
  else none

/-! ## Other forms -/

/-- The days of the week. -/
def weekdays : List String := ["sun", "mon", "tue", "wed", "thu", "fri", "sat"]

/-- Passes over a day of the week at the front. -/
def dropWeekday (s : List Char) : List Char :=
  if weekdays.contains (String.ofList ((s.take 3).map Char.toLower)) then
    let s := (s.drop 3).dropWhile Char.isAlpha
    let s := if s.head? = some ',' then s.drop 1 else s
    s.dropWhile isSpace
  else s

/-- The time of a day at the front, which may be missing. -/
def clock (s : List Char) : (Nat × Nat × Nat) × List Char :=
  let begin? : Option (List Char) :=
    if s.head? = some ':' then some (s.drop 1)
    else if s.head?.any isSpace then some (s.dropWhile isSpace)
    else none
  let time? := do
    let (hour, s) ← shortNumber? (← begin?)
    let (minute, s) ← digits? 2 (← after? [':'] s)
    match after? [':'] s >>= digits? 2 with
    | some (second, s) => some ((hour, minute, second), s)
    | none => some ((hour, minute, 0), s)
  time?.getD ((0, 0, 0), s)

/-- The zone at the front, if there is one. -/
def zone? (s : List Char) : Option (List Char × List Char) :=
  let sign := s.takeWhile fun c => c == '+' || c == '-'
  let digits := (s.drop sign.length).takeWhile Integer.isDigit
  let letters := s.takeWhile Char.isAlpha
  let behind := s.drop letters.length
  let isHalf := ["am", "pm"].contains (String.ofList (letters.map Char.toLower))
  if sign.length ≤ 1 && 2 ≤ digits.length then
    some (sign ++ digits.take 4, s.drop (sign ++ digits.take 4).length)
  else if letters.isEmpty || (isHalf && !behind.head?.any isWord) then none
  else some (letters, behind)

/-- Whether nothing is left but blanks and a word in parentheses. -/
def isRemark (s : List Char) : Bool :=
  match s with
  | [] => true
  | '(' :: s =>
    let word := s.takeWhile isWord
    let behind := s.drop word.length
    !word.isEmpty && behind.head? = some ')' && (behind.drop 1).all isSpace
  | _ => false

/-- How many seconds a zone is ahead. -/
def offset? (zone : List Char) : Option Int :=
  let sign := zone.takeWhile fun c => c == '+' || c == '-'
  let digits := zone.drop sign.length
  if ["GMT", "UTC", "UT", "Z"].contains (String.ofList (zone.map Char.toUpper)) then some 0
  else do
    let hours ← Integer.ofDigits? (digits.take (if digits.length = 3 then 1 else 2))
    let minutes := digits.drop (if digits.length = 3 then 1 else 2)
    let minutes ← if minutes.isEmpty then some 0 else Integer.ofDigits? minutes
    return Integer.withSign (sign == ['-']) (hours * 3600 + minutes * 60)

/-- A year of up to three digits is one near the year `this`. -/
def fullYear (this year : Nat) : Nat :=
  if 1000 ≤ year then year
  else
    let near := year + this - this % 100
    if this % 100 + 50 < year then near - 100
    else if year + 50 < this % 100 then near + 100
    else near

/-- The parts of a date in any form: day, month, year, time and zone. -/
def loose? (s : List Char) :
    Option (Nat × List Char × List Char × (Nat × Nat × Nat) × Option (List Char)) := do
  let (day, s) ← shortNumber? (dropWeekday s)
  let (month, s) ← run? isWord (← separator? s)
  let (year, s) ← run? Integer.isDigit (← separator? s)
  let (time, s) := clock s
  let s := s.dropWhile isSpace
  let (zone, s) := match zone? s with
    | some (zone, s) => (some zone, s.dropWhile isSpace)
    | none => (none, s)
  if isRemark s then some (day, month, year, time, zone) else none

/-- The time that a text writes; `some none` where it writes none, and `none` where reading it is
given up. The year `this` is the present one. -/
def read (this : Nat) (s : List Char) : Option (Option Int) :=
  match prescribed? s with
  | some (month, date) => (month? month).map fun m => { date with month := m }.seconds?
  | none =>
    match loose? (s.dropWhile Blank.isBlank) with
    | none => some none
    | some (day, month, year, (hour, minute, second), zone) =>
      if Integer.digitLimit < year.length then none
      else
        some do
          let year ← Integer.ofDigits? year
          if 9999 < year then none
          let month ← month? month <|> (Integer.read? month).map Int.toNat
          if month < 1 || 12 < month then none
          let date : Date := { year := fullYear this year, month, day, hour, minute, second }
          return (← date.seconds?) - (← offset? (zone.getD "UTC".toList))

end Date

end SecondFactor.Http.Cookie
