import SecondFactor.Http.Cookie.Date

/-!
# Headers that set cookies

A header of the usual kind sets one cookie: a name and a value, and attributes behind semicolons. A
header of the second kind may set several, separated by commas, and may quote values.
-/

namespace SecondFactor.Http.Cookie

/-- What an attribute of a cookie is given. -/
inductive Mention where
  | bare
  | text (s : String)
  | time (seconds : Int)
  deriving DecidableEq, Repr

/-- What a header says about one cookie. -/
structure Statement where
  name : String
  value : Option String
  attributes : List (String × Mention)
  deriving DecidableEq, Repr

namespace Statement

/-- A part of a header without the blanks around it. -/
def trim (s : List Char) : List Char := Blank.trimBy Blank.isBlank s

/-- A text without a double quote at either end. -/
def dropQuotes (s : List Char) : List Char :=
  let s := if s.head? = some '"' then s.drop 1 else s
  if s.getLast? = some '"' then s.dropLast else s

/-! ## The usual kind -/

/-- A name and what stands behind the first equals sign, if there is one. -/
def readPair (part : List Char) : String × Option (List Char) :=
  let (name, behind) := Split.cut (· == '=') part
  (String.ofList (trim name), if behind.isEmpty then none else some (trim (behind.drop 1)))

/-- The attributes whose names are known in any case. -/
def knownAttributes : List String :=
  ["expires", "domain", "path", "secure", "version", "port", "max-age"]

/-- An attribute; `none` if its date makes reading fail. The year `this` is the present one. -/
def readAttribute (this : Nat) (pair : String × Option (List Char)) : Option (String × Mention) :=
  let lower := String.ofList (pair.1.toList.map Char.toLower)
  let name := if knownAttributes.contains lower then lower else pair.1
  match pair.2 with
  | none => some (name, .bare)
  | some value =>
    if name = "version" then some (name, .text (String.ofList (dropQuotes value)))
    else if name = "expires" then
      (Date.read this (dropQuotes value)).map fun
        | some seconds => (name, .time seconds)
        | none => (name, .bare)
    else some (name, .text (String.ofList value))

/-- The cookie that a header sets, if it sets one; `none` if reading it fails. A cookie that tells no
version has version zero. -/
def read (this : Nat) (header : String) : Option (Option Statement) :=
  match (Split.on ';' header.toList).map readPair with
  | (name, value) :: rest =>
    if name.isEmpty then some none
    else do
      let attributes ← (rest.filter (!·.1.isEmpty)).mapM (readAttribute this)
      let told := attributes.any (·.1 == "version")
      let attributes := if told then attributes else attributes ++ [("version", .text "0")]
      return some { name, value := value.map String.ofList, attributes }
  | [] => some none

/-- The cookies that headers set; `none` if reading one of them fails. -/
def readAll (this : Nat) (headers : List String) : Option (List Statement) :=
  (headers.mapM (read this)).map (·.filterMap id)

/-! ## The second kind -/

/-- A character that ends a word. -/
def endsWord (c : Char) : Bool := c == '=' || c == ';' || c == ',' || Blank.isBlank c

/-- The text between double quotes at the front, of which one has just been passed, and what
follows. A character behind a backslash stands for itself. -/
def readQuoted : List Char → Option (List Char × List Char)
  | [] => none
  | '"' :: s => some ([], s)
  | '\\' :: c :: s =>
    if c = '\n' then none else (readQuoted s).map fun p => (c :: p.1, p.2)
  | c :: s => if c = '\\' then none else (readQuoted s).map fun p => (c :: p.1, p.2)

/-- The value behind an equals sign at the front, if there is one. -/
def readValue (s : List Char) : Option (List Char) × List Char :=
  match s.dropWhile Blank.isBlank with
  | '=' :: behind =>
    let behind := behind.dropWhile Blank.isBlank
    let plain (c : Char) : Bool := !(c == ';' || c == ',' || Blank.isBlank c)
    let quoted := if behind.head? = some '"' then readQuoted (behind.drop 1) else none
    match quoted with
    | some (value, rest) => (some value, rest)
    | none => (some (behind.takeWhile plain), behind.dropWhile plain)
  | _ => (none, s)

/-- The pairs in a header, in groups between commas. `most` bounds the number of steps. -/
def readGroups : (most : Nat) → (group : List (String × Option String)) → List Char →
    List (List (String × Option String))
  | 0, group, _ => [group]
  | most + 1, group, s =>
    if s.isEmpty then [group]
    else
      let inner := s.dropWhile Blank.isBlank
      let (word, behind) := Split.cut endsWord inner
      if !word.isEmpty then
        let (value, rest) := readValue behind
        readGroups most (group ++ [(String.ofList word, value.map String.ofList)]) rest
      else if inner.head? = some ',' then group :: readGroups most [] (inner.drop 1)
      else readGroups most group (s.dropWhile fun c => c == '=' || c == ';' || Blank.isBlank c)

/-- The cookies that headers of the second kind set. -/
def readAllSecond (headers : List String) : List Statement :=
  headers.flatMap fun header =>
    let s := header.toList
    (readGroups (2 * s.length + 1) [] s).filterMap fun
      | [] => none
      | (name, value) :: rest =>
        some { name, value, attributes := rest.map fun p =>
          (p.1, match p.2 with
            | some v => .text v
            | none => .bare) }

end Statement

end SecondFactor.Http.Cookie
