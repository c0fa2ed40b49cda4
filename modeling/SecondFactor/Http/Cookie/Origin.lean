import SecondFactor.Http.Url

/-!
# Where cookies come from

What the URL of a request tells about the cookies that its response may set and that belong to it.
-/

namespace SecondFactor.Http.Cookie

/-- Escapes in upper case. -/
def raiseEscapes : List Char → List Char
  | '%' :: a :: b :: s =>
    if (Hex.byte? a b).isSome then '%' :: a.toUpper :: b.toUpper :: raiseEscapes s
    else '%' :: raiseEscapes (a :: b :: s)
  | c :: s => c :: raiseEscapes s
  | [] => []

/-- A character that stays as it is in the path of a cookie. -/
def isPathChar (c : Char) : Bool :=
  c.isAlphanum || "_.-~%/;:@&=+$,!*'()".toList.contains c

/-- A path in the form in which paths are compared. -/
def plainPath (path : List Char) : List Char :=
  raiseEscapes (path.flatMap fun c => if isPathChar c then [c] else Percent.escapeChar c)

/-- What a URL tells about its cookies. -/
structure Origin where
  /-- All before the path in lower case, without a number behind the host. -/
  host : List Char
  path : List Char
  /-- What stands for the number behind the host, unless it is none. -/
  portText : Option (List Char)
  secure : Bool
  deriving DecidableEq, Repr

namespace Origin

/-- A text without a colon and digits at its end. -/
def dropNumber (s : List Char) : List Char :=
  let digits := (s.reverse.takeWhile Integer.isDigit).reverse
  let before := s.take (s.length - digits.length)
  if !digits.isEmpty && before.getLast? = some ':' then before.dropLast else s

/-- The number behind the first colon. Where there is no colon, it is the usual one. -/
def number (authority : List Char) : Option (List Char) :=
  match Split.cut (· == ':') (Percent.decodeLossy authority) with
  | (_, _ :: digits) => if (Integer.read? digits).isSome then some digits else none
  | (_, []) => some ['8', '0']

/-- What a URL tells about its cookies. -/
def ofUrl (u : Url) : Origin where
  host := (dropNumber u.authority.toList).map Char.toLower
  path :=
    let path := plainPath u.path.toList
    if path.head? = some '/' then path else '/' :: path
  portText := number u.authority.toList
  secure := u.scheme == "https"

/-- The number behind the host, the usual one where it is none. -/
def usedPort (o : Origin) : List Char := o.portText.getD ['8', '0']

/-- The host by which cookies are told apart: one without a point is taken for a local one. -/
def name (o : Origin) : List Char :=
  if o.host.contains '.' then o.host else o.host ++ ".local".toList

/-- The path of cookies that name none: that of the directory, for version zero without the slash
at its end. -/
def directory (o : Origin) (version : Option Int) : List Char :=
  let dir := (o.path.reverse.dropWhile (· ≠ '/')).reverse
  let dir := if version = some 0 then dir.dropLast else dir
  if dir.isEmpty then ['/'] else dir

end Origin

end SecondFactor.Http.Cookie
