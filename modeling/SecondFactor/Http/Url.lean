import SecondFactor.Http.HostName
import SecondFactor.Http.Reference
import SecondFactor.Text.CaseMapping
import SecondFactor.Text.Percent

/-!
# URLs

A text is cut into the parts of a URL, and each part is brought into a normal form before a request
is sent to it: the scheme and the host in lower case, a host name in ASCII, no number behind the
host where it is the usual one, no dots to follow in the path, and escapes for what is not safe.
-/

namespace SecondFactor.Http

/-- A URL in normal form. -/
structure Url where
  scheme : String
  userinfo : String
  host : String
  /-- The number behind the host, unless it is the usual one. -/
  portNumber : Option Int
  path : String
  query : Option String
  fragment : Option String
  deriving DecidableEq, Repr

namespace Url

/-! ## Characters -/

/-- A printable character of ASCII other than those listed. -/
def isSafeBut (excluded : List Char) (c : Char) : Bool :=
  0x20 ≤ c.toNat && c.toNat < 0x7F && !excluded.contains c

/-- The characters that stay as they are in a fragment. -/
def fragmentSafe : Char → Bool := isSafeBut [' ', '"', '<', '>', '\x60']

/-- The characters that stay as they are in a query. -/
def querySafe : Char → Bool := isSafeBut [' ', '"', '#', '<', '>']

/-- The characters that stay as they are in a path. -/
def pathSafe : Char → Bool :=
  isSafeBut [' ', '"', '#', '<', '>', '?', '\x60', '\x7b', '\x7d']

/-- The characters that stay as they are in the user information. -/
def userinfoSafe : Char → Bool :=
  isSafeBut [' ', '"', '#', '<', '>', '?', '\x60', '\x7b', '\x7d', '/', ';', '=', '@', '[', '\\',
    ']', '^', '|']

/-- The characters that stay as they are in a host name of ASCII. -/
def hostSafe (c : Char) : Bool :=
  c.isAlphanum || "-._~!$&'()*+,;=\"\x60\x7b\x7d%|\\".toList.contains c

/-- Quotes what is not safe, unless it is an escape. -/
def quote (safe : Char → Bool) (s : List Char) : String := String.ofList (Percent.quote safe s)

/-! ## Parts -/

/-- The parts of a URL as they are written. -/
structure Parts where
  scheme : List Char := []
  authority : List Char := []
  path : List Char := []
  query : Option (List Char) := none
  fragment : Option (List Char) := none
  deriving DecidableEq, Repr

/-- Cuts a text into its parts. -/
def split (s : List Char) : Parts :=
  let (name, behind) := Split.cut (· == ':') s
  let (scheme, s) :=
    if behind.isEmpty then ([], s)
    else if name.isEmpty then ([], behind.drop 1)
    else if name.head?.any Char.isAlpha && name.all Reference.isSchemeChar then
      (name, behind.drop 1)
    else ([], s)
  let (authority, s) := match s with
    | '/' :: '/' :: rest => Split.cut (fun c => c == '/' || c == '?' || c == '#') rest
    | _ => ([], s)
  let (s, fragment) := Split.cut (· == '#') s
  let (path, query) := Split.cut (· == '?') s
  let content (part : List Char) : Option (List Char) :=
    if part.isEmpty then none else some (part.drop 1)
  { scheme, authority, path, query := content query, fragment := content fragment }

/-- The user information, the host and what stands behind the host in an authority. -/
def splitAuthority (s : List Char) : List Char × List Char × List Char :=
  let hostPort := (s.reverse.takeWhile (· ≠ '@')).reverse
  let userinfo := (s.take (s.length - hostPort.length)).dropLast
  let bracketed :=
    if hostPort.head? = some '[' then (hostPort.reverse.dropWhile (· ≠ ']')).reverse else []
  let host := if bracketed.isEmpty then (Split.cut (· == ':') hostPort).1 else bracketed
  let behind := hostPort.drop host.length
  (userinfo, host, if behind.head? = some ':' then behind.drop 1 else behind)

/-- How long a URL and each of its parts may be. -/
def maxLength : Nat := 65536

/-- The message for a text that holds a control character of ASCII; `what` names the text. -/
def controlMessage? (what : String) (s : List Char) : Option String :=
  (s.findIdx? fun c => c.toNat < 0x20 || c.toNat == 0x7F).map fun i =>
    "Invalid non-printable ASCII character in URL" ++ what ++ ", "
      ++ Quoted.quote (String.ofList ((s.drop i).take 1)) ++ " at position " ++ toString i ++ "."

/-- Checks a part that takes its place in a URL. -/
def checkPart (name : String) (s : List Char) : Except Foreign Unit :=
  if maxLength < s.length then .error (.invalidUrl ("URL component '" ++ name ++ "' too long"))
  else
    match controlMessage? (" " ++ name ++ " component") s with
    | some message => .error (.invalidUrl message)
    | none => .ok ()

/-! ## Normal form -/

/-- The number that usually stands behind the host in a scheme. -/
def usualPortNumber? (scheme : String) : Option Int :=
  [("ftp", 21), ("http", 80), ("https", 443), ("ws", 80), ("wss", 443)].lookup scheme

/-- The number behind a host, unless none is given or it is the usual one of the scheme, which is
looked up as it is written. -/
def readPortNumber (scheme : String) (digits : List Char) : Except Foreign (Option Int) :=
  if digits.isEmpty then .ok none
  else
    match Integer.read? digits with
    | some n => .ok (if usualPortNumber? scheme = some n then none else some n)
    | none => .error (.invalidUrl ("Invalid port: " ++ Quoted.quote (String.ofList digits)))

/-- A host name in lower case and in ASCII, or an address. -/
def readHost (s : List Char) : Except Foreign String :=
  let refused (what : String) : Except Foreign String :=
    .error (.invalidUrl ("Invalid " ++ what ++ ": " ++ Quoted.quote (String.ofList s)))
  if s.isEmpty then .ok ""
  else if Address.isDotted s then
    if Address.isV4 s then .ok (String.ofList s) else refused "IPv4 address"
  else if s.head? = some '[' && s.getLast? = some ']' then
    let inner := (s.drop 1).dropLast
    if Address.isV6 inner then .ok (String.ofList inner) else refused "IPv6 address"
  else if s.all (·.toNat < 0x80) then .ok (quote hostSafe (s.map Char.toLower))
  else
    match HostName.encode (CaseMapping.lower s) with
    | .ok name => .ok (String.ofList name)
    | .error _ => refused "IDNA hostname"

/-- A path with its dots followed, which never leave the root. -/
def plainPath (path : List Char) : List Char :=
  let parts := Reference.segments path
  if parts.contains ['.'] || parts.contains ['.', '.'] then
    Reference.joinSegments (parts.foldl (fun done s =>
      if s = ['.'] then done
      else if s = ['.', '.'] then (if done = [[]] then done else done.dropLast)
      else done ++ [s]) [])
  else path

/-- Checks a path beside the other parts of its URL. -/
def checkPath (hasScheme hasAuthority : Bool) (path : List Char) : Except Foreign Unit :=
  if hasAuthority && !path.isEmpty && path.head? ≠ some '/' then
    .error (.invalidUrl "For absolute URLs, path must be empty or begin with '/'")
  else if !hasScheme && !hasAuthority && path.take 2 = ['/', '/'] then
    .error (.invalidUrl "Relative URLs cannot have a path starting with '//'")
  else if !hasScheme && !hasAuthority && path.head? = some ':' then
    .error (.invalidUrl "Relative URLs cannot have a path starting with ':'")
  else .ok ()

/-- The URL with given parts. A host, if one is given, takes the place of that in the authority. -/
def ofParts (p : Parts) (host : Option (List Char) := none) : Except Foreign Url := do
  let (userinfo, ownHost, digits) := splitAuthority p.authority
  let host ← readHost (host.getD ownHost)
  let portNumber ← readPortNumber (String.ofList p.scheme) digits
  let hasScheme := !p.scheme.isEmpty
  let hasAuthority := !userinfo.isEmpty || !host.isEmpty || portNumber.isSome
  checkPath hasScheme hasAuthority p.path
  return {
    host, portNumber
    scheme := String.ofList (p.scheme.map Char.toLower)
    userinfo := quote userinfoSafe userinfo
    path := quote pathSafe (if hasScheme || hasAuthority then plainPath p.path else p.path)
    query := p.query.map (quote querySafe)
    fragment := p.fragment.map (quote fragmentSafe) }

/-- The URL that a text writes. -/
def parse (s : List Char) : Except Foreign Url := do
  if maxLength < s.length then throw (.invalidUrl "URL too long")
  match controlMessage? "" s with
  | some message => throw (.invalidUrl message)
  | none => ofParts (split s)

/-! ## Text -/

/-- The host, an address of the newer kind in brackets, with the number behind it. -/
def address (u : Url) : String :=
  (if u.host.toList.contains ':' then "[" ++ u.host ++ "]" else u.host)
    ++ match u.portNumber with
      | some n => ":" ++ toString n
      | none => ""

/-- All that stands before the path and behind the scheme. -/
def authority (u : Url) : String :=
  (if u.userinfo.isEmpty then "" else u.userinfo ++ "@") ++ u.address

/-- The text of a URL. -/
def text (u : Url) : String :=
  (if u.scheme.isEmpty then "" else u.scheme ++ ":")
    ++ (if u.authority.isEmpty then "" else "//" ++ u.authority) ++ u.path
    ++ (u.query.map ("?" ++ ·)).getD "" ++ (u.fragment.map ("#" ++ ·)).getD ""

/-! ## Changes -/

/-- The parts of a URL in normal form. -/
def parts (u : Url) : Parts where
  scheme := u.scheme.toList
  authority := u.authority.toList
  path := u.path.toList
  query := u.query.map String.toList
  fragment := u.fragment.map String.toList

/-- The URL with parts that took the place of others, brought into normal form once more. -/
def renew (p : Parts) (host : Option (List Char) := none) : Except Foreign Url := do
  checkPart "scheme" p.scheme
  checkPart "authority" p.authority
  checkPart "path" p.path
  checkPart "query" (p.query.getD [])
  checkPart "fragment" (p.fragment.getD [])
  checkPart "host" (host.getD [])
  ofParts p host

/-- Whether a URL does not say where it leads. -/
def isRelative (u : Url) : Bool := u.scheme.isEmpty || u.host.isEmpty

/-- What is left of a relative URL: its path below the root, and its query. -/
def belowRoot (u : Url) : Except Foreign Url :=
  renew { path := '/' :: u.path.toList.dropWhile (· == '/'), query := u.query.map String.toList }

/-- The URL with another query. -/
def withQuery (u : Url) (query : Option String) : Except Foreign Url :=
  renew { u.parts with query := query.map String.toList }

/-- The URL with another fragment. -/
def withFragment (u : Url) (fragment : List Char) : Except Foreign Url :=
  renew { u.parts with fragment := some fragment }

/-- The host in international letters, or the address, in brackets if it is of the newer kind. -/
def readableHost (u : Url) : Except Foreign (List Char) :=
  let host := u.host.toList
  if Label.marker.isPrefixOf host then (HostName.decode host).mapError .badHost
  else if host.contains ':' then .ok ('[' :: (host ++ [']']))
  else .ok host

/-- Whether a URL can be written in ASCII. -/
def isAscii (u : Url) : Bool := u.host.toList.all (·.toNat < 0x80)

end Url

end SecondFactor.Http
