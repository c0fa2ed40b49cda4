import SecondFactor.Http.Address

/-!
# References

A reference is cut into parts, and resolved against a base URL as a link on a page is. What stands
in brackets in an authority has to be an address, and no character of an authority may be equivalent
to one that separates the parts of a URL.
-/

namespace SecondFactor.Http

/-- A reference cut into its parts. The text of a part is kept as it is. -/
structure Reference where
  scheme : List Char := []
  authority : List Char := []
  path : List Char := []
  params : List Char := []
  query : List Char := []
  fragment : List Char := []
  deriving DecidableEq, Repr

namespace Reference

/-- Schemes whose URLs have a path that references are resolved against. -/
def hierarchical : List String :=
  ["", "ftp", "http", "gopher", "nntp", "imap", "wais", "file", "https", "shttp", "mms",
    "prospero", "rtsp", "rtsps", "rtspu", "sftp", "svn", "svn+ssh", "ws", "wss"]

/-- Schemes whose URLs have parameters behind the last segment of their path. -/
def parametric : List String :=
  ["", "ftp", "hdl", "prospero", "http", "imap", "https", "shttp", "rtsp", "rtsps", "rtspu", "sip",
    "sips", "mms", "sftp", "tel"]

/-- A character that may stand in a scheme behind its first letter. -/
def isSchemeChar (c : Char) : Bool := c.isAlphanum || c == '+' || c == '-' || c == '.'

/-- Takes the scheme off the front, if there is one. -/
def splitScheme (s : List Char) : Option (List Char) × List Char :=
  match Split.cut (· == ':') s with
  | (c :: name, _ :: rest) =>
    if c.isAlpha && name.all isSchemeChar then (some ((c :: name).map Char.toLower), rest)
    else (none, s)
  | _ => (none, s)

/-- Takes the parameters off the last segment of a path. -/
def splitParams (path : List Char) : List Char × List Char :=
  let last := (path.reverse.takeWhile (· ≠ '/')).reverse
  let before := path.take (path.length - last.length)
  let (name, params) := Split.cut (· == ';') last
  (before ++ name, params.drop 1)

/-- Checks an authority that holds brackets: they may only stand around the whole host. -/
def checkBrackets (authority : List Char) : Except Foreign Unit :=
  let host := (authority.reverse.takeWhile (· ≠ '@')).reverse
  match Split.cut (· == '[') host with
  | (before, _ :: bracketed) =>
    let (inner, behind) := Split.cut (· == ']') bracketed
    let behind := behind.drop 1
    if !before.isEmpty || (!behind.isEmpty && behind.head? ≠ some ':') then
      .error (.badValue "Invalid IPv6 URL")
    else Address.checkBracketed inner
  | (before, []) => Address.checkBracketed (Split.cut (· == ':') before).1

/-- The characters whose compatible form holds a separator: a slash, a question mark, a number sign,
an at sign or a colon. -/
def disguised : List Nat :=
  [0x2047, 0x2048, 0x2049, 0x2100, 0x2101, 0x2105, 0x2106, 0x2A74, 0xFE13, 0xFE16, 0xFE55, 0xFE56,
    0xFE5F, 0xFE6B, 0xFF03, 0xFF0F, 0xFF1A, 0xFF1F, 0xFF20]

/-- Checks an authority. -/
def checkAuthority (authority : List Char) : Except Foreign Unit :=
  if authority.contains '[' != authority.contains ']' then .error (.badValue "Invalid IPv6 URL")
  else do
    if authority.contains '[' then checkBrackets authority
    if authority.any fun c => disguised.contains c.toNat then
      throw (.badValue ("netloc '" ++ String.ofList authority
        ++ "' contains invalid characters under NFKC normalization"))

/-- Cuts a reference into its parts; `scheme` is that of a reference without one. -/
def parse (scheme : List Char) (s : List Char) : Except Foreign Reference := do
  let s := (s.dropWhile (fun c => c.toNat ≤ 0x20)).filter fun c => !(['\t', '\r', '\n'].contains c)
  let (own, s) := splitScheme s
  let scheme := own.getD scheme
  let (authority, s) := match s with
    | '/' :: '/' :: rest => Split.cut (fun c => c == '/' || c == '?' || c == '#') rest
    | _ => ([], s)
  checkAuthority authority
  let (s, fragment) := Split.cut (· == '#') s
  let (path, query) := Split.cut (· == '?') s
  let (path, params) :=
    if parametric.contains (String.ofList scheme) then splitParams path else (path, [])
  return { scheme, authority, path, params, query := query.drop 1, fragment := fragment.drop 1 }

/-- Puts the parts together again; empty parts leave no mark. A scheme whose paths are resolved is
followed by an authority, be it an empty one, unless the path begins with two slashes. -/
def text (r : Reference) : List Char :=
  let path := if r.params.isEmpty then r.path else r.path ++ ';' :: r.params
  let opens := !r.scheme.isEmpty && hierarchical.contains (String.ofList r.scheme)
    && path.take 2 ≠ ['/', '/']
  let inner :=
    if !r.authority.isEmpty || opens then
      '/' :: '/' :: (r.authority
        ++ if path.isEmpty || path.head? = some '/' then path else '/' :: path)
    else path
  let whole := if r.scheme.isEmpty then inner else r.scheme ++ ':' :: inner
  let whole := if r.query.isEmpty then whole else whole ++ '?' :: r.query
  if r.fragment.isEmpty then whole else whole ++ '#' :: r.fragment

/-- The segments of a path, those before the slashes and the one after the last. -/
def segments (path : List Char) : List (List Char) := Split.on '/' path

/-- Segments joined by slashes. -/
def joinSegments (segments : List (List Char)) : List Char := Split.join '/' segments

/-- Follows the dots among segments: one dot stays, two go back a segment if there is one. -/
def followDots (segments : List (List Char)) : List (List Char) :=
  segments.foldl (fun done s =>
    if s = ['.', '.'] then done.dropLast
    else if s = ['.'] then done
    else done ++ [s]) []

/-- The segments without empty ones in the middle. -/
def dropEmptyInner : List (List Char) → List (List Char)
  | [] => []
  | first :: rest =>
    first :: (rest.dropLast.filter (!·.isEmpty) ++ rest.getLast?.toList)

/-- The path that a relative path leads to from a base path. -/
def resolvePath (base path : List Char) : List Char :=
  let all :=
    if path.head? = some '/' then segments path
    else
      let start := segments base
      let start := if start.getLast? = some [] then start else start.dropLast
      dropEmptyInner (start ++ segments path)
  let walked := followDots all
  let closed :=
    if all.getLast? = some ['.'] ∨ all.getLast? = some ['.', '.'] then walked ++ [[]] else walked
  let joined := joinSegments closed
  if joined.isEmpty then ['/'] else joined

/-- The URL that a reference leads to from a base URL. -/
def resolve (base reference : List Char) : Except Foreign (List Char) := do
  if base.isEmpty then return reference
  if reference.isEmpty then return base
  let b ← parse [] base
  let r ← parse b.scheme reference
  if r.scheme ≠ b.scheme || !hierarchical.contains (String.ofList r.scheme) then return reference
  if !r.authority.isEmpty then return r.text
  let r := { r with authority := b.authority }
  if r.path.isEmpty && r.params.isEmpty then
    let query := if r.query.isEmpty then b.query else r.query
    return { r with path := b.path, params := b.params, query }.text
  return { r with path := resolvePath b.path r.path }.text

end Reference

end SecondFactor.Http
