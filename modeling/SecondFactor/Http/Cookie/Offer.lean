import SecondFactor.Binary64
import SecondFactor.Http.Cookie.Header
import SecondFactor.Http.Cookie.Jar
import SecondFactor.Http.Cookie.Origin

/-!
# Cookies on offer

A header offers a cookie under terms, which its attributes state. What they leave open comes from
the URL that was asked. A cookie whose time is over takes the one in its place away. Any other is
kept only if its domain and its numbers fit the URL.
-/

namespace SecondFactor.Http.Cookie

/-- Why an offer comes to nothing: the cookie is passed over, or all cookies of the headers are
lost. -/
inductive Refusal where
  | ignored
  | lost
  deriving DecidableEq, Repr

/-- The terms of an offer. -/
structure Terms where
  version : Option String := none
  /-- When the cookie ends. -/
  expires : Option Mention := none
  domain : Option (List Char) := none
  path : Option (List Char) := none
  ports : Option Mention := none
  secure : Option Bool := none
  /-- Whether a lifetime was stated, which counts more than a date. -/
  hasLifetime : Bool := false
  deriving DecidableEq, Repr

namespace Terms

/-- The text that an attribute is given; without one the cookie is passed over. -/
def textOf : Mention → Except Refusal String
  | .text s => .ok s
  | _ => .error .ignored

/-- The terms with an attribute added to them. Of attributes that are stated twice the first one
counts, except for lifetimes. -/
def state (now : Int) (t : Terms) (stated : String × Mention) : Except Refusal Terms :=
  let (name, mention) := stated
  match String.ofList (name.toList.map Char.toLower) with
  | "version" =>
    if t.version.isSome then .ok t
    else do return { t with version := some (← textOf mention) }
  | "expires" =>
    if t.expires.isSome || t.hasLifetime || mention = .bare then .ok t
    else .ok { t with expires := some mention }
  | "max-age" =>
    match mention with
    | .text s =>
      match Integer.read? s.toList with
      | some age => .ok { t with hasLifetime := true, expires := some (.time (now + age)) }
      | none => .error .ignored
    | _ => .error .lost
  | "domain" =>
    if t.domain.isSome then .ok t
    else do return { t with domain := some ((← textOf mention).toList.map Char.toLower) }
  | "path" =>
    if t.path.isSome then .ok t
    else do return { t with path := some (← textOf mention).toList }
  | "port" => .ok (if t.ports.isSome then t else { t with ports := some mention })
  | "secure" =>
    .ok (if t.secure.isSome then t else { t with secure := some (mention ≠ .text "") })
  | _ => .ok t

/-- The terms that a header states. -/
def ofStatement (now : Int) (s : Statement) : Except Refusal Terms :=
  s.attributes.foldlM (state now) {}

end Terms

/-- A cookie that a header offers. -/
structure Offer where
  version : Option Int
  name : String
  value : Option String
  domain : List Char
  hasDomain : Bool
  path : List Char
  ports : Option (List (List Char))
  hasPorts : Bool
  secure : Bool
  deriving DecidableEq, Repr

/-- What comes of an offer: a cookie, or the end of the one in its place. -/
inductive Change where
  | sets (offer : Offer)
  | ends (domain path : List Char) (name : String)
  deriving DecidableEq, Repr

namespace Offer

/-- Whether a time is too far away to be kept. -/
def isBeyond (seconds : Int) : Bool :=
  match Binary64.ofInt seconds with
  | .infinite _ => true
  | _ => false

/-- The version that a text tells. -/
def versionOf : Option String → Except Refusal (Option Int)
  | none => .ok none
  | some s =>
    match Integer.read? s.toList with
    | some n => .ok (some n)
    | none => .error .ignored

/-- What comes of an offer under its terms. -/
def settle (now : Int) (origin : Origin) (s : Statement) (t : Terms) : Except Refusal Change := do
  let version ← versionOf t.version
  let path := match t.path with
    | some (c :: path) => plainPath (c :: path)
    | _ => origin.directory version
  let domain := match t.domain with
    | none => origin.name
    | some domain => if domain.head? = some '.' then domain else '.' :: domain
  let ports : Option (List Char) := match t.ports with
    | none => none
    | some (.text ports) => some (ports.toList.filter (!Blank.isBlank ·))
    | some _ => origin.portText
  let offer : Offer := {
    version, domain, path
    name := s.name
    value := s.value
    hasDomain := t.domain.isSome
    ports := ports.map (Split.on ',')
    hasPorts := t.ports.any (· ≠ .bare)
    secure := t.secure.getD false }
  match t.expires with
  | none => return .sets offer
  | some (.time seconds) =>
    if seconds ≤ now then return .ends domain path s.name
    else if isBeyond seconds then throw .lost
    else return .sets offer
  | some _ => throw .lost

/-- What comes of all that headers offer. When an offer makes all cookies lost, those before it that
have ended are taken away nevertheless. -/
def settleAll (now : Int) (origin : Origin) : List (Statement × Terms) → List Change × Bool
  | [] => ([], false)
  | (s, t) :: rest =>
    match settle now origin s t with
    | .ok change =>
      let (changes, lost) := settleAll now origin rest
      (change :: changes, lost)
    | .error .ignored => settleAll now origin rest
    | .error .lost => ([], true)

/-! ## Which offers are taken -/

/-- Whether a domain fits the host that offers a cookie: it has a point inside unless the host is a
local one, and the host lies in it. -/
def domainFits (o : Offer) (origin : Origin) : Bool :=
  let bare := if o.domain.head? = some '.' then o.domain.drop 1 else o.domain
  let isLocal := ".local".toList.isSuffixOf origin.name
  let lies := o.domain.isSuffixOf origin.name || (bare ++ ".local".toList).isSuffixOf origin.name
    || origin.name.head? = some '.' || o.domain.isSuffixOf ('.' :: origin.name)
  !o.hasDomain || ((bare.contains '.' || isLocal) && (o.version ≠ some 0 || lies))

/-- Whether the number of the URL is among those of a cookie; what stands before it has to be a
number. -/
def portsFit (o : Offer) (origin : Origin) : Bool :=
  let ports := o.ports.getD []
  let before := ports.takeWhile (· ≠ origin.usedPort)
  !o.hasPorts
    || (before.length < ports.length && before.all fun port => (Integer.read? port).isSome)

/-- The cookie to keep, if an offer is taken. -/
def accept? (o : Offer) (origin : Origin) : Option Cookie := do
  let version ← o.version
  if 0 < version || !o.domainFits origin || !o.portsFit origin then none
  return { o with version }

end Offer

namespace Jar

/-- The offers among some changes. -/
def offers (changes : List Change) : List Offer :=
  changes.filterMap fun
    | .sets offer => some offer
    | .ends _ _ _ => none

/-- The jar without the cookies that have ended. -/
def endAll (jar : Jar) (changes : List Change) : Jar :=
  changes.foldl (fun jar change =>
    match change with
    | .ends domain path name => jar.remove domain path name
    | .sets _ => jar) jar

/-- What comes of the statements of one kind of header: the jar without cookies that have ended, and
the offers. -/
def weigh (now : Int) (origin : Origin) (jar : Jar) (statements : Option (List Statement)) :
    Jar × List Offer :=
  let terms := (statements.getD []).map fun s => (s, Terms.ofStatement now s)
  if statements.isNone || terms.any fun p => p.2 matches .error .lost then (jar, [])
  else
    let (changes, lost) := Offer.settleAll now origin
      (terms.filterMap fun p => p.2.toOption.map fun t => (p.1, t))
    (jar.endAll changes, if lost then [] else offers changes)

/-- The jar after a response from a URL came in, with what its headers of the second and of the
usual kind say. Headers of the second kind count only beside others. Version one of the others is
read as version zero. -/
def receive (jar : Jar) (now : Int) (url : Url) (second usual : List String) : Jar :=
  if usual.isEmpty then jar
  else
    let origin := Origin.ofUrl url
    let (jar, first) := weigh now origin jar (some (Statement.readAllSecond second))
    let (jar, rest) := weigh now origin jar (Statement.readAll (Date.yearOf now) usual)
    let rest := rest.map fun o => if o.version = some 1 then { o with version := some 0 } else o
    ((first ++ rest).filterMap (·.accept? origin)).foldl insert jar

/-! ## Sending cookies -/

/-- Whether a cookie belongs to a request. -/
def applies (origin : Origin) (c : Cookie) : Bool :=
  let dotted (s : List Char) : List Char := if s.head? = some '.' then s else '.' :: s
  let domain := if c.domain.isEmpty then [] else dotted c.domain
  let inDomain := domain.isSuffixOf (dotted origin.host) || domain.isSuffixOf (dotted origin.name)
  let below := c.path.isPrefixOf origin.path
    && (c.path.getLast? = some '/' || (origin.path.drop c.path.length).head? = some '/')
  inDomain && (c.version ≠ 0 || domain.isSuffixOf ('.' :: origin.name))
    && (c.path == origin.path || below)
    && (!c.secure || origin.secure)
    && (c.ports.all fun ports => ports.contains origin.usedPort)

/-- The header that carries the cookies for a URL, those of the longest paths first. -/
def header (jar : Jar) (url : Url) : Option String :=
  let cookies := jar.toList.filter (applies (Origin.ofUrl url))
  if cookies.isEmpty then none
  else
    let sorted := cookies.mergeSort fun a b => b.path.length ≤ a.path.length
    some ("; ".intercalate (sorted.map fun c =>
      match c.value with
      | none => c.name
      | some value => c.name ++ "=" ++ value))

end Jar

end SecondFactor.Http.Cookie
