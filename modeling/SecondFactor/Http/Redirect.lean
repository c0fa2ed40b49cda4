import SecondFactor.Http.Cookie.Offer
import SecondFactor.Http.Exchange

/-!
# Redirects

A response may say that what was asked for is elsewhere. No request is made there, but the place has
to be one to which a request could be made.
-/

namespace SecondFactor.Http

/-- The header that carries cookies to a URL. Where there are cookies at all, the URL has to be one
that leads somewhere. -/
def Cookie.Jar.headerFor (jar : Cookie.Jar) (url : Url) : Except Foreign (Option String) :=
  if jar.isEmpty then .ok none
  else if url.scheme.isEmpty then
    .error (.badValue ("unknown url type: " ++ Quoted.quote url.text))
  else do
    Reference.checkAuthority url.authority.toList
    return jar.header url

namespace Redirect

/-- The statuses of a redirect. -/
def statuses : List Int := [301, 302, 303, 307, 308]

/-- Where a response leads elsewhere, if it does. -/
def location? (r : Response) : Option String :=
  match statuses.contains r.status, r.header "location" with
  | true, v :: vs => some (", ".intercalate (v :: vs))
  | _, _ => none

/-- The URL that a response to a request for another URL leads to. -/
def target (asked : Url) (location : String) : Except Foreign Url := do
  let url ← match Url.parse location.toList with
    | .ok url => pure url
    | .error (.invalidUrl message) =>
      throw (.transport .remoteProtocol ("Invalid URL in location header: " ++ message ++ "."))
    | .error f => throw f
  let url ←
    if !url.scheme.isEmpty && url.host.isEmpty then do
      Url.renew url.parts (some (← asked.readableHost))
    else pure url
  let url ←
    if url.isRelative then do
      Url.parse (← Reference.resolve asked.text.toList url.text.toList)
    else pure url
  let fragment := Percent.decodeLossy (asked.fragment.getD "").toList
  if fragment.isEmpty || !(url.fragment.getD "").isEmpty then return url
  url.withFragment fragment

/-- Checks that a request could be made where a response leads to. -/
def check (jar : Cookie.Jar) (asked : Url) (r : Response) : Except Foreign Unit :=
  match location? r with
  | none => .ok ()
  | some location => do
    let url ← target asked location
    let _ ← url.readableHost
    if !url.isAscii then throw .unencodableText
    let _ ← jar.headerFor url

end Redirect

end SecondFactor.Http
