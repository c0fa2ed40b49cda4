import SecondFactor.Credentials
import SecondFactor.Http.Redirect
import SecondFactor.Json.Fields
import SecondFactor.Json.Reader
import SecondFactor.Settings
import SecondFactor.Text.Encoding
import SecondFactor.Ticket

/-!
# The client

Every request is made once. A failed login is not tried again behind the user's back, since repeated
tries may lock the user out. What comes back is a JSON object or a failure.
-/

namespace SecondFactor.Http

/-- A client of the backend. -/
structure Client where
  settings : Settings
  cookies : Cookie.Jar := []
  /-- The time from which cookies live, in seconds since the beginning of 1970. -/
  now : Int := 0
  closed : Bool := false
  deriving DecidableEq, Repr

/-- A request to make. -/
structure Call where
  method : String := "POST"
  endpoint : String
  /-- The fields of the body. -/
  form : List Form.Group := []
  /-- What takes the place of the query. -/
  params : Option (List Form.Group) := none
  timeout : Option Binary64 := none
  deriving DecidableEq, Repr

namespace Client

/-- A client with settings; what it sends as its name has to be ASCII. -/
def create (settings : Settings) : Except Failure Client :=
  if settings.userAgent.toList.all (·.toNat < 0x80) then .ok { settings }
  else .error (.foreign .unencodableText)

/-- The base URL without slashes at its end. -/
def baseUrl (c : Client) : String :=
  String.ofList (c.settings.baseUrl.toList.reverse.dropWhile (· == '/')).reverse

/-- The URL of an endpoint, as it is resolved and before it is brought into normal form. -/
def resolve (c : Client) (endpoint : String) : Except Foreign (List Char) :=
  Reference.resolve (c.baseUrl.toList ++ ['/']) (endpoint.toList.dropWhile (· == '/'))

/-- The failure that a transport error leads to. -/
def failureOf (f : Foreign) : Failure :=
  match f with
  | .transport e _ =>
    match e with
    | .connectTimeout | .readTimeout | .writeTimeout | .poolTimeout =>
      .chained (.ofKind .timeout) (.foreign f)
    | .connect | .read | .write | .close => .chained (.ofKind .network) (.foreign f)
    | _ => .chained { kind := .authFailed, message := "Request failed" } (.foreign f)
  | _ => .foreign f

/-- The message for a URL that names no known protocol. -/
def unsupportedProtocol : Foreign :=
  .transport .unsupportedProtocol "Request URL has an unsupported protocol."

/-- The URL of a call. One that does not say where it leads keeps its path and its query alone. -/
def target (c : Client) (call : Call) : Except Foreign Url := do
  let url ← Url.parse (← c.resolve call.endpoint)
  let url ← if url.isRelative then url.belowRoot else pure url
  match call.params with
  | none => return url
  | some [] => url.withQuery none
  | some groups => url.withQuery (some (Form.encodeGroups groups))

/-- The request for a call, if it can be sent. -/
def request (c : Client) (call : Call) : Except Failure Request := do
  let url ← (c.target call).mapError .foreign
  let cookie ← (c.cookies.headerFor url).mapError .foreign
  let _ ← url.readableHost.mapError .foreign
  if !url.isAscii then throw (.foreign .unencodableText)
  if c.closed then
    throw (.foreign (.crash "Cannot send a request, as the client has been closed."))
  if url.scheme ≠ "http" && url.scheme ≠ "https" then throw (failureOf unsupportedProtocol)
  return {
    url, cookie
    method := String.ofList (CaseMapping.upper call.method.toList)
    contentType := if call.form.isEmpty then none else some "application/x-www-form-urlencoded"
    userAgent := c.settings.userAgent
    timeout := match call.timeout with
      | none => c.settings.timeout
      | some t => if t.isZero then c.settings.timeout else t
    body := Form.encodeGroups call.form }

/-- The client after an outcome came back for a request. Cookies are kept before the body of the
response is looked at. -/
def receive (c : Client) (r : Request) (outcome : Outcome) : Client :=
  match outcome with
  | .ok response =>
    let told (name : String) : List String := response.header name
    { c with cookies := c.cookies.receive c.now r.url (told "set-cookie2") (told "set-cookie") }
  | .error _ => c

/-- A failed request whose response is there. -/
def failed (message : String) (status : Option Int) : LoginError :=
  { kind := .authFailed, message, status }

/-- The failure for a body that is no JSON. Nesting that is too deep passes through as it is. -/
def unreadable (status : Int) : Json.ReadError → Failure
  | .malformed =>
    .chained (failed "Response is not valid JSON" (some status)) (.foreign .malformedJson)
  | .integerTooLong =>
    .chained (failed "Response is not valid JSON" (some status)) (.foreign .integerTooLong)
  | .tooDeep => .foreign .nestedTooDeep

/-- The object in the body of a response. -/
def answer (r : Response) : Except Failure Members :=
  if !r.isSuccess then .error (.plain (.ofStatus r.status))
  else
    match Encoding.decodeDocument r.body with
    | none =>
      .error (.chained (failed "Response is not valid JSON" (some r.status))
        (.foreign .undecodableBytes))
    | some text =>
      match Json.read r.levels text with
      | .error e => .error (unreadable r.status e)
      | .ok (.object ms) => .ok ms
      | .ok _ => .error (.plain (failed "Response is not a JSON object" (some r.status)))

/-- The object that an outcome brings. The client is the one that has received the outcome. Where
the response leads is looked at before its body is opened. -/
def result (c : Client) (r : Request) (outcome : Outcome) : Except Failure Members := do
  let response ← outcome.mapError failureOf
  (Redirect.check c.cookies r.url response).mapError failureOf
  let opened ← response.opened.mapError failureOf
  answer opened

/-- The ticket in an answer. -/
def ticket (answer : Members) : Except Failure Ticket :=
  match Ticket.ofAnswer (.object answer) with
  | .ok t => .ok t
  | .error fs =>
    .error (.chained (failed "Unexpected ticket response" none)
      (.foreign (.invalidRecord "TicketResponse" fs)))

/-- The ticket that an outcome brings. -/
def ticketResult (c : Client) (r : Request) (outcome : Outcome) : Except Failure Ticket :=
  c.result r outcome >>= ticket

/-- The call that asks for a ticket. -/
def ticketCall (c : Client) (form : List Form.Field) : Call :=
  { endpoint := c.settings.ticketPath, form := form.map .ofField }

/-- The call that submits primary credentials. -/
def primaryCall (c : Client) (credentials : Credentials) : Call := c.ticketCall credentials.form

/-- The call that answers the challenge in a ticket with a proof. -/
def proofCall (c : Client) (userid ticket proof : String) : Call :=
  c.ticketCall [("username", userid), ("password", proof), ("tfa-challenge", ticket)]

end Client

end SecondFactor.Http
