import SecondFactor.Http.Coding
import SecondFactor.Http.Url

/-!
# Requests and responses
-/

namespace SecondFactor.Http

/-- A request as it goes out. -/
structure Request where
  method : String
  url : Url
  contentType : Option String
  userAgent : String
  cookie : Option String
  /-- In seconds. -/
  timeout : Binary64
  body : String
  deriving DecidableEq, Repr

/-- A response as it comes in. Its headers are given as texts, and its body as it was sent. -/
structure Response where
  status : Int
  headers : List (String × String)
  body : Bytes
  /-- How deep the JSON in the body may be nested for whoever reads it. This is what is left of the
  stack where it is read, and need not be the same for two responses. -/
  levels : Nat
  deriving DecidableEq, Repr

namespace Response

/-- The values of all headers of a name, in any case. -/
def header (r : Response) (name : String) : List String :=
  let lower (s : String) : List Char := s.toList.map Char.toLower
  (r.headers.filter fun h => lower h.1 == lower name).map Prod.snd

/-- Whether the status tells of success. -/
def isSuccess (r : Response) : Bool := 200 ≤ r.status && r.status < 300

/-- The codings of the body in the order in which they were applied. -/
def codings (r : Response) : List Coding := (r.header "content-encoding").flatMap Coding.ofHeader

/-- The response with the codings of its body undone. -/
def opened (r : Response) : Except Foreign Response :=
  if r.body.isEmpty then .ok r
  else
    match r.codings.reverse.foldlM (fun body c => Coding.undo c body) r.body with
    | some body => .ok { r with body }
    | none => .error (.transport .decoding "Error -3 while decompressing data")

end Response

/-- What becomes of a request that was sent: a response, or what went wrong on the way. It is taken
for granted that a request does not end as cancelled, since nobody holds the task that makes it. -/
abbrev Outcome := Except Foreign Response

end SecondFactor.Http
