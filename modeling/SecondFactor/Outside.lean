import SecondFactor.Http.Client
import SecondFactor.Key.Behaviour
import SecondFactor.Key.Options

/-!
# The outside world

A login talks to the backend through its client, and to a security key through an adapter. What was
asked of either is kept in order.
-/

namespace SecondFactor

/-- What becomes of each request to the backend by its number, unless the backend keeps its client
waiting. In either case no request ends as cancelled. -/
abbrev Http.Backend := Nat → Option Http.Outcome

/-- What lies outside of a login. -/
structure Outside where
  client : Http.Client
  backend : Http.Backend
  adapter : Option Key.Adapter
  /-- The requests to the backend. -/
  sent : List Http.Request := []
  /-- The requests to a security key. -/
  asked : List Key.Options := []

namespace Outside

/-- Sends the request for a call, if there is one. -/
def send (o : Outside) (call : Http.Call) : Except Failure (Http.Request × Outside) :=
  (o.client.request call).map fun r => (r, { o with sent := o.sent ++ [r] })

/-- Takes note of what became of a request. -/
def receive (o : Outside) (r : Http.Request) (outcome : Http.Outcome) : Outside :=
  { o with client := o.client.receive r outcome }

end Outside

end SecondFactor
