import SecondFactor.Key.Device

/-!
# Behaviour of a request for an assertion

Whoever asks a security key lives through events, and waits until a reply is there or the request is
cancelled. A cancelled request may still end with a reply.
-/

namespace SecondFactor.Key

/-- What happens around a device during a request. -/
inductive DeviceEvent where
  | shown
  | asked
  | fetched
  | signalled
  | hidden
  deriving DecidableEq, Repr

/-- What a request does, as far as its own course goes: it ends with a reply, stops because it was
cancelled, or waits, and then there is one way to go on if it is cancelled meanwhile, and another
if it is cancelled when the wait is over but the request has not gone on. -/
inductive Behaviour where
  | ends (r : Reply)
  | stops
  | waits (onCancel onLateCancel : Behaviour)
  | notes (e : DeviceEvent) (next : Behaviour)

/-- The requests of a negotiation by their number. -/
abbrev Adapter := Nat → Behaviour

namespace Behaviour

/-- Where a request comes to rest. -/
inductive Rest where
  | ended (r : Reply)
  | stopped
  | waiting (onCancel onLateCancel : Behaviour)

/-- The events until a request comes to rest, and where it does. -/
def proceed : Behaviour → List DeviceEvent × Rest
  | ends r => ([], .ended r)
  | stops => ([], .stopped)
  | waits onCancel onLateCancel => ([], .waiting onCancel onLateCancel)
  | notes e next =>
    let (events, rest) := next.proceed
    (e :: events, rest)

/-- The wait for a device is given up: the device is told to stop, and the indicator is hidden. -/
def abandoned : Behaviour := notes .signalled (notes .hidden stops)

/-- A request to a device, which is waited for with the indicator shown. -/
def device : Behaviour := notes .shown (notes .asked (waits abandoned abandoned))

/-- The platform has answered: the answer is fetched, and the indicator is hidden. -/
def fetched (r : Reply) : Behaviour := notes .fetched (notes .hidden (ends r))

/-- The platform has failed, and the indicator is hidden. A cancellation cannot be told apart from
one of the request. -/
def failed (e : PlatformError) : Behaviour :=
  match Reply.ofError? e with
  | some r => notes .hidden (ends r)
  | none => abandoned

/-- How a request goes on when the platform is done with it, unless nobody is told of that. -/
def answered? : PlatformOutcome → Option Behaviour
  | .response r => some (fetched (.assertion (.ofResponse r)))
  | .error true e => some (notes .fetched (failed e))
  | .error false e => e.carried?.map failed

end Behaviour

end SecondFactor.Key
