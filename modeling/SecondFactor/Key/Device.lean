import SecondFactor.Failure
import SecondFactor.Key.Assertion

/-!
# Devices

A device answers a request through its platform. While it is waited for an indicator is shown, and
giving up the wait sets a signal on which the device stops.
-/

namespace SecondFactor.Key

/-- The errors by which a platform refuses a request. -/
inductive ClientCode where
  | other
  | badRequest
  | unsupported
  | ineligible
  | timeout
  deriving DecidableEq, Repr

namespace ClientCode

/-- All codes, numbered from one. -/
def all : List ClientCode := [other, badRequest, unsupported, ineligible, timeout]

/-- The number of a code. -/
def number : ClientCode → Nat
  | other => 1
  | badRequest => 2
  | unsupported => 3
  | ineligible => 4
  | timeout => 5

/-- The name of a code. -/
def name : ClientCode → String
  | other => "OTHER_ERROR"
  | badRequest => "BAD_REQUEST"
  | unsupported => "CONFIGURATION_UNSUPPORTED"
  | ineligible => "DEVICE_INELIGIBLE"
  | timeout => "TIMEOUT"

/-- The code with a number. -/
def ofNumber? (n : Nat) : Option ClientCode := all.find? fun c => c.number == n

end ClientCode

/-- The status byte of an authenticator. -/
structure Status where
  code : Nat
  deriving DecidableEq, Repr

namespace Status

/-- The status of a request that was cancelled while the device waited for its user. -/
def keepaliveCancel : Status := ⟨0x2D⟩

/-- The names of the status bytes in use. -/
def names : List (Nat × String) := [
  (0x00, "SUCCESS"), (0x01, "INVALID_COMMAND"), (0x02, "INVALID_PARAMETER"),
  (0x03, "INVALID_LENGTH"), (0x04, "INVALID_SEQ"), (0x05, "TIMEOUT"), (0x06, "CHANNEL_BUSY"),
  (0x0A, "LOCK_REQUIRED"), (0x0B, "INVALID_CHANNEL"), (0x11, "CBOR_UNEXPECTED_TYPE"),
  (0x12, "INVALID_CBOR"), (0x14, "MISSING_PARAMETER"), (0x15, "LIMIT_EXCEEDED"),
  (0x17, "FP_DATABASE_FULL"), (0x18, "LARGE_BLOB_STORAGE_FULL"), (0x19, "CREDENTIAL_EXCLUDED"),
  (0x21, "PROCESSING"), (0x22, "INVALID_CREDENTIAL"), (0x23, "USER_ACTION_PENDING"),
  (0x24, "OPERATION_PENDING"), (0x25, "NO_OPERATIONS"), (0x26, "UNSUPPORTED_ALGORITHM"),
  (0x27, "OPERATION_DENIED"), (0x28, "KEY_STORE_FULL"), (0x2B, "UNSUPPORTED_OPTION"),
  (0x2C, "INVALID_OPTION"), (0x2D, "KEEPALIVE_CANCEL"), (0x2E, "NO_CREDENTIALS"),
  (0x2F, "USER_ACTION_TIMEOUT"), (0x30, "NOT_ALLOWED"), (0x31, "PIN_INVALID"),
  (0x32, "PIN_BLOCKED"), (0x33, "PIN_AUTH_INVALID"), (0x34, "PIN_AUTH_BLOCKED"),
  (0x35, "PIN_NOT_SET"), (0x36, "PUAT_REQUIRED"), (0x37, "PIN_POLICY_VIOLATION"),
  (0x38, "PIN_TOKEN_EXPIRED"), (0x39, "REQUEST_TOO_LARGE"), (0x3A, "ACTION_TIMEOUT"),
  (0x3B, "UP_REQUIRED"), (0x3C, "UV_BLOCKED"), (0x3D, "INTEGRITY_FAILURE"),
  (0x3E, "INVALID_SUBCOMMAND"), (0x3F, "UV_INVALID"), (0x40, "UNAUTHORIZED_PERMISSION"),
  (0x7F, "OTHER"), (0xDF, "SPEC_LAST"), (0xE0, "EXTENSION_FIRST"), (0xEF, "EXTENSION_LAST"),
  (0xF0, "VENDOR_FIRST"), (0xFF, "VENDOR_LAST")]

/-- The wording of a status: its number with two hexadecimal digits at least, and its name. -/
def message (s : Status) : String :=
  let digits := (Nat.toDigits 16 s.code).map Char.toUpper
  let padded := List.replicate (2 - digits.length) '0' ++ digits
  "CTAP error: 0x" ++ String.ofList padded ++ " - " ++ (names.lookup s.code).getD "UNKNOWN"

end Status

/-- What lies behind a refusal of the platform. -/
inductive ClientCause where
  | unknown
  | status (s : Status)
  | error (message : String)
  deriving DecidableEq, Repr

/-- A refusal of the platform. -/
structure ClientError where
  code : ClientCode
  cause : ClientCause
  deriving DecidableEq, Repr

namespace ClientError

/-- Why the request failed: a device that was told to stop says so whatever the platform makes of
it. -/
def failure (e : ClientError) : KeyFailure :=
  if e.cause = .status .keepaliveCancel then .cancelled
  else
    match e.code with
    | .timeout => .timeout
    | .other => .deviceError
    | _ => .denied

/-- The wording of a refusal. -/
def message (e : ClientError) : String :=
  let text := "Client error: " ++ toString e.code.number ++ " - " ++ e.code.name
  match e.cause with
  | .unknown => text
  | .status s => text ++ " (cause: " ++ s.message ++ ")"
  | .error m => text ++ " (cause: " ++ m ++ ")"

end ClientError

/-- A failed request for an assertion. -/
structure Refusal where
  cause : KeyFailure
  message : String
  details : LoginError.Details := .none
  behind : Option Foreign := none

namespace Refusal

/-- The login error for a failed request. -/
def loginError (r : Refusal) : LoginError where
  kind := .keyFailed r.cause
  message := r.message
  details := r.details

/-- The failure that ends a negotiation with nothing but a security key. -/
def failure (r : Refusal) : Failure :=
  match r.behind with
  | none => .plain r.loginError
  | some f => .chained r.loginError (.foreign f)

/-- A refusal in the given wording, or in the usual one if none is given. -/
def ofCause (cause : KeyFailure) (message : Option String) : Refusal :=
  ⟨cause, (LoginError.keyFailed cause message .none).message, .none, none⟩

/-- The refusal where no adapter is there to ask a key. -/
def unsupported : Refusal := ⟨.denied, "No security key support configured", .none, none⟩

end Refusal

/-- What a platform raises. Most errors reach whoever asked it as they are. The last three mean
something to the event loop, or to the pool of threads in which the platform is asked, and some of
them do not get through. -/
inductive PlatformError where
  | client (e : ClientError)
  | system (message : String)
  /-- A failed request, as this library itself words it. -/
  | refusal (r : Refusal)
  | crash (message : String)
  /-- The end of an iteration. An event loop has no use for it: depending on the version it is
  dropped, or another error takes its place. -/
  | endOfIteration (dropped : Bool)
  /-- A cancellation, of a job in the pool or of a task. -/
  | cancelled (ofJob : Bool)
  | invalidState (ofJob : Bool) (message : String)

/-- What comes of an error of the platform at the other side of the pool of threads, if anything. An
error about a job becomes the one about a task. -/
def PlatformError.carried? : PlatformError → Option PlatformError
  | .endOfIteration true => none
  | .endOfIteration false => some (.crash
      "StopIteration interacts badly with generators and cannot be raised into a Future")
  | .cancelled _ => some (.cancelled false)
  | .invalidState _ message => some (.invalidState false message)
  | e => some e

/-- What a platform makes of one request. An error that is late comes only when the answer is
fetched. An early one that is derived from the end of an iteration is none: the value in it is taken
for what the answer is fetched from. -/
inductive PlatformOutcome where
  | response (r : Response)
  | error (late : Bool) (e : PlatformError)

/-- How a request for an assertion ends, unless it is cancelled. -/
inductive Reply where
  | assertion (a : Assertion)
  | refused (r : Refusal)
  | crashed (f : Foreign)

namespace Reply

/-- What an error of the platform means to the one who asked for an assertion, unless it is taken for
a cancellation of the request. -/
def ofError? : PlatformError → Option Reply
  | .client e =>
    some (.refused {
      cause := e.failure
      message := (LoginError.ofKind (.keyFailed e.failure)).message
      details := .data (.text (Text.ofString e.message))
      behind := some .device })
  | .system m =>
    some (.refused {
      cause := .deviceError
      message := (LoginError.ofKind (.keyFailed .deviceError)).message
      behind := some (.system m) })
  | .refusal r => some (.refused r)
  | .crash m => some (.crashed (.crash m))
  | .endOfIteration _ => some (.crashed (.crash "coroutine raised StopIteration"))
  | .cancelled false => none
  | .cancelled true => some (.crashed .jobCancelled)
  | .invalidState ofJob m => some (.crashed (.invalidState ofJob m))

end Reply

end SecondFactor.Key
