import SecondFactor.Field
import SecondFactor.Json.Display

/-!
# Failures

A failure is a login error, perhaps with the failure behind it, or something that went wrong outside
of this library's own rules. Only login errors are handled inside a login; the rest passes through.
-/

namespace SecondFactor

/-- Why a security key gave no assertion. -/
inductive KeyFailure where
  | cancelled
  | timeout
  | deviceError
  | denied
  deriving DecidableEq, Repr

namespace KeyFailure

/-- The word for a cause. -/
def word : KeyFailure → String
  | cancelled => "cancelled"
  | timeout => "timeout"
  | deviceError => "device-error"
  | denied => "denied"

/-- All causes. -/
def all : List KeyFailure := [cancelled, timeout, deviceError, denied]

/-- The cause that a word stands for. -/
def ofWord? (w : String) : Option KeyFailure := all.find? fun c => c.word == w

end KeyFailure

namespace LoginError

/-- The kinds of login errors. -/
inductive Kind where
  | general (code : String)
  | authFailed
  | network
  | timeout
  | malformedChallenge
  | noMethod
  | keyFailed (cause : KeyFailure)
  | invalidInput (method : String)
  | cancelled
  | wrongState
  deriving DecidableEq, Repr

namespace Kind

/-- The code of a kind. -/
def code : Kind → String
  | general code => code
  | authFailed => "AUTH_FAILED"
  | network => "NETWORK_ERROR"
  | timeout => "TIMEOUT_ERROR"
  | malformedChallenge => "MALFORMED_CHALLENGE"
  | noMethod => "NO_METHOD_AVAILABLE"
  | keyFailed _ => "WEBAUTHN_FAILED"
  | invalidInput _ => "LOCAL_VALIDATION_FAILED"
  | cancelled => "NEGOTIATION_CANCELLED"
  | wrongState => "NEGOTIATION_STATE_ERROR"

/-- The wording that is used where none is given. -/
def wording : Kind → String
  | general _ => ""
  | authFailed => "Authentication failed"
  | network => "Network error"
  | timeout => "Request timeout"
  | malformedChallenge => "Malformed second factor challenge"
  | noMethod => "No second factor method available"
  | keyFailed cause => "WebAuthn request failed: " ++ cause.word
  | invalidInput method => "Invalid " ++ method ++ " input"
  | cancelled => "Second factor negotiation cancelled"
  | wrongState => ""

/-- Whether an error counts as a failed request. -/
def isRequestFailure : Kind → Bool
  | authFailed | network | timeout => true
  | _ => false

end Kind

/-- What an error carries beside its message. -/
inductive Details where
  | none
  | data (value : Json)
  | faults (faults : List Fault)

end LoginError

/-- A login error. -/
structure LoginError where
  kind : LoginError.Kind
  message : String
  details : LoginError.Details := .none
  status : Option Int := none

namespace LoginError

/-- An error in the usual wording of its kind. -/
def ofKind (kind : Kind) : LoginError := { kind, message := kind.wording }

/-- A given wording, unless it is empty or there is none. -/
def wordedAs (message : Option String) (usual : String) : String :=
  match message with
  | some m => if m.isEmpty then usual else m
  | none => usual

/-- A security key failure. -/
def keyFailed (cause : KeyFailure) (message : Option String) (details : Details) : LoginError :=
  let kind := Kind.keyFailed cause
  { kind, details, message := wordedAs message kind.wording }

/-- Input that does not have the shape its method asks for. -/
def invalidInput (method : String) (message : Option String := none) : LoginError :=
  let kind := Kind.invalidInput method
  { kind, message := wordedAs message kind.wording }

/-- A failed request for which only the status of the answer is known. -/
def ofStatus (status : Int) (message : Option String := none) : LoginError where
  kind := .authFailed
  message := wordedAs message ("Ticket request failed with status " ++ toString status)
  details := .data (.record [("status_code", .int status)])
  status := some status

/-- A refused action. -/
def wrongState (message : String) : LoginError := { kind := .wrongState, message }

end LoginError

/-- The ways in which a request fails before an answer is there. -/
inductive TransportError where
  | connectTimeout
  | readTimeout
  | writeTimeout
  | poolTimeout
  | connect
  | read
  | write
  | close
  | proxy
  | unsupportedProtocol
  | localProtocol
  | remoteProtocol
  | decoding
  | tooManyRedirects
  deriving DecidableEq, Repr

/-- Why a host name has no meaning in international names. -/
inductive HostFault where
  | malformed
  | forbiddenCharacter
  | misplacedCharacter
  | mixedDirections
  deriving DecidableEq, Repr

/-- What goes wrong outside of the library's own rules. -/
inductive Foreign where
  | malformedJson
  | undecodableBytes
  | unencodableText
  | integerTooLong
  | nestedTooDeep
  | badBase64
  | badValue (message : String)
  | invalidRecord (record : String) (faults : List Fault)
  | transport (error : TransportError) (message : String)
  | invalidUrl (message : String)
  | badHost (fault : HostFault)
  | system (message : String)
  | crash (message : String)
  | device
  /-- A job in a pool of threads was cancelled. -/
  | jobCancelled
  /-- Something is not in the state in which it has to be: a job in a pool of threads, or a task. -/
  | invalidState (ofJob : Bool) (message : String)
  deriving DecidableEq, Repr

/-- Why a computation has no result. -/
inductive Failure where
  | plain (error : LoginError)
  | chained (error : LoginError) (cause : Failure)
  | foreign (cause : Foreign)

/-- The failure for a value that is none of an enumeration, which the message names. -/
def Foreign.notOneOf (enumeration : String) (v : Json) : Foreign :=
  .badValue (v.display ++ " is not a valid " ++ enumeration)

namespace KeyFailure

/-- The cause that a value names. -/
def ofValue (v : Json) : Except Failure KeyFailure :=
  match v with
  | .text t =>
    match t.toString?.bind ofWord? with
    | some c => .ok c
    | none => .error (.foreign (.notOneOf "WebAuthnFailureCause" v))
  | _ => .error (.foreign (.notOneOf "WebAuthnFailureCause" v))

end KeyFailure

namespace Failure

/-- The login error that a failure is, if it is one. -/
def loginError? : Failure → Option LoginError
  | plain e => some e
  | chained e _ => some e
  | foreign _ => none

end Failure

end SecondFactor
