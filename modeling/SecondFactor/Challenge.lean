import SecondFactor.Json.Reader
import SecondFactor.Json.Writer
import SecondFactor.Method
import SecondFactor.Ticket
import SecondFactor.Text.Percent

/-!
# Second factor challenges

A challenge says which second factors the backend accepts. It comes as percent encoded JSON inside a
ticket.
-/

namespace SecondFactor

/-- A credential that may answer a challenge, its id still in base64url. -/
structure CredentialDescriptor where
  id : Text
  type : Text
  transports : Option (List Text)

namespace CredentialDescriptor

/-- A credential read from a record. -/
def ofJson (v : Json) : Checked CredentialDescriptor := do
  let ms ← Field.record "CredentialDescriptor" v
  let fields ← Checked.both (Field.required ms ["id"] Field.text)
    (Checked.both (Field.optional ms ["type"] (Text.ofString "public-key") Field.text)
      (Field.optional ms ["transports"] none (Field.nullable (Field.list Field.text))))
  return ⟨fields.1, fields.2.1, fields.2.2⟩

end CredentialDescriptor

/-- What a security key is asked to sign, as the backend sends it. -/
structure PublicKeyRequest where
  challenge : Text
  timeout : Option Int
  rpId : Option Text
  allowCredentials : List CredentialDescriptor
  userVerification : Option Text
  extensions : Option Members
  extra : Members

namespace PublicKeyRequest

/-- The keys of the fields, each with those under which it is also found. -/
def keys : List (List String) :=
  [["challenge"], ["timeout"], ["rpId", "rp_id"], ["allowCredentials", "allow_credentials"],
    ["userVerification", "user_verification"], ["extensions"]]

/-- A request read from a record. -/
def ofJson (v : Json) : Checked PublicKeyRequest := do
  let ms ← Field.record "PublicKeyRequest" v
  let fields :=
    Checked.both (Field.required ms ["challenge"] Field.text)
    (Checked.both (Field.optional ms ["timeout"] none (Field.nullable Field.int))
    (Checked.both (Field.optional ms ["rpId", "rp_id"] none (Field.nullable Field.text))
    (Checked.both (Field.optional ms ["allowCredentials", "allow_credentials"] []
      (Field.list CredentialDescriptor.ofJson))
    (Checked.both (Field.optional ms ["userVerification", "user_verification"] none
      (Field.nullable Field.text))
    (Field.optional ms ["extensions"] none (Field.nullable Field.object))))))
  let (f, extra) ← Field.withExtra ms keys fields
  return ⟨f.1, f.2.1, f.2.2.1, f.2.2.2.1, f.2.2.2.2.1, f.2.2.2.2.2, extra⟩

end PublicKeyRequest

/-- The part of a challenge for security keys. -/
structure KeyChallenge where
  publicKey : PublicKeyRequest
  extra : Members

namespace KeyChallenge

/-- A security key challenge read from a record. -/
def ofJson (v : Json) : Checked KeyChallenge := do
  let ms ← Field.record "WebAuthnChallengeData" v
  let (publicKey, extra) ← Field.withExtra ms [["publicKey", "public_key"]]
    (Field.required ms ["publicKey", "public_key"] PublicKeyRequest.ofJson)
  return ⟨publicKey, extra⟩

end KeyChallenge

/-- A second factor challenge. -/
structure Challenge where
  webauthn : Option KeyChallenge
  totp : Bool
  recovery : Option (List Text)
  extra : Members

namespace Challenge

/-- Whether a challenge offers a method. -/
def offers (c : Challenge) : Method → Bool
  | .webauthn => c.webauthn.isSome
  | .totp => c.totp
  | .recovery => (c.recovery.getD []) ≠ []

/-- The methods that a challenge offers, the preferred one first. -/
def available (c : Challenge) : List Method := Method.all.filter c.offers

/-- The identifiers of the recovery keys that are left. -/
def recoveryKeys (c : Challenge) : List Text := c.recovery.getD []

/-- Whether few recovery keys are left, but some. -/
def recoveryKeysLow (c : Challenge) : Bool :=
  c.recoveryKeys ≠ [] && c.recoveryKeys.length ≤ 3

/-- A recovery key identifier; numbers and truth values count as their texts. -/
def recoveryKey : Json → Checked Text
  | .int n => .ok ((Json.Writer.int n).map .char)
  | .bool b => .ok (if b then "True" else "False")
  | v => Field.text v

/-- A challenge read from a record, which has to name a method. -/
def ofJson (v : Json) : Checked Challenge := do
  let ms ← Field.record "Challenge" v
  if Method.all.any fun m => ms.hasKey m.word then
    let fields := Checked.both
      (Field.optional ms ["webauthn"] none (Field.nullable KeyChallenge.ofJson))
      (Checked.both (Field.optional ms ["totp"] false Field.bool)
        (Field.optional ms ["recovery"] none (Field.nullable (Field.list recoveryKey))))
    let (f, extra) ← Field.withExtra ms [["webauthn"], ["totp"], ["recovery"]] fields
    return ⟨f.1, f.2.1, f.2.2, extra⟩
  else
    .fault .noSecondFactor

/-- A malformed challenge, with what its text failed on. -/
def malformed (message : String) (details : LoginError.Details := .none) : LoginError :=
  { kind := .malformedChallenge, message, details }

/-- The failure for a text that is no JSON. Nesting that is too deep passes through as it is. -/
def unreadable : Json.ReadError → Failure
  | .malformed => .chained (malformed "Challenge is not valid JSON") (.foreign .malformedJson)
  | .integerTooLong => .chained (malformed "Challenge is not valid JSON") (.foreign .integerTooLong)
  | .tooDeep => .foreign .nestedTooDeep

/-- The challenge in a JSON value. -/
def ofPayload : Json → Except Failure Challenge
  | .object ms =>
    match ofJson (.object ms) with
    | .ok c => .ok c
    | .error fs =>
      .error (.chained (malformed "Challenge has no usable second factor" (.faults fs))
        (.foreign (.invalidRecord "Challenge" fs)))
  | _ => .error (.plain (malformed "Challenge is not a JSON object"))

/-- The challenge that a ticket carries, for a reader who can follow so many levels of nesting. -/
def ofTicket (levels : Nat) (ticket : String) : Except Failure Challenge :=
  match Ticket.challengeText? ticket with
  | none => .error (.plain (malformed "Ticket does not carry a challenge"))
  | some encoded =>
    match Percent.decode encoded with
    | none =>
      .error (.chained (malformed "Challenge is not valid JSON") (.foreign .undecodableBytes))
    | some cs =>
      match Json.read levels (cs.map .char) with
      | .error e => .error (unreadable e)
      | .ok payload => ofPayload payload

end Challenge

end SecondFactor
