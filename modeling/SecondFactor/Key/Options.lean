import SecondFactor.Challenge
import SecondFactor.Text.Base64Url

/-!
# Request options for a security key

The options that a challenge sends, with their byte fields decoded.
-/

namespace SecondFactor.Key

/-- How much a key has to make sure that its user is the right one. -/
inductive UserVerification where
  | required
  | preferred
  | discouraged
  deriving DecidableEq, Repr

namespace UserVerification

/-- The word for a level. -/
def word : UserVerification → String
  | required => "required"
  | preferred => "preferred"
  | discouraged => "discouraged"

/-- All levels. -/
def all : List UserVerification := [required, preferred, discouraged]

/-- The level that a text stands for; other texts are ignored. -/
def ofText? (t : Text) : Option UserVerification := all.find? fun u => Text.ofString u.word == t

end UserVerification

/-- What a security key is asked to sign, with raw bytes. -/
structure Options where
  challenge : Bytes
  timeout : Option Int
  rpId : Option Text
  /-- The ids of the credentials that may answer; any may if there are none. -/
  credentials : List Bytes
  userVerification : Option UserVerification
  extensions : Option Members

namespace Options

/-- The list of the credentials that may answer, unless any may. -/
def allowList? (o : Options) : Option (List Bytes) :=
  if o.credentials.isEmpty then none else some o.credentials

/-- The failure for a field that is no base64url. -/
def undecodable (e : Base64Url.ReadError) : Failure :=
  .chained { kind := .malformedChallenge, message := "WebAuthn challenge is not valid base64url" }
    (.foreign (match e with
      | .notAscii => .unencodableText
      | .incomplete => .badBase64))

/-- The bytes that a field writes. -/
def bytes (t : Text) : Except Failure Bytes := (Base64Url.decode t).mapError undecodable

/-- The options that a challenge sends. -/
def ofChallenge (c : KeyChallenge) : Except Failure Options := do
  let request := c.publicKey
  let challenge ← bytes request.challenge
  let credentials ← request.allowCredentials.mapM fun d => bytes d.id
  return {
    challenge, credentials
    timeout := request.timeout
    rpId := request.rpId
    userVerification := request.userVerification.bind UserVerification.ofText?
    extensions := request.extensions }

end Options

end SecondFactor.Key
