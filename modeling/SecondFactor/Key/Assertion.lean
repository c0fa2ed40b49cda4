import SecondFactor.Json.Writer
import SecondFactor.Method
import SecondFactor.Text.Base64Url

/-!
# Assertions

An assertion is what a security key signed, ready to be sent: an object whose byte fields are
base64url.
-/

namespace SecondFactor.Key

/-- What an authenticator answers, with raw bytes. -/
structure Response where
  rawId : Bytes
  authenticatorData : Bytes
  clientData : Bytes
  signature : Bytes
  deriving DecidableEq, Repr

/-- The members of an assertion in the order in which they are written. -/
abbrev Assertion := Members

namespace Assertion

/-- Bytes as a member of an assertion. -/
def bytes (bs : Bytes) : Json := .text ((Base64Url.encodeChars bs).map .char)

/-- The assertion that carries an answer. -/
def ofResponse (r : Response) : Assertion := [
  ("id", bytes r.rawId),
  ("type", "public-key"),
  ("rawId", bytes r.rawId),
  ("response", .object [
    ("authenticatorData", bytes r.authenticatorData),
    ("clientDataJSON", bytes r.clientData),
    ("signature", bytes r.signature)])]

/-- The payload of the proof that an assertion makes: it names the challenge in the text in which
the backend sent it, in place of any other. -/
def payload (challenge : Text) (a : Assertion) : String :=
  Json.write .compact (.object (a.insert "challenge" (.text challenge)))

/-- The proof that an assertion makes. -/
def proof (challenge : Text) (a : Assertion) : Proof := ⟨.webauthn, a.payload challenge⟩

end Assertion

end SecondFactor.Key
