import SecondFactor.Key.Device
import SecondFactor.Key.Options
import SecondFactor.Proofs.Json.RoundTrip
import SecondFactor.Proofs.Method
import SecondFactor.Proofs.Text.Base64Url

/-! # What the proof of a security key says

A proof by a security key can be taken apart again by whoever gets it: its payload is a JSON text
that names the challenge as it was sent, and every byte field gives back the bytes that were
signed. -/

namespace SecondFactor

namespace Key

/-- Whether a text is base64url without padding that gives back bytes. -/
structure Unpadded (t : Text) (bs : Bytes) : Prop where
  alphabet : ∀ p ∈ t, ∃ c ∈ Base64Url.alphabet, p = .char c
  decodes : Base64Url.decode t = .ok bs

/-- The members of an assertion that names a challenge, in the order in which they are written. -/
def assertion (id authenticatorData clientData signature challenge : Text) : Json := .record [
  ("id", .text id),
  ("type", "public-key"),
  ("rawId", .text id),
  ("response", .record [
    ("authenticatorData", .text authenticatorData),
    ("clientDataJSON", .text clientData),
    ("signature", .text signature)]),
  ("challenge", .text challenge)]

/-- Whether a proof says what a security key answered to a challenge: the word for the method stands
before its first colon, and behind it a JSON text in ASCII with these members and no others, which
whoever can follow two levels of nesting reads. -/
structure Says (proof : String) (challenge : Text) (r : Response) : Prop where
  word : proof.toList.takeWhile (· ≠ ':') = Method.webauthn.word.toList
  payload : ∃ payload id authenticatorData clientData signature,
    proof.toList.dropWhile (· ≠ ':') = ':' :: payload ∧
    (∀ c ∈ payload, c.toNat < 0x80) ∧
    (∀ levels, 2 ≤ levels → Json.read levels (payload.map .char) =
      .ok (assertion id authenticatorData clientData signature challenge)) ∧
    Unpadded id r.rawId ∧ Unpadded authenticatorData r.authenticatorData ∧
    Unpadded clientData r.clientData ∧ Unpadded signature r.signature

/-- How bytes stand in an assertion. -/
def field (bs : Bytes) : Text := (Base64Url.encodeChars bs).map .char

theorem unpadded_field (bs : Bytes) : Unpadded (field bs) bs where
  alphabet := by
    intro p hp
    obtain ⟨c, hc, rfl⟩ := List.mem_map.mp hp
    exact ⟨c, Base64Url.mem_encodeChars hc, rfl⟩
  decodes := Base64Url.decode_encodeChars bs

/-- The assertion that carries an answer, with the challenge that it names. -/
def named (challenge : Text) (r : Response) : Json :=
  assertion (field r.rawId) (field r.authenticatorData) (field r.clientData) (field r.signature)
    challenge

theorem insert_ofResponse (challenge : Text) (r : Response) :
    Json.object (Members.insert (Assertion.ofResponse r) (Text.ofString "challenge")
      (.text challenge)) = named challenge r := by
  have hkeys : (Assertion.ofResponse r).map Prod.fst =
      ["id", "type", "rawId", "response"].map Text.ofString := rfl
  have hfresh : Text.ofString "challenge" ∉ (Assertion.ofResponse r).map Prod.fst := by
    rw [hkeys]
    decide
  rw [Members.insert_fresh hfresh]
  rfl

theorem textual_named (cs : List Char) (r : Response) :
    Json.Textual 2 (named (cs.map .char) r) := by
  have hkeys : ["id", "type", "rawId", "response", "challenge"].Nodup := by decide
  have hfields : ["authenticatorData", "clientDataJSON", "signature"].Nodup := by decide
  have hfield {depth : Nat} (bs : Bytes) : Json.Textual depth (.text (field bs)) := .text _
  have hresponse : Json.Textual 1 (.record [
      ("authenticatorData", .text (field r.authenticatorData)),
      ("clientDataJSON", .text (field r.clientData)),
      ("signature", .text (field r.signature))]) := by
    refine .record hfields ?_
    simp [hfield]
  refine .record hkeys ?_
  simp [hfield, hresponse, Json.Textual.string, Json.Textual.text]

/-- An answer to a challenge whose text can be decoded makes a proof that says so. -/
theorem says_proof {challenge : Text} {bs : Bytes} (hbytes : Options.bytes challenge = .ok bs)
    (r : Response) : Says ((Assertion.ofResponse r).proof challenge).text challenge r := by
  obtain ⟨cs, rfl⟩ : ∃ cs : List Char, challenge = cs.map .char := by
    unfold Options.bytes at hbytes
    cases hdecoded : Base64Url.decode challenge with
    | error e =>
      rw [hdecoded] at hbytes
      cases hbytes
    | ok bs => exact Base64Url.exists_of_decode hdecoded
  have htextual : Json.Textual 2 (named (cs.map .char) r) := textual_named cs r
  have hpayload : (Assertion.payload (cs.map .char) (.ofResponse r)).toList =
      Json.Writer.value .compact (named (cs.map .char) r) := by
    unfold Assertion.payload Json.write
    rw [String.toList_ofList]
    exact congrArg _ (insert_ofResponse _ r)
  obtain ⟨hword, hrest⟩ :=
    ((Assertion.ofResponse r).proof (cs.map .char)).split_text
  refine ⟨hword, _, _, _, _, _, hrest, ?_, ?_, unpadded_field _, unpadded_field _, unpadded_field _,
    unpadded_field _⟩
  · intro c hc
    exact htextual.ascii c (hpayload ▸ hc)
  · intro levels hlevels
    rw [Assertion.proof, hpayload]
    exact Json.read_write (htextual.mono hlevels)

end Key

end SecondFactor
