import Mathlib.Data.List.Forall2
import SecondFactor.Key.Options
import SecondFactor.Proofs.Challenge.Reading
import SecondFactor.Proofs.Text.Base64Bits
import SecondFactor.Proofs.Text.Base64Lenience

/-! # Options that are read

The options for a security key carry bytes where the challenge has texts. Whatever bytes the backend
writes, the options have these. Which texts are refused is another matter, since reading is
lenient. -/

namespace SecondFactor

/-- The texts of a challenge that have to be base64url: its own, and the ids of its credentials. -/
def KeyChallenge.texts (c : KeyChallenge) : List Text :=
  c.publicKey.challenge :: c.publicKey.allowCredentials.map (·.id)

/-- The challenge with another text that says how users are to be verified. -/
def KeyChallenge.verifying (c : KeyChallenge) (t : Text) : KeyChallenge :=
  { c with publicKey := { c.publicKey with userVerification := some t } }

namespace Key

open Base64Url (Spells Readable Valid alphabet)
open Challenge (Refused)

namespace UserVerification

theorem mem_all (u : UserVerification) : u ∈ all := by
  cases u <;> decide

theorem word_inj :
    ∀ u v : UserVerification, Text.ofString u.word = Text.ofString v.word → u = v := by
  intro u v
  cases u <;> cases v <;> decide

/-- A text is taken for a level if and only if it is the word for it. -/
theorem ofText_eq_some_iff {t : Text} {u : UserVerification} :
    ofText? t = some u ↔ t = Text.ofString u.word := by
  have hword {t : Text} {u : UserVerification} (h : ofText? t = some u) :
      Text.ofString u.word = t := by
    have hfound := List.find?_some h
    exact beq_iff_eq.mp hfound
  constructor
  · exact fun h => (hword h).symm
  · rintro rfl
    cases h : ofText? (Text.ofString u.word) with
    | none => exact absurd BEq.rfl (List.find?_eq_none.mp h u (mem_all u))
    | some v => rw [word_inj v u (hword h)]

theorem ofText_eq_none {t : Text} (h : ∀ u : UserVerification, t ≠ Text.ofString u.word) :
    ofText? t = none :=
  Option.eq_none_iff_forall_ne_some.mpr fun u hu => h u (ofText_eq_some_iff.mp hu)

end UserVerification

namespace Options

/-! ## Fields -/

theorem bytes_ok {t : Text} {bs : Bytes} (h : Base64Url.decode t = .ok bs) : bytes t = .ok bs := by
  rw [bytes, h]
  rfl

/-- A field is read as bytes, or fails to be base64url. -/
theorem bytes_cases (t : Text) :
    (Readable t ∧ ∃ bs, bytes t = .ok bs) ∨
      ¬ Readable t ∧ ∃ e, bytes t = .error (undecodable e) := by
  cases h : Base64Url.decode t with
  | ok bs => exact .inl ⟨(Base64Url.decode_ok_iff t).mp ⟨bs, h⟩, bs, bytes_ok h⟩
  | error e =>
    refine .inr ⟨fun hread => ?_, e, by rw [bytes, h]; rfl⟩
    obtain ⟨bs, hbs⟩ := (Base64Url.decode_ok_iff t).mpr hread
    rw [h] at hbs
    cases hbs

/-- Fields that are read one by one are read in their order. -/
theorem mapM_bytes {ds : List CredentialDescriptor} {ids : List Bytes}
    (h : List.Forall₂ (fun d id => bytes d.id = .ok id) ds ids) :
    (ds.mapM fun d => bytes d.id) = .ok ids := by
  induction h with
  | nil => rfl
  | cons hd _ ih =>
    rw [List.mapM_cons, hd, ih]
    rfl

/-- Fields are read if each of them is, and the first that is not makes them fail. -/
theorem mapM_bytes_cases (ds : List CredentialDescriptor) :
    ((∀ d ∈ ds, Readable d.id) ∧ ∃ ids, (ds.mapM fun d => bytes d.id) = .ok ids) ∨
      (∃ d ∈ ds, ¬ Readable d.id) ∧
        ∃ e, (ds.mapM fun d => bytes d.id) = .error (undecodable e) := by
  induction ds with
  | nil => exact .inl ⟨by simp, [], rfl⟩
  | cons d ds ih =>
    rw [List.mapM_cons]
    obtain ⟨hread, bs, hbs⟩ | ⟨hread, e, he⟩ := bytes_cases d.id
    · rw [hbs]
      obtain ⟨hreads, ids, hids⟩ | ⟨⟨d', hd', hunread⟩, e, he⟩ := ih
      · exact .inl ⟨List.forall_mem_cons.mpr ⟨hread, hreads⟩, bs :: ids, by rw [hids]; rfl⟩
      · exact .inr ⟨⟨d', List.mem_cons_of_mem d hd', hunread⟩, e, by rw [he]; rfl⟩
    · exact .inr ⟨⟨d, List.mem_cons_self, hread⟩, e, by rw [he]; rfl⟩

/-- The options of a challenge whose fields are read. -/
theorem ofChallenge_eq {c : KeyChallenge} {challenge : Bytes} {ids : List Bytes}
    (hchallenge : bytes c.publicKey.challenge = .ok challenge)
    (hids : (c.publicKey.allowCredentials.mapM fun d => bytes d.id) = .ok ids) :
    ofChallenge c = .ok {
      challenge
      timeout := c.publicKey.timeout
      rpId := c.publicKey.rpId
      credentials := ids
      userVerification := c.publicKey.userVerification.bind UserVerification.ofText?
      extensions := c.publicKey.extensions } := by
  unfold ofChallenge
  dsimp only
  rw [hchallenge, hids]
  rfl

/-- A challenge is read if each of its texts is, and fails to be base64url otherwise. -/
theorem ofChallenge_cases (c : KeyChallenge) :
    ((∀ t ∈ c.texts, Readable t) ∧ ∃ options, ofChallenge c = .ok options) ∨
      (∃ t ∈ c.texts, ¬ Readable t) ∧ ∃ e, ofChallenge c = .error (undecodable e) := by
  obtain ⟨hread, bs, hbs⟩ | ⟨hread, e, he⟩ := bytes_cases c.publicKey.challenge
  · obtain ⟨hreads, ids, hids⟩ | ⟨⟨d, hd, hunread⟩, e, he⟩ :=
      mapM_bytes_cases c.publicKey.allowCredentials
    · refine .inl ⟨List.forall_mem_cons.mpr ⟨hread, ?_⟩, _, ofChallenge_eq hbs hids⟩
      exact List.forall_mem_map.mpr hreads
    · refine .inr ⟨⟨d.id, List.mem_cons_of_mem _ (List.mem_map_of_mem hd), hunread⟩, e, ?_⟩
      unfold ofChallenge
      dsimp only
      rw [hbs, he]
      rfl
  · refine .inr ⟨⟨_, List.mem_cons_self, hread⟩, e, ?_⟩
    unfold ofChallenge
    dsimp only
    rw [he]
    rfl

/-! ## Bytes that come back -/

/-- Whatever bytes the texts of a challenge spell, the options have just these, in the same order,
and no list where there are no credentials. Everything else is carried over, but for a text that
says in no known word how users are to be verified, and nothing else depends on that text. -/
theorem ofChallenge_spelled {c : KeyChallenge} {challenge : Bytes} {ids : List Bytes}
    (hchallenge : Spells c.publicKey.challenge challenge)
    (hids : List.Forall₂ (fun d id => Spells d.id id) c.publicKey.allowCredentials ids) :
    ∃ options, ofChallenge c = .ok options ∧
      options.challenge = challenge ∧ options.credentials = ids ∧
      options.allowList? = (if ids = [] then none else some ids) ∧
      options.timeout = c.publicKey.timeout ∧ options.rpId = c.publicKey.rpId ∧
      options.extensions = c.publicKey.extensions ∧
      (∀ u, options.userVerification = some u ↔
        c.publicKey.userVerification = some (Text.ofString u.word)) ∧
      ∀ t, (∀ u : UserVerification, t ≠ Text.ofString u.word) →
        ofChallenge (c.verifying t) = .ok { options with userVerification := none } := by
  have hbytes : bytes c.publicKey.challenge = .ok challenge :=
    bytes_ok (Base64Url.decode_spells hchallenge)
  have hmap : (c.publicKey.allowCredentials.mapM fun d => bytes d.id) = .ok ids :=
    mapM_bytes (hids.imp fun _ _ h => bytes_ok (Base64Url.decode_spells h))
  refine ⟨_, ofChallenge_eq hbytes hmap, rfl, rfl, ?_, rfl, rfl, rfl, ?_, ?_⟩
  · simp only [allowList?, List.isEmpty_iff]
  · intro u
    refine Option.bind_eq_some_iff.trans ⟨?_, ?_⟩
    · rintro ⟨t, ht, hu⟩
      rw [ht, UserVerification.ofText_eq_some_iff.mp hu]
    · intro h
      exact ⟨_, h, UserVerification.ofText_eq_some_iff.mpr rfl⟩
  · intro t ht
    have hunknown : (some t).bind UserVerification.ofText? = none :=
      UserVerification.ofText_eq_none ht
    exact hunknown ▸ ofChallenge_eq (c := c.verifying t) hbytes hmap

/-- A challenge with one credential, whose users are to be verified in a way that nobody knows. -/
def sampleKey : KeyChallenge where
  publicKey := {
    challenge := Text.ofString "Y2hh"
    timeout := some 60000
    rpId := some (Text.ofString "localhost")
    allowCredentials := [⟨Text.ofString "AP8", Text.ofString "public-key", none⟩]
    userVerification := some (Text.ofString "maybe")
    extensions := none
    extra := [] }
  extra := []

theorem ofChallenge_spelled_sample :
    Spells (Text.ofString "Y2hh") [99, 104, 97] ∧ Spells (Text.ofString "AP8") [0, 255] ∧
      ∃ options, ofChallenge sampleKey = .ok options ∧ options.challenge = [99, 104, 97] ∧
        options.credentials = [[0, 255]] ∧ options.timeout = some 60000 := by
  have hchallenge : Spells (Text.ofString "Y2hh") [99, 104, 97] :=
    Base64Url.spells_iff.mpr (by decide)
  have hid : Spells (Text.ofString "AP8") [0, 255] := Base64Url.spells_iff.mpr (by decide)
  obtain ⟨options, hok, hbytes, hids, -, htimeout, -⟩ :=
    ofChallenge_spelled (c := sampleKey) hchallenge (.cons hid .nil)
  exact ⟨hchallenge, hid, options, hok, hbytes, hids, htimeout⟩

/-! ## Texts that are refused -/

theorem refused_iff_unreadable (c : KeyChallenge) :
    Refused (ofChallenge c) ↔ ∃ t ∈ c.texts, ¬ Readable t := by
  obtain ⟨hreads, options, hok⟩ | ⟨hunread, e, herror⟩ := ofChallenge_cases c
  · refine iff_of_false ?_ ?_
    · rintro ⟨f, e, h, -⟩
      rw [hok] at h
      cases h
    · rintro ⟨t, ht, hunread⟩
      exact hunread (hreads t ht)
  · exact iff_of_true ⟨_, _, herror, rfl, rfl⟩ hunread

/-- A challenge is refused if one of its texts is not readable as base64url, and otherwise it is
read. That is so if one of them is not valid, unless all are readable and one of those is not valid;
in texts over the alphabet alone there is no such difference, and what is valid is never refused. -/
theorem refused_iff_invalid (c : KeyChallenge) :
    (Refused (ofChallenge c) ↔ ∃ t ∈ c.texts, ¬ Readable t) ∧
    (Refused (ofChallenge c) ∨ ∃ options, ofChallenge c = .ok options) ∧
    (Refused (ofChallenge c) → ∃ t ∈ c.texts, ¬ Valid t) ∧
    ((Refused (ofChallenge c) ↔ ∃ t ∈ c.texts, ¬ Valid t) ↔
      ((∀ t ∈ c.texts, Readable t) → ∀ t ∈ c.texts, Valid t)) ∧
    ((∀ t ∈ c.texts, ∃ s : List Char, t = s.map .char ∧ ∀ d ∈ s, d ∈ alphabet) →
      (Refused (ofChallenge c) ↔ ∃ t ∈ c.texts, ¬ Valid t)) := by
  have hrefused := refused_iff_unreadable c
  have hinvalid : Refused (ofChallenge c) → ∃ t ∈ c.texts, ¬ Valid t := by
    intro h
    obtain ⟨t, ht, hunread⟩ := hrefused.mp h
    exact ⟨t, ht, fun hvalid => hunread hvalid.readable⟩
  have hiff : (Refused (ofChallenge c) ↔ ∃ t ∈ c.texts, ¬ Valid t) ↔
      ((∀ t ∈ c.texts, Readable t) → ∀ t ∈ c.texts, Valid t) := by
    constructor
    · intro h hreads t ht
      by_contra hnot
      obtain ⟨t', ht', hunread⟩ := hrefused.mp (h.mpr ⟨t, ht, hnot⟩)
      exact hunread (hreads t' ht')
    · intro h
      refine ⟨hinvalid, ?_⟩
      rintro ⟨t, ht, hnot⟩
      refine hrefused.mpr ?_
      by_contra hreads
      refine hnot (h (fun t' ht' => ?_) t ht)
      by_contra hunread
      exact hreads ⟨t', ht', hunread⟩
  refine ⟨hrefused, ?_, hinvalid, hiff, ?_⟩
  · obtain ⟨-, hok⟩ | ⟨hunread, -⟩ := ofChallenge_cases c
    · exact .inr hok
    · exact .inl (hrefused.mpr hunread)
  · intro hplain
    refine hiff.mpr fun hreads t ht => ?_
    obtain ⟨s, rfl, hs⟩ := hplain t ht
    exact (hreads _ ht).valid hs

/-- A challenge with foreign characters in the middle of its text. -/
def foreignKey : KeyChallenge where
  publicKey := {
    challenge := Text.ofString "Y2hh!!!!bGxlbmdl"
    timeout := none
    rpId := none
    allowCredentials := []
    userVerification := none
    extensions := none
    extra := [] }
  extra := []

/-- Characters that are not in the alphabet are skipped, and the challenge is not refused. -/
theorem foreign_skipped :
    (∃ t ∈ foreignKey.texts, ¬ Valid t) ∧ ¬ Refused (ofChallenge foreignKey) ∧
      (ofChallenge foreignKey).map (·.challenge) =
        bytes (Text.ofString "Y2hhbGxlbmdl") := by
  refine ⟨⟨_, List.mem_cons_self, fun hvalid => ?_⟩, ?_, rfl⟩
  · have hforeign : CodePoint.char '!' ∈ Text.ofString "Y2hh!!!!bGxlbmdl" := by decide
    exact absurd (hvalid.mem hforeign) (by decide)
  · rintro ⟨f, e, h, -⟩
    cases h

end Options

end Key

end SecondFactor
