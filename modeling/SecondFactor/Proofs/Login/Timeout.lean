import SecondFactor.Proofs.Json.RoundTrip
import SecondFactor.Proofs.Login.Requests
import SecondFactor.Proofs.Ticket.Reading

/-! # How long requests may take

Settings are checked when they are read, and not when arguments take the place of some of them. What
a client sends may take as long as its settings say. -/

namespace SecondFactor

open Http (Client)

theorem Field.positive_eq_ok {v : Json} {x : Binary64} :
    positive v = .ok x ↔ number v = .ok x ∧ x.isPositive = true := by
  unfold positive
  cases number v with
  | error fs => simp
  | ok y =>
    dsimp only
    split
    · rename_i hy
      constructor
      · rintro ⟨⟩
        exact ⟨rfl, hy⟩
      · exact And.left
    · rename_i hy
      simp only [Checked.fault, reduceCtorEq, Except.ok.injEq, false_iff]
      rintro ⟨rfl, hx⟩
      exact hy hx

namespace Settings

theorem ofJson_object (ms : Members) (s : Settings) :
    ofJson (.object ms) = .ok s ↔
      Field.optional ms ["base_url"] ({} : Settings).baseUrl Field.string = .ok s.baseUrl ∧
      Field.optional ms ["ticket_path"] ({} : Settings).ticketPath Field.string = .ok s.ticketPath ∧
      Field.optional ms ["timeout"] ({} : Settings).timeout Field.positive = .ok s.timeout ∧
      Field.optional ms ["verify_tls"] ({} : Settings).verifyTls Field.bool = .ok s.verifyTls ∧
      Field.optional ms ["user_agent"] ({} : Settings).userAgent Field.string = .ok s.userAgent := by
  let d : Settings := {}
  let fields :=
    Checked.both (Field.optional ms ["base_url"] d.baseUrl Field.string)
    (Checked.both (Field.optional ms ["ticket_path"] d.ticketPath Field.string)
    (Checked.both (Field.optional ms ["timeout"] d.timeout Field.positive)
    (Checked.both (Field.optional ms ["verify_tls"] d.verifyTls Field.bool)
    (Field.optional ms ["user_agent"] d.userAgent Field.string))))
  have hread : ofJson (.object ms) = (fields >>= fun p =>
      .ok ⟨p.1, p.2.1, p.2.2.1, p.2.2.2.1, p.2.2.2.2⟩) := rfl
  have hfields : ofJson (.object ms) = .ok s ↔
      fields = .ok (s.baseUrl, s.ticketPath, s.timeout, s.verifyTls, s.userAgent) := by
    rw [hread]
    cases fields with
    | error fs => simp [bind, Except.bind]
    | ok p =>
      obtain ⟨baseUrl, ticketPath, timeout, verifyTls, userAgent⟩ := p
      obtain ⟨baseUrl', ticketPath', timeout', verifyTls', userAgent'⟩ := s
      simp [bind, Except.bind]
  rw [hfields]
  simp only [fields, Checked.both_eq_ok, d]

theorem find_record (members : List (String × Json)) (key : String) :
    Members.find? (members.map fun m => (Text.ofString m.1, m.2)) key = members.lookup key := by
  unfold Members.find?
  induction members with
  | nil => rfl
  | cons m members ih =>
    have hkey : (Text.ofString key == Text.ofString m.1) = (key == m.1) := by
      rw [Bool.eq_iff_iff, beq_iff_eq, beq_iff_eq]
      exact ⟨Text.ofString_injective, congrArg Text.ofString⟩
    rw [List.map_cons, List.lookup_cons, List.lookup_cons, hkey, ih]

theorem optional_of_find {α : Type} {ms : Members} {key : String} {v : Json} {absent a : α}
    {field : Json → Checked α} (hv : ms.find? key = some v) (hfield : field v = .ok a) :
    Field.optional ms [key] absent field = .ok a := by
  simp only [Field.optional, Field.pick?, hv, hfield, Checked.within]

/-- Whether settings can be read from a record. -/
def Valid (s : Settings) : Prop := ∃ v, ofJson v = .ok s

/-- A record with all settings. -/
def toJson (s : Settings) : Json :=
  .record [("base_url", s.baseUrl), ("ticket_path", s.ticketPath), ("timeout", .real s.timeout),
    ("verify_tls", .bool s.verifyTls), ("user_agent", s.userAgent)]

theorem ofJson_toJson {s : Settings} (h : s.timeout.isPositive = true) :
    ofJson s.toJson = .ok s := by
  have hstring (text : String) : Field.string (.text (Text.ofString text)) = .ok text :=
    Field.string_eq_ok.mpr rfl
  refine (ofJson_object _ s).mpr ⟨?_, ?_, ?_, ?_, ?_⟩
  · exact optional_of_find (find_record _ _) (hstring s.baseUrl)
  · exact optional_of_find (find_record _ _) (hstring s.ticketPath)
  · exact optional_of_find (find_record _ _) (Field.positive_eq_ok.mpr ⟨rfl, h⟩)
  · exact optional_of_find (find_record _ _) rfl
  · exact optional_of_find (find_record _ _) (hstring s.userAgent)

theorem isPositive_of_ofJson {s : Settings} {v : Json} (h : ofJson v = .ok s) :
    s.timeout.isPositive = true := by
  have husual : ({} : Settings).timeout.isPositive = true := by decide +kernel
  cases v with
  | object ms =>
    obtain ⟨-, -, htimeout, -⟩ := (ofJson_object ms s).mp h
    unfold Field.optional at htimeout
    split at htimeout
    · exact (Field.positive_eq_ok.mp (Checked.within_eq_ok.mp htimeout)).2
    · rw [← Except.ok.inj htimeout]
      exact husual
  | _ => cases h

theorem valid_iff {s : Settings} : s.Valid ↔ s.timeout.isPositive = true :=
  ⟨fun ⟨_, h⟩ => isPositive_of_ofJson h, fun h => ⟨s.toJson, ofJson_toJson h⟩⟩

theorem valid_of_checked {timeout : Binary64} {checked s : Settings} {f : Failure}
    (h : (if timeout.isPositive then .ok checked else .error f) = Except.ok s)
    (htimeout : checked.timeout = timeout) : s.Valid := by
  by_cases hpositive : timeout.isPositive = true
  · rw [if_pos hpositive] at h
    rw [← Except.ok.inj h, valid_iff, htimeout]
    exact hpositive
  · rw [if_neg hpositive] at h
    cases h

/-- Settings that are read from an environment are valid. -/
theorem valid_of_ofEnvironment {lookup : String → Option String} {s : Settings}
    (h : ofEnvironment lookup = .ok s) : s.Valid := by
  unfold ofEnvironment at h
  dsimp only [bind, Except.bind, pure, Except.pure] at h
  split at h
  · -- Whatever the usual timeout is, it was compared with zero.
    generalize Binary64.ofInt 30 = timeout at h
    exact valid_of_checked h rfl
  · split at h
    · exact valid_of_checked h rfl
    · cases h

theorem valid_override_iff {s : Settings} (hs : s.Valid) (o : Overrides) :
    (s.override o).Valid ↔ ∀ t, o.timeout = some t → t.isPositive = true := by
  rw [valid_iff] at hs ⊢
  unfold override
  cases o.timeout with
  | none => simpa using hs
  | some t => simp

end Settings

/-! ## Clients -/

namespace Login.World

variable {ν : Type}

/-- A client that is made of valid settings, with arguments in the place of some of them, has valid
settings if and only if no timeout that is not positive is among the arguments. Whatever it sends may
take as long as its settings say. -/
theorem valid_iff_positive {s : Settings} (hs : s.Valid) (o : Settings.Overrides)
    (script : Nat → Http.Outcome) (held : Nat → Bool) (adapter : Option Key.Adapter) (store : Store)
    (ms : List (Move ν)) :
    (Client.create (s.override o) = .error (.foreign .unencodableText) ∧
      s.userAgent.toList.all (·.toNat < 0x80) = false) ∨
    ∃ c, Client.create (s.override o) = .ok c ∧
      c.settings = {
        baseUrl := o.baseUrl.getD s.baseUrl
        ticketPath := s.ticketPath
        timeout := o.timeout.getD s.timeout
        verifyTls := o.verifyTls.getD s.verifyTls
        userAgent := s.userAgent } ∧
      (c.settings.Valid ↔ ∀ t, o.timeout = some t → t.isPositive = true) ∧
      ∀ r ∈ ((opening c script held adapter store).moves script ms).sent,
        r.timeout = c.settings.timeout ∧ (r.timeout.isPositive = true ↔ c.settings.Valid) := by
  by_cases hascii : s.userAgent.toList.all (·.toNat < 0x80) = true
  · let c : Client := { settings := s.override o }
    refine .inr ⟨c, if_pos hascii, rfl, Settings.valid_override_iff hs o, fun r hr => ?_⟩
    have htimeout := ((recorded_moves c script held adapter store ms).made r hr).timeout
    rw [htimeout]
    exact ⟨rfl, Settings.valid_iff.symm⟩
  · exact .inl ⟨if_neg hascii, by simpa using hascii⟩

/-- A client that has this timeout as an argument. -/
def sampleClient (timeout : Binary64) : Client :=
  { settings := ({} : Settings).override { timeout := some timeout } }

def sampleMoves : List (Move Unit) :=
  [.login ⟨"root", "pw", "pam"⟩ false 995 (.ends (.returned ())), .turn 0 (.caller .host)]

def sampleRun (client : Client) : World Unit :=
  (opening client Negotiation.sampleScript (fun _ => false) none []).moves Negotiation.sampleScript
    sampleMoves

theorem valid_iff_positive_short :
    ({} : Settings).Valid ∧
      ∃ c, Client.create (({} : Settings).override { timeout := some (.ofInt 5) }) = .ok c ∧
        c.settings.Valid ∧ ∃ r ∈ (sampleRun c).sent, r.timeout.isPositive = true := by
  have husual : ({} : Settings).Valid := Settings.valid_iff.mpr (by decide +kernel)
  have hpositive : ∀ t, some (Binary64.ofInt 5) = some t → t.isPositive = true := by
    intro t ht
    rw [← Option.some.inj ht]
    decide +kernel
  rcases valid_iff_positive husual { timeout := some (.ofInt 5) } Negotiation.sampleScript
    (fun _ => false) none [] sampleMoves with ⟨-, hascii⟩ | ⟨c, hc, -, hvalid, hsent⟩
  · exact absurd hascii (by decide +kernel)
  · have hsome : (sampleRun (sampleClient (.ofInt 5))).sent.head?.isSome = true := by decide +kernel
    have hc' : sampleClient (.ofInt 5) = c := Except.ok.inj hc
    rw [hc'] at hsome
    obtain ⟨r, hr⟩ := Option.isSome_iff_exists.mp hsome
    have hr : r ∈ (sampleRun c).sent := List.mem_of_head? hr
    have hvalid := hvalid.mpr hpositive
    exact ⟨husual, c, hc, hvalid, r, hr, (hsent r hr).2.mpr hvalid⟩

/-- A timeout among the arguments is not checked. -/
theorem timeout_unchecked :
    ({} : Settings).Valid ∧
      ∃ c, Client.create (({} : Settings).override { timeout := some (.ofInt 0) }) = .ok c ∧
        ¬ c.settings.Valid ∧ ∃ r ∈ (sampleRun c).sent, r.timeout.isPositive = false := by
  have husual : ({} : Settings).Valid := Settings.valid_iff.mpr (by decide +kernel)
  have hsent : (sampleRun (sampleClient (.ofInt 0))).sent.any (fun r => !r.timeout.isPositive) =
      true := by
    decide +kernel
  obtain ⟨r, hr, htimeout⟩ := List.any_eq_true.mp hsent
  refine ⟨husual, sampleClient (.ofInt 0), rfl, ?_, r, hr, by simpa using htimeout⟩
  rw [Settings.valid_iff]
  decide +kernel

end Login.World

end SecondFactor
