import Mathlib.Data.List.Basic
import SecondFactor.Proofs.Text.CodePoint
import SecondFactor.Ticket

/-! # Reading tickets

Ticket data is read from a JSON object exactly when that says who the ticket is for, and then every
member of the object is accounted for: it is one of the fields, or kept as it is. -/

namespace SecondFactor

/-! ## Checks -/

theorem Checked.both_eq_ok {α β : Type} {x : Checked α} {y : Checked β} {p : α × β} :
    both x y = .ok p ↔ x = .ok p.1 ∧ y = .ok p.2 := by
  obtain ⟨a, b⟩ := p
  cases x <;> cases y <;> simp [both]

theorem Checked.within_eq_ok {α : Type} {step : Fault.Step} {x : Checked α} {a : α} :
    x.within step = .ok a ↔ x = .ok a := by
  cases x <;> simp [within]

namespace Field

variable {α : Type} {ms : Members}

theorem string_eq_ok {v : Json} {s : String} : string v = .ok s ↔ v = .text (Text.ofString s) := by
  cases v with
  | text t =>
    rw [Json.text.injEq, ← Text.toString?_eq_some_iff, string]
    split
    · rename_i s' hs'
      simp [hs']
    · rename_i hnone
      simp [hnone, Checked.fault]
  | _ => simp [string, Checked.fault]

theorem nonempty_eq_ok {v : Json} {s : String} :
    nonempty v = .ok s ↔ v = .text (Text.ofString s) ∧ s ≠ "" := by
  rw [← string_eq_ok]
  unfold nonempty
  cases string v with
  | error fs => simp
  | ok s' =>
    by_cases hempty : s' = ""
    · subst hempty
      simp [Checked.fault]
    · simp [hempty]
      rintro rfl
      exact hempty

theorem nullable_text_eq_ok {v : Json} {o : Option Text} :
    nullable text v = .ok o ↔ v = match o with
      | none => .null
      | some t => .text t := by
  cases v <;> cases o <;> simp [nullable, text, Checked.fault, Except.map]

/-- A field with one key is read from the value of that key. -/
theorem required_eq_ok {key : String} {field : Json → Checked α} {a : α} :
    required ms [key] field = .ok a ↔ ∃ v, ms.find? key = some v ∧ field v = .ok a := by
  unfold required pick? pick?
  cases ms.find? key with
  | none => simp
  | some v => simp [Checked.within_eq_ok]

/-- A record that keeps its other members has only keys without lone surrogates among them. -/
theorem withExtra_eq_ok {fields : List (List String)} {checked : Checked α} {p : α × Members} :
    withExtra ms fields checked = .ok p ↔
      checked = .ok p.1 ∧ p.2 = ms.without (usedKeys ms fields) ∧
        ∀ m ∈ p.2, ∃ key : String, m.1 = Text.ofString key := by
  obtain ⟨a, extra⟩ := p
  have hplain (extra : Members) : (extra.any fun m => m.1.toString?.isNone) = false ↔
      ∀ m ∈ extra, ∃ key : String, m.1 = Text.ofString key := by
    simp [List.any_eq_false, ← Text.toString?_eq_some_iff, ← Option.isSome_iff_exists,
      Option.isSome_iff_ne_none]
  unfold withExtra
  dsimp only
  split
  · rename_i hbad
    have hnot : ¬ ∀ m ∈ ms.without (usedKeys ms fields), ∃ key : String, m.1 = Text.ofString key := by
      rw [← hplain, hbad]
      exact nofun
    simp only [Checked.fault, reduceCtorEq, false_iff]
    rintro ⟨-, rfl, h⟩
    exact hnot h
  · rename_i hgood
    have hgood := (hplain _).mp (by simpa using hgood)
    cases checked with
    | error fs => simp [Except.map]
    | ok a' =>
      simp only [Except.map, Except.ok.injEq, Prod.mk.injEq]
      constructor
      · rintro ⟨rfl, rfl⟩
        exact ⟨rfl, rfl, hgood⟩
      · rintro ⟨rfl, rfl, -⟩
        exact ⟨rfl, rfl⟩

end Field

/-! ## Tickets -/

namespace Ticket

/-- The name under which the token is looked for: the second one only where there is no member of
the first one. -/
def tokenKey (data : Members) : String :=
  if (data.find? "CSRFPreventionToken").isSome then "CSRFPreventionToken"
  else "csrf_prevention_token"

/-- Whether the members of an object say what a ticket says: the ticket and the user are texts that
are not empty, the token is a text unless there is none or `null`, and all other members are kept
with their values. Neither a field but the token nor the key of a member that is kept holds half a
character. -/
structure Says (data : Members) (t : Ticket) : Prop where
  ticket : data.find? "ticket" = some (.text (Text.ofString t.ticket))
  ticket_ne : t.ticket ≠ ""
  username : data.find? "username" = some (.text (Text.ofString t.username))
  username_ne : t.username ≠ ""
  token : match t.csrfToken with
    | some token => data.find? (tokenKey data) = some (.text token)
    | none => data.find? (tokenKey data) = none ∨ data.find? (tokenKey data) = some .null
  extra : t.extra =
    data.filter fun m => m.1 ∉ ["ticket", "username", tokenKey data].map Text.ofString
  keys : ∀ m ∈ t.extra, ∃ key : String, m.1 = Text.ofString key

theorem find?_eq_none_iff {ms : Members} {key : Text} :
    ms.find? key = none ↔ ∀ m ∈ ms, m.1 ≠ key := by
  unfold Members.find?
  rw [List.lookup_eq_none_iff]
  simp only [bne_iff_ne, ne_comm]

/-- The token is read from the first of its keys that is present. -/
theorem pick?_token (data : Members) :
    Field.pick? data ["CSRFPreventionToken", "csrf_prevention_token"] =
      (data.find? (tokenKey data)).map fun v => (tokenKey data, v) := by
  unfold tokenKey
  cases h : data.find? "CSRFPreventionToken" with
  | some v => simp [Field.pick?, h]
  | none =>
    simp only [Field.pick?, h, Option.isSome_none, Bool.false_eq_true, if_false]
    cases data.find? "csrf_prevention_token" <;> rfl

theorem token_eq_ok {data : Members} {o : Option Text} :
    Field.optional data ["CSRFPreventionToken", "csrf_prevention_token"] none
        (Field.nullable Field.text) = .ok o ↔
      match o with
      | some token => data.find? (tokenKey data) = some (.text token)
      | none => data.find? (tokenKey data) = none ∨ data.find? (tokenKey data) = some .null := by
  unfold Field.optional
  rw [pick?_token]
  cases data.find? (tokenKey data) with
  | none => cases o <;> simp
  | some v =>
    simp only [Option.map_some, Checked.within_eq_ok, Field.nullable_text_eq_ok]
    cases o <;> simp

/-- What is kept is all that no field uses. -/
theorem without_usedKeys {data : Members} {v w : Json} (hticket : data.find? "ticket" = some v)
    (husername : data.find? "username" = some w) :
    data.without (Field.usedKeys data keys) =
      data.filter fun m => m.1 ∉ ["ticket", "username", tokenKey data].map Text.ofString := by
  have hused : Field.usedKeys data keys =
      [Text.ofString "ticket", Text.ofString "username"] ++
        ((data.find? (tokenKey data)).map fun _ => Text.ofString (tokenKey data)).toList := by
    unfold Field.usedKeys keys
    simp only [List.filterMap_cons, List.filterMap_nil, pick?_token]
    simp only [Field.pick?, hticket, husername]
    cases data.find? (tokenKey data) <;> rfl
  unfold Members.without
  refine List.filter_congr fun m hm => ?_
  rw [hused]
  cases htoken : data.find? (tokenKey data) with
  | some u => simp
  | none =>
    have hne : m.1 ≠ Text.ofString (tokenKey data) := find?_eq_none_iff.mp htoken m hm
    simp [hne]

/-- Ticket data is read from an object that says it, and from no other value. -/
theorem ofJson_eq_ok {v : Json} {t : Ticket} :
    ofJson v = .ok t ↔ ∃ data, v = .object data ∧ Says data t := by
  cases v with
  | object data =>
    have hfields (x : Checked ((String × String × Option Text) × Members)) :
        (x >>= fun p => .ok ⟨p.1.1, p.1.2.1, p.1.2.2, p.2⟩ : Checked Ticket) = .ok t ↔
          x = .ok ((t.ticket, t.username, t.csrfToken), t.extra) := by
      cases x with
      | error fs => simp [bind, Except.bind]
      | ok p =>
        obtain ⟨⟨ticket, username, token⟩, extra⟩ := p
        obtain ⟨ticket', username', token', extra'⟩ := t
        simp [bind, Except.bind, and_assoc]
    have hread : ofJson (.object data) = .ok t ↔ _ := hfields _
    rw [hread, Field.withExtra_eq_ok]
    simp only [Checked.both_eq_ok, Field.required_eq_ok, Field.nonempty_eq_ok, token_eq_ok]
    constructor
    · rintro ⟨⟨⟨v, hticket, rfl, hticket_ne⟩, ⟨w, husername, rfl, husername_ne⟩, htoken⟩, hextra, hkeys⟩
      refine ⟨data, rfl, hticket, hticket_ne, husername, husername_ne, htoken, ?_, hkeys⟩
      rw [hextra, without_usedKeys hticket husername]
    · rintro ⟨data', hdata, htold⟩
      cases hdata
      refine ⟨⟨⟨_, htold.ticket, rfl, htold.ticket_ne⟩, ⟨_, htold.username, rfl, htold.username_ne⟩,
        htold.token⟩, ?_, htold.keys⟩
      rw [htold.extra, without_usedKeys htold.ticket htold.username]
  | null | bool _ | int _ | real _ | text _ | array _ =>
    refine iff_of_false nofun ?_
    rintro ⟨data, hdata, -⟩
    cases hdata

/-- The ticket in an answer is what its member of that name says. -/
theorem ofAnswer_eq_ok {ms : Members} {t : Ticket} :
    ofAnswer (.object ms) = .ok t ↔ ∃ data, ms.find? "data" = some (.object data) ∧ Says data t := by
  have hread : ofAnswer (.object ms) = .ok t ↔ _ := Field.required_eq_ok
  rw [hread]
  simp only [ofJson_eq_ok]
  constructor
  · rintro ⟨v, hv, data, rfl, htold⟩
    exact ⟨data, hv, htold⟩
  · rintro ⟨data, hdata, htold⟩
    exact ⟨_, hdata, data, rfl, htold⟩

end Ticket

end SecondFactor
