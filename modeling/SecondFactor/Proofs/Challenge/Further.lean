import SecondFactor.Negotiation.Basic
import SecondFactor.Proofs.Challenge.Recovery

/-! # Challenges with further members

A backend may send members that name no second factor. They are kept as they came, and whether a
challenge is read and what it offers does not depend on them. -/

namespace SecondFactor

namespace Members

/-- Whether members were added to an object. They may stand anywhere in it, and one whose key was
there before takes the place of the former member. -/
structure Extends (ms es ms' : Members) : Prop where
  added : ∀ m ∈ es, ms'.find? m.1 = some m.2
  kept : ∀ key, es.hasKey key = false → ms'.find? key = ms.find? key

variable {ms es ms' : Members} {key : Text} {keys : List Text}

theorem hasKey_of_mem {m : Text × Json} (h : m ∈ ms) : ms.hasKey m.1 = true :=
  List.any_eq_true.mpr ⟨m, h, beq_self_eq_true m.1⟩

theorem exists_of_hasKey (h : ms.hasKey key = true) : ∃ m ∈ ms, m.1 = key := by
  obtain ⟨m, hm, hkey⟩ := List.any_eq_true.mp h
  exact ⟨m, hm, eq_of_beq hkey⟩

theorem hasKey_eq_isSome : ms.hasKey key = (ms.find? key).isSome := by
  rw [Bool.eq_iff_iff, hasKey_iff, Option.isSome_iff_exists]

theorem find_without : (ms.without keys).find? key = if key ∈ keys then none else ms.find? key := by
  unfold find? without
  simp only [List.contains_eq_mem]
  induction ms with
  | nil => simp
  | cons m ms ih =>
    rw [List.filter_cons, List.lookup_cons]
    by_cases hkeys : m.1 ∈ keys
    · simp only [hkeys, decide_true, Bool.not_true, Bool.false_eq_true, if_false, ih]
      by_cases hm : key = m.1
      · simp [hm, hkeys]
      · simp [beq_false_of_ne hm]
    · simp only [hkeys, decide_false, Bool.not_false, if_true]
      rw [List.lookup_cons, ih]
      by_cases hm : key = m.1
      · simp [hm, hkeys]
      · simp [beq_false_of_ne hm]

/-- If each field has one key, the members that no field uses are those without any of these. -/
theorem without_usedKeys_single (names : List String) :
    ms.without (Field.usedKeys ms (names.map fun name => [name])) =
      ms.without (names.map Text.ofString) := by
  unfold without
  refine List.filter_congr fun m hm => ?_
  obtain ⟨v, hv⟩ := hasKey_iff.mp (hasKey_of_mem hm)
  have hused : m.1 ∈ Field.usedKeys ms (names.map fun name => [name]) ↔
      m.1 ∈ names.map Text.ofString := by
    simp only [Field.usedKeys, List.mem_filterMap, List.mem_map, exists_exists_and_eq_and]
    refine exists_congr fun name => and_congr_right fun _ => ?_
    constructor
    · intro h
      obtain ⟨p, hp, hname⟩ := Option.map_eq_some_iff.mp h
      unfold Field.pick? Field.pick? at hp
      split at hp <;> cases hp
      exact hname
    · intro h
      simp [Field.pick?, h, hv]
  simp only [List.contains_eq_mem, hused]

/-! ## Adding members -/

namespace Extends

theorem find_of_further (h : ms.Extends es ms') (hkey : ∀ m ∈ es, m.1 ≠ key) :
    ms'.find? key = ms.find? key := by
  refine h.kept key (Bool.eq_false_iff.mpr fun hes => ?_)
  obtain ⟨m, hm, heq⟩ := exists_of_hasKey hes
  exact hkey m hm heq

theorem without (h : ms.Extends es ms') (hes : ∀ m ∈ es, m.1 ∉ keys) :
    (ms.without keys).Extends es (ms'.without keys) where
  added m hm := by rw [find_without, if_neg (hes m hm), h.added m hm]
  kept key hkey := by rw [find_without, find_without, h.kept key hkey]

theorem hasKey (h : ms.Extends es ms') : ms'.hasKey key = (ms.hasKey key || es.hasKey key) := by
  cases hes : es.hasKey key with
  | false => rw [hasKey_eq_isSome, h.kept key hes, ← hasKey_eq_isSome, Bool.or_false]
  | true =>
    obtain ⟨m, hm, rfl⟩ := exists_of_hasKey hes
    rw [hasKey_eq_isSome, h.added m hm, Option.isSome_some, Bool.or_true]

/-- What all added keys have all keys have just if those that were there before have it. -/
theorem forall_key {P : Text → Prop} (h : ms.Extends es ms') (hes : ∀ m ∈ es, P m.1) :
    (∀ m ∈ ms', P m.1) ↔ ∀ m ∈ ms, P m.1 := by
  constructor
  · intro hall m hm
    have hkey : ms'.hasKey m.1 = true := by rw [h.hasKey, hasKey_of_mem hm, Bool.true_or]
    obtain ⟨m', hm', heq⟩ := exists_of_hasKey hkey
    exact heq ▸ hall m' hm'
  · intro hall m hm
    have hkey := hasKey_of_mem hm
    rw [h.hasKey, Bool.or_eq_true] at hkey
    rcases hkey with hkey | hkey
    · obtain ⟨m', hm', heq⟩ := exists_of_hasKey hkey
      exact heq ▸ hall m' hm'
    · obtain ⟨m', hm', heq⟩ := exists_of_hasKey hkey
      exact heq ▸ hes m' hm'

end Extends

theorem find_insert (v : Json) (other : Text) :
    (ms.insert key v).find? other = if other = key then some v else ms.find? other := by
  by_cases hother : other = key
  · subst hother
    cases h : ms.hasKey other with
    | true => rw [insert_of_hasKey h, find_assign_self h, if_pos rfl]
    | false =>
      have hnone : ms.find? other = none := by simpa [hasKey_eq_isSome] using h
      unfold find? at hnone ⊢
      rw [insert_of_not_hasKey h, List.lookup_append, hnone, if_pos rfl, Option.none_or,
        List.lookup_cons, beq_self_eq_true]
  · rw [if_neg hother]
    cases h : ms.hasKey key with
    | true => rw [insert_of_hasKey h, find_assign_of_ne hother]
    | false =>
      unfold find?
      rw [insert_of_not_hasKey h, List.lookup_append, List.lookup_cons, beq_false_of_ne hother,
        List.lookup_nil, Option.or_none]

/-- Gives some keys their values, one after the other. -/
def insertAll (ms es : Members) : Members := es.foldl (fun ms m => ms.insert m.1 m.2) ms

theorem extends_insertAll (hes : (es.map Prod.fst).Nodup) : ms.Extends es (ms.insertAll es) := by
  induction es generalizing ms with
  | nil => exact ⟨nofun, fun _ _ => rfl⟩
  | cons m es ih =>
    rw [List.map_cons, List.nodup_cons] at hes
    obtain ⟨hm, hes⟩ := hes
    have hextends : (ms.insert m.1 m.2).Extends es ((ms.insert m.1 m.2).insertAll es) := ih hes
    refine ⟨List.forall_mem_cons.mpr ⟨?_, hextends.added⟩, fun key hkey => ?_⟩
    · refine (hextends.find_of_further fun e he heq => hm ?_).trans ?_
      · exact heq ▸ List.mem_map_of_mem he
      · rw [find_insert, if_pos rfl]
    · obtain ⟨hfirst, hrest⟩ : (m.1 == key) = false ∧ hasKey es key = false := by
        simpa [hasKey] using hkey
      refine (hextends.kept key hrest).trans ?_
      rw [find_insert, if_neg fun heq => by simp [heq] at hfirst]

end Members

namespace Challenge

open Json (Spelling)

/-- The keys that name a method. -/
def methodKeys : List Text := Method.all.map fun m => Text.ofString m.word

/-- Whether no member names a method, and all their keys are free of lone surrogates. -/
def Further (es : Members) : Prop :=
  ∀ m ∈ es, m.1 ∉ methodKeys ∧ ∃ key : String, m.1 = Text.ofString key

/-- Whether a ticket carries a value, for a reader who can follow so many levels of nesting. -/
def Carries (levels : Nat) (ticket : String) (v : Json) : Prop :=
  ∃ s, text? ticket = some s ∧ Json.read levels (s.map .char) = .ok v

/-- Whether two challenges say the same about all methods, and the second one has some further
members. -/
structure Widens (c : Challenge) (es : Members) (c' : Challenge) : Prop where
  webauthn : c'.webauthn = c.webauthn
  totp : c'.totp = c.totp
  recovery : c'.recovery = c.recovery
  extra : c.extra.Extends es c'.extra

theorem Widens.available {c c' : Challenge} {es : Members} (h : c.Widens es c') :
    c'.available = c.available := by
  unfold Challenge.available
  congr 1
  funext m
  cases m with
  | webauthn => simp only [offers, h.webauthn]
  | totp => simp only [offers, h.totp]
  | recovery => simp only [offers, h.recovery]

/-! ## Reading -/

theorem without_fieldKeys (ms : Members) :
    ms.without (Field.usedKeys ms fieldKeys) = ms.without methodKeys :=
  Members.without_usedKeys_single (Method.all.map Method.word)

section

variable {ms es ms' : Members}

theorem Further.find (hes : Further es) (h : ms.Extends es ms') (m : Method) :
    ms'.find? m.word = ms.find? m.word := by
  have hkey : Text.ofString m.word ∈ methodKeys := by cases m <;> decide
  exact h.find_of_further fun e he heq => (hes e he).1 (heq ▸ hkey)

theorem Further.optional {α : Type} (hes : Further es) (h : ms.Extends es ms') (m : Method)
    (absent : α) (field : Json → Checked α) :
    Field.optional ms' [m.word] absent field = Field.optional ms [m.word] absent field := by
  unfold Field.optional Field.pick?
  rw [hes.find h]
  rfl

theorem Further.extra (hes : Further es) (h : ms.Extends es ms') :
    (ms.without methodKeys).Extends es (ms'.without methodKeys) :=
  h.without fun m hm => (hes m hm).1

/-- Further members make no difference to what else a challenge says, nor to whether it is read. -/
theorem ofJson_extends (h : ms.Extends es ms') (hes : Further es) (c' : Challenge) :
    ofJson (.object ms') = .ok c' ↔
      ∃ c, ofJson (.object ms) = .ok c ∧ c' = { c with extra := ms'.without methodKeys } := by
  have hany : (Method.all.any fun m => ms'.hasKey m.word) =
      Method.all.any fun m => ms.hasKey m.word := by
    simp only [Members.hasKey_eq_isSome, hes.find h]
  have hplain := (hes.extra h).forall_key (P := fun key => ∃ s : String, key = Text.ofString s)
    fun m hm => (hes m hm).2
  have hwebauthn := hes.optional h .webauthn none (Field.nullable KeyChallenge.ofJson)
  have htotp := hes.optional h .totp false Field.bool
  have hrecovery := hes.optional h .recovery none (Field.nullable (Field.list recoveryKey))
  simp only [Method.word] at hwebauthn htotp hrecovery
  simp only [ofJson_eq_ok, without_fieldKeys, hany, hwebauthn, htotp, hrecovery]
  constructor
  · rintro ⟨hmethod, hfields, hextra, hkeys⟩
    refine ⟨{ c' with extra := ms.without methodKeys }, ⟨hmethod, hfields, rfl, ?_⟩, ?_⟩
    · exact hplain.mp (hextra ▸ hkeys)
    · obtain ⟨webauthn, totp, recovery, extra⟩ := c'
      subst hextra
      rfl
  · rintro ⟨c, ⟨hmethod, hfields, hextra, hkeys⟩, rfl⟩
    exact ⟨hmethod, hfields, rfl, hplain.mpr (hextra ▸ hkeys)⟩

end

theorem ofTicket_carried {levels : Nat} {ticket : String} {v : Json}
    (h : Carries levels ticket v) : ofTicket levels ticket = ofPayload v := by
  obtain ⟨s, hs, hread⟩ := h
  rw [ofTicket_of_text hs]
  unfold ofText
  rw [hread]

theorem Carries.nonempty {levels : Nat} {ticket : String} {v : Json} (h : Carries levels ticket v) :
    ticket.isEmpty = false := by
  obtain ⟨s, hs, -⟩ := h
  refine Bool.eq_false_iff.mpr fun hempty => ?_
  rw [String.isEmpty_iff.mp hempty] at hs
  cases hs

/-- A negotiation does not depend on further members, nor on where the ticket spells them. -/
theorem Widens.negotiation {τ : Type} {c c' : Challenge} {es : Members} (h : c.Widens es c')
    (userid : String) {ticket ticket' : String} (hticket : ticket.isEmpty = ticket'.isEmpty) :
    (Negotiation.ofChallenge userid ticket' c' : Except Failure (Negotiation τ)) =
      (Negotiation.ofChallenge userid ticket c).map fun n =>
        { n with ticket := ticket', challenge := c' } := by
  unfold Negotiation.ofChallenge
  simp only [h.available, h.webauthn, hticket]
  cases userid.isEmpty with
  | true => rfl
  | false =>
    cases ticket'.isEmpty with
    | true => rfl
    | false =>
      simp only [Bool.false_eq_true, if_false]
      cases c.available.head? with
      | none => rfl
      | some active => cases c.webauthn.mapM Key.Options.ofChallenge <;> rfl

/-- Members that name no method can be added to the challenge of a ticket. It is read just if it was
read without them, says the same about all methods, and keeps all other members as they are. So a
negotiation of either challenge offers the same methods in the same order and asks a key to sign the
same, or neither begins. -/
theorem widens_of_extends {levels : Nat} {ticket ticket' : String} {ms es ms' : Members}
    (hticket : Carries levels ticket (.object ms)) (hticket' : Carries levels ticket' (.object ms'))
    (hextends : ms.Extends es ms') (hes : Further es) :
    ((∃ c', ofTicket levels ticket' = .ok c') ↔ ∃ c, ofTicket levels ticket = .ok c) ∧
    ∀ c c', ofTicket levels ticket = .ok c → ofTicket levels ticket' = .ok c' →
      c.Widens es c' ∧ c.extra = ms.without methodKeys ∧ c'.extra = ms'.without methodKeys ∧
      c'.available = c.available ∧
      ∀ (τ : Type) (userid : String),
        (Negotiation.ofChallenge userid ticket' c' : Except Failure (Negotiation τ)) =
          (Negotiation.ofChallenge userid ticket c).map fun n =>
            { n with ticket := ticket', challenge := c' } := by
  rw [ofTicket_carried hticket, ofTicket_carried hticket']
  simp only [ofPayload_eq_ok, ofJson_extends hextends hes]
  refine ⟨⟨fun ⟨_, c, hc, _⟩ => ⟨c, hc⟩, fun ⟨c, hc⟩ => ⟨_, c, hc, rfl⟩⟩, ?_⟩
  rintro c c' hc ⟨c₀, hc₀, rfl⟩
  obtain rfl : c = c₀ := Except.ok.inj (hc.symm.trans hc₀)
  have hextra : c.extra = ms.without methodKeys := by
    rw [← without_fieldKeys]
    exact (ofJson_eq_ok.mp hc).2.2.1
  have hwidens : c.Widens es { c with extra := ms'.without methodKeys } :=
    ⟨rfl, rfl, rfl, hextra ▸ hes.extra hextends⟩
  refine ⟨hwidens, hextra, rfl, hwidens.available, fun τ userid => ?_⟩
  exact hwidens.negotiation userid (hticket.nonempty.trans hticket'.nonempty.symm)

/-- A member that names a method. -/
def totpMember : Json.MemberSpelling where
  toKeySpelling := .written "totp".toList
  value := truth

/-- A member that names none. -/
def noteMember : Json.MemberSpelling where
  toKeySpelling := .written "note".toList
  value := .array [] []

/-- A ticket with the former member alone. -/
def totpTicket : String := "PBS:!tfa!%7B%22totp%22:true%7D"

/-- A ticket with both of them. -/
def notedTicket : String := "PBS:!tfa!%7B%22totp%22:true,%22note%22:[]%7D"

theorem carries_object {levels : Nat} (hlevels : 2 ≤ levels) {ticket : String}
    (ms : List Json.MemberSpelling) (hms : ∀ m ∈ ms, m = totpMember ∨ m = noteMember)
    (hticket : text? ticket = some (Spelling.object [] ms).text) :
    Carries levels ticket (.object (Json.gather [] ms)) := by
  obtain ⟨levels, rfl⟩ := Nat.exists_eq_add_of_le' hlevels
  have hlegal : (Spelling.object [] ms).Legal := by
    refine .object nofun (fun m hm => ?_) (fun m hm => ?_) <;> rcases hms m hm with rfl | rfl
    · exact Json.KeySpelling.legal_written _
    · exact Json.KeySpelling.legal_written _
    · exact .token (Json.token_bool true)
    · exact .array nofun nofun
  have hread : (Spelling.object [] ms).Readable (levels + 2) := by
    refine Spelling.readable_iff.mpr fun e he => ?_
    obtain ⟨m, hm, hcauses⟩ := (@Spelling.causes_object (levels + 1) [] ms e).mp he
    rcases hms m hm with rfl | rfl <;> rcases hcauses with ⟨-, hdeep⟩ | ⟨-, hlong⟩
    · exact Nat.not_lt_zero _ hdeep
    · exact hlong nofun
    · exact Nat.not_lt_zero _ (Nat.lt_of_succ_lt_succ hdeep)
    · exact hlong nofun
  exact ⟨_, hticket, (Json.read_legal hlegal (levels + 2)).1 hread⟩

theorem widens_of_extends_note :
    Carries 2 totpTicket (.object [("totp", .bool true)]) ∧
    Carries 2 notedTicket (.object [("totp", .bool true), ("note", .array [])]) ∧
    ofTicket 2 totpTicket = .ok ⟨none, true, none, []⟩ ∧
    ∃ c', ofTicket 2 notedTicket = .ok c' ∧ Widens ⟨none, true, none, []⟩ [("note", .array [])] c' ∧
      c'.extra = [(Text.ofString "note", .array [])] ∧ c'.available = [.totp] := by
  have hticket : Carries 2 totpTicket (.object [("totp", .bool true)]) :=
    carries_object (Nat.le_refl 2) [totpMember] (by simp) (by decide +kernel)
  have hticket' : Carries 2 notedTicket (.object [("totp", .bool true), ("note", .array [])]) :=
    carries_object (Nat.le_refl 2) [totpMember, noteMember] (by simp) (by decide +kernel)
  have hc : ofTicket 2 totpTicket = .ok ⟨none, true, none, []⟩ := by
    rw [ofTicket_carried hticket]
    rfl
  have hextends : Members.Extends [("totp", .bool true)] [("note", .array [])]
      [("totp", .bool true), ("note", .array [])] :=
    Members.extends_insertAll (List.pairwise_singleton _ _)
  have hfurther : Further [("note", .array [])] :=
    List.forall_mem_singleton.mpr ⟨by decide, "note", rfl⟩
  obtain ⟨hiff, hwidens⟩ := widens_of_extends hticket hticket' hextends hfurther
  obtain ⟨c', hc'⟩ := hiff.mpr ⟨_, hc⟩
  obtain ⟨hwidens, -, hextra, havailable, -⟩ := hwidens _ _ hc hc'
  exact ⟨hticket, hticket', hc, c', hc', hwidens, hextra, havailable⟩

end Challenge

end SecondFactor
