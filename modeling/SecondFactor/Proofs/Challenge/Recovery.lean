import Mathlib.Data.List.Forall2
import SecondFactor.Proofs.Challenge.Reading
import SecondFactor.Proofs.Json.Members
import SecondFactor.Proofs.Json.Spelling
import SecondFactor.Proofs.Ticket.Reading

/-! # Identifiers of recovery keys

The backend writes the identifiers of recovery keys as texts or as numbers. An array of these is
read element by element, whatever else the challenge says and however it is written. -/

namespace SecondFactor

/-! ## Lists -/

theorem Checked.all_eq_ok {α : Type} {cs : List (Checked α)} {as : List α} :
    all cs = .ok as ↔ List.Forall₂ (fun c a => c = .ok a) cs as := by
  induction cs generalizing as with
  | nil => cases as <;> simp [all]
  | cons c cs ih =>
    have hall : all (c :: cs) = .ok as ↔ ∃ p, both c (all cs) = .ok p ∧ p.1 :: p.2 = as := by
      rw [all]
      cases both c (all cs) <;> simp [Except.map]
    rw [hall]
    cases as with
    | nil => simp
    | cons a as =>
      rw [List.forall₂_cons, ← ih]
      constructor
      · rintro ⟨p, hp, heq⟩
        cases heq
        exact Checked.both_eq_ok.mp hp
      · rintro ⟨hc, hcs⟩
        exact ⟨(a, as), Checked.both_eq_ok.mpr ⟨hc, hcs⟩, rfl⟩

/-- The elements of a list are read one by one, and where they stand makes no difference. -/
theorem Field.forall₂_within {α : Type} {field : Json → Checked α} {xs : List Json} {as : List α}
    (step : Nat → Fault.Step) :
    List.Forall₂ (fun c a => c = .ok a) (xs.mapIdx fun i x => (field x).within (step i)) as ↔
      List.Forall₂ (fun x a => field x = .ok a) xs as := by
  induction xs generalizing as step with
  | nil => cases as <;> simp
  | cons x xs ih =>
    rw [List.mapIdx_cons]
    cases as with
    | nil => simp
    | cons a as =>
      rw [List.forall₂_cons, List.forall₂_cons, Checked.within_eq_ok, ih fun i => step (i + 1)]

theorem Field.list_eq_ok {α : Type} {field : Json → Checked α} {xs : List Json} {as : List α} :
    list field (.array xs) = .ok as ↔ List.Forall₂ (fun x a => field x = .ok a) xs as := by
  rw [list, Checked.all_eq_ok]
  exact Field.forall₂_within .index

/-- A relation between two lists leaves out no element of the first. -/
theorem exists_forall₂_iff {α β : Type} {R : α → β → Prop} {xs : List α} :
    (∃ ys, List.Forall₂ R xs ys) ↔ ∀ x ∈ xs, ∃ y, R x y := by
  induction xs with
  | nil => simp
  | cons x xs ih =>
    rw [List.forall_mem_cons, ← ih]
    constructor
    · rintro ⟨ys, h⟩
      obtain ⟨y, ys, hy, hys, -⟩ := List.forall₂_cons_left_iff.mp h
      exact ⟨⟨y, hy⟩, ys, hys⟩
    · rintro ⟨⟨y, hy⟩, ys, hys⟩
      exact ⟨y :: ys, .cons hy hys⟩

namespace Challenge

open Json (digitCount digitLimit Spelling KeySpelling MemberSpelling Blanks)

/-! ## Identifiers -/

/-- Whether a whole number among identifiers has no more digits than the reader takes. -/
def Few (v : Json) : Prop := ∀ n, v = .int n → digitCount n ≤ digitLimit

/-- Whether a value is an identifier: a text, or a whole number, which is meant by its decimal
digits. -/
inductive Names : Json → Text → Prop
  | text (t : Text) : Names (.text t) t
  | number {n : Int} (h : digitCount n ≤ digitLimit) :
      Names (.int n) ((Json.Writer.int n).map .char)

/-- Whether a value is taken for an identifier. Truth values are taken for two words. -/
inductive Taken : Json → Text → Prop
  | named {v : Json} {t : Text} (h : Names v t) : Taken v t
  | truth (b : Bool) : Taken (.bool b) (if b then "True" else "False")

theorem taken_iff {v : Json} {t : Text} : Taken v t ↔ Few v ∧ recoveryKey v = .ok t := by
  constructor
  · rintro (⟨⟨t⟩ | ⟨h⟩⟩ | ⟨b⟩)
    · exact ⟨nofun, rfl⟩
    · refine ⟨fun n hn => ?_, rfl⟩
      cases hn
      exact h
    · exact ⟨nofun, rfl⟩
  · rintro ⟨hfew, h⟩
    cases v with
    | text t' =>
      cases h
      exact .named (.text _)
    | int n =>
      cases h
      exact .named (.number (hfew n rfl))
    | bool b =>
      cases h
      exact .truth b
    | null | real _ | array _ | object _ => cases h

theorem forall₂_taken_iff {vs : List Json} {ids : List Text} : List.Forall₂ Taken vs ids ↔
    (∀ v ∈ vs, Few v) ∧ List.Forall₂ (fun v t => recoveryKey v = .ok t) vs ids := by
  rw [← List.forall₂_and_left]
  exact ⟨.imp fun _ _ => taken_iff.mp, .imp fun _ _ => taken_iff.mpr⟩

theorem Taken.names {v : Json} {t : Text} (h : Taken v t) (hb : ∀ b, v ≠ .bool b) : Names v t := by
  cases h with
  | named h => exact h
  | truth b => exact absurd rfl (hb b)

/-- Without truth values nothing but identifiers is taken for one. -/
theorem forall₂_names_iff {vs : List Json} {ids : List Text} (hplain : ∀ v ∈ vs, ∀ b, v ≠ .bool b) :
    List.Forall₂ Names vs ids ↔ List.Forall₂ Taken vs ids := by
  refine ⟨.imp fun _ _ => .named, fun hids => ?_⟩
  have hboth := (List.forall₂_and_left _ _).mpr ⟨hplain, hids⟩
  exact hboth.imp fun _ _ h => h.2.names h.1

/-- However an identifier is written, it is read. -/
theorem Taken.readable {w : Spelling} {t : Text} (h : Taken w.value t) (hw : w.Legal)
    (depth : Nat) : w.Readable depth := by
  have hflat := hw.flat
  generalize hv : w.value = v at h hflat
  rcases h with ⟨⟨t⟩ | ⟨hcount⟩⟩ | ⟨b⟩
  · obtain ⟨hnesting, hnumerals⟩ := hflat
    exact ⟨hnesting ▸ Nat.zero_le _, fun k hk => by simp [hnumerals] at hk⟩
  · obtain ⟨hnesting, hnumerals⟩ := hflat
    refine ⟨hnesting ▸ Nat.zero_le _, fun k hk => ?_⟩
    rw [hnumerals, List.mem_singleton] at hk
    exact hk ▸ hcount
  · obtain ⟨hnesting, hnumerals⟩ := hflat
    exact ⟨hnesting ▸ Nat.zero_le _, fun k hk => by simp [hnumerals] at hk⟩

/-- A whole number in a value that is read has few digits. -/
theorem few_of_readable {w : Spelling} {depth : Nat} (hw : w.Legal) (h : w.Readable depth) :
    Few w.value := by
  intro n hn
  have hflat := hw.flat
  rw [hn] at hflat
  exact h.2 _ (hflat.2 ▸ List.mem_cons_self)

/-! ## Challenges -/

/-- The keys of the fields of a challenge. -/
def fieldKeys : List (List String) := [["webauthn"], ["totp"], ["recovery"]]

/-- A challenge is read if it names a method and all of its fields are read. -/
theorem ofJson_eq_ok {ms : Members} {c : Challenge} :
    ofJson (.object ms) = .ok c ↔
      (Method.all.any fun m => ms.hasKey m.word) = true ∧
      (Field.optional ms ["webauthn"] none (Field.nullable KeyChallenge.ofJson) = .ok c.webauthn ∧
        Field.optional ms ["totp"] false Field.bool = .ok c.totp ∧
        Field.optional ms ["recovery"] none (Field.nullable (Field.list recoveryKey)) =
          .ok c.recovery) ∧
      c.extra = ms.without (Field.usedKeys ms fieldKeys) ∧
      ∀ m ∈ c.extra, ∃ key : String, m.1 = Text.ofString key := by
  have hfields (x : Checked ((Option KeyChallenge × Bool × Option (List Text)) × Members)) :
      (x >>= fun p => .ok ⟨p.1.1, p.1.2.1, p.1.2.2, p.2⟩ : Checked Challenge) = .ok c ↔
        x = .ok ((c.webauthn, c.totp, c.recovery), c.extra) := by
    cases x with
    | error fs => simp [bind, Except.bind]
    | ok p =>
      obtain ⟨⟨webauthn, totp, recovery⟩, extra⟩ := p
      obtain ⟨webauthn', totp', recovery', extra'⟩ := c
      simp [bind, Except.bind, and_assoc]
  by_cases hany : (Method.all.any fun m => ms.hasKey m.word) = true
  · let fields := Checked.both
      (Field.optional ms ["webauthn"] none (Field.nullable KeyChallenge.ofJson))
      (Checked.both (Field.optional ms ["totp"] false Field.bool)
        (Field.optional ms ["recovery"] none (Field.nullable (Field.list recoveryKey))))
    have hread : ofJson (.object ms) = (Field.withExtra ms fieldKeys fields >>= fun p =>
        .ok ⟨p.1.1, p.1.2.1, p.1.2.2, p.2⟩) := by
      unfold ofJson Field.record
      simp only [bind, Except.bind, hany, if_true]
      rfl
    rw [hread, hfields, Field.withExtra_eq_ok]
    simp only [fields, Checked.both_eq_ok, hany, true_and]
  · have hread : ofJson (.object ms) = .fault .noSecondFactor := by
      unfold ofJson Field.record
      simp only [bind, Except.bind, hany, Bool.false_eq_true, if_false]
    rw [hread]
    simp [hany, Checked.fault]

section

variable {ms : Members} {key : String}

theorem optional_assign {α : Type} {other : String}
    (hne : Text.ofString other ≠ Text.ofString key) (v : Json) (absent : α)
    (field : Json → Checked α) :
    Field.optional (ms.assign key v) [other] absent field =
      Field.optional ms [other] absent field := by
  unfold Field.optional Field.pick?
  rw [Members.find_assign_of_ne hne]
  rfl

theorem usedKeys_assign (v : Json) (hkey : ms.hasKey key = true) :
    Field.usedKeys (ms.assign key v) fieldKeys = Field.usedKeys ms fieldKeys := by
  have hpick (name : String) :
      (Field.pick? (ms.assign key v) [name]).map (fun p => Text.ofString p.1) =
        (Field.pick? ms [name]).map fun p => Text.ofString p.1 := by
    simp only [Field.pick?]
    by_cases hne : Text.ofString name = Text.ofString key
    · obtain ⟨u, hu⟩ := Members.hasKey_iff.mp hkey
      rw [hne, Members.find_assign_self hkey, hu]
      rfl
    · rw [Members.find_assign_of_ne hne]
  unfold Field.usedKeys
  refine List.filterMap_congr fun keys hkeys => ?_
  simp only [fieldKeys, List.mem_cons, List.not_mem_nil, or_false] at hkeys
  rcases hkeys with rfl | rfl | rfl <;> exact hpick _

end

theorem recovery_eq_ok {ms : Members} {xs : List Json}
    (hxs : ms.find? "recovery" = some (.array xs)) {o : Option (List Text)} :
    Field.optional ms ["recovery"] none (Field.nullable (Field.list recoveryKey)) = .ok o ↔
      ∃ ids, List.Forall₂ (fun x t => recoveryKey x = .ok t) xs ids ∧ o = some ids := by
  have hread : Field.optional ms ["recovery"] none (Field.nullable (Field.list recoveryKey)) =
      Checked.within (.key "recovery") ((Field.list recoveryKey (.array xs)).map some) := by
    simp only [Field.optional, Field.pick?, hxs]
    rfl
  rw [hread, Checked.within_eq_ok]
  simp only [← Field.list_eq_ok]
  cases Field.list recoveryKey (.array xs) with
  | error fs => simp [Except.map]
  | ok ids => simp [Except.map, eq_comm]

/-- A challenge whose recovery keys are given as an empty array is read with any other array just if
each of its elements is read. Nothing else changes. -/
theorem ofJson_assign {ms : Members} {c : Challenge} (hc : ofJson (.object ms) = .ok c)
    (hempty : ms.find? "recovery" = some (.array [])) (xs : List Json) (c' : Challenge) :
    ofJson (.object (ms.assign "recovery" (.array xs))) = .ok c' ↔
      ∃ ids, List.Forall₂ (fun x t => recoveryKey x = .ok t) xs ids ∧
        c' = { c with recovery := some ids } := by
  have hkey : ms.hasKey "recovery" = true := Members.hasKey_iff.mpr ⟨_, hempty⟩
  have hxs : (ms.assign "recovery" (.array xs)).find? "recovery" = some (.array xs) :=
    Members.find_assign_self hkey _
  have hused : Text.ofString "recovery" ∈ Field.usedKeys ms fieldKeys :=
    List.mem_filterMap.mpr ⟨["recovery"], by simp [fieldKeys], by simp [Field.pick?, hempty]⟩
  obtain ⟨hany, ⟨hwebauthn, htotp, -⟩, hextra, hplain⟩ := ofJson_eq_ok.mp hc
  rw [ofJson_eq_ok, optional_assign (by decide), optional_assign (by decide), hwebauthn, htotp,
    usedKeys_assign _ hkey, Members.without_assign hused, ← hextra, recovery_eq_ok hxs]
  simp only [Members.hasKey_assign, hany, true_and, Except.ok.injEq]
  constructor
  · rintro ⟨⟨hwebauthn', htotp', ids, hids, hrecovery⟩, hextra', -⟩
    refine ⟨ids, hids, ?_⟩
    obtain ⟨webauthn, totp, recovery, extra⟩ := c'
    subst hwebauthn' htotp' hrecovery hextra'
    rfl
  · rintro ⟨ids, hids, rfl⟩
    exact ⟨⟨rfl, rfl, ids, hids, rfl⟩, rfl, hplain⟩

/-! ## Texts -/

/-- A way to write a challenge, in which the array of the recovery keys is left open. Blanks lead and
trail the challenge, stand before and after the array, and fill the gap behind its bracket. No member
with the same key comes again behind it. -/
structure Form where
  lead : List Char
  front : List MemberSpelling
  slot : KeySpelling
  before : List Char
  gap : List Char
  after : List Char
  back : List MemberSpelling
  trail : List Char
  blank : ∀ b ∈ [lead, before, gap, after, trail], Blanks b
  keys : ∀ m ∈ front ++ back, m.toKeySpelling.Legal
  values : ∀ m ∈ front ++ back, m.value.Legal
  slot_legal : slot.Legal
  slot_key : slot.key = Text.ofString "recovery"
  last : ∀ m ∈ back, m.key ≠ Text.ofString "recovery"

namespace Form

variable (f : Form) (ws : List Spelling)

/-- The array in its place. -/
def member : MemberSpelling where
  toKeySpelling := f.slot
  value := (Spelling.array f.gap ws).padded f.before f.after

/-- The challenge with an array of recovery keys. -/
def spelling : Spelling :=
  (Spelling.object [] (f.front ++ f.member ws :: f.back)).padded f.lead f.trail

/-- The members of the challenge. -/
def members : Members := Json.gather [] (f.front ++ f.member ws :: f.back)

variable {f ws}

theorem legal (hws : ∀ w ∈ ws, w.Legal) : (f.spelling ws).Legal := by
  have hmember : (f.member ws).value.Legal :=
    .padded (f.blank _ (by simp)) (f.blank _ (by simp)) (.array (f.blank _ (by simp)) hws)
  refine .padded (f.blank _ (by simp)) (f.blank _ (by simp)) (.object nofun ?_ ?_)
  · intro m hm
    obtain hm | hm := List.mem_append.mp hm
    · exact f.keys m (List.mem_append_left _ hm)
    · obtain rfl | hm := List.mem_cons.mp hm
      · exact f.slot_legal
      · exact f.keys m (List.mem_append_right _ hm)
  · intro m hm
    obtain hm | hm := List.mem_append.mp hm
    · exact f.values m (List.mem_append_left _ hm)
    · obtain rfl | hm := List.mem_cons.mp hm
      · exact hmember
      · exact f.values m (List.mem_append_right _ hm)

/-- What is wrong with a challenge is wrong without its recovery keys, or with one of them. -/
theorem causes_iff {levels : Nat} {e : Json.ReadError} : (f.spelling ws).Causes (levels + 2) e ↔
    (f.spelling []).Causes (levels + 2) e ∨ ∃ w ∈ ws, w.Causes levels e := by
  have hspelling (ws : List Spelling) : (f.spelling ws).Causes (levels + 2) e ↔
      (∃ m ∈ f.front ++ f.back, m.value.Causes (levels + 1) e) ∨ ∃ w ∈ ws, w.Causes levels e := by
    have hslot : (f.member ws).value.Causes (levels + 1) e ↔ ∃ w ∈ ws, w.Causes levels e :=
      @Spelling.causes_array levels f.gap ws e
    rw [← hslot]
    refine (@Spelling.causes_object (levels + 1) [] _ e).trans ?_
    simp only [List.mem_append, List.mem_cons, or_and_right, exists_or, exists_eq_left]
    rw [or_assoc, or_comm (a := (f.member ws).value.Causes _ _)]
  rw [hspelling ws, hspelling []]
  simp

/-- A challenge is readable if all else is, and each of its recovery keys. -/
theorem readable_iff {levels : Nat} : (f.spelling ws).Readable (levels + 2) ↔
    (f.spelling []).Readable (levels + 2) ∧ ∀ w ∈ ws, w.Readable levels := by
  simp only [Spelling.readable_iff, @causes_iff f ws, not_or, not_exists, not_and, forall_and]
  exact and_congr_right fun _ => ⟨fun h w hw e => h e w hw, fun h e w hw => h w hw e⟩

/-- A challenge with recovery keys takes two levels of nesting at least. -/
theorem exists_levels {levels : Nat} (h : (f.spelling ws).Readable levels) :
    ∃ n, levels = n + 2 := by
  have hmember : (f.member ws).value.nesting ≤
      Json.deepest ((f.front ++ f.member ws :: f.back).map (·.value.nesting)) :=
    Json.deepest_le_iff.mp (Nat.le_refl _) _ (List.mem_map_of_mem (by simp))
  have harray : 1 ≤ (f.member ws).value.nesting := Nat.succ_pos _
  have hobject : Json.deepest ((f.front ++ f.member ws :: f.back).map (·.value.nesting)) + 1 ≤
      levels := h.1
  exact ⟨levels - 2, by omega⟩

theorem gather_assign {key : Text} {ms : List MemberSpelling} (h : ∀ m ∈ ms, m.key ≠ key)
    (before : Members) (v : Json) :
    Json.gather (before.assign key v) ms = (Json.gather before ms).assign key v := by
  induction ms generalizing before with
  | nil => rfl
  | cons m ms ih =>
    obtain ⟨hm, hms⟩ := List.forall_mem_cons.mp h
    unfold Json.gather
    rw [List.foldl_cons, List.foldl_cons, Members.insert_assign hm]
    exact ih hms _

theorem hasKey_gather {key : Text} {before : Members} (h : before.hasKey key = true)
    (ms : List MemberSpelling) : (Json.gather before ms).hasKey key = true := by
  induction ms generalizing before with
  | nil => exact h
  | cons m ms ih => exact ih (Members.hasKey_insert h _)

/-- The members of a challenge with recovery keys are those of the one without, the array apart. -/
theorem members_eq : f.members ws =
    (f.members []).assign "recovery" (.array (ws.map (·.value))) := by
  have hgather (ws : List Spelling) : f.members ws = Json.gather
      ((Json.gather [] f.front).insert "recovery" (.array (ws.map (·.value)))) f.back := by
    have hslot : (f.member ws).key = Text.ofString "recovery" := f.slot_key
    unfold members Json.gather
    rw [List.foldl_append, List.foldl_cons, hslot]
    rfl
  rw [hgather ws, hgather [], ← gather_assign f.last, Members.assign_insert_self]

theorem find_members : (f.members ws).find? "recovery" = some (.array (ws.map (·.value))) := by
  have hkey : (f.members []).hasKey "recovery" = true := by
    have hslot : (f.member []).key = Text.ofString "recovery" := f.slot_key
    unfold members Json.gather
    rw [List.foldl_append, List.foldl_cons, hslot]
    exact hasKey_gather (Members.hasKey_insert_self _) f.back
  rw [members_eq]
  exact Members.find_assign_self hkey _

end Form

/-! ## Reading -/

theorem ofPayload_eq_ok {ms : Members} {c : Challenge} :
    ofPayload (.object ms) = .ok c ↔ ofJson (.object ms) = .ok c := by
  cases h : ofJson (.object ms) <;> simp [ofPayload, h]

/-- If a challenge is not read, it is refused or nested too deep. -/
theorem refused_of_ne_ok {levels : Nat} {s : List Char} (h : ∀ c, ofText levels s ≠ .ok c) :
    Refused (ofText levels s) ∨ ofText levels s = .error (.foreign .nestedTooDeep) := by
  by_cases hnested : Json.read levels (s.map .char) = .error .tooDeep
  · exact .inr (ofText_nested hnested)
  · obtain ⟨c, hc⟩ | hrefused := settles_ofText hnested
    · exact absurd hc (h c)
    · exact .inl hrefused

section

variable {levels : Nat} {f : Form} {ws : List Spelling} {c : Challenge}

theorem readable_of_ofText (hws : ∀ w ∈ ws, w.Legal)
    (h : ofText levels (f.spelling ws).text = .ok c) : (f.spelling ws).Readable levels := by
  refine Classical.not_not.mp fun hunread => ?_
  obtain ⟨e, he, -⟩ := (Json.read_legal (Form.legal hws) levels).2 hunread
  unfold ofText at h
  rw [he] at h
  cases h

theorem ofText_spelling (hws : ∀ w ∈ ws, w.Legal) (h : (f.spelling ws).Readable levels) :
    ofText levels (f.spelling ws).text = ofPayload (.object (f.members ws)) := by
  unfold ofText
  rw [(Json.read_legal (Form.legal hws) levels).1 h]
  rfl

/-- A challenge is read with an array of recovery keys just if each of its elements is taken for an
identifier. -/
theorem ofText_spelling_eq_ok (hws : ∀ w ∈ ws, w.Legal)
    (hvalid : ofText levels (f.spelling []).text = .ok c) (c' : Challenge) :
    ofText levels (f.spelling ws).text = .ok c' ↔
      ∃ ids, List.Forall₂ Taken (ws.map (·.value)) ids ∧ c' = { c with recovery := some ids } := by
  have hempty := readable_of_ofText (by simp) hvalid
  obtain ⟨levels, rfl⟩ := Form.exists_levels hempty
  rw [ofText_spelling (by simp) hempty, ofPayload_eq_ok] at hvalid
  simp only [forall₂_taken_iff]
  by_cases hread : ∀ w ∈ ws, w.Readable levels
  · have hfew : ∀ v ∈ ws.map (·.value), Few v := by
      rw [List.forall_mem_map]
      exact fun w hw => few_of_readable (hws w hw) (hread w hw)
    rw [ofText_spelling hws (Form.readable_iff.mpr ⟨hempty, hread⟩), ofPayload_eq_ok,
      Form.members_eq, ofJson_assign hvalid Form.find_members]
    simp only [and_iff_right hfew]
  · constructor
    · intro h
      exact absurd (Form.readable_iff.mp (readable_of_ofText hws h)).2 hread
    · rintro ⟨ids, ⟨hfew, hids⟩, -⟩
      refine absurd (fun w hw => ?_) hread
      have hall := exists_forall₂_iff.mp ⟨ids, hids⟩
      obtain ⟨t, ht⟩ := hall _ (List.mem_map_of_mem hw)
      exact (taken_iff.mpr ⟨hfew _ (List.mem_map_of_mem hw), ht⟩).readable (hws w hw) _

/-- Only recovery keys that are nested too deep are to blame if a challenge is. -/
theorem nested_of_ofText (hws : ∀ w ∈ ws, w.Legal)
    (hvalid : ofText levels (f.spelling []).text = .ok c)
    (h : ofText levels (f.spelling ws).text = .error (.foreign .nestedTooDeep)) :
    ∃ w ∈ ws, levels < w.nesting + 2 := by
  have hreadable := readable_of_ofText (by simp) hvalid
  obtain ⟨levels, rfl⟩ := Form.exists_levels hreadable
  have htooDeep : Json.read (levels + 2) ((f.spelling ws).text.map .char) = .error .tooDeep :=
    Classical.not_not.mp fun hread => not_settles_foreign .nestedTooDeep (h ▸ settles_ofText hread)
  have hlegal := Json.read_legal (Form.legal (f := f) hws) (levels + 2)
  have hunread : ¬ (f.spelling ws).Readable (levels + 2) := fun hread => by
    rw [hlegal.1 hread] at htooDeep
    cases htooDeep
  obtain ⟨e, he, hcauses⟩ := hlegal.2 hunread
  obtain rfl : e = .tooDeep := Except.error.inj (he.symm.trans htooDeep)
  obtain hempty | ⟨w, hw, hcauses⟩ := Form.causes_iff.mp hcauses
  · exact absurd hempty (Spelling.readable_iff.mp hreadable _)
  · obtain ⟨-, hdeep⟩ | ⟨htoo, -⟩ := hcauses
    · exact ⟨w, hw, Nat.add_lt_add_right hdeep 2⟩
    · cases htoo

end

/-- Whether a challenge was read as one with the recovery keys that some values stand for, or was
refused because one of these stands for none. -/
structure Identifies (c : Challenge) (vs : List Json) (x : Except Failure Challenge) : Prop where
  accepts : ∀ c', x = .ok c' ↔
    ∃ ids, List.Forall₂ Names vs ids ∧ c' = { c with recovery := some ids }
  refuses : (∃ v ∈ vs, ∀ t, ¬ Names v t) → Refused x

/-- An array of recovery keys in a challenge that is otherwise valid gives an identifier for each
element, or the challenge is refused because one of them is none. This fails for two reasons only.
Truth values are taken for identifiers, which makes a difference unless something stands beside them
that is taken for none. And an element may be nested deeper than can be followed, two levels being
taken by the challenge itself and by the array. In any case the
challenge is read exactly if each element is taken for an identifier, however it is written. -/
theorem identifies_iff {levels : Nat} {f : Form} {ws : List Spelling} {ticket : String}
    {c : Challenge} (hws : ∀ w ∈ ws, w.Legal)
    (hvalid : ofText levels (f.spelling []).text = .ok c)
    (hticket : text? ticket = some (f.spelling ws).text) :
    (Identifies c (ws.map (·.value)) (ofTicket levels ticket) ↔
      ((∃ w ∈ ws, ∃ b, w.value = .bool b) → ∃ w ∈ ws, ∀ t, ¬ Taken w.value t) ∧
        ofTicket levels ticket ≠ .error (.foreign .nestedTooDeep)) ∧
    (∀ c', ofTicket levels ticket = .ok c' ↔
      ∃ ids, List.Forall₂ Taken (ws.map (·.value)) ids ∧ c' = { c with recovery := some ids }) ∧
    (ofTicket levels ticket = .error (.foreign .nestedTooDeep) →
      ∃ w ∈ ws, levels < w.nesting + 2) := by
  rw [ofTicket_of_text hticket]
  have htaken := ofText_spelling_eq_ok hws hvalid
  refine ⟨⟨fun h => ⟨?_, ?_⟩, ?_⟩, htaken, nested_of_ofText hws hvalid⟩
  · rintro ⟨w, hw, b, hb⟩
    by_contra hnone
    push Not at hnone
    have hall : ∀ v ∈ ws.map (·.value), ∃ t, Taken v t := List.forall_mem_map.mpr hnone
    obtain ⟨ids, hids⟩ := exists_forall₂_iff.mpr hall
    obtain ⟨ids', hids', -⟩ := (h.accepts _).mp ((htaken _).mpr ⟨ids, hids, rfl⟩)
    obtain ⟨t, ht⟩ := exists_forall₂_iff.mp ⟨ids', hids'⟩ _ (List.mem_map_of_mem hw)
    rw [hb] at ht
    cases ht
  · intro hnested
    have hnone : ¬ ∃ ids, List.Forall₂ Names (ws.map (·.value)) ids := fun ⟨ids, hids⟩ => by
      have hok := (h.accepts _).mpr ⟨ids, hids, rfl⟩
      rw [hnested] at hok
      cases hok
    rw [exists_forall₂_iff] at hnone
    push Not at hnone
    exact not_settles_foreign .nestedTooDeep (hnested ▸ .inr (h.refuses hnone))
  · rintro ⟨htruth, hnested⟩
    have hnamed (ids : List Text) : List.Forall₂ Taken (ws.map (·.value)) ids ↔
        List.Forall₂ Names (ws.map (·.value)) ids := by
      refine ⟨fun hids => (forall₂_names_iff ?_).mpr hids, .imp fun _ _ => .named⟩
      have hall := List.forall_mem_map.mp (exists_forall₂_iff.mp ⟨ids, hids⟩)
      rw [List.forall_mem_map]
      intro w hw b hb
      obtain ⟨w', hw', hnone⟩ := htruth ⟨w, hw, b, hb⟩
      obtain ⟨t, ht⟩ := hall w' hw'
      exact hnone t ht
    simp only [hnamed] at htaken
    refine ⟨htaken, fun ⟨v, hv, hnone⟩ => ?_⟩
    refine (refused_of_ne_ok fun c' hc' => ?_).resolve_right hnested
    obtain ⟨ids, hids, -⟩ := (htaken c').mp hc'
    obtain ⟨t, ht⟩ := exists_forall₂_iff.mp ⟨ids, hids⟩ v hv
    exact hnone t ht

/-- A challenge that offers recovery keys only, without blanks. -/
def plain : Form where
  lead := []
  front := []
  slot := .written "recovery".toList
  before := []
  gap := []
  after := []
  back := []
  trail := []
  blank := by simp [Blanks]
  keys := by simp
  values := by simp
  slot_legal := KeySpelling.legal_written _
  slot_key := rfl
  last := by simp

/-- The challenge with no recovery keys left. -/
def bare : Challenge := ⟨none, false, some [], []⟩

theorem plain_bare {levels : Nat} (hlevels : 2 ≤ levels) :
    ofText levels (plain.spelling []).text = .ok bare := by
  have hread : (plain.spelling []).Readable levels :=
    ⟨hlevels, by simp [Json.Fits, Form.spelling, Form.member, plain, Spelling.object,
      Spelling.array, Spelling.padded]⟩
  have hmembers : plain.members [] = [(Text.ofString "recovery", .array [])] := rfl
  rw [ofText_spelling (by simp) hread, hmembers]
  rfl

/-- A recovery key that is a text, and one that is a number. -/
def mixed : List Spelling :=
  [{ text := Json.Writer.text (Text.ofString "ä"), value := .text "ä" }, .number 7]

/-- A ticket that carries both, the letter and the quotes around it escaped. -/
def mixedTicket : String := "PBS:!tfa!\x7b\"recovery\":[%22%5Cu00e4%22,7]\x7d"

theorem identifies_iff_mixed :
    (∀ w ∈ mixed, w.Legal) ∧ text? mixedTicket = some (plain.spelling mixed).text ∧
      ofText 2 (plain.spelling []).text = .ok bare ∧
      ofTicket 2 mixedTicket = .ok { bare with recovery := some ["ä", "7"] } ∧
      Identifies bare (mixed.map (·.value)) (ofTicket 2 mixedTicket) := by
  have hplain : ofText 2 (plain.spelling []).text = .ok bare := plain_bare (Nat.le_refl 2)
  have hlegal : ∀ w ∈ mixed, w.Legal := by
    rw [mixed, List.forall_mem_cons, List.forall_mem_singleton]
    exact ⟨.token (Json.token_text ['ä']), .number 7⟩
  have htext : text? mixedTicket = some (plain.spelling mixed).text := by decide +kernel
  have hnames : List.Forall₂ Names (mixed.map (·.value)) ["ä", "7"] :=
    .cons (.text _) (.cons (.number (by decide)) .nil)
  obtain ⟨hiff, htaken, -⟩ := identifies_iff hlegal hplain htext
  have hok : ofTicket 2 mixedTicket = .ok { bare with recovery := some ["ä", "7"] } :=
    (htaken _).mpr ⟨_, hnames.imp fun _ _ => .named, rfl⟩
  refine ⟨hlegal, htext, hplain, hok, hiff.mpr ⟨?_, ?_⟩⟩
  · rintro ⟨w, hw, b, hb⟩
    rw [mixed, List.mem_cons, List.mem_singleton] at hw
    rcases hw with rfl | rfl <;> cases hb
  · rw [hok]
    exact nofun

/-- A truth value in the place of a recovery key. -/
def truth : Spelling where
  text := "true".toList
  value := .bool true

/-- A ticket that carries it alone. -/
def truthTicket : String := "PBS:!tfa!%7B%22recovery%22%3A%5Btrue%5D%7D"

/-- The word for it is the identifier. -/
theorem truth_taken :
    text? truthTicket = some (plain.spelling [truth]).text ∧
      ofText 2 (plain.spelling []).text = .ok bare ∧
      ofTicket 2 truthTicket = .ok { bare with recovery := some ["True"] } ∧
      ¬ Identifies bare [truth.value] (ofTicket 2 truthTicket) := by
  have hplain : ofText 2 (plain.spelling []).text = .ok bare := plain_bare (Nat.le_refl 2)
  have htext : text? truthTicket = some (plain.spelling [truth]).text := by decide +kernel
  have hlegal : ∀ w ∈ [truth], w.Legal :=
    List.forall_mem_singleton.mpr (.token (Json.token_bool true))
  have hok : ofTicket 2 truthTicket = .ok { bare with recovery := some ["True"] } := by
    rw [ofTicket_of_text htext]
    exact (ofText_spelling_eq_ok hlegal hplain _).mpr ⟨_, .cons (.truth true) .nil, rfl⟩
  refine ⟨htext, hplain, hok, fun h => ?_⟩
  obtain ⟨ids, hids, -⟩ := (h.accepts _).mp hok
  cases hids with
  | cons hnames _ => cases hnames

end Challenge

end SecondFactor
