import SecondFactor.Method
import SecondFactor.Proofs.Text.CodePoint
import SecondFactor.Proofs.Text.Split

/-! # What may be typed

What is typed is checked once, before it is sent and counts against the limit of tries. The check
takes six digits for a time code and four groups of four digits for a recovery key and nothing else,
and what it takes can be told from the proof that is made of it. -/

namespace SecondFactor

/-- Whether a text is made of so many characters of an alphabet. -/
def MadeOf (n : Nat) (alphabet : String) (s : List Char) : Prop :=
  s.length = n ∧ ∀ c ∈ s, c ∈ alphabet.toList

instance (n : Nat) (alphabet : String) (s : List Char) : Decidable (MadeOf n alphabet s) :=
  have : Decidable (∀ c ∈ s, c ∈ alphabet.toList) := List.decidableBAll _ s
  inferInstanceAs (Decidable (_ ∧ _))

namespace Method

/-! ## Digits -/

theorem isDigit_iff (c : Char) : isDigit c = true ↔ c ∈ "0123456789".toList := by
  have hall : ∀ d ∈ "0123456789".toList, isDigit d = true := forall_mem_of_all (by decide)
  refine ⟨?_, hall c⟩
  intro hc
  have hascii : c.toNat < 0x80 := by
    simp only [isDigit, Bool.and_eq_true, decide_eq_true_eq] at hc
    exact toNat_lt_of_le hc.2 (by decide)
  revert hc
  apply forall_ascii hascii
  decide

theorem isLowerHex_iff (c : Char) : isLowerHex c = true ↔ c ∈ "0123456789abcdef".toList := by
  have hall : ∀ d ∈ "0123456789abcdef".toList, isLowerHex d = true :=
    forall_mem_of_all (by decide)
  refine ⟨?_, hall c⟩
  intro hc
  have hascii : c.toNat < 0x80 := by
    simp only [isLowerHex, isDigit, Bool.or_eq_true, Bool.and_eq_true, decide_eq_true_eq] at hc
    obtain ⟨-, hle⟩ | ⟨-, hle⟩ := hc
    all_goals exact toNat_lt_of_le hle (by decide)
  revert hc
  apply forall_ascii hascii
  decide

/-! ## Shapes -/

theorem accepts_totp_iff (s : String) :
    totp.accepts s = true ↔ MadeOf 6 "0123456789" s.toList := by
  simp [accepts, MadeOf, isDigit_iff]

theorem accepts_recovery_iff (s : String) :
    recovery.accepts s = true ↔ ∃ groups : List (List Char), groups.length = 4 ∧
      (∀ g ∈ groups, MadeOf 4 "0123456789abcdef" g) ∧ s.toList = ['-'].intercalate groups := by
  have hshape : recovery.accepts s = true ↔ (Split.on '-' s.toList).length = 4 ∧
      ∀ g ∈ Split.on '-' s.toList, MadeOf 4 "0123456789abcdef" g := by
    simp [accepts, MadeOf, isLowerHex_iff]
  rw [hshape]
  constructor
  · rintro ⟨hlength, hgroups⟩
    refine ⟨Split.on '-' s.toList, hlength, hgroups, ?_⟩
    rw [← Split.join_eq_intercalate, Split.join_on]
  · rintro ⟨groups, hlength, hgroups, hs⟩
    have hne : groups ≠ [] := by
      rintro rfl
      cases hlength
    -- no group holds a dash, so that the text is cut where it was joined
    have hdash : ∀ g ∈ groups, '-' ∉ g := by
      intro g hg hmem
      exact absurd ((hgroups g hg).2 '-' hmem) (by decide)
    rw [hs, ← Split.join_eq_intercalate, Split.on_join hne hdash]
    exact ⟨hlength, hgroups⟩

/-- A time code is one group, and a recovery key is four. -/
theorem not_accepts_recovery_of_totp {s : String} (h : totp.accepts s = true) :
    recovery.accepts s = false := by
  obtain ⟨-, hdigits⟩ := (accepts_totp_iff s).mp h
  have hone : Split.on '-' s.toList = [s.toList] := by
    refine Split.atEach_of_forall fun c hc => beq_eq_false_iff_ne.mpr ?_
    rintro rfl
    exact absurd (hdigits '-' hc) (by decide)
  simp [accepts, hone]

/-- Whatever may be typed is ASCII. -/
theorem ascii_of_accepts {m : Method} {s : String} (h : m.accepts s = true) :
    ∀ c ∈ s.toList, c.toNat < 0x80 := by
  have hdigit : ∀ c ∈ "0123456789".toList, c.toNat < 0x80 := forall_mem_of_all (by decide)
  have hhex : ∀ c ∈ "0123456789abcdef".toList, c.toNat < 0x80 := forall_mem_of_all (by decide)
  cases m with
  | webauthn => cases h
  | totp => exact fun c hc => hdigit c (((accepts_totp_iff s).mp h).2 c hc)
  | recovery =>
    obtain ⟨groups, -, hgroups, hs⟩ := (accepts_recovery_iff s).mp h
    rw [hs, ← Split.join_eq_intercalate]
    exact Split.forall_mem_join (by decide) fun g hg c hc => hhex c ((hgroups g hg).2 c hc)

/-! ## Texts of code points -/

theorem acceptsText_iff (m : Method) (t : Text) :
    m.acceptsText t = true ↔ ∃ s, t = Text.ofString s ∧ m.accepts s = true := by
  simp only [acceptsText, Option.any_eq_true, Text.toString?_eq_some_iff]

theorem acceptsText_of_accepts {m : Method} {s : List Char}
    (h : m.accepts (String.ofList s) = true) : m.acceptsText (s.map .char) = true := by
  refine (acceptsText_iff m _).mpr ⟨String.ofList s, ?_, h⟩
  rw [Text.ofString, String.toList_ofList]

theorem acceptsText_totp_iff (t : Text) :
    totp.acceptsText t = true ↔ ∃ s, t = s.map .char ∧ MadeOf 6 "0123456789" s := by
  constructor
  · intro h
    obtain ⟨s, ht, hs⟩ := (acceptsText_iff totp t).mp h
    exact ⟨s.toList, ht, (accepts_totp_iff s).mp hs⟩
  · rintro ⟨s, rfl, hs⟩
    refine acceptsText_of_accepts ((accepts_totp_iff _).mpr ?_)
    rwa [String.toList_ofList]

theorem acceptsText_recovery_iff (t : Text) :
    recovery.acceptsText t = true ↔ ∃ groups : List (List Char),
      t = (['-'].intercalate groups).map .char ∧ groups.length = 4 ∧
        ∀ g ∈ groups, MadeOf 4 "0123456789abcdef" g := by
  constructor
  · intro h
    obtain ⟨s, ht, hs⟩ := (acceptsText_iff recovery t).mp h
    obtain ⟨groups, hlength, hgroups, hjoin⟩ := (accepts_recovery_iff s).mp hs
    exact ⟨groups, hjoin ▸ ht, hlength, hgroups⟩
  · rintro ⟨groups, rfl, hlength, hgroups⟩
    refine acceptsText_of_accepts ((accepts_recovery_iff _).mpr ⟨groups, hlength, hgroups, ?_⟩)
    exact String.toList_ofList

theorem acceptsText_webauthn (t : Text) : webauthn.acceptsText t = false := by
  refine Bool.eq_false_iff.mpr fun h => ?_
  obtain ⟨s, -, hs⟩ := (acceptsText_iff webauthn t).mp h
  cases hs

theorem not_acceptsText_both (t : Text) :
    ¬ (totp.acceptsText t = true ∧ recovery.acceptsText t = true) := by
  rintro ⟨htotp, hrecovery⟩
  obtain ⟨s, rfl, hs⟩ := (acceptsText_iff totp t).mp htotp
  obtain ⟨s', hsame, hs'⟩ := (acceptsText_iff recovery _).mp hrecovery
  rw [← Text.ofString_injective hsame, not_accepts_recovery_of_totp hs] at hs'
  cases hs'

end Method

/-! ## Proofs that are read back -/

/-- The proof that a text writes: the word for its method stands before the first colon. -/
def Proof.ofText? (text : String) : Option Proof :=
  match text.toList.dropWhile (· ≠ ':') with
  | [] => none
  | _ :: payload =>
    (Method.ofWord? (String.ofList (text.toList.takeWhile (· ≠ ':')))).map fun method =>
      { method, payload := String.ofList payload }

theorem Method.word_injective {m m' : Method} (h : m.word.toList = m'.word.toList) : m = m' := by
  revert h
  cases m <;> cases m' <;> decide

/-- The payload of a proof stands behind its first colon. -/
theorem Proof.split_text (p : Proof) :
    p.text.toList.takeWhile (· ≠ ':') = p.method.word.toList ∧
      p.text.toList.dropWhile (· ≠ ':') = ':' :: p.payload.toList := by
  have htext : p.text.toList = p.method.word.toList ++ ':' :: p.payload.toList := by
    simp [Proof.text]
  have hall : p.method.word.toList.all (· ≠ ':') = true := by
    cases p.method <;> decide
  have hword := List.all_eq_true.mp hall
  rw [htext]
  constructor
  · rw [List.takeWhile_append_of_pos hword]
    simp
  · rw [List.dropWhile_append_of_pos hword]
    simp

theorem Method.ofWord_word (m : Method) : ofWord? m.word = some m := by
  cases m <;> rfl

theorem Proof.ofText_text (p : Proof) : ofText? p.text = some p := by
  obtain ⟨hword, hpayload⟩ := p.split_text
  simp only [ofText?, hword, hpayload, String.ofList_toList, Method.ofWord_word, Option.map_some]

theorem Proof.ascii_text {p : Proof} (h : p.method.accepts p.payload = true) :
    ∀ c ∈ p.text.toList, c.toNat < 0x80 := by
  have hword : ∀ c ∈ (p.method.word ++ ":").toList, c.toNat < 0x80 := by
    cases p.method <;> exact forall_mem_of_all (by decide)
  rw [text, String.toList_append]
  exact List.forall_mem_append.mpr ⟨hword, Method.ascii_of_accepts h⟩

/-! ## Main result -/

/-- A text may be typed for a time code exactly when it is six decimal digits, and for a recovery key
exactly when it is four groups of four lower case hexadecimal digits with a dash between each and the
next. None may be typed for both, and none for a security key. Whatever may be typed is a string, and
the proof that is made of it is ASCII and gives back the method and what was typed. -/
theorem Method.acceptsText_exactly (t : Text) :
    (totp.acceptsText t = true ↔ ∃ s, t = s.map .char ∧ MadeOf 6 "0123456789" s) ∧
    (recovery.acceptsText t = true ↔ ∃ groups : List (List Char),
      t = (['-'].intercalate groups).map .char ∧ groups.length = 4 ∧
        ∀ g ∈ groups, MadeOf 4 "0123456789abcdef" g) ∧
    ¬ (totp.acceptsText t = true ∧ recovery.acceptsText t = true) ∧
    webauthn.acceptsText t = false ∧
    ∀ m, m.acceptsText t = true ↔ ∃ s, t = Text.ofString s ∧ m.accepts s = true ∧
      (∀ c ∈ (Proof.text ⟨m, s⟩).toList, c.toNat < 0x80) ∧
      Proof.ofText? (Proof.text ⟨m, s⟩) = some ⟨m, s⟩ := by
  refine ⟨acceptsText_totp_iff t, acceptsText_recovery_iff t, not_acceptsText_both t,
    acceptsText_webauthn t, fun m => ⟨fun h => ?_, ?_⟩⟩
  · obtain ⟨s, ht, hs⟩ := (acceptsText_iff m t).mp h
    have hascii := Proof.ascii_text (p := ⟨m, s⟩) hs
    exact ⟨s, ht, hs, hascii, Proof.ofText_text ⟨m, s⟩⟩
  · rintro ⟨s, ht, hs, -⟩
    exact (acceptsText_iff m t).mpr ⟨s, ht, hs⟩

/-- A recovery key of digits and letters. -/
def sampleKey : String := "ab12-cd34-ef56-0000"

theorem Method.acceptsText_exactly_key :
    recovery.acceptsText (Text.ofString sampleKey) = true ∧
      ∃ s, Text.ofString sampleKey = Text.ofString s ∧ recovery.accepts s = true ∧
        (∀ c ∈ (Proof.text ⟨recovery, s⟩).toList, c.toNat < 0x80) ∧
        Proof.ofText? (Proof.text ⟨recovery, s⟩) = some ⟨recovery, s⟩ := by
  obtain ⟨-, hrecovery, -, -, hproof⟩ := acceptsText_exactly (Text.ofString sampleKey)
  have haccepts : recovery.acceptsText (Text.ofString sampleKey) = true := by
    let groups := ["ab12".toList, "cd34".toList, "ef56".toList, "0000".toList]
    exact hrecovery.mpr ⟨groups, by decide, by decide, by decide⟩
  exact ⟨haccepts, (hproof recovery).mp haccepts⟩

/-- The end of a line behind a time code does not belong to it. -/
example : Method.totp.accepts "123456\n" = false := by decide

end SecondFactor
