import SecondFactor.Proofs.Text.Base64Url
import SecondFactor.Proofs.Text.CodePoint

/-! # What is read as base64url

Reading skips what is in neither alphabet, and it looks for padding only where a group of characters
can end. More is read than is valid: what counts is whether the characters that are left come to a
close, be it because they fill their last group, or because padding does. -/

namespace SecondFactor.Base64Url

/-! ## Characters that count -/

/-- Whether a character is in one of the alphabets, or padding. -/
def counts (c : Char) : Bool := alphabet.contains c || c == '+' || c == '/' || c == '='

/-- The characters that are left when all others are skipped. -/
def significant (s : List Char) : List Char := s.filter counts

theorem counts_of_mem {c : Char} (h : c ∈ alphabet) : counts c = true := by
  simp [counts, h]

theorem toNat_lt_of_counts {c : Char} (h : counts c = true) : c.toNat < 128 := by
  simp only [counts, Bool.or_eq_true, beq_iff_eq] at h
  obtain ((h | rfl) | rfl) | rfl := h
  · exact of_decide_eq_true (isAscii_of_mem (List.contains_iff_mem.mp h))
  all_goals decide

theorem toNat_lt_of_value {c : Char} {v : Nat} (h : value? c = some v) : c.toNat < 128 := by
  unfold value? at h
  split at h
  · exact toNat_lt_of_le (And.right ‹_›) (by decide)
  split at h
  · exact toNat_lt_of_le (And.right ‹_›) (by decide)
  split at h
  · exact toNat_lt_of_le (And.right ‹_›) (by decide)
  split at h
  · rcases ‹c = '-' ∨ c = '+'› with rfl | rfl <;> decide
  split at h
  · rcases ‹c = '_' ∨ c = '/'› with rfl | rfl <;> decide
  · cases h

/-- A character has a value if and only if it counts and is no padding. -/
theorem value_isSome (c : Char) : (value? c).isSome = (counts c && c != '=') := by
  by_cases hascii : c.toNat < 128
  · apply forall_ascii hascii
    decide +kernel
  · have hcounts : counts c = false :=
      Bool.eq_false_iff.mpr fun h => hascii (toNat_lt_of_counts h)
    rw [hcounts]
    cases hv : value? c with
    | none => rfl
    | some v => exact absurd (toNat_lt_of_value hv) hascii

/-! ## Coming to a close -/

/-- How many characters are no padding. -/
def digits (u : List Char) : Nat := u.countP (· != '=')

/-- Whether characters that count come to a close, of which `place` stand before these: they fill
their groups, or at some point one or two characters of padding fill a group. -/
inductive Closes (place : Nat) (u : List Char) : Prop where
  | full (h : (place + digits u) % 4 = 0)
  | padded (p q : List Char) (hu : u = p ++ '=' :: q) (h : (place + digits p) % 4 = 3)
  | paddedTwice (p q : List Char) (hu : u = p ++ '=' :: '=' :: q) (h : (place + digits p) % 4 = 2)

theorem digits_pad (u : List Char) : digits ('=' :: u) = digits u :=
  List.countP_cons_of_neg (by decide)

theorem digits_cons {c : Char} (hc : c ≠ '=') (u : List Char) : digits (c :: u) = digits u + 1 :=
  List.countP_cons_of_pos (by simpa using hc)

theorem closes_nil (place : Nat) : Closes place [] ↔ place % 4 = 0 := by
  constructor
  · rintro (h | ⟨p, q, hu, -⟩ | ⟨p, q, hu, -⟩)
    · exact h
    · simp at hu
    · simp at hu
  · intro h
    exact .full h

theorem closes_digit {c : Char} (hc : c ≠ '=') (place : Nat) (u : List Char) :
    Closes place (c :: u) ↔ Closes (place + 1) u := by
  have hshift (p : List Char) : place + digits (c :: p) = place + 1 + digits p := by
    rw [digits_cons hc]
    omega
  constructor
  · rintro (h | ⟨p, q, hu, h⟩ | ⟨p, q, hu, h⟩)
    · exact .full (hshift u ▸ h)
    · cases p with
      | nil => exact absurd (List.cons.inj hu).1 hc
      | cons d p =>
        obtain ⟨rfl, rfl⟩ := List.cons.inj hu
        exact .padded p q rfl (hshift p ▸ h)
    · cases p with
      | nil => exact absurd (List.cons.inj hu).1 hc
      | cons d p =>
        obtain ⟨rfl, rfl⟩ := List.cons.inj hu
        exact .paddedTwice p q rfl (hshift p ▸ h)
  · rintro (h | ⟨p, q, rfl, h⟩ | ⟨p, q, rfl, h⟩)
    · exact .full ((hshift u).symm ▸ h)
    · exact .padded (c :: p) q rfl ((hshift p).symm ▸ h)
    · exact .paddedTwice (c :: p) q rfl ((hshift p).symm ▸ h)

theorem closes_pad (place : Nat) (u : List Char) :
    Closes place ('=' :: u) ↔
      place % 4 = 3 ∨ place % 4 = 2 ∧ u.head? = some '=' ∨ Closes place u := by
  constructor
  · rintro (h | ⟨p, q, hu, h⟩ | ⟨p, q, hu, h⟩)
    · exact .inr (.inr (.full (digits_pad u ▸ h)))
    · cases p with
      | nil => exact .inl h
      | cons d p =>
        obtain ⟨rfl, rfl⟩ := List.cons.inj hu
        exact .inr (.inr (.padded p q rfl (digits_pad p ▸ h)))
    · cases p with
      | nil =>
        obtain ⟨-, rfl⟩ := List.cons.inj hu
        exact .inr (.inl ⟨h, rfl⟩)
      | cons d p =>
        obtain ⟨rfl, rfl⟩ := List.cons.inj hu
        exact .inr (.inr (.paddedTwice p q rfl (digits_pad p ▸ h)))
  · rintro (h | ⟨h, hnext⟩ | h | ⟨p, q, rfl, h⟩ | ⟨p, q, rfl, h⟩)
    · exact .padded [] u rfl h
    · obtain ⟨q, rfl⟩ := List.head?_eq_some_iff.mp hnext
      exact .paddedTwice [] q rfl h
    · exact .full ((digits_pad u).symm ▸ h)
    · exact .padded ('=' :: p) q rfl ((digits_pad p).symm ▸ h)
    · exact .paddedTwice ('=' :: p) q rfl ((digits_pad p).symm ▸ h)

/-- Whole groups before do not matter. -/
theorem closes_add_four (place : Nat) (u : List Char) : Closes (place + 4) u ↔ Closes place u := by
  have hshift (n : Nat) : (place + 4 + n) % 4 = (place + n) % 4 := by omega
  constructor
  · rintro (h | ⟨p, q, hu, h⟩ | ⟨p, q, hu, h⟩)
    · exact .full (hshift _ ▸ h)
    · exact .padded p q hu (hshift _ ▸ h)
    · exact .paddedTwice p q hu (hshift _ ▸ h)
  · rintro (h | ⟨p, q, hu, h⟩ | ⟨p, q, hu, h⟩)
    · exact .full ((hshift _).symm ▸ h)
    · exact .padded p q hu ((hshift _).symm ▸ h)
    · exact .paddedTwice p q hu ((hshift _).symm ▸ h)

theorem closes_digits {s : List Char} (hs : ∀ c ∈ s, c ≠ '=') (place : Nat) (u : List Char) :
    Closes place (s ++ u) ↔ Closes (place + s.length) u := by
  induction s generalizing place with
  | nil => rfl
  | cons c s ih =>
    obtain ⟨hc, hs⟩ := List.forall_mem_cons.mp hs
    rw [List.cons_append, closes_digit hc, ih hs, List.length_cons, Nat.add_assoc,
      Nat.add_comm 1]

/-! ## Reading -/

/-- A character with a value moves on to the next place of its group. -/
theorem scan_value {c : Char} {v : Nat} (hc : c ≠ '=') (hv : value? c = some v)
    {place : Nat} (hplace : place < 4) (left pads : Nat) (s : List Char) :
    ∃ left', (scan place left pads (c :: s)).isSome =
      (scan ((place + 1) % 4) left' 0 s).isSome := by
  rw [scan, if_neg hc, hv]
  obtain rfl | rfl | rfl | rfl : place = 0 ∨ place = 1 ∨ place = 2 ∨ place = 3 := by omega
  · exact ⟨v, rfl⟩
  · exact ⟨v % 16, Option.isSome_map⟩
  · exact ⟨v % 4, Option.isSome_map⟩
  · exact ⟨0, Option.isSome_map⟩

/-- Whether reading some characters comes to an end with bytes just if those of them that count come
to a close, at whatever place of a group it begins. The padding that was met at this place is taken
to stand before them, and there is only some while two of four characters have been read. -/
def Follows (s : List Char) : Prop :=
  ∀ place pads left, place < 4 → (pads = 0 ∨ pads = 1 ∧ place = 2) →
    ((scan place left pads s).isSome = true ↔
      Closes place (List.replicate pads '=' ++ significant s))

theorem follows_nil : Follows [] := by
  intro place pads left hplace hpads
  have hend : (scan place left pads []).isSome = true ↔ place = 0 := by
    simp only [scan]
    split <;> simp [*]
  rw [hend]
  obtain rfl | ⟨rfl, rfl⟩ := hpads
  · refine Iff.trans ?_ (closes_nil place).symm
    omega
  · refine iff_of_false (by decide) fun h => ?_
    obtain h | ⟨-, h⟩ | h := (closes_pad 2 []).mp h
    · cases h
    · cases h
    · cases (closes_nil 2).mp h

namespace Follows

variable {s : List Char} (h : Follows s)

include h

/-- Padding is skipped where no group can end. Elsewhere it may fill the group, or be kept. -/
theorem pad : Follows ('=' :: s) := by
  intro place pads left hplace hpads
  have hsig : significant ('=' :: s) = '=' :: significant s := List.filter_cons_of_pos rfl
  rw [hsig, scan, if_pos rfl]
  obtain rfl | ⟨rfl, rfl⟩ := hpads
  · obtain hearly | rfl | rfl : place < 2 ∨ place = 2 ∨ place = 3 := by omega
    · rw [if_pos hearly]
      refine (h place 0 left hplace (.inl rfl)).trans (Iff.trans ?_ (closes_pad place _).symm)
      have h₂ : place % 4 ≠ 2 := by omega
      have h₃ : place % 4 ≠ 3 := by omega
      simp [h₂, h₃]
    · exact h 2 1 left hplace (.inr ⟨rfl, rfl⟩)
    · exact iff_of_true rfl ((closes_pad 3 _).mpr (.inl rfl))
  · exact iff_of_true rfl ((closes_pad 2 _).mpr (.inr (.inl ⟨rfl, rfl⟩)))

theorem foreign {c : Char} (hpad : c ≠ '=') (hv : value? c = none) : Follows (c :: s) := by
  intro place pads left hplace hpads
  have hcounts : counts c = false := by
    have h := value_isSome c
    rw [hv] at h
    simpa [hpad] using h.symm
  have hsig : significant (c :: s) = significant s :=
    List.filter_cons_of_neg (by simp [hcounts])
  have hskip : scan place left pads (c :: s) = scan place left pads s := by
    rw [scan, if_neg hpad, hv]
  rw [hskip, hsig]
  exact h place pads left hplace hpads

theorem digit {c : Char} {v : Nat} (hpad : c ≠ '=') (hv : value? c = some v) :
    Follows (c :: s) := by
  intro place pads left hplace hpads
  have hcounts : counts c = true := by
    have h := value_isSome c
    rw [hv] at h
    simpa [hpad] using h.symm
  have hsig : significant (c :: s) = c :: significant s := List.filter_cons_of_pos hcounts
  obtain ⟨left', hscan⟩ := scan_value hpad hv hplace left pads s
  have hnext : Closes ((place + 1) % 4) (significant s) ↔ Closes place (c :: significant s) := by
    rw [closes_digit hpad]
    by_cases hlast : place = 3
    · subst hlast
      exact (closes_add_four 0 _).symm
    · rw [Nat.mod_eq_of_lt (by omega)]
  rw [hscan, hsig]
  refine (h _ 0 left' (Nat.mod_lt _ (by decide)) (.inl rfl)).trans (hnext.trans ?_)
  -- padding that a digit follows is forgotten
  obtain rfl | ⟨rfl, rfl⟩ := hpads
  · rfl
  · refine Iff.trans ?_ (closes_pad 2 _).symm
    simp [hpad]

end Follows

/-- Reading comes to an end with bytes if and only if the characters that count come to a close. -/
theorem follows (s : List Char) : Follows s := by
  induction s with
  | nil => exact follows_nil
  | cons c s ih =>
    by_cases hpad : c = '='
    · exact hpad ▸ ih.pad
    · cases hv : value? c with
      | none => exact ih.foreign hpad hv
      | some v => exact ih.digit hpad hv

theorem ascii_of_mapM {t : Text} {s : List Char}
    (h : (t.mapM fun p => if p.isAscii then p.char? else none) = some s) :
    ∀ c ∈ s, (CodePoint.char c).isAscii = true := by
  induction t generalizing s with
  | nil =>
    cases h
    simp
  | cons p t ih =>
    rw [List.mapM_cons] at h
    obtain ⟨c, hc, h⟩ := Option.bind_eq_some_iff.mp h
    obtain ⟨s', hs', h⟩ := Option.bind_eq_some_iff.mp h
    cases h
    refine List.forall_mem_cons.mpr ⟨?_, ih hs'⟩
    split at hc
    · cases p with
      | char d =>
        cases hc
        assumption
      | surrogate o => cases hc
    · cases hc

/-- Whether a text is ASCII, and its characters that count come to a close once it is padded to a
multiple of four characters. -/
def Readable (t : Text) : Prop :=
  ∃ s : List Char, t = s.map .char ∧ (∀ c ∈ s, (CodePoint.char c).isAscii = true) ∧
    Closes 0 (significant (s ++ padding s))

/-- What is readable is read as some bytes, and nothing else is. -/
theorem decode_ok_iff (t : Text) : (∃ bs, decode t = .ok bs) ↔ Readable t := by
  have hclosed (s : List Char) : (scan 0 0 0 (s ++ padding s)).isSome = true ↔
      Closes 0 (significant (s ++ padding s)) :=
    follows _ 0 0 0 (by decide) (.inl rfl)
  unfold decode
  constructor
  · rintro ⟨bs, h⟩
    split at h
    · cases h
    · rename_i s hs
      dsimp only at h
      split at h
      · cases h
      · rename_i hscan
        exact ⟨s, eq_of_mapM hs, ascii_of_mapM hs, (hclosed s).mp (Option.isSome_of_eq_some hscan)⟩
  · rintro ⟨s, rfl, hs, hcloses⟩
    obtain ⟨bs, hbs⟩ := Option.isSome_iff_exists.mp ((hclosed s).mpr hcloses)
    unfold padding at hbs
    rw [mapM_ascii hs]
    dsimp only
    rw [hbs]
    exact ⟨bs, rfl⟩

/-! ## Valid texts -/

/-- Whether a text is valid: characters of the alphabet, as many as bytes need, alone or with their
padding behind them. -/
def Valid (t : Text) : Prop :=
  ∃ s : List Char, (∀ c ∈ s, c ∈ alphabet) ∧ s.length % 4 ≠ 1 ∧
    (t = s.map .char ∨ t = (s ++ padding s).map .char)

theorem ne_pad_of_mem {c : Char} (h : c ∈ alphabet) : c ≠ '=' := by
  rintro rfl
  revert h
  decide

/-- Characters of the alphabet come to a close with their padding if they are as many as bytes
need. -/
theorem closes_padding_iff {s : List Char} (hs : ∀ c ∈ s, c ∈ alphabet) :
    Closes 0 (significant (s ++ padding s)) ↔ s.length % 4 ≠ 1 := by
  have hsig : significant (s ++ padding s) = s ++ padding s := by
    refine List.filter_eq_self.mpr fun c hc => ?_
    obtain hc | hc := List.mem_append.mp hc
    · exact counts_of_mem (hs c hc)
    · rw [List.eq_of_mem_replicate hc]
      rfl
  rw [hsig, closes_digits (fun c hc => ne_pad_of_mem (hs c hc)), Nat.zero_add]
  unfold padding
  have hlt := Nat.mod_lt s.length (by decide : 4 > 0)
  generalize hrest : s.length % 4 = r at hlt
  match r, hlt with
  | 0, _ => exact iff_of_true ((closes_nil _).mpr hrest) (by decide)
  | 1, _ =>
    refine iff_of_false (fun h => ?_) (by decide)
    simp only [Nat.reduceSub, Nat.reduceMod, List.replicate] at h
    rw [closes_pad, closes_pad, closes_pad, closes_nil, hrest] at h
    simp at h
  | 2, _ => exact iff_of_true ((closes_pad _ _).mpr (.inr (.inl ⟨hrest, rfl⟩))) (by decide)
  | 3, _ => exact iff_of_true ((closes_pad _ _).mpr (.inl hrest)) (by decide)

theorem padding_append_padding (s : List Char) : padding (s ++ padding s) = [] := by
  have hlength : (s ++ padding s).length % 4 = 0 := by
    simp only [padding, List.length_append, List.length_replicate]
    omega
  rw [padding, hlength]
  rfl

/-- A valid text has no foreign characters. -/
theorem Valid.mem {t : Text} (h : Valid t) {c : Char} (hc : .char c ∈ t) :
    c ∈ alphabet ∨ c = '=' := by
  obtain ⟨s, hs, -, rfl | rfl⟩ := h
  · obtain ⟨d, hd, hdc⟩ := List.mem_map.mp hc
    cases hdc
    exact .inl (hs _ hd)
  · obtain ⟨d, hd, hdc⟩ := List.mem_map.mp hc
    cases hdc
    obtain hd | hd := List.mem_append.mp hd
    · exact .inl (hs _ hd)
    · exact .inr (List.eq_of_mem_replicate hd)

/-- What is valid is readable. -/
theorem Valid.readable {t : Text} (h : Valid t) : Readable t := by
  obtain ⟨s, hs, hlength, rfl | rfl⟩ := h
  · exact ⟨s, rfl, fun c hc => isAscii_of_mem (hs c hc), (closes_padding_iff hs).mpr hlength⟩
  · refine ⟨s ++ padding s, rfl, fun c hc => ?_, ?_⟩
    · obtain hc | hc := List.mem_append.mp hc
      · exact isAscii_of_mem (hs c hc)
      · rw [List.eq_of_mem_replicate hc]
        rfl
    · rw [padding_append_padding, List.append_nil]
      exact (closes_padding_iff hs).mpr hlength

/-- Of texts over the alphabet no more is readable than what is valid. -/
theorem Readable.valid {s : List Char} (h : Readable (s.map .char)) (hs : ∀ c ∈ s, c ∈ alphabet) :
    Valid (s.map .char) := by
  obtain ⟨s', heq, -, hcloses⟩ := h
  obtain rfl : s = s' := (List.map_inj_right fun _ _ h => CodePoint.char.inj h).mp heq
  exact ⟨s, hs, (closes_padding_iff hs).mp hcloses, .inl rfl⟩

end SecondFactor.Base64Url
