import Mathlib.Algebra.Group.Nat.Defs
import Mathlib.Data.List.Basic
import SecondFactor.Proofs.Text.Base64Url

/-! # The bits that base64url spells

A text in base64url stands for a row of bits: six for each of its characters, the first one the most
significant. Bytes are a row of bits as well, eight for each. A text spells the bytes whose row is
its own, but for fewer than six zeros behind it. -/

namespace SecondFactor.Base64Url

/-! ## Rows of bits -/

/-- The low bits of a number, the most significant first. -/
def bits : Nat → Nat → List Bool
  | 0, _ => []
  | k + 1, n => decide (n / 2 ^ k % 2 = 1) :: bits k n

@[simp] theorem length_bits (k n : Nat) : (bits k n).length = k := by
  induction k with
  | zero => rfl
  | succ k ih => rw [bits, List.length_cons, ih]

/-- Bits say what a number is, as far as they go. -/
theorem bits_eq_iff {k m n : Nat} : bits k m = bits k n ↔ m % 2 ^ k = n % 2 ^ k := by
  induction k with
  | zero => simp [bits, Nat.mod_one]
  | succ k ih =>
    have hbit : m / 2 ^ k % 2 = n / 2 ^ k % 2 ↔
        decide (m / 2 ^ k % 2 = 1) = decide (n / 2 ^ k % 2 = 1) := by
      rw [decide_eq_decide]
      omega
    rw [bits, bits, List.cons.injEq, ih, ← hbit]
    constructor
    · rintro ⟨hfirst, hrest⟩
      rw [Nat.mod_pow_succ, Nat.mod_pow_succ, hrest, hfirst]
    · intro h
      constructor
      · rw [← Nat.mod_mul_right_div_self, ← Nat.mod_mul_right_div_self, ← Nat.pow_succ, h]
      · rw [← Nat.mod_mod_of_dvd m (Nat.pow_dvd_pow 2 (Nat.le_succ k)), h,
          Nat.mod_mod_of_dvd n (Nat.pow_dvd_pow 2 (Nat.le_succ k))]

theorem bits_append (m k n : Nat) : bits (m + k) n = bits m (n / 2 ^ k) ++ bits k n := by
  induction m with
  | zero => simp [bits]
  | succ m ih =>
    rw [Nat.succ_add, bits, bits, ih, Nat.div_div_eq_div_mul, ← Nat.pow_add, Nat.add_comm k m]
    rfl

/-- A number that has the bits of two numbers, one behind the other. -/
theorem bits_joined {n a b : Nat} (m k : Nat) (ha : n / 2 ^ k % 2 ^ m = a % 2 ^ m)
    (hb : n % 2 ^ k = b % 2 ^ k) : bits (m + k) n = bits m a ++ bits k b := by
  rw [bits_append, bits_eq_iff.mpr ha, bits_eq_iff.mpr hb]

/-- The bits of bytes. -/
def byteBits (bs : Bytes) : List Bool := bs.flatMap fun b => bits 8 b.toNat

/-- The bits of characters of the alphabet. -/
def charBits (s : List Char) : List Bool := s.flatMap fun c => bits 6 (alphabet.idxOf c)

theorem length_byteBits (bs : Bytes) : (byteBits bs).length = 8 * bs.length := by
  unfold byteBits
  induction bs with
  | nil => rfl
  | cons b bs ih =>
    simp only [List.flatMap_cons, List.length_append, length_bits, ih, List.length_cons]
    omega

theorem length_charBits (s : List Char) : (charBits s).length = 6 * s.length := by
  unfold charBits
  induction s with
  | nil => rfl
  | cons c s ih =>
    simp only [List.flatMap_cons, List.length_append, length_bits, ih, List.length_cons]
    omega

/-- Characters of the alphabet with the same bits are the same. -/
theorem charBits_inj {s t : List Char} (hs : ∀ c ∈ s, c ∈ alphabet) (ht : ∀ c ∈ t, c ∈ alphabet)
    (h : charBits s = charBits t) : s = t := by
  have hlength : s.length = t.length := by
    have hboth := congrArg List.length h
    rw [length_charBits, length_charBits] at hboth
    omega
  induction s generalizing t with
  | nil => exact (List.eq_nil_of_length_eq_zero hlength.symm).symm
  | cons c s ih =>
    cases t with
    | nil => cases hlength
    | cons d t =>
      obtain ⟨hc, hs⟩ := List.forall_mem_cons.mp hs
      obtain ⟨hd, ht⟩ := List.forall_mem_cons.mp ht
      simp only [charBits, List.flatMap_cons] at h
      obtain ⟨hfirst, hrest⟩ := List.append_inj h (by simp)
      have hlt (e : Char) (he : e ∈ alphabet) : alphabet.idxOf e % 2 ^ 6 = alphabet.idxOf e :=
        Nat.mod_eq_of_lt (List.idxOf_lt_length_iff.mpr he)
      have hindex : alphabet.idxOf c = alphabet.idxOf d := by
        rw [← hlt c hc, ← hlt d hd]
        exact bits_eq_iff.mp hfirst
      have hsame : c = d := (List.idxOf_inj hc).mp hindex
      rw [hsame, ih hs ht hrest (Nat.succ.inj hlength)]

/-! ## What is written -/

theorem idxOf_digit {n : Nat} (h : n < 64) : alphabet.idxOf (digit n) = n := by
  have hall : ∀ n : Fin 64, alphabet.idxOf (digit n) = n.val := by decide +kernel
  exact hall ⟨n, h⟩

theorem charBits_digit {n : Nat} (h : n < 64) (s : List Char) :
    charBits (digit n :: s) = bits 6 n ++ charBits s := by
  rw [charBits, List.flatMap_cons, idxOf_digit h]
  rfl

/-- How many zeros stand behind the bits of so many bytes. -/
def zeros (n : Nat) : Nat :=
  match n % 3 with
  | 0 => 0
  | 1 => 4
  | _ => 2

theorem zeros_lt (n : Nat) : zeros n < 6 := by
  unfold zeros
  split <;> decide

theorem byteBits_cons (b : UInt8) (bs : Bytes) :
    byteBits (b :: bs) = bits 8 b.toNat ++ byteBits bs := rfl

theorem charBits_encodeChars (bs : Bytes) :
    charBits (encodeChars bs) = byteBits bs ++ List.replicate (zeros bs.length) false := by
  -- a byte begins in one character and ends in the next one
  have first (a : UInt8) : bits 8 a.toNat = bits 6 (a.toNat / 4) ++ bits 2 a.toNat :=
    bits_joined 6 2 rfl rfl
  have second (b : UInt8) : bits 8 b.toNat = bits 4 (b.toNat / 16) ++ bits 4 b.toNat :=
    bits_joined 4 4 rfl rfl
  have third (c : UInt8) : bits 8 c.toNat = bits 2 (c.toNat / 64) ++ bits 6 c.toNat :=
    bits_joined 2 6 rfl rfl
  induction bs using encodeChars.induct with
  | case1 => rfl
  | case2 a =>
    have ha := a.toNat_lt
    have h₂ : bits 6 (a.toNat % 4 * 16) = bits 2 a.toNat ++ bits 4 0 :=
      bits_joined 2 4 (by omega) (by omega)
    rw [encodeChars, charBits_digit (by omega), charBits_digit (by omega), h₂, byteBits_cons, first]
    simp only [List.append_assoc]
    rfl
  | case3 a b =>
    have ha := a.toNat_lt
    have hb := b.toNat_lt
    have h₂ : bits 6 (a.toNat % 4 * 16 + b.toNat / 16) = bits 2 a.toNat ++ bits 4 (b.toNat / 16) :=
      bits_joined 2 4 (by omega) (by omega)
    have h₃ : bits 6 (b.toNat % 16 * 4) = bits 4 b.toNat ++ bits 2 0 :=
      bits_joined 4 2 (by omega) (by omega)
    rw [encodeChars, charBits_digit (by omega), charBits_digit (by omega),
      charBits_digit (by omega), h₂, h₃, byteBits_cons, byteBits_cons, first, second]
    simp only [List.append_assoc]
    rfl
  | case4 a b c rest ih =>
    have ha := a.toNat_lt
    have hb := b.toNat_lt
    have hc := c.toNat_lt
    have h₂ : bits 6 (a.toNat % 4 * 16 + b.toNat / 16) = bits 2 a.toNat ++ bits 4 (b.toNat / 16) :=
      bits_joined 2 4 (by omega) (by omega)
    have h₃ : bits 6 (b.toNat % 16 * 4 + c.toNat / 64) = bits 4 b.toNat ++ bits 2 (c.toNat / 64) :=
      bits_joined 4 2 (by omega) (by omega)
    have h₄ : bits 6 (c.toNat % 64) = bits 6 c.toNat := bits_eq_iff.mpr (by omega)
    have hzeros : zeros (a :: b :: c :: rest).length = zeros rest.length := by
      simp only [zeros, List.length_cons, Nat.add_mod_right, Nat.add_assoc]
    rw [encodeChars, charBits_digit (by omega), charBits_digit (by omega),
      charBits_digit (by omega), charBits_digit (by omega), h₂, h₃, h₄, ih, hzeros, byteBits_cons,
      byteBits_cons, byteBits_cons, first, second, third]
    simp only [List.append_assoc]

/-- Whether a text spells bytes in base64url, without padding. -/
def Spells (t : Text) (bs : Bytes) : Prop :=
  ∃ s : List Char, t = s.map .char ∧ (∀ c ∈ s, c ∈ alphabet) ∧
    ∃ k < 6, charBits s = byteBits bs ++ List.replicate k false

/-- Bytes are spelled in one way, which is how they are written. -/
theorem spells_iff {t : Text} {bs : Bytes} : Spells t bs ↔ t = (encodeChars bs).map .char := by
  constructor
  · rintro ⟨s, rfl, hs, k, hk, hbits⟩
    have hwritten := charBits_encodeChars bs
    have hlt := zeros_lt bs.length
    have hlength := congrArg List.length hbits
    have hlength' := congrArg List.length hwritten
    simp only [length_charBits, length_byteBits, List.length_append, List.length_replicate]
      at hlength hlength'
    have hzeros : k = zeros bs.length := by omega
    rw [hzeros, ← hwritten] at hbits
    rw [charBits_inj hs (fun c hc => mem_encodeChars hc) hbits]
  · rintro rfl
    exact ⟨_, rfl, fun c hc => mem_encodeChars hc, zeros bs.length, zeros_lt _,
      charBits_encodeChars bs⟩

/-- What spells bytes is read as these. -/
theorem decode_spells {t : Text} {bs : Bytes} (h : Spells t bs) : decode t = .ok bs := by
  rw [spells_iff.mp h]
  exact decode_encodeChars bs

end SecondFactor.Base64Url
