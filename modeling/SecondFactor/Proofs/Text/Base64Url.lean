import SecondFactor.Proofs.Text.Utf8
import SecondFactor.Text.Base64Url

/-! # base64url that is read back

Reading is lenient, but what was written is read as the bytes for which it was written: four
characters make three bytes, and the padding that reading adds ends the last group. -/

namespace SecondFactor.Base64Url

/-! ## Characters -/

theorem digit_mem : ∀ n < 64, digit n ∈ alphabet := by decide

theorem digit_notPad {n : Nat} (h : n < 64) : digit n ≠ '=' := by
  intro hpad
  have hmem : '=' ∈ alphabet := hpad ▸ digit_mem n h
  revert hmem
  decide

theorem isAscii_of_mem {c : Char} (hc : c ∈ alphabet) : (CodePoint.char c).isAscii = true := by
  have hall : alphabet.all (fun c => (CodePoint.char c).isAscii) = true := by decide
  exact List.all_eq_true.mp hall c hc

theorem value_digit {n : Nat} (h : n < 64) : value? (digit n) = some n := by
  have hall : ∀ n : Fin 64, value? (digit n) = some n.val := by decide +kernel
  exact hall ⟨n, h⟩

/-- What is written is in the alphabet, so that it needs neither quotes nor escapes. -/
theorem mem_encodeChars {bs : Bytes} {c : Char} (hc : c ∈ encodeChars bs) : c ∈ alphabet := by
  induction bs using encodeChars.induct with
  | case1 => cases hc
  | case2 a =>
    have ha := a.toNat_lt
    simp only [encodeChars, List.mem_cons, List.not_mem_nil, or_false] at hc
    rcases hc with rfl | rfl <;> exact digit_mem _ (by omega)
  | case3 a b =>
    have ha := a.toNat_lt
    have hb := b.toNat_lt
    simp only [encodeChars, List.mem_cons, List.not_mem_nil, or_false] at hc
    rcases hc with rfl | rfl | rfl <;> exact digit_mem _ (by omega)
  | case4 a b d rest ih =>
    have ha := a.toNat_lt
    have hb := b.toNat_lt
    have hd := d.toNat_lt
    simp only [encodeChars, List.mem_cons] at hc
    rcases hc with rfl | rfl | rfl | rfl | hc
    · exact digit_mem _ (by omega)
    · exact digit_mem _ (by omega)
    · exact digit_mem _ (by omega)
    · exact digit_mem _ (by omega)
    · exact ih hc

/-! ## Groups of four characters -/

/-- A character is read at its place in its group. -/
theorem scan_digit {n : Nat} (h : n < 64) (place left pads : Nat) (s : List Char) :
    scan place left pads (digit n :: s) =
      match place with
      | 0 => scan 1 n 0 s
      | 1 => (scan 2 (n % 16) 0 s).map (UInt8.ofNat (left * 4 + n / 16) :: ·)
      | 2 => (scan 3 (n % 4) 0 s).map (UInt8.ofNat (left * 16 + n / 4) :: ·)
      | _ => (scan 0 0 0 s).map (UInt8.ofNat (left * 64 + n) :: ·) := by
  have hvalue := value_digit h
  rw [scan, if_neg (digit_notPad h)]
  generalize value? (digit n) = v at hvalue ⊢
  subst hvalue
  rfl

/-- A number that has the bits of a byte is that byte. -/
theorem ofNat_of_eq {n : Nat} {b : UInt8} (h : n = b.toNat) : UInt8.ofNat n = b := by
  rw [h, UInt8.ofNat_toNat]

/-- The padding that a text needs. -/
def padding (s : List Char) : List Char := List.replicate ((4 - s.length % 4) % 4) '='

/-- Whole groups in front change nothing about the padding. -/
theorem padding_cons (w x y z : Char) (s : List Char) :
    padding (w :: x :: y :: z :: s) = padding s := by
  have hlength : (w :: x :: y :: z :: s).length % 4 = s.length % 4 := by
    simp only [List.length_cons]
    omega
  unfold padding
  rw [hlength]

theorem scan_encodeChars (bs : Bytes) :
    scan 0 0 0 (encodeChars bs ++ padding (encodeChars bs)) = some bs := by
  induction bs using encodeChars.induct with
  | case1 => rfl
  | case2 a =>
    have ha := a.toNat_lt
    have h₁ : a.toNat / 4 < 64 := by omega
    have h₂ : a.toNat % 4 * 16 < 64 := by omega
    have hbyte : UInt8.ofNat (a.toNat / 4 * 4 + a.toNat % 4 * 16 / 16) = a := ofNat_of_eq (by omega)
    simp only [encodeChars, List.cons_append, List.nil_append, scan_digit h₁, scan_digit h₂, hbyte]
    rfl
  | case3 a b =>
    have ha := a.toNat_lt
    have hb := b.toNat_lt
    have h₁ : a.toNat / 4 < 64 := by omega
    have h₂ : a.toNat % 4 * 16 + b.toNat / 16 < 64 := by omega
    have h₃ : b.toNat % 16 * 4 < 64 := by omega
    have hfirst : UInt8.ofNat (a.toNat / 4 * 4 + (a.toNat % 4 * 16 + b.toNat / 16) / 16) = a :=
      ofNat_of_eq (by omega)
    have hsecond : UInt8.ofNat ((a.toNat % 4 * 16 + b.toNat / 16) % 16 * 16 +
        b.toNat % 16 * 4 / 4) = b := ofNat_of_eq (by omega)
    simp only [encodeChars, List.cons_append, List.nil_append, scan_digit h₁, scan_digit h₂,
      scan_digit h₃, hfirst, hsecond]
    rfl
  | case4 a b c rest ih =>
    have ha := a.toNat_lt
    have hb := b.toNat_lt
    have hc := c.toNat_lt
    have h₁ : a.toNat / 4 < 64 := by omega
    have h₂ : a.toNat % 4 * 16 + b.toNat / 16 < 64 := by omega
    have h₃ : b.toNat % 16 * 4 + c.toNat / 64 < 64 := by omega
    have h₄ : c.toNat % 64 < 64 := by omega
    have hfirst : UInt8.ofNat (a.toNat / 4 * 4 + (a.toNat % 4 * 16 + b.toNat / 16) / 16) = a :=
      ofNat_of_eq (by omega)
    have hsecond : UInt8.ofNat ((a.toNat % 4 * 16 + b.toNat / 16) % 16 * 16 +
        (b.toNat % 16 * 4 + c.toNat / 64) / 4) = b := ofNat_of_eq (by omega)
    have hthird : UInt8.ofNat ((b.toNat % 16 * 4 + c.toNat / 64) % 4 * 64 + c.toNat % 64) = c :=
      ofNat_of_eq (by omega)
    simp only [encodeChars, List.cons_append, padding_cons, scan_digit h₁, scan_digit h₂,
      scan_digit h₃, scan_digit h₄, hfirst, hsecond, hthird, ih]
    rfl

/-! ## Texts -/

/-- A text of ASCII alone is read character by character. -/
theorem mapM_ascii {s : List Char} (hs : ∀ c ∈ s, (CodePoint.char c).isAscii = true) :
    ((s.map CodePoint.char).mapM fun p => if p.isAscii then p.char? else none) = some s := by
  induction s with
  | nil => rfl
  | cons c s ih =>
    obtain ⟨hc, hs⟩ := List.forall_mem_cons.mp hs
    rw [List.map_cons, List.mapM_cons, ih hs, if_pos hc]
    rfl

theorem decode_encodeChars (bs : Bytes) : decode ((encodeChars bs).map .char) = .ok bs := by
  have hscan := scan_encodeChars bs
  unfold padding at hscan
  unfold decode
  rw [mapM_ascii fun c hc => isAscii_of_mem (mem_encodeChars hc)]
  dsimp only
  rw [hscan]

theorem eq_of_mapM {t : Text} {s : List Char}
    (h : (t.mapM fun p => if p.isAscii then p.char? else none) = some s) : t = s.map .char := by
  induction t generalizing s with
  | nil =>
    cases h
    rfl
  | cons p t ih =>
    rw [List.mapM_cons] at h
    obtain ⟨c, hc, h⟩ := Option.bind_eq_some_iff.mp h
    obtain ⟨s', hs', h⟩ := Option.bind_eq_some_iff.mp h
    cases h
    rw [List.map_cons, ← ih hs']
    split at hc
    · cases p with
      | char d =>
        cases hc
        rfl
      | surrogate o => cases hc
    · cases hc

/-- No text in which a surrogate stands alone is read. -/
theorem exists_of_decode {t : Text} {bs : Bytes} (h : decode t = .ok bs) :
    ∃ s : List Char, t = s.map .char := by
  unfold decode at h
  split at h
  · cases h
  · rename_i s hs
    exact ⟨s, eq_of_mapM hs⟩

end SecondFactor.Base64Url
