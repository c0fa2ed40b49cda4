import SecondFactor.Json.Reader
import SecondFactor.Json.Writer
import SecondFactor.Proofs.Text.CodePoint

/-! # Whole numbers that are read

A whole number is read from its decimal digits, as many as there are, and what may stand behind a
value ends them. Only then are they counted. -/

namespace SecondFactor.Json

/-- How many decimal digits a whole number has. -/
def digitCount (n : Int) : Nat := (Nat.repr n.natAbs).length

namespace Reader

/-! ## Digits -/

theorem digit_of_isDigit {c : Char} (hc : c.isDigit = true) :
    digit? (.char c) = some (c.toNat - '0'.toNat) := by
  simp only [Char.isDigit, Bool.and_eq_true, decide_eq_true_eq] at hc
  exact if_pos ⟨hc.1, hc.2⟩

/-- Digits are read as far as they go. -/
theorem digits_append {cs : List Char} (hcs : ∀ c ∈ cs, c.isDigit = true) {rest : Text}
    (hrest : digits rest = ([], rest)) :
    digits (cs.map .char ++ rest) = (cs.map fun c => c.toNat - '0'.toNat, rest) := by
  induction cs with
  | nil => exact hrest
  | cons c cs ih =>
    obtain ⟨hc, hcs⟩ := List.forall_mem_cons.mp hcs
    rw [List.map_cons, List.cons_append, digits, digit_of_isDigit hc, ih hcs]
    rfl

theorem ofDigits_map (cs : List Char) :
    ofDigits (cs.map fun c => c.toNat - '0'.toNat) = Nat.ofDigitChars 10 cs 0 := by
  rw [ofDigits, List.foldl_map, Nat.ofDigitChars_eq_foldl]

/-- No number but zero starts with a zero. -/
theorem exists_toDigits {n : Nat} (hn : 0 < n) :
    ∃ c cs, Nat.toDigits 10 n = c :: cs ∧ c ≠ '0' := by
  induction n using Nat.strongRecOn with
  | ind n ih =>
    by_cases hlt : n < 10
    · refine ⟨n.digitChar, [], Nat.toDigits_of_lt_base hlt, ?_⟩
      rw [ne_eq, Nat.digitChar_eq_zero]
      omega
    · obtain ⟨c, cs, hcs, hc⟩ := ih (n / 10) (by omega) (by omega)
      refine ⟨c, cs ++ [(n % 10).digitChar], ?_, hc⟩
      rw [Nat.toDigits_of_base_le (by decide) (by omega), hcs]
      rfl

/-! ## What stands behind a value -/

/-- Whether a value may end where a text begins. -/
def Ends : Text → Prop
  | [] => True
  | p :: _ => isBlank p = true ∨ p = .char ',' ∨ p = .char ']' ∨ p = .char '\x7d'

theorem Ends.cases {p : CodePoint} {s : Text} (h : Ends (p :: s)) :
    ∃ c ∈ [' ', '\t', '\n', '\r', ',', ']', '\x7d'], p = .char c := by
  obtain h | rfl | rfl | rfl := h
  · simp only [isBlank, Bool.or_eq_true, beq_iff_eq] at h
    obtain ((rfl | rfl) | rfl) | rfl := h <;> exact ⟨_, by decide, rfl⟩
  all_goals exact ⟨_, by decide, rfl⟩

section

variable {rest : Text} (h : Ends rest)

include h

theorem Ends.digits : digits rest = ([], rest) := by
  cases rest with
  | nil => rfl
  | cons p s =>
    obtain ⟨c, hc, rfl⟩ := h.cases
    have hnone : digit? (.char c) = none := by
      simp only [List.mem_cons, List.not_mem_nil, or_false] at hc
      rcases hc with rfl | rfl | rfl | rfl | rfl | rfl | rfl <;> rfl
    rw [Reader.digits, hnone]

theorem Ends.fraction : fraction rest = ([], rest) := by
  unfold Reader.fraction
  split
  · obtain ⟨c, hc, heq⟩ := h.cases
    cases heq
    exact absurd hc (by decide)
  · rfl

theorem Ends.exponent : exponent rest = (none, rest) := by
  have hletter (c : Char) (s : Text) (hs : rest = .char c :: s) : ¬ (c = 'e' ∨ c = 'E') := by
    subst hs
    obtain ⟨d, hd, heq⟩ := h.cases
    cases heq
    rintro (rfl | rfl) <;> exact absurd hd (by decide)
  unfold Reader.exponent
  extract_lets signed
  have hnone : signed = none := by
    simp only [signed]
    split
    · exact if_neg (hletter _ _ rfl)
    · exact if_neg (hletter _ _ rfl)
    · exact if_neg (hletter _ _ rfl)
    · rfl
  rw [hnone]

end

/-! ## Numbers -/

/-- The digits of a number are read in front of anything that ends them, and then they are
counted. -/
theorem magnitude_toDigits (negative : Bool) (n : Nat) {rest : Text} (h : Ends rest) :
    magnitude negative ((Nat.toDigits 10 n).map .char ++ rest) =
      if digitLimit < (Nat.toDigits 10 n).length then .error .integerTooLong
      else .ok (.int (if negative then -(n : Int) else n), rest) := by
  let whole := (Nat.toDigits 10 n).map fun c => c.toNat - '0'.toNat
  have hdigits : digits ((Nat.toDigits 10 n).map .char ++ rest) = (whole, rest) :=
    digits_append (fun c hc => Nat.isDigit_of_mem_toDigits (by decide) (by decide) hc) h.digits
  have hne : whole.isEmpty = false := by
    simp only [whole, List.isEmpty_map, List.isEmpty_eq_false_iff]
    exact Nat.toDigits_ne_nil
  have hlength : whole.length = (Nat.toDigits 10 n).length := List.length_map _
  have hvalue : ofDigits whole = n := (ofDigits_map _).trans Nat.ofDigitChars_ten_toDigits
  unfold magnitude
  split
  rename_i whole' s₁ hwhole
  have hread : (whole', s₁) = (whole, rest) := by
    rw [← hwhole]
    cases Nat.eq_zero_or_pos n with
    | inl hzero =>
      subst hzero
      rfl
    | inr hpos =>
      obtain ⟨c, cs, hcs, hc⟩ := exists_toDigits hpos
      rw [hcs] at hdigits ⊢
      split
      · rename_i heq
        cases heq
        exact absurd rfl hc
      · exact hdigits
  cases hread
  simp only [hne, h.fraction, h.exponent, hlength, hvalue, Bool.false_eq_true, if_false,
    List.isEmpty_nil, Option.isNone_none, Bool.and_self, if_true, gt_iff_lt]

theorem mem_of_isDigit {c : Char} (hc : c.isDigit = true) :
    c ∈ ['0', '1', '2', '3', '4', '5', '6', '7', '8', '9'] := by
  have hascii : c.toNat < 0x80 := by
    simp only [Char.isDigit, Bool.and_eq_true, decide_eq_true_eq] at hc
    exact toNat_lt_of_le hc.2 (by decide)
  revert hc
  apply forall_ascii hascii
  decide

/-- What starts with a digit, or with a minus sign and a digit, is a number. -/
theorem scalar_digit {c : Char} (hc : c.isDigit = true) (s : Text) :
    scalar (.char c :: s) = magnitude false (.char c :: s) ∧
      scalar (.char '-' :: .char c :: s) = magnitude true (.char c :: s) := by
  have hmem := mem_of_isDigit hc
  simp only [List.mem_cons, List.not_mem_nil, or_false] at hmem
  rcases hmem with rfl | rfl | rfl | rfl | rfl | rfl | rfl | rfl | rfl | rfl <;> exact ⟨rfl, rfl⟩

/-- A whole number is read as it was written, in front of anything that ends it, unless it has too
many digits. -/
theorem scalar_int (n : Int) {rest : Text} (h : Ends rest) :
    scalar ((Writer.int n).map .char ++ rest) =
      if digitLimit < digitCount n then .error .integerTooLong else .ok (.int n, rest) := by
  obtain ⟨c, cs, hcs⟩ := List.exists_cons_of_ne_nil
    (Nat.toDigits_ne_nil (n := n.natAbs) (b := 10))
  have hdigit : c.isDigit = true :=
    Nat.isDigit_of_mem_toDigits (b := 10) (n := n.natAbs) (by decide) (by decide) (by simp [hcs])
  have hcount : digitCount n = (Nat.toDigits 10 n.natAbs).length := by
    rw [digitCount, ← String.length_toList, Nat.toList_repr]
  obtain ⟨hplain, hsigned⟩ := scalar_digit hdigit (cs.map .char ++ rest)
  unfold Writer.int
  rw [Nat.toList_repr, hcount]
  split
  · rename_i hneg
    have hread := magnitude_toDigits true n.natAbs h
    have hvalue : -(n.natAbs : Int) = n := by omega
    rw [if_pos rfl, hvalue, hcs] at hread
    rw [hcs]
    exact hsigned.trans hread
  · rename_i hpos
    have hread := magnitude_toDigits false n.natAbs h
    have hvalue : (n.natAbs : Int) = n := by omega
    rw [if_neg Bool.false_ne_true, hvalue, hcs] at hread
    rw [hcs]
    exact hplain.trans hread

/-- A whole number starts with a digit or a minus sign. -/
theorem exists_int (n : Int) : ∃ c cs, Writer.int n = c :: cs ∧
    c ∈ ['-', '0', '1', '2', '3', '4', '5', '6', '7', '8', '9'] := by
  unfold Writer.int
  rw [Nat.toList_repr]
  split
  · exact ⟨'-', _, rfl, List.mem_cons_self⟩
  · obtain ⟨c, cs, hcs⟩ := List.exists_cons_of_ne_nil
      (Nat.toDigits_ne_nil (n := n.natAbs) (b := 10))
    have hdigit : c.isDigit = true :=
      Nat.isDigit_of_mem_toDigits (b := 10) (n := n.natAbs) (by decide) (by decide) (by simp [hcs])
    exact ⟨c, cs, hcs, List.mem_cons_of_mem _ (mem_of_isDigit hdigit)⟩

theorem scalar_minusZero {rest : Text} (h : Ends rest) :
    scalar (.char '-' :: .char '0' :: rest) = .ok (.int 0, rest) := by
  have hread := magnitude_toDigits true 0 h
  exact (scalar_digit (c := '0') rfl rest).2.trans hread

end Reader

end SecondFactor.Json
