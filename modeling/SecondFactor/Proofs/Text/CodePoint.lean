import Mathlib.Data.List.Basic
import SecondFactor.Text.CodePoint

/-! # Characters and texts

A class of ASCII characters is known once each number below 128 was tried. A text is a string exactly
when every code point in it is a character, and then of one string only. -/

namespace SecondFactor

/-! ## Characters -/

/-- What holds of ASCII, number by number, holds of each character in it. -/
theorem forall_ascii {P : Char → Prop} {c : Char} (hc : c.toNat < 0x80)
    (h : ∀ n < 0x80, P (Char.ofNat n)) : P c :=
  Char.ofNat_toNat c ▸ h c.toNat hc

-- Without this, an instance for quantifiers over characters may go through all there are.
theorem forall_mem_of_all {p : Char → Prop} [DecidablePred p] {s : List Char}
    (hs : s.all (p ·) = true) : ∀ c ∈ s, p c := by
  simpa using hs

theorem toNat_lt_of_le {c d : Char} {n : Nat} (hcd : c ≤ d) (hd : d.toNat < n) : c.toNat < n :=
  Nat.lt_of_le_of_lt (UInt32.le_iff_toNat_le.mp hcd) hd

theorem CodePoint.ofNat_toNat (c : Char) : CodePoint.ofNat? c.toNat = some (.char c) := by
  have hvalid : c.toNat.isValidChar := c.valid
  unfold ofNat?
  rw [dif_pos hvalid]
  congr 2

/-! ## Texts -/

theorem Text.ofString_injective {s s' : String} (h : Text.ofString s = Text.ofString s') :
    s = s' := by
  have hlist : s.toList = s'.toList :=
    (List.map_inj_right fun _ _ => CodePoint.char.inj).mp h
  exact String.toList_inj.mp hlist

theorem Text.mapM_char_eq_some_iff {t : Text} {cs : List Char} :
    t.mapM CodePoint.char? = some cs ↔ t = cs.map .char := by
  induction t generalizing cs with
  | nil => simp [eq_comm]
  | cons p t ih =>
    rw [List.mapM_cons]
    cases p with
    | surrogate o => cases cs <;> simp [CodePoint.char?]
    | char c =>
      have hrest : (∃ cs', t.mapM CodePoint.char? = some cs' ∧ c :: cs' = cs) ↔
          CodePoint.char c :: t = cs.map .char := by
        cases cs <;> simp [ih, and_comm]
      simpa [CodePoint.char?, Option.bind_eq_some_iff] using hrest

theorem Text.toString?_eq_some_iff {t : Text} {s : String} :
    t.toString? = some s ↔ t = ofString s := by
  unfold toString? ofString
  rw [Option.map_eq_some_iff]
  constructor
  · rintro ⟨cs, hcs, rfl⟩
    rw [String.toList_ofList]
    exact mapM_char_eq_some_iff.mp hcs
  · rintro rfl
    exact ⟨s.toList, mapM_char_eq_some_iff.mpr rfl, String.ofList_toList⟩

end SecondFactor
