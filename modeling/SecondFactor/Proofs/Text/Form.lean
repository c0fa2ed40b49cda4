import SecondFactor.Json.Fields
import SecondFactor.Proofs.Text.Percent
import SecondFactor.Proofs.Text.Split

/-! # Form fields that are read back

Whatever stands in the fields of a form, they are read back as they were written. No character of a
name or value can pass for a separator, since the separators are written by escapes there. -/

namespace SecondFactor

/-! ## Escapes -/

namespace Percent

theorem escapes_escape (bs : Bytes) : Escapes bs (bs.flatMap escape) := by
  induction bs with
  | nil => exact .nil
  | cons b bs ih => exact .cons (.inr rfl) (.inr rfl) ih

end Percent

namespace Form

/-- The characters that stand for something else in a form than for themselves. -/
def isSpecial (c : Char) : Bool := c == '+' || c == '&' || c == '='

theorem special_upper : ∀ n < 16, isSpecial (Hex.upper n) = false := by decide

theorem special_escape {b : UInt8} {c : Char} (hc : c ∈ Percent.escape b) : isSpecial c = false := by
  have hb : b.toNat < 256 := b.toNat_lt
  simp only [Percent.escape, List.mem_cons, List.not_mem_nil, or_false] at hc
  rcases hc with rfl | rfl | rfl
  · rfl
  · exact special_upper _ (by omega)
  · exact special_upper _ (by omega)

theorem special_escapeChar {c d : Char} (hd : d ∈ Percent.escapeChar c) : isSpecial d = false := by
  obtain ⟨b, -, hd⟩ := List.mem_flatMap.mp hd
  exact special_escape hd

theorem special_of_isPlain {c : Char} (hc : isPlain c = true) : isSpecial c = false := by
  cases hspecial : isSpecial c with
  | false => rfl
  | true =>
    simp only [isSpecial, Bool.or_eq_true, beq_iff_eq] at hspecial
    rcases hspecial with (rfl | rfl) | rfl <;> revert hc <;> decide

/-! ## Names and values -/

/-- A character of a name or value is never a separator. -/
theorem separator_encodeText {s : String} {c : Char} (hc : c ∈ encodeText s) : c ≠ '&' ∧ c ≠ '=' := by
  obtain ⟨d, -, hc⟩ := List.mem_flatMap.mp hc
  have hspecial (h : isSpecial c = false) : c ≠ '&' ∧ c ≠ '=' := by
    constructor <;> rintro rfl <;> revert h <;> decide
  unfold encodeChar at hc
  split at hc
  · rename_i hplain
    cases List.mem_singleton.mp hc
    exact hspecial (special_of_isPlain hplain)
  · split at hc
    · cases List.mem_singleton.mp hc
      decide
    · exact hspecial (special_escapeChar hc)

/-- A blank for each plus sign. -/
def unplus (s : List Char) : List Char := s.map fun c => if c = '+' then ' ' else c

theorem unplus_of_special {s : List Char} (hs : ∀ c ∈ s, isSpecial c = false) : unplus s = s := by
  have hsame : ∀ c ∈ s, (if c = '+' then ' ' else c) = id c := by
    intro c hc
    refine if_neg ?_
    rintro rfl
    cases hs '+' hc
  exact (List.map_congr_left hsame).trans (List.map_id s)

/-- What is written for a text is one of the ways to write it with escapes. -/
theorem writes_unplus (s : List Char) : Percent.Writes s (unplus (s.flatMap encodeChar)) := by
  induction s with
  | nil => exact .nil
  | cons c s ih =>
    rw [List.flatMap_cons, unplus, List.map_append]
    change Percent.Writes (c :: s) (unplus (encodeChar c) ++ unplus (s.flatMap encodeChar))
    unfold encodeChar
    split
    · rename_i hplain
      have hc : isSpecial c = false := special_of_isPlain hplain
      rw [unplus_of_special (List.forall_mem_singleton.mpr hc)]
      refine .literal ?_ ih
      rintro rfl
      revert hplain
      decide
    · split
      · rename_i hblank
        subst hblank
        exact .literal (by decide) ih
      · rw [unplus_of_special fun d hd => special_escapeChar hd]
        exact .escaped (Percent.escapes_escape _) ih

theorem decodeText_encodeText (s : String) : decodeText (encodeText s) = some s := by
  have hdecode : Percent.decode (unplus (encodeText s)) = some s.toList :=
    Percent.decode_writes (writes_unplus s.toList)
  change (Percent.decode (unplus (encodeText s))).map String.ofList = some s
  rw [hdecode, Option.map_some, String.ofList_toList]

/-! ## Fields -/

/-- One field. -/
def encodeField (f : Field) : List Char := encodeText f.1 ++ '=' :: encodeText f.2

theorem encodeFields_cons (f g : Field) (fs : List Field) :
    encodeFields (f :: g :: fs) = encodeField f ++ '&' :: encodeFields (g :: fs) := by
  simp [encodeFields, encodeField]

theorem separator_encodeField (f : Field) : ∀ c ∈ encodeField f, (c == '&') = false := by
  intro c hc
  rw [beq_eq_false_iff_ne]
  rcases List.mem_append.mp hc with hname | hrest
  · exact (separator_encodeText hname).1
  · rcases List.mem_cons.mp hrest with rfl | hvalue
    · decide
    · exact (separator_encodeText hvalue).1

theorem decodeField_encodeField (f : Field) : decodeField (encodeField f) = some f := by
  have hname : ∀ c ∈ encodeText f.1, decide (c ≠ '=') = true := fun c hc =>
    decide_eq_true (separator_encodeText hc).2
  unfold decodeField encodeField
  rw [List.takeWhile_append_of_pos hname, List.dropWhile_append_of_pos hname]
  simp [decodeText_encodeText]

theorem on_encodeFields (f : Field) (fs : List Field) :
    Split.on '&' (encodeFields (f :: fs)) = (f :: fs).map encodeField := by
  induction fs generalizing f with
  | nil => exact Split.atEach_of_forall (separator_encodeField f)
  | cons g fs ih =>
    rw [encodeFields_cons, Split.on, Split.atEach_append (separator_encodeField f) rfl]
    exact congrArg (encodeField f :: ·) (ih g)

theorem mapM_decodeField (fs : List Field) : (fs.map encodeField).mapM decodeField = some fs := by
  induction fs with
  | nil => rfl
  | cons f fs ih =>
    rw [List.map_cons, List.mapM_cons, decodeField_encodeField, ih]
    rfl

/-- Fields are read back as they were written, all of them and in their order. -/
theorem decode_encode (fs : List Field) : decode (encode fs) = some fs := by
  unfold decode encode
  rw [String.toList_ofList]
  cases fs with
  | nil => rfl
  | cons f fs =>
    have hfull : ∀ part ∈ (f :: fs).map encodeField, (!part.isEmpty) = true := by
      intro part hpart
      obtain ⟨g, -, rfl⟩ := List.mem_map.mp hpart
      simp [encodeField]
    rw [on_encodeFields, List.filter_eq_self.mpr hfull]
    exact mapM_decodeField (f :: fs)

/-- A group for each field is no more than the fields. -/
theorem encodeGroups_ofField (fs : List Field) : encodeGroups (fs.map Group.ofField) = encode fs := by
  have hfields : (fs.map Group.ofField).flatMap Group.fields = fs := by
    induction fs with
    | nil => rfl
    | cons f fs ih =>
      rw [List.map_cons, List.flatMap_cons, ih]
      rfl
  rw [encodeGroups, hfields]

end Form

end SecondFactor
