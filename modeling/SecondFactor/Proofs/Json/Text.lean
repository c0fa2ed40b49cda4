import SecondFactor.Json.Reader
import SecondFactor.Json.Writer
import SecondFactor.Proofs.Text.Percent

/-! # JSON texts that are read back

A text is written in ASCII, whatever stands in it. Its escapes are read one by one, and the two that
write a character past `U+FFFF` are joined again. -/

namespace SecondFactor

/-! ## Hexadecimal digits -/

theorem Hex.byte_lower {x y : Nat} (hx : x < 16) (hy : y < 16) :
    Hex.byte? (lower x) (lower y) = some (.ofNat (x * 16 + y)) := by
  unfold byte?
  rw [value_of_isDigit hx (.inl rfl), value_of_isDigit hy (.inl rfl)]
  rfl

theorem Hex.lower_ascii : ∀ n < 16, (lower n).toNat < 0x80 := by decide

namespace Json

/-! ## What is written is ASCII -/

namespace Writer

theorem ascii_unit {n : Nat} {c : Char} (hc : c ∈ unit n) : c.toNat < 0x80 := by
  simp only [unit, hex4, List.mem_cons, List.mem_map] at hc
  rcases hc with rfl | rfl | ⟨m, hm, rfl⟩
  · decide
  · decide
  · have hlt : m < 16 := by
      simp only [List.not_mem_nil, or_false] at hm
      omega
    exact Hex.lower_ascii m hlt

theorem ascii_point {p : CodePoint} {c : Char} (hc : c ∈ point p) : c.toNat < 0x80 := by
  have hshort {d : Char} (hd : d.toNat < 0x80) (hc : c ∈ ['\\', d]) : c.toNat < 0x80 := by
    simp only [List.mem_cons, List.not_mem_nil, or_false] at hc
    rcases hc with rfl | rfl
    · decide
    · exact hd
  unfold point at hc
  dsimp only at hc
  repeat' split at hc
  · exact hshort (by decide) hc
  · exact hshort (by decide) hc
  · exact hshort (by decide) hc
  · exact hshort (by decide) hc
  · exact hshort (by decide) hc
  · exact hshort (by decide) hc
  · exact hshort (by decide) hc
  · rename_i hprintable
    cases List.mem_singleton.mp hc
    have hvalid : p.val.isValidChar := .inl (by omega)
    unfold Char.ofNat
    rw [dif_pos hvalid]
    exact Nat.lt_trans hprintable.2 (by decide)
  · exact ascii_unit hc
  · exact (List.mem_append.mp hc).elim ascii_unit ascii_unit

theorem ascii_text {t : Text} {c : Char} (hc : c ∈ text t) : c.toNat < 0x80 := by
  simp only [text, List.mem_cons, List.mem_append, List.mem_flatMap, List.not_mem_nil,
    or_false] at hc
  rcases hc with rfl | ⟨p, -, hc⟩ | rfl
  · decide
  · exact ascii_point hc
  · decide

end Writer

/-! ## Reading escapes -/

namespace Reader

/-- A code point that is found first. -/
def found (written : Bool) (p : CodePoint)
    (rest : Except ReadError (List (Bool × CodePoint) × Text)) :
    Except ReadError (List (Bool × CodePoint) × Text) :=
  rest.map fun r => ((written, p) :: r.1, r.2)

variable (s : Text)

theorem quoted_end : quoted (.char '"' :: s) = .ok ([], s) := by
  rw [quoted.eq_def]
  exact if_pos rfl

theorem quoted_plain {c : Char} (hquote : c ≠ '"') (hescape : c ≠ '\\') (hc : 0x20 ≤ c.toNat) :
    quoted (.char c :: s) = found false (.char c) (quoted s) := by
  have hval : ¬ (CodePoint.char c).val < 0x20 := Nat.not_lt.mpr hc
  rw [quoted.eq_def]
  dsimp only
  rw [if_neg (by simpa using hquote), if_neg hval, if_neg (by simpa using hescape)]
  cases quoted s <;> rfl

theorem quoted_escaped {q c : Char} (hq : escaped? (.char q) = some c) :
    quoted (.char '\\' :: .char q :: s) = found false (.char c) (quoted s) := by
  rw [quoted.eq_def]
  dsimp only
  rw [if_neg (by decide), if_neg (by decide), if_pos rfl, hq]
  cases quoted s <;> rfl

/-- Four digits write the code point with that number. -/
theorem quoted_unit {n : Nat} {p : CodePoint} (hn : n < 0x10000)
    (hp : CodePoint.ofNat? n = some p) :
    quoted ((Writer.unit n).map .char ++ s) = found true p (quoted s) := by
  have hhigh : (UInt8.ofNat (n / 0x1000 % 16 * 16 + n / 0x100 % 16)).toNat = n / 0x100 := by
    rw [Utf8.toNat_ofNat (by omega)]
    omega
  have hlow : (UInt8.ofNat (n / 0x10 % 16 * 16 + n % 16)).toNat = n % 0x100 := by
    rw [Utf8.toNat_ofNat (by omega)]
    omega
  have hpoint : hexPoint? (.char (Hex.lower (n / 0x1000 % 16))) (.char (Hex.lower (n / 0x100 % 16)))
      (.char (Hex.lower (n / 0x10 % 16))) (.char (Hex.lower (n % 16))) = some p := by
    simp only [hexPoint?, CodePoint.char?, bind, Option.bind]
    rw [Hex.byte_lower (Nat.mod_lt _ (by decide)) (Nat.mod_lt _ (by decide)),
      Hex.byte_lower (Nat.mod_lt _ (by decide)) (Nat.mod_lt _ (by decide))]
    dsimp only
    rw [hhigh, hlow, Nat.div_add_mod' n 0x100, hp]
  simp only [Writer.unit, Writer.hex4, List.map_cons, List.map_nil, List.cons_append,
    List.nil_append]
  rw [quoted, if_neg (by decide), if_neg (by decide), if_pos rfl]
  have hu : escaped? (.char 'u') = none := rfl
  simp only [hu, if_pos, hpoint]
  cases quoted s <;> rfl

/-! ### Characters -/

theorem joinWritten_char (written : Bool) (c : Char) (rest : List (Bool × CodePoint)) :
    joinWritten ((written, .char c) :: rest) = .char c :: joinWritten rest := by
  cases written with
  | false => rw [joinWritten]; simp
  | true =>
    cases rest with
    | nil => rfl
    | cons q rest =>
      obtain ⟨written, q⟩ := q
      cases written <;> rfl

theorem ofNat_surrogate {n : Nat} (hn : n < 0x800) :
    CodePoint.ofNat? (0xD800 + n) = some (.surrogate ⟨n, hn⟩) := by
  have hinvalid : ¬ (0xD800 + n).isValidChar := by
    unfold Nat.isValidChar
    omega
  unfold CodePoint.ofNat?
  rw [dif_neg hinvalid, dif_pos (by omega)]
  simp

theorem ofNat_closing {l : Nat} (hl : l < 0x400) :
    CodePoint.ofNat? (0xDC00 + l) = some (.surrogate ⟨0x400 + l, by omega⟩) := by
  have h := ofNat_surrogate (n := 0x400 + l) (by omega)
  rwa [← Nat.add_assoc] at h

theorem paired_surrogates {h l : Nat} (hh : h < 0x400) (hl : l < 0x400) :
    (CodePoint.surrogate ⟨h, by omega⟩).paired? (.surrogate ⟨0x400 + l, by omega⟩) =
      CodePoint.ofNat? (0x10000 + h * 0x400 + l) := by
  have hclosing : ¬ 0x400 + l < 0x400 := by omega
  have hoffset : 0x400 + l - 0x400 = l := Nat.add_sub_cancel_left ..
  simp only [CodePoint.paired?, CodePoint.high?, CodePoint.low?, if_pos hh, if_neg hclosing,
    hoffset, bind, Option.bind]

/-- A character past `U+FFFF` is written as a pair of surrogates. -/
theorem exists_pair {c : Char} (hc : 0x10000 ≤ c.toNat) :
    ∃ p q, CodePoint.ofNat? (0xD800 + (c.toNat - 0x10000) / 0x400) = some p ∧
      CodePoint.ofNat? (0xDC00 + (c.toNat - 0x10000) % 0x400) = some q ∧
      p.paired? q = some (.char c) := by
  have hmax : c.toNat < 0x110000 := by
    have hvalid : c.toNat.isValidChar := c.valid
    unfold Nat.isValidChar at hvalid
    omega
  have hhigh : (c.toNat - 0x10000) / 0x400 < 0x400 := by omega
  have hlow : (c.toNat - 0x10000) % 0x400 < 0x400 := Nat.mod_lt _ (by decide)
  have hjoined : 0x10000 + (c.toNat - 0x10000) / 0x400 * 0x400 + (c.toNat - 0x10000) % 0x400 =
      c.toNat := by omega
  refine ⟨_, _, ofNat_surrogate (by omega), ofNat_closing hlow, ?_⟩
  rw [paired_surrogates hhigh hlow, hjoined]
  exact CodePoint.ofNat_toNat c

theorem joinWritten_pair {p q : CodePoint} {c : Char} (h : p.paired? q = some (.char c))
    (rest : List (Bool × CodePoint)) :
    joinWritten ((true, p) :: (true, q) :: rest) = .char c :: joinWritten rest := by
  rw [joinWritten, h]

/-- A character is read as it was written. -/
theorem text_point (c : Char) (s : Text) :
    text ((Writer.point (.char c)).map .char ++ s) =
      (text s).map fun r => (.char c :: r.1, r.2) := by
  have hfound {written : Bool} {s' : Text} (h : quoted s' = found written (.char c) (quoted s)) :
      text s' = (text s).map fun r => (.char c :: r.1, r.2) := by
    unfold text
    rw [h]
    cases quoted s with
    | error e => rfl
    | ok r => exact congrArg (fun t => Except.ok (t, r.2)) (joinWritten_char written c r.1)
  have hshort (q d : Char) (hq : escaped? (.char q) = some d) (hc : c.toNat = d.toNat) :
      text (['\\', q].map .char ++ s) = (text s).map fun r => (.char c :: r.1, r.2) := by
    have hcd : c = d := by rw [← Char.ofNat_toNat c, hc, Char.ofNat_toNat]
    subst hcd
    exact hfound (quoted_escaped s hq)
  have hval : (CodePoint.char c).val = c.toNat := rfl
  unfold Writer.point
  dsimp only
  rw [hval]
  repeat' split
  · exact hshort '"' '"' rfl ‹_›
  · exact hshort '\\' '\\' rfl ‹_›
  · exact hshort 'n' '\n' rfl ‹_›
  · exact hshort 'r' '\r' rfl ‹_›
  · exact hshort 't' '\t' rfl ‹_›
  · exact hshort 'f' '\x0c' rfl ‹_›
  · exact hshort 'b' '\x08' rfl ‹_›
  · rename_i hquote hescape _ _ _ _ _ hprintable
    rw [Char.ofNat_toNat]
    refine hfound (quoted_plain s ?_ ?_ hprintable.1)
    · rintro rfl
      exact hquote rfl
    · rintro rfl
      exact hescape rfl
  · exact hfound (quoted_unit s ‹_› (CodePoint.ofNat_toNat c))
  · rename_i hwide
    obtain ⟨p, q, hp, hq, hpair⟩ := exists_pair (Nat.le_of_not_lt hwide)
    have hmax : c.toNat < 0x110000 := by
      have hvalid : c.toNat.isValidChar := c.valid
      unfold Nat.isValidChar at hvalid
      omega
    unfold text
    rw [List.map_append, List.append_assoc, quoted_unit _ (by omega) hp,
      quoted_unit _ (by omega) hq]
    cases quoted s with
    | error e => rfl
    | ok r => exact congrArg (fun t => Except.ok (t, r.2)) (joinWritten_pair hpair r.1)

/-- A text without lone surrogates is read as it was written. -/
theorem text_write (cs : List Char) (s : Text) :
    text (((cs.map CodePoint.char).flatMap Writer.point ++ ['"']).map .char ++ s) =
      .ok (cs.map .char, s) := by
  induction cs with
  | nil =>
    have hread : quoted ((([].map CodePoint.char).flatMap Writer.point ++ ['"']).map .char ++ s) =
        .ok ([], s) := quoted_end s
    unfold text
    rw [hread]
    rfl
  | cons c cs ih =>
    rw [List.map_cons, List.flatMap_cons, List.append_assoc, List.map_append, List.append_assoc,
      text_point, ih]
    rfl

end Reader

end Json

end SecondFactor
