import SecondFactor.Proofs.Text.CodePoint
import SecondFactor.Text.Utf8

/-! # Reading UTF-8 back

The bytes that write a text are read as that text, and no more of them than were written for it. -/

namespace SecondFactor

namespace Utf8

/-! ## Single bytes -/

theorem toNat_ofNat {n : Nat} (h : n < 0x100) : (UInt8.ofNat n).toNat = n :=
  UInt8.toNat_ofNat_of_lt' h

theorem tail_ofNat {n : Nat} (h : n < 0x40) : tail? (.ofNat (0x80 + n)) = some n := by
  have hlt : 0x80 + n < 0x100 := by omega
  unfold tail?
  rw [toNat_ofNat hlt, if_pos (by omega), Nat.add_sub_cancel_left]

theorem point_toNat {c : Char} {least : Nat} (lone : Bool) (h : least ≤ c.toNat) :
    point? lone least c.toNat = some (.char c) := by
  unfold point?
  rw [if_neg (Nat.not_lt.mpr h), CodePoint.ofNat_toNat]

/-! ## Characters by the number of their bytes -/

variable (lone : Bool) {c : Char} (rest : Bytes)

theorem decode_one (h : c.toNat < 0x80) :
    decode lone (.ofNat c.toNat :: rest) = (decode lone rest).map (.char c :: ·) := by
  have hlead : (UInt8.ofNat c.toNat).toNat = c.toNat := toNat_ofNat (by omega)
  rw [decode.eq_def]
  simp only [hlead, if_pos h, point_toNat lone (Nat.zero_le c.toNat)]
  cases decode lone rest <;> rfl

theorem decode_two {x y : Nat} (hx : x < 0x20) (hy : y < 0x40) (hc : x * 0x40 + y = c.toNat)
    (hleast : 0x80 ≤ c.toNat) :
    decode lone (.ofNat (0xC0 + x) :: .ofNat (0x80 + y) :: rest) =
      (decode lone rest).map (.char c :: ·) := by
  have hlead : (UInt8.ofNat (0xC0 + x)).toNat = 0xC0 + x := toNat_ofNat (by omega)
  rw [decode.eq_def]
  dsimp only
  rw [hlead, if_neg (by omega), if_neg (by omega), if_pos (by omega), tail_ofNat hy]
  simp only [Nat.add_sub_cancel_left, bind, Option.bind, hc, point_toNat lone hleast]
  cases decode lone rest <;> rfl

theorem decode_three {x y z : Nat} (hx : x < 0x10) (hy : y < 0x40) (hz : z < 0x40)
    (hc : (x * 0x40 + y) * 0x40 + z = c.toNat) (hleast : 0x800 ≤ c.toNat) :
    decode lone (.ofNat (0xE0 + x) :: .ofNat (0x80 + y) :: .ofNat (0x80 + z) :: rest) =
      (decode lone rest).map (.char c :: ·) := by
  have hlead : (UInt8.ofNat (0xE0 + x)).toNat = 0xE0 + x := toNat_ofNat (by omega)
  rw [decode.eq_def]
  dsimp only
  rw [hlead, if_neg (by omega), if_neg (by omega), if_neg (by omega), if_pos (by omega),
    tail_ofNat hy, tail_ofNat hz]
  simp only [Nat.add_sub_cancel_left, bind, Option.bind, hc, point_toNat lone hleast]
  cases decode lone rest <;> rfl

theorem decode_four {x y z w : Nat} (hx : x < 0x10) (hy : y < 0x40) (hz : z < 0x40) (hw : w < 0x40)
    (hc : ((x * 0x40 + y) * 0x40 + z) * 0x40 + w = c.toNat) (hleast : 0x10000 ≤ c.toNat) :
    decode lone
        (.ofNat (0xF0 + x) :: .ofNat (0x80 + y) :: .ofNat (0x80 + z) :: .ofNat (0x80 + w) :: rest) =
      (decode lone rest).map (.char c :: ·) := by
  have hlead : (UInt8.ofNat (0xF0 + x)).toNat = 0xF0 + x := toNat_ofNat (by omega)
  rw [decode.eq_def]
  dsimp only
  rw [hlead, if_neg (by omega), if_neg (by omega), if_neg (by omega), if_neg (by omega),
    tail_ofNat hy, tail_ofNat hz, tail_ofNat hw]
  simp only [Nat.add_sub_cancel_left, bind, Option.bind, hc, point_toNat lone hleast]
  cases decode lone rest <;> rfl

/-! ## Texts -/

/-- The bytes of a character are read as that character, whatever comes behind them. -/
theorem decode_encodeChar (c : Char) :
    decode lone (encodeChar c ++ rest) = (decode lone rest).map (.char c :: ·) := by
  have hmax : c.toNat < 0x110000 := by
    have hvalid : c.toNat.isValidChar := c.valid
    unfold Nat.isValidChar at hvalid
    omega
  unfold encodeChar
  dsimp only
  split
  · exact decode_one lone rest ‹_›
  · split
    · exact decode_two lone rest (by omega) (by omega) (by omega) (by omega)
    · split
      · exact decode_three lone rest (by omega) (by omega) (by omega) (by omega) (by omega)
      · exact decode_four lone rest (by omega) (by omega) (by omega) (by omega) (by omega) (by omega)

theorem encode_concat (cs : List Char) (c : Char) : encode (cs ++ [c]) = encode cs ++ encodeChar c := by
  simp [encode]

theorem decode_encode (cs : List Char) : decode lone (encode cs) = some (cs.map .char) := by
  induction cs with
  | nil => rfl
  | cons c cs ih =>
    have hsplit : encode (c :: cs) = encodeChar c ++ encode cs := List.flatMap_cons
    rw [hsplit, decode_encodeChar, ih]
    rfl

end Utf8

end SecondFactor
