import SecondFactor.Proofs.Text.Utf8
import SecondFactor.Text.Percent

/-! # Texts with percent escapes

There are many ways to write a text with escapes: each character but the percent sign may be written
as it is. All of them are read as that text, since the escapes of a character stand together, so that
no run of ASCII characters ends within one. -/

namespace SecondFactor

namespace Hex

/-- Whether a character is the digit for a value below sixteen, in either case. -/
def IsDigit (n : Nat) (c : Char) : Prop := c = lower n ∨ c = upper n

theorem value_of_isDigit {n : Nat} {c : Char} (hn : n < 16) (hc : IsDigit n c) :
    value? c = some n := by
  have hlower : ∀ n < 16, value? (lower n) = some n := by decide
  have hupper : ∀ n < 16, value? (upper n) = some n := by decide
  obtain rfl | rfl := hc
  · exact hlower n hn
  · exact hupper n hn

/-- Two digits write the byte of which they are the digits. -/
theorem byte_of_isDigit {b : UInt8} {x y : Char} (hx : IsDigit (b.toNat / 16) x)
    (hy : IsDigit (b.toNat % 16) y) : byte? x y = some b := by
  have hlt : b.toNat < 256 := b.toNat_lt
  have hb : b.toNat / 16 * 16 + b.toNat % 16 = b.toNat := Nat.div_add_mod' b.toNat 16
  unfold byte?
  rw [value_of_isDigit (by omega) hx, value_of_isDigit (Nat.mod_lt _ (by omega)) hy]
  simp only [Option.bind_eq_bind, Option.bind_some, hb, UInt8.ofNat_toNat, Option.pure_def]

end Hex

namespace Percent

/-- The escapes of bytes, with hexadecimal digits in either case. -/
inductive Escapes : Bytes → List Char → Prop where
  | nil : Escapes [] []
  | cons {b : UInt8} {x y : Char} {bs : Bytes} {w : List Char} (hx : Hex.IsDigit (b.toNat / 16) x)
      (hy : Hex.IsDigit (b.toNat % 16) y) (h : Escapes bs w) :
      Escapes (b :: bs) ('%' :: x :: y :: w)

/-- The ways to write a text: each character stands for itself, unless it is a percent sign, or is
written by the escapes of all its bytes. -/
inductive Writes : List Char → List Char → Prop where
  | nil : Writes [] []
  | literal {c : Char} {s e : List Char} (hc : c ≠ '%') (h : Writes s e) : Writes (c :: s) (c :: e)
  | escaped {c : Char} {s w e : List Char} (hw : Escapes (Utf8.encodeChar c) w) (h : Writes s e) :
      Writes (c :: s) (w ++ e)

theorem Writes.literals {r s e : List Char} (hr : '%' ∉ r) (h : Writes s e) :
    Writes (r ++ s) (r ++ e) := by
  induction r with
  | nil => exact h
  | cons c r ih =>
    rw [List.mem_cons, not_or] at hr
    exact .literal (Ne.symm hr.1) (ih hr.2)

/-! ## Runs of ASCII characters -/

theorem readRun_encode (cs : List Char) : readRun (Utf8.encode cs) = some cs := by
  unfold readRun
  rw [Utf8.decode_encode, Option.bind_eq_bind, Option.bind_some]
  induction cs with
  | nil => rfl
  | cons c cs ih =>
    rw [List.map_cons, List.mapM_cons, ih]
    rfl

section

variable {m : Type → Type} [Monad m] (read : Bytes → m (List Char)) (run : Bytes)

theorem decodeAfter_escapes {bs : Bytes} {w : List Char} (hw : Escapes bs w) (e : List Char) :
    decodeAfter read run (w ++ e) = decodeAfter read (bs.reverse ++ run) e := by
  induction hw generalizing run with
  | nil => rfl
  | @cons b x y bs w hx hy hw ih =>
    simp only [List.cons_append, decodeAfter, Hex.byte_of_isDigit hx hy]
    rw [ih, List.reverse_cons, List.append_assoc]
    rfl

theorem decodeAfter_literal {c : Char} (hc : c ≠ '%') (e : List Char) :
    decodeAfter read run (c :: e) =
      if c.toNat < 0x80 then decodeAfter read (.ofNat c.toNat :: run) e
      else do
        let before ← read run.reverse
        return before ++ c :: (← decodeAfter read [] e) := by
  rw [decodeAfter]
  simp [hc]

end

theorem encodeChar_ascii {c : Char} (h : c.toNat < 0x80) : Utf8.encodeChar c = [.ofNat c.toNat] :=
  if_pos h

/-- A text is read as such behind characters whose bytes were read already. -/
theorem decodeAfter_writes {s e : List Char} (h : Writes s e) (before : List Char) :
    decodeAfter readRun (Utf8.encode before).reverse e = some (before ++ s) := by
  -- over the ways of writing, behind any characters, since those that are read join them
  induction h generalizing before with
  | nil =>
    rw [decodeAfter, List.reverse_reverse, readRun_encode, List.append_nil]
  | @literal c s e hc h ih =>
    rw [decodeAfter_literal readRun _ hc]
    split
    · rename_i hascii
      have hrun : UInt8.ofNat c.toNat :: (Utf8.encode before).reverse =
          (Utf8.encode (before ++ [c])).reverse := by
        rw [Utf8.encode_concat, encodeChar_ascii hascii, List.reverse_append]
        rfl
      rw [hrun, ih, List.append_assoc, List.singleton_append]
    · have hrest : decodeAfter readRun [] e = some s := ih []
      rw [List.reverse_reverse, readRun_encode, hrest]
      rfl
  | @escaped c s w e hw h ih =>
    rw [decodeAfter_escapes readRun _ hw, ← List.reverse_append, ← Utf8.encode_concat, ih,
      List.append_assoc, List.singleton_append]

/-- However a text is written, it is read back. -/
theorem decode_writes {s e : List Char} (h : Writes s e) : decode e = some s :=
  decodeAfter_writes h []

end Percent

end SecondFactor
