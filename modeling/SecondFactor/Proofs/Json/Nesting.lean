import SecondFactor.Json.Reader

/-! # Texts that are nested too deep

Reading goes on behind what was read, and each level of nesting costs it a bracket or a brace. So a
text that is nested too deep has more of them than there are levels. -/

namespace SecondFactor.Json

/-- Whether a code point opens an array or an object. -/
def opens (p : CodePoint) : Bool := p == .char '[' || p == .char '\x7b'

namespace Reader

/-- Whether a reader with `depth` levels of nesting left goes on in the rest of a text, or gives up
because of what opens in it. -/
def Stays {α : Type} (depth : Nat) (s : Text) : Except ReadError (α × Text) → Prop
  | .ok (_, rest) => rest <:+ s
  | .error .tooDeep => depth < s.countP opens
  | .error _ => True

namespace Stays

variable {α β : Type} {depth : Nat} {s s' : Text}

theorem pure (a : α) (h : s' <:+ s) : Stays depth s (Pure.pure (a, s') : Except ReadError _) := h

theorem of_suffix {x : Except ReadError (α × Text)} (h : s' <:+ s) (hx : Stays depth s' x) :
    Stays depth s x := by
  cases x with
  | ok r => exact List.IsSuffix.trans hx h
  | error e =>
    cases e with
    | tooDeep => exact Nat.lt_of_lt_of_le hx h.sublist.countP_le
    | malformed | integerTooLong => trivial

theorem bind {x : Except ReadError (α × Text)} {g : α × Text → Except ReadError (β × Text)}
    (hx : Stays depth s x) (hg : ∀ a s', s' <:+ s → Stays depth s (g (a, s'))) :
    Stays depth s (x >>= g) := by
  cases x with
  | ok r => exact hg r.1 r.2 hx
  | error e =>
    cases e with
    | tooDeep => exact hx
    | malformed | integerTooLong => trivial

end Stays

theorem skipBlanks_suffix (s : Text) : skipBlanks s <:+ s := List.dropWhile_suffix isBlank

/-! ## Texts and numbers -/

section

variable (depth : Nat)

theorem stays_quoted (s : Text) : Stays depth s (quoted s) := by
  fun_induction quoted s with
  | case2 s => exact List.suffix_cons _ s
  | case5 | case6 | case10 =>
    rename_i ih
    refine ((ih.of_suffix ?_).bind fun _ _ h => .pure _ h)
    simp only [List.suffix_cons_iff, List.suffix_rfl, or_true]
  | case1 | case3 | case4 | case7 | case8 | case9 => trivial

theorem stays_text (s : Text) : Stays depth s (text s) :=
  (stays_quoted depth s).bind fun _ _ h => .pure _ h

theorem digits_suffix (s : Text) : (digits s).2 <:+ s := by
  induction s with
  | nil => exact List.suffix_rfl
  | cons p s ih =>
    rw [digits]
    split
    · exact ih.trans (List.suffix_cons p s)
    · exact List.suffix_rfl

theorem fraction_suffix (s : Text) : (fraction s).2 <:+ s := by
  unfold fraction
  split
  · rename_i s'
    split
    · exact List.suffix_rfl
    · exact (digits_suffix s').trans (List.suffix_cons _ s')
  · exact List.suffix_rfl

theorem exponent_suffix (s : Text) : (exponent s).2 <:+ s := by
  unfold exponent
  extract_lets signed
  have hsigned (negative : Bool) (s' : Text) (h : signed = some (negative, s')) : s' <:+ s := by
    simp only [signed] at h
    repeat' split at h
    all_goals cases h
    all_goals simp only [List.suffix_cons_iff, List.suffix_rfl, or_true]
  clear_value signed
  cases signed with
  | none => exact List.suffix_rfl
  | some r =>
    have hdigits := (digits_suffix r.2).trans (hsigned r.1 r.2 rfl)
    dsimp only
    split
    · exact List.suffix_rfl
    · rename_i h
      rwa [h] at hdigits

theorem stays_magnitude (negative : Bool) (s : Text) : Stays depth s (magnitude negative s) := by
  unfold magnitude
  split
  rename_i whole s₁ hwhole
  have hbehind : (exponent (fraction s₁).2).2 <:+ s := by
    have hstart : s₁ <:+ s := by
      split at hwhole
      · cases hwhole
        exact List.suffix_cons _ _
      · have hdigits := digits_suffix s
        rwa [hwhole] at hdigits
    exact ((exponent_suffix _).trans (fraction_suffix s₁)).trans hstart
  split
  · trivial
  · dsimp only
    split
    · split
      · trivial
      · exact hbehind
    · exact hbehind

theorem stays_scalar (s : Text) : Stays depth s (scalar s) := by
  have hword (w : String) (r : Text) (h : word? w s = some r) : r <:+ s := by
    unfold word? at h
    dsimp only at h
    split at h
    · cases h
      exact List.drop_suffix _ s
    · cases h
  unfold scalar
  split
  · exact hword _ _ ‹_›
  · exact hword _ _ ‹_›
  · exact hword _ _ ‹_›
  · exact hword _ _ ‹_›
  · exact hword _ _ ‹_›
  · exact hword _ _ ‹_›
  · split
    · exact (stays_magnitude depth true _).of_suffix (List.suffix_cons _ _)
    · exact stays_magnitude depth false s

end

/-! ## Arrays and objects -/

section

variable {depth : Nat} {element : Text → Except ReadError (Json × Text)}

/-- What is read behind a blank or a separator is behind what was there before. -/
theorem skipBlanks_suffix_of {s s' : Text} {p : CodePoint} {rest : Text} (h : s' <:+ s)
    (hrest : skipBlanks s' = p :: rest) : rest <:+ s :=
  ((List.suffix_cons p rest).trans (hrest ▸ skipBlanks_suffix s')).trans h

theorem stays_items (helement : ∀ s, Stays depth s (element s)) (most : Nat) (s : Text) :
    Stays depth s (items element most s) := by
  induction most generalizing s with
  | zero => trivial
  | succ most ih =>
    rw [items]
    refine (helement s).bind fun item s' hs' => ?_
    dsimp only
    split
    · rename_i rest hrest
      exact .pure _ (skipBlanks_suffix_of hs' hrest)
    · rename_i rest hrest
      have hbehind := (skipBlanks_suffix rest).trans (skipBlanks_suffix_of hs' hrest)
      exact ((ih _).of_suffix hbehind).bind fun _ _ h => .pure _ h
    · trivial

theorem stays_members (helement : ∀ s, Stays depth s (element s)) (most : Nat) (before : Members)
    (s : Text) : Stays depth s (members element most before s) := by
  induction most generalizing before s with
  | zero =>
    unfold members
    trivial
  | succ most ih =>
    unfold members
    split
    · rename_i most' before' s' hmost
      cases hmost
      refine ((stays_text depth s').of_suffix (List.suffix_cons _ s')).bind fun key s₁ h₁ => ?_
      dsimp only
      split
      · rename_i s₂ hcolon
        have h₂ := (skipBlanks_suffix s₂).trans (skipBlanks_suffix_of h₁ hcolon)
        refine ((helement _).of_suffix h₂).bind fun v s₃ h₃ => ?_
        dsimp only
        split
        · rename_i rest hrest
          exact .pure _ (skipBlanks_suffix_of h₃ hrest)
        · rename_i rest hrest
          exact (ih _ _).of_suffix ((skipBlanks_suffix rest).trans (skipBlanks_suffix_of h₃ hrest))
        · trivial
      · trivial
    · trivial

end

/-- An array or an object takes one level of nesting. -/
theorem Stays.deeper {α : Type} {depth : Nat} {p : CodePoint} {s : Text}
    {x : Except ReadError (α × Text)} (hp : opens p = true) (hx : Stays depth s x) :
    Stays (depth + 1) (p :: s) x := by
  cases x with
  | ok r => exact List.IsSuffix.trans hx (List.suffix_cons p s)
  | error e =>
    cases e with
    | tooDeep =>
      have hcount : (p :: s).countP opens = s.countP opens + 1 := List.countP_cons_of_pos hp
      exact Nat.lt_of_lt_of_eq (Nat.succ_lt_succ hx) hcount.symm
    | malformed | integerTooLong => trivial

theorem stays_value (depth : Nat) (s : Text) : Stays depth s (value depth s) := by
  induction depth generalizing s with
  | zero =>
    have hopens {p : CodePoint} (hp : opens p = true) (s : Text) : 0 < (p :: s).countP opens :=
      List.countP_pos_iff.mpr ⟨p, List.mem_cons_self, hp⟩
    rw [value.eq_def]
    split
    · rename_i s
      exact ((stays_text 0 s).of_suffix (List.suffix_cons _ s)).bind fun _ _ h => .pure _ h
    · exact hopens rfl _
    · exact hopens rfl _
    · exact stays_scalar _ _
  | succ depth ih =>
    rw [value.eq_def]
    split
    · rename_i s
      exact ((stays_text _ s).of_suffix (List.suffix_cons _ s)).bind fun _ _ h => .pure _ h
    · rename_i s
      refine Stays.deeper rfl ?_
      dsimp only
      split
      · rename_i rest hrest
        exact skipBlanks_suffix_of List.suffix_rfl hrest
      · exact ((stays_items ih _ _).of_suffix (skipBlanks_suffix s)).bind fun _ _ h => .pure _ h
    · rename_i s
      refine Stays.deeper rfl ?_
      dsimp only
      split
      · rename_i rest hrest
        exact skipBlanks_suffix_of List.suffix_rfl hrest
      · exact ((stays_members ih _ _ _).of_suffix (skipBlanks_suffix s)).bind fun _ _ h => .pure _ h
    · exact stays_scalar _ _

/-! ## Brackets alone -/

theorem value_brackets (depth : Nat) (s : Text) :
    value depth (List.replicate (depth + 1) (.char '[') ++ s) = .error .tooDeep := by
  induction depth with
  | zero => rfl
  | succ depth ih =>
    have hblank : skipBlanks (List.replicate (depth + 1) (.char '[') ++ s) =
        List.replicate (depth + 1) (.char '[') ++ s := List.dropWhile_cons_of_neg (by decide)
    rw [List.replicate_succ, List.cons_append, value, hblank]
    split
    · rename_i hclosing
      cases hclosing
    · rw [items, ih]
      rfl

end Reader

/-- A text that is nested too deep opens more arrays and objects than there are levels. -/
theorem opens_of_tooDeep {levels : Nat} {t : Text} (h : read levels t = .error .tooDeep) :
    levels < t.countP opens := by
  have hvalue : Reader.value levels (Reader.skipBlanks t) = .error .tooDeep := by
    unfold read at h
    cases hread : Reader.value levels (Reader.skipBlanks t) with
    | error e =>
      rw [hread] at h
      cases h
      rfl
    | ok r =>
      rw [hread] at h
      change ite _ _ _ = _ at h
      split at h <;> cases h
  have hstays := Reader.stays_value levels (Reader.skipBlanks t)
  rw [hvalue] at hstays
  exact Nat.lt_of_lt_of_le hstays (Reader.skipBlanks_suffix t).sublist.countP_le

/-- More brackets than there are levels are too many, whatever stands behind them. -/
theorem read_brackets (levels : Nat) (s : Text) :
    read levels (List.replicate (levels + 1) (.char '[') ++ s) = .error .tooDeep := by
  have hblank : Reader.skipBlanks (List.replicate (levels + 1) (.char '[') ++ s) =
      List.replicate (levels + 1) (.char '[') ++ s := List.dropWhile_cons_of_neg (by decide)
  unfold read
  rw [hblank, Reader.value_brackets]
  rfl

end SecondFactor.Json
