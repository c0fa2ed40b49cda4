import Mathlib.Data.List.TakeWhile
import SecondFactor.Text.Split

/-! # Parts that are found again

Parts that hold no separator are found again in the text that joins them, and a text is the join of
its parts. -/

namespace SecondFactor.Split

variable {p : Char → Bool} {part : List Char}

/-! ## Parts between separators -/

theorem atEach_of_forall (hpart : ∀ c ∈ part, p c = false) : atEach p part = [part] := by
  induction part with
  | nil => rfl
  | cons c part ih =>
    obtain ⟨hc, hpart⟩ := List.forall_mem_cons.mp hpart
    rw [atEach, if_neg (by simp [hc]), ih hpart]

/-- The first part ends at the first separator. -/
theorem atEach_append (hpart : ∀ c ∈ part, p c = false) {sep : Char} (hsep : p sep = true)
    (s : List Char) : atEach p (part ++ sep :: s) = part :: atEach p s := by
  induction part with
  | nil => rw [List.nil_append, atEach, if_pos hsep]
  | cons c part ih =>
    obtain ⟨hc, hpart⟩ := List.forall_mem_cons.mp hpart
    rw [List.cons_append, atEach, if_neg (by simp [hc]), ih hpart]

theorem atEach_ne_nil (p : Char → Bool) (s : List Char) : atEach p s ≠ [] := by
  cases s with
  | nil => exact List.cons_ne_nil _ _
  | cons c s =>
    rw [atEach]
    split
    · exact List.cons_ne_nil _ _
    · split <;> exact List.cons_ne_nil _ _

/-- Of a text that is not empty, more is left than one empty part. -/
theorem atEach_ne_singleton {p : Char → Bool} {s : List Char} (hs : s ≠ []) : atEach p s ≠ [[]] := by
  cases s with
  | nil => exact absurd rfl hs
  | cons c s =>
    rw [atEach]
    split
    · intro h
      exact atEach_ne_nil p s (List.cons.inj h).2
    · split <;> exact fun h => List.cons_ne_nil _ _ (List.cons.inj h).1

/-! ## Joined parts -/

theorem join_cons (sep : Char) (s : List Char) {parts : List (List Char)} (hparts : parts ≠ []) :
    join sep (s :: parts) = s ++ sep :: join sep parts := by
  cases parts with
  | nil => exact absurd rfl hparts
  | cons t rest => rfl

theorem join_ne_nil {sep : Char} {s : List Char} (hs : s ≠ []) (rest : List (List Char)) :
    join sep (s :: rest) ≠ [] := by
  cases rest with
  | nil => exact hs
  | cons t rest => exact List.append_ne_nil_of_left_ne_nil hs _

theorem forall_mem_join {q : Char → Prop} {sep : Char} (hsep : q sep) {parts : List (List Char)}
    (hparts : ∀ part ∈ parts, ∀ c ∈ part, q c) : ∀ c ∈ join sep parts, q c := by
  induction parts with
  | nil => exact List.forall_mem_nil _
  | cons part rest ih =>
    obtain ⟨hpart, hrest⟩ := List.forall_mem_cons.mp hparts
    by_cases hnil : rest = []
    · subst hnil
      exact hpart
    · rw [join_cons sep part hnil]
      exact List.forall_mem_append.mpr ⟨hpart, List.forall_mem_cons.mpr ⟨hsep, ih hrest⟩⟩

theorem on_join {sep : Char} {parts : List (List Char)} (hne : parts ≠ [])
    (hparts : ∀ part ∈ parts, sep ∉ part) : on sep (join sep parts) = parts := by
  have hplain {part : List Char} (h : sep ∉ part) : ∀ c ∈ part, (c == sep) = false := by
    intro c hc
    simpa using ne_of_mem_of_not_mem hc h
  induction parts with
  | nil => exact absurd rfl hne
  | cons s rest ih =>
    obtain ⟨hs, hrest⟩ := List.forall_mem_cons.mp hparts
    by_cases hlast : rest = []
    · subst hlast
      exact atEach_of_forall (hplain hs)
    · rw [join_cons sep s hlast, on, atEach_append (hplain hs) (beq_self_eq_true sep)]
      exact congrArg (s :: ·) (ih hlast hrest)

/-- A text is put together again of its parts. -/
theorem join_on (sep : Char) (s : List Char) : join sep (on sep s) = s := by
  unfold on
  induction s with
  | nil => rfl
  | cons c s ih =>
    obtain ⟨part, parts, hparts⟩ := List.exists_cons_of_ne_nil (atEach_ne_nil (· == sep) s)
    rw [hparts] at ih
    by_cases hc : c = sep
    · rw [atEach, if_pos (by simpa using hc), hparts, join_cons sep [] (by simp), ih, hc]
      rfl
    · rw [atEach, if_neg (by simpa using hc), hparts]
      cases parts with
      | nil => exact congrArg (c :: ·) ih
      | cons t rest => exact congrArg (c :: ·) ih

theorem join_eq_intercalate (sep : Char) (parts : List (List Char)) :
    join sep parts = [sep].intercalate parts := by
  induction parts with
  | nil => rfl
  | cons s rest ih =>
    cases rest with
    | nil => rw [List.intercalate_singleton, join]
    | cons t rest =>
      rw [List.intercalate_cons_cons, ← ih, join, List.append_assoc, List.singleton_append]

/-! ## The front of a text -/

theorem cut_of_forall {s : List Char} (hs : ∀ c ∈ s, p c = false) : cut p s = (s, []) := by
  have hplain : ∀ c ∈ s, (!p c) = true := by simpa using hs
  have hfront : s.takeWhile (!p ·) = s := List.takeWhile_eq_self_iff.mpr hplain
  have hbehind : s.dropWhile (!p ·) = [] := List.dropWhile_eq_nil_iff.mpr hplain
  rw [cut, hfront, hbehind]

theorem cut_append (hpart : ∀ c ∈ part, p c = false) {sep : Char} (hsep : p sep = true)
    (s : List Char) : cut p (part ++ sep :: s) = (part, sep :: s) := by
  have hplain : ∀ c ∈ part, (!p c) = true := by simpa using hpart
  rw [cut, List.takeWhile_append_of_pos hplain, List.dropWhile_append_of_pos hplain]
  simp [hsep]

end SecondFactor.Split
