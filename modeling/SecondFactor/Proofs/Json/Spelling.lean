import SecondFactor.Proofs.Json.Numeral
import SecondFactor.Proofs.Json.RoundTrip

/-! # Ways to write a value

A value can be written in many ways: with blanks between its parts, with escapes in its texts, and
with keys that come again. Whole numbers may have any number of digits, and arrays and objects may
be nested to any depth. Only these two decide whether the value is read, and it is read wherever it
stands. -/

namespace SecondFactor.Json

open Reader (Ends isBlank skipBlanks)

/-! ## Spellings -/

/-- Whether characters may stand between tokens. -/
def Blanks (b : List Char) : Prop := ∀ c ∈ b, isBlank (.char c) = true

/-- Whether the reader takes so many digits in each whole number. -/
def Fits (numerals : List Nat) : Prop := ∀ k ∈ numerals, k ≤ digitLimit

/-- How deep the deepest of some parts is nested. -/
def deepest (depths : List Nat) : Nat := depths.foldr max 0

theorem deepest_le_iff {depths : List Nat} {depth : Nat} :
    deepest depths ≤ depth ↔ ∀ k ∈ depths, k ≤ depth := by
  unfold deepest
  induction depths with
  | nil => simp
  | cons k ks ih => rw [List.foldr_cons, Nat.max_le, List.forall_mem_cons, ih]

/-- A way to write a value. -/
structure Spelling where
  text : List Char
  value : Json
  /-- How many digits each whole number has. -/
  numerals : List Nat := []
  /-- How deep arrays and objects are nested. -/
  nesting : Nat := 0

/-- A way to write a key, with the blanks around it. -/
structure KeySpelling where
  before : List Char
  /-- What stands behind the opening quote, up to the closing one. -/
  quoted : List Char
  after : List Char
  key : Text

/-- A way to write a member. -/
structure MemberSpelling extends KeySpelling where
  value : Spelling

/-- What is written for a member. -/
def MemberSpelling.text (m : MemberSpelling) : List Char :=
  m.before ++ '"' :: (m.quoted ++ (m.after ++ ':' :: m.value.text))

/-- The members that are there when some were read behind others. Of several with one key the last
one counts. -/
def gather (before : Members) (ms : List MemberSpelling) : Members :=
  ms.foldl (fun before m => before.insert m.key m.value.value) before

namespace Spelling

/-- The same value with blanks around it. -/
def padded (w : Spelling) (before after : List Char) : Spelling :=
  { w with text := before ++ (w.text ++ after) }

/-- A whole number. -/
def number (n : Int) : Spelling where
  text := Writer.int n
  value := .int n
  numerals := [digitCount n]

/-- An array, with blanks behind its bracket. -/
def array (gap : List Char) (ws : List Spelling) : Spelling where
  text := '[' :: (gap ++ ([','].intercalate (ws.map text) ++ [']']))
  value := .array (ws.map value)
  numerals := ws.flatMap numerals
  nesting := deepest (ws.map nesting) + 1

/-- An object, with blanks behind its brace. -/
def object (gap : List Char) (ms : List MemberSpelling) : Spelling where
  text := '\x7b' :: (gap ++ ([','].intercalate (ms.map (·.text)) ++ ['\x7d']))
  value := .object (gather [] ms)
  numerals := ms.flatMap (·.value.numerals)
  nesting := deepest (ms.map (·.value.nesting)) + 1

/-- Whether a value is read that is written so, with `depth` levels of nesting left. -/
def Readable (depth : Nat) (w : Spelling) : Prop := w.nesting ≤ depth ∧ Fits w.numerals

/-- Whether an error is due to the nesting or to a whole number of what is written. -/
def Causes (depth : Nat) (w : Spelling) (e : ReadError) : Prop :=
  e = .tooDeep ∧ depth < w.nesting ∨ e = .integerTooLong ∧ ¬ Fits w.numerals

theorem readable_iff {depth : Nat} {w : Spelling} :
    w.Readable depth ↔ ∀ e, ¬ w.Causes depth e := by
  constructor
  · rintro ⟨hnesting, hfits⟩ e (⟨-, hdeep⟩ | ⟨-, hlong⟩)
    · exact Nat.not_lt_of_le hnesting hdeep
    · exact hlong hfits
  · intro h
    have hnesting : ¬ depth < w.nesting := fun hdeep => h .tooDeep (.inl ⟨rfl, hdeep⟩)
    exact ⟨Nat.le_of_not_lt hnesting, Classical.not_not.mp fun hlong =>
      h .integerTooLong (.inr ⟨rfl, hlong⟩)⟩

section

variable {depth : Nat} {gap : List Char} {ws : List Spelling} {ms : List MemberSpelling}
  {e : ReadError}

/-- What is wrong with an array is wrong with one of its items. -/
theorem causes_array : (array gap ws).Causes (depth + 1) e ↔ ∃ w ∈ ws, w.Causes depth e := by
  have hdeep : depth + 1 < (array gap ws).nesting ↔ ∃ w ∈ ws, depth < w.nesting := by
    rw [← Nat.not_le, array, Nat.add_le_add_iff_right, deepest_le_iff, List.forall_mem_map]
    simp only [Classical.not_forall, Nat.not_le, exists_prop]
  have hlong : ¬ Fits (array gap ws).numerals ↔ ∃ w ∈ ws, ¬ Fits w.numerals := by
    simp only [Fits, array, List.mem_flatMap, Classical.not_forall, exists_prop]
    constructor
    · rintro ⟨k, ⟨w, hw, hk⟩, hlong⟩
      exact ⟨w, hw, k, hk, hlong⟩
    · rintro ⟨w, hw, k, hk, hlong⟩
      exact ⟨k, ⟨w, hw, hk⟩, hlong⟩
  simp only [Causes, hdeep, hlong, and_or_left, exists_or]
  simp only [and_left_comm, exists_and_left]

theorem causes_object :
    (object gap ms).Causes (depth + 1) e ↔ ∃ m ∈ ms, m.value.Causes depth e := by
  have hvalues : (object gap ms).Causes (depth + 1) e ↔
      (array gap (ms.map (·.value))).Causes (depth + 1) e := by
    simp only [Causes, array, object, List.map_map, List.flatMap_map, Function.comp_def]
  rw [hvalues, causes_array]
  constructor
  · rintro ⟨w, hw, hcauses⟩
    obtain ⟨m, hm, rfl⟩ := List.mem_map.mp hw
    exact ⟨m, hm, hcauses⟩
  · rintro ⟨m, hm, hcauses⟩
    exact ⟨m.value, List.mem_map_of_mem hm, hcauses⟩

end

end Spelling

/-! ## Legal spellings -/

/-- Whether a value that is no whole number and has no parts is read from a text, in front of
anything that may stand behind it. -/
structure Token (t : List Char) (v : Json) : Prop where
  noInt : ∀ n, v ≠ .int n
  starts : ∀ s, skipBlanks (t.map .char ++ s) = t.map .char ++ s
  takes : ∀ rest, Ends rest → Reader.value 0 (t.map .char ++ rest) = .ok (v, rest)

/-- Whether a key is read from what is written for it. -/
structure KeySpelling.Legal (k : KeySpelling) : Prop where
  before : Blanks k.before
  after : Blanks k.after
  takes : ∀ s, Reader.text (k.quoted.map .char ++ s) = .ok (k.key, s)

/-- What may be written for a value. -/
inductive Spelling.Legal : Spelling → Prop
  | token {t : List Char} {v : Json} (h : Token t v) : Legal { text := t, value := v }
  | number (n : Int) : Legal (number n)
  | minusZero : Legal { text := ['-', '0'], value := .int 0, numerals := [1] }
  | array {gap : List Char} {ws : List Spelling} (hgap : Blanks gap) (h : ∀ w ∈ ws, Legal w) :
      Legal (array gap ws)
  | object {gap : List Char} {ms : List MemberSpelling} (hgap : Blanks gap)
      (hkeys : ∀ m ∈ ms, m.toKeySpelling.Legal) (hvalues : ∀ m ∈ ms, Legal m.value) :
      Legal (object gap ms)
  | padded {w : Spelling} {before after : List Char} (hbefore : Blanks before)
      (hafter : Blanks after) (h : Legal w) : Legal (w.padded before after)

/-- A value that is no array and no object has no nesting, and no whole number but itself. -/
theorem Spelling.Legal.flat {w : Spelling} (h : w.Legal) :
    match w.value with
    | .array _ | .object _ => True
    | .int n => w.nesting = 0 ∧ w.numerals = [digitCount n]
    | _ => w.nesting = 0 ∧ w.numerals = [] := by
  induction h with
  | @token t v h =>
    cases v with
    | int n => exact absurd rfl (h.noInt n)
    | array _ | object _ => trivial
    | null | bool _ | real _ | text _ => exact ⟨rfl, rfl⟩
  | number n | minusZero => exact ⟨rfl, rfl⟩
  | array | object => trivial
  | padded _ _ _ ih => exact ih

theorem token_text (cs : List Char) :
    Token (Writer.text (cs.map .char)) (.text (cs.map .char)) where
  noInt _ := nofun
  starts := (Reader.value_text 0 cs).starts
  takes rest _ := (Reader.value_text 0 cs).takes rest

/-- A key as it is written without blanks. -/
def KeySpelling.written (cs : List Char) : KeySpelling where
  before := []
  quoted := (cs.map CodePoint.char).flatMap Writer.point ++ ['"']
  after := []
  key := cs.map .char

theorem KeySpelling.legal_written (cs : List Char) : (written cs).Legal where
  before := nofun
  after := nofun
  takes := Reader.text_write cs

theorem token_bool (b : Bool) : Token (if b then "true".toList else "false".toList) (.bool b) where
  noInt _ := nofun
  starts s := by cases b <;> exact Reader.skipBlanks_cons rfl _
  takes rest _ := by cases b <;> rfl

/-! ## Reading -/

namespace Reader

theorem skipBlanks_blanks {b : List Char} (hb : Blanks b) (s : Text) :
    skipBlanks (b.map .char ++ s) = skipBlanks s := by
  induction b with
  | nil => rfl
  | cons c b ih =>
    obtain ⟨hc, hb⟩ := List.forall_mem_cons.mp hb
    rw [List.map_cons, List.cons_append, skipBlanks, List.dropWhile_cons_of_pos hc]
    exact ih hb

theorem ends_comma (s : Text) : Ends (.char ',' :: s) := .inr (.inl rfl)

theorem ends_blanks {b : List Char} (hb : Blanks b) {s : Text} (hs : Ends s) :
    Ends (b.map .char ++ s) := by
  cases b with
  | nil => exact hs
  | cons c b => exact .inl (hb c List.mem_cons_self)

/-- Whether a reader reads a value wherever it is written so, or fails because of how it is
written. -/
structure Reads (element : Text → Except ReadError (Json × Text)) (depth : Nat) (w : Spelling) :
    Prop where
  takes : w.Readable depth → ∀ rest, Ends rest →
    ∃ rest', element (skipBlanks (w.text.map .char ++ rest)) = .ok (w.value, rest') ∧
      skipBlanks rest' = skipBlanks rest
  fails : ¬ w.Readable depth → ∀ rest, Ends rest →
    ∃ e, element (skipBlanks (w.text.map .char ++ rest)) = .error e ∧ w.Causes depth e

variable {element : Text → Except ReadError (Json × Text)} {depth : Nat}

theorem Reads.padded {w : Spelling} (h : Reads element depth w) {before after : List Char}
    (hbefore : Blanks before) (hafter : Blanks after) :
    Reads element depth (w.padded before after) := by
  have hskip (rest : Text) : skipBlanks ((w.padded before after).text.map .char ++ rest) =
      skipBlanks (w.text.map .char ++ (after.map .char ++ rest)) := by
    simp only [Spelling.padded, List.map_append, List.append_assoc]
    exact skipBlanks_blanks hbefore _
  constructor
  · intro hreadable rest hrest
    obtain ⟨rest', htakes, hrest'⟩ := h.takes hreadable _ (ends_blanks hafter hrest)
    exact ⟨rest', (hskip rest).symm ▸ htakes, hrest'.trans (skipBlanks_blanks hafter rest)⟩
  · intro hreadable rest hrest
    obtain ⟨e, hfails, he⟩ := h.fails hreadable _ (ends_blanks hafter hrest)
    exact ⟨e, (hskip rest).symm ▸ hfails, he⟩

/-! ### Parts -/

theorem map_intercalate (t t' : List Char) (ts : List (List Char)) (s : Text) :
    ([','].intercalate (t :: t' :: ts)).map .char ++ s =
      t.map .char ++ .char ',' :: (([','].intercalate (t' :: ts)).map .char ++ s) := by
  simp only [List.intercalate_cons_cons, List.map_append, List.append_assoc, List.map_cons,
    List.cons_append, List.nil_append]

/-- Behind the first part stands what may stand behind a value. -/
theorem exists_ends (t : List Char) (ts : List (List Char)) {p : CodePoint} {s : Text}
    (hp : Ends (p :: s)) :
    ∃ rest, Ends rest ∧
      ([','].intercalate (t :: ts)).map .char ++ p :: s = t.map .char ++ rest := by
  cases ts with
  | nil => exact ⟨p :: s, hp, by rw [List.intercalate_singleton]⟩
  | cons t' ts => exact ⟨_, ends_comma _, map_intercalate t t' ts (p :: s)⟩

theorem length_skipBlanks (a : Text) {p : CodePoint} (hp : isBlank p = false) (s : Text) :
    (p :: s).length ≤ (skipBlanks (a ++ p :: s)).length := by
  induction a with
  | nil =>
    exact Nat.le_of_eq (congrArg List.length (skipBlanks_cons hp s)).symm
  | cons q a ih =>
    rw [List.cons_append, skipBlanks, List.dropWhile_cons]
    split
    · exact ih
    · simp only [List.length_cons, List.length_append]
      omega

theorem length_intercalate (ts : List (List Char)) :
    ts.length ≤ ([','].intercalate ts).length + 1 := by
  induction ts with
  | nil => exact Nat.zero_le _
  | cons t ts ih =>
    cases ts with
    | nil => simp
    | cons t' ts =>
      simp only [List.intercalate_cons_cons, List.length_append, List.length_cons] at ih ⊢
      omega

/-- There are no more parts than characters, even where blanks before the first one are skipped. -/
theorem length_parts (ts : List (List Char)) (s : Text) :
    ts.length ≤ (skipBlanks (([','].intercalate ts).map .char ++ s)).length + 1 := by
  cases ts with
  | nil => exact Nat.zero_le _
  | cons t ts =>
    cases ts with
    | nil => simp
    | cons t' ts =>
      have hskip := length_skipBlanks (t.map .char) (p := .char ',') rfl
        (([','].intercalate (t' :: ts)).map .char ++ s)
      have hparts := length_intercalate (t' :: ts)
      rw [map_intercalate]
      simp only [List.length_cons, List.length_append, List.length_map] at hskip hparts ⊢
      omega

section

variable {α σ : Type}

/-- What a loop does with one of several parts, each of which writes a value and is followed by a
comma or by what closes them. -/
structure Passes (loop : Nat → σ → Text → Except ReadError (σ × Text)) (closing : CodePoint)
    (text : α → List Char) (value : α → Spelling) (next : σ → α → σ) (depth : Nat) (a : α) :
    Prop where
  last : (value a).Readable depth → ∀ most before rest s, Ends rest →
    skipBlanks rest = closing :: s →
      loop (most + 1) before (skipBlanks ((text a).map .char ++ rest)) = .ok (next before a, s)
  more : (value a).Readable depth → ∀ most before rest s, Ends rest →
    skipBlanks rest = .char ',' :: s →
      loop (most + 1) before (skipBlanks ((text a).map .char ++ rest)) =
        loop most (next before a) (skipBlanks s)
  fails : ¬ (value a).Readable depth → ∀ most before rest, Ends rest →
    ∃ e, loop (most + 1) before (skipBlanks ((text a).map .char ++ rest)) = .error e ∧
      (value a).Causes depth e

variable {loop : Nat → σ → Text → Except ReadError (σ × Text)} {closing : CodePoint}
  {text : α → List Char} {value : α → Spelling} {next : σ → α → σ} {parts : List α}

/-- Parts that are read are passed up to what closes them. -/
theorem passes_all (hne : parts ≠ [])
    (h : ∀ a ∈ parts, Passes loop closing text value next depth a)
    (hblank : isBlank closing = false) {s : Text} (hends : Ends (closing :: s)) {most : Nat}
    (hmost : parts.length ≤ most) (before : σ) (hread : ∀ a ∈ parts, (value a).Readable depth) :
    loop most before
        (skipBlanks (([','].intercalate (parts.map text)).map .char ++ closing :: s)) =
      .ok (parts.foldl next before, s) := by
  induction parts generalizing most before with
  | nil => exact absurd rfl hne
  | cons a parts ih =>
    obtain ⟨ha, hparts⟩ := List.forall_mem_cons.mp h
    obtain ⟨hreada, hread⟩ := List.forall_mem_cons.mp hread
    obtain ⟨most, rfl⟩ : ∃ n, most = n + 1 := Nat.exists_eq_add_one.mpr (Nat.lt_of_lt_of_le
      (Nat.zero_lt_succ _) hmost)
    cases parts with
    | nil =>
      simp only [List.map_cons, List.map_nil, List.intercalate_singleton]
      exact ha.last hreada most before _ s hends (skipBlanks_cons hblank s)
    | cons a' parts =>
      rw [List.map_cons, List.map_cons, map_intercalate,
        ha.more hreada most before _ _ (ends_comma _) (skipBlanks_cons rfl _)]
      exact ih (List.cons_ne_nil _ _) hparts (Nat.le_of_succ_le_succ hmost) _ hread

/-- The first part that is not read makes the loop fail. -/
theorem passes_fail (h : ∀ a ∈ parts, Passes loop closing text value next depth a) {s : Text}
    (hends : Ends (closing :: s)) {most : Nat} (hmost : parts.length ≤ most) (before : σ)
    (hunread : ∃ a ∈ parts, ¬ (value a).Readable depth) :
    ∃ e, loop most before
          (skipBlanks (([','].intercalate (parts.map text)).map .char ++ closing :: s)) =
        .error e ∧ ∃ a ∈ parts, (value a).Causes depth e := by
  induction parts generalizing most before with
  | nil =>
    obtain ⟨a, ha, -⟩ := hunread
    cases ha
  | cons a parts ih =>
    obtain ⟨ha, hparts⟩ := List.forall_mem_cons.mp h
    obtain ⟨most, rfl⟩ : ∃ n, most = n + 1 := Nat.exists_eq_add_one.mpr (Nat.lt_of_lt_of_le
      (Nat.zero_lt_succ _) hmost)
    by_cases hread : (value a).Readable depth
    · obtain ⟨a', ha', hunread'⟩ := hunread
      have hlater : a' ∈ parts := by
        refine (List.mem_cons.mp ha').resolve_left ?_
        rintro rfl
        exact hunread' hread
      obtain ⟨e, he, a₀, ha₀, hcauses⟩ :=
        ih hparts (Nat.le_of_succ_le_succ hmost) (next before a) ⟨a', hlater, hunread'⟩
      refine ⟨e, ?_, a₀, List.mem_cons_of_mem a ha₀, hcauses⟩
      cases parts with
      | nil => cases hlater
      | cons a'' parts =>
        rw [List.map_cons, List.map_cons, map_intercalate,
          ha.more hread most before _ _ (ends_comma _) (skipBlanks_cons rfl _)]
        exact he
    · obtain ⟨rest, hrest, heq⟩ := exists_ends (text a) (parts.map text) hends
      obtain ⟨e, he, hcauses⟩ := ha.fails hread most before rest hrest
      refine ⟨e, ?_, a, List.mem_cons_self, hcauses⟩
      rw [List.map_cons, heq]
      exact he

/-- A value that is written as several parts is read if each of them is, since there are never more
of them than characters. -/
theorem reads_parts {w : Spelling} (hne : parts ≠ [])
    (h : ∀ a ∈ parts, Passes loop closing text value next depth a)
    (hblank : isBlank closing = false) (hends : ∀ s, Ends (closing :: s)) (before : σ)
    (wrap : σ → Json) (hwrap : wrap (parts.foldl next before) = w.value)
    (hcauses : ∀ e, w.Causes (depth + 1) e ↔ ∃ a ∈ parts, (value a).Causes depth e)
    (hloop : ∀ rest, element (skipBlanks (w.text.map .char ++ rest)) =
      let s := skipBlanks (([','].intercalate (parts.map text)).map .char ++ closing :: rest)
      (loop (s.length + 1) before s).map fun r => (wrap r.1, r.2)) :
    Reads element (depth + 1) w := by
  have hreadable : w.Readable (depth + 1) ↔ ∀ a ∈ parts, (value a).Readable depth := by
    simp only [Spelling.readable_iff, hcauses, not_exists, not_and]
    exact ⟨fun h a ha e => h e a ha, fun h e a ha => h a ha e⟩
  have hmost (rest : Text) := length_parts (parts.map text) (closing :: rest)
  simp only [List.length_map] at hmost
  constructor
  · intro hread rest _
    refine ⟨rest, ?_, rfl⟩
    rw [hloop]
    dsimp only
    rw [passes_all hne h hblank (hends rest) (hmost rest) before (hreadable.mp hread), ← hwrap]
    rfl
  · intro hunread rest _
    obtain ⟨e, he, hcause⟩ := passes_fail h (hends rest) (hmost rest) before (by
      simpa only [hreadable, Classical.not_forall, exists_prop] using hunread)
    refine ⟨e, ?_, (hcauses e).mpr hcause⟩
    rw [hloop]
    dsimp only
    rw [he]
    rfl

end

/-- The items of an array behind those read before. -/
def itemsBehind (element : Text → Except ReadError (Json × Text)) (most : Nat)
    (before : List Json) (s : Text) : Except ReadError (List Json × Text) :=
  (items element most s).map fun r => (before ++ r.1, r.2)

theorem passes_item {w : Spelling} (h : Reads element depth w) :
    Passes (itemsBehind element) (.char ']') Spelling.text id
      (fun before w => before ++ [w.value]) depth w where
  last hread most before rest s hrest hs := by
    obtain ⟨rest', htakes, hskip⟩ := h.takes hread rest hrest
    rw [itemsBehind, items, htakes]
    simp only [bind, Except.bind, hskip.trans hs]
    rfl
  more hread most before rest s hrest hs := by
    obtain ⟨rest', htakes, hskip⟩ := h.takes hread rest hrest
    rw [itemsBehind, items, htakes]
    simp only [bind, Except.bind, hskip.trans hs, itemsBehind]
    cases items element most (skipBlanks s) with
    | error e => rfl
    | ok r => simp [Except.map, pure, Except.pure]
  fails hread most before rest hrest := by
    obtain ⟨e, hfails, he⟩ := h.fails hread rest hrest
    refine ⟨e, ?_, he⟩
    rw [itemsBehind, items, hfails]
    rfl

/-- Behind its key the value of a member is read, and what stands behind that decides how to go
on. -/
theorem members_key {m : MemberSpelling} (hm : m.toKeySpelling.Legal) (most : Nat)
    (before : Members) (rest : Text) :
    members element (most + 1) before (skipBlanks (m.text.map .char ++ rest)) =
      (element (skipBlanks (m.value.text.map .char ++ rest))).bind fun r =>
        match skipBlanks r.2 with
        | .char '\x7d' :: s => .ok (before.insert m.key r.1, s)
        | .char ',' :: s => members element most (before.insert m.key r.1) (skipBlanks s)
        | _ => .error .malformed := by
  let colon : Text := .char ':' :: (m.value.text.map .char ++ rest)
  have hstart : skipBlanks (m.text.map .char ++ rest) =
      .char '"' :: (m.quoted.map .char ++ (m.after.map .char ++ colon)) := by
    simp only [MemberSpelling.text, colon, List.map_append, List.map_cons, List.append_assoc,
      List.cons_append]
    rw [skipBlanks_blanks hm.before]
    exact skipBlanks_cons rfl _
  have hcolon : skipBlanks (m.after.map .char ++ colon) = colon := by
    rw [skipBlanks_blanks hm.after]
    exact skipBlanks_cons rfl _
  rw [hstart, members, hm.takes]
  simp only [bind, Except.bind, hcolon]
  rfl

theorem passes_member {m : MemberSpelling} (hm : m.toKeySpelling.Legal)
    (h : Reads element depth m.value) :
    Passes (members element) (.char '\x7d') MemberSpelling.text MemberSpelling.value
      (fun before m => before.insert m.key m.value.value) depth m where
  last hread most before rest s hrest hs := by
    obtain ⟨rest', htakes, hskip⟩ := h.takes hread rest hrest
    rw [members_key hm, htakes]
    simp only [Except.bind, hskip.trans hs]
  more hread most before rest s hrest hs := by
    obtain ⟨rest', htakes, hskip⟩ := h.takes hread rest hrest
    rw [members_key hm, htakes]
    simp only [Except.bind, hskip.trans hs]
  fails hread most before rest hrest := by
    obtain ⟨e, hfails, he⟩ := h.fails hread rest hrest
    refine ⟨e, ?_, he⟩
    rw [members_key hm, hfails]
    rfl

/-! ### Values -/

theorem value_scalar {p : CodePoint} (hp : p ≠ .char '"' ∧ p ≠ .char '[' ∧ p ≠ .char '\x7b')
    (depth : Nat) (s : Text) : value depth (p :: s) = scalar (p :: s) := by
  obtain ⟨hquote, hbracket, hbrace⟩ := hp
  rw [value.eq_def]
  split
  · rename_i heq
    cases heq
    exact absurd rfl hquote
  · rename_i heq
    cases heq
    exact absurd rfl hbracket
  · rename_i heq
    cases heq
    exact absurd rfl hbrace
  · rfl

/-- What is read without a level of nesting is read with any number of them. -/
theorem value_of_zero {s : Text} {r : Json × Text} (h : value 0 s = .ok r) (depth : Nat) :
    value depth s = .ok r := by
  rw [value.eq_def] at h ⊢
  split at h
  · exact h
  · cases h
  · cases h
  · exact h

theorem value_closing (depth : Nat) (s : Text) :
    value depth (.char ']' :: s) = .error .malformed :=
  (value_scalar (by decide) depth s).trans rfl

theorem value_items (depth : Nat) {s : Text} (h : ∀ s', skipBlanks s ≠ .char ']' :: s') :
    value (depth + 1) (.char '[' :: s) =
      (itemsBehind (value depth) ((skipBlanks s).length + 1) [] (skipBlanks s)).map
        fun r => (.array r.1, r.2) := by
  rw [value, itemsBehind]
  split
  · exact absurd ‹_› (h _)
  · cases items (value depth) ((skipBlanks s).length + 1) (skipBlanks s) <;> rfl

theorem value_quote (depth : Nat) {s s' : Text} (h : skipBlanks s = .char '"' :: s') :
    value (depth + 1) (.char '\x7b' :: s) =
      (members (value depth) ((skipBlanks s).length + 1) [] (skipBlanks s)).map
        fun r => (.object r.1, r.2) := by
  rw [value, h]
  split
  · rename_i hbrace
    cases hbrace
  · cases members (value depth) ((CodePoint.char '"' :: s').length + 1) [] (.char '"' :: s') <;> rfl

/-- No value starts with a closing bracket, so that no array with items is taken for one without. -/
theorem not_closing {depth : Nat} {w : Spelling} (h : Reads (value depth) depth w) {rest : Text}
    (hrest : Ends rest) (s : Text) : skipBlanks (w.text.map .char ++ rest) ≠ .char ']' :: s := by
  intro heq
  by_cases hread : w.Readable depth
  · obtain ⟨rest', htakes, -⟩ := h.takes hread rest hrest
    rw [heq, value_closing] at htakes
    cases htakes
  · obtain ⟨e, hfails, hcauses⟩ := h.fails hread rest hrest
    rw [heq, value_closing] at hfails
    cases hfails
    obtain ⟨he, -⟩ | ⟨he, -⟩ := hcauses <;> cases he

variable (depth : Nat)

theorem reads_number (n : Int) : Reads (value depth) depth (.number n) := by
  have hvalue (rest : Text) :
      value depth (skipBlanks ((Writer.int n).map .char ++ rest)) =
        scalar ((Writer.int n).map .char ++ rest) := by
    obtain ⟨c, cs, hcs, hc⟩ := exists_int n
    have hblank : isBlank (.char c) = false := by
      simp only [List.mem_cons, List.not_mem_nil, or_false] at hc
      rcases hc with rfl | rfl | rfl | rfl | rfl | rfl | rfl | rfl | rfl | rfl | rfl <;> rfl
    have hscalar : CodePoint.char c ≠ .char '"' ∧ CodePoint.char c ≠ .char '[' ∧
        CodePoint.char c ≠ .char '\x7b' := by
      refine ⟨?_, ?_, ?_⟩ <;>
      · intro heq
        cases heq
        exact absurd hc (by decide)
    rw [hcs, List.map_cons, List.cons_append, skipBlanks_cons hblank]
    exact value_scalar hscalar depth _
  constructor
  · rintro ⟨-, hfits⟩ rest hrest
    have hcount : ¬ digitLimit < digitCount n :=
      Nat.not_lt.mpr (hfits _ List.mem_cons_self)
    refine ⟨rest, ?_, rfl⟩
    exact (hvalue rest).trans ((scalar_int n hrest).trans (if_neg hcount))
  · intro hunread rest hrest
    have hcount : digitLimit < digitCount n := by
      refine Nat.lt_of_not_le fun hle => hunread ⟨Nat.zero_le _, fun k hk => ?_⟩
      rwa [List.mem_singleton.mp hk]
    refine ⟨.integerTooLong, ?_, .inr ⟨rfl, fun hfits => hunread ⟨Nat.zero_le _, hfits⟩⟩⟩
    exact (hvalue rest).trans ((scalar_int n hrest).trans (if_pos hcount))

/-- What opens a bracket is read only if there is a level of nesting left. -/
theorem reads_nested {w : Spelling} (hnesting : 0 < w.nesting)
    (hzero : ∀ rest, value 0 (skipBlanks (w.text.map .char ++ rest)) = .error .tooDeep)
    (hsucc : ∀ depth, Reads (value (depth + 1)) (depth + 1) w) : Reads (value depth) depth w := by
  cases depth with
  | zero =>
    constructor
    · intro hread
      exact absurd hread.1 (Nat.not_le_of_gt hnesting)
    · intro _ rest _
      exact ⟨.tooDeep, hzero rest, .inl ⟨rfl, hnesting⟩⟩
  | succ depth => exact hsucc depth

/-- Brackets with nothing between them are read up to the closing one. -/
theorem reads_empty {w : Spelling} (hnesting : w.nesting = 1) (hnumerals : w.numerals = [])
    (hsucc : ∀ rest,
      value (depth + 1) (skipBlanks (w.text.map .char ++ rest)) = .ok (w.value, rest)) :
    Reads (value (depth + 1)) (depth + 1) w := by
  constructor
  · intro _ rest _
    exact ⟨rest, hsucc rest, rfl⟩
  · intro hunread
    refine absurd ⟨?_, ?_⟩ hunread
    · omega
    · exact hnumerals ▸ fun k hk => nomatch hk

theorem reads_array {gap : List Char} (hgap : Blanks gap) {ws : List Spelling}
    (h : ∀ depth, ∀ w ∈ ws, Reads (value depth) depth w) :
    Reads (value depth) depth (.array gap ws) := by
  let parts (rest : Text) : Text :=
    ([','].intercalate (ws.map (·.text))).map .char ++ .char ']' :: rest
  have htext (rest : Text) : skipBlanks ((Spelling.array gap ws).text.map .char ++ rest) =
      .char '[' :: (gap.map .char ++ parts rest) := by
    simp only [parts, Spelling.array, List.map_cons, List.map_append, List.map_nil,
      List.cons_append, List.append_assoc, List.nil_append]
    exact skipBlanks_cons rfl _
  have hskip (rest : Text) : skipBlanks (gap.map .char ++ parts rest) = skipBlanks (parts rest) :=
    skipBlanks_blanks hgap _
  refine reads_nested depth (Nat.zero_lt_succ _) (fun rest => ?_) fun depth => ?_
  · rw [htext]
    rfl
  cases ws with
  | nil =>
    refine reads_empty depth rfl rfl fun rest => ?_
    rw [htext, value, hskip]
    rfl
  | cons w ws =>
    have hvalues : (w :: ws).foldl (fun before w => before ++ [w.value]) [] =
        (w :: ws).map (·.value) := List.flatMap_eq_foldl.symm.trans List.map_eq_flatMap.symm
    refine reads_parts (List.cons_ne_nil w ws) (fun w hw => passes_item (h depth w hw)) rfl
      (fun _ => .inr (.inr (.inl rfl))) [] .array (congrArg _ hvalues)
      (fun _ => Spelling.causes_array) fun rest => ?_
    have hopen (s : Text) : skipBlanks (gap.map .char ++ parts rest) ≠ .char ']' :: s := by
      obtain ⟨rest', hrest', heq⟩ := exists_ends w.text (ws.map (·.text))
        (p := .char ']') (s := rest) (.inr (.inr (.inl rfl)))
      rw [hskip]
      simp only [parts, List.map_cons, heq]
      exact not_closing (h depth w List.mem_cons_self) hrest' s
    rw [htext, value_items depth hopen, hskip]

theorem reads_object {gap : List Char} (hgap : Blanks gap) {ms : List MemberSpelling}
    (hkeys : ∀ m ∈ ms, m.toKeySpelling.Legal)
    (h : ∀ depth, ∀ m ∈ ms, Reads (value depth) depth m.value) :
    Reads (value depth) depth (.object gap ms) := by
  let parts (rest : Text) : Text :=
    ([','].intercalate (ms.map (·.text))).map .char ++ .char '\x7d' :: rest
  have htext (rest : Text) : skipBlanks ((Spelling.object gap ms).text.map .char ++ rest) =
      .char '\x7b' :: (gap.map .char ++ parts rest) := by
    simp only [parts, Spelling.object, List.map_cons, List.map_append, List.map_nil,
      List.cons_append, List.append_assoc, List.nil_append]
    exact skipBlanks_cons rfl _
  have hskip (rest : Text) : skipBlanks (gap.map .char ++ parts rest) = skipBlanks (parts rest) :=
    skipBlanks_blanks hgap _
  refine reads_nested depth (Nat.zero_lt_succ _) (fun rest => ?_) fun depth => ?_
  · rw [htext]
    rfl
  cases ms with
  | nil =>
    refine reads_empty depth rfl rfl fun rest => ?_
    rw [htext, value, hskip]
    rfl
  | cons m ms =>
    refine reads_parts (List.cons_ne_nil m ms)
      (fun m hm => passes_member (hkeys m hm) (h depth m hm)) rfl
      (fun _ => .inr (.inr (.inr rfl))) [] .object rfl (fun _ => Spelling.causes_object)
      fun rest => ?_
    obtain ⟨s, hopen⟩ : ∃ s, skipBlanks (gap.map .char ++ parts rest) = .char '"' :: s := by
      obtain ⟨rest', -, heq⟩ := exists_ends m.text (ms.map (·.text))
        (p := .char '\x7d') (s := rest) (.inr (.inr (.inr rfl)))
      rw [hskip]
      simp only [parts, List.map_cons, heq]
      simp only [MemberSpelling.text, List.map_append, List.map_cons, List.append_assoc,
        List.cons_append]
      rw [skipBlanks_blanks (hkeys m List.mem_cons_self).before]
      exact ⟨_, skipBlanks_cons rfl _⟩
    rw [htext, value_quote depth hopen, hskip]

/-- A value without whole numbers and parts is read by itself. -/
theorem reads_token {t : List Char} {v : Json} (h : Token t v) :
    Reads (value depth) depth { text := t, value := v } := by
  constructor
  · intro _ rest hrest
    refine ⟨rest, ?_, rfl⟩
    rw [h.starts]
    exact value_of_zero (h.takes rest hrest) depth
  · intro hunread
    exact absurd ⟨Nat.zero_le _, fun k hk => nomatch hk⟩ hunread

/-- However a value is written, it is read wherever it stands, unless it is nested too deep or a
whole number in it has too many digits. -/
theorem reads_legal {w : Spelling} (h : w.Legal) (depth : Nat) : Reads (value depth) depth w := by
  induction h generalizing depth with
  | token h => exact reads_token depth h
  | number n => exact reads_number depth n
  | minusZero =>
    constructor
    · intro _ rest hrest
      exact ⟨rest, (value_scalar (by decide) depth _).trans (scalar_minusZero hrest), rfl⟩
    · intro hunread
      exact absurd ⟨Nat.zero_le _, by simp [Fits, digitLimit]⟩ hunread
  | array hgap _ ih => exact reads_array depth hgap fun depth w hw => ih w hw depth
  | object hgap hkeys _ ih =>
    exact reads_object depth hgap hkeys fun depth m hm => ih m hm depth
  | padded hbefore hafter _ ih => exact (ih depth).padded hbefore hafter

end Reader

/-- A text that writes a value is read as that value if its nesting and its whole numbers allow, and
otherwise these are why it is not. -/
theorem read_legal {w : Spelling} (h : w.Legal) (levels : Nat) :
    (w.Readable levels → read levels (w.text.map .char) = .ok w.value) ∧
      (¬ w.Readable levels →
        ∃ e, read levels (w.text.map .char) = .error e ∧ w.Causes levels e) := by
  have hreads := Reader.reads_legal h levels
  unfold read
  constructor
  · intro hread
    obtain ⟨rest, htakes, hrest⟩ := hreads.takes hread [] trivial
    rw [List.append_nil] at htakes
    rw [htakes]
    simp only [bind, Except.bind, hrest]
    rfl
  · intro hunread
    obtain ⟨e, hfails, he⟩ := hreads.fails hunread [] trivial
    rw [List.append_nil] at hfails
    refine ⟨e, ?_, he⟩
    rw [hfails]
    rfl

end SecondFactor.Json
