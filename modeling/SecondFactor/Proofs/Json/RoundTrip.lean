import SecondFactor.Proofs.Json.Text

/-! # Values that are read back

Objects of texts are read as they were written. The reader is shown to take a value from the start
of any text that starts with what is written for it, so that members can follow one another. -/

namespace SecondFactor

/-! ## Objects of texts -/

theorem Members.insert_fresh {ms : Members} {key : Text} (hkey : key ∉ ms.map Prod.fst)
    (value : Json) : ms.insert key value = ms ++ [(key, value)] := by
  have hfresh : ms.hasKey key = false := by
    rw [hasKey, List.any_eq_false]
    intro m hm heq
    exact hkey (List.mem_map.mpr ⟨m, hm, by simpa using heq⟩)
  rw [insert, hfresh]
  rfl

namespace Json

/-- Texts without lone surrogates, and objects of such values, at most `depth` inside one another,
whose keys are such texts and all different. -/
inductive Textual : Nat → Json → Prop
  | text {depth : Nat} (cs : List Char) : Textual depth (.text (cs.map .char))
  | object {depth : Nat} {ms : Members} (hkeys : (ms.map Prod.fst).Nodup)
      (hwhole : ∀ m ∈ ms, ∃ cs : List Char, m.1 = cs.map .char)
      (hvalues : ∀ m ∈ ms, Textual depth m.2) : Textual (depth + 1) (.object ms)

theorem Textual.string {depth : Nat} (s : String) : Textual depth (.text (Text.ofString s)) :=
  .text s.toList

theorem Textual.record {depth : Nat} {ms : List (String × Json)}
    (hkeys : (ms.map Prod.fst).Nodup) (hvalues : ∀ m ∈ ms, Textual depth m.2) :
    Textual (depth + 1) (.record ms) := by
  refine .object ?_ ?_ ?_
  · have hdistinct := List.Pairwise.map (S := (· ≠ ·)) Text.ofString
      (fun k k' hne heq => hne (Text.ofString_injective heq)) hkeys
    rwa [List.map_map] at hdistinct ⊢
  · intro m hm
    obtain ⟨m', -, rfl⟩ := List.mem_map.mp hm
    exact ⟨m'.1.toList, rfl⟩
  · intro m hm
    obtain ⟨m', hm', rfl⟩ := List.mem_map.mp hm
    exact hvalues m' hm'

theorem Textual.mono {depth : Nat} {v : Json} (h : Textual depth v) {depth' : Nat}
    (hle : depth ≤ depth') : Textual depth' v := by
  induction h generalizing depth' with
  | text cs => exact .text cs
  | object hkeys hwhole _ ih =>
    cases depth' with
    | zero => exact absurd hle (Nat.not_succ_le_zero _)
    | succ depth' =>
      exact .object hkeys hwhole fun m hm => ih m hm (Nat.le_of_succ_le_succ hle)

theorem Writer.length_le_members (layout : Layout) (ms : Members) :
    ms.length ≤ (members layout ms).length := by
  induction ms with
  | nil => exact Nat.zero_le _
  | cons m ms ih =>
    obtain ⟨k, v⟩ := m
    cases ms with
    | nil => simp only [members, text, List.length_cons, List.length_append]; omega
    | cons m' ms =>
      simp only [members, text, List.length_cons, List.length_append] at ih ⊢
      omega

/-- What is written for texts and objects is ASCII. -/
theorem Textual.ascii {depth : Nat} {v : Json} (h : Textual depth v) :
    ∀ c ∈ Writer.value .compact v, c.toNat < 0x80 := by
  induction h with
  | text cs => exact fun c hc => Writer.ascii_text hc
  | @object depth ms hkeys hwhole hvalues ih =>
    have hmembers : ∀ c ∈ Writer.members .compact ms, c.toNat < 0x80 := by
      clear hkeys hwhole hvalues
      induction ms with
      | nil => exact fun c hc => nomatch hc
      | cons m ms ihms =>
        obtain ⟨k, v⟩ := m
        obtain ⟨hv, hms⟩ := List.forall_mem_cons.mp ih
        cases ms with
        | nil =>
          intro c hc
          simp only [Writer.members, Layout.compact, List.mem_append, List.mem_singleton] at hc
          rcases hc with (hc | rfl) | hc
          · exact Writer.ascii_text hc
          · decide
          · exact hv c hc
        | cons m' ms =>
          intro c hc
          simp only [Writer.members, Layout.compact, List.mem_append, List.mem_singleton] at hc
          rcases hc with (((hc | rfl) | hc) | rfl) | hc
          · exact Writer.ascii_text hc
          · decide
          · exact hv c hc
          · decide
          · exact ihms hms c hc
    intro c hc
    simp only [Writer.value, List.mem_cons, List.mem_append, List.not_mem_nil, or_false] at hc
    rcases hc with rfl | hc | rfl
    · decide
    · exact hmembers c hc
    · decide

/-! ## Reading -/

namespace Reader

theorem skipBlanks_cons {p : CodePoint} (hp : isBlank p = false) (s : Text) :
    skipBlanks (p :: s) = p :: s := by
  rw [skipBlanks, List.dropWhile_cons, hp]
  rfl

/-- What is written for a value. -/
def written (v : Json) : Text := (Writer.value .compact v).map .char

/-- A reader that takes a value from the start of any text that starts with what is written for
it. -/
structure Takes (element : Text → Except ReadError (Json × Text)) (v : Json) : Prop where
  starts : ∀ s, skipBlanks (written v ++ s) = written v ++ s
  takes : ∀ s, element (written v ++ s) = .ok (v, s)

section Members

variable {element : Text → Except ReadError (Json × Text)}

/-- A member is read, and what follows it decides how to go on. -/
theorem members_step (cs : List Char) {v : Json} (hv : Takes element v) (most : Nat)
    (before : Members) (s : Text) :
    members element (most + 1) before
        ((Writer.text (cs.map .char) ++ [':'] ++ Writer.value .compact v).map .char ++ s) =
      match skipBlanks s with
      | .char '\x7d' :: s => .ok (before.insert (cs.map .char) v, s)
      | .char ',' :: s => members element most (before.insert (cs.map .char) v) (skipBlanks s)
      | _ => .error .malformed := by
  have hkey := text_write cs (.char ':' :: (written v ++ s))
  have hcolon : skipBlanks (.char ':' :: (written v ++ s)) = .char ':' :: (written v ++ s) :=
    skipBlanks_cons rfl _
  have hwritten : (Writer.text (cs.map .char) ++ [':'] ++ Writer.value .compact v).map .char ++ s =
      .char '"' :: (((cs.map CodePoint.char).flatMap Writer.point ++ ['"']).map .char ++
        .char ':' :: (written v ++ s)) := by
    simp only [Writer.text, written, List.map_append, List.map_cons, List.map_nil,
      List.cons_append, List.append_assoc, List.nil_append]
  rw [hwritten, members, hkey]
  simp only [bind, Except.bind, hcolon, hv.starts, hv.takes]
  rfl

theorem exists_members {ms : Members} (hne : ms ≠ []) (s : Text) :
    ∃ s', (Writer.members .compact ms).map .char ++ s = .char '"' :: s' := by
  obtain ⟨⟨k, v⟩, ms, rfl⟩ := List.exists_cons_of_ne_nil hne
  cases ms with
  | nil => exact ⟨_, rfl⟩
  | cons m ms => exact ⟨_, rfl⟩

theorem skipBlanks_members {ms : Members} (hne : ms ≠ []) (s : Text) :
    skipBlanks ((Writer.members .compact ms).map .char ++ s) =
      (Writer.members .compact ms).map .char ++ s := by
  obtain ⟨s', hs'⟩ := exists_members hne s
  rw [hs', skipBlanks_cons rfl]

theorem members_write {ms : Members} (hne : ms ≠ []) {most : Nat} (hmost : ms.length ≤ most)
    {before : Members} (hkeys : ((before ++ ms).map Prod.fst).Nodup)
    (hwhole : ∀ m ∈ ms, ∃ cs : List Char, m.1 = cs.map .char)
    (htakes : ∀ m ∈ ms, Takes element m.2) (s : Text) :
    members element most before ((Writer.members .compact ms).map .char ++ .char '\x7d' :: s) =
      .ok (before ++ ms, s) := by
  induction ms generalizing before most with
  | nil => exact absurd rfl hne
  | cons m ms ih =>
    obtain ⟨k, v⟩ := m
    obtain ⟨⟨cs, hcs⟩, hwholes⟩ := List.forall_mem_cons.mp hwhole
    obtain ⟨hv, hrest⟩ := List.forall_mem_cons.mp htakes
    obtain ⟨most, rfl⟩ : ∃ n, most = n + 1 := ⟨most - 1, by
      rw [List.length_cons] at hmost
      omega⟩
    dsimp only at hcs hv
    subst hcs
    have hfresh : cs.map .char ∉ before.map Prod.fst := by
      intro hmem
      rw [List.map_append, List.nodup_append] at hkeys
      exact hkeys.2.2 _ hmem _ (List.mem_cons_self ..) rfl
    have hinsert := Members.insert_fresh hfresh v
    cases ms with
    | nil =>
      have hend : skipBlanks (.char '\x7d' :: s) = .char '\x7d' :: s := skipBlanks_cons rfl s
      have hstep := members_step cs hv most before (.char '\x7d' :: s)
      rw [hend, hinsert] at hstep
      exact hstep
    | cons m' ms =>
      have hcomma (s' : Text) : skipBlanks (.char ',' :: s') = .char ',' :: s' :=
        skipBlanks_cons rfl s'
      have hnodup : (((before ++ [(cs.map CodePoint.char, v)]) ++ m' :: ms).map Prod.fst).Nodup := by
        rwa [List.append_assoc]
      have hread := ih (List.cons_ne_nil _ _) (Nat.le_of_succ_le_succ hmost) hnodup hwholes hrest
      rw [List.append_assoc] at hread
      have hwritten : (Writer.members .compact ((cs.map .char, v) :: m' :: ms)).map CodePoint.char ++
          .char '\x7d' :: s =
          (Writer.text (cs.map .char) ++ [':'] ++ Writer.value .compact v).map .char ++
            .char ',' :: ((Writer.members .compact (m' :: ms)).map .char ++ .char '\x7d' :: s) := by
        simp only [Writer.members, Layout.compact, List.map_append, List.map_cons,
          List.append_assoc, List.cons_append, List.nil_append]
      rw [hwritten, members_step cs hv, hcomma, hinsert]
      change members element most _ (skipBlanks _) = _
      rw [skipBlanks_members (List.cons_ne_nil _ _)]
      exact hread

end Members

theorem value_text (depth : Nat) (cs : List Char) : Takes (value depth) (.text (cs.map .char)) where
  starts s := skipBlanks_cons rfl _
  takes s := by
    have hread := text_write cs s
    simp only [written, Writer.value, Writer.text, List.map_cons, List.cons_append]
    rw [value, hread]
    rfl

/-- Behind a brace, a quote starts the first member. -/
theorem value_members (depth : Nat) (s : Text) :
    value (depth + 1) (.char '\x7b' :: .char '"' :: s) =
      (members (value depth) ((CodePoint.char '"' :: s).length + 1) [] (.char '"' :: s)).map
        fun r => (.object r.1, r.2) := by
  rw [value, skipBlanks_cons rfl]
  split
  · rename_i hbrace
    cases hbrace
  · cases members (value depth) ((CodePoint.char '"' :: s).length + 1) [] (.char '"' :: s) <;> rfl

theorem value_object {depth : Nat} {ms : Members} (hkeys : (ms.map Prod.fst).Nodup)
    (hwhole : ∀ m ∈ ms, ∃ cs : List Char, m.1 = cs.map .char)
    (htakes : ∀ m ∈ ms, Takes (value depth) m.2) : Takes (value (depth + 1)) (.object ms) where
  starts s := skipBlanks_cons rfl _
  takes s := by
    have hwritten : written (.object ms) ++ s =
        .char '\x7b' :: ((Writer.members .compact ms).map .char ++ .char '\x7d' :: s) := by
      simp only [written, Writer.value, List.map_cons, List.map_append, List.map_nil,
        List.cons_append, List.append_assoc, List.nil_append]
    rw [hwritten]
    by_cases hne : ms = []
    · subst hne
      rw [value]
      rfl
    · have hmost : ms.length ≤
          ((Writer.members .compact ms).map CodePoint.char ++ .char '\x7d' :: s).length + 1 := by
        have hlength := Writer.length_le_members .compact ms
        simp only [List.length_append, List.length_map]
        omega
      have hfresh : (([] ++ ms).map Prod.fst).Nodup := hkeys
      have hmembers := members_write hne hmost hfresh hwhole htakes s
      obtain ⟨s', hs'⟩ := exists_members hne (.char '\x7d' :: s)
      rw [hs'] at hmembers
      rw [hs', value_members, hmembers]
      rfl

/-- Texts and objects are read as they were written. -/
theorem takes_value {depth : Nat} {v : Json} (h : Textual depth v) : Takes (value depth) v := by
  induction h with
  | text cs => exact value_text _ cs
  | object hkeys hwhole _ ih => exact value_object hkeys hwhole ih

end Reader

/-- What is written for texts and objects reads as that value and nothing else. -/
theorem read_write {levels : Nat} {v : Json} (h : Textual levels v) :
    read levels ((Writer.value .compact v).map .char) = .ok v := by
  obtain ⟨hstarts, htakes⟩ := Reader.takes_value h
  have hstart := hstarts []
  have htake := htakes []
  rw [List.append_nil] at hstart htake
  unfold read
  change (Reader.value levels (Reader.skipBlanks (Reader.written v)) >>= _) = _
  rw [hstart, htake]
  rfl

end Json

end SecondFactor
