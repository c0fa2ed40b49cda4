import SecondFactor.Json

/-! # Members that are given another value

The members of an object are read one by one, and a key that comes again takes the place of the
former one. To give one key another value changes nothing else, whenever it is done. -/

namespace SecondFactor.Members

/-- Gives all members with a key another value. -/
def assign (ms : Members) (key : Text) (value : Json) : Members :=
  ms.map fun m => if m.1 == key then (key, value) else m

variable {ms : Members} {key other : Text}

/-- A key that has a value is present. -/
theorem hasKey_iff : ms.hasKey key = true ↔ ∃ v, ms.find? key = some v := by
  unfold hasKey find?
  induction ms with
  | nil => simp
  | cons m ms ih =>
    rw [List.any_cons, List.lookup_cons]
    by_cases hm : m.1 = key
    · simp [hm]
    · simp only [beq_false_of_ne hm, beq_false_of_ne (Ne.symm hm), Bool.false_or]
      exact ih

/-! ## Assigning -/

theorem hasKey_assign (v : Json) : (ms.assign key v).hasKey other = ms.hasKey other := by
  unfold hasKey assign
  rw [List.any_map]
  congr 1
  funext m
  by_cases hm : m.1 = key
  · simp [hm]
  · simp [hm]

theorem assign_of_not_hasKey (h : ms.hasKey key = false) (v : Json) : ms.assign key v = ms := by
  unfold assign
  refine (List.map_congr_left fun m hm => ?_).trans (List.map_id ms)
  exact if_neg (List.any_eq_false.mp h m hm)

theorem assign_append (ms ns : Members) (key : Text) (v : Json) :
    (ms ++ ns).assign key v = ms.assign key v ++ ns.assign key v := List.map_append

theorem assign_assign (u v : Json) : (ms.assign key u).assign key v = ms.assign key v := by
  unfold assign
  rw [List.map_map]
  refine List.map_congr_left fun m _ => ?_
  by_cases hm : m.1 = key
  · simp [hm]
  · simp [hm]

theorem assign_comm (hne : other ≠ key) (u v : Json) :
    (ms.assign key v).assign other u = (ms.assign other u).assign key v := by
  unfold assign
  rw [List.map_map, List.map_map]
  refine List.map_congr_left fun m _ => ?_
  by_cases hm : m.1 = key
  · simp [hm, hne.symm]
  · by_cases hm' : m.1 = other
    · simp [hm', hne]
    · simp [hm, hm']

theorem find_assign_of_ne (hne : other ≠ key) (v : Json) :
    (ms.assign key v).find? other = ms.find? other := by
  unfold find? assign
  induction ms with
  | nil => rfl
  | cons m ms ih =>
    rw [List.map_cons, List.lookup_cons, List.lookup_cons, ih]
    by_cases hm : m.1 = key
    · have hfirst : (other == m.1) = false := beq_false_of_ne (hm ▸ hne)
      have hkey : (other == key) = false := beq_false_of_ne hne
      simp [hm, hkey]
    · simp [hm]

theorem find_assign_self (h : ms.hasKey key = true) (v : Json) :
    (ms.assign key v).find? key = some v := by
  unfold find? assign
  induction ms with
  | nil => cases h
  | cons m ms ih =>
    rw [List.map_cons, List.lookup_cons]
    by_cases hm : m.1 = key
    · simp [hm]
    · have hrest : hasKey ms key = true := by simpa [hasKey, hm] using h
      have hfirst : (key == m.1) = false := beq_false_of_ne (Ne.symm hm)
      simp only [beq_false_of_ne hm, hfirst, Bool.false_eq_true, if_false]
      exact ih hrest

/-- Members that are kept for their keys are kept, if the key is none of these. -/
theorem without_assign {keys : List Text} (hkey : key ∈ keys) (v : Json) :
    (ms.assign key v).without keys = ms.without keys := by
  unfold without assign
  induction ms with
  | nil => rfl
  | cons m ms ih =>
    rw [List.map_cons, List.filter_cons, List.filter_cons, ih]
    by_cases hm : m.1 = key
    · simp [hm, hkey]
    · simp [hm]

/-! ## Inserting -/

theorem insert_of_hasKey (h : ms.hasKey key = true) (v : Json) :
    ms.insert key v = ms.assign key v := if_pos h

theorem insert_of_not_hasKey (h : ms.hasKey key = false) (v : Json) :
    ms.insert key v = ms ++ [(key, v)] := if_neg (by simp [h])

theorem hasKey_insert_self (v : Json) : (ms.insert key v).hasKey key = true := by
  cases h : ms.hasKey key with
  | true => rw [insert_of_hasKey h, hasKey_assign, h]
  | false => simp [insert_of_not_hasKey h, hasKey]

theorem hasKey_insert (h : ms.hasKey key = true) (v : Json) :
    (ms.insert other v).hasKey key = true := by
  cases hother : ms.hasKey other with
  | true => rw [insert_of_hasKey hother, hasKey_assign, h]
  | false =>
    rw [insert_of_not_hasKey hother]
    simp only [hasKey, List.any_append, Bool.or_eq_true]
    exact .inl h

theorem assign_insert_self (u v : Json) : (ms.insert key u).assign key v = ms.insert key v := by
  cases h : ms.hasKey key with
  | true => rw [insert_of_hasKey h, insert_of_hasKey h, assign_assign]
  | false =>
    rw [insert_of_not_hasKey h, insert_of_not_hasKey h, assign_append, assign_of_not_hasKey h]
    simp [assign]

theorem insert_assign (hne : other ≠ key) (u v : Json) :
    (ms.assign key v).insert other u = (ms.insert other u).assign key v := by
  cases h : ms.hasKey other with
  | true => rw [insert_of_hasKey h, insert_of_hasKey (by rw [hasKey_assign, h]), assign_comm hne]
  | false =>
    rw [insert_of_not_hasKey h, insert_of_not_hasKey (by rw [hasKey_assign, h]), assign_append]
    simp [assign, hne]

end SecondFactor.Members
