import Mathlib.Logic.Function.Basic
import SecondFactor.Proofs.Negotiation.Tending

/-! # Where requests to devices stand

A request to a device begins in the first turn of an attempt, which then waits for it. It is left
for good when the platform has replied, or when its attempt was cancelled. What happened around the
device says how far its request has come. -/

namespace SecondFactor

/-! ## Stations of a request -/

namespace Key

/-- How far a request to a device has come. Attempt `i` waits for it, and may be cancelled
meanwhile. -/
inductive Standing where
  | unasked
  | waiting (i : Nat) (cancelled : Bool)
  | left (x : Exit)

namespace Standing

/-- What happened around the device of a request so far. -/
def events : Standing → List DeviceEvent
  | unasked => []
  | waiting .. => [.shown, .asked]
  | left x => [.shown, .asked] ++ x.behaviour.proceed.1

/-- Whether a request can come from one station to another. The attempt that begins it sees it
through, and gives it up once it was cancelled. -/
def Leads : Standing → Standing → Prop
  | unasked, _ => True
  | waiting i c, waiting j c' => j = i ∧ (c = true → c' = true)
  | waiting _ c, left x => c = true → x = .givenUp
  | waiting .., unasked => False
  | left x, q => q = .left x

theorem Leads.refl (p : Standing) : p.Leads p := by
  cases p with
  | unasked => trivial
  | waiting i c => exact ⟨rfl, id⟩
  | left x => rfl

theorem Leads.trans {p q r : Standing} (h : p.Leads q) (h' : q.Leads r) : p.Leads r := by
  cases p with
  | unasked => trivial
  | waiting i c =>
    cases q with
    | unasked => exact h.elim
    | waiting j c' =>
      cases r with
      | unasked => exact h'.elim
      | waiting l c'' => exact ⟨h'.1.trans h.1, h'.2 ∘ h.2⟩
      | left x => exact h' ∘ h.2
    | left x =>
      cases h'
      exact h
  | left x =>
    cases h
    exact h'

end Standing

end Key

namespace Negotiation

variable {τ ν : Type}

/-! ## What happens around one device -/

/-- What happened around the device of one request. -/
def around (k : Nat) (ds : List (Nat × Key.DeviceEvent)) : List Key.DeviceEvent :=
  ds.filterMap fun d => if d.1 = k then some d.2 else none

theorem around_append (k : Nat) (ds es : List (Nat × Key.DeviceEvent)) :
    around k (ds ++ es) = around k ds ++ around k es := List.filterMap_append

theorem around_self (k : Nat) (es : List Key.DeviceEvent) : around k (es.map (k, ·)) = es := by
  induction es with
  | nil => rfl
  | cons e es ih => simp [around]

theorem around_of_ne {k k' : Nat} (hk : k' ≠ k) (es : List Key.DeviceEvent) :
    around k' (es.map (k, ·)) = [] := by
  simp [around, hk.symm]

/-! ## Attempts in the middle of requests -/

section

variable {n n' : Negotiation τ} {i : Nat} {a : Attempt τ}

theorem engaged_congr (h : n'.attempts = n.attempts) (i : Nat) : n'.engaged? i = n.engaged? i := by
  rw [engaged?, engaged?, h]

theorem engaged_set (ha : n.attempts[i]? = some a) (a' : Attempt τ) (j : Nat) :
    engaged? { n with attempts := n.attempts.set i a' } j =
      if j = i then a'.engaged? else n.engaged? j := by
  have hlt : i < n.attempts.length := (List.getElem?_eq_some_iff.mp ha).1
  by_cases hij : j = i
  · subst hij
    rw [if_pos rfl, engaged?, List.getElem?_set_self hlt, Option.bind_some]
  · rw [if_neg hij, engaged?, List.getElem?_set_ne (Ne.symm hij)]
    rfl

/-- An attempt that begins is in the middle of no request. -/
theorem engaged_begin (n : Negotiation τ) (whenEnded : List (Turn τ)) (i : Nat) :
    (n.begin whenEnded).engaged? i = n.engaged? i := by
  rcases Nat.lt_or_ge i n.attempts.length with hlt | hge
  · rw [engaged?, engaged?, begin, List.getElem?_append_left hlt]
  · rw [engaged?, engaged?, begin, List.getElem?_append_right hge, List.getElem?_eq_none hge]
    cases i - n.attempts.length <;> rfl

end

/-! ## What is known of requests -/

/-- Whether an attempt goes on as a request to a device does, and only these replies have come to
it. -/
structure Attempt.Goes (said : Nat → Key.Behaviour → Prop) (a : Attempt τ) : Prop where
  behaves : ∃ answered, a.Behaves answered
  said : ∀ k next onLateCancel, a.task.phase = .woken (.replied k next onLateCancel) → said k next

/-- Whether requests stand so, given the replies that have come to attempts, the turns that are due,
and what happened around devices. -/
structure Tracks (said : Nat → Nat → Key.Behaviour → Prop) (p : Nat → Key.Standing)
    (due : List (Turn τ)) (ds : List (Nat × Key.DeviceEvent)) (n : Negotiation τ) : Prop where
  events : ∀ k, around k ds = (p k).events
  engaged : ∀ i k c, n.engaged? i = some (k, c) ↔ p k = .waiting i c
  goes : ∀ (i : Nat) a, n.attempts[i]? = some a → a.Goes (said i)
  told : ∀ i, .attemptNotified i ∈ due ∨
    (∃ sub, n.submission = some sub ∧ .attemptNotified i ∈ sub.whenEnded) →
      ∃ a, n.attempts[i]? = some a ∧ a.isUnanswered = false

/-- Whether nothing happens to requests but that attempts that wait for them are cancelled. -/
def Cancels (p p' : Nat → Key.Standing) : Prop :=
  ∀ k, p' k = p k ∨ ∃ i, p k = .waiting i false ∧ p' k = .waiting i true

theorem Cancels.refl (p : Nat → Key.Standing) : Cancels p p := fun _ => .inl rfl

theorem Cancels.trans {p p' p'' : Nat → Key.Standing} (h : Cancels p p') (h' : Cancels p' p'') :
    Cancels p p'' := by
  intro k
  rcases h k with heq | ⟨i, hbefore, hafter⟩
  · rw [← heq]
    exact h' k
  · rcases h' k with heq' | ⟨j, hbefore', -⟩
    · exact .inr ⟨i, hbefore, heq'.trans hafter⟩
    · cases hafter.symm.trans hbefore'

/-- Whether attempt `i` ends up in the middle of no request, and other requests stand as before. -/
structure Frees (i : Nat) (p p' : Nat → Key.Standing) (ds es : List (Nat × Key.DeviceEvent)) :
    Prop where
  events : ∀ k, around k (ds ++ es) = (p' k).events
  self : ∀ k c, p' k ≠ .waiting i c
  other : ∀ j k c, j ≠ i → (p' k = .waiting j c ↔ p k = .waiting j c)

namespace Tracks

variable {said : Nat → Nat → Key.Behaviour → Prop} {p p' : Nat → Key.Standing}
  {due due' : List (Turn τ)} {ds es : List (Nat × Key.DeviceEvent)} {n n' : Negotiation τ} {i : Nat}
  {a a' : Attempt τ}

/-- Turns that tell no attempt of a submission do not matter. -/
theorem of_hushes (h : Tracks said p due ds n) (hdue : Hushes due due') :
    Tracks said p due' ds n :=
  { h with told := fun i hi => h.told i (hi.imp_left (hdue i)) }

/-- Where no attempt changes, the rest of a negotiation may do so. -/
theorem of_attempts (h : Tracks said p due ds n) (hattempts : n'.attempts = n.attempts)
    (htold : ∀ i sub, n'.submission = some sub → .attemptNotified i ∈ sub.whenEnded →
      ∃ a, n.attempts[i]? = some a ∧ a.isUnanswered = false) : Tracks said p due ds n' where
  events := h.events
  engaged := fun i k c => by rw [engaged_congr hattempts, h.engaged]
  goes := hattempts ▸ h.goes
  told := by
    rw [hattempts]
    rintro i (hdue | ⟨sub, hsub, hin⟩)
    · exact h.told i (.inl hdue)
    · exact htold i sub hsub hin

/-- One attempt goes on. -/
theorem replace (h : Tracks said p due ds n) (ha : n.attempts[i]? = some a)
    (hevents : ∀ k, around k (ds ++ es) = (p' k).events)
    (hself : ∀ k c, a'.engaged? = some (k, c) ↔ p' k = .waiting i c)
    (hother : ∀ j k c, j ≠ i → (p' k = .waiting j c ↔ p k = .waiting j c))
    (hgoes : a'.Goes (said i)) (hunanswered : a'.isUnanswered = true → a.isUnanswered = true) :
    Tracks said p' due (ds ++ es) { n with attempts := n.attempts.set i a' } where
  events := hevents
  engaged := by
    intro j k c
    rw [engaged_set ha]
    split
    · rename_i hij
      rw [hij]
      exact hself k c
    · rename_i hij
      rw [h.engaged]
      exact (hother j k c hij).symm
  goes := by
    intro j b hb
    have hb : (n.attempts.set i a')[j]? = some b := hb
    by_cases hij : i = j
    · subst hij
      rw [List.getElem?_set_self (List.getElem?_eq_some_iff.mp ha).1] at hb
      cases hb
      exact hgoes
    · rw [List.getElem?_set_ne hij] at hb
      exact h.goes j b hb
  told := fun j hj => exists_answered_set ha hunanswered (h.told j hj)

/-- An attempt changes that stays in the middle of its request, if it is in the middle of one. -/
theorem retask (h : Tracks said p due ds n) (ha : n.attempts[i]? = some a)
    (hengaged : a'.engaged? = a.engaged?) (hgoes : a'.Goes (said i))
    (hunanswered : a'.isUnanswered = true → a.isUnanswered = true) :
    Tracks said p due ds { n with attempts := n.attempts.set i a' } := by
  have hreplaced : Tracks said p due (ds ++ []) { n with attempts := n.attempts.set i a' } := by
    refine h.replace ha (fun k => ?_) (fun k c => ?_) (fun j k c _ => Iff.rfl) hgoes hunanswered
    · rw [List.append_nil, h.events]
    · rw [hengaged, ← engaged_eq ha, h.engaged]
  rwa [List.append_nil] at hreplaced

/-- An attempt is in the middle of no request any more. -/
theorem free (h : Tracks said p due ds n) (ha : n.attempts[i]? = some a)
    (hf : Frees i p p' ds es) (hnone : a'.device? = none) (hgoes : a'.Goes (said i))
    (hanswered : a'.isUnanswered = false) :
    Tracks said p' due (ds ++ es) { n with attempts := n.attempts.set i a' } := by
  refine h.replace ha hf.events (fun k c => iff_of_false ?_ (hf.self k c)) hf.other hgoes ?_
  · rw [Attempt.engaged?, hnone, Option.map_none]
    exact fun hsome => by cases hsome
  · rw [hanswered]
    exact fun hsome => by cases hsome

/-- An attempt that asks no device has none to leave. -/
theorem frees_none (h : Tracks said p due ds n) (hnone : n.engaged? i = none) :
    Frees i p p ds [] := by
  refine ⟨fun k => ?_, fun k c hk => ?_, fun j k c _ => Iff.rfl⟩
  · rw [List.append_nil, h.events]
  · cases hnone.symm.trans ((h.engaged i k c).mpr hk)

/-- Another request stands as before, and this one is not waited for by another attempt. -/
theorem update_other {k : Nat} {q : Key.Standing} (hk : ∀ j c, j ≠ i → p k ≠ .waiting j c)
    (hq : ∀ j c, j ≠ i → q ≠ .waiting j c) (j k' : Nat) (c : Bool) (hij : j ≠ i) :
    Function.update p k q k' = .waiting j c ↔ p k' = .waiting j c := by
  by_cases hkk : k' = k
  · rw [hkk, Function.update_self]
    exact iff_of_false (hq j c hij) (hk j c hij)
  · rw [Function.update_of_ne hkk]

/-- More happens around the device of one request. -/
theorem update_events (h : Tracks said p due ds n) {k : Nat} {q : Key.Standing}
    {es : List Key.DeviceEvent} (hes : (p k).events ++ es = q.events) (k' : Nat) :
    around k' (ds ++ es.map (k, ·)) = (Function.update p k q k').events := by
  rw [around_append, h.events]
  by_cases hkk : k' = k
  · rw [hkk, Function.update_self, around_self, hes]
  · rw [Function.update_of_ne hkk, around_of_ne hkk, List.append_nil]

/-- An attempt waits for its device. -/
theorem wait (h : Tracks said p due ds n) (ha : n.attempts[i]? = some a) {k : Nat} {c : Bool}
    (hmine : ∀ k' c', n.engaged? i = some (k', c') → k' = k)
    (hk : ∀ j c, j ≠ i → p k ≠ .waiting j c) {es : List Key.DeviceEvent}
    (hes : (p k).events ++ es = [.shown, .asked]) (hengaged : a'.engaged? = some (k, c))
    (hgoes : a'.Goes (said i)) (hunanswered : a'.isUnanswered = true → a.isUnanswered = true) :
    Tracks said (Function.update p k (.waiting i c)) due (ds ++ es.map (k, ·))
      { n with attempts := n.attempts.set i a' } := by
  refine h.replace ha (h.update_events (q := .waiting i c) hes) (fun k' c' => ?_)
    (update_other hk fun j c hij heq => ?_) hgoes hunanswered
  · rw [hengaged]
    by_cases hkk : k' = k
    · subst hkk
      rw [Function.update_self]
      constructor <;> intro heq <;> cases heq <;> rfl
    · rw [Function.update_of_ne hkk, ← h.engaged]
      refine iff_of_false (fun heq => ?_) fun heq => hkk (hmine k' c' heq)
      cases heq
      exact hkk rfl
  · cases heq
    exact hij rfl

/-- A request that is left was waited for until then. -/
theorem waiting_of_exits (h : Tracks said p due ds n) {k : Nat} {x : Key.Exit}
    (hx : n.Exits i k x) : ∃ c, p k = .waiting i c ∧ (c = true ↔ x = .givenUp) := by
  obtain ⟨c, hengaged, hc⟩ := hx.engaged
  exact ⟨c, (h.engaged i k c).mp hengaged, hc⟩

/-- An attempt leaves its device. -/
theorem frees_exit (h : Tracks said p due ds n) {k : Nat} {x : Key.Exit} (hx : n.Exits i k x) :
    Frees i p (Function.update p k (.left x)) ds (x.behaviour.proceed.1.map (k, ·)) := by
  obtain ⟨c, hk, -⟩ := h.waiting_of_exits hx
  have hengaged := (h.engaged i k c).mpr hk
  refine ⟨h.update_events (hk ▸ rfl), fun k' c' hk' => ?_, update_other ?_ fun _ _ _ => ?_⟩
  · by_cases hkk : k' = k
    · rw [hkk, Function.update_self] at hk'
      cases hk'
    · rw [Function.update_of_ne hkk] at hk'
      cases hengaged.symm.trans ((h.engaged i k' c').mpr hk')
      exact hkk rfl
  · intro j c' hij heq
    cases hk.symm.trans heq
    exact hij rfl
  · exact fun heq => by cases heq

/-- Who goes on as it was told has been told so. -/
theorem said_of_exits (h : Tracks said p due ds n) {k : Nat} {next : Key.Behaviour}
    (hx : n.Exits i k (.replied next)) : said i k next := by
  cases hx with
  | replied ha hstart => exact (h.goes i _ ha).said k next _ (Task.phase_of_news hstart)

/-! ### Attempts are cancelled -/

theorem goes_cancel {said : Nat → Key.Behaviour → Prop} (ha : a.Goes said) :
    ({ a with task := a.task.cancel } : Attempt τ).Goes said := by
  obtain ⟨answered, hbehaves⟩ := ha.behaves
  refine ⟨⟨answered, Tended.behaves_cancel hbehaves⟩, fun k next onLateCancel hphase => ?_⟩
  rw [Task.phase_cancel] at hphase
  exact ha.said k next onLateCancel hphase

/-- An attempt that is cancelled in the middle of a request stays there until its next turn. -/
theorem engaged_cancel {k : Nat} (hk : a.device? = some k) :
    ({ a with task := a.task.cancel } : Attempt τ).engaged? = some (k, true) := by
  have hover : a.task.isOver = false := by
    unfold Attempt.device? at hk
    split at hk <;> simp_all [Task.isOver, Task.ending?]
  have hcancelling : a.task.cancel.cancelling = true := by simp [Task.cancel, hover]
  rw [Attempt.engaged?, Tended.device_cancel, hk, Option.map_some, hcancelling]

/-- An attempt is cancelled, and may be in the middle of a request. -/
theorem cancel (h : Tracks said p due ds n) (i : Nat) :
    ∃ p', Cancels p p' ∧ Tracks said p' due ds (n.setTask i Task.cancel) := by
  cases ha : n.attempts[i]? with
  | none =>
    refine ⟨p, .refl p, ?_⟩
    rwa [setTask_eq_self fun a ha' => by cases ha.symm.trans ha']
  | some a =>
    rw [setTask_eq ha]
    have hgoes := goes_cancel (h.goes i a ha)
    have hunanswered := Tended.isUnanswered_cancel a
    cases hk : a.device? with
    | none =>
      refine ⟨p, .refl p, h.retask ha ?_ hgoes fun hu => hunanswered ▸ hu⟩
      rw [Attempt.engaged?, Attempt.engaged?, Tended.device_cancel, hk]
      rfl
    | some k =>
      have hengaged := engaged_of_device ha hk
      have hp : p k = .waiting i a.task.cancelling := (h.engaged i k _).mp hengaged
      refine ⟨Function.update p k (.waiting i true), fun k' => ?_, ?_⟩
      · by_cases hkk : k' = k
        · subst hkk
          rw [Function.update_self, hp]
          cases a.task.cancelling with
          | false => exact .inr ⟨i, rfl, rfl⟩
          | true => exact .inl rfl
        · exact .inl (Function.update_of_ne hkk _ _)
      · rw [← List.append_nil ds]
        refine h.wait ha (fun k' c' heq => ?_) (fun j c hij heq => ?_) (by rw [hp]; rfl)
          (engaged_cancel hk) hgoes fun hu => hunanswered ▸ hu
        · cases hengaged.symm.trans heq
          rfl
        · cases hp.symm.trans heq
          exact hij rfl

theorem cancelKey (h : Tracks said p due ds n) :
    ∃ p', Cancels p p' ∧ Tracks said p' due ds n.cancelKey := by
  unfold Negotiation.cancelKey
  split
  · exact ⟨p, .refl p, h⟩
  · exact h.cancel _

/-- Another attempt begins. It has not asked its device yet. -/
theorem begin (h : Tracks said p due ds n) {whenEnded : List (Turn τ)}
    (hsilent : ∀ i, .attemptNotified i ∉ whenEnded) :
    Tracks said p due ds (n.begin whenEnded) := by
  let new : Attempt τ := { whenEnded := .attemptEnded n.attempts.length :: whenEnded }
  have hnew : new.Behaves [] := by
    refine ⟨fun j hj => ?_, trivial⟩
    rcases List.mem_cons.mp hj with heq | hin
    · cases heq
    · exact hsilent j hin
  constructor
  case events => exact h.events
  case engaged =>
    intro i k c
    rw [engaged_begin, h.engaged]
  case goes =>
    intro i b hb
    have hb : (n.attempts ++ [new])[i]? = some b := hb
    rcases Nat.lt_or_ge i n.attempts.length with hlt | hge
    · exact h.goes i b ((List.getElem?_append_left hlt).symm.trans hb)
    · rw [List.getElem?_append_right hge] at hb
      cases List.mem_singleton.mp (List.mem_of_getElem? hb)
      exact ⟨⟨[], hnew⟩, fun k next onLateCancel hphase => by cases hphase⟩
  case told =>
    intro i hi
    obtain ⟨b, hb, hanswered⟩ := h.told i hi
    exact ⟨b, (List.getElem?_append_left (List.getElem?_eq_some_iff.mp hb).1).trans hb, hanswered⟩

end Tracks

end Negotiation

end SecondFactor
