import SecondFactor.Proofs.Negotiation.Closing

/-! # What becomes of devices

An attempt that asks a device has an indicator shown until the device has answered, or is told to
stop. As long as turns are taken when they are due, no attempt is forgotten in between. -/

namespace SecondFactor.Negotiation

variable {τ ν : Type}

/-! ## What happens around devices -/

/-- The device that an event is about, and what happened there. -/
def Event.device? : Event ν → Option (Nat × Key.DeviceEvent)
  | .device request e => some (request, e)
  | _ => none

/-- What happened around devices. -/
def devices (es : List (Event ν)) : List (Nat × Key.DeviceEvent) := es.filterMap Event.device?

/-- How often something happened, around whichever device. -/
def times (e : Key.DeviceEvent) (ds : List (Nat × Key.DeviceEvent)) : Nat := ds.countP (·.2 == e)

theorem devices_append (es fs : List (Event ν)) : devices (es ++ fs) = devices es ++ devices fs :=
  List.filterMap_append

theorem devices_device (request : Nat) (es : List Key.DeviceEvent) :
    devices (es.map (Event.device (ν := ν) request)) = es.map (request, ·) := by
  induction es with
  | nil => rfl
  | cons e es ih => exact congrArg ((request, e) :: ·) ih

theorem times_append (e : Key.DeviceEvent) (ds ds' : List (Nat × Key.DeviceEvent)) :
    times e (ds ++ ds') = times e ds + times e ds' := List.countP_append

theorem times_map (e : Key.DeviceEvent) (request : Nat) (es : List Key.DeviceEvent) :
    times e (es.map (request, ·)) = es.count e := List.countP_map

/-- Whether nobody waits for a device any more: the indicator was hidden as often as it was shown,
and each device that was asked has answered, or was told to stop. -/
structure AtRest (answered : List Nat) (ds : List (Nat × Key.DeviceEvent)) : Prop where
  hidden : times .hidden ds = times .shown ds
  released : ∀ k, (k, .asked) ∈ ds → k ∈ answered ∨ (k, .signalled) ∈ ds

/-! ## Attempts -/

/-- The request to a device that an attempt is in the middle of. -/
def Attempt.device? (a : Attempt τ) : Option Nat :=
  match a.task.phase with
  | .waiting (.reply request ..) | .woken (.replied request ..) => some request
  | _ => none

/-- Whether an attempt goes on as a request to a device does, given the devices that have answered.
It tells no attempt that a submission ended. -/
structure Attempt.Behaves (answered : List Nat) (a : Attempt τ) : Prop where
  silent : ∀ j, .attemptNotified j ∉ a.whenEnded
  stands : match a.task.phase with
    | .waiting (.reply _ onCancel onLateCancel) => onCancel = .abandoned ∧ onLateCancel = .abandoned
    | .woken (.replied request next onLateCancel) =>
      request ∈ answered ∧ (∃ o, Key.Behaviour.answered? o = some next) ∧ onLateCancel = .abandoned
    | .waiting (.replied ..) | .woken (.reply ..) => False
    | _ => True

/-- An attempt that has been answered hears of a submission only if it waits for one. -/
theorem Attempt.Behaves.wake_submission {answered : List Nat} {a : Attempt τ}
    (h : a.Behaves answered) (hanswered : a.isUnanswered = false) :
    a.task.wake .submission = a.task ∨
      a.task.phase = .waiting .submission ∧
        a.task.wake .submission = { phase := .woken .submission } := by
  cases hwaits : a.task.awaits? with
  | none => exact .inl (Task.wake_of_awaits_none _ hwaits)
  | some on =>
    have hphase := Task.phase_of_awaits hwaits
    have hstands := h.stands
    cases on with
    | reply => simp [Attempt.isUnanswered, hphase] at hanswered
    | replied => simp [hphase] at hstands
    | submission => exact .inr ⟨hphase, Task.wake_of_awaits hwaits⟩

/-- Whether an attempt goes on with its request unless somebody cancels it. -/
def Attempt.isLive (a : Attempt τ) : Bool := a.isUnanswered && !a.task.cancelling

/-- Whether no more attempts are told that a submission ended. -/
def Hushes (due due' : List (Turn τ)) : Prop :=
  ∀ i, .attemptNotified i ∈ due' → .attemptNotified i ∈ due

theorem Hushes.append {q q' : List (Turn τ)} (h : Hushes q q') (due : List (Turn τ)) :
    Hushes (due ++ q) (due ++ q') := fun i hi =>
  (List.mem_append.mp hi).elim (List.mem_append_left q) fun hin =>
    List.mem_append_right due (h i hin)

theorem Hushes.trans {q q' q'' : List (Turn τ)} (h : Hushes q q') (h' : Hushes q' q'') :
    Hushes q q'' := fun i hi => h i (h' i hi)

/-- Whether the devices that a negotiation asked are looked after, given those that have answered,
the turns that are due, and what happened around devices. Once it was parted with, no attempt is
live. -/
structure Tended (parted : Prop) (answered : List Nat) (due : List (Turn τ))
    (ds : List (Nat × Key.DeviceEvent)) (n : Negotiation τ) : Prop where
  indicator : times .shown ds = times .hidden ds + n.attempts.countP (·.device?.isSome)
  asked : ∀ k, (k, .asked) ∈ ds →
    k ∈ answered ∨ (k, .signalled) ∈ ds ∨ ∃ a ∈ n.attempts, a.device? = some k
  behaves : ∀ a ∈ n.attempts, a.Behaves answered
  live : ∀ (i : Nat) a, n.attempts[i]? = some a → a.isLive = true →
    n.current = some i ∧ n.active = .webauthn ∧ n.submission = none ∧ ¬ parted
  told : ∀ i, .attemptNotified i ∈ due ∨
    (∃ sub, n.submission = some sub ∧ .attemptNotified i ∈ sub.whenEnded) →
      ∃ a, n.attempts[i]? = some a ∧ a.isUnanswered = false
  shut : parted → n.stage.isOpen = false

theorem setTask_eq {n : Negotiation τ} {i : Nat} {a : Attempt τ} (ha : n.attempts[i]? = some a)
    (f : Task Attempt.Wait Unit → Task Attempt.Wait Unit) :
    n.setTask i f = { n with attempts := n.attempts.set i { a with task := f a.task } } := by
  rw [setTask, List.modify_eq_set_getElem?, ha]
  rfl

theorem countP_set {α : Type} (p : α → Bool) {xs : List α} {i : Nat} {x : α}
    (hx : xs[i]? = some x) (y : α) :
    (xs.set i y).countP p + (if p x then 1 else 0) = xs.countP p + if p y then 1 else 0 := by
  obtain ⟨hlt, rfl⟩ := List.getElem?_eq_some_iff.mp hx
  have hle : (if p xs[i] then 1 else 0) ≤ xs.countP p := by
    split
    · exact List.countP_pos_iff.mpr ⟨xs[i], List.getElem_mem hlt, ‹_›⟩
    · exact Nat.zero_le _
  rw [List.countP_set hlt]
  omega

/-- An attempt that has been answered stays so when one that goes on does not unlearn its answer. -/
theorem exists_answered_set {n : Negotiation τ} {i j : Nat} {a a' : Attempt τ}
    (ha : n.attempts[i]? = some a) (hunanswered : a'.isUnanswered = true → a.isUnanswered = true)
    (h : ∃ b, n.attempts[j]? = some b ∧ b.isUnanswered = false) :
    ∃ b, (n.attempts.set i a')[j]? = some b ∧ b.isUnanswered = false := by
  obtain ⟨b, hb, hanswered⟩ := h
  by_cases hij : i = j
  · subst hij
    cases ha.symm.trans hb
    refine ⟨a', List.getElem?_set_self (List.getElem?_eq_some_iff.mp ha).1, ?_⟩
    by_contra hnot
    rw [hunanswered (by simpa using hnot)] at hanswered
    cases hanswered
  · exact ⟨b, (List.getElem?_set_ne hij).trans hb, hanswered⟩

namespace Tended

variable {parted : Prop} {answered answered' : List Nat} {due due' : List (Turn τ)}
  {ds es : List (Nat × Key.DeviceEvent)} {n n' : Negotiation τ}

/-- Turns that tell no attempt of a submission do not matter. -/
theorem of_hushes (h : Tended parted answered due ds n) (hdue : Hushes due due') :
    Tended parted answered due' ds n :=
  { h with told := fun i hi => h.told i (hi.imp_left (hdue i)) }

/-- More devices answer. -/
theorem mono (h : Tended parted answered due ds n) (hmore : answered ⊆ answered') :
    Tended parted answered' due ds n := by
  refine { h with asked := fun k hk => (h.asked k hk).imp_left (@hmore k), behaves := ?_ }
  intro a ha
  obtain ⟨hsilent, hstands⟩ := h.behaves a ha
  refine ⟨hsilent, ?_⟩
  split at hstands
  · exact hstands
  · exact ⟨hmore hstands.1, hstands.2⟩
  · exact hstands
  · exact hstands
  · trivial

/-- What was parted with is looked after in any case. -/
theorem imp (h : Tended parted answered due ds n) {parted' : Prop} (hparted : parted' → parted) :
    Tended parted' answered due ds n :=
  { h with
    live := fun i a ha hlive =>
      (h.live i a ha hlive).imp_right (And.imp_right (And.imp_right (· ∘ hparted)))
    shut := h.shut ∘ hparted }

/-! ### One attempt -/

/-- An attempt goes on. It shows the indicator when it comes to wait for a device, and hides it when
it waits no more. -/
theorem replace (h : Tended parted answered due ds n) {i : Nat} {a a' : Attempt τ}
    (ha : n.attempts[i]? = some a)
    (hshown : times .shown es + (if a.device?.isSome then 1 else 0) =
      times .hidden es + if a'.device?.isSome then 1 else 0)
    (hasked : ∀ k, a.device? = some k ∨ (k, .asked) ∈ es →
      k ∈ answered ∨ (k, .signalled) ∈ es ∨ a'.device? = some k)
    (hbehaves : a'.Behaves answered)
    (hunanswered : a'.isUnanswered = true → a.isUnanswered = true)
    (hlive : a'.isLive = true → a.isLive = true) :
    Tended parted answered due (ds ++ es) { n with attempts := n.attempts.set i a' } := by
  have hlt : i < n.attempts.length := (List.getElem?_eq_some_iff.mp ha).1
  have hself : (n.attempts.set i a')[i]? = some a' := List.getElem?_set_self hlt
  have hother {j : Nat} (hij : i ≠ j) : (n.attempts.set i a')[j]? = n.attempts[j]? :=
    List.getElem?_set_ne hij
  constructor
  case shut => exact h.shut
  case indicator =>
    have hcount := countP_set (·.device?.isSome) ha a'
    have hindicator := h.indicator
    rw [times_append, times_append]
    dsimp only at hcount ⊢
    omega
  case asked =>
    intro k hk
    have hnow (hk : a.device? = some k ∨ (k, .asked) ∈ es) : k ∈ answered ∨
        (k, .signalled) ∈ ds ++ es ∨ ∃ b ∈ n.attempts.set i a', b.device? = some k := by
      rcases hasked k hk with hanswered | hsignalled | hdevice
      · exact .inl hanswered
      · exact .inr (.inl (List.mem_append_right ds hsignalled))
      · exact .inr (.inr ⟨a', List.mem_of_getElem? hself, hdevice⟩)
    rcases List.mem_append.mp hk with hold | hnew
    · rcases h.asked k hold with hanswered | hsignalled | ⟨b, hb, hdevice⟩
      · exact .inl hanswered
      · exact .inr (.inl (List.mem_append_left es hsignalled))
      · obtain ⟨j, hj⟩ := List.mem_iff_getElem?.mp hb
        by_cases hij : i = j
        · subst hij
          cases ha.symm.trans hj
          exact hnow (.inl hdevice)
        · exact .inr (.inr ⟨b, List.mem_of_getElem? ((hother hij).trans hj), hdevice⟩)
    · exact hnow (.inr hnew)
  case behaves =>
    intro b hb
    rcases List.mem_or_eq_of_mem_set hb with hold | rfl
    · exact h.behaves b hold
    · exact hbehaves
  case live =>
    intro j b hb hblive
    by_cases hij : i = j
    · subst hij
      cases hself.symm.trans hb
      exact h.live i a ha (hlive hblive)
    · exact h.live j b ((hother hij).symm.trans hb) hblive
  case told => exact fun j hj => exists_answered_set ha hunanswered (h.told j hj)

theorem device_cancel (a : Attempt τ) :
    ({ a with task := a.task.cancel } : Attempt τ).device? = a.device? := by
  unfold Attempt.device?
  rw [Task.phase_cancel]

theorem isUnanswered_cancel (a : Attempt τ) :
    ({ a with task := a.task.cancel } : Attempt τ).isUnanswered = a.isUnanswered := by
  unfold Attempt.isUnanswered
  rw [Task.phase_cancel]

/-- An attempt that is cancelled does not go on with its request. -/
theorem isLive_cancel (a : Attempt τ) :
    ({ a with task := a.task.cancel } : Attempt τ).isLive = false := by
  cases hu : a.isUnanswered with
  | false => simp [Attempt.isLive, isUnanswered_cancel, hu]
  | true =>
    have hover : a.task.isOver = false := Attempt.isOver_of_isUnanswered hu
    simp [Attempt.isLive, Task.cancel, hover]

theorem behaves_cancel {a : Attempt τ} (ha : a.Behaves answered) :
    ({ a with task := a.task.cancel } : Attempt τ).Behaves answered := by
  refine ⟨ha.silent, ?_⟩
  rw [Task.phase_cancel]
  exact ha.stands

theorem cancelKey (h : Tended parted answered due ds n) :
    Tended parted answered due ds n.cancelKey := by
  unfold Negotiation.cancelKey
  split
  · exact h
  · rename_i i _
    cases ha : n.attempts[i]? with
    | none =>
      rw [setTask_eq_self fun a ha' => by cases ha.symm.trans ha']
      exact h
    | some a =>
      rw [setTask_eq ha, ← List.append_nil ds]
      apply h.replace ha
      · rw [device_cancel]
        rfl
      · intro k hk
        rw [device_cancel]
        exact .inr (.inr (hk.resolve_right List.not_mem_nil))
      · exact behaves_cancel (h.behaves a (List.mem_of_getElem? ha))
      · rw [isUnanswered_cancel]
        exact id
      · rw [isLive_cancel]
        nofun

/-- The only attempt that may be live is cancelled. -/
theorem idle_cancelKey (h : Tended parted answered due ds n) {i : Nat} {a : Attempt τ}
    (ha : n.cancelKey.attempts[i]? = some a) : a.isLive = false := by
  by_contra hlive
  have hlive : a.isLive = true := by simpa using hlive
  cases hcurrent : n.current with
  | none =>
    simp only [Negotiation.cancelKey, hcurrent] at ha
    cases hcurrent.symm.trans (h.live i a ha hlive).1
  | some j =>
    simp only [Negotiation.cancelKey, hcurrent, setTask, List.getElem?_modify] at ha
    split at ha
    · obtain ⟨b, -, rfl⟩ := Option.map_eq_some_iff.mp ha
      cases (isLive_cancel b).symm.trans hlive
    · rename_i hij
      have ha : n.attempts[i]? = some a := by simpa using ha
      exact hij (Option.some.inj (hcurrent.symm.trans (h.live i a ha hlive).1))

/-- Another attempt begins when none is under way. -/
theorem begin (h : Tended parted answered due ds n) (hs : Staged n) (hopen : n.stage.isOpen = true)
    (hkey : n.active = .webauthn) (hidle : n.pending = false) {whenEnded : List (Turn τ)}
    (hsilent : ∀ i, .attemptNotified i ∉ whenEnded) :
    Tended parted answered due ds (n.begin whenEnded) := by
  let new : Attempt τ := { whenEnded := .attemptEnded n.attempts.length :: whenEnded }
  have hnew : new.Behaves answered := by
    refine ⟨fun j hj => ?_, trivial⟩
    rcases List.mem_cons.mp hj with heq | hin
    · cases heq
    · exact hsilent j hin
  have hold {i : Nat} {a : Attempt τ} (ha : n.attempts[i]? = some a) :
      (n.attempts ++ [new])[i]? = some a :=
    (List.getElem?_append_left (List.getElem?_eq_some_iff.mp ha).1).trans ha
  constructor
  case shut => exact h.shut
  case indicator =>
    have hcount : (n.attempts ++ [new]).countP (·.device?.isSome) =
        n.attempts.countP (·.device?.isSome) := List.countP_append
    exact h.indicator.trans (congrArg _ hcount.symm)
  case asked =>
    intro k hk
    refine (h.asked k hk).imp_right (Or.imp_right fun ⟨a, ha, hdevice⟩ => ?_)
    exact ⟨a, List.mem_append_left _ ha, hdevice⟩
  case behaves =>
    intro a ha
    rcases List.mem_append.mp ha with hin | hin
    · exact h.behaves a hin
    · cases List.mem_singleton.mp hin
      exact hnew
  case live =>
    intro i a ha hlive
    have hnone : n.submission = none := by simpa using (hs.wanting_of_isOpen hopen).1
    have hgoes : ¬ parted := fun hparted => by cases hopen.symm.trans (h.shut hparted)
    suffices i = n.attempts.length from ⟨congrArg some this.symm, hkey, hnone, hgoes⟩
    rcases Nat.lt_trichotomy i n.attempts.length with hlt | heq | hgt
    · -- No attempt was live before, since the one begun last is over.
      have ha : n.attempts[i]? = some a := (List.getElem?_append_left hlt).symm.trans ha
      have hcurrent := (h.live i a ha hlive).1
      have hover : a.task.isOver = false := Attempt.isOver_of_isUnanswered (by
        simp only [Attempt.isLive, Bool.and_eq_true] at hlive
        exact hlive.1)
      simp [pending, currentAttempt?, hcurrent, ha, hover] at hidle
    · exact heq
    · have hlen := (List.getElem?_eq_some_iff.mp ha).1
      simp only [Negotiation.begin, List.length_append, List.length_singleton] at hlen
      omega
  case told =>
    intro i hi
    obtain ⟨a, ha, hanswered⟩ := h.told i hi
    exact ⟨a, hold ha, hanswered⟩

/-- Where no attempt is live, the rest of a negotiation may change. -/
theorem of_idle (h : Tended parted answered due ds n)
    (hidle : ∀ (i : Nat) a, n.attempts[i]? = some a → a.isLive = false) {parted' : Prop}
    (hattempts : n'.attempts = n.attempts) (hshut : parted' → n'.stage.isOpen = false)
    (htold : ∀ i sub, n'.submission = some sub → .attemptNotified i ∈ sub.whenEnded →
      ∃ a, n.attempts[i]? = some a ∧ a.isUnanswered = false) :
    Tended parted' answered due ds n' where
  indicator := hattempts ▸ h.indicator
  asked := hattempts ▸ h.asked
  behaves := hattempts ▸ h.behaves
  live := by
    intro i a ha hlive
    rw [hattempts] at ha
    cases (hidle i a ha).symm.trans hlive
  told := by
    rw [hattempts]
    rintro i (hdue | ⟨sub, hsub, hin⟩)
    · exact h.told i (.inl hdue)
    · exact htold i sub hsub hin
  shut := hshut

/-- Where no attempt is live and no proof is wanted, the negotiation may be parted with. -/
theorem part (h : Tended parted answered due ds n)
    (hidle : ∀ (i : Nat) a, n.attempts[i]? = some a → a.isLive = false)
    (hstage : n.stage.isOpen = false) : Tended True answered due ds n :=
  h.of_idle hidle rfl (fun _ => hstage) fun i sub hsub hin => h.told i (.inr ⟨sub, hsub, hin⟩)

/-- A negotiation that begins has asked no device yet. -/
theorem new (hn : Staged n) (hopen : n.stage.isOpen = true) (hattempts : n.attempts = [])
    (hsilent : ∀ i, .attemptNotified i ∉ due) (hgoes : ¬ parted) :
    Tended parted answered due [] n := by
  have hsubmission : n.submission = none := by simpa using (hn.wanting_of_isOpen hopen).1
  refine ⟨?_, fun k hk => absurd hk List.not_mem_nil, fun a ha => ?_, fun i a ha => ?_,
    fun i hi => ?_, fun hparted => absurd hparted hgoes⟩
  · rw [hattempts]
    rfl
  · rw [hattempts] at ha
    cases ha
  · rw [hattempts] at ha
    cases ha
  · rcases hi with hdue | ⟨sub, hsub, -⟩
    · exact absurd hdue (hsilent i)
    · cases hsubmission.symm.trans hsub

/-- Where no attempt has anything to do, nobody waits for a device unless the security key is the
active method of a negotiation that was not parted with. -/
theorem atRest (h : Tended parted answered due ds n)
    (hidle : ∀ (i : Nat) a, n.attempts[i]? = some a → a.task.isDue = false)
    (haway : n.active = .webauthn → parted) : AtRest answered ds := by
  have hnone : ∀ a ∈ n.attempts, a.device? = none := by
    intro a ha
    obtain ⟨i, hi⟩ := List.mem_iff_getElem?.mp ha
    have hdue := hidle i a hi
    unfold Attempt.device?
    split
    · rename_i hphase
      have hlive : a.isLive = true := by
        simp only [Task.isDue, hphase] at hdue
        simp [Attempt.isLive, Attempt.isUnanswered, hphase, hdue]
      obtain ⟨-, hkey, -, hgoes⟩ := h.live i a hi hlive
      exact absurd (haway hkey) hgoes
    · rename_i hphase
      simp [Task.isDue, hphase] at hdue
    · rfl
  refine ⟨?_, fun k hk => ?_⟩
  · have hcount : n.attempts.countP (·.device?.isSome) = 0 :=
      List.countP_eq_zero.mpr fun a ha => by simp [hnone a ha]
    rw [h.indicator, hcount, Nat.add_zero]
  · rcases h.asked k hk with hanswered | hsignalled | ⟨a, ha, hdevice⟩
    · exact .inl hanswered
    · exact .inr hsignalled
    · cases (hnone a ha).symm.trans hdevice

end Tended

end SecondFactor.Negotiation
