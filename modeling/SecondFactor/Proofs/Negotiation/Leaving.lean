import SecondFactor.Proofs.Negotiation.Devices

/-! # How requests to devices begin and are left

An attempt asks its device in its first turn, and leaves it when the platform has replied, or when
it was cancelled meanwhile. In any other turn it asks no device. -/

namespace SecondFactor

/-! ## Ways to leave a request -/

namespace Key

/-- How a request to a device is left: its wait is given up, or it goes on as it was told. -/
inductive Exit where
  | givenUp
  | replied (next : Behaviour)

/-- What is left to do for a request. -/
def Exit.behaviour : Exit → Behaviour
  | givenUp => .abandoned
  | replied next => next

/-- Whether a reply says what a platform raised, early or late. An error that the device is to blame
for becomes a refusal behind which it stands, and was a cancellation exactly if the device says that
it was told to stop. Any other error is passed on, as it came through the pool of threads, and
another one takes the place of the end of an iteration. -/
def PlatformError.Reports (late : Bool) : PlatformError → Reply → Prop
  | .client e, r =>
    ∃ f, r = .refused f ∧ f.behind = some .device ∧
      f.details = .data (.text (Text.ofString e.message)) ∧
      (f.cause = .cancelled ↔ e.cause = .status .keepaliveCancel)
  | .system m, r => ∃ f, r = .refused f ∧ f.behind = some (.system m) ∧ f.cause = .deviceError
  | .refusal f, r => r = .refused f
  | .crash m, r => r = .crashed (.crash m)
  | .endOfIteration _, r => ∃ m, r = .crashed (.crash m)
  | .cancelled _, r => r = .crashed .jobCancelled
  | .invalidState ofJob m, r => r = .crashed (.invalidState (ofJob && late) m)

namespace PlatformOutcome

/-- Whether a reply says what the outcome of a platform was. -/
def Reports : PlatformOutcome → Reply → Prop
  | .response x, r => r = .assertion (.ofResponse x)
  | .error late e, r => e.Reports late r

/-- Whether an outcome is taken for a cancellation of the request. That of a job is not, if it comes
too late to have gone through the pool. -/
def Cancels : PlatformOutcome → Prop
  | .error late (.cancelled ofJob) => (ofJob && late) = false
  | _ => False

theorem cancels_error_iff (late : Bool) (e : PlatformError) : (error late e).Cancels ↔
    ∃ ofJob, e = .cancelled ofJob ∧ (ofJob && late) = false := by
  cases e with
  | cancelled ofJob =>
    refine ⟨fun h => ⟨ofJob, rfl, h⟩, fun ⟨_, heq, h⟩ => ?_⟩
    cases heq
    exact h
  | client _ | system _ | refusal _ | crash _ | endOfIteration _ | invalidState _ _ =>
    exact iff_of_false id nofun

/-- Whether nobody is told of an outcome. -/
def Vanishes : PlatformOutcome → Prop
  | .error false (.endOfIteration true) => True
  | _ => False

end PlatformOutcome

/-- A platform can fail in any way, but only a device that was told to stop cancels. -/
theorem ClientError.failure_eq_cancelled_iff (e : ClientError) :
    e.failure = .cancelled ↔ e.cause = .status .keepaliveCancel := by
  unfold failure
  split
  · exact iff_of_true rfl ‹_›
  · refine iff_of_false (fun heq => ?_) ‹_›
    split at heq <;> cases heq

/-- What an error of the platform means is what it reports, unless it is a cancellation. -/
theorem PlatformError.reports_ofError {e : PlatformError} {r : Reply}
    (h : Reply.ofError? e = some r) : e.Reports true r ∧ e ≠ .cancelled false := by
  cases e with
  | client e =>
    cases h
    exact ⟨⟨_, rfl, rfl, rfl, e.failure_eq_cancelled_iff⟩, nofun⟩
  | system m =>
    cases h
    exact ⟨⟨_, rfl, rfl, rfl⟩, nofun⟩
  | refusal f =>
    cases h
    exact ⟨rfl, nofun⟩
  | crash m =>
    cases h
    exact ⟨rfl, nofun⟩
  | endOfIteration dropped =>
    cases h
    exact ⟨⟨_, rfl⟩, nofun⟩
  | cancelled ofJob =>
    cases ofJob with
    | false => cases h
    | true =>
      cases h
      exact ⟨rfl, nofun⟩
  | invalidState ofJob m =>
    cases h
    refine ⟨?_, nofun⟩
    rw [Reports, Bool.and_true]

theorem PlatformError.eq_cancelled_of_ofError {e : PlatformError} (h : Reply.ofError? e = none) :
    e = .cancelled false := by
  cases e with
  | cancelled ofJob =>
    cases ofJob with
    | false => rfl
    | true => cases h
  | client _ | system _ | refusal _ | crash _ | endOfIteration _ | invalidState _ _ => cases h

/-- No error is an answer. -/
theorem PlatformError.not_reports_assertion (e : PlatformError) {late : Bool} {a : Assertion} :
    ¬ e.Reports late (.assertion a) := by
  cases e with
  | client _ | system _ =>
    rintro ⟨f, hf, -⟩
    cases hf
  | endOfIteration _ =>
    rintro ⟨m, hm⟩
    cases hm
  | refusal _ | crash _ | cancelled _ | invalidState _ _ => nofun

/-- What comes through the pool of threads reports what was raised at its other side. -/
theorem PlatformError.reports_of_carried {e e' : PlatformError} (h : e.carried? = some e')
    {r : Reply} (hr : Reply.ofError? e' = some r) : e.Reports false r := by
  cases e with
  | client e | system m | refusal f | crash m =>
    cases h
    exact (reports_ofError hr).1
  | endOfIteration dropped =>
    cases dropped with
    | true => cases h
    | false =>
      cases h
      cases hr
      exact ⟨_, rfl⟩
  | cancelled ofJob =>
    cases h
    cases hr
  | invalidState ofJob m =>
    cases h
    cases hr
    rw [Reports, Bool.and_false]

theorem PlatformError.carried_eq_cancelled_iff {e e' : PlatformError} (h : e.carried? = some e') :
    e' = .cancelled false ↔ ∃ ofJob, e = .cancelled ofJob := by
  cases e with
  | client _ | system _ | refusal _ | crash _ | invalidState _ _ =>
    cases h
    exact iff_of_false nofun nofun
  | endOfIteration dropped =>
    cases dropped with
    | true => cases h
    | false =>
      cases h
      exact iff_of_false nofun nofun
  | cancelled ofJob =>
    cases h
    exact iff_of_true rfl ⟨ofJob, rfl⟩

namespace Behaviour

/-- How a request goes on when its platform is done: in any case the indicator is hidden. It stops,
with the device told to, if the outcome is taken for a cancellation, and otherwise ends with a reply
that says what the outcome was. -/
inductive Concludes (o : PlatformOutcome) (b : Behaviour) : Prop where
  | ends {before : List DeviceEvent} {r : Reply} (hbefore : before = [] ∨ before = [.fetched])
      (hevents : b.proceed.1 = before ++ [.hidden]) (hrest : b.proceed.2 = .ended r)
      (hr : o.Reports r) (ho : ¬ o.Cancels)
  | stops {before : List DeviceEvent} (hbefore : before = [] ∨ before = [.fetched])
      (hevents : b.proceed.1 = before ++ [.signalled, .hidden]) (hrest : b.proceed.2 = .stopped)
      (ho : o.Cancels)

/-- A request that hears of an error ends with what the error means, or stops. -/
theorem concludes_of_failed {o : PlatformOutcome} {b : Behaviour} {before : List DeviceEvent}
    {e : PlatformError} (hbefore : before = [] ∨ before = [.fetched])
    (hb : b.proceed = (before ++ (failed e).proceed.1, (failed e).proceed.2))
    (hreports : ∀ r, Reply.ofError? e = some r → o.Reports r)
    (hcancels : o.Cancels ↔ e = .cancelled false) : Concludes o b := by
  unfold failed at hb
  cases hr : Reply.ofError? e with
  | some r =>
    rw [hr] at hb
    refine .ends hbefore (congrArg Prod.fst hb) (congrArg Prod.snd hb) (hreports r hr) fun ho => ?_
    exact (PlatformError.reports_ofError hr).2 (hcancels.mp ho)
  | none =>
    rw [hr] at hb
    refine .stops hbefore (congrArg Prod.fst hb) (congrArg Prod.snd hb) ?_
    exact hcancels.mpr (PlatformError.eq_cancelled_of_ofError hr)

theorem concludes_answered {o : PlatformOutcome} {b : Behaviour} (h : answered? o = some b) :
    Concludes o b := by
  cases o with
  | response x =>
    cases h
    exact .ends (.inr rfl) rfl rfl rfl id
  | error late e =>
    have hcancels := PlatformOutcome.cancels_error_iff late e
    cases late with
    | true =>
      cases h
      refine concludes_of_failed (.inr rfl) rfl (fun r hr => (PlatformError.reports_ofError hr).1) ?_
      simpa using hcancels
    | false =>
      obtain ⟨e', hcarried, rfl⟩ := Option.map_eq_some_iff.mp h
      refine concludes_of_failed (.inl rfl) rfl
        (fun r hr => PlatformError.reports_of_carried hcarried hr) ?_
      rw [PlatformError.carried_eq_cancelled_iff hcarried]
      simpa using hcancels

/-- Nobody is told of the end of an iteration that is dropped, and of nothing else. -/
theorem answered_eq_none_iff {o : PlatformOutcome} : answered? o = none ↔ o.Vanishes := by
  cases o with
  | response x => exact iff_of_false nofun id
  | error late e =>
    cases late with
    | true => exact iff_of_false nofun id
    | false =>
      rw [answered?, Option.map_eq_none_iff]
      cases e with
      | endOfIteration dropped =>
        cases dropped with
        | true => exact iff_of_true rfl trivial
        | false => exact iff_of_false nofun id
      | client _ | system _ | refusal _ | crash _ | cancelled _ | invalidState _ _ =>
        exact iff_of_false nofun id

end Behaviour

end Key

namespace Negotiation

variable {τ ν : Type}

/-! ## Attempts in the middle of requests -/

/-- The request to a device that an attempt is in the middle of, and whether the attempt was
cancelled meanwhile. -/
def Attempt.engaged? (a : Attempt τ) : Option (Nat × Bool) :=
  a.device?.map (·, a.task.cancelling)

/-- The request to a device that attempt `i` is in the middle of, and whether the attempt was
cancelled meanwhile. -/
def engaged? (n : Negotiation τ) (i : Nat) : Option (Nat × Bool) :=
  n.attempts[i]?.bind (·.engaged?)

/-- Whether attempt `i` leaves request `k` in its next turn. -/
inductive Exits (n : Negotiation τ) (i k : Nat) : Key.Exit → Prop where
  | givenUp (h : n.engaged? i = some (k, true)) : Exits n i k .givenUp
  | replied {a : Attempt τ} {next onLateCancel : Key.Behaviour} (ha : n.attempts[i]? = some a)
      (h : a.task.start = .news (.replied k next onLateCancel)) : Exits n i k (.replied next)

section

variable {n n' : Negotiation τ} {i k : Nat} {a : Attempt τ}

theorem engaged_eq (ha : n.attempts[i]? = some a) : n.engaged? i = a.engaged? := by
  rw [engaged?, ha, Option.bind_some]

theorem engaged_of_device (ha : n.attempts[i]? = some a) (hdevice : a.device? = some k) :
    n.engaged? i = some (k, a.task.cancelling) := by
  rw [engaged_eq ha, Attempt.engaged?, hdevice, Option.map_some]

theorem engaged_of_none (ha : n.attempts[i]? = some a) (hnone : a.device? = none) :
    n.engaged? i = none := by
  rw [engaged_eq ha, Attempt.engaged?, hnone, Option.map_none]

theorem exists_of_engaged {c : Bool} (h : n.engaged? i = some (k, c)) :
    ∃ a, n.attempts[i]? = some a ∧ a.device? = some k ∧ a.task.cancelling = c := by
  obtain ⟨a, ha, hengaged⟩ := Option.bind_eq_some_iff.mp h
  obtain ⟨k', hk, heq⟩ := Option.map_eq_some_iff.mp hengaged
  obtain ⟨rfl, hc⟩ := Prod.mk.inj heq
  exact ⟨a, ha, hk, hc⟩

/-- Who leaves a request was in the middle of it, and gives it up if cancelled meanwhile. -/
theorem Exits.engaged {x : Key.Exit} (h : n.Exits i k x) :
    ∃ c, n.engaged? i = some (k, c) ∧ (c = true ↔ x = .givenUp) := by
  cases h with
  | givenUp h => exact ⟨true, h, iff_of_true rfl rfl⟩
  | replied ha h =>
    refine ⟨false, ?_, iff_of_false Bool.false_ne_true fun hx => by cases hx⟩
    have hcancelling := Task.cancelling_of_going (.inr ⟨_, h⟩)
    rw [engaged_of_device ha (by rw [Attempt.device?, Task.phase_of_news h]), hcancelling]

/-- There is one way to leave a request. -/
theorem Exits.unique {k' : Nat} {x x' : Key.Exit} (h : n.Exits i k x) (h' : n.Exits i k' x') :
    k = k' ∧ x = x' := by
  obtain ⟨c, hengaged, hc⟩ := h.engaged
  obtain ⟨c', hengaged', hc'⟩ := h'.engaged
  obtain ⟨rfl, rfl⟩ := Prod.mk.inj (Option.some.inj (hengaged.symm.trans hengaged'))
  refine ⟨rfl, ?_⟩
  cases h with
  | givenUp => exact (hc'.mp (hc.mpr rfl)).symm
  | replied ha hstart =>
    cases h' with
    | givenUp => exact hc.mp (hc'.mpr rfl)
    | replied ha' hstart' =>
      cases ha.symm.trans ha'
      cases hstart.symm.trans hstart'
      rfl

end

/-! ## The turn of an attempt -/

namespace Scene

/-- Whether attempt `i` begins request `k` in its next turn. -/
structure Engages (s : Scene τ ν) (i k : Nat) : Prop where
  first : ∃ a, s.attempts[i]? = some a ∧ a.task.start = .first
  options : s.options.isSome = true
  number : k = s.asked.length

variable {s s' : Scene τ ν} {i : Nat}

/-- Whether attempt `i` comes to its end when it leaves a request, or has the proof submitted that
it was given. It ends as cancelled if all that is left to do for the request is to stop. -/
inductive Leaves (s : Scene τ ν) (i : Nat) (x : Key.Exit) : Scene τ ν → Prop where
  | ends {r : Key.Reply} (hx : x.behaviour.proceed.2 = .ended r) : Leaves s i x (s.conclude i r)
  | stops (hx : x.behaviour.proceed.2 = .stopped) : Leaves s i x (s.endAttempt i .cancelled)

/-- Whether attempt `i` comes to its end, or has its proof submitted, as its platform had it. -/
inductive Heeds (s : Scene τ ν) (i : Nat) (o : Key.PlatformOutcome) : Scene τ ν → Prop where
  | reports {r : Key.Reply} (ho : ¬ o.Cancels) (hr : o.Reports r) : Heeds s i o (s.conclude i r)
  | cancels (ho : o.Cancels) : Heeds s i o (s.endAttempt i .cancelled)

theorem Leaves.heeds {o : Key.PlatformOutcome} {next : Key.Behaviour}
    (hl : s.Leaves i (.replied next) s') (ho : Key.Behaviour.Concludes o next) :
    s.Heeds i o s' := by
  cases ho with
  | ends _ _ hrest hr hnot =>
    cases hl with
    | ends hx =>
      cases hrest.symm.trans hx
      exact .reports hnot hr
    | stops hx => cases hrest.symm.trans hx
  | stops _ _ hrest ho =>
    cases hl with
    | ends hx => cases hrest.symm.trans hx
    | stops => exact .cancels ho

theorem Leaves.eq_of_givenUp (hl : s.Leaves i .givenUp s') : s' = s.endAttempt i .cancelled := by
  cases hl with
  | ends hx => cases hx
  | stops => rfl

theorem note_note (s : Scene τ ν) (es fs : List (Event ν)) :
    (s.note es).note fs = s.note (es ++ fs) := by
  rw [note, note, note, List.append_assoc]

/-- Whoever leaves a request first does what is left to do for it. -/
theorem leaves_runAttempt {k : Nat} {x : Key.Exit} (hx : s.Exits i k x)
    (hbehaves : ∀ a, s.attempts[i]? = some a → ∃ answered, a.Behaves answered) :
    ∃ events, devices events = x.behaviour.proceed.1.map (k, ·) ∧
      (s.note events).Leaves i x (s.runAttempt i) := by
  cases hx with
  | givenUp hengaged =>
    obtain ⟨a, ha, hk, hcancelling⟩ := exists_of_engaged hengaged
    obtain ⟨answered, -, hstands⟩ := hbehaves a ha
    unfold Attempt.device? at hk
    split at hk
    · rename_i request onCancel onLateCancel hphase
      cases hk
      rw [hphase] at hstands
      obtain ⟨rfl, -⟩ := hstands
      have hstart : a.task.start = .cancelled (some (.reply k .abandoned onLateCancel)) := by
        simp [Task.start, hphase, hcancelling]
      refine ⟨.keyCancelled k :: Key.Behaviour.abandoned.proceed.1.map (.device k), ?_, ?_⟩
      · exact devices_device k _
      · have hrun : s.runAttempt i = ((s.note [.keyCancelled k]).note
            (Key.Behaviour.abandoned.proceed.1.map (.device k))).endAttempt i .cancelled := by
          simp only [runAttempt, ha, hstart]
          rfl
        rw [hrun, note_note]
        exact .stops rfl
    · rename_i request next onLateCancel hphase
      cases hk
      rw [hphase] at hstands
      obtain ⟨-, -, rfl⟩ := hstands
      have hstart : a.task.start = .cancelledLate (.replied k next .abandoned) := by
        simp [Task.start, hphase, hcancelling]
      refine ⟨_, devices_device k _, ?_⟩
      simp only [runAttempt, ha, hstart]
      exact .stops rfl
    · cases hk
  | @replied a next onLateCancel ha hstart =>
    obtain ⟨answered, -, hstands⟩ := hbehaves a ha
    rw [Task.phase_of_news hstart] at hstands
    obtain ⟨-, ⟨o, ho⟩, -⟩ := hstands
    refine ⟨_, devices_device k _, ?_⟩
    simp only [runAttempt, ha, hstart, proceed]
    cases Key.Behaviour.concludes_answered ho with
    | ends _ _ hrest =>
      rw [hrest]
      exact .ends hrest
    | stops _ _ hrest =>
      rw [hrest]
      exact .stops hrest

/-- An attempt that begins a request asks for what the negotiation asks. -/
theorem runAttempt_of_engages (hadapter : s.adapter = some fun _ => .device) {k : Nat}
    (he : s.Engages i k) :
    ∃ options, s.runAttempt i =
      (note { s with asked := s.asked ++ [options] } [.keyRequested k]).proceed i k .device := by
  obtain ⟨⟨a, ha, hfirst⟩, hoptions, rfl⟩ := he
  obtain ⟨options, hoptions⟩ := Option.isSome_iff_exists.mp hoptions
  exact ⟨options, by simp only [runAttempt, ha, hfirst, ask, hadapter, hoptions]⟩

/-- What becomes of a scene in which a device can be asked when an attempt has its turn. -/
inductive Turned (s : Scene τ ν) (i : Nat) : Scene τ ν → Prop where
  | idle : Turned s i s
  | begins {k : Nat} (he : s.Engages i k) (options : Key.Options) :
      Turned s i
        ((note { s with asked := s.asked ++ [options] } [.keyRequested k]).proceed i k .device)
  | refuses {a : Attempt τ} (ha : s.attempts[i]? = some a) (hfirst : a.task.start = .first) :
      Turned s i (s.conclude i (.refused .unsupported))
  | leaves {k : Nat} {x : Key.Exit} {events : List (Event ν)} {s' : Scene τ ν}
      (hx : s.Exits i k x) (hevents : devices events = x.behaviour.proceed.1.map (k, ·))
      (hleaves : (s.note events).Leaves i x s') : Turned s i s'
  | ends {a : Attempt τ} (ha : s.attempts[i]? = some a) (hnone : a.device? = none)
      (how : Ending Unit) : Turned s i (s.endAttempt i how)

theorem turned_runAttempt (hadapter : s.adapter = some fun _ => .device)
    (hbehaves : ∀ a, s.attempts[i]? = some a → ∃ answered, a.Behaves answered) :
    s.Turned i (s.runAttempt i) := by
  by_cases hexits : ∃ k x, s.Exits i k x
  · obtain ⟨k, x, hx⟩ := hexits
    obtain ⟨events, hevents, hleaves⟩ := leaves_runAttempt hx hbehaves
    exact .leaves hx hevents hleaves
  cases ha : s.attempts[i]? with
  | none =>
    have hrun : s.runAttempt i = s := by simp only [runAttempt, ha]
    rw [hrun]
    exact .idle
  | some a =>
    have hends (hnone : a.device? = none) (how : Ending Unit)
        (hrun : s.runAttempt i = s.endAttempt i how) : s.Turned i (s.runAttempt i) := by
      rw [hrun]
      exact .ends ha hnone how
    have hnever {k : Nat} (hk : a.device? = some k) (hcancelling : a.task.cancelling = true) :
        False :=
      hexits ⟨k, .givenUp, .givenUp (hcancelling ▸ engaged_of_device ha hk)⟩
    obtain ⟨answered, -, hstands⟩ := hbehaves a ha
    cases hstart : a.task.start with
    | idle =>
      have hrun : s.runAttempt i = s := by simp only [runAttempt, ha, hstart]
      rw [hrun]
      exact .idle
    | first =>
      cases hoptions : s.options with
      | none =>
        have hrun : s.runAttempt i = s.conclude i (.refused .unsupported) := by
          simp only [runAttempt, ha, hstart, ask, hoptions]
          cases s.adapter <;> rfl
        rw [hrun]
        exact .refuses ha hstart
      | some options =>
        have he : s.Engages i s.asked.length := ⟨⟨a, ha, hstart⟩, by rw [hoptions]; rfl, rfl⟩
        obtain ⟨options, hrun⟩ := runAttempt_of_engages hadapter he
        rw [hrun]
        exact .begins he options
    | news w =>
      have hphase := Task.phase_of_news hstart
      cases w with
      | reply => simp [hphase] at hstands
      | replied k next onLateCancel => exact absurd ⟨k, _, .replied ha hstart⟩ hexits
      | submission =>
        refine hends (by rw [Attempt.device?, hphase]) (.returned ()) ?_
        simp only [runAttempt, ha, hstart]
    | cancelled on =>
      have hcancelling := Task.cancelling_of_start (.inl ⟨on, hstart⟩)
      cases on with
      | none =>
        refine hends (by rw [Attempt.device?, Task.phase_of_unbegun hstart]) .cancelled ?_
        simp only [runAttempt, ha, hstart]
      | some w =>
        have hphase := Task.phase_of_cancelled hstart
        cases w with
        | reply => exact (hnever (by rw [Attempt.device?, hphase]) hcancelling).elim
        | replied => simp [hphase] at hstands
        | submission =>
          refine hends (by rw [Attempt.device?, hphase]) .cancelled ?_
          simp only [runAttempt, ha, hstart]
    | cancelledLate w =>
      have hcancelling := Task.cancelling_of_start (.inr ⟨w, hstart⟩)
      have hphase := Task.phase_of_cancelledLate hstart
      cases w with
      | reply => simp [hphase] at hstands
      | replied => exact (hnever (by rw [Attempt.device?, hphase]) hcancelling).elim
      | submission =>
        refine hends (by rw [Attempt.device?, hphase]) .cancelled ?_
        simp only [runAttempt, ha, hstart]

end Scene

end Negotiation

end SecondFactor
