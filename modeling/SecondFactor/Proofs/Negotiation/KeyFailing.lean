import SecondFactor.Proofs.Negotiation.Attempts
import SecondFactor.Proofs.Negotiation.Contact
import SecondFactor.Proofs.Negotiation.Due
import SecondFactor.Proofs.Negotiation.Stage

/-! # Security keys that give no assertion

When a security key fails, or there is none to ask, its attempt is over, and the failure is noted
down. Nothing else changes as long as there is another method, or an outcome: whatever the user or
the backend is about goes on. -/

namespace SecondFactor.Negotiation

variable {τ ν : Type}

/-! ## Turns in which an attempt gets its reply -/

namespace Scene

/-- A scene in which more was asked and noted. -/
def recorded (s : Scene τ ν) (asked : List Key.Options) (events : List (Event ν)) : Scene τ ν :=
  { s with asked := s.asked ++ asked, log := s.log ++ events }

theorem recorded_note (s : Scene τ ν) (asked : List Key.Options) (events noted : List (Event ν)) :
    (s.note noted).recorded asked events = s.recorded asked (noted ++ events) := by
  simp only [recorded, note, List.append_assoc]

/-- What an attempt does before it gets its reply only shows outside. -/
theorem proceed_of_reply {b : Key.Behaviour} {r : Key.Reply} (h : b.reply? = some r)
    (s : Scene τ ν) (i request : Nat) :
    ∃ events, s.proceed i request b = (s.recorded [] events).conclude i r := by
  refine ⟨b.proceed.1.map (.device request), ?_⟩
  unfold Key.Behaviour.reply? at h
  split at h
  · rename_i r' hrest
    cases h
    have hproceed : s.proceed i request b =
        (s.note (b.proceed.1.map (.device request))).conclude i r := by
      simp only [proceed, hrest]
    rw [hproceed, recorded, List.append_nil]
    rfl
  all_goals cases h

/-- In its first turn an attempt asks the security key, and may get a reply at once. Where there is
none to ask it is refused. -/
theorem ask_of_reply {s : Scene τ ν} {r : Key.Reply}
    (h : (match s.adapter, s.options with
      | some adapter, some _ => (adapter s.asked.length).reply?
      | _, _ => some (.refused .unsupported)) = some r) (i : Nat) :
    ∃ asked events, s.ask i = (s.recorded asked events).conclude i r := by
  unfold ask
  split
  · rename_i adapter options hadapter hoptions
    simp only [hadapter, hoptions] at h
    let asking : Scene τ ν :=
      note { s with asked := s.asked ++ [options] } [.keyRequested s.asked.length]
    obtain ⟨events, hevents⟩ := proceed_of_reply h asking i s.asked.length
    refine ⟨[options], .keyRequested s.asked.length :: events, hevents.trans ?_⟩
    simp only [asking, recorded, note, List.append_assoc, List.append_nil, List.singleton_append]
  · rename_i hnone
    have hsame : s.recorded [] [] = s := by simp [recorded]
    split at h
    · rename_i adapter options hadapter hoptions
      exact absurd hoptions (hnone adapter options hadapter)
    · cases h
      exact ⟨[], [], by rw [hsame]⟩

/-- The turn in which an attempt gets its reply. -/
theorem runAttempt_of_reply {s : Scene τ ν} {i : Nat} {r : Key.Reply} (h : s.reply? i = some r) :
    ∃ asked events, s.runAttempt i = (s.recorded asked events).conclude i r := by
  obtain ⟨a, ha, hreply⟩ := Option.bind_eq_some_iff.mp h
  simp only [runAttempt, ha]
  cases hstart : a.task.start with
  | idle => simp [hstart] at hreply
  | first =>
    rw [hstart] at hreply
    exact ask_of_reply hreply i
  | news w =>
    cases w with
    | replied request next onLateCancel =>
      rw [hstart] at hreply
      exact ⟨[], proceed_of_reply hreply s i request⟩
    | reply _ _ _ | submission => simp [hstart] at hreply
  | cancelled on =>
    rcases on with _ | ⟨request, onCancel, onLateCancel⟩ | _ | _
    · simp [hstart] at hreply
    · rw [hstart] at hreply
      obtain ⟨events, hevents⟩ := proceed_of_reply hreply (s.note [.keyCancelled request]) i request
      exact ⟨[], _, hevents.trans (by rw [recorded_note])⟩
    · simp [hstart] at hreply
    · simp [hstart] at hreply
  | cancelledLate w =>
    cases w with
    | replied request next onLateCancel =>
      rw [hstart] at hreply
      exact ⟨[], proceed_of_reply hreply s i request⟩
    | reply _ _ _ | submission => simp [hstart] at hreply

/-- An attempt that has asked already asks for nothing when it gets its reply. -/
theorem asked_runAttempt {s : Scene τ ν} {i : Nat} {a : Attempt τ} (ha : s.attempts[i]? = some a)
    (hstart : a.task.start ≠ .first) : (s.runAttempt i).asked = s.asked := by
  refine congrArg (·.asked) (toOutside_runAttempt fun b hb => ?_)
  cases ha.symm.trans hb
  exact hstart

/-- Where no security key can be asked, an attempt is refused in its first turn. -/
theorem reply_of_unsupported {s : Scene τ ν} {i : Nat} {a : Attempt τ}
    (ha : s.attempts[i]? = some a) (hstart : a.task.start = .first)
    (hnone : s.adapter = none ∨ s.options = none) :
    s.reply? i = some (.refused .unsupported) := by
  simp only [reply?, ha, Option.bind_some, hstart]
  split
  · rename_i adapter options hadapter hoptions
    rcases hnone with hnone | hnone
    · cases hadapter.symm.trans hnone
    · cases hoptions.symm.trans hnone
  · rfl

/-! ## What a failure changes -/

/-- While there is another method, or an outcome, a failure is noted down and its attempt is over. -/
theorem conclude_refused_of_other {s : Scene τ ν} {i : Nat} {a : Attempt τ}
    (ha : s.attempts[i]? = some a) (r : Key.Refusal)
    (hother : s.done = true ∨ ∃ m ∈ s.available, m ≠ .webauthn) :
    s.conclude i (.refused r) =
      { s with
        keyError := some r
        attempts := s.attempts.set i { a with task := .finished (.returned ()) }
        queue := s.queue ++ a.whenEnded } := by
  have hstays : (s.done || s.available.any (· ≠ .webauthn)) = true := by
    rcases hother with hdone | hother
    · rw [hdone, Bool.true_or]
    · have hany : s.available.any (· ≠ .webauthn) = true := by simpa using hother
      rw [hany, Bool.or_true]
  have hfailed : s.keyFailed r = { s with keyError := some r } := if_pos hstays
  simp only [conclude, hfailed, endAttempt, ha]
  rfl

theorem isOver_conclude_refused {s : Scene τ ν} {i : Nat} {r : Key.Refusal} {a : Attempt τ}
    (ha : (s.conclude i (.refused r)).attempts[i]? = some a) : a.task.isOver = true := by
  rw [conclude, getElem_endAttempt] at ha
  obtain ⟨b, -, rfl⟩ := Option.map_eq_some_iff.mp ha
  rfl

/-- Where the security key is all there is, a failure rejects the negotiation. -/
theorem toNegotiation_conclude_refused_of_only {s : Scene τ ν} (i : Nat) (r : Key.Refusal)
    (hdone : s.done = false) (honly : ∀ m ∈ s.available, m = .webauthn) :
    (s.conclude i (.refused r)).toNegotiation =
      Negotiation.setTask { s.toNegotiation.shut with
        keyError := some r, stage := .rejected, outcome := some (.error r.failure), whenDone := [] }
        i fun _ => .finished (.returned ()) := by
  have hfails : ¬ (s.done || s.available.any (· ≠ .webauthn)) = true := by
    simpa [hdone] using honly
  have hfailed : s.toNegotiation.keyFailed r =
      Negotiation.reject { s.toNegotiation with keyError := some r } r.failure := if_neg hfails
  have hdone : ¬ s.toNegotiation.done = true := by simp [hdone]
  simp only [conclude, toNegotiation_endAttempt, toNegotiation_keyFailed, hfailed]
  exact congrArg (Negotiation.setTask · i _) (if_neg hdone)

end Scene

/-! ## What does not begin by itself -/

/-- Whether a move is a call that may begin an attempt with a security key. -/
def Move.isBeginning : Move τ ν → Bool
  | .act .start | .confirm _ => true
  | _ => false

namespace Scene

variable (script : Nat → Http.Outcome)

/-- No attempt begins unless somebody starts the negotiation or confirms. -/
theorem begun_moves {s : Scene τ ν} {ms : List (Move τ ν)} (hms : ∀ m ∈ ms, m.isBeginning = false) :
    (s.moves script ms).begun = s.begun := by
  induction ms generalizing s with
  | nil => rfl
  | cons m ms ih =>
    rw [moves_cons, ih fun m' hm' => hms m' (List.mem_cons_of_mem m hm')]
    obtain hsame | ⟨rfl, -⟩ | ⟨caller, r, rfl, -⟩ := s.begun_move script m
    · exact hsame
    all_goals cases hms _ List.mem_cons_self

/-- When no attempt is under way, and nobody begins one, the security key is asked for nothing. -/
theorem asked_moves {s : Scene τ ν} {ms : List (Move τ ν)} (hms : ∀ m ∈ ms, m.isBeginning = false)
    (haside : ∀ others queue notes, .aside others queue notes ∉ ms)
    (hover : ∀ (i : Nat) a, s.attempts[i]? = some a → a.task.isOver = true) :
    (s.moves script ms).asked = s.asked := by
  -- over the run from its end: an attempt that asks in the last move would be under way before it
  induction ms using List.reverseRecOn with
  | nil => rfl
  | append_singleton ms m ih =>
    have hms' : ∀ m ∈ ms, m.isBeginning = false := fun m' hm' => hms m' (List.mem_append_left _ hm')
    have haside' : ∀ others queue notes, .aside others queue notes ∉ ms :=
      fun others queue notes hin => haside others queue notes (List.mem_append_left _ hin)
    rw [moves_append, moves_cons, moves_nil, ← ih hms' haside']
    by_contra hasks
    obtain ⟨i, a, -, ha, hstart⟩ := first_of_asked script
      (fun others queue notes hm => haside others queue notes (by simp [hm])) hasks
    have hlive : a.task.isOver = false := Task.isOver_of_start (by simp [hstart])
    have hi : i < s.begun := by
      rw [← begun_moves script hms']
      exact (List.getElem?_eq_some_iff.mp ha).1
    obtain ⟨b, hb, hbefore⟩ := live_moves script hi ms ha hlive
    rw [hover i b hb] at hbefore
    cases hbefore

end Scene

/-! ## Main results -/

/-- When an attempt with a security key fails, in whatever stage the negotiation is, nothing changes
but that the failure is noted down and those who wait for the attempt are told, provided that another
method is on offer or there is an outcome; the key is not asked again until somebody confirms. If the
security key is all there is, and a proof is still wanted, the negotiation is rejected with that very
failure. An attempt that finds no security key to ask fails with a denial. -/
theorem key_failure_is_only_noted (script : Nat → Http.Outcome) {userid ticket : String}
    {c : Challenge} {n : Negotiation τ} (hn : ofChallenge userid ticket c = .ok n) (o : Outside)
    (ms : List (Move τ ν)) (i : Nat) (a : Attempt τ) :
    let s : Scene τ ν := Scene.moves script { toOutside := o, toNegotiation := n } ms
    let s' := s.move script (.turn (.attempt i))
    s.attempts[i]? = some a →
      (a.task.start = .first → s.adapter = none ∨ s.options = none →
        ∃ r, s.reply? i = some (.refused r) ∧ r.cause = .denied) ∧
      ∀ r, s.reply? i = some (.refused r) →
        (a.task.start ≠ .first → s'.asked = s.asked) ∧
        (s.done = true ∨ (∃ m ∈ s.available, m ≠ .webauthn) →
          ∃ asked events, s' =
            { s with
              asked := s.asked ++ asked
              log := s.log ++ events
              keyError := some r
              attempts := s.attempts.set i { a with task := .finished (.returned ()) }
              queue := s.queue ++ a.whenEnded }) ∧
        (s.stage.isOpen = true → (∀ m ∈ s.available, m = .webauthn) →
          s'.stage = .rejected ∧ s'.outcome = some (.error r.failure) ∧ s'.keyError = some r) ∧
        ∀ later, (∀ m ∈ later, m.isBeginning = false) →
          (s'.moves script later).begun = s.begun ∧
          ((∀ (j : Nat) b, j ≠ i → s.attempts[j]? = some b → b.task.isOver = true) →
            (∀ others queue notes, .aside others queue notes ∉ later) →
            (s'.moves script later).asked = s'.asked) := by
  intro s s' ha
  refine ⟨fun hstart hnone => ⟨_, Scene.reply_of_unsupported ha hstart hnone, rfl⟩, fun r hr => ?_⟩
  obtain ⟨asked, events, hrun⟩ := Scene.runAttempt_of_reply hr
  have hs' : s' = (s.recorded asked events).conclude i (.refused r) := hrun
  refine ⟨Scene.asked_runAttempt ha, fun hother => ?_, fun hopen honly => ?_, fun later hlater => ?_⟩
  · refine ⟨asked, events, ?_⟩
    rw [hs', Scene.conclude_refused_of_other (s := s.recorded asked events) ha r hother]
    rfl
  · have hstaged : Staged s.toNegotiation := (staged_moves script hn o ms).1
    have hdone : s.done = false := by
      rw [done, (hstaged.wanting_of_isOpen hopen).2.1]
      rfl
    have hrejected := Scene.toNegotiation_conclude_refused_of_only (s := s.recorded asked events) i r
      hdone honly
    rw [← hs'] at hrejected
    exact ⟨congrArg Negotiation.stage hrejected, congrArg Negotiation.outcome hrejected,
      congrArg Negotiation.keyError hrejected⟩
  · have hsame : s'.begun = s.begun := s.begun_runAttempt i
    refine ⟨(Scene.begun_moves script hlater).trans hsame, fun hothers haside => ?_⟩
    refine Scene.asked_moves script hlater haside fun j b hb => ?_
    by_cases hij : j = i
    · subst hij
      rw [hs'] at hb
      exact Scene.isOver_conclude_refused hb
    · by_contra hlive
      have hj : j < s.begun := hsame ▸ (List.getElem?_eq_some_iff.mp hb).1
      obtain ⟨b', hb', hbefore⟩ :=
        (s.change_move script (.turn (.attempt i))).live hj hb (by simpa using hlive)
      rw [hothers j b' hij hb'] at hbefore
      cases hbefore

/-- A security key that turns every request that is cancelled into a failure. -/
def touchyOutside : Outside where
  client := { settings := {} }
  backend := fun _ => none
  adapter := some fun _ => .waits (.ends (.refused (.ofCause .cancelled none))) .stops

/-- A user who turns from the security key to a time code, which is being submitted already when the
key fails. -/
def turningMoves : List (Move Unit Unit) :=
  [.act .start, .turn (.attempt 0), .act (.select .totp), .act (.input "123456"), .confirm (),
    .turn .submission]

theorem key_failure_is_only_noted_submitting :
    let s : Scene Unit Unit :=
      Scene.moves sampleScript { toOutside := touchyOutside, toNegotiation := sample } turningMoves
    let s' := s.move sampleScript (.turn (.attempt 0))
    ofChallenge "root@pam" "PBS:!tfa!" sampleChallenge = .ok sample ∧
      s.stage = .submitting ∧
      s.reply? 0 = some (.refused (.ofCause .cancelled none)) ∧
      s'.stage = .submitting ∧ s'.outcome = none ∧ s'.active = .totp ∧ s'.input .totp = "123456" ∧
      s'.keyError = some (.ofCause .cancelled none) := by
  intro s s'
  have hall := key_failure_is_only_noted sampleScript ofChallenge_sample touchyOutside turningMoves 0
    _ rfl
  have hother : ∃ m ∈ s.available, m ≠ .webauthn := ⟨.totp, by decide, by decide⟩
  obtain ⟨asked, events, hs'⟩ := (hall.2 (.ofCause .cancelled none) rfl).2.1 (.inr hother)
  have hs' : s' = _ := hs'
  refine ⟨ofChallenge_sample, rfl, rfl, ?_⟩
  rw [hs']
  exact ⟨rfl, rfl, rfl, rfl, rfl⟩

end SecondFactor.Negotiation
