import SecondFactor.Proofs.Negotiation.Change

/-! # Contact with the outside world

The security key is asked in the first turn of an attempt, and the backend in the first turn of the
submission, which also hears the answer. Nothing else that happens to a negotiation touches what
lies outside of it. -/

namespace SecondFactor.Negotiation.Scene

variable {τ ν : Type}

@[simp] theorem toOutside_reject (s : Scene τ ν) (f : Failure) :
    (s.reject f).toOutside = s.toOutside := by
  by_cases h : s.done = true
  · simp only [reject_of_done h, shut, enqueue]
  · simp only [reject_of_not_done h, announce, shut, enqueue]

@[simp] theorem toOutside_resolve (s : Scene τ ν) (t : Ticket) :
    (s.resolve t).toOutside = s.toOutside := by
  unfold resolve
  split <;> rfl

@[simp] theorem toOutside_updateAttempt (s : Scene τ ν) (i : Nat)
    (f : Task Attempt.Wait Unit → Task Attempt.Wait Unit) :
    (s.updateAttempt i f).toOutside = s.toOutside := by
  unfold updateAttempt
  cases s.attempts[i]? with
  | none => rfl
  | some a =>
    dsimp only
    split <;> rfl

@[simp] theorem toOutside_endAttempt (s : Scene τ ν) (i : Nat) (how : Ending Unit) :
    (s.endAttempt i how).toOutside = s.toOutside := by
  unfold endAttempt
  cases s.attempts[i]? <;> rfl

@[simp] theorem toOutside_updateSubmission (s : Scene τ ν)
    (f : Task Submission.Wait Unit → Task Submission.Wait Unit) :
    (s.updateSubmission f).toOutside = s.toOutside := by
  unfold updateSubmission
  cases s.submission with
  | none => rfl
  | some sub =>
    dsimp only
    split <;> rfl

@[simp] theorem toOutside_endSubmission (s : Scene τ ν) (how : Ending Unit) :
    (s.endSubmission how).toOutside = s.toOutside := by
  unfold endSubmission
  cases s.submission <;> rfl

@[simp] theorem toOutside_cancelAttempt (s : Scene τ ν) :
    s.cancelAttempt.toOutside = s.toOutside := by
  unfold cancelAttempt
  cases s.current with
  | none => rfl
  | some i => exact toOutside_updateAttempt s i _

@[simp] theorem toOutside_accept (s : Scene τ ν) (p : Proof) (whenEnded : Turn τ) :
    (s.accept p whenEnded).toOutside = s.toOutside := by
  unfold accept
  dsimp only
  split
  · rfl
  · exact toOutside_cancelAttempt _

@[simp] theorem toOutside_keyFailed (s : Scene τ ν) (r : Key.Refusal) :
    (s.keyFailed r).toOutside = s.toOutside := by
  unfold keyFailed
  dsimp only
  split
  · rfl
  · exact toOutside_reject _ _

@[simp] theorem toOutside_ended (s : Scene τ ν) (how : Option (Ending Unit)) :
    (s.ended how).toOutside = s.toOutside := by
  unfold ended
  split
  · split <;> simp
  · rfl

@[simp] theorem toOutside_close (s : Scene τ ν) : s.close.toOutside = s.toOutside := by
  unfold close
  dsimp only
  split
  · rfl
  · split
    · exact toOutside_cancelAttempt _
    · exact (toOutside_reject _ _).trans (toOutside_cancelAttempt _)

/-! ## Attempts -/

@[simp] theorem toOutside_conclude (s : Scene τ ν) (i : Nat) (r : Key.Reply) :
    (s.conclude i r).toOutside = s.toOutside := by
  cases r with
  | refused r => simp [conclude]
  | crashed f => simp [conclude]
  | assertion a =>
    by_cases hopen : s.stage.isOpen = true <;> simp [conclude, hopen]

@[simp] theorem toOutside_proceed (s : Scene τ ν) (i request : Nat) (b : Key.Behaviour) :
    (s.proceed i request b).toOutside = s.toOutside := by
  simp only [proceed]
  cases b.proceed.2 <;> simp

/-- After its first turn an attempt does not ask again. -/
theorem toOutside_runAttempt {s : Scene τ ν} {i : Nat}
    (h : ∀ a, s.attempts[i]? = some a → a.task.start ≠ .first) :
    (s.runAttempt i).toOutside = s.toOutside := by
  unfold runAttempt
  cases ha : s.attempts[i]? with
  | none => rfl
  | some a =>
    dsimp only
    split
    · rfl
    · exact absurd ‹_› (h a ha)
    all_goals simp

/-! ## The submission -/

@[simp] theorem toOutside_settleSubmission (s : Scene τ ν) (result : Except Failure Ticket) :
    (s.settleSubmission result).toOutside = s.toOutside := by
  cases result with
  | ok t => simp [settleSubmission]
  | error f =>
    by_cases hf : f.loginError?.isSome <;> simp [settleSubmission, hf]

@[simp] theorem toOutside_receive (s : Scene τ ν) (r : Http.Request) (o : Http.Outcome) :
    (s.receive r o).toOutside = s.toOutside.receive r o :=
  toOutside_settleSubmission _ _

/-- The submission does not ask a security key. -/
theorem asked_runSubmission (s : Scene τ ν) : s.runSubmission.asked = s.asked := by
  have hreceive (s : Scene τ ν) (r : Http.Request) (o : Http.Outcome) :
      (s.receive r o).asked = s.asked :=
    congrArg (·.asked) (toOutside_receive s r o)
  unfold runSubmission
  split
  · rfl
  · split
    · unfold submit Outside.send
      cases s.client.request _ with
      | error f => exact congrArg (·.asked) (toOutside_settleSubmission s _)
      | ok r =>
        dsimp only [Except.map]
        split
        · exact hreceive _ _ _
        · exact congrArg (·.asked) (toOutside_updateSubmission _ _)
    · exact hreceive _ _ _
    · rfl

/-! ## Moves -/

variable (script : Nat → Http.Outcome)

theorem toOutside_act (s : Scene τ ν) (a : Action) :
    (s.move script (.act a)).toOutside = s.toOutside := by
  cases a with
  | start =>
    simp only [move, act, start]
    split <;> rfl
  | select m =>
    simp only [move, act]
    split
    · obtain ⟨-, -, ⟨-, rfl⟩ | ⟨-, -, rfl⟩ | ⟨-, -, rfl⟩⟩ := select_cases ‹_›
      · rfl
      · exact toOutside_cancelAttempt s
      · rfl
    · rfl
  | input value =>
    simp only [move, act]
    split
    · obtain ⟨-, -, rfl⟩ := setInput_cases ‹_›
      rfl
    · rfl
  | close => exact toOutside_close s

theorem toOutside_confirm (s : Scene τ ν) (caller : τ) :
    (s.move script (.confirm caller)).toOutside = s.toOutside := by
  simp only [move]
  split
  · obtain ⟨-, ⟨-, -, rfl⟩ | ⟨-, ⟨-, rfl⟩ | ⟨-, rfl⟩⟩⟩ := confirm_cases ‹_›
    · rfl
    · exact toOutside_accept _ _ _
    · rfl
  · rfl

/-- Apart from what others do, a security key is asked only in the first turn of an attempt. -/
theorem first_of_asked {s : Scene τ ν} {m : Move τ ν}
    (haside : ∀ others queue notes, m ≠ .aside others queue notes)
    (h : (s.move script m).asked ≠ s.asked) :
    ∃ i a, m = .turn (.attempt i) ∧ s.attempts[i]? = some a ∧ a.task.start = .first := by
  have hsame {s' : Scene τ ν} (hout : s'.toOutside = s.toOutside) : s'.asked = s.asked :=
    congrArg (·.asked) hout
  cases m with
  | act a => exact absurd (hsame (toOutside_act script s a)) h
  | confirm caller => exact absurd (hsame (toOutside_confirm script s caller)) h
  | awaitClosed caller =>
    refine absurd (hsame ?_) h
    simp only [move, awaitClosed]
    split <;> rfl
  | awaitOutcome caller =>
    refine absurd (hsame ?_) h
    simp only [move, awaitOutcome]
    split <;> rfl
  | turn t =>
    cases t with
    | attempt i =>
      by_contra hfirst
      refine h (hsame (toOutside_runAttempt fun a ha hstart => hfirst ⟨i, a, rfl, ha, hstart⟩))
    | attemptEnded i | submissionEnded => exact absurd (hsame (toOutside_ended s _)) h
    | attemptNotified i => exact absurd (hsame (toOutside_updateAttempt s i _)) h
    | submission => exact absurd (asked_runSubmission s) h
    | caller t => exact absurd rfl h
  | reply i next => exact absurd (hsame (toOutside_updateAttempt s i _)) h
  | respond =>
    refine absurd (hsame ?_) h
    simp only [move]
    split
    · exact toOutside_updateSubmission s _
    · rfl
  | aside others queue notes => exact absurd rfl (haside others queue notes)

end SecondFactor.Negotiation.Scene
