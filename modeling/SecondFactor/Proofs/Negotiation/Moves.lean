import SecondFactor.Proofs.Negotiation.Change

/-! # Moves are changes

Every move does to the negotiation what one of the changes says, and shows what that change
shows. -/

namespace SecondFactor.Negotiation.Scene

variable {τ ν : Type} (script : Nat → Http.Outcome)

private theorem change_select (s : Scene τ ν) (m : Method) :
    Change s.toNegotiation [] (s.move script (.act (.select m))).toNegotiation := by
  simp only [move, act]
  split
  · rename_i s' h
    obtain ⟨hopen, hm, ⟨-, rfl⟩ | ⟨hne, hkey, rfl⟩ | ⟨hne, hkey, rfl⟩⟩ := select_cases h
    · exact .idle
    · have hc := Change.selects (n := s.toNegotiation) m hopen hm hne
      rw [if_pos hkey, ← toNegotiation_cancelAttempt] at hc
      exact hc
    · have hc := Change.selects (n := s.toNegotiation) m hopen hm hne
      rw [if_neg hkey] at hc
      exact hc
  · exact .idle

theorem toNegotiation_close (s : Scene τ ν) :
    s.close.toNegotiation =
      if s.submission.isSome then s.toNegotiation.shut
      else if s.done then s.toNegotiation.shut.cancelKey
      else s.toNegotiation.shut.cancelKey.reject (.plain (.ofKind .cancelled)) := by
  have hdone : s.shut.cancelAttempt.done = s.done := by
    simp [done, Negotiation.shut]
  unfold close
  dsimp only
  rw [hdone]
  split
  · rename_i h
    exact (if_pos h).symm
  · rename_i h
    have h' : ¬ s.submission.isSome = true := h
    rw [if_neg h']
    split <;> simp

private theorem change_act (s : Scene τ ν) (a : Action) :
    Change s.toNegotiation (s.shows script (.act a)) (s.move script (.act a)).toNegotiation := by
  cases a with
  | start =>
    have h : (s.move script (.act .start)).toNegotiation =
        if s.available.contains .webauthn then s.toNegotiation.begin [] else s.toNegotiation := by
      simp only [move, act, start]
      split <;> rfl
    rw [h]
    exact .starts
  | select m => exact change_select script s m
  | input value =>
    simp only [move, act, shows, setInput]
    by_cases hopen : s.stage.isOpen = true
    · by_cases ht : s.active.takesText = true
      · simp only [hopen, ht, Bool.not_true, Bool.false_eq_true, if_false]
        exact .told value hopen ht
      · simp only [hopen, ht, Bool.not_true, Bool.not_false, Bool.false_eq_true, if_false, if_true]
        exact .idle
    · simp only [hopen, Bool.not_false, if_true]
      exact .idle
  | close =>
    simp only [move, act, toNegotiation_close]
    exact .closes

private theorem change_confirm (s : Scene τ ν) (caller : τ) :
    Change s.toNegotiation [] (s.move script (.confirm caller)).toNegotiation := by
  simp only [move]
  split
  · rename_i s' h
    obtain ⟨hopen, ⟨hkey, hidle, rfl⟩ | ⟨htext, ⟨hshape, rfl⟩ | ⟨hshape, rfl⟩⟩⟩ := confirm_cases h
    · exact .retries caller hopen hkey hidle
    · rw [toNegotiation_accept]
      exact .confirms caller hopen htext hshape
    · exact .mistypes hopen htext hshape
  · exact .idle

private theorem change_conclude {s : Scene τ ν} {i : Nat} {a : Attempt τ} (r : Key.Reply)
    (ha : s.attempts[i]? = some a) (hu : a.isUnanswered = true) :
    Change s.toNegotiation [.replied r] (s.conclude i r).toNegotiation := by
  cases r with
  | refused r =>
    simp only [conclude, toNegotiation_endAttempt, toNegotiation_keyFailed]
    exact .refused i a r ha hu
  | crashed f =>
    simp only [conclude, toNegotiation_endAttempt]
    exact .keyCrashed i a f ha hu
  | assertion assertion =>
    by_cases hopen : s.stage.isOpen = true
    · simp only [conclude, hopen, if_true, toNegotiation_updateAttempt, toNegotiation_accept,
        keyText_eq]
      exact .asserts i a assertion ha hu hopen
    · simp only [conclude, hopen, if_false, toNegotiation_endAttempt, Bool.false_eq_true]
      exact .assertsLate i a assertion ha hu (by simpa using hopen)

private theorem change_proceed {s : Scene τ ν} {i : Nat} {a : Attempt τ} (request : Nat)
    (b : Key.Behaviour) (ha : s.attempts[i]? = some a) (hu : a.isUnanswered = true) :
    Change s.toNegotiation (b.reply?.toList.map .replied)
      (s.proceed i request b).toNegotiation := by
  simp only [proceed, Key.Behaviour.reply?]
  cases b.proceed.2 with
  | ended r => exact change_conclude (s := s.note _) r ha hu
  | stopped =>
    simp only [toNegotiation_endAttempt, toNegotiation_note]
    exact .stops i a .cancelled ha (.inl rfl)
  | waiting onCancel onLateCancel =>
    simp only [toNegotiation_updateAttempt, toNegotiation_note]
    exact .asks i a request onCancel onLateCancel ha hu

private theorem change_ask {s : Scene τ ν} {i : Nat} {a : Attempt τ}
    (ha : s.attempts[i]? = some a) (hu : a.isUnanswered = true) :
    Change s.toNegotiation
      ((match s.adapter, s.options with
        | some adapter, some _ => (adapter s.asked.length).reply?
        | _, _ => some (.refused .unsupported)).toList.map .replied)
      (s.ask i).toNegotiation := by
  unfold ask
  cases s.adapter with
  | none => exact change_conclude _ ha hu
  | some adapter =>
    cases s.options with
    | none => exact change_conclude _ ha hu
    | some options =>
      let asking : Scene τ ν :=
        note { s with adapter := some adapter, asked := s.asked ++ [options] }
          [.keyRequested s.asked.length]
      exact change_proceed (s := asking) s.asked.length (adapter s.asked.length) ha hu

private theorem change_runAttempt (s : Scene τ ν) (i : Nat) :
    Change s.toNegotiation ((s.reply? i).toList.map .replied) (s.runAttempt i).toNegotiation := by
  unfold reply? runAttempt
  cases ha : s.attempts[i]? with
  | none => exact .idle
  | some a =>
    have hu := a.isUnanswered_of_start
    simp only [Option.bind_some]
    cases hstart : a.task.start with
    | idle => exact .idle
    | first =>
      rw [hstart] at hu
      exact change_ask ha hu
    | news w =>
      rw [hstart] at hu
      cases w with
      | replied request next onLateCancel => exact change_proceed _ _ ha hu
      | reply _ _ _ | submission =>
        simp only [toNegotiation_endAttempt]
        exact .stops i a _ ha (.inr rfl)
    | cancelled on =>
      rw [hstart] at hu
      cases on with
      | none =>
        simp only [toNegotiation_endAttempt]
        exact .stops i a _ ha (.inl rfl)
      | some w =>
        cases w with
        | reply request onCancel onLateCancel =>
          exact change_proceed (s := s.note _) _ _ ha hu
        | replied _ _ _ | submission =>
          simp only [toNegotiation_endAttempt]
          exact .stops i a _ ha (.inl rfl)
    | cancelledLate w =>
      rw [hstart] at hu
      cases w with
      | replied request next onLateCancel => exact change_proceed _ _ ha hu
      | reply _ _ _ | submission =>
        simp only [toNegotiation_endAttempt]
        exact .stops i a _ ha (.inl rfl)

private theorem change_ended {s : Scene τ ν} {i : Option Nat} {how : Option (Ending Unit)}
    (h : (match i with
      | some i => s.attempts[i]?.bind (·.task.ending?)
      | none => s.submission.bind (·.task.ending?)) = how) :
    Change s.toNegotiation (noticing i how) (s.ended how).toNegotiation := by
  cases how with
  | none => exact .idle
  | some how =>
    cases how with
    | returned _ | cancelled => exact .idle
    | failed f =>
      have he : (s.ended (some (.failed f))).toNegotiation = s.toNegotiation.notice f := by
        simp only [ended, notice, crash]
        split
        · rfl
        · rw [toNegotiation_reject]
      rw [he]
      exact .notices i f h

private theorem change_submit {s : Scene τ ν} {sub : Submission τ} (hsub : s.submission = some sub)
    (hfirst : sub.task.start = .first) :
    Change s.toNegotiation
      (.submitted s.userid s.ticket sub.proof.text :: s.sending sub.proof)
      (s.submit sub.proof).toNegotiation := by
  unfold submit sending Outside.send
  cases s.client.request (s.client.proofCall s.userid s.ticket sub.proof.text) with
  | error f =>
    simp only [Except.map, toNegotiation_settleSubmission]
    exact .balks sub f hsub hfirst
  | ok r =>
    simp only [Except.map, toOutside_note]
    cases s.backend s.sent.length with
    | none =>
      simp only [toNegotiation_updateSubmission, toNegotiation_note]
      exact .sends sub s.sent.length r hsub hfirst
    | some o =>
      simp only [toNegotiation_receive, toNegotiation_note]
      exact .exchanges sub s.sent.length r o (s.client.receive r o) hsub hfirst

private theorem change_runSubmission (s : Scene τ ν) :
    Change s.toNegotiation s.submitting s.runSubmission.toNegotiation := by
  unfold submitting runSubmission
  cases hsub : s.submission with
  | none => exact .idle
  | some sub =>
    dsimp only
    cases hstart : sub.task.start with
    | first => exact change_submit hsub hstart
    | news w =>
      cases w with
      | response _ _ => exact .idle
      | responded r o =>
        rw [toNegotiation_receive]
        exact .receives sub r o (s.client.receive r o) hsub hstart
    | idle | cancelled _ | cancelledLate _ => exact .idle

private theorem change_replyTo (s : Scene τ ν) (i : Nat) (next : Key.Behaviour) :
    Change s.toNegotiation [] (s.replyTo i next).toNegotiation := by
  obtain heq | ⟨a, request, onCancel, onLateCancel, ha, hw, heq⟩ := s.replyTo_cases i next
  · rw [heq]
    exact .idle
  · have hu : a.isUnanswered = true := by simp [Attempt.isUnanswered, Task.phase_of_awaits hw]
    rw [heq, toNegotiation_updateAttempt]
    exact .wakes i _ (.inr ⟨request, next, onLateCancel, rfl, a, ha, hu⟩)

private theorem change_respond (s : Scene τ ν) :
    Change s.toNegotiation (s.shows script .respond) (s.move script .respond).toNegotiation := by
  simp only [move, shows]
  cases hsub : s.submission with
  | none =>
    have hn : s.heldNumber? = none := by simp [heldNumber?, hsub]
    rw [hn]
    exact .idle
  | some sub =>
    cases hw : sub.task.awaits? with
    | none =>
      have hn : s.heldNumber? = none := by simp [heldNumber?, hsub, hw]
      rw [hn]
      exact .idle
    | some w =>
      cases w with
      | responded _ _ => 
        have hn : s.heldNumber? = none := by simp [heldNumber?, hsub, hw]
        rw [hn]
        exact .idle
      | response n r =>
        have hn : s.heldNumber? = some n := by simp [heldNumber?, hsub, hw]
        rw [hn]
        simp only [respond, toNegotiation_updateSubmission]
        rw [setSubmission_congr (g := Task.wake (.responded r (script n))) hsub (by simp [hw])]
        exact .responds sub n r (script n) hsub hw

/-- A move does nothing to a negotiation but what a change says. -/
theorem change_move (s : Scene τ ν) (m : Move τ ν) :
    Change s.toNegotiation (s.shows script m) (s.move script m).toNegotiation := by
  cases m with
  | act a => exact change_act script s a
  | confirm caller => exact change_confirm script s caller
  | awaitClosed caller =>
    simp only [move, awaitClosed]
    split
    · exact .idle
    · exact .waits (s.whenClosed ++ [caller]) s.whenDone
  | awaitOutcome caller =>
    simp only [move, awaitOutcome]
    split
    · exact .idle
    · exact .waits s.whenClosed (s.whenDone ++ [caller])
  | turn t =>
    cases t with
    | attempt i => exact change_runAttempt s i
    | attemptEnded i => exact change_ended rfl
    | attemptNotified i =>
      simp only [move, run, toNegotiation_updateAttempt]
      exact .wakes i .submission (.inl rfl)
    | submission => exact change_runSubmission s
    | submissionEnded => exact change_ended rfl
    | caller t => exact .idle
  | reply i next => exact change_replyTo s i next
  | respond => exact change_respond script s
  | aside others queue notes => exact .idle

end SecondFactor.Negotiation.Scene
