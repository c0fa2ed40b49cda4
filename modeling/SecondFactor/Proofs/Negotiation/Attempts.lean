import SecondFactor.Proofs.Negotiation.Outcome

/-! # Attempts with a security key

An attempt is begun by the start of the negotiation, or by a user who confirms that a security key
is to be asked. Nothing else that happens begins one, and one that is over stays over. -/

namespace SecondFactor.Negotiation

variable {τ ν : Type}

/-- How many attempts with a security key were begun. -/
def begun (n : Negotiation τ) : Nat := n.attempts.length

@[simp] theorem begun_begin (n : Negotiation τ) (whenEnded : List (Turn τ)) :
    (n.begin whenEnded).begun = n.begun + 1 := List.length_append

@[simp] theorem begun_setTask (n : Negotiation τ) (i : Nat)
    (f : Task Attempt.Wait Unit → Task Attempt.Wait Unit) : (n.setTask i f).begun = n.begun :=
  List.length_modify ..

@[simp] theorem begun_setSubmission (n : Negotiation τ)
    (f : Task Submission.Wait Unit → Task Submission.Wait Unit) :
    (n.setSubmission f).begun = n.begun := rfl

@[simp] theorem begun_cancelKey (n : Negotiation τ) : n.cancelKey.begun = n.begun := by
  unfold cancelKey
  split
  · rfl
  · exact begun_setTask n _ _

@[simp] theorem begun_reject (n : Negotiation τ) (f : Failure) : (n.reject f).begun = n.begun := by
  unfold reject
  split <;> rfl

@[simp] theorem begun_resolve (n : Negotiation τ) (t : Ticket) : (n.resolve t).begun = n.begun := by
  unfold resolve
  split <;> rfl

@[simp] theorem begun_accept (n : Negotiation τ) (p : Proof) (whenEnded : Turn τ) :
    (n.accept p whenEnded).begun = n.begun := by
  unfold accept
  dsimp only
  split
  · rfl
  · exact begun_cancelKey _

@[simp] theorem begun_keyFailed (n : Negotiation τ) (r : Key.Refusal) :
    (n.keyFailed r).begun = n.begun := by
  unfold keyFailed
  dsimp only
  split
  · rfl
  · exact begun_reject _ _

@[simp] theorem begun_settle (n : Negotiation τ) (result : Except Failure Ticket) :
    (n.settle result).begun = n.begun := by
  cases result with
  | ok t => exact begun_resolve n t
  | error f =>
    unfold settle
    dsimp only
    split
    · exact begun_reject n f
    · rfl

namespace Scene

@[simp] theorem begun_conclude (s : Scene τ ν) (i : Nat) (r : Key.Reply) :
    (s.conclude i r).begun = s.begun := by
  cases r with
  | refused r => simp [conclude]
  | crashed f => simp [conclude]
  | assertion a =>
    by_cases hopen : s.stage.isOpen = true <;> simp [conclude, hopen]

@[simp] theorem begun_proceed (s : Scene τ ν) (i request : Nat) (b : Key.Behaviour) :
    (s.proceed i request b).begun = s.begun := by
  simp only [proceed]
  cases b.proceed.2 <;> simp

@[simp] theorem begun_ask (s : Scene τ ν) (i : Nat) : (s.ask i).begun = s.begun := by
  unfold ask
  cases s.adapter with
  | none => exact begun_conclude s i _
  | some adapter =>
    cases s.options with
    | none => exact begun_conclude s i _
    | some options => exact begun_proceed _ i _ _

theorem begun_runAttempt (s : Scene τ ν) (i : Nat) : (s.runAttempt i).begun = s.begun := by
  unfold runAttempt
  cases s.attempts[i]? with
  | none => rfl
  | some a =>
    dsimp only
    split <;> simp

theorem begun_ended (s : Scene τ ν) (how : Option (Ending Unit)) :
    (s.ended how).begun = s.begun := by
  unfold ended
  split
  · split <;> simp
  · rfl

theorem begun_submit (s : Scene τ ν) (p : Proof) : (s.submit p).begun = s.begun := by
  unfold submit
  split
  · simp
  · dsimp only
    split
    · simp [toNegotiation_receive]
    · simp

theorem begun_runSubmission (s : Scene τ ν) : s.runSubmission.begun = s.begun := by
  unfold runSubmission
  split
  · rfl
  · split
    · exact begun_submit s _
    · simp [toNegotiation_receive]
    · rfl

theorem begun_close (s : Scene τ ν) : s.close.begun = s.begun := by
  rw [toNegotiation_close]
  split
  · rfl
  · split
    · exact begun_cancelKey _
    · simp only [begun_reject, begun_cancelKey]
      rfl

theorem begun_select {s s' : Scene τ ν} {m : Method} (h : s.select m = .ok s') :
    s'.begun = s.begun := by
  obtain ⟨-, -, ⟨-, rfl⟩ | ⟨-, -, rfl⟩ | ⟨-, -, rfl⟩⟩ := select_cases h
  · rfl
  · have hcancel : s.cancelAttempt.begun = s.begun := by simp
    exact hcancel
  · rfl

theorem begun_setInput {s s' : Scene τ ν} {value : String} (h : s.setInput value = .ok s') :
    s'.begun = s.begun := by
  obtain ⟨-, -, rfl⟩ := setInput_cases h
  rfl

/-- To confirm begins an attempt if the security key is the active method, and none is under way. -/
theorem begun_confirm {s : Scene τ ν} {caller : τ} {r : Bool × Scene τ ν}
    (h : s.confirm caller = .ok r) :
    r.2.begun = s.begun ∨
      s.active = .webauthn ∧ s.pending = false ∧ r.2.toNegotiation = s.begin [.caller caller] := by
  obtain ⟨waits, s'⟩ := r
  obtain ⟨-, ⟨hkey, hidle, rfl⟩ | ⟨-, ⟨-, rfl⟩ | ⟨-, rfl⟩⟩⟩ := confirm_cases h
  · exact .inr ⟨hkey, hidle, rfl⟩
  · left
    simp only [toNegotiation_accept, begun_accept]
    rfl
  · exact .inl rfl

variable (script : Nat → Http.Outcome)

/-- A move that begins an attempt starts the negotiation, or confirms the security key while no
attempt is under way. -/
theorem begun_move (s : Scene τ ν) (m : Move τ ν) :
    (s.move script m).begun = s.begun ∨
      (m = .act .start ∧ s.available.contains .webauthn = true ∧
        (s.move script m).toNegotiation = s.begin []) ∨
      ∃ caller r, m = .confirm caller ∧ s.confirm caller = .ok r ∧ s.active = .webauthn ∧
        s.pending = false ∧ (s.move script m).toNegotiation = s.begin [.caller caller] := by
  cases m with
  | act a =>
    cases a with
    | start =>
      by_cases hkey : s.available.contains .webauthn = true
      · refine .inr (.inl ⟨rfl, hkey, ?_⟩)
        simp only [move, act, start, if_pos hkey]
        rfl
      · left
        simp only [move, act, start, if_neg hkey]
    | select m =>
      left
      simp only [move, act]
      split
      · exact begun_select ‹_›
      · rfl
    | input value =>
      left
      simp only [move, act]
      split
      · exact begun_setInput ‹_›
      · rfl
    | close => exact .inl (begun_close s)
  | confirm caller =>
    simp only [move]
    split
    · rename_i s' h
      obtain hsame | ⟨hkey, hidle, hbegin⟩ := begun_confirm h
      · exact .inl hsame
      · exact .inr (.inr ⟨caller, _, rfl, h, hkey, hidle, hbegin⟩)
    · exact .inl rfl
  | awaitClosed caller =>
    left
    simp only [move, awaitClosed]
    split <;> rfl
  | awaitOutcome caller =>
    left
    simp only [move, awaitOutcome]
    split <;> rfl
  | turn t =>
    left
    cases t with
    | attempt i => exact begun_runAttempt s i
    | attemptEnded i => exact begun_ended s _
    | attemptNotified i => simp [move, run]
    | submission => exact begun_runSubmission s
    | submissionEnded => exact begun_ended s _
    | caller t => rfl
  | reply i next =>
    left
    simp [move, replyTo]
  | respond =>
    left
    simp only [move]
    split
    · simp [respond]
    · rfl
  | aside others queue notes => exact .inl rfl

theorem begun_le_move (s : Scene τ ν) (m : Move τ ν) : s.begun ≤ (s.move script m).begun := by
  obtain h | ⟨-, -, h⟩ | ⟨caller, r, -, -, -, -, h⟩ := begun_move script s m
  · exact Nat.le_of_eq h.symm
  all_goals
    rw [h, begun_begin]
    exact Nat.le_succ _

theorem begun_le_moves (s : Scene τ ν) (ms : List (Move τ ν)) :
    s.begun ≤ (s.moves script ms).begun := by
  induction ms generalizing s with
  | nil => exact Nat.le_refl _
  | cons m ms ih => exact Nat.le_trans (begun_le_move script s m) (ih _)

theorem begun_le_after (s : Scene τ ν) (ms : List (Move τ ν)) {j k : Nat} (hjk : j ≤ k) :
    (s.after script ms j).begun ≤ (s.after script ms k).begun := by
  obtain ⟨ns, hns⟩ := s.exists_moves_after script ms hjk
  rw [hns]
  exact begun_le_moves script _ ns

end Scene

/-! ## What is over -/

/-- A change begins an attempt, or neither brings an attempt back to life nor lets it ask again. -/
theorem Change.attempts {n n' : Negotiation τ} {es : List Happening} (hc : Change n es n') :
    (∃ m, Keeps n m ∧ n'.attempts = m.attempts) ∨ ∃ whenEnded, n' = n.begin whenEnded := by
  cases hc.effect with
  | begins whenEnded => exact .inr ⟨whenEnded, rfl⟩
  | tells => exact .inl ⟨n, .refl n, rfl⟩
  | keeps hk | selects hk | accepts hk | submits hk => exact .inl ⟨_, hk, rfl⟩

/-- An attempt that is under way after a change was so before, if it was begun. -/
theorem Change.live {n n' : Negotiation τ} {es : List Happening} (hc : Change n es n') {i : Nat}
    (hi : i < n.begun) {a' : Attempt τ} (ha' : n'.attempts[i]? = some a')
    (hlive : a'.task.isOver = false) :
    ∃ a, n.attempts[i]? = some a ∧ a.task.isOver = false := by
  obtain ⟨m, hk, heq⟩ | ⟨whenEnded, rfl⟩ := hc.attempts
  · rw [heq] at ha'
    obtain ⟨a, ha, hcalms⟩ := hk.attempts i a' ha'
    exact ⟨a, ha, hcalms.ended hlive⟩
  · exact ⟨a', (List.getElem?_append_left hi).symm.trans ha', hlive⟩

theorem Scene.live_moves (script : Nat → Http.Outcome) {s : Scene τ ν} {i : Nat} (hi : i < s.begun)
    (ms : List (Move τ ν)) {a' : Attempt τ} (ha' : (s.moves script ms).attempts[i]? = some a')
    (hlive : a'.task.isOver = false) : ∃ a, s.attempts[i]? = some a ∧ a.task.isOver = false := by
  induction ms generalizing s with
  | nil => exact ⟨a', ha', hlive⟩
  | cons m ms ih =>
    have hi' : i < (s.move script m).begun := Nat.lt_of_lt_of_le hi (begun_le_move script s m)
    obtain ⟨a, ha, hlive⟩ := ih hi' ha'
    exact (s.change_move script m).live hi ha hlive

end SecondFactor.Negotiation
