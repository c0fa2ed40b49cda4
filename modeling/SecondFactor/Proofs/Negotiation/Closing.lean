import SecondFactor.Proofs.Negotiation.Stage

/-! # The end of a dialog

To close the dialog gives the challenge up, unless a proof was accepted. What comes afterwards does
not take that back: a security key that was told to stop may still give an assertion, and its proof
is not wanted any more. -/

namespace SecondFactor.Negotiation

variable {τ ν : Type}

/-! ## Closing twice -/

/-- Whether there is nothing left to close: nobody waits for the end of the dialog and, unless a
proof was accepted, the outcome is known and the security key was told to stop. -/
structure Finished (n : Negotiation τ) : Prop where
  closed : n.closed = true
  unwatched : n.whenClosed = []
  done : n.submission.isSome = false → n.done = true
  cancelled : n.submission.isSome = false → ∀ i a, n.current = some i → n.attempts[i]? = some a →
    a.task.cancel = a.task

theorem cancelKey_cancelled {n : Negotiation τ} {i : Nat} {a : Attempt τ} (hi : n.current = some i)
    (ha : n.cancelKey.attempts[i]? = some a) : a.task.cancel = a.task := by
  unfold cancelKey at ha
  rw [hi] at ha
  simp only [setTask, List.getElem?_modify, if_pos] at ha
  obtain ⟨b, -, rfl⟩ := Option.map_eq_some_iff.mp ha
  exact b.task.cancel_cancel

theorem finished_closes (n : Negotiation τ) :
    Finished (if n.submission.isSome then n.shut
      else if n.done then n.shut.cancelKey
      else n.shut.cancelKey.reject (.plain (.ofKind .cancelled))) := by
  have hkeeps : Keeps n.shut n.shut.cancelKey := .cancelKey n.shut
  have halike : Alike n.shut n.shut.cancelKey := .cancelKey n.shut
  have hunwatched : n.shut.cancelKey.whenClosed = [] := by
    unfold cancelKey
    split <;> rfl
  have hcancelled (i : Nat) (a : Attempt τ) (hi : n.shut.cancelKey.current = some i) :
      n.shut.cancelKey.attempts[i]? = some a → a.task.cancel = a.task :=
    cancelKey_cancelled (hkeeps.current.symm.trans hi)
  split
  · rename_i hsub
    refine ⟨rfl, rfl, fun hnone => ?_, fun hnone => ?_⟩
    all_goals
      have hnone : n.submission.isSome = false := hnone
      rw [hsub] at hnone
      cases hnone
  · split
    · rename_i hdone
      exact ⟨halike.closed, hunwatched, fun _ => (congrArg _ halike.outcome).trans hdone,
        fun _ => hcancelled⟩
    · rename_i hdone
      unfold reject
      rw [if_neg ((done_cancelKey n.shut).trans_ne hdone)]
      exact ⟨rfl, rfl, fun _ => rfl, fun _ => hcancelled⟩

namespace Scene

theorem shut_eq_self {s : Scene τ ν} (hclosed : s.closed = true) (hunwatched : s.whenClosed = []) :
    s.shut = s := by
  have hqueue : s.queue ++ s.whenClosed.map .caller = s.queue := by simp [hunwatched]
  unfold shut enqueue
  dsimp only
  rw [hqueue, ← hclosed, ← hunwatched]

theorem close_eq_self {s : Scene τ ν} (hs : Finished s.toNegotiation) : s.close = s := by
  unfold close
  dsimp only
  rw [shut_eq_self hs.closed hs.unwatched]
  cases hsub : s.submission.isSome with
  | true => rfl
  | false =>
    have hcancel : s.cancelAttempt = s := by
      unfold cancelAttempt
      split
      · rfl
      · rename_i i hi
        exact updateAttempt_eq_self fun a => hs.cancelled hsub i a hi
    rw [hcancel, if_neg Bool.false_ne_true, if_pos (hs.done hsub)]

/-- A second call finds nothing left to close. -/
theorem close_close (s : Scene τ ν) : s.close.close = s.close := by
  refine close_eq_self ?_
  rw [toNegotiation_close]
  exact finished_closes s.toNegotiation

/-- After an accepted proof to close the dialog only lets those know who wait for it. -/
theorem close_of_accepted {s : Scene τ ν} (h : s.submission.isSome = true) : s.close = s.shut :=
  if_pos h

theorem close_undecided {s : Scene τ ν} (hsub : s.submission = none) (ho : s.outcome = none) :
    s.close.stage = .rejected ∧ s.close.submission = none ∧
      s.close.outcome = some (.error (.plain (.ofKind .cancelled))) := by
  have hdone : ¬ s.done = true := by simp [done, ho]
  have hdone' : ¬ s.toNegotiation.shut.cancelKey.done = true :=
    (done_cancelKey s.toNegotiation.shut).trans_ne hdone
  have hclose := toNegotiation_close s
  rw [hsub, Option.isSome_none, if_neg Bool.false_ne_true, if_neg hdone, Negotiation.reject,
    if_neg hdone'] at hclose
  have hsubmission : s.toNegotiation.shut.cancelKey.submission = none :=
    (Keeps.cancelKey s.toNegotiation.shut).submission.trans hsub
  exact ⟨congrArg (·.stage) hclose, (congrArg (·.submission) hclose).trans hsubmission,
    congrArg (·.outcome) hclose⟩

end Scene

/-! ## Afterwards -/

variable (script : Nat → Http.Outcome)

/-- Once there is an outcome no proof is accepted any more. -/
theorem Staged.unsubmitted_moves {s : Scene τ ν} (hs : Staged s.toNegotiation)
    {o : Except Failure Ticket} (ho : s.outcome = some o) (hsub : s.submission = none)
    (ms : List (Move τ ν)) : (s.moves script ms).submission = none := by
  induction ms generalizing s with
  | nil => exact hsub
  | cons m ms ih =>
    have hc := s.change_move script m
    have ha := hs.change hc
    refine ih ha.staged (ha.outcome o ho) ?_
    by_contra hsome
    have hopen := hc.isOpen_of_accepted hsub (Option.isSome_iff_ne_none.mpr hsome)
    have hnone := (hs.wanting_of_isOpen hopen).2.1
    rw [ho] at hnone
    cases hnone

/-- At every point of a run to close the dialog rejects a negotiation that has neither an accepted
proof nor an outcome, and no proof is ever submitted then, whatever comes. It does nothing to a
proof that was accepted, and to an outcome. A second call does nothing at all. -/
theorem close_settles {userid ticket : String} {c : Challenge} {n : Negotiation τ}
    (hn : ofChallenge userid ticket c = .ok n) (o : Outside) (ms : List (Move τ ν)) :
    let start : Scene τ ν := { toOutside := o, toNegotiation := n }
    let s := start.moves script ms
    (s.submission = none → s.outcome = none →
        s.close.stage = .rejected ∧
        s.close.outcome = some (.error (.plain (.ofKind .cancelled))) ∧
        ∀ ms', proofs (start.history script (ms ++ .act .close :: ms')) = []) ∧
      (s.submission.isSome = true →
        s.close.stage = s.stage ∧ s.close.outcome = s.outcome ∧ s.close.inputs = s.inputs ∧
        s.close.submission = s.submission ∧ s.close.toOutside = s.toOutside ∧
        s.queue <+: s.close.queue) ∧
      (s.done = true → s.close.stage = s.stage ∧ s.close.outcome = s.outcome) ∧
      s.close.close = s.close := by
  intro start s
  have hs : Staged s.toNegotiation := (staged_moves script hn o ms).1
  have hclose : Advances [] s.toNegotiation s.close.toNegotiation := by
    rw [Scene.toNegotiation_close]
    exact .closes hs
  refine ⟨fun hsub ho => ?_, fun hsub => ?_, fun hdone => ?_, s.close_close⟩
  · obtain ⟨hstage, hsub', ho'⟩ := Scene.close_undecided hsub ho
    refine ⟨hstage, ho', fun ms' => ?_⟩
    have hend : (start.moves script (ms ++ .act .close :: ms')).submission = none := by
      rw [Scene.moves_append, Scene.moves_cons]
      exact hclose.staged.unsubmitted_moves script ho' hsub' ms'
    obtain hnone | ⟨sub, hsome, -, -⟩ := (sound_moves hn o script (ms ++ .act .close :: ms')).once
    · exact hnone
    · rw [hend] at hsome
      cases hsome
  · rw [Scene.close_of_accepted hsub]
    exact ⟨rfl, rfl, rfl, rfl, rfl, List.prefix_append _ _⟩
  · obtain ⟨outcome, ho⟩ := Option.isSome_iff_exists.mp hdone
    obtain ⟨hstage, ho'⟩ := hs.moves_of_outcome script ho [.act .close]
    exact ⟨hstage, ho'.trans ho.symm⟩

/-- A security key that gives its assertion although its request was cancelled. -/
def eagerOutside : Outside where
  client := { settings := {} }
  backend := fun _ => none
  adapter := some fun _ => .waits (.ends (.assertion [])) .stops

/-- The assertion of a request that was cancelled with the dialog is no proof, whatever comes. -/
theorem close_settles_eager :
    ofChallenge "root@pam" "PBS:!tfa!" sampleChallenge = .ok sample ∧ ∀ ms',
      let h := Scene.history sampleScript
        ({ toOutside := eagerOutside, toNegotiation := sample } : Scene Unit Unit)
        ([.act .start, .turn (.attempt 0)] ++ .act .close :: .turn (.attempt 0) :: ms')
      [.started, .replied (.assertion [])] <+: h ∧ proofs h = [] := by
  obtain ⟨hundecided, -⟩ := close_settles (ν := Unit) sampleScript ofChallenge_sample eagerOutside
    [.act .start, .turn (.attempt 0)]
  refine ⟨ofChallenge_sample, fun ms' => ⟨⟨_, rfl⟩, ?_⟩⟩
  exact (hundecided rfl rfl).2.2 (.turn (.attempt 0) :: ms')

end SecondFactor.Negotiation
