import SecondFactor.Proofs.Negotiation.Frame
import SecondFactor.Proofs.Negotiation.Guests

/-! # What is due

Whoever waits in a negotiation is told when it is over: the turn of a task that can go on is due, and
so are the turns of those who wait for the dialog to be closed, or for the outcome, once that has
come. Turns may be taken in any order. One that was taken is not missed. -/

namespace SecondFactor.Negotiation

variable {τ ν : Type}

/-- Whether a submission goes on by itself unless it waits for the backend: its turn is due, or it has
ended, and if it leaves the outcome open then its end is still to be seen. -/
structure Submission.Alive (due : List (Turn τ)) (done : Bool) (sub : Submission τ) : Prop where
  owned : .submissionEnded ∈ sub.whenEnded
  uncancelled : sub.task.cancelling = false
  stands : match sub.task.phase with
    | .ready | .woken (.responded _ _) => .submission ∈ due
    | .waiting (.response _ _) => True
    | .ended how => done = true ∨ (∃ f, how = .failed f) ∧ .submissionEnded ∈ due
    | _ => False

/-- Whether the tasks of a negotiation go on by themselves, given the turns that are due. -/
structure Alive (due : List (Turn τ)) (n : Negotiation τ) : Prop where
  attempts : ∀ (i : Nat) a, n.attempts[i]? = some a → a.task.isDue = true → .attempt i ∈ due
  submission : ∀ sub, n.submission = some sub → sub.Alive due n.done

/-- Whether somebody is going to hear that the dialog is closed. -/
def HearsClosed (due : List (Turn τ)) (n : Negotiation τ) (c : τ) : Prop :=
  n.closed = false ∧ c ∈ n.whenClosed ∨ n.closed = true ∧ .caller c ∈ due

/-- Whether somebody is going to hear of the outcome. -/
def HearsOutcome (due : List (Turn τ)) (n : Negotiation τ) (c : τ) : Prop :=
  n.outcome = none ∧ c ∈ n.whenDone ∨ n.done = true ∧ .caller c ∈ due

theorem Submission.Alive.mono {due due' : List (Turn τ)} {done done' : Bool} {sub : Submission τ}
    (h : sub.Alive due done) (hdue : due ⊆ due') (hdone : done = true → done' = true) :
    sub.Alive due' done' := by
  refine ⟨h.owned, h.uncancelled, ?_⟩
  have hstands := h.stands
  split at hstands
  · exact hdue hstands
  · exact hdue hstands
  · trivial
  · exact hstands.imp hdone fun ⟨hf, hended⟩ => ⟨hf, hdue hended⟩
  · exact hstands

theorem append_subset_append {due q q' : List (Turn τ)} (h : q ⊆ q') : due ++ q ⊆ due ++ q' :=
  List.append_subset.mpr
    ⟨List.subset_append_left _ _, List.Subset.trans h (List.subset_append_right _ _)⟩

/-! ## What a scene does about it -/

namespace Scene

@[simp] theorem enqueue_attempts (s : Scene τ ν) (ts : List (Turn τ)) :
    (s.enqueue ts).attempts = s.attempts := rfl

theorem done_resolve (s : Scene τ ν) (t : Ticket) : (s.resolve t).done = true := by
  unfold resolve
  split
  · assumption
  · rfl

theorem done_reject (s : Scene τ ν) (f : Failure) : (s.reject f).done = true := by
  by_cases hdone : s.done = true
  · rwa [reject_of_done hdone]
  · rw [reject_of_not_done hdone]
    rfl

/-- Whether nobody in a negotiation is forgotten from one scene to another, whatever else is due. -/
structure Upholds (s s' : Scene τ ν) : Prop where
  queue : s.queue ⊆ s'.queue
  alive : ∀ due, s.Alive (due ++ s.queue) → s'.Alive (due ++ s'.queue)
  closed : ∀ due c, s.HearsClosed (due ++ s.queue) c → s'.HearsClosed (due ++ s'.queue) c
  outcome : ∀ due c, s.HearsOutcome (due ++ s.queue) c → s'.HearsOutcome (due ++ s'.queue) c
  submission : s.submission.isSome = true → s'.submission.isSome = true
  done : s.done = true → s'.done = true

namespace Upholds

theorem refl (s : Scene τ ν) : Upholds s s :=
  ⟨List.Subset.refl _, fun _ => id, fun _ _ => id, fun _ _ => id, id, id⟩

theorem trans {s s' s'' : Scene τ ν} (h : Upholds s s') (h' : Upholds s' s'') : Upholds s s'' where
  queue := List.Subset.trans h.queue h'.queue
  alive := fun due => h'.alive due ∘ h.alive due
  closed := fun due c => h'.closed due c ∘ h.closed due c
  outcome := fun due c => h'.outcome due c ∘ h.outcome due c
  submission := h'.submission ∘ h.submission
  done := h'.done ∘ h.done

variable {s s' : Scene τ ν}

/-- Attempts change, and those that can go on by that have their turn. -/
theorem of_attempts (hqueue : s.queue ⊆ s'.queue)
    (hattempts : ∀ (i : Nat) a', s'.attempts[i]? = some a' → a'.task.isDue = true →
      (∃ a, s.attempts[i]? = some a ∧ a.task.isDue = true) ∨ .attempt i ∈ s'.queue)
    (hsubmission : s'.submission = s.submission) (hclosed : s'.closed = s.closed)
    (houtcome : s'.outcome = s.outcome) (hwhenClosed : s'.whenClosed = s.whenClosed)
    (hwhenDone : s'.whenDone = s.whenDone) : Upholds s s' := by
  have hdue (due : List (Turn τ)) : due ++ s.queue ⊆ due ++ s'.queue := append_subset_append hqueue
  have hdone : s'.done = s.done := congrArg Option.isSome houtcome
  refine ⟨hqueue, fun due h => ⟨?_, ?_⟩, fun due c h => ?_, fun due c h => ?_, ?_, ?_⟩
  · intro i a' ha' hisDue
    rcases hattempts i a' ha' hisDue with ⟨a, ha, hold⟩ | hnew
    · exact hdue due (h.attempts i a ha hold)
    · exact List.mem_append_right due hnew
  · intro sub hsub
    rw [hsubmission] at hsub
    exact (h.submission sub hsub).mono (hdue due) (hdone ▸ id)
  · unfold HearsClosed at h ⊢
    rw [hclosed, hwhenClosed]
    exact h.imp_right fun ⟨hyes, hin⟩ => ⟨hyes, hdue due hin⟩
  · unfold HearsOutcome at h ⊢
    rw [houtcome, hwhenDone, hdone]
    exact h.imp_right fun ⟨hyes, hin⟩ => ⟨hyes, hdue due hin⟩
  · rw [hsubmission]
    exact id
  · rw [hdone]
    exact id

theorem of_same (hqueue : s.queue ⊆ s'.queue) (hattempts : s'.attempts = s.attempts)
    (hsubmission : s'.submission = s.submission) (hclosed : s'.closed = s.closed)
    (houtcome : s'.outcome = s.outcome) (hwhenClosed : s'.whenClosed = s.whenClosed)
    (hwhenDone : s'.whenDone = s.whenDone) : Upholds s s' :=
  of_attempts hqueue (fun _ a ha hisDue => .inl ⟨a, hattempts ▸ ha, hisDue⟩) hsubmission hclosed
    houtcome hwhenClosed hwhenDone

theorem enqueue (s : Scene τ ν) (ts : List (Turn τ)) : Upholds s (s.enqueue ts) :=
  of_same (List.subset_append_left _ _) rfl rfl rfl rfl rfl rfl

theorem note (s : Scene τ ν) (es : List (Event ν)) : Upholds s (s.note es) :=
  of_same (List.Subset.refl _) rfl rfl rfl rfl rfl rfl

/-! ### Attempts -/

theorem updateAttempt (s : Scene τ ν) (i : Nat)
    (f : Task Attempt.Wait Unit → Task Attempt.Wait Unit) : Upholds s (s.updateAttempt i f) := by
  unfold Scene.updateAttempt
  cases ha : s.attempts[i]? with
  | none => exact refl s
  | some a =>
    have hlt : i < s.attempts.length := (List.getElem?_eq_some_iff.mp ha).1
    dsimp only
    split
    · refine of_attempts (List.subset_append_left _ _) ?_ rfl rfl rfl rfl rfl
      intro j b hb hisDue
      by_cases hij : i = j
      · subst hij
        exact .inr (List.mem_append_right _ (List.mem_singleton_self _))
      · rw [enqueue_attempts, List.getElem?_set_ne hij] at hb
        exact .inl ⟨b, hb, hisDue⟩
    · rename_i hnot
      refine of_attempts (List.Subset.refl _) ?_ rfl rfl rfl rfl rfl
      intro j b hb hisDue
      by_cases hij : i = j
      · subst hij
        rw [List.getElem?_set_self hlt] at hb
        cases hb
        exact .inl ⟨a, ha, by simpa [hisDue] using hnot⟩
      · rw [List.getElem?_set_ne hij] at hb
        exact .inl ⟨b, hb, hisDue⟩

theorem endAttempt (s : Scene τ ν) (i : Nat) (how : Ending Unit) :
    Upholds s (s.endAttempt i how) := by
  unfold Scene.endAttempt
  cases ha : s.attempts[i]? with
  | none => exact refl s
  | some a =>
    have hlt : i < s.attempts.length := (List.getElem?_eq_some_iff.mp ha).1
    refine of_attempts (List.subset_append_left _ _) ?_ rfl rfl rfl rfl rfl
    intro j b hb hisDue
    by_cases hij : i = j
    · subst hij
      rw [enqueue_attempts, List.getElem?_set_self hlt] at hb
      cases hb
      cases hisDue
    · rw [enqueue_attempts, List.getElem?_set_ne hij] at hb
      exact .inl ⟨b, hb, hisDue⟩

theorem beginAttempt (s : Scene τ ν) (whenEnded : List (Turn τ)) :
    Upholds s (s.beginAttempt whenEnded) := by
  refine of_attempts (List.subset_append_left _ _) ?_ rfl rfl rfl rfl rfl
  intro j b hb hisDue
  rcases Nat.lt_or_ge j s.attempts.length with hlt | hge
  · exact .inl ⟨b, (List.getElem?_append_left hlt).symm.trans hb, hisDue⟩
  · have hj : j = s.attempts.length := by
      have hlen := (List.getElem?_eq_some_iff.mp hb).1
      simp only [Scene.beginAttempt, enqueue_attempts, List.length_append,
        List.length_singleton] at hlen
      omega
    subst hj
    exact .inr (List.mem_append_right _ (List.mem_singleton_self _))

theorem cancelAttempt (s : Scene τ ν) : Upholds s s.cancelAttempt := by
  unfold Scene.cancelAttempt
  split
  · exact refl s
  · exact updateAttempt s _ _

theorem replyTo (s : Scene τ ν) (i : Nat) (next : Key.Behaviour) :
    Upholds s (s.replyTo i next) := updateAttempt s i _

/-! ### The submission -/

/-- The submission changes, and goes on by itself if it did before. -/
theorem of_submission (hqueue : s.queue ⊆ s'.queue) (hattempts : s'.attempts = s.attempts)
    (hsubmission : ∀ due, (∀ sub, s.submission = some sub → sub.Alive (due ++ s.queue) s.done) →
      ∀ sub', s'.submission = some sub' → sub'.Alive (due ++ s'.queue) s'.done)
    (hsome : s.submission.isSome = true → s'.submission.isSome = true)
    (hclosed : s'.closed = s.closed) (houtcome : s'.outcome = s.outcome)
    (hwhenClosed : s'.whenClosed = s.whenClosed) (hwhenDone : s'.whenDone = s.whenDone) :
    Upholds s s' := by
  -- all but the submission stays the same
  have hsame : Upholds s { s' with submission := s.submission } :=
    of_same hqueue hattempts rfl hclosed houtcome hwhenClosed hwhenDone
  refine ⟨hqueue, fun due h => ⟨(hsame.alive due h).attempts, hsubmission due h.submission⟩,
    hsame.closed, hsame.outcome, hsome, hsame.done⟩

/-- The submission comes to wait for the backend. -/
theorem awaitResponse (s : Scene τ ν) (number : Nat) (r : Http.Request) :
    Upholds s (s.updateSubmission fun _ => .waitingFor (.response number r)) := by
  unfold Scene.updateSubmission
  cases hsub : s.submission with
  | none => exact refl s
  | some sub =>
    refine of_submission (List.Subset.refl _) rfl ?_ (fun _ => rfl) rfl rfl rfl rfl
    intro due h sub' hsub'
    cases hsub'
    exact ⟨(h sub hsub).owned, rfl, trivial⟩

/-- The backend answers. -/
theorem respond (s : Scene τ ν) (o : Http.Outcome) : Upholds s (s.respond o) := by
  unfold Scene.respond Scene.updateSubmission
  cases hsub : s.submission with
  | none => exact refl s
  | some sub =>
    cases hw : sub.task.awaits? with
    | none =>
      simp only [hw, Bool.and_not_self, Bool.false_eq_true, if_false]
      exact of_same (List.Subset.refl _) rfl hsub.symm rfl rfl rfl rfl
    | some w =>
      cases w with
      | responded r o' =>
        simp only [hw, Bool.and_not_self, Bool.false_eq_true, if_false]
        exact of_same (List.Subset.refl _) rfl hsub.symm rfl rfl rfl rfl
      | response number r =>
        have hnotDue : sub.task.isDue = false := Task.isDue_of_awaits hw
        have hnow : (sub.task.wake (.responded r o)).isDue = true := by
          rw [Task.wake_of_awaits hw]
          rfl
        simp only [hw, hnotDue, hnow, Bool.not_false, Bool.and_self, if_true]
        refine of_submission (List.subset_append_left _ _) rfl ?_ (fun _ => rfl) rfl rfl rfl rfl
        intro due h sub' hsub'
        cases hsub'
        rw [Task.wake_of_awaits hw]
        refine ⟨(h sub hsub).owned, rfl, ?_⟩
        exact List.mem_append_right due (List.mem_append_right _ (List.mem_singleton_self _))

/-- The submission ends. The outcome is known, or somebody is going to see that there is none. -/
theorem endSubmission {how : Ending Unit} (hhow : s.done = true ∨ ∃ f, how = .failed f) :
    Upholds s (s.endSubmission how) := by
  unfold Scene.endSubmission
  cases hsub : s.submission with
  | none => exact refl s
  | some sub =>
    refine of_submission (List.subset_append_left _ _) rfl ?_ (fun _ => rfl) rfl rfl rfl rfl
    intro due h sub' hsub'
    cases hsub'
    have howned := (h sub hsub).owned
    refine ⟨howned, rfl, hhow.imp_right fun hf => ⟨hf, ?_⟩⟩
    exact List.mem_append_right due (List.mem_append_right _ howned)

/-! ### Stages -/

theorem shut (s : Scene τ ν) : Upholds s s.shut := by
  have hqueue : s.queue ⊆ s.shut.queue := List.subset_append_left _ _
  have hsame : Upholds s { s.shut with closed := s.closed, whenClosed := s.whenClosed } :=
    of_same hqueue rfl rfl rfl rfl rfl rfl
  refine ⟨hqueue, fun due h => ?_, fun due c h => ?_, hsame.outcome, id, id⟩
  · have h' := hsame.alive due h
    exact ⟨h'.attempts, h'.submission⟩
  · right
    refine ⟨rfl, ?_⟩
    rcases h with ⟨-, hin⟩ | ⟨-, hdue⟩
    · exact List.mem_append_right due (List.mem_append_right _ (List.mem_map_of_mem hin))
    · exact append_subset_append hqueue hdue

/-- The outcome is there. -/
theorem announce (s : Scene τ ν) (stage : Stage) (o : Except Failure Ticket) :
    Upholds s (Scene.announce { s with stage, outcome := some o }) := by
  have hqueue : s.queue ⊆ (Scene.announce { s with stage, outcome := some o }).queue :=
    List.subset_append_left _ _
  refine ⟨hqueue, fun due h => ⟨?_, ?_⟩, fun due c h => ?_, fun due c h => ?_, id, fun _ => rfl⟩
  · exact fun i a ha hisDue => append_subset_append hqueue (h.attempts i a ha hisDue)
  · exact fun sub hsub => (h.submission sub hsub).mono (append_subset_append hqueue) fun _ => rfl
  · exact h.imp_right fun ⟨hyes, hdue⟩ => ⟨hyes, append_subset_append hqueue hdue⟩
  · right
    refine ⟨rfl, ?_⟩
    rcases h with ⟨-, hin⟩ | ⟨-, hdue⟩
    · exact List.mem_append_right due (List.mem_append_right _ (List.mem_map_of_mem hin))
    · exact append_subset_append hqueue hdue

theorem reject (s : Scene τ ν) (f : Failure) : Upholds s (s.reject f) := by
  have hshut := shut s
  by_cases hdone : s.done = true
  · rwa [reject_of_done hdone]
  · rw [reject_of_not_done hdone]
    exact hshut.trans (announce s.shut .rejected (.error f))

theorem resolve (s : Scene τ ν) (t : Ticket) : Upholds s (s.resolve t) := by
  unfold Scene.resolve
  split
  · exact refl s
  · exact announce s .resolved (.ok t)

theorem keyFailed (s : Scene τ ν) (r : Key.Refusal) : Upholds s (s.keyFailed r) := by
  have herror : Upholds s { s with keyError := some r } :=
    of_same (List.Subset.refl _) rfl rfl rfl rfl rfl rfl
  unfold Scene.keyFailed
  dsimp only
  split
  · exact herror
  · exact herror.trans (reject _ _)

theorem accept (s : Scene τ ν) (p : Proof) (whenEnded : Turn τ) :
    Upholds s (s.accept p whenEnded) := by
  have hstage : Upholds s { s with stage := .submitting } :=
    of_same (List.Subset.refl _) rfl rfl rfl rfl rfl rfl
  have hshut := hstage.trans (shut _)
  have hsubmit (s : Scene τ ν) : Upholds s (Scene.enqueue
      { s with submission := some { proof := p, whenEnded := [.submissionEnded, whenEnded] } }
      [.submission]) := by
    refine of_submission (List.subset_append_left _ _) rfl ?_ (fun _ => rfl) rfl rfl rfl rfl
    intro due _ sub hsub
    cases hsub
    refine ⟨List.mem_cons_self, rfl, ?_⟩
    exact List.mem_append_right due (List.mem_append_right _ (List.mem_singleton_self _))
  unfold Scene.accept
  dsimp only
  split
  · exact hshut.trans (hsubmit _)
  · exact (hshut.trans (cancelAttempt _)).trans (hsubmit _)

/-! ### Turns -/

theorem conclude (s : Scene τ ν) (i : Nat) (r : Key.Reply) : Upholds s (s.conclude i r) := by
  cases r with
  | refused r => exact (keyFailed s r).trans (endAttempt _ i _)
  | crashed f => exact endAttempt s i _
  | assertion a =>
    unfold Scene.conclude
    dsimp only
    split
    · exact (accept s _ _).trans (updateAttempt _ i _)
    · exact endAttempt s i _

theorem proceed (s : Scene τ ν) (i request : Nat) (b : Key.Behaviour) :
    Upholds s (s.proceed i request b) := by
  have hnote := note s (b.proceed.1.map (.device request))
  unfold Scene.proceed
  dsimp only
  split
  · exact hnote.trans (conclude _ i _)
  · exact hnote.trans (endAttempt _ i _)
  · exact hnote.trans (updateAttempt _ i _)

theorem ask (s : Scene τ ν) (i : Nat) : Upholds s (s.ask i) := by
  unfold Scene.ask
  split
  · rename_i options _ _
    have hasked : Upholds s { s with asked := s.asked ++ [options] } :=
      of_same (List.Subset.refl _) rfl rfl rfl rfl rfl rfl
    exact (hasked.trans (note _ _)).trans (proceed _ i _ _)
  · exact conclude s i _

theorem runAttempt (s : Scene τ ν) (i : Nat) : Upholds s (s.runAttempt i) := by
  unfold Scene.runAttempt
  cases s.attempts[i]? with
  | none => exact refl s
  | some a =>
    dsimp only
    split
    · exact refl s
    · exact ask s i
    · exact proceed s i _ _
    · exact endAttempt s i _
    · exact (note s _).trans (proceed _ i _ _)
    · exact proceed s i _ _
    · exact endAttempt s i _
    · exact endAttempt s i _

theorem ended (s : Scene τ ν) (how : Option (Ending Unit)) : Upholds s (s.ended how) := by
  unfold Scene.ended
  split
  · split
    · exact refl s
    · exact reject s _
  · exact refl s

theorem settleSubmission (s : Scene τ ν) (result : Except Failure Ticket) :
    Upholds s (s.settleSubmission result) := by
  cases result with
  | ok t => exact (resolve s t).trans (endSubmission (.inl (done_resolve s t)))
  | error f =>
    unfold Scene.settleSubmission
    dsimp only
    split
    · exact (reject s f).trans (endSubmission (.inl (done_reject s f)))
    · exact endSubmission (.inr ⟨f, rfl⟩)

theorem receive (s : Scene τ ν) (r : Http.Request) (o : Http.Outcome) :
    Upholds s (s.receive r o) := by
  have hreceived : Upholds s { s with toOutside := s.toOutside.receive r o } :=
    of_same (List.Subset.refl _) rfl rfl rfl rfl rfl rfl
  exact hreceived.trans (settleSubmission _ _)

theorem submit (s : Scene τ ν) (p : Proof) : Upholds s (s.submit p) := by
  unfold Scene.submit
  split
  · exact settleSubmission s _
  · rename_i outside _
    have hsent : Upholds s { s with toOutside := outside } :=
      of_same (List.Subset.refl _) rfl rfl rfl rfl rfl rfl
    dsimp only
    split
    · exact (hsent.trans (note _ _)).trans (receive _ _ _)
    · exact (hsent.trans (note _ _)).trans (awaitResponse _ _ _)

theorem runSubmission (s : Scene τ ν) : Upholds s s.runSubmission := by
  unfold Scene.runSubmission
  cases s.submission with
  | none => exact refl s
  | some sub =>
    dsimp only
    split
    · exact submit s _
    · exact receive s _ _
    · exact refl s

/-- Every turn. -/
theorem run (s : Scene τ ν) (t : Turn τ) : Upholds s (s.run t) := by
  cases t with
  | attempt i => exact runAttempt s i
  | attemptEnded i => exact ended s _
  | attemptNotified i => exact updateAttempt s i _
  | submission => exact runSubmission s
  | submissionEnded => exact ended s _
  | caller t => exact refl s

/-! ### Guests -/

theorem close (s : Scene τ ν) : Upholds s s.close := by
  unfold Scene.close
  dsimp only
  split
  · exact shut s
  · have hcancelled := (shut s).trans (cancelAttempt s.shut)
    split
    · exact hcancelled
    · exact hcancelled.trans (reject _ _)

theorem act {a : Action} (h : s.act a = .ok s') : Upholds s s' := by
  cases a with
  | start =>
    cases h
    unfold Scene.start
    split
    · exact beginAttempt s []
    · exact refl s
  | select m =>
    have hturn (s : Scene τ ν) (stage : Stage) : Upholds s { s with active := m, stage } :=
      of_same (List.Subset.refl _) rfl rfl rfl rfl rfl rfl
    obtain ⟨-, -, ⟨-, rfl⟩ | ⟨-, -, rfl⟩ | ⟨-, -, rfl⟩⟩ := select_cases h
    · exact refl _
    · exact (cancelAttempt s).trans (hturn _ _)
    · exact hturn s _
  | input value =>
    obtain ⟨-, -, rfl⟩ := setInput_cases h
    exact of_same (List.Subset.refl _) rfl rfl rfl rfl rfl rfl
  | close =>
    cases h
    exact close s

theorem confirm {caller : τ} {waits : Bool} (h : s.confirm caller = .ok (waits, s')) :
    Upholds s s' := by
  obtain ⟨-, ⟨-, -, rfl⟩ | ⟨-, ⟨-, rfl⟩ | ⟨-, rfl⟩⟩⟩ := confirm_cases h
  · exact beginAttempt s _
  · have hcleared : Upholds s { s with inputError := none } :=
      of_same (List.Subset.refl _) rfl rfl rfl rfl rfl rfl
    exact hcleared.trans (accept _ _ _)
  · exact of_same (List.Subset.refl _) rfl rfl rfl rfl rfl rfl

theorem awaitClosed (s : Scene τ ν) (caller : τ) : Upholds s (s.awaitClosed caller).2 := by
  unfold Scene.awaitClosed
  split
  · exact refl s
  · refine ⟨List.Subset.refl _, fun due h => ⟨h.attempts, h.submission⟩, fun due c h => ?_,
      fun _ _ => id, id, id⟩
    exact h.imp_left fun ⟨hopen, hin⟩ => ⟨hopen, List.mem_append_left _ hin⟩

theorem awaitOutcome (s : Scene τ ν) (caller : τ) : Upholds s (s.awaitOutcome caller).2 := by
  unfold Scene.awaitOutcome
  split
  · exact refl s
  · refine ⟨List.Subset.refl _, fun due h => ⟨h.attempts, h.submission⟩, fun _ _ => id,
      fun due c h => ?_, id, id⟩
    exact h.imp_left fun ⟨hopen, hin⟩ => ⟨hopen, List.mem_append_left _ hin⟩

/-- Whatever guests do. -/
theorem visited {P : Action → Prop} (h : s.Visited P s') : Upholds s s' := by
  induction h with
  | refl s => exact refl s
  | trans _ _ ih ih' => exact ih.trans ih'
  | act _ h => exact act h
  | confirm h => exact confirm h
  | awaitClosed s caller => exact awaitClosed s caller
  | awaitOutcome s caller => exact awaitOutcome s caller
  | enqueue s t => exact enqueue s _
  | noted s n => exact note s _

end Upholds

end Scene

/-! ## What is taken -/

/-- A turn need not be due if nothing can go on by it. -/
theorem Alive.drop {t : Turn τ} {due : List (Turn τ)} {n : Negotiation τ} (h : n.Alive (t :: due))
    (hattempt : ∀ i a, t = .attempt i → n.attempts[i]? = some a → a.task.isDue = false)
    (hsubmission : t = .submission → ∀ sub, n.submission = some sub → sub.task.isDue = false)
    (hended : t = .submissionEnded →
      ∀ sub, n.submission = some sub → sub.task.isOver = true → n.done = true) : n.Alive due := by
  constructor
  · intro i a ha hisDue
    rcases List.mem_cons.mp (h.attempts i a ha hisDue) with heq | hin
    · rw [hattempt i a heq.symm ha] at hisDue
      cases hisDue
    · exact hin
  · intro sub hsub
    obtain ⟨howned, huncancelled, hstands⟩ := h.submission sub hsub
    have hnever (hisDue : sub.task.isDue = true) (hin : Turn.submission ∈ t :: due) :
        Turn.submission ∈ due := by
      rcases List.mem_cons.mp hin with heq | hin
      · rw [hsubmission heq.symm sub hsub] at hisDue
        cases hisDue
      · exact hin
    refine ⟨howned, huncancelled, ?_⟩
    split at hstands
    · rename_i hphase
      exact hnever (by simp [Task.isDue, hphase]) hstands
    · rename_i hphase
      exact hnever (by simp [Task.isDue, hphase]) hstands
    · trivial
    · rename_i how hphase
      have hover : sub.task.isOver = true := by simp [Task.isOver, Task.ending?, hphase]
      rcases hstands with hdone | ⟨hf, hin⟩
      · exact .inl hdone
      · rcases List.mem_cons.mp hin with heq | hin
        · exact .inl (hended heq.symm sub hsub hover)
        · exact .inr ⟨hf, hin⟩
    · exact hstands

namespace Scene

theorem getElem_updateAttempt (s : Scene τ ν) (i : Nat)
    (f : Task Attempt.Wait Unit → Task Attempt.Wait Unit) :
    (s.updateAttempt i f).attempts[i]? =
      s.attempts[i]?.map fun a => { a with task := f a.task } := by
  have hattempts : (s.updateAttempt i f).attempts = (s.toNegotiation.setTask i f).attempts :=
    congrArg Negotiation.attempts (s.toNegotiation_updateAttempt i f)
  rw [hattempts, setTask, List.getElem?_modify_eq]
  rfl

theorem getElem_endAttempt (s : Scene τ ν) (i : Nat) (how : Ending Unit) :
    (s.endAttempt i how).attempts[i]? =
      s.attempts[i]?.map fun a => { a with task := .finished how } := by
  have hattempts : (s.endAttempt i how).attempts =
      (s.toNegotiation.setTask i fun _ => .finished how).attempts :=
    congrArg Negotiation.attempts (s.toNegotiation_endAttempt i how)
  rw [hattempts, setTask, List.getElem?_modify_eq]
  rfl

theorem submission_updateSubmission (s : Scene τ ν)
    (f : Task Submission.Wait Unit → Task Submission.Wait Unit) :
    (s.updateSubmission f).submission =
      s.submission.map fun sub => { sub with task := f sub.task } :=
  congrArg Negotiation.submission (s.toNegotiation_updateSubmission f)

theorem submission_reject (s : Scene τ ν) (f : Failure) : (s.reject f).submission = s.submission :=
  (congrArg Negotiation.submission (s.toNegotiation_reject f)).trans
    (Keeps.reject s.toNegotiation f).submission

/-- Whether an attempt cannot go on by itself. -/
def Rests (s : Scene τ ν) (i : Nat) : Prop :=
  ∀ a, s.attempts[i]? = some a → a.task.isDue = false

theorem rests_updateAttempt (s : Scene τ ν) (i : Nat) {t : Task Attempt.Wait Unit}
    (ht : t.isDue = false) : (s.updateAttempt i fun _ => t).Rests i := by
  intro a ha
  rw [getElem_updateAttempt] at ha
  obtain ⟨b, -, rfl⟩ := Option.map_eq_some_iff.mp ha
  exact ht

theorem rests_endAttempt (s : Scene τ ν) (i : Nat) (how : Ending Unit) :
    (s.endAttempt i how).Rests i := by
  intro a ha
  rw [getElem_endAttempt] at ha
  obtain ⟨b, -, rfl⟩ := Option.map_eq_some_iff.mp ha
  rfl

theorem rests_conclude (s : Scene τ ν) (i : Nat) (r : Key.Reply) : (s.conclude i r).Rests i := by
  cases r with
  | refused r => exact rests_endAttempt _ i _
  | crashed f => exact rests_endAttempt s i _
  | assertion a =>
    unfold conclude
    dsimp only
    split
    · exact rests_updateAttempt _ i rfl
    · exact rests_endAttempt s i _

theorem rests_proceed (s : Scene τ ν) (i request : Nat) (b : Key.Behaviour) :
    (s.proceed i request b).Rests i := by
  unfold proceed
  dsimp only
  split
  · exact rests_conclude _ i _
  · exact rests_endAttempt _ i _
  · exact rests_updateAttempt _ i rfl

/-- An attempt goes on in its turn as far as it can. -/
theorem rests_runAttempt (s : Scene τ ν) (i : Nat) : (s.runAttempt i).Rests i := by
  unfold runAttempt
  cases ha : s.attempts[i]? with
  | none =>
    intro a ha'
    cases ha.symm.trans ha'
  | some a =>
    dsimp only
    split
    · rename_i hidle
      intro b hb
      cases ha.symm.trans hb
      exact Task.isDue_of_idle hidle
    · unfold ask
      split
      · exact rests_proceed _ i _ _
      · exact rests_conclude s i _
    · exact rests_proceed s i _ _
    · exact rests_endAttempt s i _
    · exact rests_proceed _ i _ _
    · exact rests_proceed s i _ _
    · exact rests_endAttempt s i _
    · exact rests_endAttempt s i _

theorem isDue_settleSubmission (s : Scene τ ν) (result : Except Failure Ticket)
    {sub : Submission τ} (hsub : (s.settleSubmission result).submission = some sub) :
    sub.task.isDue = false := by
  obtain ⟨n, how, -, heq⟩ := Keeps.settle s.toNegotiation result
  have hsettled :=
    congrArg Negotiation.submission ((s.toNegotiation_settleSubmission result).trans heq)
  obtain ⟨sub', -, rfl⟩ := Option.map_eq_some_iff.mp (hsettled.symm.trans hsub)
  rfl

theorem isDue_submit (s : Scene τ ν) (p : Proof) {sub : Submission τ}
    (hsub : (s.submit p).submission = some sub) : sub.task.isDue = false := by
  unfold submit at hsub
  split at hsub
  · exact isDue_settleSubmission s _ hsub
  · dsimp only at hsub
    split at hsub
    · exact isDue_settleSubmission _ _ hsub
    · rw [submission_updateSubmission] at hsub
      obtain ⟨sub', -, rfl⟩ := Option.map_eq_some_iff.mp hsub
      rfl

/-- The submission goes on in its turn as far as it can. -/
theorem isDue_runSubmission {s : Scene τ ν} {due : List (Turn τ)} (h : s.Alive due)
    {sub : Submission τ} (hsub : s.runSubmission.submission = some sub) :
    sub.task.isDue = false := by
  unfold runSubmission at hsub
  cases hold : s.submission with
  | none =>
    simp only [hold] at hsub
    cases hsub
  | some sub' =>
    obtain ⟨-, huncancelled, hstands⟩ := h.submission sub' hold
    obtain ⟨p, ⟨phase, cancelling⟩, whenEnded⟩ := sub'
    cases huncancelled
    simp only [hold] at hsub
    cases phase with
    | ready =>
      dsimp only [Task.start] at hsub
      exact isDue_submit s p hsub
    | waiting w =>
      cases hold.symm.trans hsub
      rfl
    | woken w =>
      cases w with
      | response _ _ => exact hstands.elim
      | responded r o => exact isDue_settleSubmission _ _ hsub
    | ended how =>
      cases hold.symm.trans hsub
      rfl

theorem submission_ended (s : Scene τ ν) (how : Option (Ending Unit)) :
    (s.ended how).submission = s.submission := by
  unfold ended
  split
  · split
    · rfl
    · exact submission_reject s _
  · rfl

/-- When the end of a submission was seen, there is an outcome. -/
theorem done_ended {s : Scene τ ν} {due : List (Turn τ)} (h : s.Alive due) {sub : Submission τ}
    (hsub : s.submission = some sub) (hover : sub.task.isOver = true) :
    (s.ended (s.submission.bind (·.task.ending?))).done = true := by
  obtain ⟨how, hhow⟩ := Option.isSome_iff_exists.mp hover
  obtain ⟨-, -, hstands⟩ := h.submission sub hsub
  rw [Task.phase_of_ending hhow] at hstands
  rw [hsub, Option.bind_some, hhow]
  rcases hstands with hdone | ⟨⟨f, rfl⟩, -⟩
  · exact (Upholds.ended s _).done hdone
  · unfold ended
    dsimp only
    split
    · assumption
    · exact done_reject s _

/-- A turn that is taken was due, and need not be so any more. -/
theorem alive_run {s : Scene τ ν} {t : Turn τ} {due : List (Turn τ)}
    (h : s.Alive (t :: due ++ s.queue)) : (s.run t).Alive (due ++ (s.run t).queue) := by
  refine ((Upholds.run s t).alive (t :: due) h).drop ?_ ?_ ?_
  · rintro i a rfl ha
    exact rests_runAttempt s i a ha
  · rintro rfl sub hsub
    exact isDue_runSubmission h hsub
  · rintro rfl sub hsub hover
    have hsame : s.submission = some sub := (submission_ended s _).symm.trans hsub
    exact done_ended h hsame hover

end Scene

end SecondFactor.Negotiation
