import SecondFactor.Proofs.Negotiation.Moves

/-! # What changes leave as it is

Most changes touch little of what the making of a proof depends on: they end attempts, wake them, or
settle the outcome. -/

namespace SecondFactor.Negotiation

variable {τ : Type}

/-- An attempt that has not got a reply yet is not over. -/
theorem Attempt.isOver_of_isUnanswered {a : Attempt τ} (h : a.isUnanswered = true) :
    a.task.isOver = false := by
  obtain ⟨⟨phase, cancelling⟩, whenEnded⟩ := a
  cases phase <;> simp_all [isUnanswered, Task.isOver, Task.ending?]

/-- Whether an attempt neither comes back to life nor waits for another reply. -/
structure Attempt.Calms (a a' : Attempt τ) : Prop where
  ended : a'.task.isOver = false → a.task.isOver = false
  answered : a'.isUnanswered = true → a.isUnanswered = true

/-- Whether all that the making of a proof depends on is the same, but that no proof may be wanted
any more. As long as one is, the outcome is the same, too. -/
structure Keeps (n n' : Negotiation τ) : Prop where
  userid : n'.userid = n.userid
  ticket : n'.ticket = n.ticket
  challenge : n'.challenge = n.challenge
  available : n'.available = n.available
  active : n'.active = n.active
  inputs : n'.inputs = n.inputs
  current : n'.current = n.current
  attempts : ∀ (i : Nat) a', n'.attempts[i]? = some a' →
    ∃ a, n.attempts[i]? = some a ∧ Attempt.Calms a a'
  submission : n'.submission = n.submission
  closing : n'.stage.isOpen = true → n.stage.isOpen = true ∧ n'.outcome = n.outcome

namespace Keeps

theorem refl (n : Negotiation τ) : Keeps n n :=
  ⟨rfl, rfl, rfl, rfl, rfl, rfl, rfl, fun _ a ha => ⟨a, ha, id, id⟩, rfl, (⟨·, rfl⟩)⟩

theorem trans {n n' n'' : Negotiation τ} (h : Keeps n n') (h' : Keeps n' n'') : Keeps n n'' where
  userid := h'.userid.trans h.userid
  ticket := h'.ticket.trans h.ticket
  challenge := h'.challenge.trans h.challenge
  available := h'.available.trans h.available
  active := h'.active.trans h.active
  inputs := h'.inputs.trans h.inputs
  current := h'.current.trans h.current
  attempts := by
    intro i a'' ha''
    obtain ⟨a', ha', hcalms'⟩ := h'.attempts i a'' ha''
    obtain ⟨a, ha, hcalms⟩ := h.attempts i a' ha'
    exact ⟨a, ha, hcalms.ended ∘ hcalms'.ended, hcalms.answered ∘ hcalms'.answered⟩
  submission := h'.submission.trans h.submission
  closing := by
    intro hopen
    obtain ⟨hopen', houtcome'⟩ := h'.closing hopen
    obtain ⟨hopen'', houtcome⟩ := h.closing hopen'
    exact ⟨hopen'', houtcome'.trans houtcome⟩

/-- Those who wait do not matter, nor does what a dialog shows. -/
theorem aside (n : Negotiation τ) (whenClosed whenDone : List τ) (inputError : Option Method)
    (keyError : Option Key.Refusal) (closed : Bool) :
    Keeps n { n with whenClosed, whenDone, inputError, keyError, closed } :=
  { refl n with }

/-- No proof is wanted any more. -/
theorem stage (n : Negotiation τ) (stage : Stage) (h : stage.isOpen = false)
    (outcome : Option (Except Failure Ticket)) : Keeps n { n with stage, outcome } :=
  { refl n with
    closing := by
      intro hopen
      rw [h] at hopen
      cases hopen }

theorem shut (n : Negotiation τ) : Keeps n n.shut := aside n [] _ _ _ true

theorem reject (n : Negotiation τ) (f : Failure) : Keeps n (n.reject f) := by
  unfold Negotiation.reject
  split
  · exact shut n
  · exact (stage n .rejected rfl (some (.error f))).trans (aside _ [] [] _ _ true)

theorem resolve (n : Negotiation τ) (t : Ticket) : Keeps n (n.resolve t) := by
  unfold Negotiation.resolve
  split
  · exact refl n
  · exact (stage n .resolved rfl (some (.ok t))).trans (aside _ _ [] _ _ _)

theorem keyFailed (n : Negotiation τ) (r : Key.Refusal) : Keeps n (n.keyFailed r) := by
  have herror : Keeps n { n with keyError := some r } := aside n _ _ _ (some r) _
  unfold Negotiation.keyFailed
  dsimp only
  split
  · exact herror
  · exact herror.trans (reject _ _)

theorem notice (n : Negotiation τ) (f : Failure) : Keeps n (n.notice f) := by
  unfold Negotiation.notice
  split
  · exact refl n
  · exact reject n _

/-- The end of a call of the ticket service ends the submission, or leaves it to fail, and no more
happens to the proof. -/
theorem settle (n : Negotiation τ) (result : Except Failure Ticket) :
    ∃ n' how, Keeps n n' ∧ n.settle result = n'.setSubmission fun _ => .finished how := by
  unfold Negotiation.settle
  cases result with
  | ok t => exact ⟨_, _, resolve n t, rfl⟩
  | error f =>
    dsimp only
    split
    · exact ⟨_, _, reject n f, rfl⟩
    · exact ⟨_, _, refl n, rfl⟩

/-! ## Attempts -/

/-- The task of one attempt changes. -/
theorem setTask (n : Negotiation τ) (i : Nat) (f : Task Attempt.Wait Unit → Task Attempt.Wait Unit)
    (hf : ∀ a, n.attempts[i]? = some a → Attempt.Calms a { a with task := f a.task }) :
    Keeps n (n.setTask i f) :=
  { refl n with
    attempts := by
      intro j a' ha'
      rw [Negotiation.setTask, List.getElem?_modify] at ha'
      obtain ⟨a, ha, rfl⟩ := Option.map_eq_some_iff.mp ha'
      refine ⟨a, ha, ?_⟩
      by_cases hij : i = j
      · rw [if_pos hij]
        exact hf a (hij ▸ ha)
      · rw [if_neg hij]
        exact ⟨id, id⟩ }

/-- An attempt ends. -/
theorem ends (n : Negotiation τ) (i : Nat) (how : Ending Unit) :
    Keeps n (n.setTask i fun _ => .finished how) := by
  apply setTask
  intro a _
  constructor <;> simp [Task.finished, Task.isOver, Task.ending?, Attempt.isUnanswered]

/-- An attempt that has no reply yet waits for something. -/
theorem awaits (n : Negotiation τ) {i : Nat} {a : Attempt τ} (on : Attempt.Wait)
    (ha : n.attempts[i]? = some a) (hu : a.isUnanswered = true) :
    Keeps n (n.setTask i fun _ => .waitingFor on) := by
  apply setTask
  intro a' ha'
  rw [ha] at ha'
  cases ha'
  exact ⟨fun _ => Attempt.isOver_of_isUnanswered hu, fun _ => hu⟩

/-- An attempt learns what came of what it waits for. -/
theorem wakes (n : Negotiation τ) {i : Nat} {news : Attempt.Wait}
    (hnews : news = .submission ∨ ∃ request next onLateCancel,
      news = .replied request next onLateCancel ∧
        ∃ a, n.attempts[i]? = some a ∧ a.isUnanswered = true) :
    Keeps n (n.setTask i (Task.wake news)) := by
  apply setTask
  intro a' ha'
  have hover : (a'.task.wake news).isOver = false → a'.task.isOver = false := by
    obtain ⟨⟨phase, cancelling⟩, whenEnded⟩ := a'
    cases phase <;> cases cancelling <;> simp [Task.wake, Task.isOver, Task.ending?]
  refine ⟨hover, ?_⟩
  obtain rfl | ⟨request, next, onLateCancel, rfl, a, ha, hu⟩ := hnews
  · obtain ⟨⟨phase, cancelling⟩, whenEnded⟩ := a'
    cases phase <;> cases cancelling <;> simp [Task.wake, Attempt.isUnanswered]
  · rw [ha] at ha'
    cases ha'
    exact fun _ => hu

theorem cancelKey (n : Negotiation τ) : Keeps n n.cancelKey := by
  unfold Negotiation.cancelKey
  cases n.current with
  | none => exact refl n
  | some i =>
    apply setTask
    intro a _
    obtain ⟨⟨phase, cancelling⟩, whenEnded⟩ := a
    constructor <;> cases phase <;>
      simp [Task.cancel, Task.isOver, Task.ending?, Attempt.isUnanswered]

theorem closes (n : Negotiation τ) :
    Keeps n (if n.submission.isSome then n.shut
      else if n.done then n.shut.cancelKey
      else n.shut.cancelKey.reject (.plain (.ofKind .cancelled))) := by
  have hcancel := (shut n).trans (cancelKey n.shut)
  split
  · exact shut n
  · split
    · exact hcancel
    · exact hcancel.trans (reject _ _)

/-- An accepted proof is only the beginning of a submission. -/
theorem accept (n : Negotiation τ) (p : Proof) (whenEnded : Turn τ) :
    ∃ n', Keeps n n' ∧ n'.stage = .submitting ∧ n'.outcome = n.outcome ∧
      n.accept p whenEnded =
        { n' with submission := some { proof := p, whenEnded := [.submissionEnded, whenEnded] } } := by
  have hshut : Keeps n { n.shut with stage := .submitting } :=
    (shut n).trans (stage n.shut .submitting rfl n.outcome)
  unfold Negotiation.accept
  dsimp only
  split
  · exact ⟨_, hshut, rfl, rfl, rfl⟩
  · have houtcome : (Negotiation.cancelKey { n.shut with stage := .submitting }).outcome =
        n.outcome := by
      rw [cancelKey_outcome]
      rfl
    exact ⟨_, hshut.trans (cancelKey _), by simp, houtcome, rfl⟩

end Keeps

/-- A proof by a security key is accepted whatever its attempt does next. -/
theorem setTask_accept (n : Negotiation τ) {p : Proof} (hp : p.method = .webauthn)
    (whenEnded : Turn τ) (i : Nat) (f : Task Attempt.Wait Unit → Task Attempt.Wait Unit) :
    (n.accept p whenEnded).setTask i f = (n.setTask i f).accept p whenEnded := by
  unfold accept
  simp only [if_pos hp]
  rfl

/-! ## What changes do beside that -/

/-- What a change does to what the making of a proof depends on. A proof that is accepted is the input
of the active text method, or what a security key asserts. -/
inductive Effect (n : Negotiation τ) (es : List Happening) : Negotiation τ → Prop where
  | keeps {n' : Negotiation τ} (hk : Keeps n n') : Effect n es n'
  | begins (whenEnded : List (Turn τ)) : Effect n es (n.begin whenEnded)
  | selects {m : Negotiation τ} (hk : Keeps n m) (active : Method) (stage : Stage) :
      Effect n es { m with active, stage }
  | tells (inputs : Method → Option String) (inputError : Option Method) (stage : Stage) :
      Effect n es { n with inputs, inputError, stage }
  | accepts {m : Negotiation τ} (hk : Keeps n m) (hopen : n.stage.isOpen = true) (p : Proof)
      (whenEnded : Turn τ)
      (hp : n.active.takesText = true ∧ p = ⟨n.active, n.input n.active⟩ ∨
        ∃ assertion, es = [.replied (.assertion assertion)] ∧ p = assertion.proof n.keyText) :
      Effect n es
        { m with submission := some { proof := p, whenEnded := [.submissionEnded, whenEnded] } }
  | submits {m : Negotiation τ} (hk : Keeps n m) (sub : Submission τ) (hsub : n.submission = some sub)
      (f : Task Submission.Wait Unit → Task Submission.Wait Unit) : Effect n es (m.setSubmission f)

theorem Change.effect {n n' : Negotiation τ} {es : List Happening} (hc : Change n es n') :
    Effect n es n' := by
  have hsettle {sub : Submission τ} (hsub : n.submission = some sub)
      (result : Except Failure Ticket) : Effect n es (n.settle result) := by
    obtain ⟨m, how, hk, heq⟩ := Keeps.settle n result
    rw [heq]
    exact .submits hk sub hsub _
  cases hc with
  | starts =>
    split
    · exact .begins []
    · exact .keeps (.refl n)
  | retries => exact .begins _
  | idle => exact .keeps (.refl n)
  | waits | mistypes => exact .keeps (.aside n _ _ _ _ _)
  | selects m =>
    refine .selects (m := if n.active = .webauthn then n.cancelKey else n) ?_ m _
    split
    · exact .cancelKey n
    · exact .refl n
  | told => exact .tells _ _ _
  | closes => exact .keeps (.closes n)
  | confirms caller hopen htext =>
    obtain ⟨m, hk, -, -, heq⟩ :=
      Keeps.accept { n with inputError := none } ⟨n.active, n.input n.active⟩ (.caller caller)
    have hnone : Keeps n { n with inputError := none } := .aside n _ _ none _ _
    rw [heq]
    exact .accepts (hnone.trans hk) hopen _ _ (.inl ⟨htext, rfl⟩)
  | asks _ _ _ _ _ ha hu => exact .keeps (.awaits n _ ha hu)
  | refused i _ r => exact .keeps ((Keeps.keyFailed n r).trans (.ends _ i _))
  | keyCrashed i | assertsLate i | stops i => exact .keeps (.ends n i _)
  | asserts i a assertion ha hu hopen =>
    rw [setTask_accept n rfl]
    obtain ⟨m, hk, -, -, heq⟩ := Keeps.accept (n.setTask i fun _ => .waitingFor .submission)
      (assertion.proof n.keyText) (.attemptNotified i)
    have hawaits : Keeps n (n.setTask i fun _ => .waitingFor .submission) := .awaits n _ ha hu
    rw [heq]
    exact .accepts (hawaits.trans hk) hopen _ _ (.inr ⟨assertion, rfl, rfl⟩)
  | wakes _ _ hnews => exact .keeps (.wakes n hnews)
  | notices _ f => exact .keeps (.notice n f)
  | sends sub _ _ hsub | responds sub _ _ _ hsub => exact .submits (.refl n) sub hsub _
  | exchanges _ _ _ _ _ hsub | balks _ _ hsub | receives _ _ _ _ hsub => exact hsettle hsub _

/-- A proof that is submitted stays the one that is. -/
theorem Effect.submission {n n' : Negotiation τ} {es : List Happening} (he : Effect n es n')
    (hwanting : n.stage.isOpen = true → n.submission = none) {sub : Submission τ}
    (hsub : n.submission = some sub) :
    ∃ sub', n'.submission = some sub' ∧ sub'.proof = sub.proof := by
  cases he with
  | keeps hk | selects hk => exact ⟨sub, hk.submission.trans hsub, rfl⟩
  | begins | tells => exact ⟨sub, hsub, rfl⟩
  | accepts hk hopen =>
    rw [hwanting hopen] at hsub
    cases hsub
  | submits hk _ _ f =>
    refine ⟨{ sub with task := f sub.task }, ?_, rfl⟩
    simp only [setSubmission, hk.submission, hsub, Option.map_some]

end SecondFactor.Negotiation
