import SecondFactor.Proofs.Negotiation.Due
import SecondFactor.Proofs.Negotiation.Flight

/-! # Attempts that wait for the submission of their proof

An attempt whose assertion was accepted waits until the submission of that proof has ended, and is
told of it then. A submission waits for nobody: it is under way as long as the attempt waits. So the
two are linked, and the link is cut by nothing else, since an attempt is only cancelled while there
is no proof. -/

namespace SecondFactor.Negotiation

variable {τ ν : Type}

/-- Whether a task waits for nothing but the reply to its request, if it waits at all. -/
def Attempt.free (t : Task Attempt.Wait Unit) : Bool :=
  match t.phase with
  | .waiting (.reply ..) => true
  | .waiting _ => false
  | .ready | .woken _ | .ended _ => true

/-- Whether a submission is one of a proof by the security key whose end attempt `i` is told of,
given the turns that are due. -/
structure Submission.Tells (due : List (Turn τ)) (i : Nat) (sub : Submission τ) : Prop where
  method : sub.proof.method = .webauthn
  owned : .attemptNotified i ∈ sub.whenEnded
  told : sub.task.isOver = true → .attemptNotified i ∈ due

/-- Whether attempts that wait for the submission of their proof are told of its end, and one does
so while such a proof is being submitted, given the turns that are due. -/
structure Linked (due : List (Turn τ)) (n : Negotiation τ) : Prop where
  attempts : ∀ (i : Nat) a, n.attempts[i]? = some a → Attempt.free a.task = true ∨
    a.task.awaits? = some .submission ∧ ∃ sub, n.submission = some sub ∧ sub.Tells due i
  submission : ∀ sub, n.submission = some sub → sub.proof.method = .webauthn →
    sub.task.isOver = false →
      ∃ (i : Nat) (a : Attempt τ), n.attempts[i]? = some a ∧ a.task.awaits? = some .submission

namespace Attempt

variable {t : Task Attempt.Wait Unit}

theorem awaits_ne_of_free (h : free t = true) : t.awaits? ≠ some .submission := by
  intro hw
  rw [free, Task.phase_of_awaits hw] at h
  cases h

theorem awaits_ne_of_start (h : t.start ≠ .idle) : t.awaits? ≠ some .submission := by
  obtain ⟨phase, cancelling⟩ := t
  cases phase <;> cases cancelling <;> simp_all [Task.start, Task.awaits?]

theorem free_cancel (h : free t = true) : free t.cancel = true := by
  rwa [free, Task.phase_cancel]

theorem free_wake {on news : Attempt.Wait} (h : t.awaits? = some on) :
    free (t.wake news) = true := by
  rw [Task.wake_of_awaits h]
  rfl

end Attempt

/-! ## What a negotiation does about it -/

namespace Linked

variable {n : Negotiation τ} {due due' : List (Turn τ)} {i : Nat}

theorem mono (h : n.Linked due) (hdue : due ⊆ due') : n.Linked due' := by
  refine ⟨fun i a ha => ?_, h.submission⟩
  refine (h.attempts i a ha).imp_right fun ⟨hw, sub, hsub, htells⟩ => ⟨hw, sub, hsub, ?_⟩
  exact ⟨htells.method, htells.owned, fun hover => hdue (htells.told hover)⟩

/-- A turn in which no attempt is told of anything need not be due. -/
theorem drop {t : Turn τ} (h : n.Linked (t :: due)) (ht : ∀ i, t ≠ .attemptNotified i) :
    n.Linked due := by
  refine ⟨fun i a ha => ?_, h.submission⟩
  refine (h.attempts i a ha).imp_right fun ⟨hw, sub, hsub, htells⟩ => ⟨hw, sub, hsub, ?_⟩
  exact ⟨htells.method, htells.owned, fun hover =>
    List.mem_of_ne_of_mem (ht i).symm (htells.told hover)⟩

theorem of_free (hattempts : ∀ a ∈ n.attempts, Attempt.free a.task = true)
    (hsubmission : ∀ sub, n.submission = some sub → sub.proof.method ≠ .webauthn) :
    n.Linked due :=
  ⟨fun _ _ ha => .inl (hattempts _ (List.mem_of_getElem? ha)),
    fun sub hsub hmethod => absurd hmethod (hsubmission sub hsub)⟩

/-- Without a proof no attempt waits for its submission. -/
theorem free_of_none (h : n.Linked due) (hsub : n.submission = none) {a : Attempt τ}
    (ha : a ∈ n.attempts) : Attempt.free a.task = true := by
  obtain ⟨i, hi⟩ := List.mem_iff_getElem?.mp ha
  rcases h.attempts i a hi with hfree | ⟨-, sub, hsome, -⟩
  · exact hfree
  · cases hsub.symm.trans hsome

/-- The task of an attempt changes that does not wait for the submission, and does not do so
then. -/
theorem setTask (h : n.Linked due) {f : Task Attempt.Wait Unit → Task Attempt.Wait Unit}
    (hold : ∀ a, n.attempts[i]? = some a → a.task.awaits? ≠ some .submission)
    (hnew : ∀ a, n.attempts[i]? = some a → Attempt.free (f a.task) = true) :
    (n.setTask i f).Linked due := by
  refine ⟨fun j a' ha' => ?_, fun sub hsub hmethod hover => ?_⟩
  · rw [Negotiation.setTask, List.getElem?_modify] at ha'
    obtain ⟨a, ha, rfl⟩ := Option.map_eq_some_iff.mp ha'
    by_cases hij : i = j
    · subst hij
      rw [if_pos rfl]
      exact .inl (hnew a ha)
    · rw [if_neg hij]
      exact h.attempts j a ha
  · obtain ⟨j, a, ha, hw⟩ := h.submission sub hsub hmethod hover
    refine ⟨j, a, ?_, hw⟩
    have hij : i ≠ j := by
      rintro rfl
      exact hold a ha hw
    exact (List.getElem?_modify_ne _ _ hij).trans ha

theorem cancelKey (h : n.Linked due) (hsub : n.submission = none) : n.cancelKey.Linked due := by
  unfold Negotiation.cancelKey
  split
  · exact h
  · refine h.setTask (fun a ha => ?_) fun a ha => ?_
    · exact Attempt.awaits_ne_of_free (h.free_of_none hsub (List.mem_of_getElem? ha))
    · exact Attempt.free_cancel (h.free_of_none hsub (List.mem_of_getElem? ha))

/-- The input of a text method is accepted as a proof. -/
theorem accept (h : n.Linked due) (hsub : n.submission = none) {p : Proof}
    (hp : p.method ≠ .webauthn) (whenEnded : Turn τ) : (n.accept p whenEnded).Linked due := by
  have hshut : (Negotiation.cancelKey { n.shut with stage := .submitting }).Linked due :=
    cancelKey ⟨h.attempts, h.submission⟩ hsub
  have hnone : (Negotiation.cancelKey { n.shut with stage := .submitting }).submission = none :=
    (Keeps.cancelKey _).submission.trans hsub
  unfold Negotiation.accept
  simp only [if_neg hp]
  refine of_free (fun a ha => hshut.free_of_none hnone ha) fun sub hsub => ?_
  cases hsub
  exact hp

/-- An assertion is accepted as a proof, and its attempt waits for the submission. -/
theorem asserts (h : n.Linked due) (hsub : n.submission = none) {a : Attempt τ}
    (ha : n.attempts[i]? = some a) {p : Proof} (hp : p.method = .webauthn) :
    ((n.accept p (.attemptNotified i)).setTask i fun _ => .waitingFor .submission).Linked due := by
  have hattempts : (n.accept p (.attemptNotified i)).attempts = n.attempts := by
    simp only [Negotiation.accept, if_pos hp]
    rfl
  have hsubmission : (n.accept p (.attemptNotified i)).submission =
      some { proof := p, whenEnded := [.submissionEnded, .attemptNotified i] } := by
    simp only [Negotiation.accept, if_pos hp]
  have hwaits : ((n.accept p (.attemptNotified i)).setTask i
      fun _ => .waitingFor .submission).attempts[i]? =
        some { a with task := .waitingFor .submission } := by
    rw [Negotiation.setTask, List.getElem?_modify_eq, hattempts, ha]
    rfl
  refine ⟨fun j b hb => ?_, fun _ _ _ _ => ⟨i, _, hwaits, rfl⟩⟩
  rw [Negotiation.setTask, List.getElem?_modify, hattempts] at hb
  obtain ⟨b, hold, rfl⟩ := Option.map_eq_some_iff.mp hb
  by_cases hij : i = j
  · subst hij
    rw [if_pos rfl]
    exact .inr ⟨rfl, _, hsubmission, hp, .tail _ (.head _), fun hover => by cases hover⟩
  · rw [if_neg hij]
    exact .inl (h.free_of_none hsub (List.mem_of_getElem? hold))

/-- Another attempt begins. -/
theorem begin (h : n.Linked due) (whenEnded : List (Turn τ)) : (n.begin whenEnded).Linked due := by
  refine ⟨fun i a ha => ?_, fun sub hsub hmethod hover => ?_⟩
  · rcases Nat.lt_or_ge i n.attempts.length with hlt | hge
    · exact h.attempts i a ((List.getElem?_append_left hlt).symm.trans ha)
    · have ha : (n.attempts ++ [_])[i]? = some a := ha
      rw [List.getElem?_append_right hge] at ha
      cases List.mem_singleton.mp (List.mem_of_getElem? ha)
      exact .inl rfl
  · obtain ⟨j, a, ha, hw⟩ := h.submission sub hsub hmethod hover
    have hlt : j < n.attempts.length := (List.getElem?_eq_some_iff.mp ha).1
    exact ⟨j, a, (List.getElem?_append_left hlt).trans ha, hw⟩

/-- An attempt is told that the submission has ended. -/
theorem notified (h : n.Linked (.attemptNotified i :: due))
    (hover : ∀ sub, n.submission = some sub → sub.task.isOver = true) :
    (n.setTask i (Task.wake .submission)).Linked due := by
  refine ⟨fun j b hb => ?_, fun sub hsub _ hlive => ?_⟩
  · rw [Negotiation.setTask, List.getElem?_modify] at hb
    obtain ⟨a, ha, rfl⟩ := Option.map_eq_some_iff.mp hb
    by_cases hij : i = j
    · subst hij
      rw [if_pos rfl]
      left
      cases hw : a.task.awaits? with
      | some on => exact Attempt.free_wake hw
      | none =>
        rw [Task.wake_of_awaits_none _ hw]
        obtain hfree | ⟨hsome, -⟩ := h.attempts i a ha
        · exact hfree
        · cases hw.symm.trans hsome
    · rw [if_neg hij]
      obtain hfree | ⟨hw, sub, hsub, htells⟩ := h.attempts j a ha
      · exact .inl hfree
      · refine .inr ⟨hw, sub, hsub, htells.method, htells.owned, fun hended => ?_⟩
        refine List.mem_of_ne_of_mem (fun heq => hij ?_) (htells.told hended)
        cases heq
        rfl
  · cases (hover sub hsub).symm.trans hlive

end Linked

/-! ## What a scene does about it -/

namespace Scene

/-- Whether attempts are linked to the submission in one scene if they are so in another, whatever
else is due. -/
def Links (s s' : Scene τ ν) : Prop :=
  ∀ due, s.Linked (due ++ s.queue) → s'.Linked (due ++ s'.queue)

namespace Links

variable {s s' s'' : Scene τ ν}

theorem refl (s : Scene τ ν) : Links s s := fun _ => id

theorem trans (h : Links s s') (h' : Links s' s'') : Links s s'' := fun due => h' due ∘ h due

theorem of_linked (hqueue : s.queue ⊆ s'.queue) (h : ∀ due, s.Linked due → s'.Linked due) :
    Links s s' :=
  fun _ hs => (h _ hs).mono (append_subset_append hqueue)

/-- Neither the attempts nor the submission change. -/
theorem of_same (hqueue : s.queue ⊆ s'.queue) (hattempts : s'.attempts = s.attempts)
    (hsubmission : s'.submission = s.submission) : Links s s' := by
  refine of_linked hqueue fun due h => ⟨?_, ?_⟩
  · rw [hattempts, hsubmission]
    exact h.attempts
  · rw [hattempts, hsubmission]
    exact h.submission

theorem note (s : Scene τ ν) (es : List (Event ν)) : Links s (s.note es) :=
  of_same (List.Subset.refl _) rfl rfl

theorem shut (s : Scene τ ν) : Links s s.shut := of_same (Upholds.shut s).queue rfl rfl

theorem reject (s : Scene τ ν) (f : Failure) : Links s (s.reject f) := by
  refine of_same (Upholds.reject s f).queue ?_ (submission_reject s f)
  exact (congrArg Negotiation.attempts (s.toNegotiation_reject f)).trans (reject_attempts _ f)

theorem resolve (s : Scene τ ν) (t : Ticket) : Links s (s.resolve t) := by
  have h := s.toNegotiation_resolve t
  refine of_same (Upholds.resolve s t).queue ?_ ?_
  · exact (congrArg Negotiation.attempts h).trans (resolve_attempts _ t)
  · exact (congrArg Negotiation.submission h).trans (Keeps.resolve _ t).submission

theorem keyFailed (s : Scene τ ν) (r : Key.Refusal) : Links s (s.keyFailed r) := by
  have h := s.toNegotiation_keyFailed r
  refine of_same (Upholds.keyFailed s r).queue ?_ ?_
  · exact (congrArg Negotiation.attempts h).trans (keyFailed_attempts _ r)
  · exact (congrArg Negotiation.submission h).trans (Keeps.keyFailed _ r).submission

theorem ended (s : Scene τ ν) (how : Option (Ending Unit)) : Links s (s.ended how) := by
  unfold Scene.ended
  split
  · split
    · exact refl s
    · exact reject s _
  · exact refl s

/-! ### Attempts -/

theorem updateAttempt (s : Scene τ ν) (i : Nat)
    {f : Task Attempt.Wait Unit → Task Attempt.Wait Unit}
    (hold : ∀ a, s.attempts[i]? = some a → a.task.awaits? ≠ some .submission)
    (hnew : ∀ a, s.attempts[i]? = some a → Attempt.free (f a.task) = true) :
    Links s (s.updateAttempt i f) := by
  refine of_linked (Upholds.updateAttempt s i f).queue fun due h => ?_
  rw [toNegotiation_updateAttempt]
  exact h.setTask hold hnew

theorem endAttempt (s : Scene τ ν) (i : Nat) (how : Ending Unit)
    (hold : ∀ a, s.attempts[i]? = some a → a.task.awaits? ≠ some .submission) :
    Links s (s.endAttempt i how) := by
  refine of_linked (Upholds.endAttempt s i how).queue fun due h => ?_
  rw [toNegotiation_endAttempt]
  exact h.setTask hold fun _ _ => rfl

theorem beginAttempt (s : Scene τ ν) (whenEnded : List (Turn τ)) :
    Links s (s.beginAttempt whenEnded) :=
  of_linked (Upholds.beginAttempt s whenEnded).queue fun _ h => h.begin whenEnded

theorem cancelAttempt (hsub : s.submission = none) : Links s s.cancelAttempt := by
  refine of_linked (Upholds.cancelAttempt s).queue fun due h => ?_
  rw [toNegotiation_cancelAttempt]
  exact h.cancelKey hsub

/-- A reply comes for a request that still waits for one. -/
theorem replyTo (s : Scene τ ν) (i : Nat) (next : Key.Behaviour) : Links s (s.replyTo i next) := by
  obtain heq | ⟨a, request, onCancel, onLateCancel, ha, hw, heq⟩ := s.replyTo_cases i next <;>
    rw [heq]
  · exact refl s
  · refine updateAttempt s i (fun b hb => ?_) fun b hb => ?_ <;> cases ha.symm.trans hb
    · simp [hw]
    · exact Attempt.free_wake hw

/-! ### The submission -/

theorem updateSubmission (s : Scene τ ν) {f : Task Submission.Wait Unit → Task Submission.Wait Unit}
    (hf : ∀ sub, s.submission = some sub → (f sub.task).isOver = sub.task.isOver) :
    Links s (s.updateSubmission f) := by
  have hqueue : s.queue ⊆ (s.updateSubmission f).queue := by
    unfold Scene.updateSubmission
    split
    · exact List.Subset.refl _
    · dsimp only
      split
      · exact List.subset_append_left _ _
      · exact List.Subset.refl _
  refine of_linked hqueue fun due h => ?_
  rw [toNegotiation_updateSubmission]
  refine ⟨fun i a ha => ?_, fun sub' hsub' hmethod hover => ?_⟩
  · refine (h.attempts i a ha).imp_right fun ⟨hw, sub, hsub, htells⟩ =>
      ⟨hw, { sub with task := f sub.task }, ?_, htells.method, htells.owned, fun hover => ?_⟩
    · simp only [setSubmission, hsub, Option.map_some]
    · exact htells.told ((hf sub hsub).symm.trans hover)
  · obtain ⟨sub, hsub, rfl⟩ := Option.map_eq_some_iff.mp hsub'
    exact h.submission sub hsub hmethod ((hf sub hsub).symm.trans hover)

/-- When the submission ends, the attempt that waits for it is told. -/
theorem endSubmission (s : Scene τ ν) (how : Ending Unit) : Links s (s.endSubmission how) := by
  unfold Scene.endSubmission
  cases hsub : s.submission with
  | none => exact refl s
  | some sub =>
    intro due h
    refine ⟨fun i a ha => ?_, fun sub' hsub' _ hover => ?_⟩
    · refine (h.attempts i a ha).imp_right fun ⟨hw, sub', hsub', htells⟩ => ⟨hw, _, rfl, ?_⟩
      cases hsub.symm.trans hsub'
      refine ⟨htells.method, htells.owned, fun _ => ?_⟩
      exact List.mem_append_right due (List.mem_append_right _ htells.owned)
    · cases hsub'
      cases hover

theorem settleSubmission (s : Scene τ ν) (result : Except Failure Ticket) :
    Links s (s.settleSubmission result) := by
  cases result with
  | ok t => exact (resolve s t).trans (endSubmission _ _)
  | error f =>
    unfold Scene.settleSubmission
    dsimp only
    split
    · exact (reject s f).trans (endSubmission _ _)
    · exact endSubmission s _

theorem receive (s : Scene τ ν) (r : Http.Request) (o : Http.Outcome) :
    Links s (s.receive r o) := by
  have hreceived : Links s { s with toOutside := s.toOutside.receive r o } :=
    of_same (List.Subset.refl _) rfl rfl
  exact hreceived.trans (settleSubmission _ _)

theorem submit (s : Scene τ ν) (p : Proof)
    (hlive : ∀ sub, s.submission = some sub → sub.task.isOver = false) : Links s (s.submit p) := by
  unfold Scene.submit
  split
  · exact settleSubmission s _
  · rename_i outside _
    have hsent : Links s { s with toOutside := outside } := of_same (List.Subset.refl _) rfl rfl
    dsimp only
    split
    · exact (hsent.trans (note _ _)).trans (receive _ _ _)
    · refine (hsent.trans (note _ _)).trans (updateSubmission _ fun sub hsub => ?_)
      exact (hlive sub hsub).symm

theorem runSubmission (s : Scene τ ν) : Links s s.runSubmission := by
  unfold Scene.runSubmission
  cases hsub : s.submission with
  | none => exact refl s
  | some sub =>
    dsimp only
    split
    · rename_i hfirst
      refine submit s _ fun sub' hsub' => ?_
      cases hsub.symm.trans hsub'
      exact Task.isOver_of_start (by simp [hfirst])
    · exact receive s _ _
    · exact refl s

theorem respond (s : Scene τ ν) (o : Http.Outcome) : Links s (s.respond o) := by
  refine updateSubmission s fun sub _ => ?_
  split
  · rename_i hw
    rw [Task.wake_of_awaits hw, Task.isOver, Task.isOver, Task.ending_of_awaits hw]
    rfl
  · rfl

/-! ### Turns -/

section

variable {i : Nat} {a : Attempt τ} (ha : s.attempts[i]? = some a)
  (hold : ∀ b, s.attempts[i]? = some b → b.task.awaits? ≠ some .submission)
  (hwanting : s.stage.isOpen = true → s.submission = none)

include ha hold hwanting

/-- An assertion that is accepted is the first proof. -/
theorem conclude (r : Key.Reply) : Links s (s.conclude i r) := by
  cases r with
  | refused r =>
    refine (keyFailed s r).trans (endAttempt _ i _ fun b hb => hold b ?_)
    have hsame : (s.keyFailed r).attempts = s.attempts :=
      (congrArg Negotiation.attempts (s.toNegotiation_keyFailed r)).trans (keyFailed_attempts _ r)
    exact hsame ▸ hb
  | crashed f => exact endAttempt s i _ hold
  | assertion assertion =>
    unfold Scene.conclude
    dsimp only
    split
    · rename_i hopen
      have haccepts := (Upholds.accept s (assertion.proof s.keyText) (.attemptNotified i)).trans
        (.updateAttempt _ i fun _ => .waitingFor .submission)
      refine of_linked haccepts.queue fun due h => ?_
      rw [toNegotiation_updateAttempt, toNegotiation_accept]
      exact h.asserts (hwanting hopen) ha rfl
    · exact endAttempt s i _ hold

theorem proceed (request : Nat) (b : Key.Behaviour) : Links s (s.proceed i request b) := by
  have hnote := note s (b.proceed.1.map (.device request))
  unfold Scene.proceed
  dsimp only
  split
  · exact hnote.trans (conclude (s := s.note _) ha hold hwanting _)
  · exact hnote.trans (endAttempt _ i _ hold)
  · exact hnote.trans (updateAttempt _ i hold fun _ _ => rfl)

theorem ask : Links s (s.ask i) := by
  unfold Scene.ask
  split
  · rename_i options _ _
    have hasked : Links s { s with asked := s.asked ++ [options] } :=
      of_same (List.Subset.refl _) rfl rfl
    refine (hasked.trans (note _ _)).trans (proceed (a := a) ?_ ?_ ?_ _ _)
    · exact ha
    · exact hold
    · exact hwanting
  · exact conclude ha hold hwanting _

end

theorem runAttempt (hwanting : s.stage.isOpen = true → s.submission = none) (i : Nat) :
    Links s (s.runAttempt i) := by
  unfold Scene.runAttempt
  cases ha : s.attempts[i]? with
  | none => exact refl s
  | some a =>
    by_cases hidle : a.task.start = .idle
    · simp only [hidle]
      exact refl s
    · have hold (b : Attempt τ) (hb : s.attempts[i]? = some b) :
          b.task.awaits? ≠ some .submission := by
        cases ha.symm.trans hb
        exact Attempt.awaits_ne_of_start hidle
      dsimp only
      split
      · exact refl s
      · exact ask ha hold hwanting
      · exact proceed ha hold hwanting _ _
      · exact endAttempt s i _ hold
      · exact (note s _).trans (proceed (s := s.note _) ha hold hwanting _ _)
      · exact proceed ha hold hwanting _ _
      · exact endAttempt s i _ hold
      · exact endAttempt s i _ hold

/-! ### Guests -/

theorem close (s : Scene τ ν) : Links s s.close := by
  unfold Scene.close
  dsimp only
  split
  · exact shut s
  · rename_i hsub
    have hcancelled := (shut s).trans (cancelAttempt (s := s.shut) (by simpa using hsub))
    split
    · exact hcancelled
    · exact hcancelled.trans (reject _ _)

theorem act (hwanting : s.stage.isOpen = true → s.submission = none) {a : Action}
    (h : s.act a = .ok s') : Links s s' := by
  cases a with
  | start =>
    cases h
    unfold Scene.start
    split
    · exact beginAttempt s []
    · exact refl s
  | select m =>
    have hturn (s : Scene τ ν) (stage : Stage) : Links s { s with active := m, stage } :=
      of_same (List.Subset.refl _) rfl rfl
    obtain ⟨hopen, -, ⟨-, rfl⟩ | ⟨-, -, rfl⟩ | ⟨-, -, rfl⟩⟩ := select_cases h
    · exact refl _
    · exact (cancelAttempt (hwanting hopen)).trans (hturn _ _)
    · exact hturn s _
  | input value =>
    obtain ⟨-, -, rfl⟩ := setInput_cases h
    exact of_same (List.Subset.refl _) rfl rfl
  | close =>
    cases h
    exact close s

theorem confirm (hwanting : s.stage.isOpen = true → s.submission = none) {caller : τ} {waits : Bool}
    (h : s.confirm caller = .ok (waits, s')) : Links s s' := by
  have hqueue := (Upholds.confirm h).queue
  obtain ⟨hopen, ⟨-, -, rfl⟩ | ⟨htext, ⟨-, rfl⟩ | ⟨-, rfl⟩⟩⟩ := confirm_cases h
  · exact beginAttempt s _
  · refine of_linked hqueue fun due hs => ?_
    rw [toNegotiation_accept]
    have hnone : Linked due { s.toNegotiation with inputError := none } :=
      ⟨hs.attempts, hs.submission⟩
    refine hnone.accept (hwanting hopen) (fun hkey => ?_) _
    have hkey : s.active = .webauthn := hkey
    rw [hkey] at htext
    cases htext
  · exact of_same (List.Subset.refl _) rfl rfl

/-- Whatever guests do. -/
theorem visited {P : Action → Prop} (hs : Staged s.toNegotiation) (h : s.Visited P s') :
    Links s s' := by
  have hwanting {s : Scene τ ν} (hs : Staged s.toNegotiation) (hopen : s.stage.isOpen = true) :
      s.submission = none := by
    simpa using (hs.wanting_of_isOpen hopen).1
  induction h with
  | refl s => exact refl s
  | trans h _ ih ih' => exact (ih hs).trans (ih' (hs.visited h))
  | act _ h => exact act (hwanting hs) h
  | confirm h => exact confirm (hwanting hs) h
  | awaitClosed s caller =>
    unfold Scene.awaitClosed
    split
    · exact refl s
    · exact of_same (List.Subset.refl _) rfl rfl
  | awaitOutcome s caller =>
    unfold Scene.awaitOutcome
    split
    · exact refl s
    · exact of_same (List.Subset.refl _) rfl rfl
  | enqueue s t => exact of_same (List.subset_append_left _ _) rfl rfl
  | noted s n => exact note s _

end Links

/-- A turn that is taken was due, and need not be so any more. An attempt is only told that the
submission has ended when it has. -/
theorem linked_run {s : Scene τ ν} {t : Turn τ} {due : List (Turn τ)}
    (h : s.Linked (t :: due ++ s.queue)) (hs : Staged s.toNegotiation)
    (hover : ∀ i, t = .attemptNotified i → ∀ sub, s.submission = some sub →
      sub.task.isOver = true) :
    (s.run t).Linked (due ++ (s.run t).queue) := by
  have hwanting (hopen : s.stage.isOpen = true) : s.submission = none := by
    simpa using (hs.wanting_of_isOpen hopen).1
  have hlinks (hrun : Links s (s.run t)) (ht : ∀ i, t ≠ .attemptNotified i) :
      (s.run t).Linked (due ++ (s.run t).queue) :=
    (hrun (t :: due) h).drop ht
  cases t with
  | attempt i => exact hlinks (.runAttempt hwanting i) nofun
  | attemptEnded i => exact hlinks (.ended s _) nofun
  | attemptNotified i =>
    have hnotified := Linked.notified h (hover i rfl)
    rw [← toNegotiation_updateAttempt] at hnotified
    exact hnotified.mono (append_subset_append (Upholds.updateAttempt s i _).queue)
  | submission => exact hlinks (.runSubmission s) nofun
  | submissionEnded => exact hlinks (.ended s _) nofun
  | caller c => exact hlinks (.refl s) nofun

end Scene

end SecondFactor.Negotiation
