import Mathlib.Data.List.Basic
import SecondFactor.Proofs.Negotiation.Run
import SecondFactor.Proofs.Task

/-! # Changes of a negotiation

A scene is a negotiation with its surroundings, and most of what a move does concerns these. What it
does to the negotiation itself is one of a few changes. Every fact about all runs is proved by going
through them once. -/

namespace SecondFactor.Negotiation

variable {τ ν : Type}

/-! ## New negotiations -/

theorem mem_available {c : Challenge} {m : Method} : m ∈ c.available ↔ c.offers m = true := by
  cases m <;> simp [Challenge.available, Method.all, List.mem_filter]

/-- A negotiation of a challenge begins with the preferred method and with nothing done. -/
theorem ofChallenge_ok {userid ticket : String} {c : Challenge} {n : Negotiation τ}
    (hn : ofChallenge userid ticket c = .ok n) :
    ∃ active options, c.available.head? = some active ∧
      n = { userid, ticket, challenge := c, options, available := c.available, active } := by
  unfold ofChallenge at hn
  simp only [bind, Except.bind, throw, throwThe, MonadExceptOf.throw, pure, Except.pure] at hn
  cases huser : userid.isEmpty with
  | true => simp [huser] at hn
  | false =>
    cases hticket : ticket.isEmpty with
    | true => simp [huser, hticket] at hn
    | false =>
      cases hhead : c.available.head? with
      | none => simp [huser, hticket, hhead] at hn
      | some active =>
        cases hoptions : c.webauthn.mapM Key.Options.ofChallenge with
        | error f => simp [huser, hticket, hhead, hoptions] at hn
        | ok options =>
          simp only [huser, hticket, hhead, hoptions, Bool.false_eq_true, if_false,
            Except.ok.injEq] at hn
          exact ⟨active, options, rfl, hn.symm⟩

/-- What is negotiated for a ticket is the challenge in it. -/
theorem exists_challenge {levels : Nat} {userid ticket : String} {n : Negotiation τ}
    (h : Challenge.ofTicket levels ticket >>= ofChallenge userid ticket = .ok n) :
    ∃ c, Challenge.ofTicket levels ticket = .ok c ∧ ofChallenge userid ticket c = .ok n := by
  cases hread : Challenge.ofTicket levels ticket with
  | error f => simp [hread, bind, Except.bind] at h
  | ok c => exact ⟨c, rfl, by simpa [hread, bind, Except.bind] using h⟩

/-! ## Parts of changes -/

/-- The text of the challenge that a security key signs. -/
def keyText (n : Negotiation τ) : Text :=
  match n.challenge.webauthn with
  | some k => k.publicKey.challenge
  | none => []

/-- Puts the task of an attempt into another state. -/
def setTask (n : Negotiation τ) (i : Nat) (f : Task Attempt.Wait Unit → Task Attempt.Wait Unit) :
    Negotiation τ :=
  { n with attempts := n.attempts.modify i fun a => { a with task := f a.task } }

/-- Puts the task of the submission into another state. -/
def setSubmission (n : Negotiation τ)
    (f : Task Submission.Wait Unit → Task Submission.Wait Unit) : Negotiation τ :=
  { n with submission := n.submission.map fun sub => { sub with task := f sub.task } }

/-- Marks the dialog as closed. -/
def shut (n : Negotiation τ) : Negotiation τ := { n with closed := true, whenClosed := [] }

/-- Closes the dialog, and rejects the negotiation unless its outcome is known. -/
def reject (n : Negotiation τ) (f : Failure) : Negotiation τ :=
  if n.done then n.shut
  else { n.shut with stage := .rejected, outcome := some (.error f), whenDone := [] }

/-- Resolves the negotiation unless its outcome is known. -/
def resolve (n : Negotiation τ) (t : Ticket) : Negotiation τ :=
  if n.done then n else { n with stage := .resolved, outcome := some (.ok t), whenDone := [] }

/-- Begins an attempt with a security key. -/
def begin (n : Negotiation τ) (whenEnded : List (Turn τ)) : Negotiation τ :=
  { n with
    attempts := n.attempts ++ [{ whenEnded := .attemptEnded n.attempts.length :: whenEnded }]
    current := some n.attempts.length }

/-- Cancels the attempt that was begun last. -/
def cancelKey (n : Negotiation τ) : Negotiation τ :=
  match n.current with
  | none => n
  | some i => n.setTask i Task.cancel

/-- Accepts a proof. -/
def accept (n : Negotiation τ) (p : Proof) (whenEnded : Turn τ) : Negotiation τ :=
  let m := { n.shut with stage := .submitting }
  let m := if p.method = .webauthn then m else m.cancelKey
  { m with submission := some { proof := p, whenEnded := [.submissionEnded, whenEnded] } }

/-- Takes note that a security key gave no assertion. -/
def keyFailed (n : Negotiation τ) (r : Key.Refusal) : Negotiation τ :=
  let n := { n with keyError := some r }
  if n.done || n.available.any (· ≠ .webauthn) then n else n.reject r.failure

/-- The failure that a failure nobody expected ends in. -/
def crash (f : Failure) : Failure :=
  .chained { kind := .authFailed, message := "Second factor request failed" } f

/-- Takes note that a task ended by a failure that nobody expected. -/
def notice (n : Negotiation τ) (f : Failure) : Negotiation τ :=
  if n.done then n else n.reject (crash f)

/-- The call of the ticket service comes to its end. -/
def settle (n : Negotiation τ) : Except Failure Ticket → Negotiation τ
  | .ok t => (n.resolve t).setSubmission fun _ => .finished (.returned ())
  | .error f =>
    if f.loginError?.isSome then
      (n.reject f).setSubmission fun _ => .finished (.returned ())
    else n.setSubmission fun _ => .finished (.failed f)

/-- Whether an attempt has not got a reply to its request yet. -/
def Attempt.isUnanswered (a : Attempt τ) : Bool :=
  match a.task.phase with
  | .ready | .waiting (.reply ..) | .woken (.replied ..) => true
  | _ => false

theorem setSubmission_congr {n : Negotiation τ} {sub : Submission τ}
    {f g : Task Submission.Wait Unit → Task Submission.Wait Unit} (hsub : n.submission = some sub)
    (h : f sub.task = g sub.task) : n.setSubmission f = n.setSubmission g := by
  simp [setSubmission, hsub, h]

theorem setTask_congr {n : Negotiation τ} {i : Nat}
    {f g : Task Attempt.Wait Unit → Task Attempt.Wait Unit}
    (h : ∀ a, n.attempts[i]? = some a → f a.task = g a.task) : n.setTask i f = n.setTask i g := by
  unfold setTask
  rw [List.modify_eq_set_getElem?, List.modify_eq_set_getElem?]
  cases ha : n.attempts[i]? with
  | none => rfl
  | some a => simp [h a ha]

theorem setTask_eq_self {n : Negotiation τ} {i : Nat}
    {f : Task Attempt.Wait Unit → Task Attempt.Wait Unit}
    (h : ∀ a, n.attempts[i]? = some a → f a.task = a.task) : n.setTask i f = n := by
  rw [setTask_congr (g := id) h]
  exact congrArg (fun as => { n with attempts := as }) (List.modify_id i n.attempts)

/-- An attempt that goes on with its request has not got a reply to it. -/
theorem Attempt.isUnanswered_of_start (a : Attempt τ) :
    match a.task.start with
    | .first | .news (.replied ..) | .cancelled (some (.reply ..)) | .cancelledLate (.replied ..) =>
      a.isUnanswered = true
    | _ => True := by
  obtain ⟨⟨phase, cancelling⟩, whenEnded⟩ := a
  cases phase with
  | ready => cases cancelling <;> simp [Task.start, isUnanswered]
  | waiting w => cases cancelling <;> cases w <;> simp [Task.start, isUnanswered]
  | woken w => cases cancelling <;> cases w <;> simp [Task.start, isUnanswered]
  | ended how => cases cancelling <;> simp [Task.start]

@[simp] theorem cancelKey_available (n : Negotiation τ) : n.cancelKey.available = n.available := by
  unfold cancelKey
  split <;> rfl

@[simp] theorem cancelKey_stage (n : Negotiation τ) : n.cancelKey.stage = n.stage := by
  unfold cancelKey
  split <;> rfl

@[simp] theorem cancelKey_inputs (n : Negotiation τ) : n.cancelKey.inputs = n.inputs := by
  unfold cancelKey
  split <;> rfl

@[simp] theorem cancelKey_outcome (n : Negotiation τ) : n.cancelKey.outcome = n.outcome := by
  unfold cancelKey
  split <;> rfl

theorem done_cancelKey (n : Negotiation τ) : n.cancelKey.done = n.done :=
  congrArg Option.isSome n.cancelKey_outcome

/-! ## What a scene does to its negotiation -/

namespace Scene

@[simp] theorem toNegotiation_enqueue (s : Scene τ ν) (ts : List (Turn τ)) :
    (s.enqueue ts).toNegotiation = s.toNegotiation := rfl

@[simp] theorem toNegotiation_note (s : Scene τ ν) (es : List (Event ν)) :
    (s.note es).toNegotiation = s.toNegotiation := rfl

@[simp] theorem toNegotiation_shut (s : Scene τ ν) :
    s.shut.toNegotiation = s.toNegotiation.shut := rfl

theorem keyText_eq (s : Scene τ ν) : s.keyText = s.toNegotiation.keyText := rfl

theorem reject_of_done {s : Scene τ ν} (h : s.done = true) (f : Failure) :
    s.reject f = s.shut := if_pos h

theorem reject_of_not_done {s : Scene τ ν} (h : ¬ s.done = true) (f : Failure) :
    s.reject f = announce { s.shut with stage := .rejected, outcome := some (.error f) } := if_neg h

@[simp] theorem toNegotiation_reject (s : Scene τ ν) (f : Failure) :
    (s.reject f).toNegotiation = s.toNegotiation.reject f := by
  unfold Negotiation.reject
  split
  · rename_i h
    rw [reject_of_done h]
    rfl
  · rename_i h
    rw [reject_of_not_done h]
    rfl

@[simp] theorem toNegotiation_resolve (s : Scene τ ν) (t : Ticket) :
    (s.resolve t).toNegotiation = s.toNegotiation.resolve t := by
  unfold resolve Negotiation.resolve
  split <;> rfl

@[simp] theorem toNegotiation_updateAttempt (s : Scene τ ν) (i : Nat)
    (f : Task Attempt.Wait Unit → Task Attempt.Wait Unit) :
    (s.updateAttempt i f).toNegotiation = s.toNegotiation.setTask i f := by
  unfold updateAttempt setTask
  rw [List.modify_eq_set_getElem?]
  cases s.attempts[i]? with
  | none => rfl
  | some a =>
    dsimp only
    split <;> rfl

theorem updateAttempt_congr {s : Scene τ ν} {i : Nat}
    {f g : Task Attempt.Wait Unit → Task Attempt.Wait Unit}
    (h : ∀ a, s.attempts[i]? = some a → f a.task = g a.task) :
    s.updateAttempt i f = s.updateAttempt i g := by
  unfold updateAttempt
  cases ha : s.attempts[i]? with
  | none => rfl
  | some a => simp only [h a ha]

theorem updateAttempt_eq_self {s : Scene τ ν} {i : Nat}
    {f : Task Attempt.Wait Unit → Task Attempt.Wait Unit}
    (h : ∀ a, s.attempts[i]? = some a → f a.task = a.task) : s.updateAttempt i f = s := by
  unfold updateAttempt
  cases ha : s.attempts[i]? with
  | none => rfl
  | some a =>
    obtain ⟨hlt, hget⟩ := List.getElem?_eq_some_iff.mp ha
    have hset : s.attempts.set i a = s.attempts := by
      rw [← hget]
      exact List.set_getElem_self hlt
    simp [h a ha, hset]

/-- Only an attempt that waits for a reply gets it. -/
theorem replyTo_cases (s : Scene τ ν) (i : Nat) (next : Key.Behaviour) :
    s.replyTo i next = s ∨
      ∃ a request onCancel onLateCancel, s.attempts[i]? = some a ∧
        a.task.awaits? = some (.reply request onCancel onLateCancel) ∧
        s.replyTo i next = s.updateAttempt i (Task.wake (.replied request next onLateCancel)) := by
  by_cases hasks : ∃ a request onCancel onLateCancel, s.attempts[i]? = some a ∧
      a.task.awaits? = some (.reply request onCancel onLateCancel)
  · obtain ⟨a, request, onCancel, onLateCancel, ha, hw⟩ := hasks
    refine .inr ⟨a, request, onCancel, onLateCancel, ha, hw, updateAttempt_congr fun b hb => ?_⟩
    cases ha.symm.trans hb
    simp only [hw]
  · refine .inl (updateAttempt_eq_self fun a ha => ?_)
    split
    · rename_i request onCancel onLateCancel hw
      exact absurd ⟨a, request, onCancel, onLateCancel, ha, hw⟩ hasks
    · rfl

@[simp] theorem toNegotiation_endAttempt (s : Scene τ ν) (i : Nat) (how : Ending Unit) :
    (s.endAttempt i how).toNegotiation =
      s.toNegotiation.setTask i fun _ => .finished how := by
  unfold endAttempt setTask
  rw [List.modify_eq_set_getElem?]
  cases s.attempts[i]? <;> rfl

@[simp] theorem toNegotiation_updateSubmission (s : Scene τ ν)
    (f : Task Submission.Wait Unit → Task Submission.Wait Unit) :
    (s.updateSubmission f).toNegotiation = s.toNegotiation.setSubmission f := by
  unfold updateSubmission setSubmission
  cases h : s.submission with
  | none => exact congrArg (fun sub => { s.toNegotiation with submission := sub }) h
  | some sub =>
    dsimp only
    split <;> rfl

@[simp] theorem toNegotiation_endSubmission (s : Scene τ ν) (how : Ending Unit) :
    (s.endSubmission how).toNegotiation =
      s.toNegotiation.setSubmission fun _ => .finished how := by
  unfold endSubmission setSubmission
  cases h : s.submission with
  | none => exact congrArg (fun sub => { s.toNegotiation with submission := sub }) h
  | some sub => rfl

@[simp] theorem toNegotiation_cancelAttempt (s : Scene τ ν) :
    s.cancelAttempt.toNegotiation = s.toNegotiation.cancelKey := by
  unfold cancelAttempt cancelKey
  cases s.current <;> simp

@[simp] theorem toNegotiation_accept (s : Scene τ ν) (p : Proof) (whenEnded : Turn τ) :
    (s.accept p whenEnded).toNegotiation = s.toNegotiation.accept p whenEnded := by
  unfold accept Negotiation.accept
  dsimp only
  rw [toNegotiation_enqueue]
  split
  · rfl
  · exact congrArg (fun n => { n with
      submission := some { proof := p, whenEnded := [.submissionEnded, whenEnded] } })
      (toNegotiation_cancelAttempt _)

@[simp] theorem toNegotiation_keyFailed (s : Scene τ ν) (r : Key.Refusal) :
    (s.keyFailed r).toNegotiation = s.toNegotiation.keyFailed r := by
  unfold keyFailed
  dsimp only
  split
  · rename_i h
    exact (if_pos h).symm
  · rename_i h
    rw [toNegotiation_reject]
    exact (if_neg h).symm

@[simp] theorem toNegotiation_settleSubmission (s : Scene τ ν) (result : Except Failure Ticket) :
    (s.settleSubmission result).toNegotiation = s.toNegotiation.settle result := by
  cases result with
  | ok t => simp [settleSubmission, settle]
  | error f =>
    by_cases h : f.loginError?.isSome <;> simp [settleSubmission, settle, h]

@[simp] theorem toOutside_note (s : Scene τ ν) (es : List (Event ν)) :
    (s.note es).toOutside = s.toOutside := rfl

theorem toNegotiation_receive (s : Scene τ ν) (r : Http.Request) (o : Http.Outcome) :
    (s.receive r o).toNegotiation =
      s.toNegotiation.settle ((s.client.receive r o).ticketResult r o) := by
  unfold receive
  dsimp only
  rw [toNegotiation_settleSubmission]
  rfl

end Scene

/-! ## Calls that are not refused -/

namespace Scene

variable {s s' : Scene τ ν}

/-- A method is chosen while a proof is wanted. Who turns away from the security key gives up
waiting for it. -/
theorem select_cases {m : Method} (h : s.select m = .ok s') :
    s.stage.isOpen = true ∧ m ∈ s.available ∧
      let stage := if s.input m = "" then .selecting else .awaiting
      (m = s.active ∧ s' = s ∨
        m ≠ s.active ∧ s.active = .webauthn ∧ s' = { s.cancelAttempt with active := m, stage } ∨
        m ≠ s.active ∧ s.active ≠ .webauthn ∧ s' = { s with active := m, stage }) := by
  have hinput : s.cancelAttempt.input m = s.input m := by simp [input]
  unfold select at h
  split at h
  · cases h
  · rename_i hopen
    split at h
    · cases h
    · rename_i hm
      refine ⟨by simpa using hopen, by simpa using hm, ?_⟩
      split at h
      · rename_i hsame
        cases h
        exact .inl ⟨hsame, rfl⟩
      · rename_i hne
        cases h
        by_cases hkey : s.active = .webauthn
        · rw [if_pos hkey, hinput]
          exact .inr (.inl ⟨hne, hkey, rfl⟩)
        · rw [if_neg hkey]
          exact .inr (.inr ⟨hne, hkey, rfl⟩)

/-- Input is set for a method that takes text, while a proof is wanted. -/
theorem setInput_cases {value : String} (h : s.setInput value = .ok s') :
    s.stage.isOpen = true ∧ s.active.takesText = true ∧
      s' = { s with
        inputs := fun m => if m = s.active then some value else s.inputs m
        inputError := none
        stage := .awaiting } := by
  unfold setInput at h
  split at h
  · cases h
  · rename_i hopen
    split at h
    · cases h
    · rename_i htext
      cases h
      exact ⟨by simpa using hopen, by simpa using htext, rfl⟩

/-- While a proof is wanted, to confirm begins another attempt with a security key, submits the
input of a text method, or takes note that this has not the right shape. -/
theorem confirm_cases {caller : τ} {waits : Bool} (h : s.confirm caller = .ok (waits, s')) :
    s.stage.isOpen = true ∧
      (s.active = .webauthn ∧ s.pending = false ∧ s' = s.beginAttempt [.caller caller] ∨
        s.active.takesText = true ∧
          (s.active.accepts (s.input s.active) = true ∧
              s' = accept { s with inputError := none } ⟨s.active, s.input s.active⟩
                (.caller caller) ∨
            s.active.accepts (s.input s.active) = false ∧
              s' = { s with inputError := some s.active })) := by
  unfold confirm at h
  split at h
  · cases h
  · rename_i hopen
    refine ⟨by simpa using hopen, ?_⟩
    split at h
    · rename_i hkey
      split at h
      · cases h
      · rename_i hidle
        cases h
        exact .inl ⟨hkey, by simpa using hidle, rfl⟩
    · rename_i hkey
      have htext : s.active.takesText = true := by
        cases hm : s.active <;> simp_all [Method.takesText]
      refine .inr ⟨htext, ?_⟩
      simp only [confirmText, Except.ok.injEq] at h
      split at h
      · rename_i hshape
        cases h
        exact .inl ⟨hshape, rfl⟩
      · rename_i hshape
        cases h
        exact .inr ⟨by simpa using hshape, rfl⟩

/-- Whoever confirms has to wait, unless the input of a text method has not the right shape. -/
theorem waits_of_confirm {caller : τ} {waits : Bool} (h : s.confirm caller = .ok (waits, s')) :
    waits = (decide (s.active = .webauthn) || s.active.accepts (s.input s.active)) := by
  unfold confirm at h
  split at h
  · cases h
  · split at h
    · rename_i hkey
      split at h
      · cases h
      · cases h
        simp [hkey]
    · rename_i hkey
      have hne : s.active ≠ .webauthn := hkey
      simp only [confirmText, Except.ok.injEq] at h
      split at h
      · rename_i hshape
        cases h
        simp [hshape]
      · rename_i hshape
        cases h
        simp [hne, hshape]

end Scene

/-! ## Changes -/

/-- What a move does to a negotiation, and what shows of it. -/
inductive Change (n : Negotiation τ) : List Happening → Negotiation τ → Prop where
  | idle : Change n [] n
  | waits (whenClosed whenDone : List τ) : Change n [] { n with whenClosed, whenDone }
  | starts : Change n [.started] (if n.available.contains .webauthn then n.begin [] else n)
  | selects (m : Method) (hopen : n.stage.isOpen = true) (hm : m ∈ n.available) (hne : m ≠ n.active) :
      Change n []
        { (if n.active = .webauthn then n.cancelKey else n) with
          active := m, stage := if n.input m = "" then .selecting else .awaiting }
  | told (value : String) (hopen : n.stage.isOpen = true) (htext : n.active.takesText = true) :
      Change n [.told n.active value]
        { n with
          inputs := fun m => if m = n.active then some value else n.inputs m
          inputError := none
          stage := .awaiting }
  | closes :
      Change n []
        (if n.submission.isSome then n.shut
        else if n.done then n.shut.cancelKey
        else n.shut.cancelKey.reject (.plain (.ofKind .cancelled)))
  | retries (caller : τ) (hopen : n.stage.isOpen = true) (hkey : n.active = .webauthn)
      (hidle : n.pending = false) : Change n [] (n.begin [.caller caller])
  | mistypes (hopen : n.stage.isOpen = true) (htext : n.active.takesText = true)
      (hshape : n.active.accepts (n.input n.active) = false) :
      Change n [] { n with inputError := some n.active }
  | confirms (caller : τ) (hopen : n.stage.isOpen = true) (htext : n.active.takesText = true)
      (hshape : n.active.accepts (n.input n.active) = true) :
      Change n []
        (accept { n with inputError := none } ⟨n.active, n.input n.active⟩ (.caller caller))
  /-- The request of an attempt comes to wait for its reply. -/
  | asks (i : Nat) (a : Attempt τ) (request : Nat) (onCancel onLateCancel : Key.Behaviour)
      (ha : n.attempts[i]? = some a) (hu : a.isUnanswered = true) :
      Change n [] (n.setTask i fun _ => .waitingFor (.reply request onCancel onLateCancel))
  | refused (i : Nat) (a : Attempt τ) (r : Key.Refusal) (ha : n.attempts[i]? = some a)
      (hu : a.isUnanswered = true) :
      Change n [.replied (.refused r)]
        ((n.keyFailed r).setTask i fun _ => .finished (.returned ()))
  | keyCrashed (i : Nat) (a : Attempt τ) (f : Foreign) (ha : n.attempts[i]? = some a)
      (hu : a.isUnanswered = true) :
      Change n [.replied (.crashed f)] (n.setTask i fun _ => .finished (.failed (.foreign f)))
  | asserts (i : Nat) (a : Attempt τ) (assertion : Key.Assertion) (ha : n.attempts[i]? = some a)
      (hu : a.isUnanswered = true) (hopen : n.stage.isOpen = true) :
      Change n [.replied (.assertion assertion)]
        ((n.accept (assertion.proof n.keyText) (.attemptNotified i)).setTask i
          fun _ => .waitingFor .submission)
  /-- An assertion comes when no proof is wanted any more. -/
  | assertsLate (i : Nat) (a : Attempt τ) (assertion : Key.Assertion)
      (ha : n.attempts[i]? = some a) (hu : a.isUnanswered = true) (hopen : n.stage.isOpen = false) :
      Change n [.replied (.assertion assertion)]
        (n.setTask i fun _ => .finished (.failed (.plain (.wrongState "a proof was already submitted"))))
  /-- An attempt ends without a reply: it was cancelled, or the submission of its proof ended. -/
  | stops (i : Nat) (a : Attempt τ) (how : Ending Unit) (ha : n.attempts[i]? = some a)
      (hhow : how = .cancelled ∨ how = .returned ()) : Change n [] (n.setTask i fun _ => .finished how)
  | wakes (i : Nat) (news : Attempt.Wait)
      (hnews : news = .submission ∨ ∃ request next onLateCancel, news = .replied request next onLateCancel ∧
        ∃ a, n.attempts[i]? = some a ∧ a.isUnanswered = true) :
      Change n [] (n.setTask i (Task.wake news))
  | notices (i : Option Nat) (f : Failure)
      (hf : (match i with
        | some i => n.attempts[i]?.bind (·.task.ending?)
        | none => n.submission.bind (·.task.ending?)) = some (.failed f)) :
      Change n [.crashed i f] (n.notice f)
  /-- The proof goes out, and the backend keeps its sender waiting. -/
  | sends (sub : Submission τ) (number : Nat) (r : Http.Request) (hsub : n.submission = some sub)
      (hfirst : sub.task.start = .first) :
      Change n [.submitted n.userid n.ticket sub.proof.text, .requested number]
        (n.setSubmission fun _ => .waitingFor (.response number r))
  /-- The proof goes out, and the backend answers at once. -/
  | exchanges (sub : Submission τ) (number : Nat) (r : Http.Request) (o : Http.Outcome)
      (c : Http.Client) (hsub : n.submission = some sub) (hfirst : sub.task.start = .first) :
      Change n
        [.submitted n.userid n.ticket sub.proof.text, .requested number, .responded number o,
          .answered (c.ticketResult r o)]
        (n.settle (c.ticketResult r o))
  /-- The proof cannot be sent. -/
  | balks (sub : Submission τ) (f : Failure) (hsub : n.submission = some sub)
      (hfirst : sub.task.start = .first) :
      Change n [.submitted n.userid n.ticket sub.proof.text, .answered (.error f)]
        (n.settle (.error f))
  | responds (sub : Submission τ) (number : Nat) (r : Http.Request) (o : Http.Outcome)
      (hsub : n.submission = some sub) (hw : sub.task.awaits? = some (.response number r)) :
      Change n [.responded number o] (n.setSubmission (Task.wake (.responded r o)))
  | receives (sub : Submission τ) (r : Http.Request) (o : Http.Outcome) (c : Http.Client)
      (hsub : n.submission = some sub) (hnews : sub.task.start = .news (.responded r o)) :
      Change n [.answered (c.ticketResult r o)] (n.settle (c.ticketResult r o))

end SecondFactor.Negotiation
