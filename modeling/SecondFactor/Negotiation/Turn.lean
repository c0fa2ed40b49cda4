import SecondFactor.Negotiation.Scene

/-!
# Turns of a negotiation

What happens when it is the turn of an attempt or of the submission, or when one of them ended.
-/

namespace SecondFactor.Negotiation.Scene

variable {τ ν : Type}

/-- A security key gave no assertion. The negotiation goes on as long as there is another method. -/
def keyFailed (s : Scene τ ν) (r : Key.Refusal) : Scene τ ν :=
  let s := { s with keyError := some r }
  if s.done || s.available.any (· ≠ .webauthn) then s else s.reject r.failure

/-- The text of the challenge that a security key signs. -/
def keyText (s : Scene τ ν) : Text :=
  match s.challenge.webauthn with
  | some k => k.publicKey.challenge
  | none => []

/-- An attempt got its reply. An assertion becomes a proof, unless there is one already. -/
def conclude (s : Scene τ ν) (i : Nat) (r : Key.Reply) : Scene τ ν :=
  match r with
  | .refused r => (s.keyFailed r).endAttempt i (.returned ())
  | .crashed f => s.endAttempt i (.failed (.foreign f))
  | .assertion a =>
    if s.stage.isOpen then
      (s.accept (a.proof s.keyText) (.attemptNotified i)).updateAttempt i
        fun _ => .waitingFor .submission
    else s.endAttempt i (.failed (.plain (.wrongState "a proof was already submitted")))

/-- An attempt goes on as its request behaves. -/
def proceed (s : Scene τ ν) (i request : Nat) (b : Key.Behaviour) : Scene τ ν :=
  let (events, rest) := b.proceed
  let s := s.note (events.map (.device request))
  match rest with
  | .ended r => s.conclude i r
  | .stopped => s.endAttempt i .cancelled
  | .waiting onCancel onLateCancel =>
    s.updateAttempt i fun _ => .waitingFor (.reply request onCancel onLateCancel)

/-- An attempt begins by asking the security key. -/
def ask (s : Scene τ ν) (i : Nat) : Scene τ ν :=
  match s.adapter, s.options with
  | some adapter, some options =>
    let n := s.asked.length
    let s := note { s with asked := s.asked ++ [options] } [.keyRequested n]
    s.proceed i n (adapter n)
  | _, _ => s.conclude i (.refused .unsupported)

/-- The turn of an attempt. -/
def runAttempt (s : Scene τ ν) (i : Nat) : Scene τ ν :=
  match s.attempts[i]? with
  | none => s
  | some a =>
    match a.task.start with
    | .idle => s
    | .first => s.ask i
    | .news (.replied request next _) => s.proceed i request next
    | .news _ => s.endAttempt i (.returned ())
    | .cancelled (some (.reply request onCancel _)) =>
      (s.note [.keyCancelled request]).proceed i request onCancel
    | .cancelledLate (.replied request _ onLateCancel) => s.proceed i request onLateCancel
    | .cancelled _ | .cancelledLate _ => s.endAttempt i .cancelled

/-- A task ended. If something went wrong that nobody expected, the negotiation is rejected. -/
def ended (s : Scene τ ν) (how : Option (Ending Unit)) : Scene τ ν :=
  match how with
  | some (.failed f) =>
    if s.done then s
    else s.reject (.chained { kind := .authFailed, message := "Second factor request failed" } f)
  | _ => s

/-- The submission came to its end with a ticket or a failure. Only login errors are expected. A
submission never ends as cancelled, because nobody holds its task and no request of the backend ends
so. -/
def settleSubmission (s : Scene τ ν) (result : Except Failure Ticket) : Scene τ ν :=
  match result with
  | .ok t => (s.resolve t).endSubmission (.returned ())
  | .error f =>
    if f.loginError?.isSome then (s.reject f).endSubmission (.returned ())
    else s.endSubmission (.failed f)

/-- Something became of the request that carries the proof. -/
def receive (s : Scene τ ν) (r : Http.Request) (outcome : Http.Outcome) : Scene τ ν :=
  let s := { s with toOutside := s.toOutside.receive r outcome }
  s.settleSubmission (s.client.ticketResult r outcome)

/-- The submission begins by sending the proof. -/
def submit (s : Scene τ ν) (p : Proof) : Scene τ ν :=
  match s.toOutside.send (s.client.proofCall s.userid s.ticket p.text) with
  | .error f => s.settleSubmission (.error f)
  | .ok (r, outside) =>
    let n := s.sent.length
    let s := note { s with toOutside := outside } [.requested n]
    match s.backend n with
    | some outcome => s.receive r outcome
    | none => s.updateSubmission fun _ => .waitingFor (.response n r)

/-- The turn of the submission. -/
def runSubmission (s : Scene τ ν) : Scene τ ν :=
  match s.submission with
  | none => s
  | some sub =>
    match sub.task.start with
    | .first => s.submit sub.proof
    | .news (.responded r outcome) => s.receive r outcome
    | _ => s

/-- Takes a turn. What callers do in theirs is not known here. -/
def run (s : Scene τ ν) : Turn τ → Scene τ ν
  | .attempt i => s.runAttempt i
  | .attemptEnded i => s.ended (s.attempts[i]?.bind (·.task.ending?))
  | .attemptNotified i => s.updateAttempt i (Task.wake .submission)
  | .submission => s.runSubmission
  | .submissionEnded => s.ended (s.submission.bind (·.task.ending?))
  | .caller _ => s

/-- The number of the oldest request to the security key that still waits for its reply. -/
def askingNumber? (s : Scene τ ν) : Option Nat := s.attempts.findSome? (·.asking?)

/-- The reply to the request of an attempt, if it still waits for one. -/
def replyTo (s : Scene τ ν) (i : Nat) (next : Key.Behaviour) : Scene τ ν :=
  s.updateAttempt i fun t =>
    match t.awaits? with
    | some (.reply request _ onLateCancel) => t.wake (.replied request next onLateCancel)
    | _ => t

/-- The reply to the oldest request to the security key that still waits for one. -/
def reply (s : Scene τ ν) (next : Key.Behaviour) : Scene τ ν :=
  match s.attempts.findIdx? (·.asking?.isSome) with
  | none => s
  | some i => s.replyTo i next

/-- The number of the request that carries the proof, while the backend has not answered it. -/
def heldNumber? (s : Scene τ ν) : Option Nat :=
  s.submission.bind fun sub =>
    match sub.task.awaits? with
    | some (.response n _) => some n
    | _ => none

/-- The answer to the request that carries the proof. -/
def respond (s : Scene τ ν) (outcome : Http.Outcome) : Scene τ ν :=
  s.updateSubmission fun t =>
    match t.awaits? with
    | some (.response _ r) => t.wake (.responded r outcome)
    | _ => t

end SecondFactor.Negotiation.Scene
