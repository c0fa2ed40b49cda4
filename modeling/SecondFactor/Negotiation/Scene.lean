import SecondFactor.Negotiation.Basic
import SecondFactor.Outside

/-!
# Scenes

A scene is a negotiation in the middle of the outside world, with the turns that are due and the
events that were seen. Whatever becomes due goes to the end of the queue.
-/

namespace SecondFactor.Negotiation

/-- A negotiation and what is around it. -/
structure Scene (τ ν : Type) extends Outside, Negotiation τ where
  /-- The turns that are due, in the order in which they became so. -/
  queue : List (Turn τ) := []
  log : List (Event ν) := []

namespace Scene

variable {τ ν : Type}

/-- Makes turns due. -/
def enqueue (s : Scene τ ν) (ts : List (Turn τ)) : Scene τ ν := { s with queue := s.queue ++ ts }

/-- Takes note of events. -/
def note (s : Scene τ ν) (es : List (Event ν)) : Scene τ ν := { s with log := s.log ++ es }

/-- Puts the task of an attempt into another state. Its turn becomes due with it. -/
def updateAttempt (s : Scene τ ν) (i : Nat)
    (f : Task Attempt.Wait Unit → Task Attempt.Wait Unit) : Scene τ ν :=
  match s.attempts[i]? with
  | none => s
  | some a =>
    let task := f a.task
    let s := { s with attempts := s.attempts.set i { a with task } }
    if task.isDue && !a.task.isDue then s.enqueue [.attempt i] else s

/-- Ends an attempt. -/
def endAttempt (s : Scene τ ν) (i : Nat) (how : Ending Unit) : Scene τ ν :=
  match s.attempts[i]? with
  | none => s
  | some a =>
    enqueue { s with attempts := s.attempts.set i { a with task := .finished how } } a.whenEnded

/-- Puts the task of the submission into another state. Its turn becomes due with it. -/
def updateSubmission (s : Scene τ ν)
    (f : Task Submission.Wait Unit → Task Submission.Wait Unit) : Scene τ ν :=
  match s.submission with
  | none => s
  | some sub =>
    let task := f sub.task
    let s := { s with submission := some { sub with task } }
    if task.isDue && !sub.task.isDue then s.enqueue [.submission] else s

/-- Ends the submission. -/
def endSubmission (s : Scene τ ν) (how : Ending Unit) : Scene τ ν :=
  match s.submission with
  | none => s
  | some sub =>
    enqueue { s with submission := some { sub with task := .finished how } } sub.whenEnded

/-- Marks the dialog as closed, and lets those know who wait for it. -/
def shut (s : Scene τ ν) : Scene τ ν :=
  enqueue { s with closed := true, whenClosed := [] } (s.whenClosed.map .caller)

/-- Lets those know who wait for the outcome. -/
def announce (s : Scene τ ν) : Scene τ ν :=
  enqueue { s with whenDone := [] } (s.whenDone.map .caller)

/-- Rejects the negotiation, unless its outcome is known. -/
def reject (s : Scene τ ν) (f : Failure) : Scene τ ν :=
  let s := s.shut
  if s.done then s else announce { s with stage := .rejected, outcome := some (.error f) }

/-- Resolves the negotiation, unless its outcome is known. -/
def resolve (s : Scene τ ν) (t : Ticket) : Scene τ ν :=
  if s.done then s else announce { s with stage := .resolved, outcome := some (.ok t) }

/-- Begins an attempt with a security key, whose end also brings about the given turns. -/
def beginAttempt (s : Scene τ ν) (whenEnded : List (Turn τ)) : Scene τ ν :=
  let i := s.attempts.length
  enqueue { s with
    attempts := s.attempts ++ [{ whenEnded := .attemptEnded i :: whenEnded }]
    current := some i } [.attempt i]

/-- Cancels the attempt that was begun last. -/
def cancelAttempt (s : Scene τ ν) : Scene τ ν :=
  match s.current with
  | none => s
  | some i => s.updateAttempt i Task.cancel

/-- Accepts a proof: the dialog is closed, a security key is not waited for any more, and the proof
is submitted by a task that nothing else owns. -/
def accept (s : Scene τ ν) (p : Proof) (whenEnded : Turn τ) : Scene τ ν :=
  let s := shut { s with stage := .submitting }
  let s := if p.method = .webauthn then s else s.cancelAttempt
  enqueue { s with submission := some { proof := p, whenEnded := [.submissionEnded, whenEnded] } }
    [.submission]

end Scene

end SecondFactor.Negotiation
