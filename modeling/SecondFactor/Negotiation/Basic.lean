import SecondFactor.Challenge
import SecondFactor.Http.Client
import SecondFactor.Key.Behaviour
import SecondFactor.Key.Options
import SecondFactor.Task

/-!
# Negotiations

A negotiation drives one challenge to a final ticket. Methods can be chosen and input can change
until a proof is accepted; from then on only the submission of that proof matters. Attempts with a
security key and the submission are tasks of their own, and `Turn` names what they and the callers
of the negotiation do when it is their turn.
-/

namespace SecondFactor

namespace Negotiation

/-- The stages of a negotiation. -/
inductive Stage where
  | selecting
  | awaiting
  | submitting
  | resolved
  | rejected
  deriving DecidableEq, Repr

namespace Stage

/-- The word for a stage. -/
def word : Stage → String
  | selecting => "selecting-method"
  | awaiting => "awaiting-input"
  | submitting => "submitting"
  | resolved => "resolved"
  | rejected => "rejected"

/-- Whether a proof can still be made. -/
def isOpen : Stage → Bool
  | selecting | awaiting => true
  | submitting | resolved | rejected => false

end Stage

/-- What is done in one turn. The turns of those who call the negotiation are named by a `τ`. -/
inductive Turn (τ : Type) where
  | attempt (i : Nat)
  | attemptEnded (i : Nat)
  /-- Attempt `i` is told that the submission of its proof ended. -/
  | attemptNotified (i : Nat)
  | submission
  | submissionEnded
  | caller (t : τ)
  deriving DecidableEq, Repr

/-- What an attempt with a security key waits for. -/
inductive Attempt.Wait where
  | reply (request : Nat) (onCancel onLateCancel : Key.Behaviour)
  | replied (request : Nat) (next onLateCancel : Key.Behaviour)
  | submission

/-- An attempt with a security key. -/
structure Attempt (τ : Type) where
  task : Task Attempt.Wait Unit := {}
  /-- The turns that its end brings about. -/
  whenEnded : List (Turn τ)

/-- The number of the request for whose reply an attempt waits, if it does. -/
def Attempt.asking? {τ : Type} (a : Attempt τ) : Option Nat :=
  match a.task.awaits? with
  | some (.reply request ..) => some request
  | _ => none

/-- What a submission waits for. -/
inductive Submission.Wait where
  | response (number : Nat) (request : Http.Request)
  | responded (request : Http.Request) (outcome : Http.Outcome)

/-- The submission of a proof. -/
structure Submission (τ : Type) where
  proof : Proof
  task : Task Submission.Wait Unit := {}
  /-- The turns that its end brings about. -/
  whenEnded : List (Turn τ)

end Negotiation

/-- A negotiation. -/
structure Negotiation (τ : Type) where
  userid : String
  ticket : String
  challenge : Challenge
  /-- What a security key is asked to sign, if one may answer the challenge. -/
  options : Option Key.Options
  available : List Method
  active : Method
  stage : Negotiation.Stage := .selecting
  inputs : Method → Option String := fun _ => none
  keyError : Option Key.Refusal := none
  inputError : Option Method := none
  /-- All attempts with a security key, the oldest first. -/
  attempts : List (Negotiation.Attempt τ) := []
  /-- The attempt that was begun last. -/
  current : Option Nat := none
  /-- The submission of the proof that was accepted. -/
  submission : Option (Negotiation.Submission τ) := none
  /-- Whether the dialog is of no use any more. -/
  closed : Bool := false
  outcome : Option (Except Failure Ticket) := none
  /-- Those who wait for the dialog to be closed. -/
  whenClosed : List τ := []
  /-- Those who wait for the outcome. -/
  whenDone : List τ := []

namespace Negotiation

variable {τ : Type}

/-- A malformed challenge, in the given words. -/
def malformed (message : String) : Failure := .plain (Challenge.malformed message)

/-- A negotiation of the challenge that came in a ticket for a user. -/
def ofChallenge (userid ticket : String) (challenge : Challenge) :
    Except Failure (Negotiation τ) := do
  if userid.isEmpty then throw (malformed "challenge ticket has no userid")
  if ticket.isEmpty then throw (malformed "challenge ticket is empty")
  let available := challenge.available
  match available.head? with
  | none => throw (.plain (.ofKind .noMethod))
  | some active =>
    let options ← challenge.webauthn.mapM Key.Options.ofChallenge
    return { userid, ticket, challenge, options, available, active }

/-- Whether the outcome is known. -/
def done (n : Negotiation τ) : Bool := n.outcome.isSome

/-- The input stored for a method. -/
def input (n : Negotiation τ) (m : Method) : String := (n.inputs m).getD ""

/-- The attempt that was begun last. -/
def currentAttempt? (n : Negotiation τ) : Option (Attempt τ) :=
  n.current.bind fun i => n.attempts[i]?

/-- Whether the attempt that was begun last is still under way. -/
def pending (n : Negotiation τ) : Bool := n.currentAttempt?.any fun a => !a.task.isOver

/-- Whether the active method can be confirmed now. -/
def canConfirm (n : Negotiation τ) : Bool :=
  n.stage.isOpen &&
    match n.active with
    | .webauthn => !n.pending
    | m => m.accepts (n.input m)

/-- What a dialog can see of a negotiation. -/
structure View where
  stage : Stage
  active : Method
  available : List Method
  recoveryKeys : List Text
  recoveryKeysLow : Bool
  pending : Bool
  canConfirm : Bool
  done : Bool
  keyError : Option Key.Refusal
  inputError : Option LoginError

/-- What a dialog can see of a negotiation. -/
def view (n : Negotiation τ) : View where
  stage := n.stage
  active := n.active
  available := n.available
  recoveryKeys := n.challenge.recoveryKeys
  recoveryKeysLow := n.challenge.recoveryKeysLow
  pending := n.pending
  canConfirm := n.canConfirm
  done := n.done
  keyError := n.keyError
  inputError := n.inputError.map fun m => .invalidInput m.word

/-- What is seen of a negotiation from outside. Requests to the backend and to security keys are
numbered from zero. Those who call the negotiation can add notes of their own. -/
inductive Event (ν : Type) where
  | requested (number : Nat)
  | keyRequested (number : Nat)
  | keyCancelled (number : Nat)
  | device (request : Nat) (e : Key.DeviceEvent)
  | noted (n : ν)

end Negotiation

end SecondFactor
