import SecondFactor.Negotiation.Scene

/-!
# Actions of a dialog

What a dialog does to a negotiation takes effect at once. An action that does not fit the stage is
refused and leaves everything as it was.
-/

namespace SecondFactor.Negotiation

/-- What a dialog does to a negotiation. -/
inductive Action where
  | start
  | select (m : Method)
  | input (value : String)
  | close
  deriving DecidableEq, Repr

namespace Scene

variable {τ ν : Type}

/-- Begins with a security key if one may answer the challenge. -/
def start (s : Scene τ ν) : Scene τ ν :=
  if s.available.contains .webauthn then s.beginAttempt [] else s

/-- Makes another method the active one. A security key is not waited for any more then. -/
def select (s : Scene τ ν) (m : Method) : Except LoginError (Scene τ ν) :=
  if !s.stage.isOpen then .error (.wrongState ("cannot switch method while " ++ s.stage.word))
  else if !s.available.contains m then
    .error (.wrongState (m.word ++ " is not available for this challenge"))
  else if m = s.active then .ok s
  else
    let s := if s.active = .webauthn then s.cancelAttempt else s
    .ok { s with active := m, stage := if s.input m = "" then .selecting else .awaiting }

/-- Sets the input of the active method. -/
def setInput (s : Scene τ ν) (value : String) : Except LoginError (Scene τ ν) :=
  if !s.stage.isOpen then .error (.wrongState ("cannot change input while " ++ s.stage.word))
  else if !s.active.takesText then .error (.wrongState (s.active.word ++ " takes no text input"))
  else
    .ok { s with
      inputs := fun m => if m = s.active then some value else s.inputs m
      inputError := none
      stage := .awaiting }

/-- Confirms a text method: input of the right shape is submitted as a proof, and the caller has to
wait; other input is not. -/
def confirmText (s : Scene τ ν) (m : Method) (caller : τ) : Bool × Scene τ ν :=
  if m.accepts (s.input m) then
    (true, accept { s with inputError := none } ⟨m, s.input m⟩ (.caller caller))
  else (false, { s with inputError := some m })

/-- Confirms the active method, and says whether the caller has to wait for its turn. For a security
key there is another attempt. -/
def confirm (s : Scene τ ν) (caller : τ) : Except LoginError (Bool × Scene τ ν) :=
  if !s.stage.isOpen then .error (.wrongState ("cannot confirm while " ++ s.stage.word))
  else
    match s.active with
    | .webauthn =>
      if s.pending then .error (.wrongState "already waiting for the security key")
      else .ok (true, s.beginAttempt [.caller caller])
    | m => .ok (s.confirmText m caller)

/-- Closes the dialog. The negotiation is rejected unless a proof was accepted, which then settles
the outcome. -/
def close (s : Scene τ ν) : Scene τ ν :=
  let s := s.shut
  if s.submission.isSome then s
  else
    let s := s.cancelAttempt
    if s.done then s else s.reject (.plain (.ofKind .cancelled))

/-- Applies an action. -/
def act (s : Scene τ ν) : Action → Except LoginError (Scene τ ν)
  | .start => .ok s.start
  | .select m => s.select m
  | .input value => s.setInput value
  | .close => .ok s.close

/-- Waits for the dialog to be closed, and says whether the caller has to wait for its turn. -/
def awaitClosed (s : Scene τ ν) (caller : τ) : Bool × Scene τ ν :=
  if s.closed then (false, s) else (true, { s with whenClosed := s.whenClosed ++ [caller] })

/-- Waits for the outcome, which is given back if it is known already. -/
def awaitOutcome (s : Scene τ ν) (caller : τ) : Option (Except Failure Ticket) × Scene τ ν :=
  match s.outcome with
  | some o => (some o, s)
  | none => (none, { s with whenDone := s.whenDone ++ [caller] })

end Scene

end SecondFactor.Negotiation
