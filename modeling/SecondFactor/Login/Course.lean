import SecondFactor.Login.Store
import SecondFactor.Negotiation.Room

/-!
# The course of a login

A login submits primary credentials. If the backend answers with a challenge, a dialog negotiates a
second factor, and the login goes on when the dialog has ended or was closed. Every login error ends
in the same failure, so that a caller cannot tell a wrong password from a wrong second factor.
-/

namespace SecondFactor

open Negotiation (Room)

namespace Login

/-- What a login waits for. -/
inductive Wait where
  | response (number : Nat) (request : Http.Request)
  | responded (request : Http.Request) (outcome : Http.Outcome)
  /-- That the dialog ended or was closed. -/
  | parting
  | outcome

/-- What is seen of a login from outside. -/
inductive Event (ν : Type) where
  | accessed (a : Store.Access)
  | negotiation (e : Negotiation.Event ν)
  /-- A ticket is handed on, and makes the session usable. -/
  | established (t : Ticket)
  /-- The session is made unusable. -/
  | cleared

end Login

/-- A login with a dialog that makes notes of type `ν`. -/
structure Login (ν : Type) where
  credentials : Credentials
  /-- Whether the username is to be remembered. -/
  keep : Bool
  /-- How deep the JSON of a challenge may be nested for the login to read it. This is what is left of
  the stack where the login is made. -/
  levels : Nat
  script : Negotiation.Dialog ν
  task : Task Login.Wait Ticket := {}
  negotiation : Option (Negotiation Room.Turn) := none
  guests : Room.Guests ν := {}

namespace Login

/-- A login in the middle of the outside world. -/
structure Course (ν : Type) extends Outside, Login ν where
  store : Store
  /-- The turns that are due, in the order in which they became so. -/
  queue : List (Negotiation.Turn Room.Turn) := []
  log : List (Event ν) := []

namespace Course

variable {ν : Type}

/-- Takes note of events. -/
def note (c : Course ν) (es : List (Event ν)) : Course ν := { c with log := c.log ++ es }

/-- Uses the store. -/
def access (c : Course ν) (a : Store.Access) : Course ν :=
  note { c with store := c.store.apply a } [.accessed a]

/-- The room of the negotiation, if there is one, with nothing due in it. -/
def room? (c : Course ν) : Option (Room ν) :=
  c.negotiation.map fun n => { toOutside := c.toOutside, toNegotiation := n, toGuests := c.guests }

/-- Brings in what became of the room. -/
def settleIn (c : Course ν) (r : Room ν) : Course ν :=
  { c with
    toOutside := r.toOutside
    negotiation := some r.toNegotiation
    guests := r.toGuests
    queue := c.queue ++ r.queue
    log := c.log ++ r.log.map .negotiation }

/-- Does something in the room of the negotiation. -/
def inRoom (c : Course ν) (f : Room ν → Room ν) : Course ν :=
  match c.room? with
  | none => c
  | some r => c.settleIn (f r)

/-- Puts the login into another state. Its turn becomes due with it. -/
def update (c : Course ν) (f : Task Wait Ticket → Task Wait Ticket) : Course ν :=
  let task := f c.task
  let due := task.isDue && !c.task.isDue
  { c with task, queue := if due then c.queue ++ [.caller .host] else c.queue }

/-- The one failure that all login errors end in. -/
def failure (f : Failure) : Failure :=
  .chained { kind := .authFailed, message := "Login failed. Please try again" } f

/-- Ends a login. A ticket is handed on; a login error clears the session, and nothing else does. -/
def conclude (c : Course ν) (result : Except Failure Ticket) : Course ν :=
  match result with
  | .ok t => note { c with task := .finished (.returned t) } [.established t]
  | .error f =>
    if f.loginError?.isSome then
      note { c with task := .finished (.failed (failure f)) } [.cleared]
    else { c with task := .finished (.failed f) }

/-- Negotiates the second factor that a ticket asks for, with a dialog of its own. -/
def negotiate (c : Course ν) (t : Ticket) : Course ν :=
  match Challenge.ofTicket c.levels t.ticket >>= Negotiation.ofChallenge t.username t.ticket with
  | .error f => c.conclude (.error f)
  | .ok n =>
    let c := { c with negotiation := some n, task := .waitingFor .parting }
    c.inRoom fun r => ((r.onScene (·.start)).letIn c.script).watch

/-- Something became of the request that carries the credentials. -/
def receive (c : Course ν) (r : Http.Request) (outcome : Http.Outcome) : Course ν :=
  let c := { c with toOutside := c.toOutside.receive r outcome }
  match c.client.ticketResult r outcome with
  | .error f => c.conclude (.error f)
  | .ok t => if Ticket.isChallenge t.ticket then c.negotiate t else c.conclude (.ok t)

/-- Sends the credentials. -/
def submit (c : Course ν) : Course ν :=
  match c.toOutside.send (c.client.primaryCall c.credentials) with
  | .error f => c.conclude (.error f)
  | .ok (r, outside) =>
    let n := c.sent.length
    let c := note { c with toOutside := outside } [.negotiation (.requested n)]
    match c.backend n with
    | some outcome => c.receive r outcome
    | none => { c with task := .waitingFor (.response n r) }

/-- A login begins: it writes down the username, and sends the credentials. -/
def start (c : Course ν) : Course ν :=
  ((Store.remember c.credentials.username c.keep).foldl access c).submit

/-- Parts with the dialog: nobody waits for it any more, and it is closed. -/
def part (c : Course ν) : Course ν :=
  c.inRoom fun r => r.cancelWatcher.cancelDialog.onScene (·.close)

/-- Ends with the outcome of the negotiation, or waits for it. -/
def awaitOutcome (c : Course ν) : Course ν :=
  match c.negotiation.bind (·.outcome) with
  | some outcome => c.conclude outcome
  | none =>
    let c := c.inRoom fun r => r.onScene fun s => (s.awaitOutcome .hostOutcome).2
    { c with task := .waitingFor .outcome }

/-- The turn of a login. -/
def runLogin (c : Course ν) : Course ν :=
  match c.task.start with
  | .first => c.start
  | .news (.responded r outcome) => c.receive r outcome
  | .news .parting => c.part.awaitOutcome
  | .news .outcome => c.awaitOutcome
  | .cancelled (some .parting) | .cancelledLate .parting =>
    { c.part with task := .finished .cancelled }
  | .cancelled _ | .cancelledLate _ => { c with task := .finished .cancelled }
  | .idle | .news _ => c

/-- Tells a login that the dialog ended or was closed. -/
def notifyParting (c : Course ν) : Course ν :=
  match c.task.awaits? with
  | some .parting => c.update (Task.wake .parting)
  | _ => c

/-- Tells a login that the outcome of its negotiation is known. -/
def notifyOutcome (c : Course ν) : Course ν :=
  match c.task.awaits? with
  | some .outcome => c.update (Task.wake .outcome)
  | _ => c

/-- Takes a turn. -/
def run (c : Course ν) : Negotiation.Turn Room.Turn → Course ν
  | .caller .host => c.runLogin
  | .caller .hostParting => c.notifyParting
  | .caller .hostOutcome => c.notifyOutcome
  | t => c.inRoom (·.run t)

/-- The number of the oldest request to the backend that waits for its answer. -/
def heldNumber? (c : Course ν) : Option Nat :=
  match c.task.awaits? with
  | some (.response n _) => some n
  | _ => c.room?.bind (·.heldNumber?)

/-- The answer to the request to the backend that waits for one. -/
def respond (c : Course ν) (outcome : Http.Outcome) : Course ν :=
  match c.task.awaits? with
  | some (.response _ r) => c.update (Task.wake (.responded r outcome))
  | _ => c.inRoom fun r => r.onScene (·.respond outcome)

end Course

end Login

end SecondFactor
