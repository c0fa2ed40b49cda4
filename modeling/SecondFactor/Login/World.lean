import SecondFactor.Login.Course

/-!
# Logins in a world

Logins share a client, a store and a security key, one after the other or at the same time. Turns
are taken in the order in which they became due, whichever login they belong to.
-/

namespace SecondFactor.Login

open Negotiation (Room)

/-- All logins with what they share. -/
structure World (ν : Type) extends Outside where
  store : Store := []
  /-- The logins, the oldest first. -/
  logins : List (Login ν) := []
  /-- The turns that are due, each with the number of its login, in the order in which they became
  so. -/
  queue : List (Nat × Negotiation.Turn Room.Turn) := []
  log : List (Nat × Event ν) := []

namespace World

variable {ν : Type}

/-- The course of a login, with nothing due in it. -/
def course? (w : World ν) (i : Nat) : Option (Course ν) :=
  w.logins[i]?.map fun l => { toOutside := w.toOutside, toLogin := l, store := w.store }

/-- Brings in what became of a login. -/
def settleIn (w : World ν) (i : Nat) (c : Course ν) : World ν where
  toOutside := c.toOutside
  store := c.store
  logins := w.logins.set i c.toLogin
  queue := w.queue ++ c.queue.map (i, ·)
  log := w.log ++ c.log.map (i, ·)

/-- Does something in the course of a login. -/
def inCourse (w : World ν) (i : Nat) (f : Course ν → Course ν) : World ν :=
  match w.course? i with
  | none => w
  | some c => w.settleIn i (f c)

/-- Takes turns until none is due, but no more than `fuel` of them. -/
def settle : Nat → World ν → World ν
  | 0, w => w
  | fuel + 1, w =>
    match w.queue with
    | [] => w
    | (i, t) :: rest => settle fuel (inCourse { w with queue := rest } i (·.run t))

/-- A new login. -/
def login (w : World ν) (credentials : Credentials) (keep : Bool) (levels : Nat)
    (script : Negotiation.Dialog ν) : World ν :=
  { w with
    logins := w.logins ++ [{ credentials, keep, levels, script }]
    queue := w.queue ++ [(w.logins.length, .caller .host)] }

/-- Cancels a login. -/
def cancel (w : World ν) (i : Nat) : World ν := w.inCourse i (·.update Task.cancel)

/-- How a login ended, if it did. -/
def ending? (w : World ν) (i : Nat) : Option (Ending Ticket) :=
  w.logins[i]?.bind (·.task.ending?)

/-- What the dialog of a login waits for outside of its negotiation, if it does. -/
def dialogAwaits? (w : World ν) (i : Nat) : Option ν :=
  ((w.course? i).bind (·.room?)).bind (·.dialogAwaits?)

/-- What the dialog of a login can see. -/
def view? (w : World ν) (i : Nat) : Option Negotiation.View :=
  w.logins[i]?.bind fun l => l.negotiation.map (·.view)

/-- Tells the dialog of a login that what it waits for outside of its negotiation is there. -/
def tell (w : World ν) (i : Nat) : World ν := w.inCourse i (·.inRoom (·.tell))

/-- The oldest request to the backend that waits for its answer: the number of its login, and its
own. -/
def held? (w : World ν) : Option (Nat × Nat) :=
  let helds := (List.range w.logins.length).filterMap fun i =>
    ((w.course? i).bind (·.heldNumber?)).map (i, ·)
  helds.foldl (fun oldest h =>
    match oldest with
    | none => some h
    | some o => if h.2 < o.2 then some h else some o) none

/-- The answer to the request of a login that waits for one. -/
def respond (w : World ν) (i : Nat) (outcome : Http.Outcome) : World ν :=
  w.inCourse i (·.respond outcome)

/-- The number of the oldest request to a security key that waits for its reply, with the number of
its login. -/
def asking? (w : World ν) : Option (Nat × Nat) :=
  (List.range w.logins.length).findSome? fun i =>
    (((w.course? i).bind (·.room?)).bind (·.askingNumber?)).map (i, ·)

/-- The reply to the oldest request of a login to a security key that waits for one. -/
def reply (w : World ν) (i : Nat) (next : Key.Behaviour) : World ν :=
  w.inCourse i (·.inRoom (·.onScene (·.reply next)))

end World

end SecondFactor.Login
