import SecondFactor.Login.World
import SecondFactor.Proofs.Negotiation.Guests
import SecondFactor.Proofs.Negotiation.Surroundings

/-! # Runs of logins

Logins begin, are cancelled and take turns in any order, while the backend and the security key
answer at any time. What was done for a login can be read from the log. -/

namespace SecondFactor.Login

open Negotiation (Room)

/-- What can happen in a world. -/
inductive Move (ν : Type) where
  | login (credentials : Credentials) (keep : Bool) (levels : Nat) (dialog : Negotiation.Dialog ν)
  | cancel (i : Nat)
  /-- What the dialog of login `i` waits for outside of its negotiation is there. -/
  | tell (i : Nat)
  /-- The backend answers the request of login `i`, after it kept it waiting. -/
  | respond (i : Nat)
  /-- The reply to the request of attempt `j` of login `i` comes. -/
  | reply (i j : Nat) (next : Key.Behaviour)
  /-- A turn is taken. It need not be the one that has been due for longest. -/
  | turn (i : Nat) (t : Negotiation.Turn Room.Turn)
  /-- Turns become due, or are forgotten. -/
  | queue (queue : List (Nat × Negotiation.Turn Room.Turn))

namespace World

variable {ν : Type}

/-- A world before any login. Its backend answers as the script says: some requests it keeps waiting,
all others at once. -/
def opening (client : Http.Client) (script : Nat → Http.Outcome) (held : Nat → Bool)
    (adapter : Option Key.Adapter) (store : Store) : World ν where
  client
  backend := fun number => if held number then none else some (script number)
  adapter
  store

variable (script : Nat → Http.Outcome)

/-- Makes a move. The script says what the backend answers to which request. -/
def move (w : World ν) : Move ν → World ν
  | .login credentials keep levels dialog => w.login credentials keep levels dialog
  | .cancel i => w.cancel i
  | .tell i => w.tell i
  | .respond i =>
    match (w.course? i).bind (·.heldNumber?) with
    | some number => w.respond i (script number)
    | none => w
  | .reply i j next => w.inCourse i (·.inRoom (·.onScene (·.replyTo j next)))
  | .turn i t => w.inCourse i (·.run t)
  | .queue queue => { w with queue }

/-- Makes moves, the first one first. -/
def moves (w : World ν) (ms : List (Move ν)) : World ν := ms.foldl (move script) w

/-- What every move keeps is kept by every run. -/
theorem moves_induction {P : World ν → Prop} (hstep : ∀ w m, P w → P (w.move script m))
    {w : World ν} (hw : P w) (ms : List (Move ν)) : P (w.moves script ms) := by
  induction ms generalizing w with
  | nil => exact hw
  | cons m ms ih => exact ih (hstep w m hw)

/-- Whether a run leads to a world from one without logins. -/
def Reached (w : World ν) : Prop :=
  ∃ client held adapter store ms, w = (opening client script held adapter store).moves script ms

/-- Turns that are taken as they become due make moves. -/
theorem settle_eq_moves (fuel : Nat) (w : World ν) : ∃ ms, settle fuel w = w.moves script ms := by
  induction fuel generalizing w with
  | zero => exact ⟨[], rfl⟩
  | succ fuel ih =>
    unfold settle
    cases w.queue with
    | nil => exact ⟨[], rfl⟩
    | cons first rest =>
      obtain ⟨i, t⟩ := first
      obtain ⟨ms, hms⟩ := ih (inCourse { w with queue := rest } i (·.run t))
      exact ⟨.queue rest :: .turn i t :: ms, hms⟩

end World

/-! ## What the log says -/

variable {ν : Type}

/-- The number of the request to the backend that an event is about. -/
def Event.requested? : Event ν → Option Nat
  | .negotiation e => e.requested?
  | _ => none

/-- The ticket that was handed on. -/
def Event.established? : Event ν → Option Ticket
  | .established t => some t
  | _ => none

/-- Whether the session was made unusable. -/
def Event.isCleared : Event ν → Bool
  | .cleared => true
  | _ => false

/-- The numbers of the requests to the backend in a list of events. -/
def requested (es : List (Event ν)) : List Nat := es.filterMap Event.requested?

/-- The tickets that were handed on. -/
def established (es : List (Event ν)) : List Ticket := es.filterMap Event.established?

/-- How often the session was made unusable. -/
def clearings (es : List (Event ν)) : Nat := es.countP Event.isCleared

theorem requested_append (es fs : List (Event ν)) :
    requested (es ++ fs) = requested es ++ requested fs :=
  List.filterMap_append

theorem established_append (es fs : List (Event ν)) :
    established (es ++ fs) = established es ++ established fs :=
  List.filterMap_append

theorem clearings_append (es fs : List (Event ν)) :
    clearings (es ++ fs) = clearings es + clearings fs :=
  List.countP_append

/-- The events of a login. -/
def World.eventsOf (w : World ν) (i : Nat) : List (Event ν) :=
  (w.log.filter (·.1 == i)).map Prod.snd

end SecondFactor.Login
