import SecondFactor.Failure

/-!
# Tasks

A task works in turns. Between two of them it waits for something, until that is there or the task
is cancelled. A cancelled task learns of it in its next turn, and may go on all the same.
-/

namespace SecondFactor

/-- How a task ends. -/
inductive Ending (α : Type) where
  | returned (value : α)
  | failed (failure : Failure)
  | cancelled

/-- How a task ends that comes to a result or a failure. -/
def Ending.ofExcept {α : Type} : Except Failure α → Ending α
  | .ok a => .returned a
  | .error f => .failed f

/-- Where a task stands: before its first turn, between two turns, or behind its last one. What it
waits for is replaced by what came of it once that is known. -/
inductive Task.Phase (ω α : Type) where
  | ready
  | waiting (on : ω)
  | woken (news : ω)
  | ended (how : Ending α)

/-- A task that waits for an `ω` and returns an `α`. -/
structure Task (ω α : Type) where
  phase : Task.Phase ω α := .ready
  /-- Whether it is going to be told that it is cancelled. -/
  cancelling : Bool := false

namespace Task

variable {ω α : Type}

/-- A task that was not begun yet. -/
def fresh : Task ω α := {}

/-- A task between two turns. -/
def waitingFor (on : ω) : Task ω α := { phase := .waiting on }

/-- A task behind its last turn. -/
def finished (how : Ending α) : Task ω α := { phase := .ended how }

/-- How a task ended, if it did. -/
def ending? (t : Task ω α) : Option (Ending α) :=
  match t.phase with
  | .ended how => some how
  | _ => none

/-- Whether a task ended. -/
def isOver (t : Task ω α) : Bool := t.ending?.isSome

/-- What a task waits for, unless it is cancelled. -/
def awaits? (t : Task ω α) : Option ω :=
  match t.phase, t.cancelling with
  | .waiting on, false => some on
  | _, _ => none

/-- Whether the next turn of a task is due. -/
def isDue (t : Task ω α) : Bool :=
  match t.phase with
  | .ready | .woken _ => true
  | .waiting _ => t.cancelling
  | .ended _ => false

/-- Cancels a task, unless it ended. -/
def cancel (t : Task ω α) : Task ω α := if t.isOver then t else { t with cancelling := true }

/-- Tells a task what came of what it waits for. A task that is cancelled waits no more. -/
def wake (news : ω) (t : Task ω α) : Task ω α :=
  match t.phase, t.cancelling with
  | .waiting _, false => { t with phase := .woken news }
  | _, _ => t

/-- What a task finds in its next turn. -/
inductive Start (ω : Type) where
  /-- There is nothing to do. -/
  | idle
  | first
  | news (news : ω)
  /-- The task was cancelled while it waited, or before its first turn. -/
  | cancelled (on : Option ω)
  /-- The task was cancelled when the news had already come. -/
  | cancelledLate (news : ω)

/-- What a task finds in its next turn. -/
def start (t : Task ω α) : Start ω :=
  match t.phase, t.cancelling with
  | .ready, false => .first
  | .ready, true => .cancelled none
  | .waiting _, false => .idle
  | .waiting on, true => .cancelled (some on)
  | .woken news, false => .news news
  | .woken news, true => .cancelledLate news
  | .ended _, _ => .idle

end Task

end SecondFactor
