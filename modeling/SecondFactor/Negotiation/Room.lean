import SecondFactor.Negotiation.Dialog
import SecondFactor.Negotiation.Turn

/-!
# Rooms

A room holds a negotiation together with those who wait for something in it: tasks that confirm the
active method, tasks that wait for the outcome, a dialog, and a watcher that waits for the dialog to
be closed. Turns are taken one after the other, in the order in which they became due.
-/

namespace SecondFactor.Negotiation

/-- The turns of those who wait in a room. -/
inductive Room.Turn where
  | confirm (i : Nat)
  /-- Confirmation `i` is told that what it waits for ended. -/
  | confirmNotified (i : Nat)
  | read (i : Nat)
  /-- Reader `i` is told that the outcome is known. -/
  | readNotified (i : Nat)
  | dialog
  /-- The dialog is told that what its confirmation number `k` set off ended. -/
  | dialogNotified (k : Nat)
  | watch
  /-- The turn of whoever let the dialog in. -/
  | host
  /-- The host is told that the dialog ended or was closed. -/
  | hostParting
  /-- The host is told that the outcome is known. -/
  | hostOutcome
  deriving DecidableEq, Repr

/-- Those who wait in a room. -/
structure Room.Guests (ν : Type) where
  /-- The tasks that confirm, the oldest first. -/
  confirmations : List (Task Unit Unit) := []
  /-- The tasks that wait for the outcome, the oldest first. -/
  readers : List (Task Unit Ticket) := []
  /-- What the dialog is going to do from its first turn on. -/
  script : Dialog ν := .ends (.returned ())
  dialog : Task (Dialog.Wait ν) Unit := .finished (.returned ())
  /-- How often the dialog had to wait for a confirmation. -/
  confirmed : Nat := 0
  watcher : Task Unit Unit := .finished (.returned ())

/-- A negotiation with those who wait in it. -/
structure Room (ν : Type) extends Scene Room.Turn ν, Room.Guests ν

namespace Room

variable {ν : Type}

/-- Changes the scene only. -/
def onScene (r : Room ν) (f : Scene Room.Turn ν → Scene Room.Turn ν) : Room ν :=
  { r with toScene := f r.toScene }

/-- Makes a turn due, if a task changed so that it is. -/
def enqueueIf (r : Room ν) (isDue : Bool) (t : Room.Turn) : Room ν :=
  if isDue then r.onScene (·.enqueue [.caller t]) else r

/-! ## Confirmations -/

/-- Puts a confirmation into another state. Its turn becomes due with it. -/
def updateConfirmation (r : Room ν) (i : Nat) (f : Task Unit Unit → Task Unit Unit) : Room ν :=
  match r.confirmations[i]? with
  | none => r
  | some t =>
    enqueueIf { r with confirmations := r.confirmations.set i (f t) }
      ((f t).isDue && !t.isDue) (.confirm i)

/-- A confirmation begins. -/
def beginConfirmation (r : Room ν) (i : Nat) : Room ν :=
  match r.toScene.confirm (.confirmNotified i) with
  | .error e => r.updateConfirmation i fun _ => .finished (.failed (.plain e))
  | .ok (true, scene) =>
    updateConfirmation { r with toScene := scene } i fun _ => .waitingFor ()
  | .ok (false, scene) =>
    updateConfirmation { r with toScene := scene } i fun _ => .finished (.returned ())

/-- The turn of a confirmation. -/
def runConfirmation (r : Room ν) (i : Nat) : Room ν :=
  match r.confirmations[i]? with
  | none => r
  | some t =>
    match t.start with
    | .idle => r
    | .first => r.beginConfirmation i
    | .news _ => r.updateConfirmation i fun _ => .finished (.returned ())
    | .cancelled _ | .cancelledLate _ => r.updateConfirmation i fun _ => .finished .cancelled

/-! ## Readers of the outcome -/

/-- Puts a reader into another state. Its turn becomes due with it. -/
def updateReader (r : Room ν) (i : Nat) (f : Task Unit Ticket → Task Unit Ticket) : Room ν :=
  match r.readers[i]? with
  | none => r
  | some t =>
    enqueueIf { r with readers := r.readers.set i (f t) } ((f t).isDue && !t.isDue) (.read i)

/-- A reader looks for the outcome. -/
def readOutcome (r : Room ν) (i : Nat) : Room ν :=
  match r.toScene.awaitOutcome (.readNotified i) with
  | (some outcome, scene) =>
    updateReader { r with toScene := scene } i fun _ => .finished (.ofExcept outcome)
  | (none, scene) => updateReader { r with toScene := scene } i fun _ => .waitingFor ()

/-- The turn of a reader. -/
def runReader (r : Room ν) (i : Nat) : Room ν :=
  match r.readers[i]? with
  | none => r
  | some t =>
    match t.start with
    | .idle => r
    | .first | .news _ => r.readOutcome i
    | .cancelled _ | .cancelledLate _ => r.updateReader i fun _ => .finished .cancelled

/-! ## The dialog -/

/-- Applies an action, and gives back why it was refused if it was. -/
def act (r : Room ν) (a : Action) : Option LoginError × Room ν :=
  match r.toScene.act a with
  | .ok scene => (none, { r with toScene := scene })
  | .error e => (some e, r)

/-- Puts the dialog into another state. Its turn becomes due with it. -/
def updateDialog (r : Room ν) (f : Task (Dialog.Wait ν) Unit → Task (Dialog.Wait ν) Unit) :
    Room ν :=
  enqueueIf { r with dialog := f r.dialog } ((f r.dialog).isDue && !r.dialog.isDue) .dialog

/-- Ends the dialog, and lets the host know. -/
def endDialog (r : Room ν) (how : Ending Unit) : Room ν :=
  enqueueIf { r with dialog := .finished how } true .hostParting

/-- Goes on with the dialog until it has to wait or ends. -/
def proceed : Dialog ν → Room ν → Room ν
  | .ends how, r => r.endDialog how
  | .notes n next, r => proceed next (r.onScene (·.note [.noted n]))
  | .looks next, r => proceed (next r.view) r
  | .acts a next, r => proceed (next (r.act a).1) (r.act a).2
  | .confirms next, r =>
    match r.toScene.confirm (.dialogNotified r.confirmed) with
    | .error e => proceed (next (.failed (.plain e))) r
    | .ok (false, scene) => proceed (next (.returned ())) { r with toScene := scene }
    | .ok (true, scene) =>
      { r with
        toScene := scene
        confirmed := r.confirmed + 1
        dialog := .waitingFor (.confirmation r.confirmed next) }
  | .waits what next onCancel, r =>
    { r with dialog := .waitingFor (.outside what next onCancel) }

/-- The turn of the dialog. -/
def runDialog (r : Room ν) : Room ν :=
  match r.dialog.start with
  | .idle => r
  | .first => proceed r.script r
  | .news (.confirmation _ next) => proceed (next (.returned ())) r
  | .news (.outside _ next _) => proceed next r
  | .cancelled none => r.endDialog .cancelled
  | .cancelled (some (.confirmation _ next)) | .cancelledLate (.confirmation _ next) =>
    proceed (next .cancelled) r
  | .cancelled (some (.outside _ _ onCancel)) | .cancelledLate (.outside _ _ onCancel) =>
    proceed onCancel r

/-- Tells the dialog that what its confirmation number `k` set off ended. -/
def notifyDialog (r : Room ν) (k : Nat) : Room ν :=
  match r.dialog.awaits? with
  | some (.confirmation j next) =>
    if j = k then r.updateDialog (Task.wake (.confirmation j next)) else r
  | _ => r

/-- What the dialog waits for outside of the negotiation, if it does. -/
def dialogAwaits? (r : Room ν) : Option ν :=
  match r.dialog.awaits? with
  | some (.outside what _ _) => some what
  | _ => none

/-- Tells the dialog that what it waits for outside of the negotiation is there. -/
def tell (r : Room ν) : Room ν :=
  match r.dialog.awaits? with
  | some (.outside what next onCancel) =>
    r.updateDialog (Task.wake (.outside what next onCancel))
  | _ => r

/-! ## The watcher -/

/-- Ends the watcher, and lets the host know. -/
def endWatcher (r : Room ν) (how : Ending Unit) : Room ν :=
  enqueueIf { r with watcher := .finished how } true .hostParting

/-- The turn of the watcher. It is due at once when the dialog is closed. -/
def runWatcher (r : Room ν) : Room ν :=
  match r.watcher.start with
  | .first =>
    match r.toScene.awaitClosed .watch with
    | (true, scene) => { r with toScene := scene, watcher := .waitingFor () }
    | (false, _) => r.endWatcher (.returned ())
  | .cancelled _ | .cancelledLate _ => r.endWatcher .cancelled
  | .news _ => r.endWatcher (.returned ())
  | .idle => if r.closed && !r.watcher.isOver then r.endWatcher (.returned ()) else r

/-- Cancels the watcher. -/
def cancelWatcher (r : Room ν) : Room ν :=
  enqueueIf { r with watcher := r.watcher.cancel }
    (r.watcher.cancel.isDue && !r.watcher.isDue) .watch

/-! ## Turns -/

/-- Takes a turn. What a host does in its own turns is not known here. -/
def run (r : Room ν) : Negotiation.Turn Room.Turn → Room ν
  | .caller (.confirm i) => r.runConfirmation i
  | .caller (.confirmNotified i) => r.updateConfirmation i (Task.wake ())
  | .caller (.read i) => r.runReader i
  | .caller (.readNotified i) => r.updateReader i (Task.wake ())
  | .caller .dialog => r.runDialog
  | .caller (.dialogNotified k) => r.notifyDialog k
  | .caller .watch => r.runWatcher
  | t => r.onScene (·.run t)

/-- Takes turns until none is due, but no more than `fuel` of them. -/
def settle : Nat → Room ν → Room ν
  | 0, r => r
  | fuel + 1, r =>
    match r.queue with
    | [] => r
    | t :: rest => settle fuel (run { r with queue := rest } t)

/-! ## Calls from outside -/

/-- Lets a new task confirm the active method. -/
def confirm (r : Room ν) : Room ν :=
  enqueueIf { r with confirmations := r.confirmations ++ [.fresh] } true
    (.confirm r.confirmations.length)

/-- Lets a new task wait for the outcome. -/
def read (r : Room ν) : Room ν :=
  enqueueIf { r with readers := r.readers ++ [.fresh] } true (.read r.readers.length)

/-- Lets a dialog in. -/
def letIn (r : Room ν) (script : Dialog ν) : Room ν :=
  enqueueIf { r with script, dialog := .fresh } true .dialog

/-- Lets a watcher in. -/
def watch (r : Room ν) : Room ν := enqueueIf { r with watcher := .fresh } true .watch

/-- Cancels a confirmation. -/
def cancelConfirmation (r : Room ν) (i : Nat) : Room ν := r.updateConfirmation i Task.cancel

/-- Cancels a reader. -/
def cancelReader (r : Room ν) (i : Nat) : Room ν := r.updateReader i Task.cancel

/-- Cancels the dialog. -/
def cancelDialog (r : Room ν) : Room ν := r.updateDialog Task.cancel

end Room

end SecondFactor.Negotiation
