import Mathlib.Data.List.Induction
import SecondFactor.Proofs.Negotiation.Guests

/-! # What happens while a dialog waits

Others act, confirm, and answer for the security key and the backend, while a dialog waits. They
leave its task alone, but for telling it that what it waits for is there. -/

namespace SecondFactor.Negotiation

variable {ν : Type}

/-- How a dialog goes on when what it waits for is there. -/
def Dialog.Wait.told : Dialog.Wait ν → Dialog ν
  | .confirmation _ next => next (.returned ())
  | .outside _ next _ => next

/-- Whether the dialog among some guests is left alone, but for being told what it waits for. -/
structure Room.Guests.Spares (g g' : Room.Guests ν) : Prop where
  script : g'.script = g.script
  dialog : g'.dialog = g.dialog ∨
    ∃ w, g.dialog.awaits? = some w ∧ g'.dialog = { phase := .woken w }

namespace Room

/-- Whether a move neither cancels the dialog nor puts another one in its place. -/
def Move.sparesDialog : Room.Move ν → Bool
  | .letIn _ | .cancelDialog => false
  | _ => true

/-- Whether such a move is that of somebody else than the dialog. -/
def Move.isOthers : Room.Move ν → Bool
  | .turn (.caller .dialog) => false
  | m => m.sparesDialog

theorem Guests.Spares.of_same {g g' : Guests ν} (hscript : g'.script = g.script)
    (hdialog : g'.dialog = g.dialog) : g.Spares g' :=
  ⟨hscript, .inl hdialog⟩

/-- A turn becomes due when a task changes that is not the dialog's. -/
theorem spares_change (r : Room ν) (confirmations : List (Task Unit Unit))
    (readers : List (Task Unit Ticket)) (watcher : Task Unit Unit) (isDue : Bool) (t : Room.Turn) :
    r.toGuests.Spares
      (enqueueIf { r with confirmations, readers, watcher } isDue t).toGuests := by
  rw [toGuests_enqueueIf]
  exact .of_same rfl rfl

theorem spares_updateConfirmation (r : Room ν) (i : Nat) (f : Task Unit Unit → Task Unit Unit) :
    r.toGuests.Spares (r.updateConfirmation i f).toGuests := by
  unfold updateConfirmation
  cases r.confirmations[i]? with
  | none => exact .of_same rfl rfl
  | some t => exact spares_change r (r.confirmations.set i (f t)) _ _ _ _

theorem spares_runConfirmation (r : Room ν) (i : Nat) :
    r.toGuests.Spares (r.runConfirmation i).toGuests := by
  have hbegins : r.toGuests.Spares (r.beginConfirmation i).toGuests := by
    unfold beginConfirmation
    split
    · exact spares_updateConfirmation r i _
    · rename_i s _
      exact spares_updateConfirmation { r with toScene := s } i _
    · rename_i s _
      exact spares_updateConfirmation { r with toScene := s } i _
  unfold runConfirmation
  cases r.confirmations[i]? with
  | none => exact .of_same rfl rfl
  | some t =>
    dsimp only
    split
    · exact .of_same rfl rfl
    · exact hbegins
    all_goals exact spares_updateConfirmation r i _

theorem spares_updateReader (r : Room ν) (i : Nat) (f : Task Unit Ticket → Task Unit Ticket) :
    r.toGuests.Spares (r.updateReader i f).toGuests := by
  unfold updateReader
  cases r.readers[i]? with
  | none => exact .of_same rfl rfl
  | some t => exact spares_change r _ (r.readers.set i (f t)) _ _ _

theorem spares_runReader (r : Room ν) (i : Nat) :
    r.toGuests.Spares (r.runReader i).toGuests := by
  have hreads : r.toGuests.Spares (r.readOutcome i).toGuests := by
    unfold readOutcome
    split
    all_goals
      rename_i s _
      exact spares_updateReader { r with toScene := s } i _
  unfold runReader
  cases r.readers[i]? with
  | none => exact .of_same rfl rfl
  | some t =>
    dsimp only
    split
    · exact .of_same rfl rfl
    · exact hreads
    · exact hreads
    all_goals exact spares_updateReader r i _

/-- A dialog is told what it waits for. -/
theorem spares_wake (r : Room ν) {w : Dialog.Wait ν} (hw : r.dialog.awaits? = some w) :
    r.toGuests.Spares (r.updateDialog (Task.wake w)).toGuests := by
  unfold updateDialog
  rw [toGuests_enqueueIf, Task.wake_of_awaits hw]
  exact ⟨rfl, .inr ⟨w, hw, rfl⟩⟩

theorem spares_notifyDialog (r : Room ν) (k : Nat) :
    r.toGuests.Spares (r.notifyDialog k).toGuests := by
  unfold notifyDialog
  split
  · rename_i hw
    split
    · exact spares_wake r hw
    · exact .of_same rfl rfl
  · exact .of_same rfl rfl

theorem spares_tell (r : Room ν) : r.toGuests.Spares r.tell.toGuests := by
  unfold tell
  split
  · rename_i hw
    exact spares_wake r hw
  · exact .of_same rfl rfl

theorem spares_run (r : Room ν) {t : Negotiation.Turn Room.Turn}
    (ht : (Move.turn t : Room.Move ν).isOthers = true) : r.toGuests.Spares (r.run t).toGuests := by
  cases t with
  | caller t =>
    cases t with
    | confirm i => exact spares_runConfirmation r i
    | confirmNotified i => exact spares_updateConfirmation r i _
    | read i => exact spares_runReader r i
    | readNotified i => exact spares_updateReader r i _
    | dialog => cases ht
    | dialogNotified k => exact spares_notifyDialog r k
    | watch =>
      obtain ⟨hscript, hdialog⟩ := dialog_runWatcher r
      exact .of_same hscript hdialog
    | host | hostParting | hostOutcome => exact .of_same rfl rfl
  | attempt _ | attemptEnded _ | attemptNotified _ | submission | submissionEnded =>
    exact .of_same rfl rfl

/-- Others spare the dialog. -/
theorem spares_move (script : Nat → Http.Outcome) (r : Room ν) {m : Room.Move ν}
    (hm : m.isOthers = true) : r.toGuests.Spares (r.move script m).toGuests := by
  cases m with
  | scene m => exact .of_same rfl rfl
  | turn t => exact spares_run r hm
  | confirm => exact spares_change r (r.confirmations ++ [.fresh]) _ _ _ _
  | read => exact spares_change r _ (r.readers ++ [.fresh]) _ _ _
  | letIn d => cases hm
  | watch => exact spares_change r _ _ .fresh _ _
  | tell => exact spares_tell r
  | cancelConfirmation i => exact spares_updateConfirmation r i _
  | cancelReader i => exact spares_updateReader r i _
  | cancelDialog => cases hm
  | cancelWatcher => exact spares_change r _ _ r.watcher.cancel _ _

/-! ## Between two turns of a dialog -/

/-- Whether others lead from a room to another while the dialog waits. -/
inductive Meanwhile (script : Nat → Http.Outcome) (r : Room ν) : Room ν → Prop where
  | refl : Meanwhile script r r
  | move {r' : Room ν} (h : Meanwhile script r r') {m : Room.Move ν} (hm : m.isOthers = true) :
      Meanwhile script r (r'.move script m)

/-- Whether a dialog waits for something, or has just been told that it is there. -/
def Awaits (r : Room ν) (w : Dialog.Wait ν) : Prop :=
  r.dialog = .waitingFor w ∨ r.dialog = { phase := .woken w }

/-- A dialog that waits goes on in its turn, if it was told. -/
theorem runDialog_of_awaits {r : Room ν} {w : Dialog.Wait ν} (h : r.Awaits w) :
    r.runDialog = r ∨ r.runDialog = proceed w.told r := by
  rcases h with hwaits | hwoken
  · have hidle : r.dialog.start = .idle := congrArg Task.start hwaits
    exact .inl (by rw [runDialog, hidle])
  · have hnews : r.dialog.start = .news w := congrArg Task.start hwoken
    rw [runDialog, hnews]
    cases w <;> exact .inr rfl

namespace Meanwhile

variable {script : Nat → Http.Outcome} {r r' : Room ν}

/-- A dialog that was not begun yet is not begun by others. -/
theorem fresh (h : Meanwhile script r r') (hr : r.dialog = .fresh) :
    r'.script = r.script ∧ r'.dialog = .fresh := by
  induction h with
  | refl => exact ⟨rfl, hr⟩
  | @move r' h m hm ih =>
    obtain ⟨hscript, hdialog⟩ := spares_move script r' hm
    rw [ih.2] at hdialog
    obtain hsame | ⟨w, hw, -⟩ := hdialog
    · exact ⟨hscript.trans ih.1, hsame⟩
    · cases hw

theorem awaits (h : Meanwhile script r r') {w : Dialog.Wait ν} (hr : r.Awaits w) :
    r'.Awaits w := by
  induction h with
  | refl => exact hr
  | @move r' h m hm ih =>
    obtain ⟨-, hsame | ⟨w', hw', hwoken⟩⟩ := spares_move script r' hm
    · exact ih.imp hsame.trans hsame.trans
    · rcases ih with hwaits | hwoken'
      · rw [hwaits] at hw'
        cases hw'
        exact .inr hwoken
      · rw [hwoken'] at hw'
        cases hw'

/-- A dialog that is over stays so. -/
theorem ending (h : Meanwhile script r r') {how : Ending Unit} (hr : r.dialog = .finished how) :
    r'.dialog = .finished how := by
  induction h with
  | refl => exact hr
  | @move r' h m hm ih =>
    obtain ⟨-, hsame | ⟨w, hw, -⟩⟩ := spares_move script r' hm
    · exact hsame.trans ih
    · rw [ih] at hw
      cases hw

end Meanwhile

end Room

end SecondFactor.Negotiation
