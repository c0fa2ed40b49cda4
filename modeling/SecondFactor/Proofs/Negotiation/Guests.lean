import SecondFactor.Negotiation.Room
import SecondFactor.Proofs.Negotiation.Run
import SecondFactor.Proofs.Task

/-! # Guests make moves

Whatever happens in a room, whether a dialog, a confirmation or a watcher takes its turn, is a run of
the negotiation in it. What is known of all runs therefore holds in every room. Guests never answer
for the security key or the backend, and a dialog takes no actions but those in its tree. -/

namespace SecondFactor.Negotiation

/-! ## Actions of dialogs -/

section

variable {ν : Type} (P : Action → Prop)

/-- Whether a dialog takes only such actions, whatever it sees. -/
def Dialog.Within : Dialog ν → Prop
  | .ends _ => True
  | .notes _ next => next.Within
  | .looks next => ∀ v, (next v).Within
  | .acts a next => P a ∧ ∀ e, (next e).Within
  | .confirms next => ∀ how, (next how).Within
  | .waits _ next onCancel => next.Within ∧ onCancel.Within

/-- Whether a dialog that waits takes only such actions later on. -/
def Dialog.Wait.Within : Dialog.Wait ν → Prop
  | .confirmation _ next => ∀ how, (next how).Within P
  | .outside _ next onCancel => next.Within P ∧ onCancel.Within P

/-- Whether a dialog between two turns takes only such actions later on. -/
def Dialog.Keeps (t : Task (Dialog.Wait ν) Unit) : Prop :=
  match t.phase with
  | .waiting w | .woken w => w.Within P
  | .ready | .ended _ => True

/-- Whether the dialog in a room takes only such actions from now on. -/
structure Room.Guests.Within (g : Room.Guests ν) : Prop where
  script : g.script.Within P
  dialog : Dialog.Keeps P g.dialog

variable {P}

theorem Dialog.within_of_forall (hP : ∀ a, P a) (d : Dialog ν) : d.Within P := by
  induction d with
  | ends how => trivial
  | notes n next ih => exact ih
  | looks next ih => exact ih
  | acts a next ih => exact ⟨hP a, ih⟩
  | confirms next ih => exact ih
  | waits what next onCancel ih ih' => exact ⟨ih, ih'⟩

theorem Dialog.Wait.within_of_forall (hP : ∀ a, P a) (w : Dialog.Wait ν) : w.Within P := by
  cases w with
  | confirmation k next => exact fun how => (next how).within_of_forall hP
  | outside what next onCancel =>
    exact ⟨next.within_of_forall hP, onCancel.within_of_forall hP⟩

theorem Room.Guests.within_of_forall (hP : ∀ a, P a) (g : Room.Guests ν) : g.Within P := by
  refine ⟨g.script.within_of_forall hP, ?_⟩
  unfold Dialog.Keeps
  split
  · exact Dialog.Wait.within_of_forall hP _
  · exact Dialog.Wait.within_of_forall hP _
  all_goals trivial

theorem Dialog.Keeps.cancel {t : Task (Dialog.Wait ν) Unit} (ht : Dialog.Keeps P t) :
    Dialog.Keeps P t.cancel := by
  unfold Dialog.Keeps at ht ⊢
  rwa [Task.phase_cancel]

theorem Dialog.Keeps.wake {t : Task (Dialog.Wait ν) Unit} {w : Dialog.Wait ν}
    (ht : Dialog.Keeps P t) (hw : t.awaits? = some w) : Dialog.Keeps P (t.wake w) := by
  unfold Dialog.Keeps at ht
  rw [Task.phase_of_awaits hw] at ht
  rwa [Task.wake_of_awaits hw]

end

/-! ## What guests do to a negotiation -/

/-- Whether guests who take only such actions lead from a scene to another. -/
inductive Scene.Visited {τ ν : Type} (P : Action → Prop) : Scene τ ν → Scene τ ν → Prop where
  | refl (s : Scene τ ν) : Visited P s s
  | trans {s s' s'' : Scene τ ν} (h : Visited P s s') (h' : Visited P s' s'') : Visited P s s''
  | act {s s' : Scene τ ν} {a : Action} (ha : P a) (h : s.act a = .ok s') : Visited P s s'
  | confirm {s s' : Scene τ ν} {caller : τ} {waits : Bool}
      (h : s.confirm caller = .ok (waits, s')) : Visited P s s'
  | awaitClosed (s : Scene τ ν) (caller : τ) : Visited P s (s.awaitClosed caller).2
  | awaitOutcome (s : Scene τ ν) (caller : τ) : Visited P s (s.awaitOutcome caller).2
  | enqueue (s : Scene τ ν) (t : τ) : Visited P s (s.enqueue [.caller t])
  | noted (s : Scene τ ν) (n : ν) : Visited P s (s.note [.noted n])

/-- Whether a run leads from a scene to another. -/
def Scene.Leads {τ ν : Type} (script : Nat → Http.Outcome) (s s' : Scene τ ν) : Prop :=
  ∃ ms, s' = s.moves script ms

namespace Scene.Leads

variable {τ ν : Type} {script : Nat → Http.Outcome}

theorem refl (s : Scene τ ν) : s.Leads script s := ⟨[], rfl⟩

theorem trans {s s' s'' : Scene τ ν} (h : s.Leads script s') (h' : s'.Leads script s'') :
    s.Leads script s'' := by
  obtain ⟨ms, rfl⟩ := h
  obtain ⟨ms', rfl⟩ := h'
  exact ⟨ms ++ ms', (s.moves_append script ms ms').symm⟩

theorem move (s : Scene τ ν) (m : Move τ ν) : s.Leads script (s.move script m) := ⟨[m], rfl⟩

/-- Guests make moves. -/
theorem visited {P : Action → Prop} {s s' : Scene τ ν} (h : s.Visited P s') :
    s.Leads script s' := by
  induction h with
  | refl s => exact .refl s
  | trans _ _ ih ih' => exact ih.trans ih'
  | @act s s' a _ h => exact ⟨[.act a], by simp [Scene.moves, Scene.move, h]⟩
  | @confirm s s' caller _ h => exact ⟨[.confirm caller], by simp [Scene.moves, Scene.move, h]⟩
  | awaitClosed s caller => exact .move s (.awaitClosed caller)
  | awaitOutcome s caller => exact .move s (.awaitOutcome caller)
  | enqueue s t =>
    refine ⟨[.aside s.unused (s.queue ++ [.caller t]) []], ?_⟩
    simp [Scene.move, Scene.enqueue, Outside.usedBy_unused]
  | noted s n =>
    refine ⟨[.aside s.unused s.queue [n]], ?_⟩
    simp [Scene.move, Scene.note, Outside.usedBy_unused]

end Scene.Leads

namespace Room

variable {ν : Type} {P : Action → Prop} {r r' : Room ν}

/-- What guests do in a room, in small steps. They leave the watcher alone. A dialog whose task is told
of something does not end by that, and one that is over stays so. -/
inductive Visits (P : Action → Prop) : Room ν → Room ν → Prop where
  | refl (r : Room ν) : Visits P r r
  | trans {r r' r'' : Room ν} (h : Visits P r r') (h' : Visits P r' r'') : Visits P r r''
  | scene (r : Room ν) {s : Scene Room.Turn ν} (h : r.toScene.Visited P s) :
      Visits P r { r with toScene := s }
  | tasks (r : Room ν) (confirmations : List (Task Unit Unit)) (readers : List (Task Unit Ticket))
      (confirmed : Nat) : Visits P r { r with confirmations, readers, confirmed }
  | dialog (r : Room ν) {t : Task (Dialog.Wait ν) Unit} (ht : Dialog.Keeps P t)
      (hover : t.isOver = r.dialog.isOver) : Visits P r { r with dialog := t }
  | ends (r : Room ν) (how : Ending Unit) : Visits P r (r.endDialog how)

theorem visited_enqueueIf (r : Room ν) (isDue : Bool) (t : Room.Turn) :
    r.toScene.Visited P (r.enqueueIf isDue t).toScene := by
  cases isDue with
  | false => exact .refl r.toScene
  | true => exact .enqueue r.toScene t

theorem toGuests_enqueueIf (r : Room ν) (isDue : Bool) (t : Room.Turn) :
    (r.enqueueIf isDue t).toGuests = r.toGuests := by
  cases isDue <;> rfl

theorem Visits.enqueueIf (r : Room ν) (isDue : Bool) (t : Room.Turn) :
    Visits P r (r.enqueueIf isDue t) := by
  cases isDue with
  | false => exact .refl r
  | true => exact .scene r (.enqueue r.toScene t)

/-- What guests do to a room, they do to the negotiation in it. -/
theorem Visits.visited (h : Visits P r r') : r.toScene.Visited P r'.toScene := by
  induction h with
  | refl r => exact .refl r.toScene
  | trans _ _ ih ih' => exact ih.trans ih'
  | scene _ h => exact h
  | tasks r => exact .refl r.toScene
  | dialog r => exact .refl r.toScene
  | ends r how => exact visited_enqueueIf { r with dialog := .finished how } _ _

theorem Visits.within (h : Visits P r r') (hr : r.Within P) : r'.Within P := by
  induction h with
  | refl | scene | tasks => exact ⟨hr.script, hr.dialog⟩
  | trans _ _ ih ih' => exact ih' (ih hr)
  | dialog _ ht => exact ⟨hr.script, ht⟩
  | ends => exact ⟨hr.script, trivial⟩

theorem Visits.isOver (h : Visits P r r') (hover : r.dialog.isOver = true) :
    r'.dialog.isOver = true := by
  induction h with
  | refl | scene | tasks => exact hover
  | trans _ _ ih ih' => exact ih' (ih hover)
  | dialog _ _ hsame => exact hsame.trans hover
  | ends => rfl

theorem Visits.watcher (h : Visits P r r') : r'.watcher = r.watcher := by
  induction h with
  | refl | scene | tasks | dialog | ends => rfl
  | trans _ _ ih ih' => exact ih'.trans ih

/-! ## Confirmations and readers -/

theorem visits_updateConfirmation (r : Room ν) (i : Nat) (f : Task Unit Unit → Task Unit Unit) :
    Visits P r (r.updateConfirmation i f) := by
  unfold updateConfirmation
  cases r.confirmations[i]? with
  | none => exact .refl r
  | some t => exact (Visits.tasks r (r.confirmations.set i (f t)) _ _).trans (.enqueueIf _ _ _)

theorem visits_beginConfirmation (r : Room ν) (i : Nat) : Visits P r (r.beginConfirmation i) := by
  unfold beginConfirmation
  split
  · exact visits_updateConfirmation r i _
  all_goals
    rename_i h
    exact (Visits.scene r (.confirm h)).trans (visits_updateConfirmation _ i _)

theorem visits_runConfirmation (r : Room ν) (i : Nat) : Visits P r (r.runConfirmation i) := by
  unfold runConfirmation
  cases r.confirmations[i]? with
  | none => exact .refl r
  | some t =>
    dsimp only
    split
    · exact .refl r
    · exact visits_beginConfirmation r i
    all_goals exact visits_updateConfirmation r i _

theorem visits_updateReader (r : Room ν) (i : Nat) (f : Task Unit Ticket → Task Unit Ticket) :
    Visits P r (r.updateReader i f) := by
  unfold updateReader
  cases r.readers[i]? with
  | none => exact .refl r
  | some t => exact (Visits.tasks r _ (r.readers.set i (f t)) _).trans (.enqueueIf _ _ _)

theorem visits_readOutcome (r : Room ν) (i : Nat) : Visits P r (r.readOutcome i) := by
  have hasks : r.toScene.Visited P (r.toScene.awaitOutcome (.readNotified i)).2 :=
    .awaitOutcome r.toScene (.readNotified i)
  unfold readOutcome
  split
  all_goals
    rename_i h
    rw [h] at hasks
    exact (Visits.scene r hasks).trans (visits_updateReader _ i _)

theorem visits_runReader (r : Room ν) (i : Nat) : Visits P r (r.runReader i) := by
  unfold runReader
  cases r.readers[i]? with
  | none => exact .refl r
  | some t =>
    dsimp only
    split
    · exact .refl r
    · exact visits_readOutcome r i
    · exact visits_readOutcome r i
    all_goals exact visits_updateReader r i _

theorem visits_confirm (r : Room ν) : Visits P r r.confirm :=
  (Visits.tasks r (r.confirmations ++ [.fresh]) _ _).trans (.enqueueIf _ _ _)

theorem visits_read (r : Room ν) : Visits P r r.read :=
  (Visits.tasks r _ (r.readers ++ [.fresh]) _).trans (.enqueueIf _ _ _)

/-! ## The dialog -/

theorem visits_updateDialog (r : Room ν)
    {f : Task (Dialog.Wait ν) Unit → Task (Dialog.Wait ν) Unit} (hf : Dialog.Keeps P (f r.dialog))
    (hover : (f r.dialog).isOver = r.dialog.isOver) : Visits P r (r.updateDialog f) :=
  (Visits.dialog r hf hover).trans (.enqueueIf _ _ _)

theorem visits_act (r : Room ν) {a : Action} (ha : P a) : Visits P r (r.act a).2 := by
  unfold act
  cases h : r.toScene.act a with
  | error e => exact .refl r
  | ok s => exact .scene r (.act ha h)

theorem dialog_act (r : Room ν) (a : Action) : (r.act a).2.dialog = r.dialog := by
  unfold act
  split <;> rfl

/-- However a dialog goes on, it does so in small steps. -/
theorem visits_proceed {d : Dialog ν} (hd : d.Within P) (r : Room ν)
    (hrunning : r.dialog.isOver = false) : Visits P r (proceed d r) := by
  -- over the dialog as a tree, in any room, since every step may change the room
  induction d generalizing r with
  | ends how => exact .ends r how
  | notes n next ih =>
    exact (Visits.scene r (.noted r.toScene n)).trans
      (ih hd (r.onScene (·.note [.noted n])) hrunning)
  | looks next ih => exact ih r.view (hd r.view) r hrunning
  | acts a next ih =>
    refine (visits_act r hd.1).trans (ih (r.act a).1 (hd.2 _) (r.act a).2 ?_)
    rwa [dialog_act]
  | confirms next ih =>
    unfold proceed
    split
    · exact ih _ (hd _) r hrunning
    · rename_i scene h
      exact (Visits.scene r (.confirm h)).trans (ih _ (hd _) { r with toScene := scene } hrunning)
    · rename_i scene h
      refine (Visits.scene r (.confirm h)).trans ?_
      refine (Visits.tasks _ r.confirmations r.readers (r.confirmed + 1)).trans ?_
      exact .dialog _ (t := .waitingFor (.confirmation r.confirmed next)) hd hrunning.symm
  | waits what next onCancel =>
    exact .dialog r (t := .waitingFor (.outside what next onCancel)) hd hrunning.symm

theorem visits_runDialog (hr : r.Within P) : Visits P r r.runDialog := by
  have hkeeps := hr.dialog
  have hrunning (hstart : r.dialog.start ≠ .idle) : r.dialog.isOver = false :=
    Task.isOver_of_start hstart
  unfold Dialog.Keeps at hkeeps
  unfold runDialog
  split
  · exact .refl r
  · rename_i h
    exact visits_proceed hr.script r (hrunning (by simp [h]))
  · rename_i h
    rw [Task.phase_of_news h] at hkeeps
    exact visits_proceed (hkeeps _) r (hrunning (by simp [h]))
  · rename_i h
    rw [Task.phase_of_news h] at hkeeps
    exact visits_proceed hkeeps.1 r (hrunning (by simp [h]))
  · exact .ends r _
  · rename_i h
    rw [Task.phase_of_cancelled h] at hkeeps
    exact visits_proceed (hkeeps _) r (hrunning (by simp [h]))
  · rename_i h
    rw [Task.phase_of_cancelledLate h] at hkeeps
    exact visits_proceed (hkeeps _) r (hrunning (by simp [h]))
  · rename_i h
    rw [Task.phase_of_cancelled h] at hkeeps
    exact visits_proceed hkeeps.2 r (hrunning (by simp [h]))
  · rename_i h
    rw [Task.phase_of_cancelledLate h] at hkeeps
    exact visits_proceed hkeeps.2 r (hrunning (by simp [h]))

theorem visits_wakeDialog (hr : r.Within P) {w : Dialog.Wait ν} (hw : r.dialog.awaits? = some w) :
    Visits P r (r.updateDialog (Task.wake w)) := by
  refine visits_updateDialog r (hr.dialog.wake hw) ?_
  rw [Task.wake_of_awaits hw, Task.isOver, Task.isOver, Task.ending_of_awaits hw]
  rfl

theorem visits_notifyDialog (hr : r.Within P) (k : Nat) : Visits P r (r.notifyDialog k) := by
  unfold notifyDialog
  split
  · rename_i hw
    split
    · exact visits_wakeDialog hr hw
    · exact .refl r
  · exact .refl r

theorem visits_tell (hr : r.Within P) : Visits P r r.tell := by
  unfold tell
  split
  · rename_i hw
    exact visits_wakeDialog hr hw
  · exact .refl r

theorem visits_cancelDialog (hr : r.Within P) : Visits P r r.cancelDialog :=
  visits_updateDialog r hr.dialog.cancel (Task.isOver_cancel r.dialog)

/-! ## The watcher -/

theorem visited_runWatcher (r : Room ν) : r.toScene.Visited P r.runWatcher.toScene := by
  have hasks : r.toScene.Visited P (r.toScene.awaitClosed .watch).2 :=
    .awaitClosed r.toScene .watch
  have hends (how : Ending Unit) : r.toScene.Visited P (r.endWatcher how).toScene :=
    visited_enqueueIf { r with watcher := .finished how } _ _
  unfold runWatcher
  split
  · split
    · rename_i scene h
      rw [h] at hasks
      exact hasks
    · exact hends _
  · exact hends _
  · exact hends _
  · exact hends _
  · split
    · exact hends _
    · exact .refl r.toScene

theorem dialog_runWatcher (r : Room ν) :
    r.runWatcher.script = r.script ∧ r.runWatcher.dialog = r.dialog := by
  have hends (how : Ending Unit) :
      (r.endWatcher how).script = r.script ∧ (r.endWatcher how).dialog = r.dialog := ⟨rfl, rfl⟩
  unfold runWatcher
  split
  · split
    · exact ⟨rfl, rfl⟩
    · exact hends _
  · exact hends _
  · exact hends _
  · exact hends _
  · split
    · exact hends _
    · exact ⟨rfl, rfl⟩

theorem visited_cancelWatcher (r : Room ν) : r.toScene.Visited P r.cancelWatcher.toScene :=
  visited_enqueueIf { r with watcher := r.watcher.cancel } _ _

/-! ## The host -/

theorem visited_begin (hstart : P .start) (d : Dialog ν) (r : Room ν) :
    r.toScene.Visited P (((r.onScene (·.start)).letIn d).watch).toScene := by
  have hstarted : r.toScene.Visited P r.toScene.start := .act hstart rfl
  exact (hstarted.trans (.enqueue _ Turn.dialog)).trans (.enqueue _ Turn.watch)

theorem visited_cancelDialog (r : Room ν) : r.toScene.Visited P r.cancelDialog.toScene :=
  visited_enqueueIf { r with dialog := r.dialog.cancel } _ _

theorem visited_part (hclose : P .close) (r : Room ν) :
    r.toScene.Visited P (r.cancelWatcher.cancelDialog.onScene (·.close)).toScene := by
  have hcancelled := (visited_cancelWatcher (P := P) r).trans (visited_cancelDialog r.cancelWatcher)
  exact hcancelled.trans (.act hclose rfl)

/-! ## Turns -/

/-- Whether a turn is that of a guest who is no watcher. -/
def Turn.isGuests : Room.Turn → Bool
  | .watch | .host | .hostParting | .hostOutcome => false
  | _ => true

theorem visits_run (hr : r.Within P) {t : Room.Turn} (ht : t.isGuests = true) :
    Visits P r (r.run (.caller t)) := by
  cases t with
  | confirm i => exact visits_runConfirmation r i
  | confirmNotified i => exact visits_updateConfirmation r i _
  | read i => exact visits_runReader r i
  | readNotified i => exact visits_updateReader r i _
  | dialog => exact visits_runDialog hr
  | dialogNotified k => exact visits_notifyDialog hr k
  | watch | host | hostParting | hostOutcome => cases ht

/-! ## Calls -/

/-- What else a dialog may have done in its room: other tasks act for it, confirm or wait for the
outcome, and any of them may be cancelled. -/
inductive Call where
  | act (a : Action)
  | confirm
  | read
  | cancelConfirmation (i : Nat)
  | cancelReader (i : Nat)
  | cancelDialog

/-- Has something done in a room. -/
def call (r : Room ν) : Call → Room ν
  | .act a => (r.act a).2
  | .confirm => r.confirm
  | .read => r.read
  | .cancelConfirmation i => r.cancelConfirmation i
  | .cancelReader i => r.cancelReader i
  | .cancelDialog => r.cancelDialog

theorem visits_call (hr : r.Within P) (c : Call) (hc : ∀ a, c = .act a → P a) :
    Visits P r (r.call c) := by
  cases c with
  | act a => exact visits_act r (hc a rfl)
  | confirm => exact visits_confirm r
  | read => exact visits_read r
  | cancelConfirmation i => exact visits_updateConfirmation r i _
  | cancelReader i => exact visits_updateReader r i _
  | cancelDialog => exact visits_cancelDialog hr

/-! ## Rooms with runs in them -/

variable {script : Nat → Http.Outcome}

/-- Whether what is done in a room is a run of the negotiation in it. -/
def Plays (script : Nat → Http.Outcome) (f : Room ν → Room ν) : Prop :=
  ∀ r : Room ν, r.toScene.Leads script (f r).toScene

/-- A dialog may take all actions there are. -/
theorem within_all (r : Room ν) : r.Within fun _ => True := r.within_of_forall fun _ => trivial

theorem leads_tell (r : Room ν) : r.toScene.Leads script r.tell.toScene :=
  .visited (visits_tell r.within_all).visited

/-- Every turn in a room makes moves. -/
theorem leads_run (r : Room ν) (t : Negotiation.Turn Room.Turn) :
    r.toScene.Leads script (r.run t).toScene := by
  have hscene : r.toScene.Leads script (r.toScene.run t) := .move r.toScene (.turn t)
  cases t with
  | caller t =>
    by_cases ht : t.isGuests = true
    · exact .visited (visits_run r.within_all ht).visited
    · cases t with
      | watch => exact .visited (visited_runWatcher (P := fun _ => True) r)
      | host | hostParting | hostOutcome => exact hscene
      | _ => exact absurd rfl ht
  | attempt _ | attemptEnded _ | attemptNotified _ | submission | submissionEnded => exact hscene

/-! ## What a host does -/

/-- The negotiation begins, and a dialog and one who watches it are let in. -/
theorem plays_begin (d : Dialog ν) :
    Plays script fun r : Room ν => ((r.onScene (·.start)).letIn d).watch :=
  fun r => .visited (visited_begin (P := fun _ => True) trivial d r)

/-- The dialog is not waited for any more, and closed. -/
theorem plays_part :
    Plays script fun r : Room ν => r.cancelWatcher.cancelDialog.onScene (·.close) :=
  fun r => .visited (visited_part (P := fun _ => True) trivial r)

theorem plays_awaitOutcome :
    Plays script fun r : Room ν => r.onScene fun s => (s.awaitOutcome .hostOutcome).2 :=
  fun r => .move r.toScene (.awaitOutcome .hostOutcome)

/-! ## Runs in a room -/

/-- What can happen in a room: a move of the negotiation, a turn of any guest, and what is asked of the
guests from outside. Any task that waits in the room may be cancelled at any time. -/
inductive Move (ν : Type) where
  | scene (m : Negotiation.Move Room.Turn ν)
  | turn (t : Negotiation.Turn Room.Turn)
  | confirm
  | read
  | letIn (d : Dialog ν)
  | watch
  /-- What the dialog waits for outside of the negotiation is there. -/
  | tell
  | cancelConfirmation (i : Nat)
  | cancelReader (i : Nat)
  | cancelDialog
  | cancelWatcher

/-- Makes a move. -/
def move (script : Nat → Http.Outcome) (r : Room ν) : Room.Move ν → Room ν
  | .scene m => r.onScene (·.move script m)
  | .turn t => r.run t
  | .confirm => r.confirm
  | .read => r.read
  | .letIn d => r.letIn d
  | .watch => r.watch
  | .tell => r.tell
  | .cancelConfirmation i => r.cancelConfirmation i
  | .cancelReader i => r.cancelReader i
  | .cancelDialog => r.cancelDialog
  | .cancelWatcher => r.cancelWatcher

/-- Makes moves, the first one first. -/
def moves (script : Nat → Http.Outcome) (r : Room ν) (ms : List (Room.Move ν)) : Room ν :=
  ms.foldl (move script) r

/-- To the negotiation, whatever happens in its room is a run. -/
theorem leads_move (r : Room ν) (m : Room.Move ν) :
    r.toScene.Leads script (r.move script m).toScene := by
  have hvisited {s : Scene Room.Turn ν} (h : r.toScene.Visited (fun _ => True) s) :
      r.toScene.Leads script s := .visited h
  cases m with
  | scene m => exact .move r.toScene m
  | turn t => exact leads_run r t
  | confirm => exact hvisited (visits_confirm r).visited
  | read => exact hvisited (visits_read r).visited
  | letIn d => exact hvisited (.enqueue r.toScene .dialog)
  | watch => exact hvisited (.enqueue r.toScene .watch)
  | tell => exact leads_tell r
  | cancelConfirmation i => exact hvisited (visits_updateConfirmation r i Task.cancel).visited
  | cancelReader i => exact hvisited (visits_updateReader r i Task.cancel).visited
  | cancelDialog => exact hvisited (visited_cancelDialog r)
  | cancelWatcher => exact hvisited (visited_cancelWatcher r)

theorem leads_moves (r : Room ν) (ms : List (Room.Move ν)) :
    r.toScene.Leads script (r.moves script ms).toScene := by
  induction ms generalizing r with
  | nil => exact .refl r.toScene
  | cons m ms ih => exact (leads_move r m).trans (ih (r.move script m))

end Room

end SecondFactor.Negotiation
