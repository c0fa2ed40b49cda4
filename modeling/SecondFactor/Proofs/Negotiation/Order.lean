import SecondFactor.Proofs.Negotiation.Guests

/-! # Rooms in which turns are taken in order

In a room turns are taken one after the other, in the order in which they became due. Between any two
of them somebody may do something in the room, the security key and the backend may answer, and others
may use the outside world. The calls that are made to the negotiation in a step can be listed, each
with the scene that it meets. -/

namespace SecondFactor.Negotiation

/-! ## Calls that give up an attempt -/

namespace Scene

variable {τ ν : Type}

/-- Whether a call gives up waiting for a security key: another method takes its place, the input of
a text method is handed in as a proof, or the dialog is closed before there was a proof. -/
def GivesUp (s : Scene τ ν) : Move τ ν → Prop
  | .act (.select m) =>
    s.stage.isOpen = true ∧ s.active = .webauthn ∧ m ∈ s.available ∧ m ≠ .webauthn
  | .act .close => s.submission = none
  | .confirm _ =>
    s.stage.isOpen = true ∧ s.active.takesText = true ∧
      s.active.accepts (s.input s.active) = true
  | _ => False

/-- Whether a call cancels attempt `i`, which is under way. -/
def Recalls (s : Scene τ ν) (m : Move τ ν) (i : Nat) : Prop :=
  s.current = some i ∧ s.pending = true ∧ s.GivesUp m

/-- How the request of attempt `i` goes on in its next turn, if the attempt was not cancelled. -/
def goesOn? (s : Scene τ ν) (i : Nat) : Option Key.Behaviour :=
  s.attempts[i]?.bind fun a =>
    match a.task.start with
    | .first =>
      match s.adapter, s.options with
      | some adapter, some _ => some (adapter s.asked.length)
      | _, _ => none
    | .news (.replied _ next _) => some next
    | _ => none

end Scene

namespace Room

variable {ν : Type} (script : Nat → Http.Outcome)

/-! ## Steps -/

/-- What can happen in a room in which turns are taken in order. -/
inductive Step (ν : Type) where
  /-- The turn that has been due for longest is taken. -/
  | next
  | call (c : Call)
  | letIn (d : Dialog ν)
  | watch
  /-- What the dialog waits for outside of the negotiation is there. -/
  | tell
  | cancelWatcher
  /-- The host waits for the outcome. -/
  | awaitOutcome
  /-- The reply to the request of attempt `i` comes, and the request goes on as `next`. -/
  | reply (i : Nat) (next : Key.Behaviour)
  /-- The backend answers the request that carries the proof, after it kept it waiting. -/
  | respond
  /-- Others use the outside world, and take notes. -/
  | aside (others : Outside) (notes : List ν)

/-- Takes a step. The script says what the backend answers to which request. -/
def step (r : Room ν) : Step ν → Room ν
  | .next =>
    match r.queue with
    | [] => r
    | t :: rest => run { r with queue := rest } t
  | .call c => r.call c
  | .letIn d => r.letIn d
  | .watch => r.watch
  | .tell => r.tell
  | .cancelWatcher => r.cancelWatcher
  | .awaitOutcome => r.onScene fun s => (s.awaitOutcome .hostOutcome).2
  | .reply i next => r.onScene (·.replyTo i next)
  | .respond => r.onScene (·.move script .respond)
  | .aside others notes => r.onScene (·.move script (.aside others r.queue notes))

/-- Takes steps, the first one first. -/
def steps (r : Room ν) (ss : List (Step ν)) : Room ν := ss.foldl (step script) r

theorem steps_concat (r : Room ν) (ss : List (Step ν)) (st : Step ν) :
    r.steps script (ss ++ [st]) = (r.steps script ss).step script st :=
  List.foldl_append

/-- To the negotiation, every step is a run. -/
theorem leads_step (r : Room ν) (st : Step ν) :
    r.toScene.Leads script (r.step script st).toScene := by
  have hvisited {s : Scene Room.Turn ν} (h : r.toScene.Visited (fun _ => True) s) :
      r.toScene.Leads script s := .visited h
  cases st with
  | next =>
    unfold step
    cases hqueue : r.queue with
    | nil => exact .refl r.toScene
    | cons t rest =>
      have htake : r.toScene.Leads script { r.toScene with queue := rest } := by
        refine ⟨[.aside r.unused rest []], ?_⟩
        simp [Scene.move, Outside.usedBy_unused]
      exact htake.trans (leads_run { r with queue := rest } t)
  | call c => exact hvisited (visits_call r.within_all c fun _ _ => trivial).visited
  | letIn d => exact hvisited (.enqueue r.toScene .dialog)
  | watch => exact hvisited (.enqueue r.toScene .watch)
  | tell => exact leads_tell r
  | cancelWatcher => exact hvisited (visited_cancelWatcher r)
  | awaitOutcome => exact .move r.toScene (.awaitOutcome .hostOutcome)
  | reply i next => exact .move r.toScene (.reply i next)
  | respond => exact .move r.toScene .respond
  | aside others notes => exact .move r.toScene (.aside others r.queue notes)

/-! ## Calls in a step -/

/-- What the dialog does in its turn, if it does anything. -/
def resumed? (r : Room ν) : Option (Dialog ν) :=
  match r.dialog.start with
  | .idle => none
  | .first => some r.script
  | .news (.confirmation _ next) => some (next (.returned ()))
  | .news (.outside _ next _) => some next
  | .cancelled none => some (.ends .cancelled)
  | .cancelled (some (.confirmation _ next)) | .cancelledLate (.confirmation _ next) =>
    some (next .cancelled)
  | .cancelled (some (.outside _ _ onCancel)) | .cancelledLate (.outside _ _ onCancel) =>
    some onCancel

theorem runDialog_eq (r : Room ν) :
    r.runDialog = match r.resumed? with
      | some d => proceed d r
      | none => r := by
  unfold runDialog resumed?
  generalize r.dialog.start = start
  rcases start with _ | _ | (_ | _) | (_ | _ | _) | (_ | _) <;> rfl

/-- The calls that a dialog makes until it has to wait or ends. -/
def callsOf : Dialog ν → Room ν → List (Scene Room.Turn ν × Negotiation.Move Room.Turn ν)
  | .ends _, _ | .waits .., _ => []
  | .notes n next, r => callsOf next (r.onScene (·.note [.noted n]))
  | .looks next, r => callsOf (next r.view) r
  | .acts a next, r => (r.toScene, .act a) :: callsOf (next (r.act a).1) (r.act a).2
  | .confirms next, r =>
    (r.toScene, .confirm (.dialogNotified r.confirmed)) ::
      match r.toScene.confirm (.dialogNotified r.confirmed) with
      | .error e => callsOf (next (.failed (.plain e))) r
      | .ok (false, scene) => callsOf (next (.returned ())) { r with toScene := scene }
      | .ok (true, _) => []

/-- The calls that are made in a turn. -/
def callsIn (r : Room ν) :
    Negotiation.Turn Room.Turn → List (Scene Room.Turn ν × Negotiation.Move Room.Turn ν)
  | .caller (.confirm i) =>
    match r.confirmations[i]?.map Task.start with
    | some .first => [(r.toScene, .confirm (.confirmNotified i))]
    | _ => []
  | .caller .dialog =>
    match r.resumed? with
    | some d => callsOf d r
    | none => []
  | _ => []

/-- The calls that are made in a step. -/
def calls (r : Room ν) : Step ν → List (Scene Room.Turn ν × Negotiation.Move Room.Turn ν)
  | .next =>
    match r.queue with
    | [] => []
    | t :: rest => callsIn { r with queue := rest } t
  | .call (.act a) => [(r.toScene, .act a)]
  | _ => []

/-! ## What happens in a run -/

/-- Whether attempt `i` is cancelled by a call in a step. -/
def Recalls (r : Room ν) (st : Step ν) (i : Nat) : Prop := ∃ c ∈ r.calls st, c.1.Recalls c.2 i

/-- Whether the security key fails attempt `i` in a step, while another method is on offer. -/
def FailsKey (r : Room ν) (st : Step ν) (i : Nat) : Prop :=
  st = .next ∧ ∃ rest e, r.queue = .attempt i :: rest ∧ r.reply? i = some (.refused e) ∧
    ∃ m ∈ r.available, m ≠ .webauthn

/-- Whether the request of attempt `i` ends as cancelled in a step, although nobody cancelled the
attempt. -/
def Quits (r : Room ν) (st : Step ν) (i : Nat) : Prop :=
  st = .next ∧ ∃ rest b, r.queue = .attempt i :: rest ∧ r.goesOn? i = some b ∧ b.proceed.2 = .stopped

/-- Whether something happens in one of the steps of a run. -/
def Happens (r : Room ν) (ss : List (Step ν)) (P : Room ν → Step ν → Prop) : Prop :=
  ∃ before st after, ss = before ++ st :: after ∧ P (r.steps script before) st

end Room

end SecondFactor.Negotiation
