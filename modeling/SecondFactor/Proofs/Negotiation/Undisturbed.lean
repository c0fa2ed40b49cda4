import SecondFactor.Proofs.Negotiation.Closing
import SecondFactor.Proofs.Negotiation.Contact

/-! # Submissions that nobody disturbs

Once a proof was accepted, those who are in the room of a negotiation can only wait for it. Whatever
else they do, and whichever of their tasks is cancelled, the security key, the backend and the tasks
of the negotiation go on as if nobody were there. -/

namespace SecondFactor.Negotiation

variable {τ ν : Type}

/-! ## Negotiations left alone -/

/-- A negotiation without those who wait for it. -/
def alone (n : Negotiation τ) : Negotiation τ := { n with whenClosed := [], whenDone := [] }

section

variable (n : Negotiation τ)

theorem alone_done : n.alone.done = n.done := rfl

theorem alone_reject (f : Failure) : (n.reject f).alone = (n.alone.reject f).alone := by
  unfold reject
  rw [alone_done]
  split <;> rfl

theorem alone_resolve (t : Ticket) : (n.resolve t).alone = (n.alone.resolve t).alone := by
  unfold resolve
  rw [alone_done]
  split <;> rfl

theorem alone_keyFailed (r : Key.Refusal) :
    (n.keyFailed r).alone = (n.alone.keyFailed r).alone := by
  by_cases h : (n.done || n.available.any (· ≠ .webauthn)) = true
  · have hfailed : n.keyFailed r = { n with keyError := some r } := if_pos h
    have hfailed' : n.alone.keyFailed r = { n.alone with keyError := some r } := if_pos h
    rw [hfailed, hfailed']
    rfl
  · have hfailed : n.keyFailed r = reject { n with keyError := some r } r.failure := if_neg h
    have hfailed' : n.alone.keyFailed r = reject { n.alone with keyError := some r } r.failure :=
      if_neg h
    rw [hfailed, hfailed']
    exact alone_reject { n with keyError := some r } r.failure

theorem alone_cancelKey : n.cancelKey.alone = n.alone.cancelKey.alone := by
  have hcurrent : n.alone.current = n.current := rfl
  unfold cancelKey
  rw [hcurrent]
  cases n.current <;> rfl

theorem alone_accept (p : Proof) (whenEnded : Turn τ) :
    (n.accept p whenEnded).alone = (n.alone.accept p whenEnded).alone := by
  unfold accept
  dsimp only
  split
  · rfl
  · have hcancel := alone_cancelKey { n.shut with stage := .submitting }
    exact congrArg (fun m : Negotiation τ => { m with
      submission := some { proof := p, whenEnded := [.submissionEnded, whenEnded] } }) hcancel

theorem alone_settle (result : Except Failure Ticket) :
    (n.settle result).alone = (n.alone.settle result).alone := by
  cases result with
  | ok t =>
    exact congrArg (setSubmission · fun _ => .finished (.returned ())) (alone_resolve n t)
  | error f =>
    by_cases hf : f.loginError?.isSome = true
    · simp only [settle, if_pos hf]
      exact congrArg (setSubmission · fun _ => .finished (.returned ())) (alone_reject n f)
    · simp only [settle, if_neg hf]
      rfl

end

/-! ## Scenes that agree -/

namespace Scene

/-- Whether two scenes are the same but for those who wait, the turns that are due, and what was
noted. -/
structure Agree (s s' : Scene τ ν) : Prop where
  outside : s.toOutside = s'.toOutside
  negotiation : s.toNegotiation.alone = s'.toNegotiation.alone

namespace Agree

variable {s s' s'' : Scene τ ν}

theorem refl (s : Scene τ ν) : Agree s s := ⟨rfl, rfl⟩

theorem symm (h : s.Agree s') : s'.Agree s := ⟨h.outside.symm, h.negotiation.symm⟩

theorem trans (h : s.Agree s') (h' : s'.Agree s'') : s.Agree s'' :=
  ⟨h.outside.trans h'.outside, h.negotiation.trans h'.negotiation⟩

theorem stage (h : s.Agree s') : s.stage = s'.stage := congrArg (·.stage) h.negotiation

theorem outcome (h : s.Agree s') : s.outcome = s'.outcome := congrArg (·.outcome) h.negotiation

theorem done (h : s.Agree s') : s.done = s'.done := congrArg (·.done) h.negotiation

theorem attempts (h : s.Agree s') : s.attempts = s'.attempts := congrArg (·.attempts) h.negotiation

theorem submission (h : s.Agree s') : s.submission = s'.submission :=
  congrArg (·.submission) h.negotiation

theorem keyText (h : s.Agree s') : s.keyText = s'.keyText := by
  have htext : s.toNegotiation.alone.keyText = s'.toNegotiation.alone.keyText := by
    rw [h.negotiation]
  exact htext

/-- What happens outside keeps scenes in agreement. -/
theorem mapOutside (h : s.Agree s') (f : Outside → Outside) :
    Agree { s with toOutside := f s.toOutside } { s' with toOutside := f s'.toOutside } :=
  ⟨congrArg f h.outside, h.negotiation⟩

/-- What depends on no more than the negotiation, and leaves the outside world as it is, keeps
scenes in agreement. -/
theorem through {f : Scene τ ν → Scene τ ν} {g : Negotiation τ → Negotiation τ}
    (hout : ∀ s, (f s).toOutside = s.toOutside)
    (hneg : ∀ s, (f s).toNegotiation = g s.toNegotiation)
    (hg : ∀ n, (g n).alone = (g n.alone).alone) (h : s.Agree s') : (f s).Agree (f s') where
  outside := (hout s).trans (h.outside.trans (hout s').symm)
  negotiation := by rw [hneg, hneg, hg, h.negotiation, ← hg]

theorem note (h : s.Agree s') (es es' : List (Event ν)) : (s.note es).Agree (s'.note es') :=
  ⟨h.outside, h.negotiation⟩

theorem reject (h : s.Agree s') (f : Failure) : (s.reject f).Agree (s'.reject f) :=
  h.through (toOutside_reject · f) (toNegotiation_reject · f) (alone_reject · f)

theorem keyFailed (h : s.Agree s') (r : Key.Refusal) : (s.keyFailed r).Agree (s'.keyFailed r) :=
  h.through (toOutside_keyFailed · r) (toNegotiation_keyFailed · r) (alone_keyFailed · r)

theorem accept (h : s.Agree s') (p : Proof) (whenEnded : Turn τ) :
    (s.accept p whenEnded).Agree (s'.accept p whenEnded) :=
  h.through (toOutside_accept · p whenEnded) (toNegotiation_accept · p whenEnded)
    (alone_accept · p whenEnded)

theorem updateAttempt (h : s.Agree s') (i : Nat)
    (f : Task Attempt.Wait Unit → Task Attempt.Wait Unit) :
    (s.updateAttempt i f).Agree (s'.updateAttempt i f) :=
  h.through (g := (·.setTask i f)) (toOutside_updateAttempt · i f)
    (toNegotiation_updateAttempt · i f) fun _ => rfl

theorem endAttempt (h : s.Agree s') (i : Nat) (how : Ending Unit) :
    (s.endAttempt i how).Agree (s'.endAttempt i how) :=
  h.through (g := (·.setTask i fun _ => .finished how)) (toOutside_endAttempt · i how)
    (toNegotiation_endAttempt · i how) fun _ => rfl

theorem updateSubmission (h : s.Agree s')
    (f : Task Submission.Wait Unit → Task Submission.Wait Unit) :
    (s.updateSubmission f).Agree (s'.updateSubmission f) :=
  h.through (g := (·.setSubmission f)) (toOutside_updateSubmission · f)
    (toNegotiation_updateSubmission · f) fun _ => rfl

theorem settleSubmission (h : s.Agree s') (result : Except Failure Ticket) :
    (s.settleSubmission result).Agree (s'.settleSubmission result) :=
  h.through (toOutside_settleSubmission · result) (toNegotiation_settleSubmission · result)
    (alone_settle · result)

/-! ### Steps -/

theorem conclude (h : s.Agree s') (i : Nat) (r : Key.Reply) :
    (s.conclude i r).Agree (s'.conclude i r) := by
  cases r with
  | refused r => exact (h.keyFailed r).endAttempt i _
  | crashed f => exact h.endAttempt i _
  | assertion a =>
    unfold Scene.conclude
    dsimp only
    rw [h.stage, h.keyText]
    split
    · exact (h.accept _ _).updateAttempt i _
    · exact h.endAttempt i _

theorem proceed (h : s.Agree s') (i request : Nat) (b : Key.Behaviour) :
    (s.proceed i request b).Agree (s'.proceed i request b) := by
  have hnoted := h.note (b.proceed.1.map (.device request)) (b.proceed.1.map (.device request))
  simp only [Scene.proceed]
  cases b.proceed.2 with
  | ended r => exact hnoted.conclude i r
  | stopped => exact hnoted.endAttempt i _
  | waiting onCancel onLateCancel => exact hnoted.updateAttempt i _

theorem ask (h : s.Agree s') (i : Nat) : (s.ask i).Agree (s'.ask i) := by
  obtain ⟨outside, n, queue, log⟩ := s
  obtain ⟨outside', n', queue', log'⟩ := s'
  obtain rfl : outside = outside' := h.outside
  have hoptions : n.options = n'.options := congrArg (·.options) h.negotiation
  unfold Scene.ask
  dsimp only
  rw [← hoptions]
  split
  · exact ((h.mapOutside fun _ => _).note _ _).proceed i _ _
  · exact h.conclude i _

theorem runAttempt (h : s.Agree s') (i : Nat) : (s.runAttempt i).Agree (s'.runAttempt i) := by
  unfold Scene.runAttempt
  rw [h.attempts]
  split
  · exact h
  · split
    · exact h
    · exact h.ask i
    · exact h.proceed i _ _
    · exact h.endAttempt i _
    · exact (h.note _ _).proceed i _ _
    · exact h.proceed i _ _
    · exact h.endAttempt i _
    · exact h.endAttempt i _

theorem ended (h : s.Agree s') (how : Option (Ending Unit)) :
    (s.ended how).Agree (s'.ended how) := by
  unfold Scene.ended
  split
  · rw [h.done]
    split
    · exact h
    · exact h.reject _
  · exact h

theorem receive (h : s.Agree s') (r : Http.Request) (o : Http.Outcome) :
    (s.receive r o).Agree (s'.receive r o) := by
  have hreceived := h.mapOutside (Outside.receive · r o)
  have hresult : (s.toOutside.receive r o).client.ticketResult r o =
      (s'.toOutside.receive r o).client.ticketResult r o := by
    rw [h.outside]
  unfold Scene.receive
  dsimp only
  rw [hresult]
  exact hreceived.settleSubmission _

theorem submit (h : s.Agree s') (p : Proof) : (s.submit p).Agree (s'.submit p) := by
  have huserid : s.userid = s'.userid := congrArg (·.userid) h.negotiation
  have hticket : s.ticket = s'.ticket := congrArg (·.ticket) h.negotiation
  have hlength : s.sent.length = s'.sent.length := congrArg (·.sent.length) h.outside
  have hsend : s.toOutside.send (s.client.proofCall s.userid s.ticket p.text) =
      s'.toOutside.send (s'.client.proofCall s'.userid s'.ticket p.text) := by
    rw [h.outside, huserid, hticket]
  unfold Scene.submit
  rw [hsend, hlength]
  split
  · exact h.settleSubmission _
  · rename_i r outside _
    have hsent := h.mapOutside fun _ => outside
    simp only [toOutside_note]
    cases outside.backend s'.sent.length with
    | some o => exact (hsent.note _ _).receive r o
    | none => exact (hsent.note _ _).updateSubmission _

theorem runSubmission (h : s.Agree s') : s.runSubmission.Agree s'.runSubmission := by
  unfold Scene.runSubmission
  rw [h.submission]
  split
  · exact h
  · split
    · exact h.submit _
    · exact h.receive _ _
    · exact h

theorem replyTo (h : s.Agree s') (i : Nat) (next : Key.Behaviour) :
    (s.replyTo i next).Agree (s'.replyTo i next) :=
  h.updateAttempt i _

theorem run (h : s.Agree s') (t : Turn τ) : (s.run t).Agree (s'.run t) := by
  cases t with
  | attempt i => exact h.runAttempt i
  | attemptEnded i =>
    simp only [Scene.run, h.attempts]
    exact h.ended _
  | attemptNotified i => exact h.updateAttempt i _
  | submission => exact h.runSubmission
  | submissionEnded =>
    simp only [Scene.run, h.submission]
    exact h.ended _
  | caller t => exact h

end Agree

end Scene

/-- Whether a move is a step of the security key, of the backend, of a task of the negotiation
itself or of others outside, so that no guest makes it. -/
def Move.isStep : Move τ ν → Bool
  | .act _ | .confirm _ | .awaitClosed _ | .awaitOutcome _ | .turn (.caller _) => false
  | .turn _ | .reply .. | .respond | .aside .. => true

variable (script : Nat → Http.Outcome)

theorem Scene.Agree.move {s s' : Scene τ ν} (h : s.Agree s') {m : Move τ ν}
    (hm : m.isStep = true) : (s.move script m).Agree (s'.move script m) := by
  cases m with
  | turn t => exact h.run t
  | reply i next => exact h.replyTo i next
  | respond =>
    have hheld : s.heldNumber? = s'.heldNumber? := by simp only [heldNumber?, h.submission]
    simp only [Scene.move, hheld]
    split
    · exact h.updateSubmission _
    · exact h
  | aside others queue notes =>
    exact ⟨congrArg (Outside.usedBy · others) h.outside, h.negotiation⟩
  | act _ | confirm _ | awaitClosed _ | awaitOutcome _ => cases hm

/-! ## After a proof was accepted -/

/-- Whether a proof was accepted, so that the stages before are over. -/
structure Submitted (n : Negotiation τ) : Prop where
  staged : Staged n
  accepted : n.submission.isSome = true

namespace Submitted

variable {s s' : Scene τ ν}

theorem isOpen {n : Negotiation τ} (hn : Submitted n) : n.stage.isOpen = false :=
  hn.staged.closed_iff.mp (hn.staged.closed_of_accepted hn.accepted)

theorem change {n n' : Negotiation τ} {es : List Happening} (hn : Submitted n)
    (hc : Change n es n') : Submitted n' := by
  have hwanting (hopen : n.stage.isOpen = true) : n.submission = none := by
    rw [hn.isOpen] at hopen
    cases hopen
  obtain ⟨sub, hsub⟩ := Option.isSome_iff_exists.mp hn.accepted
  obtain ⟨sub', hsub', -⟩ := hc.effect.submission hwanting hsub
  exact ⟨(hn.staged.change hc).staged, hsub' ▸ rfl⟩

theorem leads (hs : Submitted s.toNegotiation) (h : s.Leads script s') :
    Submitted s'.toNegotiation := by
  obtain ⟨ms, rfl⟩ := h
  induction ms generalizing s with
  | nil => exact hs
  | cons m ms ih => exact ih (hs.change (s.change_move script m))

theorem refuses_select (hs : Submitted s.toNegotiation) (m : Method) :
    ∃ e, s.select m = .error e ∧ e.kind = .wrongState := by
  unfold Scene.select
  rw [hs.isOpen]
  exact ⟨_, rfl, rfl⟩

theorem refuses_setInput (hs : Submitted s.toNegotiation) (value : String) :
    ∃ e, s.setInput value = .error e ∧ e.kind = .wrongState := by
  unfold Scene.setInput
  rw [hs.isOpen]
  exact ⟨_, rfl, rfl⟩

theorem refuses_confirm (hs : Submitted s.toNegotiation) (caller : τ) :
    ∃ e, s.confirm caller = .error e ∧ e.kind = .wrongState := by
  unfold Scene.confirm
  rw [hs.isOpen]
  exact ⟨_, rfl, rfl⟩

theorem agree_close (hs : Submitted s.toNegotiation) : s.Agree s.close := by
  rw [Scene.close_of_accepted hs.accepted]
  refine ⟨rfl, ?_⟩
  have hclosed : s.closed = true := hs.staged.closed_of_accepted hs.accepted
  rw [Scene.toNegotiation_shut, alone, alone, Negotiation.shut, ← hclosed]

/-- Guests who do not start anew can only wait. -/
theorem agree_visited (hs : Submitted s.toNegotiation) (h : s.Visited (· ≠ .start) s') :
    s.Agree s' := by
  induction h with
  | refl s => exact .refl s
  | trans h _ ih ih' =>
    have hmiddle := ih hs
    exact hmiddle.trans (ih' ⟨hs.staged.visited h, hmiddle.submission ▸ hs.accepted⟩)
  | @act s s' a ha h =>
    cases a with
    | start => exact absurd rfl ha
    | select m =>
      obtain ⟨e, he, -⟩ := hs.refuses_select m
      cases he.symm.trans h
    | input value =>
      obtain ⟨e, he, -⟩ := hs.refuses_setInput value
      cases he.symm.trans h
    | close =>
      cases h
      exact hs.agree_close
  | @confirm s s' caller waits h =>
    obtain ⟨e, he, -⟩ := hs.refuses_confirm caller
    cases he.symm.trans h
  | awaitClosed s caller =>
    unfold Scene.awaitClosed
    split <;> exact ⟨rfl, rfl⟩
  | awaitOutcome s caller =>
    unfold Scene.awaitOutcome
    split <;> exact ⟨rfl, rfl⟩
  | enqueue | noted => exact ⟨rfl, rfl⟩

end Submitted

/-! ## In a room -/

namespace Room

variable {P : Action → Prop} {r r' : Room ν} {script}

/-- Whether a move in a room is a step that no guest makes. -/
def Move.isStep : Room.Move ν → Bool
  | .scene m => m.isStep
  | .turn (.caller _) => false
  | .turn _ => true
  | _ => false

/-- Whether a move lets guests take only such actions, now or later. -/
def Move.Within (P : Action → Prop) : Room.Move ν → Prop
  | .scene (.act a) => P a
  | .letIn d => d.Within P
  | _ => True

theorem visited_sceneMove (s : Scene Room.Turn ν) {m : Negotiation.Move Room.Turn ν}
    (hm : (Move.scene m).Within P) (hguests : m.isStep = false) :
    s.Visited P (s.move script m) := by
  cases m with
  | act a =>
    simp only [Scene.move]
    split
    · exact .act hm ‹_›
    · exact .refl s
  | confirm caller =>
    simp only [Scene.move]
    split
    · exact .confirm ‹_›
    · exact .refl s
  | awaitClosed caller => exact .awaitClosed s caller
  | awaitOutcome caller => exact .awaitOutcome s caller
  | turn t =>
    cases t with
    | caller t => exact .refl s
    | attempt _ | attemptEnded _ | attemptNotified _ | submission | submissionEnded => cases hguests
  | reply _ _ | respond | aside _ _ _ => cases hguests

/-- What guests do in a room, they do to the negotiation in it. -/
theorem visited_move (hr : r.Within P) {m : Room.Move ν} (hm : m.Within P)
    (hguests : m.isStep = false) : r.toScene.Visited P (r.move script m).toScene := by
  cases m with
  | scene m => exact visited_sceneMove r.toScene hm hguests
  | turn t =>
    cases t with
    | caller t =>
      by_cases ht : t.isGuests = true
      · exact (visits_run hr ht).visited
      · cases t with
        | watch => exact visited_runWatcher r
        | host | hostParting | hostOutcome => exact .refl r.toScene
        | _ => exact absurd rfl ht
    | attempt _ | attemptEnded _ | attemptNotified _ | submission | submissionEnded => cases hguests
  | confirm => exact (visits_confirm r).visited
  | read => exact (visits_read r).visited
  | letIn d => exact .enqueue r.toScene .dialog
  | watch => exact .enqueue r.toScene .watch
  | tell => exact (visits_tell hr).visited
  | cancelConfirmation i => exact (visits_updateConfirmation r i Task.cancel).visited
  | cancelReader i => exact (visits_updateReader r i Task.cancel).visited
  | cancelDialog => exact visited_cancelDialog r
  | cancelWatcher => exact visited_cancelWatcher r

theorem within_move (hr : r.Within P) {m : Room.Move ν} (hm : m.Within P) :
    (r.move script m).Within P := by
  cases m with
  | scene m => exact ⟨hr.script, hr.dialog⟩
  | turn t =>
    cases t with
    | caller t =>
      by_cases ht : t.isGuests = true
      · exact (visits_run hr ht).within hr
      · cases t with
        | watch =>
          obtain ⟨hscript, hdialog⟩ := dialog_runWatcher r
          exact ⟨hscript ▸ hr.script, hdialog ▸ hr.dialog⟩
        | host | hostParting | hostOutcome => exact ⟨hr.script, hr.dialog⟩
        | _ => exact absurd rfl ht
    | attempt _ | attemptEnded _ | attemptNotified _ | submission | submissionEnded =>
      exact ⟨hr.script, hr.dialog⟩
  | confirm => exact (visits_confirm r).within hr
  | read => exact (visits_read r).within hr
  | letIn d => exact ⟨hm, trivial⟩
  | watch => exact ⟨hr.script, hr.dialog⟩
  | tell => exact (visits_tell hr).within hr
  | cancelConfirmation i => exact (visits_updateConfirmation r i Task.cancel).within hr
  | cancelReader i => exact (visits_updateReader r i Task.cancel).within hr
  | cancelDialog => exact (visits_cancelDialog hr).within hr
  | cancelWatcher =>
    unfold Room.move cancelWatcher
    rw [toGuests_enqueueIf]
    exact ⟨hr.script, hr.dialog⟩

theorem within_moves (hr : r.Within P) {ms : List (Room.Move ν)} (hms : ∀ m ∈ ms, m.Within P) :
    (r.moves script ms).Within P := by
  induction ms generalizing r with
  | nil => exact hr
  | cons m ms ih =>
    have hm := hms m List.mem_cons_self
    exact ih (within_move hr hm) fun m' h' => hms m' (List.mem_cons_of_mem m h')

theorem moves_append (r : Room ν) (ms ns : List (Room.Move ν)) :
    r.moves script (ms ++ ns) = (r.moves script ms).moves script ns :=
  List.foldl_append

/-- A step concerns nothing in a room but the negotiation. -/
theorem exists_step (script : Nat → Http.Outcome) {m : Room.Move ν} (hm : m.isStep = true) :
    ∃ m' : Negotiation.Move Room.Turn ν, m'.isStep = true ∧
      ∀ r' : Room ν, (r'.move script m).toScene = r'.toScene.move script m' := by
  cases m with
  | scene m => exact ⟨m, hm, fun _ => rfl⟩
  | turn t =>
    refine ⟨.turn t, ?_⟩
    cases t with
    | caller t => cases hm
    | attempt _ | attemptEnded _ | attemptNotified _ | submission | submissionEnded =>
      exact ⟨rfl, fun _ => rfl⟩
  | confirm | read | letIn _ | watch | tell | cancelConfirmation _ | cancelReader _ | cancelDialog
    | cancelWatcher => cases hm

/-- Guests can be left out of a run after a proof was accepted. -/
theorem agree_filter {bare : Room ν} (hs : Submitted r.toNegotiation) (hr : r.Within (· ≠ .start))
    (h : r.toScene.Agree bare.toScene) {ms : List (Room.Move ν)}
    (hms : ∀ m ∈ ms, m.Within (· ≠ .start)) :
    (r.moves script ms).toScene.Agree (bare.moves script (ms.filter Move.isStep)).toScene := by
  induction ms generalizing r bare with
  | nil => exact h
  | cons m ms ih =>
    have hm := hms m List.mem_cons_self
    have hrest : ∀ m ∈ ms, m.Within (· ≠ .start) := fun m' h' => hms m' (List.mem_cons_of_mem m h')
    have hs' : Submitted (r.move script m).toNegotiation := hs.leads script (leads_move r m)
    have hr' : (r.move script m).Within (· ≠ .start) := within_move hr hm
    by_cases hstep : m.isStep = true
    · rw [List.filter_cons_of_pos hstep]
      obtain ⟨m', hm', hmove⟩ := exists_step script hstep
      have hmoved : (r.move script m).toScene.Agree (bare.move script m).toScene := by
        rw [hmove, hmove]
        exact h.move script hm'
      exact ih hs' hr' hmoved hrest
    · rw [List.filter_cons_of_neg hstep]
      have hvisited : r.toScene.Visited (· ≠ .start) (r.move script m).toScene :=
        visited_move hr hm (by simpa using hstep)
      exact ih hs' hr' ((hs.agree_visited hvisited).symm.trans h) hrest

end Room

/-- While a proof is being submitted, and ever after, to switch the method, to set input and to
confirm are refused. Nothing that guests do, and no task of theirs that is cancelled, changes the
negotiation or what is outside but for who waits for what; and if all that is left out, the same
steps of the security key and of the submission lead to the same outcome. -/
theorem submission_undisturbed {userid ticket : String} {c : Challenge}
    {n : Negotiation Room.Turn} (hn : ofChallenge userid ticket c = .ok n) (o : Outside)
    (guests : Room.Guests ν) (before : List (Room.Move ν)) :
    let start : Room ν := { toOutside := o, toNegotiation := n, toGuests := guests }
    let r := start.moves script before
    r.stage = .submitting → r.Within (· ≠ .start) →
    ∀ ms : List (Room.Move ν), (∀ m ∈ ms, m.Within (· ≠ .start)) →
      (∀ done, done <+: ms →
        let s := (r.moves script done).toScene
        (∀ m, ∃ e, s.select m = .error e ∧ e.kind = .wrongState) ∧
        (∀ value, ∃ e, s.setInput value = .error e ∧ e.kind = .wrongState) ∧
        ∀ caller, ∃ e, s.confirm caller = .error e ∧ e.kind = .wrongState) ∧
      (∀ done m, done ++ [m] <+: ms → m.isStep = false →
        (r.moves script done).toScene.Agree (r.moves script (done ++ [m])).toScene) ∧
      (r.moves script ms).toScene.Agree
        (r.moves script (ms.filter Room.Move.isStep)).toScene ∧
      (r.moves script ms).outcome = (r.moves script (ms.filter Room.Move.isStep)).outcome := by
  intro start r hstage hr ms hms
  have hs : Submitted r.toNegotiation := by
    obtain ⟨ns, hns⟩ : start.toScene.Leads script r.toScene := Room.leads_moves start before
    have hstaged : Staged r.toNegotiation := by
      rw [hns]
      exact (staged_moves script hn o ns).1
    exact ⟨hstaged, hstaged.accepted_of_stage (.inl hstage)⟩
  have hlater (done : List (Room.Move ν)) : Submitted (r.moves script done).toNegotiation :=
    hs.leads script (Room.leads_moves r done)
  have hall : (r.moves script ms).toScene.Agree
      (r.moves script (ms.filter Room.Move.isStep)).toScene :=
    Room.agree_filter hs hr (.refl r.toScene) hms
  refine ⟨fun done _ => ?_, fun done m hdone hstep => ?_, hall, hall.outcome⟩
  · exact ⟨(hlater done).refuses_select, (hlater done).refuses_setInput,
      (hlater done).refuses_confirm⟩
  · have hsubset := hdone.subset
    have hm : m.Within (· ≠ .start) := hms m (hsubset (by simp))
    have hwithin : (r.moves script done).Within (· ≠ .start) :=
      Room.within_moves hr fun m' h' => hms m' (hsubset (List.mem_append_left _ h'))
    rw [Room.moves_append]
    exact (hlater done).agree_visited (Room.visited_move hwithin hm hstep)

/-- A user whose time code is confirmed by a task. -/
def confirmingMoves : List (Room.Move Unit) :=
  [.scene (.act .start), .scene (.act (.select .totp)), .scene (.act (.input "123456")), .confirm,
    .turn (.caller (.confirm 0))]

/-- The user closes the dialog, gives up the task, and turns back to the security key, while the
time code is being submitted. -/
def disturbingMoves : List (Room.Move Unit) :=
  [.turn .submission, .scene (.act .close), .cancelConfirmation 0, .turn (.caller (.confirm 0)),
    .scene (.act (.select .webauthn)), .scene .respond, .scene (.act .close), .turn .submission,
    .scene (.act (.input "654321")), .turn .submissionEnded]

theorem submission_undisturbed_closing :
    ∃ n : Negotiation Room.Turn, ofChallenge "root@pam" "PBS:!tfa!" sampleChallenge = .ok n ∧
      let start : Room Unit := { toOutside := sampleOutside, toNegotiation := n }
      let r := start.moves sampleScript confirmingMoves
      r.stage = .submitting ∧ r.Within (· ≠ .start) ∧
        (∀ m ∈ disturbingMoves, m.Within (· ≠ .start)) ∧
        (r.moves sampleScript disturbingMoves).outcome =
          (r.moves sampleScript [.turn .submission, .scene .respond, .turn .submission,
            .turn .submissionEnded]).outcome := by
  obtain ⟨n, hn⟩ : ∃ n : Negotiation Room.Turn,
      ofChallenge "root@pam" "PBS:!tfa!" sampleChallenge = .ok n := ⟨_, rfl⟩
  have hquiet : ∀ m ∈ disturbingMoves, m.Within (· ≠ .start) := by
    simp [disturbingMoves, Room.Move.Within]
  have hall := submission_undisturbed sampleScript hn sampleOutside {} confirmingMoves
  refine ⟨n, hn, ?_⟩
  cases hn
  obtain ⟨-, -, -, hout⟩ := hall rfl ⟨trivial, trivial⟩ disturbingMoves hquiet
  exact ⟨rfl, ⟨trivial, trivial⟩, hquiet, hout⟩

end SecondFactor.Negotiation
