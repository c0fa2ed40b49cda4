import Mathlib.Data.List.Induction
import SecondFactor.Proofs.Negotiation.Undisturbed

/-! # Calls that are refused

A call that does not fit the stage of a negotiation is refused before it has changed anything. To
confirm takes several steps, the last of which may be refused as well: a proof is handed in only
while one is wanted. That step is never reached in vain, since the first one looks at the stage, and
nothing comes between. -/

namespace SecondFactor.Negotiation

/-! ## Which calls are refused -/

namespace Scene

variable {τ ν : Type} (s : Scene τ ν)

theorem select_error_iff (m : Method) :
    (∃ e, s.select m = .error e) ↔ s.stage.isOpen = false ∨ m ∉ s.available := by
  unfold select
  by_cases hopen : s.stage.isOpen = true
  · by_cases hm : m ∈ s.available
    · by_cases hsame : m = s.active
      · subst hsame
        simp [hopen, hm]
      · simp [hopen, hm, hsame]
    · simp [hopen, hm]
  · simp [hopen]

theorem setInput_error_iff (value : String) :
    (∃ e, s.setInput value = .error e) ↔ s.stage.isOpen = false ∨ s.active = .webauthn := by
  unfold setInput
  by_cases hopen : s.stage.isOpen = true
  · cases hm : s.active <;> simp [hopen, Method.takesText]
  · simp [hopen]

theorem confirm_error_iff (caller : τ) :
    (∃ e, s.confirm caller = .error e) ↔
      s.stage.isOpen = false ∨ s.active = .webauthn ∧ s.pending = true := by
  unfold confirm
  by_cases hopen : s.stage.isOpen = true
  · cases hm : s.active with
    | webauthn => by_cases hpending : s.pending = true <;> simp [hopen, hpending]
    | totp | recovery => simp [hopen]
  · simp [hopen]

variable {s}

/-- An action is refused for the stage only. -/
theorem kind_of_act {a : Action} {e : LoginError} (h : s.act a = .error e) :
    e.kind = .wrongState := by
  cases a with
  | start | close => cases h
  | select m =>
    simp only [act, select] at h
    split at h
    · cases h
      rfl
    · split at h
      · cases h
        rfl
      · split at h <;> cases h
  | input value =>
    simp only [act, setInput] at h
    split at h
    · cases h
      rfl
    · split at h
      · cases h
        rfl
      · cases h

theorem kind_of_confirm {caller : τ} {e : LoginError} (h : s.confirm caller = .error e) :
    e.kind = .wrongState := by
  unfold confirm at h
  split at h
  · cases h
    rfl
  · split at h
    · split at h
      · cases h
        rfl
      · cases h
    · cases h

end Scene

/-! ## Confirming in steps -/

namespace Scene

variable {τ ν : Type}

/-- Hands in a proof. It is refused when none is wanted any more. -/
def handIn (s : Scene τ ν) (p : Proof) (whenEnded : Turn τ) : Except LoginError (Scene τ ν) :=
  if s.stage.isOpen then .ok (s.accept p whenEnded)
  else .error (.wrongState "a proof was already submitted")

/-- Confirms a text method step by step: what is known of the input is noted down before a proof is
handed in, and stays so if that is refused. -/
def confirmTextInSteps (s : Scene τ ν) (m : Method) (caller : τ) :
    Except LoginError Bool × Scene τ ν :=
  if m.accepts (s.input m) then
    let s := { s with inputError := none }
    match s.handIn ⟨m, s.input m⟩ (.caller caller) with
    | .ok s' => (.ok true, s')
    | .error e => (.error e, s)
  else (.ok false, { s with inputError := some m })

/-- Confirms the active method step by step, and gives back what is left also if that is refused. -/
def confirmInSteps (s : Scene τ ν) (caller : τ) : Except LoginError Bool × Scene τ ν :=
  if !s.stage.isOpen then (.error (.wrongState ("cannot confirm while " ++ s.stage.word)), s)
  else
    match s.active with
    | .webauthn =>
      if s.pending then (.error (.wrongState "already waiting for the security key"), s)
      else (.ok true, s.beginAttempt [.caller caller])
    | m => s.confirmTextInSteps m caller

/-- While a proof is wanted, handing in the input of a text method is not refused. -/
theorem confirmTextInSteps_eq {s : Scene τ ν} (hopen : s.stage.isOpen = true) (m : Method)
    (caller : τ) :
    s.confirmTextInSteps m caller =
      (.ok (s.confirmText m caller).1, (s.confirmText m caller).2) := by
  unfold confirmTextInSteps confirmText handIn
  by_cases hshape : m.accepts (s.input m) = true
  · simp only [hshape, hopen, if_true]
    rfl
  · simp only [hshape, if_false, Bool.false_eq_true]

/-- To confirm step by step comes to the same as to confirm, and changes nothing if it is refused. -/
theorem confirmInSteps_eq (s : Scene τ ν) (caller : τ) :
    s.confirmInSteps caller =
      match s.confirm caller with
      | .ok (waits, s') => (.ok waits, s')
      | .error e => (.error e, s) := by
  unfold confirmInSteps confirm
  by_cases hopen : s.stage.isOpen = true
  · simp only [hopen, Bool.not_true, Bool.false_eq_true, if_false]
    cases hm : s.active with
    | webauthn => by_cases hpending : s.pending = true <;> simp [hpending]
    | totp | recovery => exact confirmTextInSteps_eq hopen _ caller
  · simp [hopen]

end Scene

/-! ## Confirmations that are refused -/

namespace Room

variable {ν : Type}

@[simp] theorem confirmations_enqueueIf (r : Room ν) (isDue : Bool) (t : Room.Turn) :
    (r.enqueueIf isDue t).confirmations = r.confirmations :=
  congrArg Guests.confirmations (toGuests_enqueueIf r isDue t)

theorem confirmations_updateConfirmation (r : Room ν) (i : Nat) (f : Task Unit Unit → Task Unit Unit) :
    (r.updateConfirmation i f).confirmations = r.confirmations.modify i f := by
  unfold updateConfirmation
  rw [List.modify_eq_set_getElem?]
  cases r.confirmations[i]? with
  | none => rfl
  | some t => exact confirmations_enqueueIf _ _ _

theorem confirmations_proceed (d : Dialog ν) (r : Room ν) :
    (proceed d r).confirmations = r.confirmations := by
  induction d generalizing r with
  | ends how => rfl
  | notes n next ih => exact ih _
  | looks next ih => exact ih _ r
  | acts a next ih =>
    refine (ih _ _).trans ?_
    unfold act
    split <;> rfl
  | confirms next ih =>
    unfold proceed
    split
    · exact ih _ r
    · exact ih _ _
    · rfl
  | waits what next onCancel => rfl

/-- A confirmation that ends without changing anything else ends for itself. -/
theorem updateConfirmation_finished {r : Room ν} {i : Nat} {t : Task Unit Unit}
    (ht : r.confirmations[i]? = some t) (how : Ending Unit) :
    (r.updateConfirmation i fun _ => .finished how) =
      { r with confirmations := r.confirmations.set i (.finished how) } := by
  unfold updateConfirmation
  rw [ht]
  rfl

/-- What becomes of the task of a confirmation while a room changes. -/
inductive Confirming (r r' : Room ν) (i : Nat) (t : Task Unit Unit) : Task Unit Unit → Prop where
  | stays : Confirming r r' i t t
  | cancelled : Confirming r r' i t t.cancel
  | told : Confirming r r' i t (t.wake ())
  | refused (e : LoginError) (hstart : t.start = .first)
      (h : r.toScene.confirm (.confirmNotified i) = .error e)
      (hr : r' = { r with confirmations := r.confirmations.set i (.finished (.failed (.plain e))) }) :
      Confirming r r' i t (.finished (.failed (.plain e)))
  | waits (s : Scene Room.Turn ν) (hstart : t.start = .first)
      (h : r.toScene.confirm (.confirmNotified i) = .ok (true, s)) :
      Confirming r r' i t (.waitingFor ())
  | returns (s : Scene Room.Turn ν) (hstart : t.start = .first)
      (h : r.toScene.confirm (.confirmNotified i) = .ok (false, s))
      (hr : r' = { r with
        toScene := s, confirmations := r.confirmations.set i (.finished (.returned ())) }) :
      Confirming r r' i t (.finished (.returned ()))
  | resumes (hstart : t.start = .news ())
      (hr : r' = { r with confirmations := r.confirmations.set i (.finished (.returned ())) }) :
      Confirming r r' i t (.finished (.returned ()))
  /-- The confirmation was cancelled. -/
  | stops : Confirming r r' i t (.finished .cancelled)

/-- What becomes of the confirmations while a room changes. One that was not there before has done
nothing yet. -/
structure Attends (r r' : Room ν) : Prop where
  old : ∀ (i : Nat) t, r.confirmations[i]? = some t →
    ∃ t', r'.confirmations[i]? = some t' ∧ Confirming r r' i t t'
  new : ∀ (i : Nat) t', r.confirmations[i]? = none → r'.confirmations[i]? = some t' → t' = .fresh

variable {r r' : Room ν}

theorem Attends.of_same (h : r'.confirmations = r.confirmations) : Attends r r' where
  old := fun i t ht => ⟨t, h ▸ ht, .stays⟩
  new := fun i t' hnone ht' => by
    rw [h, hnone] at ht'
    cases ht'

/-- A confirmation changes by itself. -/
theorem Attends.of_modify {j : Nat} {f : Task Unit Unit → Task Unit Unit}
    (h : r'.confirmations = r.confirmations.modify j f)
    (hf : ∀ t, r.confirmations[j]? = some t → Confirming r r' j t (f t)) : Attends r r' where
  old := fun i t ht => by
    rw [h, List.getElem?_modify, ht]
    by_cases hij : j = i
    · subst hij
      exact ⟨f t, by simp, hf t ht⟩
    · exact ⟨t, by simp [hij], .stays⟩
  new := fun i t' hnone ht' => by
    rw [h, List.getElem?_modify, hnone] at ht'
    cases ht'

theorem attends_beginConfirmation {i : Nat} {t : Task Unit Unit} (ht : r.confirmations[i]? = some t)
    (hstart : t.start = .first) : Attends r (r.beginConfirmation i) := by
  unfold beginConfirmation
  split
  · rename_i e h
    refine .of_modify (confirmations_updateConfirmation r i _) fun u hu => ?_
    cases ht.symm.trans hu
    exact .refused e hstart h (updateConfirmation_finished ht _)
  · rename_i s h
    refine .of_modify (confirmations_updateConfirmation { r with toScene := s } i _) fun u hu => ?_
    cases ht.symm.trans hu
    exact .waits s hstart h
  · rename_i s h
    refine .of_modify (confirmations_updateConfirmation { r with toScene := s } i _) fun u hu => ?_
    cases ht.symm.trans hu
    exact .returns s hstart h (updateConfirmation_finished (r := { r with toScene := s }) ht _)

theorem attends_runConfirmation (r : Room ν) (i : Nat) : Attends r (r.runConfirmation i) := by
  unfold runConfirmation
  split
  · exact .of_same rfl
  · rename_i t ht
    split
    · exact .of_same rfl
    · rename_i hstart
      exact attends_beginConfirmation ht hstart
    · rename_i hstart
      refine .of_modify (confirmations_updateConfirmation r i _) fun u hu => ?_
      cases ht.symm.trans hu
      exact .resumes hstart (updateConfirmation_finished ht _)
    all_goals exact .of_modify (confirmations_updateConfirmation r i _) fun _ _ => .stops

theorem confirmations_updateReader (r : Room ν) (i : Nat) (f : Task Unit Ticket → Task Unit Ticket) :
    (r.updateReader i f).confirmations = r.confirmations := by
  unfold updateReader
  split
  · rfl
  · exact confirmations_enqueueIf _ _ _

theorem confirmations_runReader (r : Room ν) (i : Nat) :
    (r.runReader i).confirmations = r.confirmations := by
  have hreads : (r.readOutcome i).confirmations = r.confirmations := by
    unfold readOutcome
    split <;> exact confirmations_updateReader _ i _
  unfold runReader
  cases r.readers[i]? with
  | none => rfl
  | some t =>
    dsimp only
    split
    · rfl
    · exact hreads
    · exact hreads
    all_goals exact confirmations_updateReader r i _

theorem confirmations_updateDialog (r : Room ν)
    (f : Task (Dialog.Wait ν) Unit → Task (Dialog.Wait ν) Unit) :
    (r.updateDialog f).confirmations = r.confirmations :=
  confirmations_enqueueIf _ _ _

theorem confirmations_runDialog (r : Room ν) : r.runDialog.confirmations = r.confirmations := by
  unfold runDialog
  split
  · rfl
  all_goals first
    | exact confirmations_proceed _ r
    | rfl

theorem confirmations_notifyDialog (r : Room ν) (k : Nat) :
    (r.notifyDialog k).confirmations = r.confirmations := by
  unfold notifyDialog
  split
  · split
    · exact confirmations_updateDialog r _
    · rfl
  · rfl

theorem confirmations_tell (r : Room ν) : r.tell.confirmations = r.confirmations := by
  unfold tell
  split
  · exact confirmations_updateDialog r _
  · rfl

theorem confirmations_runWatcher (r : Room ν) : r.runWatcher.confirmations = r.confirmations := by
  unfold runWatcher
  split
  · split <;> rfl
  · rfl
  · rfl
  · rfl
  · split <;> rfl

/-- What becomes of the confirmations in a turn. -/
theorem attends_run (r : Room ν) (u : Negotiation.Turn Room.Turn) : Attends r (r.run u) := by
  cases u with
  | caller u =>
    cases u with
    | confirm i => exact attends_runConfirmation r i
    | confirmNotified i =>
      exact .of_modify (confirmations_updateConfirmation r i _) fun _ _ => .told
    | read i => exact .of_same (confirmations_runReader r i)
    | readNotified i => exact .of_same (confirmations_updateReader r i _)
    | dialog => exact .of_same (confirmations_runDialog r)
    | dialogNotified k => exact .of_same (confirmations_notifyDialog r k)
    | watch => exact .of_same (confirmations_runWatcher r)
    | host | hostParting | hostOutcome => exact .of_same rfl
  | attempt _ | attemptEnded _ | attemptNotified _ | submission | submissionEnded =>
    exact .of_same rfl

theorem attends_confirm (r : Room ν) : Attends r r.confirm := by
  have hmore : r.confirm.confirmations = r.confirmations ++ [.fresh] :=
    confirmations_enqueueIf _ _ _
  constructor
  · intro i t ht
    have hlt : i < r.confirmations.length := (List.getElem?_eq_some_iff.mp ht).1
    exact ⟨t, by rw [hmore, List.getElem?_append_left hlt, ht], .stays⟩
  · intro i t' hnone ht'
    have hge : r.confirmations.length ≤ i := List.getElem?_eq_none_iff.mp hnone
    rw [hmore, List.getElem?_append_right hge] at ht'
    exact List.mem_singleton.mp (List.mem_of_getElem? ht')

/-- What becomes of the confirmations in a move. -/
theorem attends_move (script : Nat → Http.Outcome) (r : Room ν) (m : Room.Move ν) :
    Attends r (r.move script m) := by
  cases m with
  | turn u => exact attends_run r u
  | confirm => exact attends_confirm r
  | cancelConfirmation i =>
    exact .of_modify (confirmations_updateConfirmation r i _) fun _ _ => .cancelled
  | cancelReader i => exact .of_same (confirmations_updateReader r i _)
  | tell => exact .of_same (confirmations_tell r)
  | scene _ => exact .of_same rfl
  | read | letIn _ | watch | cancelDialog | cancelWatcher =>
    exact .of_same (confirmations_enqueueIf _ _ _)

/-- Whether confirmation `i` is refused by a move, which changes nothing but its task. -/
def Refuses (script : Nat → Http.Outcome) (r : Room ν) (m : Room.Move ν) (i : Nat)
    (e : LoginError) : Prop :=
  r.toScene.confirm (.confirmNotified i) = .error e ∧
    r.move script m =
      { r with confirmations := r.confirmations.set i (.finished (.failed (.plain e))) }

/-- A confirmation that fails in a move was refused by it. -/
theorem refused_of_move (script : Nat → Http.Outcome) {m : Room.Move ν} {i : Nat}
    {t' : Task Unit Unit} {f : Failure} (ht' : (r.move script m).confirmations[i]? = some t')
    (hf : t'.ending? = some (.failed f)) :
    (∃ t, r.confirmations[i]? = some t ∧ t.ending? = some (.failed f)) ∨
      ∃ e, f = .plain e ∧ r.Refuses script m i e := by
  have hattends := attends_move script r m
  cases ht : r.confirmations[i]? with
  | none =>
    rw [hattends.new i t' ht ht'] at hf
    cases hf
  | some t =>
    obtain ⟨u, hu, hconfirming⟩ := hattends.old i t ht
    cases hu.symm.trans ht'
    cases hconfirming with
    | stays => exact .inl ⟨_, rfl, hf⟩
    | cancelled =>
      rw [Task.ending?, Task.phase_cancel] at hf
      exact .inl ⟨t, rfl, hf⟩
    | told =>
      cases hw : t.awaits? with
      | none =>
        rw [Task.wake_of_awaits_none () hw] at hf
        exact .inl ⟨t, rfl, hf⟩
      | some w =>
        rw [Task.wake_of_awaits hw] at hf
        cases hf
    | refused e _ h hr =>
      cases hf
      exact .inr ⟨e, rfl, h, hr⟩
    | waits | returns | resumes | stops => cases hf

/-- A confirmation that failed in a run was refused by one of its moves. -/
theorem refused_of_moves (script : Nat → Http.Outcome) {ms : List (Room.Move ν)} {i : Nat}
    {t' : Task Unit Unit} {f : Failure} (ht' : (r.moves script ms).confirmations[i]? = some t')
    (hf : t'.ending? = some (.failed f)) :
    (∃ t, r.confirmations[i]? = some t ∧ t.ending? = some (.failed f)) ∨
      ∃ before m after e, ms = before ++ m :: after ∧ f = .plain e ∧
        (r.moves script before).Refuses script m i e := by
  -- over the run from its end: either the last move refused the confirmation, or an earlier one
  induction ms using List.reverseRecOn generalizing t' with
  | nil => exact .inl ⟨t', ht', hf⟩
  | append_singleton ms m ih =>
    have hlast : r.moves script (ms ++ [m]) = (r.moves script ms).move script m :=
      List.foldl_append
    rw [hlast] at ht'
    obtain ⟨t, ht, hold⟩ | ⟨e, he, hrefuses⟩ := refused_of_move script ht' hf
    · refine (ih ht hold).imp_right ?_
      rintro ⟨before, m', after, e, rfl, h⟩
      exact ⟨before, m', after ++ [m], e, by simp, h⟩
    · exact .inr ⟨ms, m, [], e, rfl, he, hrefuses⟩

/-- In its first turn a confirmation is refused if the call is. -/
theorem refuses_turn (script : Nat → Http.Outcome) {i : Nat} {t : Task Unit Unit} {e : LoginError}
    (ht : r.confirmations[i]? = some t) (hstart : t.start = .first)
    (h : r.toScene.confirm (.confirmNotified i) = .error e) :
    r.Refuses script (.turn (.caller (.confirm i))) i e := by
  refine ⟨h, ?_⟩
  have hrun : r.move script (.turn (.caller (.confirm i))) = r.beginConfirmation i := by
    simp [move, run, runConfirmation, ht, hstart]
  rw [hrun, beginConfirmation, h]
  exact updateConfirmation_finished ht _

theorem isSome_act (r : Room ν) (a : Action) :
    (r.act a).1.isSome = true ↔ ∃ e, r.toScene.act a = .error e := by
  unfold act
  cases r.toScene.act a <;> simp

theorem act_of_refused {a : Action} {e : LoginError} (h : (r.act a).1 = some e) :
    e.kind = .wrongState ∧ (r.act a).2 = r := by
  unfold act at h ⊢
  cases hact : r.toScene.act a with
  | ok s => simp [hact] at h
  | error e' =>
    simp only [hact, Option.some.injEq] at h
    subst h
    exact ⟨Scene.kind_of_act hact, rfl⟩

end Room

/-! ## Main results -/

/-- A call that is refused leaves everything in a room as it was. To choose a method is refused
exactly when no proof is wanted any more or the method is not on offer, to set input when no proof is
wanted or the security key is active, and to confirm when no proof is wanted or the active security
key is still waited for; in no step of it anything is noted down before. The dialog goes on in the
same room then, and another task that confirms ends by the refusal, and by no other failure. -/
theorem refused_calls_leave_room (script : Nat → Http.Outcome) {ν : Type} (r : Room ν) :
    (∀ m, (r.act (.select m)).1.isSome ↔ r.stage.isOpen = false ∨ m ∉ r.available) ∧
    (∀ value, (r.act (.input value)).1.isSome ↔ r.stage.isOpen = false ∨ r.active = .webauthn) ∧
    (∀ caller, (∃ e, r.toScene.confirm caller = .error e) ↔
      r.stage.isOpen = false ∨ r.active = .webauthn ∧ r.pending = true) ∧
    (∀ a e, (r.act a).1 = some e → e.kind = .wrongState ∧ (r.act a).2 = r) ∧
    (∀ caller e, r.toScene.confirm caller = .error e →
      e.kind = .wrongState ∧ r.toScene.confirmInSteps caller = (.error e, r.toScene)) ∧
    (∀ e next, r.toScene.confirm (.dialogNotified r.confirmed) = .error e →
      Room.proceed (.confirms next) r = Room.proceed (next (.failed (.plain e))) r) ∧
    (∀ (i : Nat) t e, r.confirmations[i]? = some t → t.start = .first →
      r.toScene.confirm (.confirmNotified i) = .error e →
      r.Refuses script (.turn (.caller (.confirm i))) i e) ∧
    (∀ ms (i : Nat) t f, (r.moves script ms).confirmations[i]? = some t →
      t.ending? = some (.failed f) →
      (∃ t, r.confirmations[i]? = some t ∧ t.ending? = some (.failed f)) ∨
        ∃ before m after e, ms = before ++ m :: after ∧ f = .plain e ∧
          (r.moves script before).Refuses script m i e) := by
  refine ⟨fun m => ?_, fun value => ?_, fun caller => r.toScene.confirm_error_iff caller,
    fun a e h => Room.act_of_refused h, fun caller e h => ?_, fun e next h => ?_,
    fun i t e ht hstart h => Room.refuses_turn script ht hstart h,
    fun ms i t f ht hf => Room.refused_of_moves script ht hf⟩
  · exact (r.isSome_act _).trans (r.toScene.select_error_iff m)
  · exact (r.isSome_act _).trans (r.toScene.setInput_error_iff value)
  · refine ⟨Scene.kind_of_confirm h, ?_⟩
    rw [Scene.confirmInSteps_eq, h]
  · rw [Room.proceed, h]

/-- While a time code is being submitted, the user types another one, and another task confirms. -/
theorem refused_calls_leave_room_submitting :
    ∃ n : Negotiation Room.Turn, ofChallenge "root@pam" "PBS:!tfa!" sampleChallenge = .ok n ∧
      let start : Room Unit := { toOutside := sampleOutside, toNegotiation := n }
      let r := start.moves sampleScript (confirmingMoves ++ [.confirm])
      r.stage = .submitting ∧ (r.act (.input "654321")).2 = r ∧
        r.Refuses sampleScript (.turn (.caller (.confirm 1))) 1
          (.wrongState "cannot confirm while submitting") := by
  obtain ⟨n, hn⟩ : ∃ n : Negotiation Room.Turn,
      ofChallenge "root@pam" "PBS:!tfa!" sampleChallenge = .ok n := ⟨_, rfl⟩
  refine ⟨n, hn, ?_⟩
  cases hn
  obtain ⟨-, -, -, hact, -, -, hturn, -⟩ := refused_calls_leave_room sampleScript
    (Room.moves sampleScript { toOutside := sampleOutside, toNegotiation := _ }
      (confirmingMoves ++ [.confirm]))
  exact ⟨rfl, (hact (.input "654321") _ rfl).2, hturn 1 .fresh _ rfl rfl rfl⟩

end SecondFactor.Negotiation
