import Mathlib.Data.List.Induction
import SecondFactor.Proofs.Negotiation.Confirming
import SecondFactor.Proofs.Negotiation.Signing

/-! # What holds when a confirmation returns

However the steps of a run come, nobody who confirms is told of an end too early. When the call
returns, either the input was mistyped and nothing happened, or there is an outcome, or the attempt
that was begun by the call came to nothing. -/

namespace SecondFactor.Negotiation

/-! ## Confirming at once -/

namespace Scene

variable {τ ν : Type} {s s' : Scene τ ν} {caller : τ}

/-- Whoever confirms need not wait if the input of a text method was mistyped, which is noted down. -/
theorem confirm_returns (h : s.confirm caller = .ok (false, s')) :
    s.stage.isOpen = true ∧ s.active.takesText = true ∧
      s.active.accepts (s.input s.active) = false ∧
      s' = { s with inputError := some s.active } := by
  have hwaits := waits_of_confirm h
  obtain ⟨hopen, ⟨hkey, -, -⟩ | ⟨htext, ⟨hshape, -⟩ | ⟨hshape, rfl⟩⟩⟩ := confirm_cases h
  · simp [hkey] at hwaits
  · simp [hshape] at hwaits
  · exact ⟨hopen, htext, hshape, rfl⟩

/-- Whoever has to wait is told of the end of the submission of the proof, or of the attempt that
begins. -/
theorem confirm_waits (h : s.confirm caller = .ok (true, s')) :
    (s.active.takesText = true ∧
      ∃ sub, s'.submission = some sub ∧ sub.proof = ⟨s.active, s.input s.active⟩ ∧
        .caller caller ∈ sub.whenEnded) ∨
      s.active = .webauthn ∧ s.pending = false ∧
        ∃ a, s'.attempts = s.attempts ++ [a] ∧ .caller caller ∈ a.whenEnded := by
  have hwaits := waits_of_confirm h
  obtain ⟨-, ⟨hkey, hidle, rfl⟩ | ⟨htext, ⟨-, rfl⟩ | ⟨hshape, rfl⟩⟩⟩ := confirm_cases h
  · exact .inr ⟨hkey, hidle, _, rfl, by simp⟩
  · exact .inl ⟨htext, _, rfl, rfl, by simp⟩
  · have hkey : s.active = .webauthn := by simpa [hshape] using hwaits
    rw [hkey] at htext
    cases htext

/-- No run has another adapter. -/
theorem adapter_of_leads {script : Nat → Http.Outcome} (h : s.Leads script s') :
    s'.adapter = s.adapter := by
  obtain ⟨ms, rfl⟩ := h
  induction ms generalizing s with
  | nil => rfl
  | cons m ms ih => exact (ih (s := s.move script m)).trans (s.adapter_move script m)

end Scene

namespace Room

variable {ν : Type} {refused recalled : Nat → Prop} {script : Nat → Http.Outcome} {r : Room ν}

/-! ## Steps -/

/-- The turn of a guest is taken, who is told so truly in it. -/
theorem Orderly.take (h : Orderly refused recalled r) {c : Room.Turn}
    {rest : List (Negotiation.Turn Room.Turn)} (hqueue : r.queue = .caller c :: rest) :
    Orderly refused recalled { r with queue := rest } ∧
      ((Negotiation.Turn.caller c).isNotice = true → r.Over [] (.caller c)) := by
  obtain ⟨hknown, hheard⟩ := h
  rw [hqueue] at hheard
  have htaken : r.Heard rest :=
    hheard.taken (.refl r.toNegotiation) (fun _ _ _ h => by cases h) fun _ _ h => by cases h
  exact ⟨⟨hknown, htaken⟩, hheard [] _ rest rfl⟩

/-- A new task confirms. It waits for nothing as yet. -/
theorem Orderly.confirm (h : Orderly refused recalled r) : Orderly refused recalled r.confirm := by
  refine h.follow (h.known.staged.visited (visits_confirm (P := fun _ => True) r).visited) []
    (.enqueue r.toScene rfl) List.nodup_nil nofun (fun c hc => ?_) fun c hc => .inl ?_
  · cases c with
    | confirmNotified i =>
      obtain ⟨t, ht, hphase⟩ := hc
      have hlt : i < r.confirmations.length := (List.getElem?_eq_some_iff.mp ht).1
      exact ⟨t, (List.getElem?_append_left hlt).trans ht, hphase⟩
    | _ => exact hc
  · cases c with
    | confirmNotified i =>
      obtain ⟨t, ht, hphase⟩ := hc
      have ht : (r.confirmations ++ [Task.fresh])[i]? = some t := ht
      rcases Nat.lt_or_ge i r.confirmations.length with hlt | hge
      · exact ⟨t, (List.getElem?_append_left hlt).symm.trans ht, hphase⟩
      · rw [List.getElem?_append_right hge] at ht
        rw [List.mem_singleton.mp (List.mem_of_getElem? ht)] at hphase
        cases hphase
    | _ => exact hc

theorem Orderly.letIn (h : Orderly refused recalled r) (d : Dialog ν) :
    Orderly refused recalled (r.letIn d) :=
  h.same (h.known.staged.visited (.enqueue (P := fun _ => True) r.toScene Turn.dialog))
    (.enqueue r.toScene rfl) rfl rfl nofun

/-- The scene makes a move, and nobody is told of an end at once. -/
theorem Orderly.move (h : Orderly refused recalled r) (script : Nat → Http.Outcome)
    (m : Negotiation.Move Room.Turn ν)
    (hf : r.toScene.Follows refused recalled [] (r.toScene.move script m)) :
    Orderly refused recalled (r.onScene (·.move script m)) :=
  h.same (Staged.change h.known.staged (r.toScene.change_move script m)).staged hf rfl rfl
    fun _ _ => id

theorem Orderly.call (h : Orderly refused recalled r) (c : Call)
    (hrecalled : ∀ i, r.Recalls (.call c) i → recalled i) :
    Orderly refused recalled (r.call c) := by
  cases c with
  | act a => exact h.act fun i hi => hrecalled i ⟨_, List.mem_singleton_self _, hi⟩
  | confirm => exact h.confirm
  | read =>
    exact h.same (h.known.staged.visited (visits_read (P := fun _ => True) r).visited)
      (.enqueue r.toScene rfl) rfl rfl fun _ _ => id
  | cancelConfirmation i =>
    refine h.updateConfirmation i (fun t hready => ?_) fun t _ hphase => ?_
    · rwa [Task.phase_cancel]
    · rw [Task.phase_cancel] at hphase
      exact .inl hphase
  | cancelReader i => exact h.updateReader i _
  | cancelDialog =>
    refine h.updateDialog fun k next hphase => ?_
    rw [Task.phase_cancel] at hphase
    exact .inl hphase

/-- In every step those are told of an end who wait for it, and not before it was seen. -/
theorem Orderly.step (h : Orderly refused recalled r) (st : Step ν)
    (hrefused : ∀ i, r.FailsKey st i → refused i) (hrecalled : ∀ i, r.Recalls st i → recalled i)
    (hquits : ∀ i, r.Quits st i → recalled i) : Orderly refused recalled (r.step script st) := by
  cases st with
  | next =>
    unfold Room.step
    cases hqueue : r.queue with
    | nil => exact h
    | cons t rest =>
      have hcalls : ∀ c ∈ callsIn { r with queue := rest } t, ∀ i, c.1.Recalls c.2 i →
          recalled i := by
        intro c hc i hi
        refine hrecalled i ⟨c, ?_, hi⟩
        rwa [calls, hqueue]
      have hscene (hcaller : ∀ c, t ≠ .caller c) :
          Orderly refused recalled (run { r with queue := rest } t) := by
        refine h.run_scene hqueue hcaller ?_ ?_
        · rintro i e rfl he hothers
          exact hrefused i ⟨rfl, rest, e, hqueue, he, hothers⟩
        · rintro i b rfl hb hstops
          exact hquits i ⟨rfl, rest, b, hqueue, hb, hstops⟩
      cases t with
      | caller c =>
        obtain ⟨htaken, hover⟩ := h.take hqueue
        exact htaken.run_caller hover hcalls
      | attempt _ | attemptEnded _ | attemptNotified _ | submission | submissionEnded =>
        exact hscene nofun
  | call c => exact h.call c hrecalled
  | letIn d => exact h.letIn d
  | watch => exact h.enqueueWatcher .fresh true rfl
  | tell => exact h.tell
  | cancelWatcher => exact h.enqueueWatcher _ _ rfl
  | awaitOutcome => exact h.move script (.awaitOutcome .hostOutcome) (.awaitOutcome _ rfl)
  | reply i next =>
    exact h.move script (.reply i next) (.replyTo _ i next)
  | respond =>
    refine h.move script .respond ?_
    unfold Scene.move
    dsimp only
    split
    · exact .respond _ _
    · exact .refl _
  | aside others notes =>
    refine h.move script (.aside others r.queue notes) ?_
    exact .of_same rfl rfl rfl rfl rfl rfl

/-! ## Runs -/

theorem Happens.concat {P : Room ν → Step ν → Prop} {ss : List (Step ν)} (st : Step ν)
    (h : r.Happens script ss P) : r.Happens script (ss ++ [st]) P := by
  obtain ⟨before, st', after, rfl, hP⟩ := h
  exact ⟨before, st', after ++ [st], by simp, hP⟩

theorem happens_last {P : Room ν → Step ν → Prop} {ss : List (Step ν)} {st : Step ν}
    (h : P (r.steps script ss) st) : r.Happens script (ss ++ [st]) P :=
  ⟨ss, st, [], rfl, h⟩

theorem not_happens_nil (r : Room ν) (P : Room ν → Step ν → Prop) : ¬ r.Happens script [] P := by
  rintro ⟨before, st, after, hss, -⟩
  simp at hss

theorem happens_cons (r : Room ν) (st : Step ν) (ss : List (Step ν)) (P : Room ν → Step ν → Prop) :
    r.Happens script (st :: ss) P ↔ P r st ∨ (r.step script st).Happens script ss P := by
  constructor
  · rintro ⟨before, st', after, hss, hP⟩
    cases before with
    | nil =>
      cases hss
      exact .inl hP
    | cons _ before =>
      cases hss
      exact .inr ⟨before, st', after, rfl, hP⟩
  · rintro (hP | ⟨before, st', after, rfl, hP⟩)
    · exact ⟨[], st, ss, rfl, hP⟩
    · exact ⟨st :: before, st', after, rfl, hP⟩

/-- At the beginning nobody waits for anything. -/
theorem orderly_ofChallenge {userid ticket : String} {c : Challenge} {n : Negotiation Room.Turn}
    (hn : ofChallenge userid ticket c = .ok n) (o : Outside) :
    Orderly refused recalled ({ toOutside := o, toNegotiation := n } : Room ν) := by
  have hstaged := staged_ofChallenge hn
  obtain ⟨active, options, -, rfl⟩ := ofChallenge_ok hn
  have htraced : Traced refused recalled
      ({ userid, ticket, challenge := c, options, available := c.available, active } :
        Negotiation Room.Turn) := by
    refine ⟨fun i a ha => ?_, fun sub hsub => ?_, fun c hc => ?_⟩
    · cases ha
    · cases hsub
    · cases hc
  refine ⟨⟨hstaged, htraced, List.nodup_nil, fun c hc => absurd hc List.not_mem_nil, fun c hc => ?_⟩,
    heard_of_quiet fun t ht => absurd ht List.not_mem_nil⟩
  cases c with
  | confirmNotified i =>
    obtain ⟨t, ht, -⟩ := hc
    cases ht
  | dialogNotified k =>
    obtain ⟨next, hnext⟩ := hc
    cases hnext
  | _ => exact hc.elim

theorem Orderly.steps (h : Orderly refused recalled r) {ss : List (Step ν)}
    (hrefused : ∀ i, r.Happens script ss (·.FailsKey · i) → refused i)
    (hrecalled : ∀ i, r.Happens script ss (·.Recalls · i) → recalled i)
    (hquits : ∀ i, r.Happens script ss (·.Quits · i) → recalled i) :
    Orderly refused recalled (r.steps script ss) := by
  -- over the run from its end, since what happened before the last step happened in the run
  induction ss using List.reverseRecOn with
  | nil => exact h
  | append_singleton ss st ih =>
    rw [steps_concat]
    have hbefore := ih (fun i hi => hrefused i (hi.concat st)) (fun i hi => hrecalled i (hi.concat st))
      fun i hi => hquits i (hi.concat st)
    exact hbefore.step st (fun i hi => hrefused i (happens_last hi))
      (fun i hi => hrecalled i (happens_last hi)) fun i hi => hquits i (happens_last hi)

/-! ## Returning -/

/-- A room when a step begins. A turn that is taken is due no more. -/
def opened (r : Room ν) : Step ν → Room ν
  | .next => { r with queue := r.queue.tail }
  | _ => r

/-- Whether a task that confirms returns in a step. -/
def Returns (script : Nat → Http.Outcome) (r : Room ν) (st : Step ν) (i : Nat) : Prop :=
  ∃ t', (r.step script st).confirmations[i]? = some t' ∧ t'.ending? = some (.returned ()) ∧
    ∀ t, r.confirmations[i]? = some t → t.isOver = false

/-- What becomes of the confirmations in a step. -/
theorem attends_step (script : Nat → Http.Outcome) (r : Room ν) (st : Step ν) :
    Attends (r.opened st) (r.step script st) := by
  cases st with
  | next =>
    unfold Room.step opened
    cases hqueue : r.queue with
    | nil => exact .of_same rfl
    | cons t rest => exact attends_run { r with queue := rest } t
  | call c =>
    cases c with
    | act a =>
      refine .of_same ?_
      show (r.act a).2.confirmations = r.confirmations
      unfold Room.act
      split <;> rfl
    | confirm => exact attends_confirm r
    | cancelConfirmation i => exact attends_move script r (.cancelConfirmation i)
    | read => exact attends_move script r .read
    | cancelReader i => exact attends_move script r (.cancelReader i)
    | cancelDialog => exact attends_move script r .cancelDialog
  | letIn d => exact attends_move script r (.letIn d)
  | watch => exact attends_move script r .watch
  | tell => exact attends_move script r .tell
  | cancelWatcher => exact attends_move script r .cancelWatcher
  | awaitOutcome | reply _ _ | respond | aside _ _ => exact .of_same rfl

theorem toGuests_opened (r : Room ν) (st : Step ν) : (r.opened st).toGuests = r.toGuests := by
  cases st <;> rfl

/-- A task that confirms returns at once if the input was mistyped, and otherwise in the turn that
it was told of. -/
theorem Returns.cases {st : Step ν} {i : Nat} (h : r.Returns script st i) :
    (∃ s, (r.opened st).toScene.confirm (.confirmNotified i) = .ok (false, s) ∧
      r.step script st = { r.opened st with
        toScene := s, confirmations := r.confirmations.set i (.finished (.returned ())) }) ∨
      r.Returning (.confirmNotified i) ∧
        r.step script st = { r.opened st with
          confirmations := r.confirmations.set i (.finished (.returned ())) } := by
  obtain ⟨t', ht', hreturned, hlive⟩ := h
  have hconfirmations : (r.opened st).confirmations = r.confirmations :=
    congrArg Guests.confirmations (toGuests_opened r st)
  have hattends := attends_step script r st
  rw [← hconfirmations] at hlive ⊢
  cases ht : (r.opened st).confirmations[i]? with
  | none =>
    rw [hattends.new i t' ht ht'] at hreturned
    cases hreturned
  | some t =>
    have hlive := hlive t ht
    obtain ⟨u, hu, hconfirming⟩ := hattends.old i t ht
    cases hu.symm.trans ht'
    have hending : t.ending? = none := by simpa [Task.isOver] using hlive
    cases hconfirming with
    | stays => cases hending.symm.trans hreturned
    | cancelled =>
      rw [Task.ending?, Task.phase_cancel] at hreturned
      cases hending.symm.trans hreturned
    | told =>
      cases hw : t.awaits? with
      | none =>
        rw [Task.wake_of_awaits_none () hw] at hreturned
        cases hending.symm.trans hreturned
      | some w =>
        rw [Task.wake_of_awaits hw] at hreturned
        cases hreturned
    | returns s _ hconfirm hr => exact .inl ⟨s, hconfirm, hr⟩
    | resumes hstart hr => exact .inr ⟨⟨t, hconfirmations ▸ ht, hstart⟩, hr⟩
    | refused | waits | stops => cases hreturned

/-- Who waits for the submission waits for no attempt. -/
theorem not_mem_attempt {n : Negotiation Room.Turn} (h : n.callers.Nodup) {c : Room.Turn}
    {sub : Submission Room.Turn} (hsub : n.submission = some sub) (hc : .caller c ∈ sub.whenEnded)
    {a : Attempt Room.Turn} (ha : a ∈ n.attempts) : .caller c ∉ a.whenEnded := by
  intro hin
  refine (List.nodup_append.mp h).2.2 c ?_ c ?_ rfl
  · exact List.mem_flatMap.mpr ⟨a, ha, mem_callersOf.mpr hin⟩
  · rw [hsub]
    exact List.mem_flatMap.mpr ⟨sub, List.mem_singleton_self sub, mem_callersOf.mpr hc⟩

end Room

/-! ## Main results -/

/-- Whoever confirms need not wait only if the input of a text method was mistyped. The call returns
at once then, nothing is sent, and nothing changes but that it is noted down for which method. Whoever
waits does so for the submission of their proof or for the attempt that they began. When they return,
which is a step that changes nothing else, there is an outcome, in any case if it was their proof that
was submitted and also if the submission crashed, or their attempt has come to nothing: the security
key failed it while another method was on offer, it was cancelled by a call that gave it up, or its
request ended as cancelled by itself. A submission never does so: nobody holds its task, and no
request of the backend ends as cancelled. -/
theorem confirmation_returns_settled (script : Nat → Http.Outcome) {userid ticket : String}
    {c : Challenge} {n : Negotiation Room.Turn} (hn : ofChallenge userid ticket c = .ok n)
    {ν : Type} (o : Outside) (ss : List (Room.Step ν)) :
    let start : Room ν := { toOutside := o, toNegotiation := n }
    let r := start.steps script ss
    (∀ (s s' : Scene Room.Turn ν) caller, s.confirm caller = .ok (false, s') →
      s.stage.isOpen = true ∧ s.active.takesText = true ∧
        s.active.accepts (s.input s.active) = false ∧
        s' = { s with inputError := some s.active }) ∧
    (∀ (s s' : Scene Room.Turn ν) caller, s.confirm caller = .ok (true, s') →
      (s.active.takesText = true ∧
        ∃ sub, s'.submission = some sub ∧ sub.proof = ⟨s.active, s.input s.active⟩ ∧
          .caller caller ∈ sub.whenEnded) ∨
        s.active = .webauthn ∧ s.pending = false ∧
          ∃ a, s'.attempts = s.attempts ++ [a] ∧ .caller caller ∈ a.whenEnded) ∧
    (∀ st i, r.Returns script st i →
      (∃ s, (r.opened st).toScene.confirm (.confirmNotified i) = .ok (false, s) ∧
        r.step script st = { r.opened st with
          toScene := s, confirmations := r.confirmations.set i (.finished (.returned ())) }) ∨
        r.Returning (.confirmNotified i) ∧
          r.step script st = { r.opened st with
            confirmations := r.confirmations.set i (.finished (.returned ())) }) ∧
    (∀ caller sub, r.Returning caller → r.submission = some sub → .caller caller ∈ sub.whenEnded →
      r.done = true) ∧
    (∀ caller, r.Returning caller →
      r.done = true ∨
        ∃ (i : Nat) (a : Attempt Room.Turn), r.attempts[i]? = some a ∧ .caller caller ∈ a.whenEnded ∧
          (start.Happens script ss (·.FailsKey · i) ∨
            a.task.ending? = some .cancelled ∧
              (start.Happens script ss (·.Recalls · i) ∨
                start.Happens script ss (·.Quits · i)))) := by
  intro start r
  have h : Room.Orderly (fun i => start.Happens script ss (·.FailsKey · i))
      (fun i => start.Happens script ss (·.Recalls · i) ∨ start.Happens script ss (·.Quits · i)) r :=
    (Room.orderly_ofChallenge hn o).steps (fun i => id) (fun i => .inl) fun i => .inr
  have hover {caller : Room.Turn} (hreturning : r.Returning caller) : r.Over [] (.caller caller) :=
    h.known.told caller (Room.Guests.told_of_returning hreturning)
  refine ⟨fun s s' caller hconfirm => Scene.confirm_returns hconfirm,
    fun s s' caller hconfirm => Scene.confirm_waits hconfirm,
    fun st i hreturns => hreturns.cases, fun caller sub hreturning hsub hin => ?_,
    fun caller hreturning => ?_⟩
  · obtain ⟨-, -, -, hdone⟩ | ⟨i, a, ha, hin', -⟩ := (hover hreturning).settled h.known.traced
    · exact hdone
    · exact absurd hin' (Room.not_mem_attempt h.known.callers hsub hin (List.mem_of_getElem? ha))
  · obtain ⟨-, -, -, hdone⟩ | ⟨i, a, ha, hin, hdone | hended⟩ :=
      (hover hreturning).settled h.known.traced
    · exact .inl hdone
    · exact .inl hdone
    · exact .inr ⟨i, a, ha, hin, hended⟩

/-- A backend that cannot be reached for a reason that nobody expected. -/
def crashingScript : Nat → Http.Outcome := fun _ => .error (.crash "boom")

/-- A room in which a user turned to a time code and confirmed it, and the submission crashed. -/
def crashedRoom (n : Negotiation Room.Turn) : Room Unit :=
  Room.steps crashingScript { toOutside := sampleOutside, toNegotiation := n }
    [.call (.act (.select .totp)), .call (.act (.input "123456")), .call .confirm, .next, .next,
      .respond, .next, .next, .next]

/-- The call returns after it was seen that the submission crashed, which is an outcome. -/
theorem confirmation_returns_settled_crashed :
    ∃ n : Negotiation Room.Turn, ofChallenge "root@pam" "PBS:!tfa!" sampleChallenge = .ok n ∧
      (crashedRoom n).Returns crashingScript .next 0 ∧
        (∃ sub f, (crashedRoom n).submission = some sub ∧ sub.task.ending? = some (.failed f)) ∧
        (crashedRoom n).Returning (.confirmNotified 0) ∧ (crashedRoom n).done = true := by
  obtain ⟨n, hn⟩ : ∃ n : Negotiation Room.Turn,
      ofChallenge "root@pam" "PBS:!tfa!" sampleChallenge = .ok n := ⟨_, rfl⟩
  refine ⟨n, hn, ?_⟩
  have hsubmitted : ∀ caller sub, (crashedRoom n).Returning caller →
      (crashedRoom n).submission = some sub → .caller caller ∈ sub.whenEnded →
      (crashedRoom n).done = true :=
    (confirmation_returns_settled crashingScript hn sampleOutside _).2.2.2.1
  have hreturning : (crashedRoom n).Returning (.confirmNotified 0) := by
    cases hn
    exact ⟨{ phase := .woken () }, rfl, rfl⟩
  obtain ⟨sub, hsub, hwaits, f, hfailed⟩ : ∃ sub, (crashedRoom n).submission = some sub ∧
      .caller (.confirmNotified 0) ∈ sub.whenEnded ∧ ∃ f, sub.task.ending? = some (.failed f) := by
    cases hn
    exact ⟨_, rfl, .tail _ (.head _), _, rfl⟩
  refine ⟨?_, ⟨sub, f, hsub, hfailed⟩, hreturning, hsubmitted _ sub hreturning hsub hwaits⟩
  cases hn
  refine ⟨.finished (.returned ()), rfl, rfl, ?_⟩
  rintro t ht
  cases ht
  rfl

/-- An adapter that ends its requests as cancelled by itself. -/
def quittingOutside : Outside := { sampleOutside with adapter := some fun _ => .stops }

/-- A user who confirms the security key, and the turns until the call is told that its attempt has
ended. -/
def quittingSteps : List (Room.Step Unit) := [.call .confirm, .next, .next, .next, .next]

/-- The room behind the first of these steps. -/
def quittingRoom (n : Negotiation Room.Turn) (k : Nat) : Room Unit :=
  Room.steps crashingScript { toOutside := quittingOutside, toNegotiation := n }
    (quittingSteps.take k)

/-- The call returns although nothing is settled: there is no outcome, the security key has not failed,
and nobody made a call that cancelled the attempt. -/
theorem confirmation_returns_unsettled :
    ∃ n : Negotiation Room.Turn, ofChallenge "root@pam" "PBS:!tfa!" sampleChallenge = .ok n ∧
      (quittingRoom n 5).Returns crashingScript .next 0 ∧
      (quittingRoom n 5).done = false ∧ (quittingRoom n 5).stage.isOpen = true ∧
        (quittingRoom n 5).active = .webauthn ∧ (quittingRoom n 5).keyError.isNone = true ∧
      (quittingRoom n 5).attempts[0]?.bind (·.task.ending?) = some .cancelled ∧
      ∀ i, ¬ (quittingRoom n 0).Happens crashingScript quittingSteps (·.Recalls · i) := by
  refine ⟨_, rfl, ⟨_, rfl, rfl, ?_⟩, rfl, rfl, rfl, rfl, rfl, ?_⟩
  · rintro t ht
    cases ht
    rfl
  · intro i hi
    simp only [quittingSteps, Room.happens_cons, Room.not_happens_nil, or_false] at hi
    rcases hi with ⟨c, hc, -⟩ | ⟨c, hc, hcurrent, -⟩ | ⟨c, hc, -⟩ | ⟨c, hc, -⟩ | ⟨c, hc, -⟩
    · cases hc
    · cases List.mem_singleton.mp hc
      cases hcurrent
    · cases hc
    · cases hc
    · cases hc

end SecondFactor.Negotiation
