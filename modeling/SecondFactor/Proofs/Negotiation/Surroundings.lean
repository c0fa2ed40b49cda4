import SecondFactor.Proofs.Negotiation.Change

/-! # The surroundings of a negotiation

Of all moves only one turn of the submission sends anything to the backend, namely the request that
carries the proof. What was sent, and what the log says of it, agrees with the history. -/

namespace SecondFactor

/-- Whether the request with this number is one that a client makes for a call. -/
def Http.Carries (sent : List Http.Request) (number : Nat) (call : Http.Client → Http.Call) : Prop :=
  ∃ client r, sent[number]? = some r ∧ Http.Client.request client (call client) = .ok r

/-- What was sent stays sent. -/
theorem Http.Carries.mono {sent sent' : List Http.Request} {number : Nat}
    {call : Http.Client → Http.Call} (h : Http.Carries sent number call) (hmore : sent <+: sent') :
    Http.Carries sent' number call := by
  obtain ⟨client, r, hr, hcall⟩ := h
  obtain ⟨more, rfl⟩ := hmore
  obtain ⟨hlt, -⟩ := List.getElem?_eq_some_iff.mp hr
  exact ⟨client, r, (List.getElem?_append_left hlt).trans hr, hcall⟩

/-- The request that is sent last has the number of those before it. -/
theorem Http.carries_append {sent : List Http.Request} {client : Http.Client}
    {call : Http.Client → Http.Call} {r : Http.Request}
    (h : Http.Client.request client (call client) = .ok r) :
    Http.Carries (sent ++ [r]) sent.length call :=
  ⟨client, r, List.getElem?_concat_length, h⟩

/-- Whatever comes back, a client keeps its settings. -/
theorem Http.Client.settings_receive (c : Http.Client) (r : Http.Request) (o : Http.Outcome) :
    (c.receive r o).settings = c.settings := by
  unfold receive
  split <;> rfl

namespace Negotiation

variable {τ ν : Type}

/-- The number of the request that an event is about. -/
def Event.requested? : Event ν → Option Nat
  | .requested number => some number
  | _ => none

/-- The numbers of the requests to the backend in a list of events. -/
def requests (es : List (Event ν)) : List Nat := es.filterMap Event.requested?

/-- The number of the request that went out. -/
def Happening.requested? : Happening → Option Nat
  | .requested number => some number
  | _ => none

/-- The numbers of the requests that went out. -/
def numbers (h : List Happening) : List Nat := h.filterMap Happening.requested?

/-- Whether a response is the one of a script. -/
def Happening.Follows (script : Nat → Http.Outcome) : Happening → Prop
  | .responded number o => o = script number
  | _ => True

theorem requests_append (es fs : List (Event ν)) : requests (es ++ fs) = requests es ++ requests fs :=
  List.filterMap_append

theorem numbers_append (h es : List Happening) : numbers (h ++ es) = numbers h ++ numbers es :=
  List.filterMap_append

namespace Scene

/-- What concerns others around a negotiation: the behaviour of the backend, what was sent to it, the
numbers of the requests that were noted, how the client is set, and the adapter for security keys. -/
def traffic (s : Scene τ ν) :
    Http.Backend × List Http.Request × List Nat × Settings × Option Key.Adapter :=
  (s.backend, s.sent, requests s.log, s.client.settings, s.adapter)

theorem traffic_note (s : Scene τ ν) {es : List (Event ν)} (hes : requests es = []) :
    (s.note es).traffic = s.traffic := by
  simp only [traffic, note, requests_append, hes, List.append_nil]

@[simp] theorem traffic_reject (s : Scene τ ν) (f : Failure) :
    (s.reject f).traffic = s.traffic := by
  unfold reject
  dsimp only
  split <;> rfl

@[simp] theorem traffic_resolve (s : Scene τ ν) (t : Ticket) :
    (s.resolve t).traffic = s.traffic := by
  unfold resolve
  split <;> rfl

@[simp] theorem traffic_updateAttempt (s : Scene τ ν) (i : Nat)
    (f : Task Attempt.Wait Unit → Task Attempt.Wait Unit) :
    (s.updateAttempt i f).traffic = s.traffic := by
  unfold updateAttempt
  cases s.attempts[i]? with
  | none => rfl
  | some a =>
    dsimp only
    split <;> rfl

@[simp] theorem traffic_endAttempt (s : Scene τ ν) (i : Nat) (how : Ending Unit) :
    (s.endAttempt i how).traffic = s.traffic := by
  unfold endAttempt
  cases s.attempts[i]? <;> rfl

@[simp] theorem traffic_updateSubmission (s : Scene τ ν)
    (f : Task Submission.Wait Unit → Task Submission.Wait Unit) :
    (s.updateSubmission f).traffic = s.traffic := by
  unfold updateSubmission
  cases s.submission with
  | none => rfl
  | some sub =>
    dsimp only
    split <;> rfl

@[simp] theorem traffic_endSubmission (s : Scene τ ν) (how : Ending Unit) :
    (s.endSubmission how).traffic = s.traffic := by
  unfold endSubmission
  cases s.submission <;> rfl

@[simp] theorem traffic_cancelAttempt (s : Scene τ ν) :
    s.cancelAttempt.traffic = s.traffic := by
  unfold cancelAttempt
  cases s.current with
  | none => rfl
  | some i => exact traffic_updateAttempt s i _

@[simp] theorem traffic_accept (s : Scene τ ν) (p : Proof) (whenEnded : Turn τ) :
    (s.accept p whenEnded).traffic = s.traffic := by
  unfold accept
  dsimp only
  split
  · rfl
  · exact traffic_cancelAttempt _

@[simp] theorem traffic_keyFailed (s : Scene τ ν) (r : Key.Refusal) :
    (s.keyFailed r).traffic = s.traffic := by
  unfold keyFailed
  dsimp only
  split
  · rfl
  · exact traffic_reject _ _

@[simp] theorem traffic_conclude (s : Scene τ ν) (i : Nat) (r : Key.Reply) :
    (s.conclude i r).traffic = s.traffic := by
  cases r with
  | refused r => simp [conclude]
  | crashed f => simp [conclude]
  | assertion a =>
    by_cases hopen : s.stage.isOpen = true <;> simp [conclude, hopen]

/-- What a device does is no request to the backend. -/
theorem requests_device (request : Nat) (es : List Key.DeviceEvent) :
    requests (es.map (Event.device (ν := ν) request)) = [] := by
  simp [requests, List.filterMap_map, Event.requested?]

@[simp] theorem traffic_proceed (s : Scene τ ν) (i request : Nat) (b : Key.Behaviour) :
    (s.proceed i request b).traffic = s.traffic := by
  have hnote := s.traffic_note (requests_device request b.proceed.1)
  simp only [proceed]
  cases b.proceed.2 with
  | ended r => exact (traffic_conclude _ i r).trans hnote
  | stopped => exact (traffic_endAttempt _ i _).trans hnote
  | waiting onCancel onLateCancel => exact (traffic_updateAttempt _ i _).trans hnote

@[simp] theorem traffic_ask (s : Scene τ ν) (i : Nat) : (s.ask i).traffic = s.traffic := by
  unfold ask
  split
  · exact (traffic_proceed _ i _ _).trans (traffic_note _ rfl)
  · exact traffic_conclude s i _

@[simp] theorem traffic_runAttempt (s : Scene τ ν) (i : Nat) :
    (s.runAttempt i).traffic = s.traffic := by
  unfold runAttempt
  cases s.attempts[i]? with
  | none => rfl
  | some a =>
    dsimp only
    split
    · rfl
    · exact traffic_ask s i
    · exact traffic_proceed s i _ _
    · exact traffic_endAttempt s i _
    · exact (traffic_proceed _ i _ _).trans (traffic_note _ rfl)
    · exact traffic_proceed s i _ _
    · exact traffic_endAttempt s i _
    · exact traffic_endAttempt s i _

@[simp] theorem traffic_ended (s : Scene τ ν) (how : Option (Ending Unit)) :
    (s.ended how).traffic = s.traffic := by
  unfold ended
  split
  · split
    · rfl
    · exact traffic_reject s _
  · rfl

@[simp] theorem traffic_settleSubmission (s : Scene τ ν) (result : Except Failure Ticket) :
    (s.settleSubmission result).traffic = s.traffic := by
  cases result with
  | ok t => simp [settleSubmission]
  | error f =>
    by_cases hf : f.loginError?.isSome <;> simp [settleSubmission, hf]

@[simp] theorem traffic_receive (s : Scene τ ν) (r : Http.Request) (o : Http.Outcome) :
    (s.receive r o).traffic = s.traffic := by
  have hsettle := traffic_settleSubmission { s with toOutside := s.toOutside.receive r o }
    ((s.toOutside.receive r o).client.ticketResult r o)
  refine hsettle.trans ?_
  simp only [traffic, Outside.receive, Http.Client.settings_receive]

@[simp] theorem traffic_close (s : Scene τ ν) : s.close.traffic = s.traffic := by
  unfold close
  dsimp only
  split
  · rfl
  · split
    · exact traffic_cancelAttempt _
    · exact (traffic_reject _ _).trans (traffic_cancelAttempt _)

/-! ## Moves -/

variable (script : Nat → Http.Outcome)

theorem traffic_act (s : Scene τ ν) (a : Action) :
    (s.move script (.act a)).traffic = s.traffic := by
  cases a with
  | start =>
    simp only [move, act, start]
    split <;> rfl
  | select m =>
    simp only [move, act]
    split
    · obtain ⟨-, -, ⟨-, rfl⟩ | ⟨-, -, rfl⟩ | ⟨-, -, rfl⟩⟩ := select_cases ‹_›
      · rfl
      · exact traffic_cancelAttempt s
      · rfl
    · rfl
  | input value =>
    simp only [move, act]
    split
    · obtain ⟨-, -, rfl⟩ := setInput_cases ‹_›
      rfl
    · rfl
  | close => exact traffic_close s

theorem traffic_confirm (s : Scene τ ν) (caller : τ) :
    (s.move script (.confirm caller)).traffic = s.traffic := by
  simp only [move]
  split
  · obtain ⟨-, ⟨-, -, rfl⟩ | ⟨-, ⟨-, rfl⟩ | ⟨-, rfl⟩⟩⟩ := confirm_cases ‹_›
    · rfl
    · exact traffic_accept _ _ _
    · rfl
  · rfl

/-- The request that is sent for a proof, if one can be. -/
def sends? (s : Scene τ ν) (p : Proof) : Option Http.Request :=
  (s.client.request (s.client.proofCall s.userid s.ticket p.text)).toOption

/-- The request that goes out when it is the turn of the submission. -/
def submits? (s : Scene τ ν) : Option Http.Request :=
  s.submission.bind fun sub =>
    match sub.task.start with
    | .first => s.sends? sub.proof
    | _ => none

/-- What goes out is the request that the client makes for the proof. -/
theorem exists_of_submits (s : Scene τ ν) {r : Http.Request} (hr : s.submits? = some r) :
    ∃ sub, s.submission = some sub ∧
      s.client.request (s.client.proofCall s.userid s.ticket sub.proof.text) = .ok r := by
  obtain ⟨sub, hsub, hsends⟩ := Option.bind_eq_some_iff.mp hr
  refine ⟨sub, hsub, ?_⟩
  cases hstart : sub.task.start with
  | first =>
    simp only [hstart, sends?] at hsends
    cases hcall : s.client.request (s.client.proofCall s.userid s.ticket sub.proof.text) with
    | error f => simp [hcall, Except.toOption] at hsends
    | ok r' => simpa [hcall, Except.toOption] using hsends
  | _ => simp [hstart] at hsends

theorem traffic_submit (s : Scene τ ν) (p : Proof) :
    (s.submit p).traffic = (s.backend, s.sent ++ (s.sends? p).toList,
      requests s.log ++ (s.sends? p).toList.map fun _ => s.sent.length, s.client.settings,
      s.adapter) := by
  unfold submit sends? Outside.send
  cases s.client.request (s.client.proofCall s.userid s.ticket p.text) with
  | error f =>
    simp only [Except.map, Except.toOption, Option.toList_none, List.map_nil, List.append_nil]
    exact traffic_settleSubmission s (.error f)
  | ok r =>
    have hnote : requests (s.log ++ [Event.requested s.sent.length]) =
        requests s.log ++ [s.sent.length] := requests_append _ _
    simp only [Except.map, Except.toOption, Option.toList_some, List.map_cons, List.map_nil,
      toOutside_note]
    rw [← hnote]
    cases s.backend s.sent.length with
    | none => exact traffic_updateSubmission _ _
    | some o => exact traffic_receive _ r o

/-- A turn of the submission sends the request that carries the proof when the submission begins,
and nothing later on. -/
theorem traffic_runSubmission (s : Scene τ ν) :
    s.runSubmission.traffic = (s.backend, s.sent ++ s.submits?.toList,
      requests s.log ++ s.submits?.toList.map fun _ => s.sent.length, s.client.settings,
      s.adapter) := by
  have hquiet : s.traffic =
      (s.backend, s.sent ++ [], requests s.log ++ [], s.client.settings, s.adapter) := by
    simp [traffic]
  unfold runSubmission submits?
  cases s.submission with
  | none => exact hquiet
  | some sub =>
    simp only [Option.bind_some]
    cases sub.task.start with
    | first => exact traffic_submit s sub.proof
    | news w =>
      cases w with
      | response _ _ => exact hquiet
      | responded r o => exact (traffic_receive s r o).trans hquiet
    | idle | cancelled _ | cancelledLate _ => exact hquiet

theorem numbers_sending (s : Scene τ ν) (p : Proof) :
    numbers (s.sending p) = (s.sends? p).toList.map fun _ => s.sent.length := by
  unfold sending sends? Outside.send
  cases s.client.request (s.client.proofCall s.userid s.ticket p.text) with
  | error f => rfl
  | ok r =>
    simp only [Except.map, Except.toOption]
    cases s.backend s.sent.length <;> rfl

theorem numbers_submitting (s : Scene τ ν) :
    numbers s.submitting = s.submits?.toList.map fun _ => s.sent.length := by
  unfold submitting submits?
  cases s.submission with
  | none => rfl
  | some sub =>
    simp only [Option.bind_some]
    cases sub.task.start with
    | first => exact (List.filterMap_cons_none rfl).trans (numbers_sending s sub.proof)
    | news w => cases w <;> rfl
    | idle | cancelled _ | cancelledLate _ => rfl

/-- A move that is no turn of the submission, made by nobody else, sends nothing. -/
theorem traffic_move (s : Scene τ ν) {m : Move τ ν} (hsubmission : m ≠ .turn .submission)
    (haside : ∀ others queue notes, m ≠ .aside others queue notes) :
    (s.move script m).traffic = s.traffic := by
  cases m with
  | act a => exact traffic_act script s a
  | confirm caller => exact traffic_confirm script s caller
  | awaitClosed caller =>
    simp only [move, awaitClosed]
    split <;> rfl
  | awaitOutcome caller =>
    simp only [move, awaitOutcome]
    split <;> rfl
  | turn t =>
    cases t with
    | attempt i => exact traffic_runAttempt s i
    | attemptEnded i => exact traffic_ended s _
    | attemptNotified i => exact traffic_updateAttempt s i _
    | submission => exact absurd rfl hsubmission
    | submissionEnded => exact traffic_ended s _
    | caller t => rfl
  | reply i next => exact traffic_updateAttempt s i _
  | respond =>
    simp only [move]
    split
    · exact traffic_updateSubmission s _
    · rfl
  | aside others queue notes => exact absurd rfl (haside others queue notes)

theorem numbers_shows (s : Scene τ ν) {m : Move τ ν} (hsubmission : m ≠ .turn .submission) :
    numbers (s.shows script m) = [] := by
  cases m with
  | act a =>
    cases a with
    | input value =>
      simp only [shows]
      split <;> rfl
    | start | select _ | close => rfl
  | turn t =>
    cases t with
    | attempt i =>
      simp only [shows]
      cases s.reply? i <;> rfl
    | attemptEnded i | submissionEnded =>
      simp only [shows, noticing]
      split <;> rfl
    | submission => exact absurd rfl hsubmission
    | attemptNotified _ | caller _ => rfl
  | respond =>
    simp only [shows]
    cases s.heldNumber? <;> rfl
  | confirm _ | awaitClosed _ | awaitOutcome _ | reply _ _ | aside _ _ _ => rfl

theorem traffic_aside (s : Scene τ ν) (others : Outside) (queue : List (Turn τ)) (notes : List ν) :
    (s.move script (.aside others queue notes)).traffic =
      (s.backend, s.sent ++ others.sent, requests s.log, others.client.settings, s.adapter) := by
  have hnotes : requests (notes.map Event.noted) = [] := by
    simp [requests, List.filterMap_map, Event.requested?]
  simp only [move, traffic, requests_append, hnotes, List.append_nil]
  rfl

/-- The backend behaves the same, whatever is done. -/
theorem backend_move (s : Scene τ ν) (m : Move τ ν) : (s.move script m).backend = s.backend := by
  by_cases hsubmission : m = .turn .submission
  · rw [hsubmission]
    exact congrArg Prod.fst (traffic_runSubmission s)
  · cases m with
    | aside others queue notes => exact congrArg Prod.fst (traffic_aside script s others queue notes)
    | _ => exact congrArg Prod.fst (traffic_move script s hsubmission (by simp))

/-- The log names the requests that the history shows. -/
theorem requests_move (s : Scene τ ν) (m : Move τ ν) :
    requests (s.move script m).log = requests s.log ++ numbers (s.shows script m) := by
  by_cases hsubmission : m = .turn .submission
  · rw [hsubmission]
    have hlog := congrArg (·.2.2.1) (traffic_runSubmission s)
    exact hlog.trans (congrArg _ (numbers_submitting s).symm)
  · rw [numbers_shows script s hsubmission, List.append_nil]
    cases m with
    | aside others queue notes => exact congrArg (·.2.2.1) (traffic_aside script s others queue notes)
    | _ => exact congrArg (·.2.2.1) (traffic_move script s hsubmission (by simp))

theorem backend_moves (s : Scene τ ν) (ms : List (Move τ ν)) :
    (s.moves script ms).backend = s.backend := by
  induction ms generalizing s with
  | nil => rfl
  | cons m ms ih => exact (ih _).trans (backend_move script s m)

theorem requests_moves (s : Scene τ ν) (ms : List (Move τ ν)) :
    requests (s.moves script ms).log = requests s.log ++ numbers (s.history script ms) := by
  induction ms generalizing s with
  | nil => exact (List.append_nil _).symm
  | cons m ms ih =>
    rw [moves_cons, ih, requests_move, history_cons, numbers_append, List.append_assoc]

/-- What was sent stays sent. -/
theorem sent_move (s : Scene τ ν) (m : Move τ ν) : s.sent <+: (s.move script m).sent := by
  by_cases hsubmission : m = .turn .submission
  · subst hsubmission
    exact ⟨_, (congrArg (·.2.1) (traffic_runSubmission s)).symm⟩
  · cases m with
    | aside others queue notes =>
      exact ⟨_, (congrArg (·.2.1) (traffic_aside script s others queue notes)).symm⟩
    | _ => exact ⟨[], (List.append_nil _).trans
        (congrArg (·.2.1) (traffic_move script s hsubmission (by simp))).symm⟩

/-- What goes out for a negotiation carries the proof that is submitted. -/
theorem carries_move (s : Scene τ ν) (m : Move τ ν) :
    ∀ number ∈ numbers (s.shows script m), ∃ sub, s.submission = some sub ∧
      Http.Carries (s.move script m).sent number
        (·.proofCall s.userid s.ticket sub.proof.text) := by
  intro number hnumber
  by_cases hsubmission : m = .turn .submission
  · subst hsubmission
    have hsent : (s.move script (.turn .submission)).sent = s.sent ++ s.submits?.toList :=
      congrArg (·.2.1) (traffic_runSubmission s)
    have hshows : numbers (s.shows script (.turn .submission)) =
        s.submits?.toList.map fun _ => s.sent.length := numbers_submitting s
    rw [hshows] at hnumber
    obtain ⟨r, hr, rfl⟩ := List.mem_map.mp hnumber
    have hr := Option.mem_toList.mp hr
    obtain ⟨sub, hsub, hcall⟩ := s.exists_of_submits hr
    refine ⟨sub, hsub, ?_⟩
    rw [hsent, hr]
    exact Http.carries_append hcall
  · rw [numbers_shows script s hsubmission] at hnumber
    cases hnumber

theorem sent_moves (s : Scene τ ν) (ms : List (Move τ ν)) : s.sent <+: (s.moves script ms).sent := by
  induction ms generalizing s with
  | nil => exact List.prefix_refl _
  | cons m ms ih => exact (sent_move script s m).trans (ih _)

theorem follows_sending {s : Scene τ ν} (hb : ∀ number o, s.backend number = some o → o = script number)
    (p : Proof) : ∀ e ∈ s.sending p, e.Follows script := by
  unfold sending
  split
  · exact List.forall_mem_singleton.mpr trivial
  · dsimp only
    cases ho : s.backend s.sent.length with
    | none => exact List.forall_mem_singleton.mpr trivial
    | some o =>
      have hfollows : Happening.Follows script (.responded s.sent.length o) := hb _ _ ho
      refine List.forall_mem_cons.mpr ⟨trivial, List.forall_mem_cons.mpr ⟨hfollows, ?_⟩⟩
      exact List.forall_mem_singleton.mpr trivial

/-- The backend answers as the script says, if it does where it answers at once. -/
theorem follows_shows {s : Scene τ ν} (hb : ∀ number o, s.backend number = some o → o = script number)
    (m : Move τ ν) : ∀ e ∈ s.shows script m, e.Follows script := by
  have hnone : ∀ e ∈ ([] : List Happening), e.Follows script := List.forall_mem_nil _
  cases m with
  | act a =>
    cases a with
    | start => exact List.forall_mem_singleton.mpr trivial
    | input value =>
      simp only [shows]
      split
      · exact List.forall_mem_singleton.mpr trivial
      · exact hnone
    | select _ | close => exact hnone
  | turn t =>
    cases t with
    | attempt i => exact List.forall_mem_map.mpr fun _ _ => trivial
    | attemptEnded i | submissionEnded =>
      simp only [shows, noticing]
      split
      · exact List.forall_mem_singleton.mpr trivial
      · exact hnone
    | submission =>
      simp only [shows, submitting]
      split
      · exact hnone
      · split
        · exact List.forall_mem_cons.mpr ⟨trivial, follows_sending script hb _⟩
        · exact List.forall_mem_singleton.mpr trivial
        · exact hnone
    | attemptNotified _ | caller _ => exact hnone
  | respond => exact List.forall_mem_map.mpr fun _ _ => rfl
  | confirm _ | awaitClosed _ | awaitOutcome _ | reply _ _ | aside _ _ _ => exact hnone

end Scene

end Negotiation

end SecondFactor
