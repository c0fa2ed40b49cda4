import SecondFactor.Proofs.Negotiation.Outcome
import SecondFactor.Proofs.Negotiation.Surroundings

/-! # The response to the proof

A ticket reaches the outcome of a negotiation from the request that carried the proof, which is the
only one, and from nowhere else. -/

namespace SecondFactor

/-- Whether an outcome of a request brings a ticket. -/
def Http.Outcome.Brings (o : Http.Outcome) (t : Ticket) : Prop :=
  ∃ response opened answer, o = .ok response ∧ response.opened = .ok opened ∧
    Http.Client.answer opened = .ok answer ∧ Http.Client.ticket answer = .ok t

namespace Http.Outcome

/-- What a client makes of an outcome is what the outcome brings. -/
theorem brings_of_ticketResult {c : Client} {r : Request} {o : Outcome} {t : Ticket}
    (h : c.ticketResult r o = .ok t) : o.Brings t := by
  unfold Client.ticketResult Client.result at h
  simp only [bind, Except.bind, Except.mapError] at h
  cases o with
  | error f => cases h
  | ok response =>
    dsimp only at h
    cases hcheck : Redirect.check c.cookies r.url response with
    | error f => simp [hcheck] at h
    | ok u =>
      simp only [hcheck] at h
      cases hopened : response.opened with
      | error f => simp [hopened] at h
      | ok opened =>
        simp only [hopened] at h
        cases hanswer : Client.answer opened with
        | error f => simp [hanswer] at h
        | ok answer =>
          simp only [hanswer] at h
          exact ⟨response, opened, answer, rfl, hopened, hanswer, h⟩

/-- An outcome brings one ticket at most. -/
theorem Brings.unique {o : Outcome} {t t' : Ticket} (h : o.Brings t) (h' : o.Brings t') :
    t = t' := by
  obtain ⟨response, opened, answer, rfl, hopened, hanswer, hticket⟩ := h
  obtain ⟨response', opened', answer', hresponse, hopened', hanswer', hticket'⟩ := h'
  cases hresponse
  rw [hopened] at hopened'
  cases hopened'
  rw [hanswer] at hanswer'
  cases hanswer'
  rw [hticket] at hticket'
  exact Except.ok.inj hticket'

end Http.Outcome

namespace Negotiation

variable {τ ν : Type} (script : Nat → Http.Outcome)

/-- Whether a submission agrees with the requests that went out, and with the script of what the
backend answers. -/
def Submission.Agrees (h : List Happening) (sub : Submission τ) : Prop :=
  match sub.task.phase with
  | .ready => numbers h = []
  | .waiting (.response number _) => numbers h = [number]
  | .woken (.responded _ o) => ∃ number, numbers h = [number] ∧ o = script number
  | _ => (numbers h).length ≤ 1

/-- What holds along every run: no more than one request goes out, and a ticket in the outcome is
the one that its response brings. -/
structure Tracked (h : List Happening) (n : Negotiation τ) : Prop where
  unsent : n.submission = none → numbers h = []
  submission : ∀ sub, n.submission = some sub → sub.Agrees script h
  outcome : ∀ t, n.outcome = some (.ok t) →
    ∃ number, numbers h = [number] ∧ (script number).Brings t

variable {script}

theorem Submission.Agrees.length_le {h : List Happening} {sub : Submission τ}
    (ha : sub.Agrees script h) : (numbers h).length ≤ 1 := by
  unfold Agrees at ha
  split at ha
  · simp [ha]
  · simp [ha]
  · obtain ⟨number, hnumber, _⟩ := ha
    simp [hnumber]
  · exact ha

namespace Tracked

variable {h es : List Happening} {n n' : Negotiation τ}

theorem length_le (ht : Tracked script h n) : (numbers h).length ≤ 1 := by
  cases hsub : n.submission with
  | none => simp [ht.unsent hsub]
  | some sub => exact (ht.submission sub hsub).length_le

/-- A negotiation with nothing done agrees with every script. -/
theorem of_new (hsub : n.submission = none) (hout : n.outcome = none) : Tracked script [] n where
  unsent := fun _ => rfl
  submission := by
    intro sub h
    rw [hsub] at h
    cases h
  outcome := by
    intro t h
    rw [hout] at h
    cases h

/-- Nothing is sent, and no ticket comes. -/
theorem keeps (ht : Tracked script h n) (hsub : n'.submission = n.submission)
    (hout : ∀ t, n'.outcome = some (.ok t) → n.outcome = some (.ok t)) (hes : numbers es = []) :
    Tracked script (h ++ es) n' := by
  have hnumbers : numbers (h ++ es) = numbers h := by rw [numbers_append, hes, List.append_nil]
  constructor
  · intro hnone
    rw [hnumbers]
    exact ht.unsent (hsub ▸ hnone)
  · intro sub hsome
    unfold Submission.Agrees
    rw [hnumbers]
    exact ht.submission sub (hsub ▸ hsome)
  · intro t ho
    rw [hnumbers]
    exact ht.outcome t (hout t ho)

/-- A proof is accepted. -/
theorem accepts (ht : Tracked script h n) (hsub : n.submission = none) (hes : numbers es = [])
    (p : Proof) (whenEnded : Turn τ) : Tracked script (h ++ es) (n.accept p whenEnded) := by
  have hnumbers : numbers (h ++ es) = [] := by
    rw [numbers_append, ht.unsent hsub, hes]
    rfl
  obtain ⟨n', _, _, hout, heq⟩ := Keeps.accept n p whenEnded
  rw [heq]
  constructor
  · intro _
    exact hnumbers
  · intro sub hsome
    cases hsome
    exact hnumbers
  · intro t ho
    obtain ⟨number, hnumber, _⟩ := ht.outcome t (hout ▸ ho)
    rw [ht.unsent hsub] at hnumber
    cases hnumber

/-- The submission goes on without a ticket. -/
theorem setSubmission (ht : Tracked script h n) {sub : Submission τ} (hsub : n.submission = some sub)
    (f : Task Submission.Wait Unit → Task Submission.Wait Unit)
    (hagrees : Submission.Agrees script (h ++ es) { sub with task := f sub.task })
    (hout : ∀ t, n.outcome = some (.ok t) → numbers (h ++ es) = numbers h) :
    Tracked script (h ++ es) (n.setSubmission f) := by
  constructor
  · intro hnone
    simp [Negotiation.setSubmission, hsub] at hnone
  · intro sub' hsub'
    obtain ⟨sub'', hsub'', rfl⟩ := Option.map_eq_some_iff.mp hsub'
    rw [hsub] at hsub''
    cases hsub''
    exact hagrees
  · intro t ho
    rw [hout t ho]
    exact ht.outcome t ho

/-- The call of the ticket service comes to its end. -/
theorem settle (ht : Tracked script h n) {sub : Submission τ} (hsub : n.submission = some sub)
    {result : Except Failure Ticket} (hlen : (numbers (h ++ es)).length ≤ 1)
    (hold : ∀ t, n.outcome = some (.ok t) → numbers (h ++ es) = numbers h)
    (hnew : ∀ t, result = .ok t → ∃ number, numbers (h ++ es) = [number] ∧ (script number).Brings t) :
    Tracked script (h ++ es) (n.settle result) := by
  have hout (t : Ticket) (ho : (n.settle result).outcome = some (.ok t)) :
      ∃ number, numbers (h ++ es) = [number] ∧ (script number).Brings t := by
    rw [settle_outcome] at ho
    cases hn : n.outcome with
    | some o =>
      rw [hn, Option.some_or] at ho
      cases ho
      rw [hold t hn]
      exact ht.outcome t hn
    | none =>
      rw [hn, Option.none_or] at ho
      cases result with
      | ok t' =>
        cases ho
        exact hnew _ rfl
      | error f =>
        unfold verdict? at ho
        dsimp only at ho
        split at ho <;> cases ho
  obtain ⟨n', how, hk, heq⟩ := Keeps.settle n result
  rw [heq] at hout ⊢
  constructor
  · intro hnone
    simp [Negotiation.setSubmission, hk.submission, hsub] at hnone
  · intro sub' hsub'
    obtain ⟨sub'', _, rfl⟩ := Option.map_eq_some_iff.mp hsub'
    exact hlen
  · exact hout

theorem reject_ok {f : Failure} {t : Ticket} (h : (n.reject f).outcome = some (.ok t)) :
    n.outcome = some (.ok t) := by
  rw [reject_outcome] at h
  cases hn : n.outcome <;> rw [hn] at h
  · cases h
  · exact h

theorem notice_ok {f : Failure} {t : Ticket} (h : (n.notice f).outcome = some (.ok t)) :
    n.outcome = some (.ok t) := by
  rw [notice_outcome] at h
  cases hn : n.outcome <;> rw [hn] at h
  · cases h
  · exact h

theorem keyFailed_ok {r : Key.Refusal} {t : Ticket}
    (h : (n.keyFailed r).outcome = some (.ok t)) : n.outcome = some (.ok t) := by
  unfold keyFailed at h
  dsimp only at h
  split at h
  · exact h
  · have h' := reject_ok h
    exact h'

theorem closes_ok {t : Ticket} (h : (if n.submission.isSome then n.shut
      else if n.done then n.shut.cancelKey
      else n.shut.cancelKey.reject (.plain (.ofKind .cancelled))).outcome = some (.ok t)) :
    n.outcome = some (.ok t) := by
  split at h
  · exact h
  · split at h
    · rwa [cancelKey_outcome] at h
    · have h' := reject_ok h
      rwa [cancelKey_outcome] at h'

/-- A submission that has not begun has sent nothing, so that there is no ticket. -/
theorem numbers_of_first (ht : Tracked script h n) {sub : Submission τ}
    (hsub : n.submission = some sub) (hfirst : sub.task.start = .first) :
    numbers h = [] ∧ ∀ t, n.outcome ≠ some (.ok t) := by
  have hagrees := ht.submission sub hsub
  have hnumbers : numbers h = [] := by
    unfold Submission.Agrees at hagrees
    rwa [Task.phase_of_first hfirst] at hagrees
  refine ⟨hnumbers, fun t ho => ?_⟩
  obtain ⟨number, hnumber, _⟩ := ht.outcome t ho
  rw [hnumbers] at hnumber
  cases hnumber

/-- Every change agrees with the script if the responses that show do. -/
theorem change {userid ticket : String} {c : Challenge} (hs : Sound userid ticket c h n)
    (ht : Tracked script h n) (hc : Change n es n') (hes : ∀ e ∈ es, e.Follows script) :
    Tracked script (h ++ es) n' := by
  cases hc with
  | idle => exact ht.keeps rfl (fun _ => id) rfl
  | waits whenClosed whenDone => exact ht.keeps rfl (fun _ => id) rfl
  | starts =>
    refine ht.keeps ?_ ?_ rfl
    · split <;> rfl
    · intro t
      split <;> exact id
  | selects m hopen hm hne =>
    refine ht.keeps ?_ ?_ rfl
    · split
      · exact (Keeps.cancelKey n).submission
      · rfl
    · intro t ho
      split at ho
      · rwa [← cancelKey_outcome n]
      · exact ho
  | told value hopen htext => exact ht.keeps rfl (fun _ => id) rfl
  | closes => exact ht.keeps (Keeps.closes n).submission (fun _ => closes_ok) rfl
  | retries caller hopen hactive hidle => exact ht.keeps rfl (fun _ => id) rfl
  | mistypes hopen htext hshape => exact ht.keeps rfl (fun _ => id) rfl
  | confirms caller hopen htext hshape =>
    have ht' : Tracked script (h ++ []) { n with inputError := none } :=
      ht.keeps rfl (fun _ => id) rfl
    rw [List.append_nil] at ht'
    exact ht'.accepts (hs.unsubmitted hopen) rfl _ _
  | asks i a request onCancel onLateCancel ha hu => exact ht.keeps rfl (fun _ => id) rfl
  | refused i a r ha hu =>
    exact ht.keeps (Keeps.keyFailed n r).submission (fun _ => keyFailed_ok) rfl
  | keyCrashed i a f ha hu => exact ht.keeps rfl (fun _ => id) rfl
  | asserts i a assertion ha hu hopen =>
    have ht' : Tracked script (h ++ [.replied (.assertion assertion)])
        (n.accept (assertion.proof n.keyText) (.attemptNotified i)) :=
      ht.accepts (hs.unsubmitted hopen) rfl _ _
    have hset : Tracked script ((h ++ [.replied (.assertion assertion)]) ++ [])
        ((n.accept (assertion.proof n.keyText) (.attemptNotified i)).setTask i
          fun _ => .waitingFor .submission) := ht'.keeps rfl (fun _ => id) rfl
    rwa [List.append_nil] at hset
  | assertsLate i a assertion ha hu hopen => exact ht.keeps rfl (fun _ => id) rfl
  | stops i a how ha hhow => exact ht.keeps rfl (fun _ => id) rfl
  | wakes i news hnews => exact ht.keeps rfl (fun _ => id) rfl
  | notices i f hf => exact ht.keeps (Keeps.notice n f).submission (fun _ => notice_ok) rfl
  | sends sub number r hsub hfirst =>
    obtain ⟨hnumbers, hnone⟩ := ht.numbers_of_first hsub hfirst
    refine ht.setSubmission hsub _ ?_ fun t ho => absurd ho (hnone t)
    have hnumber : numbers (h ++ [.submitted n.userid n.ticket sub.proof.text,
        .requested number]) = [number] := by
      rw [numbers_append, hnumbers]
      rfl
    exact hnumber
  | exchanges sub number r o client hsub hfirst =>
    obtain ⟨hnumbers, hnone⟩ := ht.numbers_of_first hsub hfirst
    have hnumber : numbers (h ++ [.submitted n.userid n.ticket sub.proof.text, .requested number,
        .responded number o, .answered (client.ticketResult r o)]) = [number] := by
      rw [numbers_append, hnumbers]
      rfl
    have ho : o = script number := hes (.responded number o) (by simp)
    refine ht.settle hsub (by simp [hnumber]) (fun t ho => absurd ho (hnone t)) fun t hresult => ?_
    exact ⟨number, hnumber, ho ▸ Http.Outcome.brings_of_ticketResult hresult⟩
  | balks sub f hsub hfirst =>
    obtain ⟨hnumbers, hnone⟩ := ht.numbers_of_first hsub hfirst
    have hnumber : numbers (h ++ [.submitted n.userid n.ticket sub.proof.text,
        .answered (.error f)]) = [] := by
      rw [numbers_append, hnumbers]
      rfl
    refine ht.settle hsub (by simp [hnumber]) (fun t ho => absurd ho (hnone t)) fun t hresult => ?_
    cases hresult
  | responds sub number r o hsub hw =>
    have hagrees := ht.submission sub hsub
    unfold Submission.Agrees at hagrees
    rw [Task.phase_of_awaits hw] at hagrees
    have hnumber : numbers (h ++ [.responded number o]) = numbers h := by
      rw [numbers_append]
      exact List.append_nil _
    refine ht.setSubmission hsub _ ?_ fun _ _ => hnumber
    have ho : o = script number := hes (.responded number o) (by simp)
    rw [Task.wake_of_awaits hw]
    exact ⟨number, hnumber.trans hagrees, ho⟩
  | receives sub r o client hsub hnews =>
    have hagrees := ht.submission sub hsub
    unfold Submission.Agrees at hagrees
    rw [Task.phase_of_news hnews] at hagrees
    obtain ⟨number, hold, ho⟩ := hagrees
    have hnumber : numbers (h ++ [.answered (client.ticketResult r o)]) = numbers h := by
      rw [numbers_append]
      exact List.append_nil _
    refine ht.settle hsub (by simp [hnumber, hold]) (fun _ _ => hnumber) fun t hresult => ?_
    exact ⟨number, hnumber.trans hold, ho ▸ Http.Outcome.brings_of_ticketResult hresult⟩

/-- Every run agrees with the script if the backend does where it answers at once. -/
theorem moves {userid ticket : String} {c : Challenge} {s : Scene τ ν}
    (hb : ∀ number o, s.backend number = some o → o = script number)
    (hs : Sound userid ticket c h s.toNegotiation) (ht : Tracked script h s.toNegotiation)
    (ms : List (Move τ ν)) :
    Tracked script (h ++ s.history script ms) (s.moves script ms).toNegotiation := by
  have hstep : ∀ h (s' : Scene τ ν), ∀ m ∈ ms,
      s'.backend = s.backend ∧ Sound userid ticket c h s'.toNegotiation ∧
          Tracked script h s'.toNegotiation →
        (s'.move script m).backend = s.backend ∧
          Sound userid ticket c (h ++ s'.shows script m) (s'.move script m).toNegotiation ∧
            Tracked script (h ++ s'.shows script m) (s'.move script m).toNegotiation := by
    rintro h s' m - ⟨hb', hs', ht'⟩
    have hc := s'.change_move script m
    have hfollows := s'.follows_shows script (by rwa [hb']) m
    exact ⟨(s'.backend_move script m).trans hb', hs'.change hc, ht'.change hs' hc hfollows⟩
  exact (Scene.moves_induction script hstep ⟨rfl, hs, ht⟩).2.2

end Tracked

/-- Whether the requests with these numbers carry the proof that is submitted. -/
def Carried (sent : List Http.Request) (userid ticket : String) (ns : List Nat)
    (n : Negotiation τ) : Prop :=
  ∀ number ∈ ns, ∃ sub, n.submission = some sub ∧
    Http.Carries sent number (·.proofCall userid ticket sub.proof.text)

theorem Carried.mono {sent sent' : List Http.Request} {userid ticket : String} {ns : List Nat}
    {n : Negotiation τ} (hold : Carried sent userid ticket ns n) (hmore : sent <+: sent') :
    Carried sent' userid ticket ns n := by
  intro number hnumber
  obtain ⟨sub, hsub, hcarries⟩ := hold number hnumber
  exact ⟨sub, hsub, hcarries.mono hmore⟩

/-- Whatever goes out for a negotiation carries its proof, for its ticket. -/
theorem Sound.carried_moves {userid ticket : String} {c : Challenge} {h : List Happening}
    {s : Scene τ ν} (hs : Sound userid ticket c h s.toNegotiation)
    (hold : Carried s.sent userid ticket (numbers h) s.toNegotiation) (ms : List (Move τ ν)) :
    Carried (s.moves script ms).sent userid ticket (numbers (h ++ s.history script ms))
      (s.moves script ms).toNegotiation := by
  have hstep : ∀ h (s : Scene τ ν), ∀ m ∈ ms,
      Sound userid ticket c h s.toNegotiation ∧
          Carried s.sent userid ticket (numbers h) s.toNegotiation →
        Sound userid ticket c (h ++ s.shows script m) (s.move script m).toNegotiation ∧
          Carried (s.move script m).sent userid ticket (numbers (h ++ s.shows script m))
            (s.move script m).toNegotiation := by
    rintro h s m - ⟨hs, hold⟩
    have hc := s.change_move script m
    refine ⟨hs.change hc, ?_⟩
    -- whichever submission is meant, its proof stays what it is
    have hstays {sub : Submission τ} (hsub : s.submission = some sub) :
        ∃ sub', (s.move script m).submission = some sub' ∧ sub'.proof = sub.proof :=
      hc.effect.submission hs.unsubmitted hsub
    intro number hnumber
    rw [numbers_append] at hnumber
    rcases List.mem_append.mp hnumber with hbefore | hnow
    · obtain ⟨sub, hsub, hcarries⟩ := hold number hbefore
      obtain ⟨sub', hsub', hproof⟩ := hstays hsub
      exact ⟨sub', hsub', hproof ▸ hcarries.mono (s.sent_move script m)⟩
    · obtain ⟨sub, hsub, hcarries⟩ := s.carries_move script m number hnow
      obtain ⟨sub', hsub', hproof⟩ := hstays hsub
      rw [hs.forUser, hs.forTicket] at hcarries
      exact ⟨sub', hsub', hproof ▸ hcarries⟩
  exact (Scene.moves_induction script hstep ⟨hs, hold⟩).2

end Negotiation

end SecondFactor
