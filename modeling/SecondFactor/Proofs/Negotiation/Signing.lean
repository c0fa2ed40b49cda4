import SecondFactor.Proofs.Key.Assertion
import SecondFactor.Proofs.Negotiation.Surroundings
import SecondFactor.Proofs.Negotiation.Switching
import SecondFactor.Proofs.Negotiation.Tending

/-! # What a security key signs

A request ends with no other reply than what was in store for it: what its adapter does by itself, or
the answer that came from its device. So a proof by a security key says what an authenticator
answered. -/

namespace SecondFactor

/-! ## Replies in store -/

namespace Key.Behaviour

variable {R : Reply → Prop}

/-- Whether a request can end with no other replies than these. -/
def EndsIn (R : Reply → Prop) : Behaviour → Prop
  | ends r => R r
  | stops => True
  | waits onCancel onLateCancel => onCancel.EndsIn R ∧ onLateCancel.EndsIn R
  | notes _ next => next.EndsIn R

/-- Whether a request that came to rest can end with no other replies than these. -/
def Rest.EndsIn (R : Reply → Prop) : Rest → Prop
  | .ended r => R r
  | .stopped => True
  | .waiting onCancel onLateCancel => onCancel.EndsIn R ∧ onLateCancel.EndsIn R

theorem endsIn_iff_rest {b : Behaviour} : b.EndsIn R ↔ b.proceed.2.EndsIn R := by
  induction b with
  | ends | stops | waits => exact Iff.rfl
  | notes e next ih => exact ih

theorem EndsIn.reply {b : Behaviour} (h : b.EndsIn R) {r : Reply} (hr : b.reply? = some r) :
    R r := by
  have hrest := endsIn_iff_rest.mp h
  unfold reply? at hr
  split at hr
  · rename_i hended
    cases hr
    rwa [hended] at hrest
  · cases hr
  · cases hr

/-- The wait for a device ends with no reply of its own. -/
theorem endsIn_device : device.EndsIn R := ⟨trivial, trivial⟩

/-- A request whose platform is done ends with no reply but one that says so. -/
theorem endsIn_answered {o : PlatformOutcome} {b : Behaviour} (ho : answered? o = some b)
    (hreports : ∀ r, o.Reports r → R r) : b.EndsIn R := by
  rw [endsIn_iff_rest]
  cases concludes_answered ho with
  | ends _ _ hrest hr =>
    rw [hrest]
    exact hreports _ hr
  | stops _ _ hrest =>
    rw [hrest]
    trivial

end Key.Behaviour

namespace Negotiation

variable {τ ν : Type} {R : Key.Reply → Prop}

/-- Whether what an attempt waits for, or what came of it, holds no other replies than these. -/
def Attempt.Wait.EndsIn (R : Key.Reply → Prop) : Attempt.Wait → Prop
  | .reply _ onCancel onLateCancel => onCancel.EndsIn R ∧ onLateCancel.EndsIn R
  | .replied _ next onLateCancel => next.EndsIn R ∧ onLateCancel.EndsIn R
  | .submission => True

/-- Whether an attempt that has begun can get no other replies than these. -/
def Attempt.EndsIn (R : Key.Reply → Prop) (a : Attempt τ) : Prop :=
  ∀ w, a.task.phase = .waiting w ∨ a.task.phase = .woken w → w.EndsIn R

/-- Whether all attempts that have begun can get no other replies than these. -/
def EndsIn (R : Key.Reply → Prop) (n : Negotiation τ) : Prop := ∀ a ∈ n.attempts, a.EndsIn R

namespace EndsIn

variable {n n' : Negotiation τ}

theorem of_attempts (h : n.EndsIn R) (hattempts : n'.attempts = n.attempts) : n'.EndsIn R := by
  intro a ha
  exact h a (hattempts ▸ ha)

theorem setTask (h : n.EndsIn R) (i : Nat) {f : Task Attempt.Wait Unit → Task Attempt.Wait Unit}
    (hf : ∀ a, n.attempts[i]? = some a → ({ a with task := f a.task } : Attempt τ).EndsIn R) :
    (n.setTask i f).EndsIn R := by
  intro a' ha'
  obtain ⟨j, hj⟩ := List.mem_iff_getElem?.mp ha'
  rw [Negotiation.setTask, List.getElem?_modify] at hj
  obtain ⟨a, ha, rfl⟩ := Option.map_eq_some_iff.mp hj
  by_cases hij : i = j
  · rw [if_pos hij]
    exact hf a (hij ▸ ha)
  · rw [if_neg hij]
    exact h a (List.mem_of_getElem? ha)

theorem ends (h : n.EndsIn R) (i : Nat) (how : Ending Unit) :
    (n.setTask i fun _ => .finished how).EndsIn R :=
  h.setTask i fun _ _ _ hw => by rcases hw with hw | hw <;> cases hw

theorem waits (h : n.EndsIn R) (i : Nat) {on : Attempt.Wait} (hon : on.EndsIn R) :
    (n.setTask i fun _ => .waitingFor on).EndsIn R :=
  h.setTask i fun _ _ w hw => by
    rcases hw with hw | hw
    · cases hw
      exact hon
    · cases hw

theorem wakes (h : n.EndsIn R) (i : Nat) {news : Attempt.Wait} (hnews : news.EndsIn R) :
    (n.setTask i (Task.wake news)).EndsIn R := by
  refine h.setTask i fun a ha w hw => ?_
  have hbefore := h a (List.mem_of_getElem? ha)
  cases hwaits : a.task.awaits? with
  | none =>
    rw [Task.wake_of_awaits_none _ hwaits] at hw
    exact hbefore w hw
  | some on =>
    rw [Task.wake_of_awaits hwaits] at hw
    rcases hw with hw | hw
    · cases hw
    · cases hw
      exact hnews

theorem begin (h : n.EndsIn R) (whenEnded : List (Turn τ)) : (n.begin whenEnded).EndsIn R := by
  intro a ha
  rcases List.mem_append.mp ha with hold | hnew
  · exact h a hold
  · cases List.mem_singleton.mp hnew
    intro w hw
    rcases hw with hw | hw <;> cases hw

theorem cancelKey (h : n.EndsIn R) : n.cancelKey.EndsIn R := by
  unfold Negotiation.cancelKey
  split
  · exact h
  · refine h.setTask _ fun a ha w hw => ?_
    rw [Task.phase_cancel] at hw
    exact h a (List.mem_of_getElem? ha) w hw

theorem accept (h : n.EndsIn R) (p : Proof) (whenEnded : Turn τ) :
    (n.accept p whenEnded).EndsIn R := by
  have hshut : EndsIn R { n.shut with stage := .submitting } := h
  unfold Negotiation.accept
  dsimp only
  split
  · exact hshut
  · exact hshut.cancelKey

end EndsIn

/-! ## Moves -/

namespace Scene

variable {s s' : Scene τ ν}

theorem endsIn_conclude (h : s.toNegotiation.EndsIn R) (i : Nat) (r : Key.Reply) :
    (s.conclude i r).toNegotiation.EndsIn R := by
  cases r with
  | refused r =>
    rw [conclude, toNegotiation_endAttempt]
    exact (h.of_attempts (Spares.keyFailed s r).attempts).ends i _
  | crashed f =>
    rw [conclude, toNegotiation_endAttempt]
    exact h.ends i _
  | assertion a =>
    unfold conclude
    dsimp only
    split
    · rw [toNegotiation_updateAttempt, toNegotiation_accept]
      exact (h.accept _ _).waits i trivial
    · rw [toNegotiation_endAttempt]
      exact h.ends i _

theorem endsIn_proceed (h : s.toNegotiation.EndsIn R) (i request : Nat) {b : Key.Behaviour}
    (hb : b.EndsIn R) : (s.proceed i request b).toNegotiation.EndsIn R := by
  have hrest := (Key.Behaviour.endsIn_iff_rest.mp hb)
  unfold proceed
  dsimp only
  split
  · exact endsIn_conclude (s := s.note _) h i _
  · rw [toNegotiation_endAttempt]
    exact h.ends i _
  · rename_i hwaiting
    rw [hwaiting] at hrest
    rw [toNegotiation_updateAttempt]
    exact h.waits i hrest

/-- Whether requests that begin can end with no other replies than these. -/
def Asks (R : Key.Reply → Prop) (s : Scene τ ν) : Prop :=
  R (.refused .unsupported) ∧ ∀ adapter, s.adapter = some adapter → ∀ k, (adapter k).EndsIn R

theorem endsIn_ask (hasks : s.Asks R) (h : s.toNegotiation.EndsIn R) (i : Nat) :
    (s.ask i).toNegotiation.EndsIn R := by
  unfold ask
  split
  · rename_i adapter options hadapter _
    exact endsIn_proceed (s := note { s with asked := s.asked ++ [options] } _) h i _
      (hasks.2 adapter hadapter _)
  · exact endsIn_conclude h i _

theorem endsIn_runAttempt (hasks : s.Asks R) (h : s.toNegotiation.EndsIn R) (i : Nat) :
    (s.runAttempt i).toNegotiation.EndsIn R := by
  have hends (how : Ending Unit) : (s.endAttempt i how).toNegotiation.EndsIn R := by
    rw [toNegotiation_endAttempt]
    exact h.ends i how
  unfold runAttempt
  cases ha : s.attempts[i]? with
  | none => exact h
  | some a =>
    have hbefore := h a (List.mem_of_getElem? ha)
    dsimp only
    split
    · exact h
    · exact endsIn_ask hasks h i
    · rename_i hstart
      exact endsIn_proceed h i _ (hbefore _ (.inr (Task.phase_of_news hstart))).1
    · exact hends _
    · rename_i hstart
      exact endsIn_proceed (s := s.note _) h i _ (hbefore _ (.inl (Task.phase_of_cancelled hstart))).1
    · rename_i hstart
      exact endsIn_proceed h i _ (hbefore _ (.inr (Task.phase_of_cancelledLate hstart))).2
    · exact hends _
    · exact hends _

theorem endsIn_select (h : s.toNegotiation.EndsIn R) {m : Method} (hselect : s.select m = .ok s') :
    s'.toNegotiation.EndsIn R := by
  have hcancelled : s.cancelAttempt.toNegotiation.EndsIn R := by
    rw [toNegotiation_cancelAttempt]
    exact h.cancelKey
  obtain ⟨-, -, ⟨-, rfl⟩ | ⟨-, -, rfl⟩ | ⟨-, -, rfl⟩⟩ := select_cases hselect
  · exact h
  · exact hcancelled
  · exact h

theorem endsIn_close (h : s.toNegotiation.EndsIn R) : s.close.toNegotiation.EndsIn R := by
  have hshut : s.toNegotiation.shut.EndsIn R := h
  rw [toNegotiation_close]
  split
  · exact hshut
  · split
    · exact hshut.cancelKey
    · have hcancelled : s.shut.cancelAttempt.toNegotiation.EndsIn R := by
        rw [toNegotiation_cancelAttempt]
        exact hshut.cancelKey
      rw [← toNegotiation_shut, ← toNegotiation_cancelAttempt, ← toNegotiation_reject]
      exact hcancelled.of_attempts (Spares.reject s.shut.cancelAttempt _).attempts

theorem endsIn_confirm (h : s.toNegotiation.EndsIn R) {caller : τ} {waits : Bool}
    (hconfirm : s.confirm caller = .ok (waits, s')) : s'.toNegotiation.EndsIn R := by
  obtain ⟨-, ⟨-, -, rfl⟩ | ⟨-, ⟨-, rfl⟩ | ⟨-, rfl⟩⟩⟩ := confirm_cases hconfirm
  · exact h.begin [.caller caller]
  · have hcleared : Negotiation.EndsIn R { s.toNegotiation with inputError := none } := h
    rw [toNegotiation_accept]
    exact hcleared.accept _ _
  · exact h

variable (script : Nat → Http.Outcome)

/-- What is in store for attempts changes only by their own turns, and when their devices answer. -/
theorem endsIn_move (hasks : s.Asks R) (h : s.toNegotiation.EndsIn R) {m : Move τ ν}
    (hreply : ∀ i next, m = .reply i next → next.EndsIn R) :
    (s.move script m).toNegotiation.EndsIn R := by
  have hspares {s' : Scene τ ν} (hs : Spares s s') : s'.toNegotiation.EndsIn R :=
    h.of_attempts hs.attempts
  cases m with
  | act a =>
    simp only [move]
    split
    · rename_i s' hact
      cases a with
      | start =>
        cases hact
        unfold start
        split
        · exact h.begin []
        · exact h
      | select m => exact endsIn_select h hact
      | input value => exact hspares (spares_setInput hact)
      | close =>
        cases hact
        exact endsIn_close h
    · exact h
  | confirm caller =>
    simp only [move]
    split
    · rename_i s' hconfirm
      exact endsIn_confirm h hconfirm
    · exact h
  | awaitClosed caller => exact hspares (.awaitClosed s caller)
  | awaitOutcome caller => exact hspares (.awaitOutcome s caller)
  | turn t =>
    cases t with
    | attempt i => exact endsIn_runAttempt hasks h i
    | attemptEnded i => exact hspares (.ended s _)
    | attemptNotified i =>
      simp only [move, run, toNegotiation_updateAttempt]
      exact h.wakes i trivial
    | submission => exact hspares (.runSubmission s)
    | submissionEnded => exact hspares (.ended s _)
    | caller t => exact h
  | reply i next =>
    have hnext := hreply i next rfl
    simp only [move, replyTo, toNegotiation_updateAttempt]
    refine h.setTask i fun a ha w hw => ?_
    have hbefore := h a (List.mem_of_getElem? ha)
    split at hw
    · rename_i request onCancel onLateCancel hwaits
      rw [Task.wake_of_awaits hwaits] at hw
      rcases hw with hw | hw
      · cases hw
      · cases hw
        exact ⟨hnext, (hbefore _ (.inl (Task.phase_of_awaits hwaits))).2⟩
    · exact hbefore w hw
  | respond =>
    simp only [move]
    split
    · exact hspares (.updateSubmission s _)
    · exact h
  | aside others queue notes => exact h

/-- An attempt gets a reply that was in store for it. -/
theorem endsIn_reply (hasks : s.Asks R) (h : s.toNegotiation.EndsIn R) {i : Nat} {r : Key.Reply}
    (hr : s.reply? i = some r) : R r := by
  obtain ⟨a, ha, hr⟩ := Option.bind_eq_some_iff.mp hr
  have hbefore := h a (List.mem_of_getElem? ha)
  split at hr
  · split at hr
    · rename_i adapter options hadapter _
      exact (hasks.2 adapter hadapter _).reply hr
    · cases hr
      exact hasks.1
  · rename_i hstart
    exact (hbefore _ (.inr (Task.phase_of_news hstart))).1.reply hr
  · rename_i hstart
    exact (hbefore _ (.inl (Task.phase_of_cancelled hstart))).1.reply hr
  · rename_i hstart
    exact (hbefore _ (.inr (Task.phase_of_cancelledLate hstart))).2.reply hr
  · cases hr

end Scene

/-! ## Runs -/

/-- A reply shows by itself. -/
theorem Change.eq_of_replied {n n' : Negotiation τ} {es : List Happening} (hc : Change n es n')
    {r : Key.Reply} (hr : .replied r ∈ es) : es = [.replied r] := by
  cases hc <;> simp_all

/-- Security keys behave the same, whatever is done. -/
theorem Scene.adapter_move (script : Nat → Http.Outcome) (s : Scene τ ν) (m : Move τ ν) :
    (s.move script m).adapter = s.adapter := by
  by_cases hsubmission : m = .turn .submission
  · rw [hsubmission]
    exact congrArg (·.2.2.2.2) (traffic_runSubmission s)
  · cases m with
    | aside others queue notes =>
      exact congrArg (·.2.2.2.2) (traffic_aside script s others queue notes)
    | _ => exact congrArg (·.2.2.2.2) (traffic_move script s hsubmission (by simp))

/-- All replies that show in a run were in store. -/
theorem Scene.endsIn_moves (script : Nat → Http.Outcome) {s : Scene τ ν} (hasks : s.Asks R)
    (h : s.toNegotiation.EndsIn R) {ms : List (Move τ ν)}
    (hreplies : ∀ i next, .reply i next ∈ ms → next.EndsIn R) :
    (s.moves script ms).Asks R ∧ (s.moves script ms).toNegotiation.EndsIn R ∧
      ∀ r, .replied r ∈ s.history script ms → R r := by
  have hstart : s.Asks R ∧ s.toNegotiation.EndsIn R ∧ ∀ r, Happening.replied r ∈ [] → R r :=
    ⟨hasks, h, fun r hr => absurd hr List.not_mem_nil⟩
  refine Scene.moves_induction script
    (P := fun h s => s.Asks R ∧ s.toNegotiation.EndsIn R ∧ ∀ r, .replied r ∈ h → R r) ?_ hstart
  rintro before s m hm ⟨hasks, h, hshown⟩
  refine ⟨⟨hasks.1, s.adapter_move script m ▸ hasks.2⟩, s.endsIn_move script hasks h ?_, ?_⟩
  · rintro i next rfl
    exact hreplies i next hm
  · intro r hr
    rcases List.mem_append.mp hr with hold | hnew
    · exact hshown r hold
    · obtain ⟨i, rfl, hreply⟩ :=
        Scene.reply_of_shows script ((s.change_move script m).eq_of_replied hnew)
      exact s.endsIn_reply hasks h hreply

/-! ## Main results -/

/-- Whether an authenticator answered in a run. -/
def Answers (ms : List (Move τ ν)) (r : Key.Response) : Prop :=
  ∃ i next, Key.Behaviour.answered? (.response r) = some next ∧ .reply i next ∈ ms

/-- Whether a reply carries nothing but what an authenticator answered in a run. -/
def Genuine (ms : List (Move τ ν)) (r : Key.Reply) : Prop :=
  ∀ a, r = .assertion a → ∃ response, Answers ms response ∧ a = .ofResponse response

/-- What a platform reports carries nothing else. -/
theorem genuine_of_reports {ms : List (Move τ ν)} {i : Nat} {o : Key.PlatformOutcome}
    {next : Key.Behaviour} (ho : Key.Behaviour.answered? o = some next) (hmem : .reply i next ∈ ms)
    {r : Key.Reply} (hr : o.Reports r) : Genuine ms r := by
  rintro a rfl
  cases o with
  | response response =>
    cases hr
    exact ⟨response, ⟨i, next, ho, hmem⟩, rfl⟩
  | error late e => exact absurd hr e.not_reports_assertion

section

variable {userid ticket : String} {c : Challenge} {n : Negotiation τ}

/-- Where security keys are asked through devices, all assertions are genuine. -/
theorem genuine_moves (hn : ofChallenge userid ticket c = .ok n) {o : Outside}
    (hadapter : o.adapter = some fun _ => .device) (script : Nat → Http.Outcome)
    {ms : List (Move τ ν)} (hdevices : ∀ i next, .reply i next ∈ ms →
      ∃ o, Key.Behaviour.answered? o = some next) :
    let s : Scene τ ν := { toOutside := o, toNegotiation := n }
    (s.moves script ms).Asks (Genuine ms) ∧
      (s.moves script ms).toNegotiation.EndsIn (Genuine ms) ∧
      ∀ r, .replied r ∈ s.history script ms → Genuine ms r := by
  intro s
  obtain ⟨active, options, -, rfl⟩ := ofChallenge_ok hn
  have hasks : s.Asks (Genuine ms) := by
    constructor
    · intro a ha
      cases ha
    · intro adapter ha k
      cases hadapter.symm.trans ha
      exact Key.Behaviour.endsIn_device
  refine s.endsIn_moves script hasks (fun a ha => absurd ha List.not_mem_nil) ?_
  intro i next hmem
  obtain ⟨outcome, ho⟩ := hdevices i next hmem
  exact Key.Behaviour.endsIn_answered ho fun r => genuine_of_reports ho hmem

/-- The challenge of a security key can be decoded wherever there is a negotiation. -/
theorem exists_bytes (hn : ofChallenge userid ticket c = .ok n) {key : KeyChallenge}
    (hkey : c.webauthn = some key) : ∃ bs, Key.Options.bytes key.publicKey.challenge = .ok bs := by
  cases hbytes : Key.Options.bytes key.publicKey.challenge with
  | ok bs => exact ⟨bs, rfl⟩
  | error f =>
    have hoptions : c.webauthn.mapM Key.Options.ofChallenge = .error f := by
      simp [hkey, Key.Options.ofChallenge, hbytes, bind, Except.bind, Functor.map, Except.map]
    unfold ofChallenge at hn
    simp only [bind, Except.bind, throw, throwThe, MonadExceptOf.throw, hoptions] at hn
    split at hn
    · cases hn
    · split at hn
      · cases hn
      · split at hn
        · cases hn
        · cases hn

/-- Every proof of a security key that is submitted says what an authenticator answered to the
challenge, and whatever an authenticator answers while a proof is wanted is accepted as one that
says so. -/
theorem signed_proof_reads_back (hn : ofChallenge userid ticket c = .ok n) {o : Outside}
    (hadapter : o.adapter = some fun _ => .device) (script : Nat → Http.Outcome)
    {ms : List (Move τ ν)} (hdevices : ∀ i next, .reply i next ∈ ms →
      ∃ o, Key.Behaviour.answered? o = some next) :
    let s : Scene τ ν := { toOutside := o, toNegotiation := n }
    (∀ before u t proof after,
      s.history script ms = before ++ .submitted u t proof :: after →
      proof.toList.takeWhile (· ≠ ':') = Method.webauthn.word.toList →
      ∃ key r, c.webauthn = some key ∧ Answers ms r ∧
        Key.Says proof key.publicKey.challenge r) ∧
    ∀ k i a, ms[k]? = some (.turn (.attempt i)) →
      (s.after script ms k).reply? i = some (.assertion a) →
      (s.after script ms k).stage.isOpen = true →
      ∃ key r p, c.webauthn = some key ∧ Answers (ms.take k) r ∧ a = .ofResponse r ∧
        s.Accepts script ms k p ∧ p.method = .webauthn ∧
        Key.Says p.text key.publicKey.challenge r := by
  intro s
  constructor
  · intro before u t proof after hsplit hword
    obtain ⟨-, -, hgenuine⟩ := genuine_moves hn hadapter script hdevices
    have hgrounded := (sound_moves hn o script ms).grounded
    rw [hsplit, throughout_append, List.nil_append] at hgrounded
    obtain ⟨-, -, p, hp, -, hrests⟩ := hgrounded.2.1
    have hmethod : p.method = .webauthn :=
      Method.word_injective ((p.split_text.1).symm.trans (hp ▸ hword))
    unfold RestsOn at hrests
    rw [hmethod] at hrests
    obtain ⟨key, a, hkey, hreplied, hpayload⟩ := hrests
    have hshown : .replied (.assertion a) ∈ s.history script ms := by
      rw [hsplit]
      exact List.mem_append_left _ hreplied
    obtain ⟨r, hr, rfl⟩ := hgenuine _ hshown a rfl
    obtain ⟨bs, hbytes⟩ := exists_bytes hn hkey
    have hproof : p = (Key.Assertion.ofResponse r).proof key.publicKey.challenge := by
      obtain ⟨method, payload⟩ := p
      cases hmethod
      cases hpayload
      rfl
    exact ⟨key, r, hkey, hr, hp ▸ hproof ▸ Key.says_proof hbytes r⟩
  · intro k i a hk hreply hopen
    have hsound := sound_moves hn o script (ms.take k)
    have hearlier (j : Nat) (next : Key.Behaviour) (hmem : .reply j next ∈ ms.take k) :
        ∃ o, Key.Behaviour.answered? o = some next := hdevices j next (List.mem_of_mem_take hmem)
    obtain ⟨hasks, hends, -⟩ := genuine_moves hn hadapter script hearlier
    obtain ⟨r, hr, rfl⟩ := Scene.endsIn_reply hasks hends hreply a rfl
    obtain ⟨attempt, hattempt, -⟩ := Scene.live_of_reply hreply
    have hoffers : c.offers .webauthn = true := hsound.keyed (List.ne_nil_of_mem
      (List.mem_of_getElem? hattempt))
    obtain ⟨key, hkey⟩ := Option.isSome_iff_exists.mp hoffers
    obtain ⟨bs, hbytes⟩ := exists_bytes hn hkey
    have htext : (s.after script ms k).toNegotiation.keyText = key.publicKey.challenge := by
      have hchallenge : (s.after script ms k).challenge = c := hsound.ofChallenge
      simp only [keyText, hchallenge, hkey]
    have hc := (s.after script ms k).change_move script (.turn (.attempt i))
    rw [← Scene.after_succ script hk] at hc
    simp only [Scene.shows, hreply, Option.toList_some, List.map_cons, List.map_nil] at hc
    have hnone : (s.after script ms k).submission = none := hsound.unsubmitted hopen
    obtain ⟨sub, hsub, hmethod⟩ := hc.accepts_assertion hopen
    have hproof : sub.proof = (Key.Assertion.ofResponse r).proof key.publicKey.challenge := by
      obtain ⟨-, ⟨htakes, hp⟩ | ⟨a, ha, hp⟩⟩ := hc.accepted hnone hsub
      · have hactive := (congrArg (·.method) hp).symm.trans hmethod
        dsimp only at hactive
        rw [hactive] at htakes
        cases htakes
      · cases ha
        rw [hp, htext]
    exact ⟨key, r, sub.proof, hkey, hr, rfl, ⟨hnone, sub, hsub, rfl⟩, hmethod,
      hproof ▸ Key.says_proof hbytes r⟩

end

/-- Security keys that are asked through devices, and a backend that keeps its clients waiting. -/
def deviceOutside : Outside where
  client := { settings := {} }
  backend := fun _ => none
  adapter := some fun _ => .device

/-- What an authenticator answers. -/
def sampleResponse : Key.Response := ⟨[1], [2, 255], [0x7B, 0x7D], []⟩

/-- A user who touches the security key. -/
def signingMoves : List (Move Unit Unit) :=
  [.act .start, .turn (.attempt 0),
    .reply 0 (.fetched (.assertion (.ofResponse sampleResponse))), .turn (.attempt 0),
    .turn .submission]

theorem signed_proof_reads_back_touched :
    let s : Scene Unit Unit := { toOutside := deviceOutside, toNegotiation := sample }
    ofChallenge "root@pam" "PBS:!tfa!" sampleChallenge = .ok sample ∧
      deviceOutside.adapter = some (fun _ => .device) ∧
      (∀ i next, .reply i next ∈ signingMoves → ∃ o, Key.Behaviour.answered? o = some next) ∧
      ∃ key r p, sampleChallenge.webauthn = some key ∧ Answers (signingMoves.take 3) r ∧
        Key.Assertion.ofResponse sampleResponse = .ofResponse r ∧
        s.Accepts sampleScript signingMoves 3 p ∧ p.method = .webauthn ∧
        Key.Says p.text key.publicKey.challenge r := by
  have hdevices (i : Nat) (next : Key.Behaviour) (h : Move.reply i next ∈ signingMoves) :
      ∃ o, Key.Behaviour.answered? o = some next := by
    simp only [signingMoves, List.mem_cons, reduceCtorEq, List.not_mem_nil, or_false,
      false_or] at h
    cases h
    exact ⟨.response sampleResponse, rfl⟩
  exact ⟨ofChallenge_sample, rfl, hdevices,
    (signed_proof_reads_back ofChallenge_sample rfl sampleScript hdevices).2 3 0 _ rfl rfl rfl⟩

end Negotiation

end SecondFactor
