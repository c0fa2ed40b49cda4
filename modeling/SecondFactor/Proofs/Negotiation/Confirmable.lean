import SecondFactor.Proofs.Negotiation.Attempts
import SecondFactor.Proofs.Negotiation.Refusing

/-! # What can be confirmed

A dialog asks a negotiation whether the active method can be confirmed, and the call to confirm then
finds out for itself. They ask different questions. The first one looks at the stage, the input and
the attempt under way at once; the other one meets them one after the other, and tells what it met
by what it leaves behind. At every point of a run both come to the same. -/

namespace SecondFactor.Negotiation

variable {τ ν : Type}

/-! ## Input that was found wrong -/

/-- What was typed, and whose input was found wrong when it was confirmed last. -/
def typed (n : Negotiation τ) : (Method → Option String) × Option Method := (n.inputs, n.inputError)

section

variable (n : Negotiation τ)

@[simp] theorem typed_cancelKey : n.cancelKey.typed = n.typed := by
  unfold cancelKey
  split <;> rfl

@[simp] theorem typed_reject (f : Failure) : (n.reject f).typed = n.typed := by
  unfold reject
  split <;> rfl

@[simp] theorem typed_resolve (t : Ticket) : (n.resolve t).typed = n.typed := by
  unfold resolve
  split <;> rfl

@[simp] theorem typed_notice (f : Failure) : (n.notice f).typed = n.typed := by
  unfold notice
  split
  · rfl
  · exact typed_reject n _

theorem typed_keyFailed (r : Key.Refusal) : (n.keyFailed r).typed = n.typed := by
  unfold keyFailed
  dsimp only
  split
  · rfl
  · exact typed_reject _ _

theorem typed_accept (p : Proof) (whenEnded : Turn τ) : (n.accept p whenEnded).typed = n.typed := by
  unfold accept
  dsimp only
  split
  · rfl
  · exact typed_cancelKey _

theorem typed_settle (result : Except Failure Ticket) : (n.settle result).typed = n.typed := by
  cases result with
  | ok t => exact typed_resolve n t
  | error f =>
    unfold settle
    dsimp only
    split
    · exact typed_reject n f
    · rfl

end

/-- What is typed changes when input is set, and what was found wrong when a text method is
confirmed. -/
theorem Change.typed {n n' : Negotiation τ} {es : List Happening} (hc : Change n es n') :
    n'.typed = n.typed ∨ n'.inputError = none ∨
      n.active.takesText = true ∧ n.active.accepts (n.input n.active) = false ∧
        n'.typed = (n.inputs, some n.active) := by
  cases hc with
  | idle | waits | retries | asks | keyCrashed | assertsLate | stops | wakes | sends | responds =>
    exact .inl rfl
  | starts =>
    left
    split <;> rfl
  | selects m =>
    left
    split
    · exact typed_cancelKey n
    · rfl
  | told => exact .inr (.inl rfl)
  | closes =>
    left
    split
    · rfl
    · split
      · exact typed_cancelKey n.shut
      · exact (typed_reject _ _).trans (typed_cancelKey n.shut)
  | mistypes _ htext hshape => exact .inr (.inr ⟨htext, hshape, rfl⟩)
  | confirms caller =>
    have hcleared := typed_accept { n with inputError := none } ⟨n.active, n.input n.active⟩
      (.caller caller)
    exact .inr (.inl (congrArg Prod.snd hcleared))
  | refused i a r => exact .inl (typed_keyFailed n r)
  | asserts i a assertion =>
    exact .inl (typed_accept n (assertion.proof n.keyText) (.attemptNotified i))
  | notices i f => exact .inl (typed_notice n f)
  | exchanges | balks | receives => exact .inl (typed_settle n _)

/-- Whether the input that was found wrong is that of a text method, and still has not its shape. -/
def FaultStands (n : Negotiation τ) : Prop :=
  ∀ m, n.inputError = some m → m.takesText = true ∧ m.accepts (n.input m) = false

theorem FaultStands.change {n n' : Negotiation τ} {es : List Happening} (h : n.FaultStands)
    (hc : Change n es n') : n'.FaultStands := by
  intro m hm
  obtain hsame | hnone | ⟨htext, hshape, hwrong⟩ := hc.typed
  · obtain ⟨hinputs, herror⟩ := Prod.mk.inj hsame
    rw [herror] at hm
    rw [input, hinputs]
    exact h m hm
  · rw [hnone] at hm
    cases hm
  · obtain ⟨hinputs, herror⟩ := Prod.mk.inj hwrong
    rw [herror] at hm
    cases hm
    rw [input, hinputs]
    exact ⟨htext, hshape⟩

theorem FaultStands.moves (script : Nat → Http.Outcome) {s : Scene τ ν}
    (h : s.toNegotiation.FaultStands) (ms : List (Move τ ν)) :
    (s.moves script ms).toNegotiation.FaultStands := by
  induction ms generalizing s with
  | nil => exact h
  | cons m ms ih => exact ih (h.change (s.change_move script m))

/-- Along every run of a new negotiation the input that was found wrong is wrong still. -/
theorem faultStands_moves {userid ticket : String} {c : Challenge} {n : Negotiation τ}
    (hn : ofChallenge userid ticket c = .ok n) (o : Outside) (script : Nat → Http.Outcome)
    (ms : List (Move τ ν)) :
    let s : Scene τ ν := Scene.moves script { toOutside := o, toNegotiation := n } ms
    s.toNegotiation.FaultStands := by
  have hnew : n.FaultStands := by
    obtain ⟨active, options, -, rfl⟩ := ofChallenge_ok hn
    intro m hm
    cases hm
  exact FaultStands.moves script (s := { toOutside := o, toNegotiation := n }) hnew ms

/-! ## A proof that waits for its turn -/

/-- A submission that has not begun stays as it is, unless it begins. -/
theorem Change.unsent {n n' : Negotiation τ} {es : List Happening} (hc : Change n es n')
    (hwanting : n.stage.isOpen = true → n.submission = none) {sub : Submission τ}
    (hsub : n.submission = some sub) (hfirst : sub.task.start = .first) (hes : proofs es = []) :
    n'.submission = some sub := by
  have hclosed (hopen : n.stage.isOpen = true) : False := by
    rw [hwanting hopen] at hsub
    cases hsub
  cases hc with
  | idle | waits | told | retries | mistypes | asks | keyCrashed | assertsLate | stops | wakes =>
    exact hsub
  | starts => split <;> exact hsub
  | selects m =>
    split
    · exact (Keeps.cancelKey n).submission.trans hsub
    · exact hsub
  | closes => exact (Keeps.closes n).submission.trans hsub
  | confirms _ hopen | asserts _ _ _ _ _ hopen => exact (hclosed hopen).elim
  | refused i a r => exact (Keeps.keyFailed n r).submission.trans hsub
  | notices i f => exact (Keeps.notice n f).submission.trans hsub
  | sends | exchanges | balks => cases hes
  | responds sub' number r o hsub' hw =>
    rw [hsub] at hsub'
    cases hsub'
    cases (Task.phase_of_first hfirst).symm.trans (Task.phase_of_awaits hw)
  | receives sub' r o c hsub' hnews =>
    rw [hsub] at hsub'
    cases hsub'
    rw [hfirst] at hnews
    cases hnews

namespace Scene

variable (script : Nat → Http.Outcome)

/-- Only in its turn does a submission call the ticket service. -/
theorem proofs_shows (s : Scene τ ν) {m : Move τ ν} (hm : m ≠ .turn .submission) :
    proofs (s.shows script m) = [] := by
  cases m with
  | act a =>
    cases a with
    | input value =>
      simp only [shows]
      split <;> rfl
    | start | select _ | close => rfl
  | turn t =>
    cases t with
    | attempt i =>
      simp only [shows]
      cases s.reply? i <;> rfl
    | attemptEnded i =>
      simp only [shows, noticing]
      split <;> rfl
    | submissionEnded =>
      simp only [shows, noticing]
      split <;> rfl
    | submission => exact absurd rfl hm
    | attemptNotified _ | caller _ => rfl
  | respond =>
    simp only [shows]
    cases s.heldNumber? <;> rfl
  | confirm _ | awaitClosed _ | awaitOutcome _ | reply _ _ | aside _ _ _ => rfl

variable {userid ticket : String} {c : Challenge} {h : List Happening} {s : Scene τ ν}
variable {sub : Submission τ}

/-- Until its turn, a submission stays as it is. -/
theorem unsent_moves (hs : Sound userid ticket c h s.toNegotiation) (hsub : s.submission = some sub)
    (hfirst : sub.task.start = .first) {ms : List (Move τ ν)} (hms : .turn .submission ∉ ms) :
    (s.moves script ms).submission = some sub ∧ proofs (s.history script ms) = [] := by
  induction ms generalizing h s with
  | nil => exact ⟨hsub, rfl⟩
  | cons m ms ih =>
    have hm : m ≠ .turn .submission := fun heq => hms (heq ▸ List.mem_cons_self)
    have hquiet : proofs (s.shows script m) = [] := proofs_shows script s hm
    have hc := s.change_move script m
    obtain ⟨hsub', hquiet'⟩ := ih (hs.change hc) (hc.unsent hs.unsubmitted hsub hfirst hquiet)
      fun hmem => hms (List.mem_cons_of_mem m hmem)
    refine ⟨hsub', ?_⟩
    rw [history_cons, proofs_append, hquiet, hquiet']
    rfl

/-- In its turn, and never again, a submission calls the ticket service. -/
theorem submitted_history (hs : Sound userid ticket c h s.toNegotiation)
    (hsub : s.submission = some sub) (hfirst : sub.task.start = .first) {ms : List (Move τ ν)}
    (hms : .turn .submission ∈ ms) :
    ∃ before after, s.history script ms =
        before ++ .submitted userid ticket sub.proof.text :: after ∧
      proofs before = [] ∧ proofs after = [] := by
  obtain ⟨early, late, rfl, hearly⟩ := List.eq_append_cons_of_mem hms
  obtain ⟨hsub', hquiet⟩ := unsent_moves script hs hsub hfirst hearly
  have hs' := hs.moves script early
  let s' := s.moves script early
  have hshows : s'.shows script (.turn .submission) =
      .submitted userid ticket sub.proof.text :: s'.sending sub.proof := by
    simp only [shows, submitting, s', hsub', hfirst, hs'.forUser, hs'.forTicket]
  let after := s'.sending sub.proof ++ (s'.move script (.turn .submission)).history script late
  have hhistory : s.history script (early ++ .turn .submission :: late) =
      s.history script early ++ .submitted userid ticket sub.proof.text :: after := by
    rw [history_append, history_cons, hshows]
    rfl
  refine ⟨_, after, hhistory, hquiet, ?_⟩
  -- that the ticket service is called at most once leaves no other call behind this one
  have hall := (hs.moves script (early ++ .turn .submission :: late)).once
  rw [hhistory] at hall
  have hcons : proofs (.submitted userid ticket sub.proof.text :: after) =
      sub.proof.text :: proofs after := rfl
  simp only [proofs_append, hquiet, hcons, List.nil_append] at hall
  obtain hnone | ⟨_, _, _, hone⟩ := hall
  · simp at hnone
  · have hlength := congrArg List.length hone
    simp only [List.length_append, List.length_cons, List.length_nil] at hlength
    exact List.eq_nil_of_length_eq_zero (by omega)

/-! ## To ask and to confirm -/

/-- Whether a call to confirm is refused, or finds the input of the active method wrong. -/
def Declines (s : Scene τ ν) (caller : τ) : Prop :=
  (∃ e, s.confirm caller = .error e ∧ e.kind = .wrongState) ∨
    ∃ waits s', s.confirm caller = .ok (waits, s') ∧ s'.inputError = some s.active

/-- Whether one more attempt with the security key is all that a call to confirm has begun. -/
structure BeginsAttempt (s : Scene τ ν) (caller : τ) (s' : Scene τ ν) : Prop where
  begun : s'.begun = s.begun + 1
  negotiation : s'.toNegotiation = s.begin [.caller caller]
  due : s'.queue = s.queue ++ [.attempt s.begun]

/-- Whether a call to confirm has submitted a value: it waits for its turn, and however the run goes
on, the ticket service is called with it once in that turn, and with nothing else. -/
structure Submits (script : Nat → Http.Outcome) (s : Scene τ ν) (caller : τ) (s' : Scene τ ν)
    (value : String) : Prop where
  begun : s'.begun = s.begun
  accepted : s'.submission =
    some { proof := ⟨s.active, value⟩, whenEnded := [.submissionEnded, .caller caller] }
  due : .submission ∈ s'.queue
  unsent : ∀ ms : List (Move τ ν), .turn .submission ∉ ms → proofs (s'.history script ms) = []
  sent : ∀ ms : List (Move τ ν), .turn .submission ∈ ms → ∃ before after,
    s'.history script ms =
        before ++ .submitted s.userid s.ticket (s.active.word ++ ":" ++ value) :: after ∧
      proofs before = [] ∧ proofs after = []

theorem mem_queue_accept (s : Scene τ ν) (p : Proof) (whenEnded : Turn τ) :
    .submission ∈ (s.accept p whenEnded).queue :=
  List.mem_append_right _ (List.mem_singleton.mpr rfl)

/-- What can be confirmed is confirmed. -/
theorem confirm_of_canConfirm (hcan : s.canConfirm = true) (caller : τ) :
    s.active = .webauthn ∧ s.confirm caller = .ok (true, s.beginAttempt [.caller caller]) ∨
      s.active.takesText = true ∧ s.active.accepts (s.input s.active) = true ∧
        s.confirm caller = .ok (true, accept { s with inputError := none }
          ⟨s.active, s.input s.active⟩ (.caller caller)) := by
  unfold canConfirm at hcan
  obtain ⟨hopen, hcan⟩ := (Bool.and_eq_true _ _).mp hcan
  unfold confirm confirmText
  cases hm : s.active with
  | webauthn =>
    have hidle : s.pending = false := by simpa [hm] using hcan
    simp [hopen, hidle]
  | totp | recovery =>
    have hshape := hcan
    simp only [hm] at hshape
    simp [hopen, hshape, Method.takesText]

/-- What cannot be confirmed is refused or found wrong. -/
theorem declines_of_not_canConfirm (hcan : s.canConfirm = false) (caller : τ) :
    s.Declines caller := by
  cases hconfirm : s.confirm caller with
  | error e => exact .inl ⟨e, hconfirm, kind_of_confirm hconfirm⟩
  | ok r =>
    obtain ⟨waits, s'⟩ := r
    refine .inr ⟨waits, s', hconfirm, ?_⟩
    unfold canConfirm at hcan
    obtain ⟨hopen, ⟨hkey, hidle, rfl⟩ | ⟨htext, ⟨hshape, rfl⟩ | ⟨hshape, rfl⟩⟩⟩ :=
      confirm_cases hconfirm
    · simp [hopen, hkey, hidle] at hcan
    · cases hm : s.active <;> simp_all [Method.takesText]
    · rfl

/-- Who is told that a method can be confirmed does not find its input wrong. -/
theorem not_declines_of_canConfirm (hfault : s.toNegotiation.FaultStands)
    (hcan : s.canConfirm = true) (caller : τ) : ¬ s.Declines caller := by
  rintro (⟨e, hrefused, -⟩ | ⟨waits, s', hconfirm, hwrong⟩)
  · obtain ⟨-, h⟩ | ⟨-, -, h⟩ := confirm_of_canConfirm hcan caller
    all_goals
      rw [hrefused] at h
      cases h
  · obtain ⟨hkey, h⟩ | ⟨-, -, h⟩ := confirm_of_canConfirm hcan caller
    · rw [hconfirm] at h
      cases h
      have hkept : s.inputError = some .webauthn := hkey ▸ hwrong
      cases (hfault _ hkept).1
    · rw [hconfirm] at h
      cases h
      rw [toNegotiation_accept] at hwrong
      have hnone := congrArg Prod.snd (typed_accept { s.toNegotiation with inputError := none }
        ⟨s.active, s.input s.active⟩ (.caller caller))
      cases hwrong.symm.trans hnone

/-- Input of the active method that can be confirmed is submitted. -/
theorem submits_of_canConfirm (hs : Sound userid ticket c h s.toNegotiation)
    (hcan : s.canConfirm = true) (htext : s.active.takesText = true) (caller : τ) :
    ∃ s' value, s.confirm caller = .ok (true, s') ∧ s.inputs s.active = some value ∧
      s.Submits script caller s' value := by
  obtain ⟨hkey, -⟩ | ⟨-, hshape, hconfirm⟩ := confirm_of_canConfirm hcan caller
  · rw [hkey] at htext
    cases htext
  obtain ⟨value, hvalue⟩ : ∃ value, s.inputs s.active = some value := by
    cases hi : s.inputs s.active with
    | some value => exact ⟨value, rfl⟩
    | none =>
      have hempty : s.input s.active = "" := by simp [input, hi]
      rw [hempty, Method.accepts_empty] at hshape
      cases hshape
  have hinput : s.input s.active = value := by simp [input, hvalue]
  rw [hinput] at hconfirm
  refine ⟨_, value, hconfirm, hvalue, ?_⟩
  let s' := accept { s with inputError := none } ⟨s.active, value⟩ (.caller caller)
  have hsub : s'.submission =
      some { proof := ⟨s.active, value⟩, whenEnded := [.submissionEnded, .caller caller] } := by
    simp only [s', toNegotiation_accept]
    rfl
  have hmove : s.move script (.confirm caller) = s' := by
    simp only [move, hconfirm, s']
  have hs' : Sound userid ticket c (h ++ s.shows script (.confirm caller)) s'.toNegotiation :=
    hmove ▸ hs.change (s.change_move script (.confirm caller))
  constructor
  case begun =>
    simp only [toNegotiation_accept, begun_accept]
    rfl
  case accepted => exact hsub
  case due => exact mem_queue_accept _ _ _
  case unsent =>
    intro ms hms
    exact (unsent_moves script hs' hsub rfl hms).2
  case sent =>
    intro ms hms
    have hsent := submitted_history script hs' hsub rfl hms
    rw [← hs.forUser, ← hs.forTicket] at hsent
    exact hsent

/-- An attempt with the security key that can be confirmed is begun. -/
theorem beginsAttempt_of_canConfirm (hcan : s.canConfirm = true) (hkey : s.active = .webauthn)
    (caller : τ) : ∃ s', s.confirm caller = .ok (true, s') ∧ s.BeginsAttempt caller s' := by
  obtain ⟨-, hconfirm⟩ | ⟨htext, -⟩ := confirm_of_canConfirm hcan caller
  · exact ⟨_, hconfirm, begun_begin s.toNegotiation [.caller caller], rfl, rfl⟩
  · rw [hkey] at htext
    cases htext

/-! ## What is typed for other methods -/

/-- The scene in which something else was typed. -/
def withInputs (s : Scene τ ν) (inputs : Method → Option String) : Scene τ ν := { s with inputs }

section

variable (inputs : Method → Option String)

theorem accept_withInputs (s : Scene τ ν) (p : Proof) (whenEnded : Turn τ) :
    (s.withInputs inputs).accept p whenEnded = (s.accept p whenEnded).withInputs inputs := by
  unfold withInputs accept cancelAttempt
  dsimp only [shut, enqueue]
  split
  · rfl
  · split
    · rfl
    · unfold updateAttempt
      dsimp only
      split
      · rfl
      · split <;> rfl

theorem confirmText_withInputs {m : Method} (hinput : (s.withInputs inputs).input m = s.input m)
    (caller : τ) :
    (s.withInputs inputs).confirmText m caller =
      ((s.confirmText m caller).1, (s.confirmText m caller).2.withInputs inputs) := by
  unfold confirmText
  rw [hinput]
  split
  · exact Prod.ext rfl (accept_withInputs inputs { s with inputError := none } _ _)
  · rfl

/-- What is typed for other methods than the active one does not matter. -/
theorem confirm_withInputs (hactive : inputs s.active = s.inputs s.active) (caller : τ) :
    (s.withInputs inputs).canConfirm = s.canConfirm ∧
      (s.withInputs inputs).confirm caller =
        (s.confirm caller).map fun r => (r.1, r.2.withInputs inputs) := by
  have hinput : (s.withInputs inputs).input s.active = s.input s.active :=
    congrArg (·.getD "") hactive
  have hstage : (s.withInputs inputs).stage = s.stage := rfl
  have hsame : (s.withInputs inputs).active = s.active := rfl
  have hpending : (s.withInputs inputs).pending = s.pending := rfl
  unfold canConfirm confirm
  rw [hstage, hsame, hpending]
  cases hm : s.active with
  | webauthn =>
    refine ⟨rfl, ?_⟩
    dsimp only
    split
    · rfl
    · split <;> rfl
  | totp | recovery =>
    rw [hm] at hinput
    dsimp only
    rw [confirmText_withInputs inputs hinput, hinput]
    refine ⟨rfl, ?_⟩
    split <;> rfl

end

end Scene

/-! ## Main result -/

/-- At every point of a run a method can be confirmed if and only if a call to confirm is neither
refused nor finds its input wrong. For a text method that call submits the very value that is stored
for it, and for a security key it begins one attempt. What is stored for other methods changes
nothing of this. -/
theorem canConfirm_iff_confirms {userid ticket : String} {c : Challenge} {n : Negotiation τ}
    (hn : ofChallenge userid ticket c = .ok n) (o : Outside) (script : Nat → Http.Outcome)
    (ms : List (Move τ ν)) (caller : τ) :
    let s : Scene τ ν := Scene.moves script { toOutside := o, toNegotiation := n } ms
    (s.canConfirm = true ↔ ¬ s.Declines caller) ∧
      (s.canConfirm = true →
        (s.active.takesText = true → ∃ s' value, s.confirm caller = .ok (true, s') ∧
          s.inputs s.active = some value ∧ s.Submits script caller s' value) ∧
        (s.active = .webauthn → ∃ s', s.confirm caller = .ok (true, s') ∧
          s.BeginsAttempt caller s')) ∧
      ∀ inputs : Method → Option String, inputs s.active = s.inputs s.active →
        (s.withInputs inputs).canConfirm = s.canConfirm ∧
          (s.withInputs inputs).confirm caller =
            (s.confirm caller).map fun r => (r.1, r.2.withInputs inputs) := by
  intro s
  have hs := sound_moves (ν := ν) hn o script ms
  have hfault : s.toNegotiation.FaultStands := faultStands_moves hn o script ms
  refine ⟨⟨?_, ?_⟩, ?_, ?_⟩
  · intro hcan
    exact Scene.not_declines_of_canConfirm hfault hcan caller
  · intro hgoes
    by_contra hcan
    exact hgoes (Scene.declines_of_not_canConfirm (by simpa using hcan) caller)
  · intro hcan
    exact ⟨fun htext => Scene.submits_of_canConfirm script hs hcan htext caller,
      fun hkey => Scene.beginsAttempt_of_canConfirm hcan hkey caller⟩
  · intro inputs hactive
    exact Scene.confirm_withInputs inputs hactive caller

/-- A user who turns from the security key to a time code and types one. -/
def typingMoves : List (Move Unit Unit) :=
  [.act .start, .turn (.attempt 0), .act (.select .totp), .act (.input "123456")]

/-- The attempt that was cancelled has not ended yet when the time code is confirmed. -/
theorem canConfirm_iff_confirms_totp :
    let s : Scene Unit Unit :=
      Scene.moves sampleScript { toOutside := sampleOutside, toNegotiation := sample } typingMoves
    ofChallenge "root@pam" "PBS:!tfa!" sampleChallenge = .ok sample ∧ s.pending = true ∧
      ¬ s.Declines () ∧ ∃ s' value, s.confirm () = .ok (true, s') ∧
        s.inputs .totp = some value ∧ s.Submits sampleScript () s' value := by
  intro s
  obtain ⟨hiff, hdone, -⟩ :=
    canConfirm_iff_confirms ofChallenge_sample sampleOutside sampleScript typingMoves ()
  have hcan : s.canConfirm = true := by decide
  exact ⟨ofChallenge_sample, by decide, hiff.mp hcan, (hdone hcan).1 rfl⟩

end SecondFactor.Negotiation
