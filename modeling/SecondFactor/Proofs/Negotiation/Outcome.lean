import Mathlib.Data.List.Induction
import SecondFactor.Proofs.Negotiation.Submission

/-! # The outcome of a negotiation

Once a proof was accepted, its submission is there to settle the outcome. A request to a security key
that is still under way can only interfere by a failure that nobody expects. -/

namespace SecondFactor.Negotiation

variable {τ ν : Type}

/-! ## Decisive happenings -/

/-- The outcome that the end of a submission brings about, unless it ends by a failure that nobody
expects. -/
def verdict? : Except Failure Ticket → Option (Except Failure Ticket)
  | .ok t => some (.ok t)
  | .error f => if f.loginError?.isSome then some (.error f) else none

/-- The outcome that a happening brings about once a proof was accepted. -/
def Happening.decides? : Happening → Option (Except Failure Ticket)
  | .answered result => verdict? result
  | .crashed _ f => some (.error (crash f))
  | _ => none

/-- The outcome that is decided by the first decisive happening. -/
def decision (h : List Happening) : Option (Except Failure Ticket) :=
  h.findSome? Happening.decides?

theorem decision_append (h es : List Happening) :
    decision (h ++ es) = (decision h).or (decision es) :=
  List.findSome?_append

theorem decision_answered (result : Except Failure Ticket) :
    decision [.answered result] = verdict? result := by
  simp only [decision, List.findSome?_cons, List.findSome?_nil, Happening.decides?]
  cases verdict? result <;> rfl

theorem reject_outcome (n : Negotiation τ) (f : Failure) :
    (n.reject f).outcome = n.outcome.or (some (.error f)) := by
  unfold reject done
  cases h : n.outcome with
  | none => simp
  | some o => exact h

theorem resolve_outcome (n : Negotiation τ) (t : Ticket) :
    (n.resolve t).outcome = n.outcome.or (some (.ok t)) := by
  unfold resolve done
  cases h : n.outcome <;> simp [h]

theorem notice_outcome (n : Negotiation τ) (f : Failure) :
    (n.notice f).outcome = n.outcome.or (some (.error (crash f))) := by
  unfold notice
  cases h : n.outcome with
  | none => simp [done, h, reject_outcome]
  | some o => simp [done, h]

theorem settle_outcome (n : Negotiation τ) (result : Except Failure Ticket) :
    (n.settle result).outcome = n.outcome.or (verdict? result) := by
  cases result with
  | ok t => exact resolve_outcome n t
  | error f =>
    by_cases hf : f.loginError?.isSome
    · simp only [settle, verdict?, hf, if_true]
      exact reject_outcome n f
    · simp only [settle, verdict?, hf]
      exact Option.or_none.symm

/-- A refusal of a security key settles nothing while there is another method. -/
theorem keyFailed_outcome {n : Negotiation τ} (r : Key.Refusal)
    (htext : ∃ m ∈ n.available, m ≠ .webauthn) : (n.keyFailed r).outcome = n.outcome := by
  unfold keyFailed
  have hany : n.available.any (· ≠ .webauthn) = true := by simpa using htext
  simp only [hany, Bool.or_true, if_true]

theorem keyFailed_undecided {n : Negotiation τ} {r : Key.Refusal}
    (h : (n.keyFailed r).outcome = none) : n.outcome = none := by
  unfold keyFailed at h
  dsimp only at h
  split at h
  · exact h
  · rw [reject_outcome] at h
    simp at h

theorem closes_undecided {n : Negotiation τ}
    (h : (if n.submission.isSome then n.shut
      else if n.done then n.shut.cancelKey
      else n.shut.cancelKey.reject (.plain (.ofKind .cancelled))).outcome = none) :
    n.outcome = none := by
  split at h
  · exact h
  · split at h
    · rwa [cancelKey_outcome] at h
    · rw [reject_outcome] at h
      simp at h

/-! ## What holds along a run -/

/-- What holds along every run that starts once: the first decisive happening decides, and no more
than one attempt is under way. Where a security key is the only method, none is once a proof was
accepted. -/
structure Decided (h : List Happening) (n : Negotiation τ) : Prop where
  outcome : n.submission.isSome = true → n.outcome = decision h
  undecided : n.outcome = none → decision h = none
  single : ∀ (i : Nat) a, n.attempts[i]? = some a → a.task.isOver = false → n.current = some i
  answered : n.submission.isSome = true → (∀ m ∈ n.available, m = .webauthn) →
    ∀ (i : Nat) a, n.attempts[i]? = some a → a.isUnanswered = false

namespace Decided

variable {h es : List Happening} {n n' : Negotiation τ}

theorem keeps (hd : Decided h n) (hk : Keeps n n')
    (hout : n.submission.isSome = true → n'.outcome = n.outcome.or (decision es))
    (hnone : n'.outcome = none → n.outcome = none ∧ decision es = none) :
    Decided (h ++ es) n' where
  outcome := by
    intro hsub
    rw [hk.submission] at hsub
    rw [hout hsub, hd.outcome hsub, decision_append]
  undecided := by
    intro ho
    obtain ⟨ho', hes⟩ := hnone ho
    rw [decision_append, hd.undecided ho', hes]
    rfl
  single := by
    intro i a' ha' hlive
    obtain ⟨a, ha, hcalms⟩ := hk.attempts i a' ha'
    rw [hk.current]
    exact hd.single i a ha (hcalms.ended hlive)
  answered := by
    intro hsub honly i a' ha'
    rw [hk.submission] at hsub
    rw [hk.available] at honly
    obtain ⟨a, ha, hcalms⟩ := hk.attempts i a' ha'
    have hanswered := hd.answered hsub honly i a ha
    by_contra hu
    rw [hcalms.answered (by simpa using hu)] at hanswered
    cases hanswered

/-- Nothing decisive happens. -/
theorem keeps_outcome (hd : Decided h n) (hk : Keeps n n') (hout : n'.outcome = n.outcome)
    (hes : decision es = none) : Decided (h ++ es) n' := by
  refine hd.keeps hk (fun _ => ?_) (fun ho => ⟨hout ▸ ho, hes⟩)
  rw [hout, hes, Option.or_none]

/-- Whatever happens is decisive if nothing was before. -/
theorem keeps_decision (hd : Decided h n) (hk : Keeps n n')
    (hout : n'.outcome = n.outcome.or (decision es)) : Decided (h ++ es) n' := by
  refine hd.keeps hk (fun _ => hout) fun ho => ?_
  rwa [hout, Option.or_eq_none_iff] at ho

theorem setSubmission (hd : Decided h n)
    (f : Task Submission.Wait Unit → Task Submission.Wait Unit) :
    Decided h (n.setSubmission f) where
  outcome := fun hsub => hd.outcome (by simpa [Negotiation.setSubmission] using hsub)
  undecided := hd.undecided
  single := hd.single
  answered := fun hsub => hd.answered (by simpa [Negotiation.setSubmission] using hsub)

theorem settle (hd : Decided h n) {result : Except Failure Ticket}
    (hes : decision es = verdict? result) : Decided (h ++ es) (n.settle result) := by
  obtain ⟨n', how, hk, heq⟩ := Keeps.settle n result
  have hout : n'.outcome = n.outcome.or (decision es) := by
    rw [hes, ← settle_outcome, heq]
    rfl
  rw [heq]
  exact (hd.keeps_decision hk hout).setSubmission _

/-- An attempt begins when no other is under way and no proof was accepted. -/
theorem begins (hd : Decided h n) (hsub : n.submission = none)
    (hover : ∀ (i : Nat) a, n.attempts[i]? = some a → a.task.isOver = true)
    (whenEnded : List (Turn τ)) : Decided h (n.begin whenEnded) where
  outcome := by
    intro hsome
    have hsome : n.submission.isSome = true := hsome
    rw [hsub] at hsome
    cases hsome
  undecided := hd.undecided
  single := by
    intro i a ha hlive
    by_cases hi : i < n.attempts.length
    · have ha' : n.attempts[i]? = some a := by
        rw [← ha]
        exact (List.getElem?_append_left hi).symm
      rw [hover i a ha'] at hlive
      cases hlive
    · have hlen := (List.getElem?_eq_some_iff.mp ha).choose
      simp only [begin, List.length_append, List.length_cons, List.length_nil] at hlen
      have heq : i = n.attempts.length := by omega
      rw [heq]
      rfl
  answered := by
    intro hsome
    have hsome : n.submission.isSome = true := hsome
    rw [hsub] at hsome
    cases hsome

theorem accepts (hd : Decided h n) (hopen : n.outcome = none)
    (hanswered : (∀ m ∈ n.available, m = .webauthn) →
      ∀ (i : Nat) a, n.attempts[i]? = some a → a.isUnanswered = false)
    (hes : decision es = none) (p : Proof) (whenEnded : Turn τ) :
    Decided (h ++ es) (n.accept p whenEnded) := by
  obtain ⟨n', hk, hstage, hout, heq⟩ := Keeps.accept n p whenEnded
  have hd' : Decided (h ++ es) n' := hd.keeps_outcome hk hout hes
  rw [heq]
  exact { hd' with
    outcome := by
      intro _
      have hnone : n'.outcome = none := hout.trans hopen
      exact hnone.trans (hd'.undecided hnone).symm
    answered := by
      intro _ honly i a' ha'
      obtain ⟨a, ha, hcalms⟩ := hk.attempts i a' ha'
      have hanswered := hanswered (by rwa [← hk.available]) i a ha
      by_contra hu
      rw [hcalms.answered (by simpa using hu)] at hanswered
      cases hanswered }

/-- A security key that has no reply yet, while a proof is being submitted, is not the only method. -/
theorem exists_text (hd : Decided h n) {i : Nat} {a : Attempt τ} (ha : n.attempts[i]? = some a)
    (hu : a.isUnanswered = true) (hsub : n.submission.isSome = true) :
    ∃ m ∈ n.available, m ≠ .webauthn := by
  by_contra hnone
  have honly : ∀ m ∈ n.available, m = .webauthn := by simpa using hnone
  rw [hd.answered hsub honly i a ha] at hu
  cases hu

/-- The first start is like any other change. -/
theorem starts (hd : Decided h n) (hsub : n.submission = none) (hnew : n.attempts = [])
    (hc : Change n [.started] n') : Decided (h ++ [.started]) n' := by
  have hd' : Decided (h ++ [.started]) n := hd.keeps_outcome (.refl n) rfl rfl
  cases hc with
  | starts =>
    split
    · exact hd'.begins hsub (by simp [hnew]) []
    · exact hd'

/-- Every change but another start keeps the first decisive happening decisive. -/
theorem change {userid ticket : String} {c : Challenge} (hs : Sound userid ticket c h n)
    (hd : Decided h n) (hc : Change n es n') (hstart : es ≠ [.started]) :
    Decided (h ++ es) n' := by
  cases hc with
  | idle => exact hd.keeps_outcome (.refl n) rfl rfl
  | waits whenClosed whenDone =>
    exact hd.keeps_outcome (.aside n whenClosed whenDone _ _ _) rfl rfl
  | starts => exact absurd rfl hstart
  | selects m hopen hm hne =>
    have hd' : Decided (h ++ []) (if n.active = .webauthn then n.cancelKey else n) := by
      split
      · exact hd.keeps_outcome (.cancelKey n) (cancelKey_outcome n) rfl
      · exact hd.keeps_outcome (.refl n) rfl rfl
    exact { hd' with }
  | told value hopen htext =>
    have hd' : Decided (h ++ [.told n.active value]) n := hd.keeps_outcome (.refl n) rfl rfl
    exact { hd' with }
  | closes =>
    refine hd.keeps (.closes n) (fun hsub => ?_) (fun ho => ⟨closes_undecided ho, rfl⟩)
    rw [if_pos hsub]
    exact Option.or_none.symm
  | retries caller hopen hactive hidle =>
    rw [List.append_nil]
    refine hd.begins (hs.unsubmitted hopen) ?_ _
    intro i a ha
    by_contra hlive
    have hcurrent := hd.single i a ha (by simpa using hlive)
    simp [pending, currentAttempt?, hcurrent, ha] at hidle
    exact hlive hidle
  | mistypes hopen htext hshape => exact hd.keeps_outcome (.aside n _ _ _ _ _) rfl rfl
  | confirms caller hopen htext hshape =>
    have hd' : Decided (h ++ []) { n with inputError := none } :=
      hd.keeps_outcome (.aside n _ _ none _ _) rfl rfl
    rw [List.append_nil] at hd'
    refine hd'.accepts (hs.undecided hopen) (fun honly => ?_) rfl _ _
    have hkey := honly n.active (hs.available ▸ mem_available.mpr hs.active)
    rw [hkey] at htext
    cases htext
  | asks i a request onCancel onLateCancel ha hu =>
    exact hd.keeps_outcome (.awaits n _ ha hu) rfl rfl
  | refused i a r ha hu =>
    refine hd.keeps ((Keeps.keyFailed n r).trans (.ends _ i _)) (fun hsub => ?_)
      (fun ho => ⟨keyFailed_undecided ho, rfl⟩)
    exact (keyFailed_outcome r (hd.exists_text ha hu hsub)).trans Option.or_none.symm
  | keyCrashed i a f ha hu => exact hd.keeps_outcome (.ends n i _) rfl rfl
  | asserts i a assertion ha hu hopen =>
    rw [setTask_accept n rfl]
    have hd' : Decided (h ++ []) (n.setTask i fun _ => .waitingFor .submission) :=
      hd.keeps_outcome (.awaits n .submission ha hu) rfl rfl
    rw [List.append_nil] at hd'
    refine hd'.accepts (hs.undecided hopen) (fun _ j b hb => ?_) rfl _ _
    -- the attempt that gave the assertion is the only one that is not over
    rw [setTask, List.getElem?_modify] at hb
    obtain ⟨b', hb', rfl⟩ := Option.map_eq_some_iff.mp hb
    by_cases hij : i = j
    · rw [if_pos hij]
      rfl
    · rw [if_neg hij]
      by_contra hub
      have hi := hd.single i a ha (Attempt.isOver_of_isUnanswered hu)
      have hj := hd.single j b' hb' (Attempt.isOver_of_isUnanswered (by simpa using hub))
      rw [hi] at hj
      exact hij (Option.some.inj hj)
  | assertsLate i a assertion ha hu hopen => exact hd.keeps_outcome (.ends n i _) rfl rfl
  | stops i a how ha hhow => exact hd.keeps_outcome (.ends n i _) rfl rfl
  | wakes i news hnews => exact hd.keeps_outcome (.wakes n hnews) rfl rfl
  | notices i f hf => exact hd.keeps_decision (.notice n f) (notice_outcome n f)
  | sends sub number r hsub hfirst => exact (hd.keeps_outcome (.refl n) rfl rfl).setSubmission _
  | exchanges sub number r o client hsub hfirst =>
    exact hd.settle (decision_answered _)
  | balks sub f hsub hfirst =>
    exact hd.settle (decision_answered _)
  | responds sub number r o hsub hw => exact (hd.keeps_outcome (.refl n) rfl rfl).setSubmission _
  | receives sub r o client hsub hnews =>
    exact hd.settle (decision_answered _)

end Decided

/-! ## Runs that start once -/

section

variable {userid ticket : String} {c : Challenge} {n : Negotiation τ} (script : Nat → Http.Outcome)

/-- Whether a happening is neither a start nor a failure of an attempt. -/
def Happening.isOrdinary : Happening → Bool
  | .started | .crashed (some _) _ => false
  | _ => true

theorem Scene.submitting_isOrdinary (s : Scene τ ν) :
    s.submitting.all Happening.isOrdinary = true := by
  have hsending (p : Proof) : (s.sending p).all Happening.isOrdinary = true := by
    unfold sending
    split
    · rfl
    · dsimp only
      cases s.backend s.sent.length <;> rfl
  unfold submitting
  split
  · rfl
  · split
    · simp only [List.all_cons, Happening.isOrdinary, Bool.true_and]
      exact hsending _
    · rfl
    · rfl

/-- Where the happenings that are not ordinary come from. -/
theorem Scene.mem_shows {s : Scene τ ν} {m : Move τ ν} {e : Happening}
    (h : e ∈ s.shows script m) :
    m = .act .start ∧ e = .started ∨
      (∃ i f, m = .turn (.attemptEnded i) ∧
        s.attempts[i]?.bind (·.task.ending?) = some (.failed f) ∧ e = .crashed (some i) f) ∨
      e.isOrdinary = true := by
  cases m with
  | act a =>
    cases a with
    | start => exact .inl ⟨rfl, by simpa [shows] using h⟩
    | input value =>
      simp only [shows] at h
      split at h
      · right
        right
        rw [List.mem_singleton.mp h]
        rfl
      · cases h
    | select _ | close => cases h
  | turn t =>
    cases t with
    | attempt i =>
      obtain ⟨r, _, rfl⟩ := List.mem_map.mp h
      exact .inr (.inr rfl)
    | attemptEnded i =>
      simp only [shows, noticing] at h
      split at h
      · rename_i f hf
        exact .inr (.inl ⟨i, f, rfl, hf, List.mem_singleton.mp h⟩)
      · cases h
    | submissionEnded =>
      simp only [shows, noticing] at h
      split at h
      · right
        right
        rw [List.mem_singleton.mp h]
        rfl
      · cases h
    | submission =>
      exact .inr (.inr (List.all_eq_true.mp (submitting_isOrdinary s) e h))
    | attemptNotified _ | caller _ => cases h
  | respond =>
    obtain ⟨number, _, rfl⟩ := List.mem_map.mp h
    exact .inr (.inr rfl)
  | confirm _ | awaitClosed _ | awaitOutcome _ | reply _ _ | aside _ _ _ => cases h

/-- Only the call that starts a negotiation shows as its start. -/
theorem Scene.shows_ne_started {s : Scene τ ν} {m : Move τ ν} (hm : m ≠ .act .start) :
    s.shows script m ≠ [.started] := by
  intro h
  have hmem : .started ∈ s.shows script m := h ▸ List.mem_cons_self
  obtain ⟨rfl, _⟩ | ⟨i, f, _, _, he⟩ | hordinary := Scene.mem_shows script hmem
  · exact hm rfl
  · cases he
  · cases hordinary

/-- The failure of an attempt does nothing to the submission. -/
theorem Change.submission_of_crashed {n n' : Negotiation τ} {i : Nat} {f : Failure}
    (hc : Change n [.crashed (some i) f] n') : n'.submission = n.submission := by
  cases hc with
  | notices _ _ => exact (Keeps.notice n f).submission

/-- A proof is accepted while one is wanted. It is the input of the active text method, or what a
security key asserts. -/
theorem Change.accepted {n n' : Negotiation τ} {es : List Happening} (hc : Change n es n')
    (hn : n.submission = none) {sub : Submission τ} (hn' : n'.submission = some sub) :
    n.stage.isOpen = true ∧
      (n.active.takesText = true ∧ sub.proof = ⟨n.active, n.input n.active⟩ ∨
        ∃ assertion, es = [.replied (.assertion assertion)] ∧
          sub.proof = assertion.proof n.keyText) := by
  have hsome {sub : Submission τ} {P : Prop} (hsub : n.submission = some sub) : P := by
    rw [hn] at hsub
    cases hsub
  cases hc.effect with
  | keeps hk | selects hk => exact hsome (hk.submission.symm.trans hn')
  | begins | tells => exact hsome hn'
  | accepts _ hopen p _ hp =>
    cases hn'
    exact ⟨hopen, hp⟩
  | submits _ _ hsub => exact hsome hsub

theorem Change.isOpen_of_accepted {n n' : Negotiation τ} {es : List Happening}
    (hc : Change n es n') (hn : n.submission = none) (hn' : n'.submission.isSome = true) :
    n.stage.isOpen = true := by
  obtain ⟨sub, hsub⟩ := Option.isSome_iff_exists.mp hn'
  exact (hc.accepted hn hsub).1

/-- The outcome that the submission itself brings about with a happening. -/
def Happening.settles? : Happening → Option (Except Failure Ticket)
  | .crashed (some _) _ => none
  | e => e.decides?

/-- The outcome of the submission, once it is known. -/
def submissionOutcome (h : List Happening) : Option (Except Failure Ticket) :=
  h.findSome? Happening.settles?

theorem submissionOutcome_append (h es : List Happening) :
    submissionOutcome (h ++ es) = (submissionOutcome h).or (submissionOutcome es) :=
  List.findSome?_append

/-- Before anything decisive the outcome of the submission is not known. -/
theorem submissionOutcome_eq_none {h : List Happening} (hnone : decision h = none) :
    submissionOutcome h = none := by
  refine List.findSome?_eq_none_iff.mpr ?_
  intro e he
  have hdecides := List.findSome?_eq_none_iff.mp hnone e he
  unfold Happening.settles?
  split
  · rfl
  · exact hdecides

/-- Among ordinary happenings only the end of the submission is decisive. -/
theorem submissionOutcome_eq_decision {es : List Happening}
    (h : ∀ e ∈ es, ∀ i f, e ≠ .crashed (some i) f) : submissionOutcome es = decision es := by
  induction es with
  | nil => rfl
  | cons e es ih =>
    have he : e.settles? = e.decides? := by
      unfold Happening.settles?
      split
      · exact absurd rfl (h _ List.mem_cons_self _ _)
      · rfl
    unfold submissionOutcome decision at ih ⊢
    rw [List.findSome?_cons, List.findSome?_cons, he,
      ih fun e' he' => h e' (List.mem_cons_of_mem e he')]

/-- What shows of a move is as decisive for the negotiation as for the submission, unless an attempt
is seen to have failed. -/
theorem Scene.shows_settles (s : Scene τ ν) (m : Move τ ν) :
    submissionOutcome (s.shows script m) = decision (s.shows script m) ∨
      ∃ i f, m = .turn (.attemptEnded i) ∧
        s.attempts[i]?.bind (·.task.ending?) = some (.failed f) ∧
        s.shows script m = [.crashed (some i) f] := by
  by_cases hcrash : ∃ i f, .crashed (some i) f ∈ s.shows script m
  · obtain ⟨i, f, hmem⟩ := hcrash
    obtain ⟨_, he⟩ | ⟨j, g, rfl, hfailed, he⟩ | hordinary := Scene.mem_shows script hmem
    · cases he
    · exact .inr ⟨j, g, rfl, hfailed, by simp only [shows, hfailed, noticing]⟩
    · cases hordinary
  · refine .inl (submissionOutcome_eq_decision ?_)
    rintro e he i f rfl
    exact hcrash ⟨i, f, he⟩

/-- What comes of a challenge is undecided. -/
theorem decided_ofChallenge (hn : ofChallenge userid ticket c = .ok n) : Decided [] n := by
  obtain ⟨active, options, _, rfl⟩ := ofChallenge_ok hn
  exact {
    outcome := nofun
    undecided := fun _ => rfl
    single := nofun
    answered := nofun }

/-- A negotiation that starts once is sound and decided at every point of its run. -/
theorem decided_moves (hn : ofChallenge userid ticket c = .ok n) (o : Outside)
    {rest : List (Move τ ν)} (hstart : .act .start ∉ rest) :
    let s : Scene τ ν := { toOutside := o, toNegotiation := n }
    ∀ ms, ms <+: .act .start :: rest →
      Sound userid ticket c (s.history script ms) (s.moves script ms).toNegotiation ∧
        Decided (s.history script ms) (s.moves script ms).toNegotiation := by
  intro s ms hms
  have hd : Decided [] s.toNegotiation := decided_ofChallenge hn
  have hs : Sound userid ticket c [] s.toNegotiation := sound_ofChallenge hn
  obtain rfl | ⟨ms', rfl, hms'⟩ := List.prefix_cons_iff.mp hms
  · exact ⟨hs, hd⟩
  · have hfirst := s.change_move script (.act .start)
    have hnew : s.submission = none ∧ s.attempts = [] := by
      obtain ⟨active, options, _, rfl⟩ := ofChallenge_ok hn
      exact ⟨rfl, rfl⟩
    have hrest : ∀ m ∈ ms', m ≠ .act .start := by
      rintro m hm rfl
      exact hstart (hms'.subset hm)
    have hstep : ∀ h (s' : Scene τ ν), ∀ m ∈ ms',
        Sound userid ticket c h s'.toNegotiation ∧ Decided h s'.toNegotiation →
          Sound userid ticket c (h ++ s'.shows script m) (s'.move script m).toNegotiation ∧
            Decided (h ++ s'.shows script m) (s'.move script m).toNegotiation := by
      rintro h s' m hm ⟨hs', hd'⟩
      have hc := s'.change_move script m
      exact ⟨hs'.change hc, hd'.change hs' hc (Scene.shows_ne_started script (hrest m hm))⟩
    exact Scene.moves_induction script hstep
      ⟨hs.change hfirst, hd.starts hnew.1 hnew.2 hfirst⟩

/-- The outcome of a negotiation that starts once, in which a proof was accepted, is the outcome of
the submission of that proof at every point of a run, exactly if no attempt is seen to have failed
unexpectedly while the submission goes on. -/
theorem outcome_is_submissions_iff (hn : ofChallenge userid ticket c = .ok n) (o : Outside)
    {rest : List (Move τ ν)} (hstart : .act .start ∉ rest) :
    let s : Scene τ ν := { toOutside := o, toNegotiation := n }
    (∀ ms, ms <+: .act .start :: rest → (s.moves script ms).submission.isSome = true →
        (s.moves script ms).outcome = submissionOutcome (s.history script ms)) ↔
      ∀ ms i f, ms ++ [.turn (.attemptEnded i)] <+: .act .start :: rest →
        (s.moves script ms).submission.isSome = true →
        submissionOutcome (s.history script ms) = none →
        (s.moves script ms).attempts[i]?.bind (·.task.ending?) ≠ some (.failed f) := by
  intro s
  have hdecided := decided_moves script hn o hstart
  constructor
  · intro hclaim ms i f hms haccepted hnone hfailed
    have hprefix : ms <+: .act .start :: rest := (List.prefix_append ms _).trans hms
    have hshows : (s.moves script ms).shows script (.turn (.attemptEnded i)) =
        [.crashed (some i) f] := by
      simp only [Scene.shows, hfailed, Scene.noticing]
    have hhistory : s.history script (ms ++ [.turn (.attemptEnded i)]) =
        s.history script ms ++ [.crashed (some i) f] := by
      rw [Scene.history_append, Scene.history_cons, Scene.history_nil, hshows, List.append_nil]
    have haccepted' : (s.moves script (ms ++ [.turn (.attemptEnded i)])).submission.isSome = true := by
      have hc := (s.moves script ms).change_move script (.turn (.attemptEnded i))
      rw [hshows] at hc
      rw [Scene.moves_append, Scene.moves_cons, Scene.moves_nil, hc.submission_of_crashed]
      exact haccepted
    have hout := (hdecided _ hms).2.outcome haccepted'
    rw [hclaim _ hms haccepted', hhistory, submissionOutcome_append, hnone, decision_append] at hout
    have hcrash : decision [.crashed (some i) f] = some (.error (crash f)) := rfl
    rw [hcrash] at hout
    cases hd : decision (s.history script ms) <;> rw [hd] at hout <;> cases hout
  · intro hquiet ms hms haccepted
    rw [(hdecided ms hms).2.outcome haccepted]
    -- from the end of the run, since what is asked of a run is asked of its beginnings too
    induction ms using List.reverseRecOn with
    | nil => rfl
    | append_singleton ms m ih =>
      have hprefix : ms <+: .act .start :: rest := (List.prefix_append ms _).trans hms
      obtain ⟨hs, hd⟩ := hdecided ms hprefix
      have hc := (s.moves script ms).change_move script m
      rw [Scene.moves_append, Scene.moves_cons, Scene.moves_nil] at haccepted
      rw [Scene.history_append, Scene.history_cons, Scene.history_nil, List.append_nil,
        decision_append, submissionOutcome_append]
      by_cases hsub : (s.moves script ms).submission.isSome = true
      · rw [ih hprefix hsub]
        obtain hes | ⟨i, f, rfl, hfailed, _⟩ := Scene.shows_settles script (s.moves script ms) m
        · rw [hes]
        · obtain ⟨o, ho⟩ := Option.ne_none_iff_exists'.mp
            fun hnone => hquiet ms i f hms hsub hnone hfailed
          rw [ho, Option.some_or, Option.some_or]
      · -- the proof is accepted by this move, so nothing was decided before
        have hnone : (s.moves script ms).submission = none := by simpa using hsub
        have hundecided := hd.undecided (hs.undecided (hc.isOpen_of_accepted hnone haccepted))
        rw [hundecided, submissionOutcome_eq_none hundecided]
        obtain hes | ⟨i, f, _, _, hes⟩ := Scene.shows_settles script (s.moves script ms) m
        · rw [hes]
        · rw [hes] at hc
          rw [hc.submission_of_crashed, hnone] at haccepted
          cases haccepted

end

/-- Without another request under way, the submission settles the outcome. -/
theorem outcome_is_submissions_text :
    let s : Scene Unit Unit := { toOutside := sampleOutside, toNegotiation := sample }
    ofChallenge "root@pam" "PBS:!tfa!" sampleChallenge = .ok sample ∧
      Move.act .start ∉ sampleMoves ∧
      ∀ ms, ms <+: .act .start :: sampleMoves →
        (s.moves sampleScript ms).submission.isSome = true →
        (s.moves sampleScript ms).outcome = submissionOutcome (s.history sampleScript ms) := by
  have hstart : Move.act .start ∉ sampleMoves := by simp [sampleMoves]
  refine ⟨ofChallenge_sample, hstart,
    (outcome_is_submissions_iff sampleScript ofChallenge_sample sampleOutside hstart).mpr ?_⟩
  intro ms i f hms
  have hmem := hms.subset (List.mem_append_right ms List.mem_cons_self)
  simp [sampleMoves] at hmem

/-- A security key whose request was cancelled for a time code, and fails while the code is being
submitted, settles the outcome. -/
theorem cancelled_key_settles_first :
    let s : Scene Unit Unit := { toOutside := sampleOutside, toNegotiation := sample }
    let ms := .act .start :: sampleMoves ++ [.turn (.attempt 0), .turn (.attemptEnded 0)]
    (s.moves sampleScript ms).submission.isSome = true ∧
      submissionOutcome (s.history sampleScript ms) = none ∧
      (s.moves sampleScript ms).outcome = some (.error (crash (.foreign (.crash "driver bug")))) :=
  ⟨rfl, rfl, rfl⟩

end SecondFactor.Negotiation
