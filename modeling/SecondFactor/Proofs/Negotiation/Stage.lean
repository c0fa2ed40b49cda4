import SecondFactor.Proofs.Negotiation.Guests
import SecondFactor.Proofs.Negotiation.Outcome

/-! # The stage of a negotiation

The stage, the outcome and the mark that the dialog is closed are written one by one, and by many.
Between two moves they agree all the same, and an outcome stays what it is once it is there. -/

namespace SecondFactor.Negotiation

variable {τ ν : Type}

/-- Whether a stage may come next. -/
def Stage.mayBecome : Stage → Stage → Bool
  | .selecting, next | .awaiting, next => next != .resolved
  | .submitting, next => !next.isOpen
  | .resolved, next => next == .resolved
  | .rejected, next => next == .rejected

theorem Stage.mayBecome_self (s : Stage) : s.mayBecome s = true := by
  cases s <;> rfl

theorem Stage.mayBecome_of_isOpen {s next : Stage} (h : s.isOpen = true)
    (hnext : next ≠ .resolved) : s.mayBecome next = true := by
  cases s <;> simp_all [isOpen, mayBecome]

/-- What the stage says of the rest of a negotiation. -/
inductive Staged (n : Negotiation τ) : Prop where
  | wanting (stage : n.stage.isOpen = true) (submission : n.submission.isSome = false)
      (outcome : n.outcome = none) (closed : n.closed = false)
  | submitting (stage : n.stage = .submitting) (submission : n.submission.isSome = true)
      (outcome : n.outcome = none) (closed : n.closed = true)
  | resolved (t : Ticket) (stage : n.stage = .resolved) (submission : n.submission.isSome = true)
      (outcome : n.outcome = some (.ok t)) (closed : n.closed = true)
  | rejected (f : Failure) (stage : n.stage = .rejected) (outcome : n.outcome = some (.error f))
      (closed : n.closed = true)

/-- Whether two negotiations are the same to their stages. -/
structure Alike (n n' : Negotiation τ) : Prop where
  stage : n'.stage = n.stage
  submission : n'.submission.isSome = n.submission.isSome
  outcome : n'.outcome = n.outcome
  closed : n'.closed = n.closed

theorem Alike.setTask (n : Negotiation τ) (i : Nat)
    (f : Task Attempt.Wait Unit → Task Attempt.Wait Unit) : Alike n (n.setTask i f) :=
  ⟨rfl, rfl, rfl, rfl⟩

theorem Alike.setSubmission (n : Negotiation τ)
    (f : Task Submission.Wait Unit → Task Submission.Wait Unit) : Alike n (n.setSubmission f) :=
  ⟨rfl, Option.isSome_map, rfl, rfl⟩

theorem Alike.cancelKey (n : Negotiation τ) : Alike n n.cancelKey := by
  unfold Negotiation.cancelKey
  split
  · exact ⟨rfl, rfl, rfl, rfl⟩
  · exact setTask n _ _

/-- Whether a negotiation goes on in step with its stage. It keeps an outcome that it has, and the
only ticket that it may get is the one with which the call of the ticket service ends. -/
structure Advances (es : List Happening) (n n' : Negotiation τ) : Prop where
  staged : Staged n'
  stage : n.stage.mayBecome n'.stage = true
  outcome : ∀ o, n.outcome = some o → n'.outcome = some o
  answered : ∀ t, n'.outcome = some (.ok t) → n.outcome = some (.ok t) ∨ .answered (.ok t) ∈ es

section

variable {es : List Happening} {n n' n'' : Negotiation τ}

namespace Staged

theorem closed_iff (hs : Staged n) : n.closed = true ↔ n.stage.isOpen = false := by
  cases hs with
  | wanting stage _ _ closed => simp [stage, closed]
  | submitting stage _ _ closed | resolved _ stage _ _ closed | rejected _ stage _ closed =>
    rw [stage, closed]
    exact iff_of_true rfl rfl

theorem resolved_iff (hs : Staged n) : n.stage = .resolved ↔ ∃ t, n.outcome = some (.ok t) := by
  cases hs with
  | wanting stage _ outcome =>
    rw [outcome]
    refine iff_of_false (fun h => ?_) (by simp)
    rw [h] at stage
    cases stage
  | submitting stage _ outcome | rejected _ stage outcome => simp [stage, outcome]
  | resolved t stage _ outcome => simp [stage, outcome]

theorem rejected_iff (hs : Staged n) : n.stage = .rejected ↔ ∃ f, n.outcome = some (.error f) := by
  cases hs with
  | wanting stage _ outcome =>
    rw [outcome]
    refine iff_of_false (fun h => ?_) (by simp)
    rw [h] at stage
    cases stage
  | submitting stage _ outcome | rejected _ stage outcome => simp [stage, outcome]
  | resolved t stage _ outcome => simp [stage, outcome]

theorem accepted_of_stage (hs : Staged n) (h : n.stage = .submitting ∨ n.stage = .resolved) :
    n.submission.isSome = true := by
  cases hs with
  | wanting stage => rcases h with h | h <;> rw [h] at stage <;> cases stage
  | submitting _ submission | resolved _ _ submission => exact submission
  | rejected _ stage => rcases h with h | h <;> rw [h] at stage <;> cases stage

/-- As long as a proof is wanted there is none, and no outcome either. -/
theorem wanting_of_isOpen (hs : Staged n) (hopen : n.stage.isOpen = true) :
    n.submission.isSome = false ∧ n.outcome = none ∧ n.closed = false := by
  cases hs with
  | wanting _ submission outcome closed => exact ⟨submission, outcome, closed⟩
  | submitting stage | resolved _ stage | rejected _ stage =>
    rw [stage] at hopen
    cases hopen

theorem closed_of_accepted (hs : Staged n) (h : n.submission.isSome = true) :
    n.closed = true := by
  refine hs.closed_iff.mpr ?_
  by_contra hopen
  simp [(hs.wanting_of_isOpen (by simpa using hopen)).1] at h

theorem closed_of_done (hs : Staged n) (h : n.done = true) : n.closed = true := by
  refine hs.closed_iff.mpr ?_
  by_contra hopen
  simp [done, (hs.wanting_of_isOpen (by simpa using hopen)).2.1] at h

theorem of_alike (hs : Staged n) (ha : Alike n n') : Staged n' := by
  obtain ⟨hstage, hsubmission, houtcome, hclosed⟩ := ha
  cases hs with
  | wanting stage submission outcome closed =>
    exact .wanting (hstage ▸ stage) (hsubmission.trans submission) (houtcome.trans outcome)
      (hclosed.trans closed)
  | submitting stage submission outcome closed =>
    exact .submitting (hstage.trans stage) (hsubmission.trans submission) (houtcome.trans outcome)
      (hclosed.trans closed)
  | resolved t stage submission outcome closed =>
    exact .resolved t (hstage.trans stage) (hsubmission.trans submission) (houtcome.trans outcome)
      (hclosed.trans closed)
  | rejected f stage outcome closed =>
    exact .rejected f (hstage.trans stage) (houtcome.trans outcome) (hclosed.trans closed)

end Staged

/-! ## Parts of changes -/

namespace Advances

theorem of_alike (hs : Staged n) (ha : Alike n n') : Advances es n n' where
  staged := hs.of_alike ha
  stage := ha.stage ▸ Stage.mayBecome_self n.stage
  outcome := fun _ ho => ha.outcome.trans ho
  answered := fun _ ht => .inl (ha.outcome ▸ ht)

theorem trans_alike (h : Advances es n n') (ha : Alike n' n'') : Advances es n n'' where
  staged := h.staged.of_alike ha
  stage := ha.stage ▸ h.stage
  outcome := fun o ho => ha.outcome.trans (h.outcome o ho)
  answered := fun t ht => h.answered t (ha.outcome ▸ ht)

/-- The stage changes, and a proof is still wanted. -/
theorem turns (hs : Staged n) (hopen : n.stage.isOpen = true) {stage : Stage}
    (hstage : stage.isOpen = true) : Advances es n { n with stage } := by
  obtain ⟨hsubmission, houtcome, hclosed⟩ := hs.wanting_of_isOpen hopen
  refine ⟨.wanting hstage hsubmission houtcome hclosed, ?_, fun _ => id, fun _ => .inl⟩
  refine Stage.mayBecome_of_isOpen hopen ?_
  rintro rfl
  cases hstage

theorem reject (hs : Staged n) (f : Failure) : Advances es n (n.reject f) := by
  unfold Negotiation.reject
  split
  · rename_i hdone
    exact of_alike hs ⟨rfl, rfl, rfl, (hs.closed_of_done hdone).symm⟩
  · rename_i hdone
    have hnone : n.outcome = none := by simpa [done] using hdone
    refine ⟨.rejected f rfl rfl rfl, ?_, fun o ho => ?_, fun t ht => by cases ht⟩
    · cases hs with
      | wanting stage => exact Stage.mayBecome_of_isOpen stage fun h => by cases h
      | submitting stage => exact stage ▸ rfl
      | resolved _ _ _ outcome | rejected _ _ outcome =>
        rw [hnone] at outcome
        cases outcome
    · rw [hnone] at ho
      cases ho

theorem resolve (hs : Staged n) (hsub : n.submission.isSome = true) {t : Ticket}
    (hes : .answered (.ok t) ∈ es) : Advances es n (n.resolve t) := by
  unfold Negotiation.resolve
  split
  · exact of_alike hs ⟨rfl, rfl, rfl, rfl⟩
  · rename_i hdone
    have hnone : n.outcome = none := by simpa [done] using hdone
    have hclosed := hs.closed_of_accepted hsub
    refine ⟨.resolved t rfl hsub rfl hclosed, ?_, fun o ho => ?_, fun u hu => ?_⟩
    · cases hs with
      | wanting _ submission =>
        rw [hsub] at submission
        cases submission
      | submitting stage => exact stage ▸ rfl
      | resolved _ _ _ outcome | rejected _ _ outcome =>
        rw [hnone] at outcome
        cases outcome
    · rw [hnone] at ho
      cases ho
    · cases hu
      exact .inr hes

theorem accept (hs : Staged n) (hopen : n.stage.isOpen = true) (p : Proof) (whenEnded : Turn τ) :
    Advances es n (n.accept p whenEnded) := by
  have hnone : n.outcome = none := (hs.wanting_of_isOpen hopen).2.1
  let accepted : Negotiation τ := { n.shut with
    stage := .submitting
    submission := some { proof := p, whenEnded := [.submissionEnded, whenEnded] } }
  have hstage : Advances es n accepted := by
    refine ⟨.submitting rfl rfl hnone rfl, ?_, fun _ ho => ho, fun _ ht => .inl ht⟩
    exact Stage.mayBecome_of_isOpen hopen fun h => by cases h
  refine hstage.trans_alike ?_
  unfold Negotiation.accept
  dsimp only
  split
  · exact ⟨rfl, rfl, rfl, rfl⟩
  · have ha := Alike.cancelKey { n.shut with stage := .submitting }
    exact ⟨ha.stage, rfl, ha.outcome, ha.closed⟩

/-- A security key gives no assertion. -/
theorem keyFailed (hs : Staged n) (r : Key.Refusal) : Advances es n (n.keyFailed r) := by
  let failed : Negotiation τ := { n with keyError := some r }
  have hs' : Staged failed := hs.of_alike ⟨rfl, rfl, rfl, rfl⟩
  unfold Negotiation.keyFailed
  dsimp only
  split
  · exact of_alike hs ⟨rfl, rfl, rfl, rfl⟩
  · have ha : Advances es failed (failed.reject r.failure) := reject hs' r.failure
    exact ⟨ha.staged, ha.stage, ha.outcome, ha.answered⟩

theorem notice (hs : Staged n) (f : Failure) : Advances es n (n.notice f) := by
  unfold Negotiation.notice
  split
  · exact of_alike hs ⟨rfl, rfl, rfl, rfl⟩
  · exact reject hs _

theorem settle (hs : Staged n) {sub : Submission τ} (hsub : n.submission = some sub)
    {result : Except Failure Ticket} (hes : .answered result ∈ es) :
    Advances es n (n.settle result) := by
  unfold Negotiation.settle
  cases result with
  | ok t => exact (resolve hs (hsub ▸ rfl) hes).trans_alike (.setSubmission _ _)
  | error f =>
    dsimp only
    split
    · exact (reject hs f).trans_alike (.setSubmission _ _)
    · exact of_alike hs (.setSubmission _ _)

theorem closes (hs : Staged n) :
    Advances es n (if n.submission.isSome then n.shut
      else if n.done then n.shut.cancelKey
      else n.shut.cancelKey.reject (.plain (.ofKind .cancelled))) := by
  have hcancel := Alike.cancelKey n.shut
  split
  · rename_i hsub
    exact of_alike hs ⟨rfl, rfl, rfl, (hs.closed_of_accepted hsub).symm⟩
  · split
    · rename_i hdone
      refine of_alike hs ⟨hcancel.stage, hcancel.submission, hcancel.outcome, ?_⟩
      exact hcancel.closed.trans (hs.closed_of_done hdone).symm
    · rename_i hdone
      refine (reject hs (.plain (.ofKind .cancelled))).trans_alike ?_
      unfold Negotiation.reject
      rw [if_neg hdone, if_neg ((done_cancelKey n.shut).trans_ne hdone)]
      exact ⟨rfl, hcancel.submission, rfl, rfl⟩

end Advances

/-! ## Along a run -/

/-- Every change is in step with the stage. -/
theorem Staged.change (hs : Staged n) (hc : Change n es n') : Advances es n n' := by
  cases hc with
  | idle | waits | retries | mistypes => exact .of_alike hs ⟨rfl, rfl, rfl, rfl⟩
  | starts => split <;> exact .of_alike hs ⟨rfl, rfl, rfl, rfl⟩
  | selects m hopen hm hne =>
    have hstage : (if n.input m = "" then Stage.selecting else .awaiting).isOpen = true := by
      split <;> rfl
    refine (Advances.turns hs hopen hstage).trans_alike ?_
    have ha : Alike n (if n.active = .webauthn then n.cancelKey else n) := by
      split
      · exact .cancelKey n
      · exact ⟨rfl, rfl, rfl, rfl⟩
    exact ⟨rfl, ha.submission, ha.outcome, ha.closed⟩
  | told value hopen => exact (Advances.turns hs hopen rfl).trans_alike ⟨rfl, rfl, rfl, rfl⟩
  | closes => exact .closes hs
  | confirms caller hopen =>
    let confirmed : Negotiation τ := { n with inputError := none }
    have hs' : Staged confirmed := hs.of_alike ⟨rfl, rfl, rfl, rfl⟩
    have ha : Advances [] confirmed
        (confirmed.accept ⟨n.active, n.input n.active⟩ (.caller caller)) := .accept hs' hopen _ _
    exact ⟨ha.staged, ha.stage, ha.outcome, ha.answered⟩
  | asks | keyCrashed | assertsLate | stops | wakes => exact .of_alike hs (.setTask _ _ _)
  | refused i a r => exact (Advances.keyFailed hs r).trans_alike (.setTask _ _ _)
  | asserts i a assertion ha hu hopen =>
    exact (Advances.accept hs hopen _ _).trans_alike (.setTask _ _ _)
  | notices i f => exact .notice hs f
  | sends | responds => exact .of_alike hs (.setSubmission _ _)
  | exchanges sub number r o client hsub => exact .settle hs hsub (by simp)
  | balks sub f hsub => exact .settle hs hsub (by simp)
  | receives sub r o client hsub => exact .settle hs hsub (by simp)

end

theorem staged_ofChallenge {userid ticket : String} {c : Challenge} {n : Negotiation τ}
    (hn : ofChallenge userid ticket c = .ok n) : Staged n := by
  obtain ⟨active, options, _, rfl⟩ := ofChallenge_ok hn
  exact .wanting rfl rfl rfl rfl

variable (script : Nat → Http.Outcome)

/-- A run keeps in step with the stage. Its ticket is one with which the call of the ticket service
has ended. -/
theorem Staged.moves {s : Scene τ ν} (hs : Staged s.toNegotiation) {h : List Happening}
    (hh : ∀ t, s.outcome = some (.ok t) → .answered (.ok t) ∈ h) (ms : List (Move τ ν)) :
    Staged (s.moves script ms).toNegotiation ∧
      ∀ t, (s.moves script ms).outcome = some (.ok t) →
        .answered (.ok t) ∈ h ++ s.history script ms := by
  refine Scene.moves_induction script (P := fun h s => Staged s.toNegotiation ∧
    ∀ t, s.outcome = some (.ok t) → Happening.answered (.ok t) ∈ h) ?_ ⟨hs, hh⟩
  rintro h s m - ⟨hs, hh⟩
  have ha := hs.change (s.change_move script m)
  refine ⟨ha.staged, fun t ht => ?_⟩
  rcases ha.answered t ht with hold | hnew
  · exact List.mem_append_left _ (hh t hold)
  · exact List.mem_append_right h hnew

theorem Staged.leads {s s' : Scene τ ν} (hs : Staged s.toNegotiation) (h : s.Leads script s') :
    Staged s'.toNegotiation := by
  obtain ⟨ms, rfl⟩ := h
  induction ms generalizing s with
  | nil => exact hs
  | cons m ms ih => exact ih (hs.change (s.change_move script m)).staged

/-- Guests keep in step, whatever the backend says. -/
theorem Staged.visited {P : Action → Prop} {s s' : Scene τ ν} (hs : Staged s.toNegotiation)
    (h : s.Visited P s') : Staged s'.toNegotiation := by
  have hleads : s.Leads (fun _ => .error .undecodableBytes) s' := .visited h
  exact hs.leads _ hleads

theorem staged_moves {userid ticket : String} {c : Challenge} {n : Negotiation τ}
    (hn : ofChallenge userid ticket c = .ok n) (o : Outside) (ms : List (Move τ ν)) :
    let s : Scene τ ν := { toOutside := o, toNegotiation := n }
    Staged (s.moves script ms).toNegotiation ∧
      ∀ t, (s.moves script ms).outcome = some (.ok t) →
        .answered (.ok t) ∈ s.history script ms := by
  intro s
  have hs : Staged s.toNegotiation := staged_ofChallenge hn
  have hnone : ∀ t, s.outcome = some (.ok t) → .answered (.ok t) ∈ ([] : List Happening) := by
    obtain ⟨active, options, -, rfl⟩ := ofChallenge_ok hn
    intro t ht
    cases ht
  exact hs.moves script hnone ms

/-- A run changes neither an outcome nor the stage that goes with it. -/
theorem Staged.moves_of_outcome {s : Scene τ ν} (hs : Staged s.toNegotiation)
    {o : Except Failure Ticket} (ho : s.outcome = some o) (ms : List (Move τ ν)) :
    (s.moves script ms).stage = s.stage ∧ (s.moves script ms).outcome = some o := by
  induction ms generalizing s with
  | nil => exact ⟨rfl, ho⟩
  | cons m ms ih =>
    have ha := hs.change (s.change_move script m)
    have hstage : (s.move script m).stage = s.stage := by
      have hnext := ha.stage
      cases hs with
      | wanting _ _ outcome | submitting _ _ outcome =>
        rw [outcome] at ho
        cases ho
      | resolved _ stage | rejected _ stage =>
        rw [stage] at hnext ⊢
        simpa [Stage.mayBecome] using hnext
    obtain ⟨hstage', houtcome'⟩ := ih ha.staged (ha.outcome o ho)
    exact ⟨hstage'.trans hstage, houtcome'⟩

/-- At every point of a run the stage says whether there is an outcome and of which kind, and
whether the dialog is closed. A proof is being submitted, or has led to a ticket, only where one was
accepted. No move goes from a stage to another that may not come next; and once there is an outcome,
nothing that happens in the room of the negotiation changes it, or the stage. -/
theorem stage_follows_outcome {userid ticket : String} {c : Challenge}
    {n : Negotiation Room.Turn} (hn : ofChallenge userid ticket c = .ok n) (o : Outside)
    (ms : List (Move Room.Turn ν)) :
    let start : Scene Room.Turn ν := { toOutside := o, toNegotiation := n }
    let s := start.moves script ms
    let h := start.history script ms
    (s.stage = .resolved ↔ ∃ t, s.outcome = some (.ok t)) ∧
      (∀ t, s.outcome = some (.ok t) → .answered (.ok t) ∈ h) ∧
      (s.stage = .rejected ↔ ∃ f, s.outcome = some (.error f)) ∧
      (s.closed = true ↔ s.stage ≠ .selecting ∧ s.stage ≠ .awaiting) ∧
      (s.stage = .submitting ∨ s.stage = .resolved → ∃ sub, s.submission = some sub ∧
        c.offers sub.proof.method = true ∧ RestsOn c h sub.proof) ∧
      (∀ m, s.stage.mayBecome (s.move script m).stage = true) ∧
      ∀ outcome, s.outcome = some outcome → ∀ (guests : Room.Guests ν) (rs : List (Room.Move ν)),
        let r : Room ν := { toScene := s, toGuests := guests }
        (r.moves script rs).stage = s.stage ∧ (r.moves script rs).outcome = some outcome := by
  intro start s h
  have hsound : Sound userid ticket c h s.toNegotiation := sound_moves hn o script ms
  obtain ⟨hs, hanswered⟩ := staged_moves script hn o ms
  refine ⟨hs.resolved_iff, hanswered, hs.rejected_iff, ?_, fun hstage => ?_, fun m => ?_, ?_⟩
  · rw [hs.closed_iff]
    cases s.stage <;> simp [Stage.isOpen]
  · obtain ⟨sub, hsub⟩ := Option.isSome_iff_exists.mp (hs.accepted_of_stage hstage)
    exact ⟨sub, hsub, hsound.rests sub hsub⟩
  · exact (hs.change (s.change_move script m)).stage
  · intro outcome ho guests rs r
    obtain ⟨ns, hns⟩ : s.Leads script (r.moves script rs).toScene := Room.leads_moves r rs
    rw [hns]
    exact hs.moves_of_outcome script ho ns

/-- A user whose time code goes out, and is answered by nothing that can be read. -/
def refusedMoves : List (Move Room.Turn Unit) :=
  [.act .start, .act (.select .totp), .act (.input "123456"), .confirm (.confirm 0),
    .turn .submission, .respond, .turn .submission, .turn .submissionEnded]

theorem stage_follows_outcome_refused :
    ∃ n : Negotiation Room.Turn, ofChallenge "root@pam" "PBS:!tfa!" sampleChallenge = .ok n ∧
      ∀ (guests : Room.Guests Unit) (rs : List (Room.Move Unit)),
        let s : Scene Room.Turn Unit :=
          Scene.moves sampleScript { toOutside := sampleOutside, toNegotiation := n } refusedMoves
        let r : Room Unit := { toScene := s, toGuests := guests }
        (r.moves sampleScript rs).stage = .rejected ∧
          (r.moves sampleScript rs).outcome =
            some (.error (crash (.foreign .undecodableBytes))) := by
  obtain ⟨n, hn⟩ : ∃ n : Negotiation Room.Turn,
      ofChallenge "root@pam" "PBS:!tfa!" sampleChallenge = .ok n := ⟨_, rfl⟩
  refine ⟨n, hn, fun guests rs => ?_⟩
  have hall := stage_follows_outcome sampleScript hn sampleOutside refusedMoves
  cases hn
  exact hall.2.2.2.2.2.2 _ rfl guests rs

end SecondFactor.Negotiation
