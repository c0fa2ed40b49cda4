import SecondFactor.Proofs.Negotiation.Leaving

/-! # Devices are looked after

Whatever happens in a scene, no device is forgotten. Most of what happens leaves attempts alone. -/

namespace SecondFactor.Negotiation

variable {τ ν : Type}

/-! ## Scenes in which attempts are left alone -/

namespace Scene

/-- Whether attempts are left alone from one scene to another. No attempt is told that a submission
ended but by the end of the submission of its proof. -/
structure Spares (s s' : Scene τ ν) : Prop where
  attempts : s'.attempts = s.attempts
  current : s'.current = s.current
  active : s'.active = s.active
  submission : ∀ sub', s'.submission = some sub' →
    ∃ sub, s.submission = some sub ∧ sub'.whenEnded = sub.whenEnded
  stage : s'.stage.isOpen = true → s.stage.isOpen = true
  queue : ∀ i, .attemptNotified i ∈ s'.queue → .attemptNotified i ∈ s.queue ∨
    ∃ sub, s.submission = some sub ∧ .attemptNotified i ∈ sub.whenEnded
  log : devices s'.log = devices s.log

variable {s s' s'' : Scene τ ν}

namespace Spares

theorem refl (s : Scene τ ν) : Spares s s :=
  ⟨rfl, rfl, rfl, fun sub hsub => ⟨sub, hsub, rfl⟩, id, fun _ => .inl, rfl⟩

theorem trans (h : Spares s s') (h' : Spares s' s'') : Spares s s'' where
  attempts := h'.attempts.trans h.attempts
  current := h'.current.trans h.current
  active := h'.active.trans h.active
  submission := by
    intro sub'' hsub''
    obtain ⟨sub', hsub', hwhenEnded'⟩ := h'.submission sub'' hsub''
    obtain ⟨sub, hsub, hwhenEnded⟩ := h.submission sub' hsub'
    exact ⟨sub, hsub, hwhenEnded'.trans hwhenEnded⟩
  stage := h.stage ∘ h'.stage
  queue := by
    intro i hi
    rcases h'.queue i hi with hin | ⟨sub', hsub', hin⟩
    · exact h.queue i hin
    · obtain ⟨sub, hsub, hwhenEnded⟩ := h.submission sub' hsub'
      exact .inr ⟨sub, hsub, hwhenEnded ▸ hin⟩
  log := h'.log.trans h.log

/-- The turns of callers may become due. -/
theorem of_callers (cs : List τ) (hattempts : s'.attempts = s.attempts)
    (hcurrent : s'.current = s.current) (hactive : s'.active = s.active)
    (hsubmission : s'.submission = s.submission)
    (hstage : s'.stage.isOpen = true → s.stage.isOpen = true)
    (hqueue : s'.queue = s.queue ++ cs.map .caller) (hlog : devices s'.log = devices s.log) :
    Spares s s' := by
  refine ⟨hattempts, hcurrent, hactive, fun sub hsub => ⟨sub, hsubmission ▸ hsub, rfl⟩, hstage,
    fun i hi => .inl ?_, hlog⟩
  rw [hqueue] at hi
  rcases List.mem_append.mp hi with hin | hin
  · exact hin
  · obtain ⟨c, -, hc⟩ := List.mem_map.mp hin
    cases hc

theorem of_same (hattempts : s'.attempts = s.attempts) (hcurrent : s'.current = s.current)
    (hactive : s'.active = s.active) (hsubmission : s'.submission = s.submission)
    (hstage : s'.stage.isOpen = true → s.stage.isOpen = true) (hqueue : s'.queue = s.queue)
    (hlog : devices s'.log = devices s.log) : Spares s s' :=
  of_callers [] hattempts hcurrent hactive hsubmission hstage
    (hqueue.trans (List.append_nil _).symm) hlog

theorem note (s : Scene τ ν) {es : List (Event ν)} (hes : devices es = []) :
    Spares s (s.note es) := by
  refine of_same rfl rfl rfl rfl id rfl ?_
  rw [Scene.note, devices_append, hes, List.append_nil]

theorem shut (s : Scene τ ν) : Spares s s.shut :=
  of_callers s.whenClosed rfl rfl rfl rfl id rfl rfl

theorem announce (s : Scene τ ν) {stage : Stage} (hstage : stage.isOpen = false)
    (o : Except Failure Ticket) : Spares s (Scene.announce { s with stage, outcome := some o }) := by
  refine of_callers s.whenDone rfl rfl rfl rfl (fun hopen => ?_) rfl rfl
  cases hstage.symm.trans hopen

theorem reject (s : Scene τ ν) (f : Failure) : Spares s (s.reject f) := by
  by_cases hdone : s.done = true
  · rw [reject_of_done hdone]
    exact shut s
  · rw [reject_of_not_done hdone]
    exact (shut s).trans (announce s.shut rfl (.error f))

theorem resolve (s : Scene τ ν) (t : Ticket) : Spares s (s.resolve t) := by
  unfold Scene.resolve
  split
  · exact refl s
  · exact announce s rfl (.ok t)

theorem keyFailed (s : Scene τ ν) (r : Key.Refusal) : Spares s (s.keyFailed r) := by
  have herror : Spares s { s with keyError := some r } := of_same rfl rfl rfl rfl id rfl rfl
  unfold Scene.keyFailed
  dsimp only
  split
  · exact herror
  · exact herror.trans (reject _ _)

theorem ended (s : Scene τ ν) (how : Option (Ending Unit)) : Spares s (s.ended how) := by
  unfold Scene.ended
  split
  · split
    · exact refl s
    · exact reject s _
  · exact refl s

theorem awaitClosed (s : Scene τ ν) (caller : τ) : Spares s (s.awaitClosed caller).2 := by
  unfold Scene.awaitClosed
  split
  · exact refl s
  · exact of_same rfl rfl rfl rfl id rfl rfl

theorem awaitOutcome (s : Scene τ ν) (caller : τ) : Spares s (s.awaitOutcome caller).2 := by
  unfold Scene.awaitOutcome
  split
  · exact refl s
  · exact of_same rfl rfl rfl rfl id rfl rfl

/-! ### The submission -/

/-- The submission changes, and those whom its end concerns may hear of it. -/
theorem of_submission {sub : Submission τ} (hsub : s.submission = some sub)
    (task : Task Submission.Wait Unit) {ts : List (Turn τ)}
    (hts : ts ⊆ .submission :: sub.whenEnded) :
    Spares s (Scene.enqueue { s with submission := some { sub with task } } ts) := by
  refine ⟨rfl, rfl, rfl, fun sub' hsub' => ?_, id, fun i hi => ?_, rfl⟩
  · cases hsub'
    exact ⟨sub, hsub, rfl⟩
  · rcases List.mem_append.mp hi with hold | hnew
    · exact .inl hold
    · have hne : Turn.attemptNotified i ≠ (.submission : Turn τ) := nofun
      exact .inr ⟨sub, hsub, List.mem_of_ne_of_mem hne (hts hnew)⟩

theorem updateSubmission (s : Scene τ ν)
    (f : Task Submission.Wait Unit → Task Submission.Wait Unit) :
    Spares s (s.updateSubmission f) := by
  unfold Scene.updateSubmission
  cases hsub : s.submission with
  | none => exact refl s
  | some sub =>
    dsimp only
    split
    · exact of_submission hsub _ (List.cons_subset_cons _ (List.nil_subset _))
    · have h := of_submission hsub (f sub.task) (List.nil_subset _)
      rwa [Scene.enqueue, List.append_nil] at h

theorem endSubmission (s : Scene τ ν) (how : Ending Unit) : Spares s (s.endSubmission how) := by
  unfold Scene.endSubmission
  cases hsub : s.submission with
  | none => exact refl s
  | some sub => exact of_submission hsub _ (List.subset_cons_self _ _)

theorem settleSubmission (s : Scene τ ν) (result : Except Failure Ticket) :
    Spares s (s.settleSubmission result) := by
  cases result with
  | ok t => exact (resolve s t).trans (endSubmission _ _)
  | error f =>
    unfold Scene.settleSubmission
    dsimp only
    split
    · exact (reject s f).trans (endSubmission _ _)
    · exact endSubmission s _

theorem receive (s : Scene τ ν) (r : Http.Request) (o : Http.Outcome) :
    Spares s (s.receive r o) := by
  have hreceived : Spares s { s with toOutside := s.toOutside.receive r o } :=
    of_same rfl rfl rfl rfl id rfl rfl
  exact hreceived.trans (settleSubmission _ _)

theorem submit (s : Scene τ ν) (p : Proof) : Spares s (s.submit p) := by
  unfold Scene.submit
  split
  · exact settleSubmission s _
  · rename_i outside _
    have hsent : Spares s { s with toOutside := outside } := of_same rfl rfl rfl rfl id rfl rfl
    dsimp only
    split
    · exact (hsent.trans (note _ rfl)).trans (receive _ _ _)
    · exact (hsent.trans (note _ rfl)).trans (updateSubmission _ _)

theorem runSubmission (s : Scene τ ν) : Spares s s.runSubmission := by
  unfold Scene.runSubmission
  cases s.submission with
  | none => exact refl s
  | some sub =>
    dsimp only
    split
    · exact submit s _
    · exact receive s _ _
    · exact refl s

end Spares

variable {parted : Prop} {answered : List Nat} {due : List (Turn τ)}
  {ds es : List (Nat × Key.DeviceEvent)}

/-- Whether the devices that were asked are looked after in a scene, where more turns may be due. -/
abbrev Tended (parted : Prop) (answered : List Nat) (due : List (Turn τ))
    (ds : List (Nat × Key.DeviceEvent)) (s : Scene τ ν) : Prop :=
  s.toNegotiation.Tended parted answered (due ++ s.queue) ds

/-- Who is told that a submission ended was going to be told before. -/
theorem Spares.told (hs : s.Spares s') {i : Nat}
    (hi : .attemptNotified i ∈ due ++ s'.queue ∨
      ∃ sub', s'.submission = some sub' ∧ .attemptNotified i ∈ sub'.whenEnded) :
    .attemptNotified i ∈ due ++ s.queue ∨
      ∃ sub, s.submission = some sub ∧ .attemptNotified i ∈ sub.whenEnded := by
  rcases hi with hdue | ⟨sub', hsub', hin⟩
  · rcases List.mem_append.mp hdue with hdue | hqueue
    · exact .inl (List.mem_append_left _ hdue)
    · exact (hs.queue i hqueue).imp_left (List.mem_append_right due)
  · obtain ⟨sub, hsub, hwhenEnded⟩ := hs.submission sub' hsub'
    exact .inr ⟨sub, hsub, hwhenEnded ▸ hin⟩

/-- What is looked after stays so where attempts are left alone. -/
theorem Spares.tended (hs : s.Spares s') (h : s.Tended parted answered due ds) :
    s'.Tended parted answered due ds where
  indicator := hs.attempts ▸ h.indicator
  asked := hs.attempts ▸ h.asked
  behaves := hs.attempts ▸ h.behaves
  live := by
    intro i a ha hlive
    obtain ⟨hcurrent, hactive, hnone, hparted⟩ := h.live i a (hs.attempts ▸ ha) hlive
    refine ⟨hs.current.trans hcurrent, hs.active.trans hactive, ?_, hparted⟩
    cases hsub' : s'.submission with
    | none => rfl
    | some sub' =>
      obtain ⟨sub, hsub, -⟩ := hs.submission sub' hsub'
      cases hnone.symm.trans hsub
  told := by
    rw [hs.attempts]
    exact fun i hi => h.told i (hs.told hi)
  shut := by
    intro hparted
    by_contra hopen
    have hopen := hs.stage (by simpa using hopen)
    cases hopen.symm.trans (h.shut hparted)

theorem Spares.tended_log (hs : s.Spares s')
    (h : s.Tended parted answered due (ds ++ devices s.log)) :
    s'.Tended parted answered due (ds ++ devices s'.log) := by
  rw [hs.log]
  exact hs.tended h

/-! ## Attempts go on -/

theorem hushes_updateAttempt (s : Scene τ ν) (i : Nat)
    (f : Task Attempt.Wait Unit → Task Attempt.Wait Unit) :
    Hushes s.queue (s.updateAttempt i f).queue := by
  intro j hj
  unfold updateAttempt at hj
  cases ha : s.attempts[i]? with
  | none => simpa [ha] using hj
  | some a =>
    simp only [ha] at hj
    split at hj
    · rcases List.mem_append.mp hj with hin | hin
      · exact hin
      · cases List.mem_singleton.mp hin
    · exact hj

theorem hushes_endAttempt {i : Nat} {a : Attempt τ} (ha : s.attempts[i]? = some a)
    (hsilent : ∀ j, .attemptNotified j ∉ a.whenEnded) (how : Ending Unit) :
    Hushes s.queue (s.endAttempt i how).queue := by
  intro j hj
  simp only [endAttempt, ha] at hj
  exact (List.mem_append.mp hj).resolve_right (hsilent j)

theorem log_updateAttempt (s : Scene τ ν) (i : Nat)
    (f : Task Attempt.Wait Unit → Task Attempt.Wait Unit) : (s.updateAttempt i f).log = s.log := by
  unfold updateAttempt
  cases s.attempts[i]? with
  | none => rfl
  | some a =>
    dsimp only
    split <;> rfl

theorem log_endAttempt (s : Scene τ ν) (i : Nat) (how : Ending Unit) :
    (s.endAttempt i how).log = s.log := by
  unfold endAttempt
  cases s.attempts[i]? <;> rfl

theorem log_cancelAttempt (s : Scene τ ν) : s.cancelAttempt.log = s.log := by
  unfold cancelAttempt
  split
  · rfl
  · exact log_updateAttempt s _ _

theorem log_accept (s : Scene τ ν) (p : Proof) (whenEnded : Turn τ) :
    (s.accept p whenEnded).log = s.log := by
  unfold accept
  dsimp only
  split
  · rfl
  · exact log_cancelAttempt _

theorem hushes_cancelAttempt (s : Scene τ ν) : Hushes s.queue s.cancelAttempt.queue := by
  unfold cancelAttempt
  split
  · exact fun _ => id
  · exact hushes_updateAttempt s _ _

theorem tended_cancelAttempt (h : s.Tended parted answered due ds) :
    s.cancelAttempt.Tended parted answered due ds := by
  rw [Tended, toNegotiation_cancelAttempt]
  exact h.cancelKey.of_hushes ((hushes_cancelAttempt s).append due)

/-- Whether an attempt leaves its device behind with these events. -/
structure Releases (answered : List Nat) (a : Attempt τ) (es : List (Nat × Key.DeviceEvent)) :
    Prop where
  hides : times .shown es + (if a.device?.isSome then 1 else 0) = times .hidden es
  asks : ∀ k, (k, .asked) ∉ es
  leaves : ∀ k, a.device? = some k → k ∈ answered ∨ (k, .signalled) ∈ es

theorem tended_endAttempt (h : s.Tended parted answered due ds) {i : Nat}
    {a : Attempt τ} (ha : s.attempts[i]? = some a) (hr : Releases answered a es)
    (how : Ending Unit) : (s.endAttempt i how).Tended parted answered due (ds ++ es) := by
  have hsilent := (h.behaves a (List.mem_of_getElem? ha)).silent
  rw [Tended, toNegotiation_endAttempt, setTask_eq ha]
  have hended : Negotiation.Tended parted answered (due ++ s.queue) (ds ++ es)
      { s.toNegotiation with attempts := s.attempts.set i { a with task := .finished how } } :=
    h.replace ha hr.hides (fun k hk => (hr.leaves k (hk.resolve_right (hr.asks k))).imp_right .inl)
      ⟨hsilent, trivial⟩ nofun nofun
  exact hended.of_hushes ((hushes_endAttempt ha hsilent how).append due)

theorem hushes_enqueue (s : Scene τ ν) {ts : List (Turn τ)} (hts : ∀ i, .attemptNotified i ∉ ts) :
    Hushes s.queue (s.enqueue ts).queue := fun i hi =>
  (List.mem_append.mp hi).resolve_right (hts i)

theorem hushes_accept (s : Scene τ ν) (p : Proof) (whenEnded : Turn τ) :
    Hushes s.queue (s.accept p whenEnded).queue := by
  let submitting : Scene τ ν := { s with stage := .submitting }
  have hshut : Hushes s.queue submitting.shut.queue :=
    hushes_enqueue { submitting with closed := true, whenClosed := [] } (by simp)
  have hcancelled : Hushes submitting.shut.queue submitting.shut.cancelAttempt.queue :=
    hushes_cancelAttempt _
  intro i hi
  unfold accept at hi
  dsimp only at hi
  rcases List.mem_append.mp hi with hin | hin
  · split at hin
    · exact hshut i hin
    · exact hshut i (hcancelled i hin)
  · cases List.mem_singleton.mp hin

/-- An attempt whose proof is accepted waits for its submission. -/
theorem toNegotiation_submitting {i : Nat} {a : Attempt τ} (ha : s.attempts[i]? = some a)
    (assertion : Key.Assertion) :
    ((s.accept (assertion.proof s.keyText) (.attemptNotified i)).updateAttempt i
        fun _ => .waitingFor .submission).toNegotiation =
      { s.toNegotiation.accept (assertion.proof s.keyText) (.attemptNotified i) with
        attempts := s.attempts.set i { a with task := .waitingFor .submission } } := by
  have haccepted : (s.toNegotiation.accept (assertion.proof s.keyText)
      (.attemptNotified i)).attempts[i]? = some a := ha
  rw [toNegotiation_updateAttempt, toNegotiation_accept, setTask_eq haccepted]
  rfl

/-- A live attempt leaves its device behind, and ends or has its proof submitted. -/
theorem tended_conclude (h : s.Tended parted answered due ds) {i : Nat}
    {a : Attempt τ} (ha : s.attempts[i]? = some a) (hlive : a.isLive = true)
    (hr : Releases answered a es) (r : Key.Reply) :
    (s.conclude i r).Tended parted answered due (ds ++ es) := by
  cases r with
  | refused r =>
    have hs := Spares.keyFailed s r
    exact tended_endAttempt (hs.tended h) ((congrArg (·[i]?) hs.attempts).trans ha) hr _
  | crashed f => exact tended_endAttempt h ha hr _
  | assertion assertion =>
    unfold conclude
    dsimp only
    split
    · let a' : Attempt τ := { a with task := .waitingFor .submission }
      have hsilent := (h.behaves a (List.mem_of_getElem? ha)).silent
      have hreleased : Negotiation.Tended parted answered (due ++ s.queue) (ds ++ es)
          { s.toNegotiation with attempts := s.attempts.set i a' } :=
        h.replace ha hr.hides
          (fun k hk => (hr.leaves k (hk.resolve_right (hr.asks k))).imp_right .inl)
          ⟨hsilent, trivial⟩ nofun nofun
      have hself : (s.attempts.set i a')[i]? = some a' :=
        List.getElem?_set_self (List.getElem?_eq_some_iff.mp ha).1
      let accepted := s.accept (assertion.proof s.keyText) (.attemptNotified i)
      refine Negotiation.Tended.of_hushes ?_
        (((hushes_accept s _ _).trans (hushes_updateAttempt accepted i _)).append due)
      rw [toNegotiation_submitting ha]
      refine hreleased.of_idle (fun j b hb => ?_) rfl (fun _ => rfl) ?_
      · -- no other attempt was live
        by_contra hb'
        have hb' : b.isLive = true := by simpa using hb'
        have hj : i ≠ j := by
          rintro rfl
          cases hself.symm.trans hb
          cases hb'
        have hb : s.attempts[j]? = some b := (List.getElem?_set_ne hj).symm.trans hb
        exact hj (Option.some.inj ((h.live i a ha hlive).1.symm.trans (h.live j b hb hb').1))
      · intro j sub hsub hin
        cases hsub
        have hne : Turn.attemptNotified j ≠ (.submissionEnded : Turn τ) := nofun
        cases List.mem_singleton.mp (List.mem_of_ne_of_mem hne hin)
        exact ⟨a', hself, rfl⟩
    · exact tended_endAttempt h ha hr _

theorem log_conclude (s : Scene τ ν) (i : Nat) (r : Key.Reply) :
    devices (s.conclude i r).log = devices s.log := by
  cases r with
  | refused r =>
    exact (congrArg devices (log_endAttempt _ i _)).trans (Spares.keyFailed s r).log
  | crashed f => exact congrArg devices (log_endAttempt s i _)
  | assertion a =>
    unfold conclude
    dsimp only
    split
    · exact congrArg devices ((log_updateAttempt _ i _).trans (log_accept s _ _))
    · exact congrArg devices (log_endAttempt s i _)

theorem log_proceed (s : Scene τ ν) (i request : Nat) (b : Key.Behaviour) :
    devices (s.proceed i request b).log =
      devices s.log ++ b.proceed.1.map (request, ·) := by
  have hnoted : devices (s.note (b.proceed.1.map (.device request))).log =
      devices s.log ++ b.proceed.1.map (request, ·) := by
    rw [note, devices_append, devices_device]
  unfold proceed
  dsimp only
  split
  · exact (log_conclude _ i _).trans hnoted
  · exact (congrArg devices (log_endAttempt _ i _)).trans hnoted
  · exact (congrArg devices (log_updateAttempt _ i _)).trans hnoted

/-- A device that is told to stop is left behind. -/
theorem releases_abandoned {a : Attempt τ} {request : Nat} (ha : a.device? = some request) :
    Releases answered a (Key.Behaviour.abandoned.proceed.1.map (request, ·)) := by
  refine ⟨?_, fun k hk => ?_, fun k hk => .inr ?_⟩
  · rw [ha]
    rfl
  · simp [Key.Behaviour.abandoned, Key.Behaviour.proceed] at hk
  · cases ha.symm.trans hk
    exact List.mem_cons_self

/-- So is a device that has answered. -/
theorem releases_answered {a : Attempt τ} {request : Nat} (ha : a.device? = some request)
    (hanswered : request ∈ answered) {o : Key.PlatformOutcome} {next : Key.Behaviour}
    (ho : Key.Behaviour.answered? o = some next) :
    Releases answered a (next.proceed.1.map (request, ·)) := by
  have hevents {es : List Key.DeviceEvent} (hshown : .shown ∉ es) (hasked : .asked ∉ es)
      (hhidden : es.count .hidden = 1) : Releases answered a (es.map (request, ·)) := by
    refine ⟨?_, fun k hk => ?_, fun k hk => .inl ?_⟩
    · rw [times_map, times_map, List.count_eq_zero.mpr hshown, hhidden, ha]
      rfl
    · obtain ⟨e, he, heq⟩ := List.mem_map.mp hk
      cases heq
      exact hasked he
    · cases ha.symm.trans hk
      exact hanswered
  cases Key.Behaviour.concludes_answered ho with
  | ends hbefore heq =>
    rw [heq]
    rcases hbefore with rfl | rfl <;> exact hevents (by decide) (by decide) rfl
  | stops hbefore heq =>
    rw [heq]
    rcases hbefore with rfl | rfl <;> exact hevents (by decide) (by decide) rfl

/-- An attempt that asks no device has none to leave behind. -/
theorem releases_none {a : Attempt τ} (ha : a.device? = none) : Releases answered a [] := by
  refine ⟨?_, fun _ => List.not_mem_nil, fun k hk => ?_⟩
  · rw [ha]
    rfl
  · cases ha.symm.trans hk

theorem Leaves.log {i : Nat} {x : Key.Exit} (hl : s.Leaves i x s') :
    devices s'.log = devices s.log := by
  cases hl with
  | ends => exact log_conclude s i _
  | stops => rw [log_endAttempt]

/-- Whoever leaves a request leaves its device behind. -/
theorem tended_leaves (h : s.Tended parted answered due ds) {i k : Nat} {x : Key.Exit}
    (hx : s.Exits i k x) (hleaves : s.Leaves i x s') :
    s'.Tended parted answered due (ds ++ x.behaviour.proceed.1.map (k, ·)) := by
  cases hx with
  | givenUp hengaged =>
    obtain ⟨a, ha, hk, -⟩ := exists_of_engaged hengaged
    cases hleaves with
    | ends hx => cases hx
    | stops => exact tended_endAttempt h ha (releases_abandoned hk) .cancelled
  | @replied a next onLateCancel ha hstart =>
    have hphase := Task.phase_of_news hstart
    have hlive : a.isLive = true := by
      simp [Attempt.isLive, Attempt.isUnanswered, hphase,
        Task.cancelling_of_going (.inr ⟨_, hstart⟩)]
    have hstands := (h.behaves a (List.mem_of_getElem? ha)).stands
    rw [hphase] at hstands
    obtain ⟨hanswered, ⟨o, ho⟩, -⟩ := hstands
    have hdevice : a.device? = some k := by rw [Attempt.device?, hphase]
    have hreleases := releases_answered hdevice hanswered ho
    cases hleaves with
    | ends => exact tended_conclude h ha hlive hreleases _
    | stops => exact tended_endAttempt h ha hreleases .cancelled

/-- A live attempt asks a device. -/
theorem tended_begins (h : s.Tended parted answered due (ds ++ devices s.log)) {i k : Nat}
    (he : s.Engages i k) (options : Key.Options) :
    let s' := proceed (note { s with asked := s.asked ++ [options] } [.keyRequested k]) i k .device
    s'.Tended parted answered due (ds ++ devices s'.log) := by
  obtain ⟨⟨a, ha, hfirst⟩, -, -⟩ := he
  have hready := Task.phase_of_first hfirst
  have hnone : a.device? = none := by rw [Attempt.device?, hready]
  have hlive : a.isLive = true := by
    simp [Attempt.isLive, Attempt.isUnanswered, hready, Task.cancelling_of_going (.inl hfirst)]
  let asking : Scene τ ν := note { s with asked := s.asked ++ [options] } [.keyRequested k]
  let shown : Scene τ ν := asking.note ([.shown, .asked].map (.device k))
  let a' : Attempt τ := { a with task := .waitingFor (.reply k .abandoned .abandoned) }
  have hsilent := (h.behaves a (List.mem_of_getElem? ha)).silent
  have hasked : Negotiation.Tended parted answered (due ++ s.queue)
      (ds ++ devices s.log ++ [(k, .shown), (k, .asked)])
      { s.toNegotiation with attempts := s.attempts.set i a' } := by
    refine h.replace ha ?_ (fun k' hk' => .inr (.inr ?_)) ⟨hsilent, rfl, rfl⟩
      (fun _ => by simp [Attempt.isUnanswered, hready]) fun _ => hlive
    · rw [hnone]
      rfl
    · rcases hk' with hold | hnew
      · cases hnone.symm.trans hold
      · have hk' : k' = k := by simpa using hnew
        exact congrArg some hk'.symm
  have hlog : devices (asking.proceed i k .device).log =
      devices s.log ++ [(k, .shown), (k, .asked)] := by
    rw [log_proceed]
    exact congrArg (· ++ _) (Spares.note _ rfl).log
  have hwaits : (asking.proceed i k .device).toNegotiation =
      { s.toNegotiation with attempts := s.attempts.set i a' } :=
    (toNegotiation_updateAttempt shown i _).trans (setTask_eq (n := shown.toNegotiation) ha _)
  dsimp only
  rw [Tended, hlog, hwaits, ← List.append_assoc]
  exact hasked.of_hushes ((hushes_updateAttempt shown i _).append due)

/-- The turn of an attempt leaves no device behind. -/
theorem tended_runAttempt (hadapter : s.adapter = some fun _ => .device)
    (h : s.Tended parted answered due (ds ++ devices s.log)) (i : Nat) :
    (s.runAttempt i).Tended parted answered due
      (ds ++ devices (s.runAttempt i).log) := by
  have hturned := turned_runAttempt hadapter (i := i) fun a ha =>
    ⟨answered, h.behaves a (List.mem_of_getElem? ha)⟩
  generalize s.runAttempt i = s' at hturned
  cases hturned with
  | idle => exact h
  | begins he options => exact tended_begins h he options
  | refuses ha hfirst =>
    have hready := Task.phase_of_first hfirst
    rw [log_conclude, ← List.append_nil (ds ++ devices s.log)]
    refine tended_conclude h ha ?_ (releases_none (by rw [Attempt.device?, hready])) _
    simp [Attempt.isLive, Attempt.isUnanswered, hready, Task.cancelling_of_going (.inl hfirst)]
  | @leaves k x events _ hx hevents hleaves =>
    rw [hleaves.log, note, devices_append, hevents, ← List.append_assoc]
    exact tended_leaves (s := s.note events) h hx hleaves
  | ends ha hnone how =>
    rw [log_endAttempt, ← List.append_nil (ds ++ devices s.log)]
    exact tended_endAttempt h ha (releases_none hnone) how

/-- The task of an attempt is told something. -/
theorem tended_updateAttempt (h : s.Tended parted answered due ds) {i : Nat}
    {a : Attempt τ} (ha : s.attempts[i]? = some a)
    {f : Task Attempt.Wait Unit → Task Attempt.Wait Unit}
    (hdevice : ({ a with task := f a.task } : Attempt τ).device? = a.device?)
    (hbehaves : ({ a with task := f a.task } : Attempt τ).Behaves answered)
    (hunanswered : ({ a with task := f a.task } : Attempt τ).isUnanswered = a.isUnanswered)
    (hlive : ({ a with task := f a.task } : Attempt τ).isLive = true → a.isLive = true) :
    (s.updateAttempt i f).Tended parted answered due ds := by
  rw [Tended, toNegotiation_updateAttempt, setTask_eq ha]
  have htold : Negotiation.Tended parted answered (due ++ s.queue) (ds ++ [])
      { s.toNegotiation with attempts := s.attempts.set i { a with task := f a.task } } := by
    refine h.replace ha ?_ (fun k hk => .inr (.inr ?_)) hbehaves (fun hu => hunanswered ▸ hu) hlive
    · rw [hdevice]
      rfl
    · exact hdevice.trans (hk.resolve_right List.not_mem_nil)
  rw [List.append_nil] at htold
  exact htold.of_hushes ((hushes_updateAttempt s i f).append due)

/-- Where the task of an attempt stays as it is, nothing happens. -/
theorem tended_updateAttempt_self (h : s.Tended parted answered due ds) {i : Nat}
    {f : Task Attempt.Wait Unit → Task Attempt.Wait Unit}
    (hf : ∀ a, s.attempts[i]? = some a → f a.task = a.task) :
    (s.updateAttempt i f).Tended parted answered due ds := by
  rw [updateAttempt_eq_self hf]
  exact h

/-- An attempt whose proof is submitted hears of the end of the submission. -/
theorem tended_wake (h : s.Tended parted answered due ds) {i : Nat} {a : Attempt τ}
    (ha : s.attempts[i]? = some a) (hanswered : a.isUnanswered = false) :
    (s.updateAttempt i (Task.wake .submission)).Tended parted answered due ds := by
  have hbehaves := h.behaves a (List.mem_of_getElem? ha)
  obtain hsame | ⟨hphase, hwoken⟩ := hbehaves.wake_submission hanswered
  · refine tended_updateAttempt_self h fun b hb => ?_
    cases ha.symm.trans hb
    exact hsame
  · refine tended_updateAttempt h ha ?_ ?_ ?_ ?_ <;> rw [hwoken]
    · rw [Attempt.device?, Attempt.device?, hphase]
    · exact ⟨hbehaves.silent, trivial⟩
    · rw [hanswered]
      rfl
    · simp [Attempt.isLive, Attempt.isUnanswered]

/-- A device answers. -/
theorem tended_replyTo (h : s.Tended parted answered due ds) (i : Nat)
    (hanswered : ∀ a k, s.attempts[i]? = some a → a.asking? = some k → k ∈ answered)
    {o : Key.PlatformOutcome} {next : Key.Behaviour} (ho : Key.Behaviour.answered? o = some next) :
    (s.replyTo i next).Tended parted answered due ds := by
  obtain heq | ⟨a, k, onCancel, onLateCancel, ha, hwaits, heq⟩ := s.replyTo_cases i next <;> rw [heq]
  · exact h
  · have hphase := Task.phase_of_awaits hwaits
    obtain ⟨hsilent, hstands⟩ := h.behaves a (List.mem_of_getElem? ha)
    rw [hphase] at hstands
    obtain ⟨-, rfl⟩ := hstands
    have hasking : a.asking? = some k := by rw [Attempt.asking?, hwaits]
    refine tended_updateAttempt h ha ?_ ?_ ?_ fun _ => ?_
    all_goals try rw [Task.wake_of_awaits hwaits]
    · rw [Attempt.device?, Attempt.device?, hphase]
    · exact ⟨hsilent, hanswered a k ha hasking, ⟨o, ho⟩, rfl⟩
    · rw [Attempt.isUnanswered, Attempt.isUnanswered, hphase]
    · simp [Attempt.isLive, Attempt.isUnanswered, hphase, Task.cancelling_of_awaits hwaits]

/-- A turn leaves no device behind. -/
theorem tended_run (hadapter : s.adapter = some fun _ => .device) (t : Turn τ)
    (h : s.Tended parted answered (t :: due) (ds ++ devices s.log)) :
    (s.run t).Tended parted answered due (ds ++ devices (s.run t).log) := by
  have hrest : Hushes (t :: due ++ s.queue) (due ++ s.queue) := fun _ => List.mem_cons_of_mem t
  have hspares {s' : Scene τ ν} (hs : Spares s s') : s'.Tended parted answered due
      (ds ++ devices s'.log) := hs.tended_log (h.of_hushes hrest)
  cases t with
  | attempt i => exact tended_runAttempt hadapter (h.of_hushes hrest) i
  | attemptEnded i => exact hspares (.ended s _)
  | attemptNotified i =>
    obtain ⟨a, ha, hanswered⟩ := h.told i (.inl List.mem_cons_self)
    unfold run
    rw [log_updateAttempt]
    exact tended_wake (h.of_hushes hrest) ha hanswered
  | submission => exact hspares (.runSubmission s)
  | submissionEnded => exact hspares (.ended s _)
  | caller t => exact hspares (.refl s)

/-! ## Guests -/

/-- Where the attempt begun last is cancelled, none is live. -/
theorem idle_cancelAttempt (h : s.Tended parted answered due ds) {i : Nat} {a : Attempt τ}
    (ha : s.cancelAttempt.attempts[i]? = some a) : a.isLive = false := by
  rw [toNegotiation_cancelAttempt] at ha
  exact h.idle_cancelKey ha

theorem stage_close (hs : Staged s.toNegotiation) : s.close.stage.isOpen = false := by
  have hclose : Staged s.close.toNegotiation :=
    hs.visited (P := fun _ => True) (.act (a := .close) trivial rfl)
  refine hclose.closed_iff.mp ?_
  rw [toNegotiation_close]
  exact (finished_closes s.toNegotiation).closed

/-- Who closes a negotiation parts with it. -/
theorem tended_close (hs : Staged s.toNegotiation)
    (h : s.Tended parted answered due ds) :
    s.close.Tended True answered due ds := by
  have hshut : s.shut.Tended parted answered due ds := (Spares.shut s).tended h
  have hstage := stage_close hs
  unfold close at hstage ⊢
  dsimp only at hstage ⊢
  -- An attempt that is live has no submission beside it, so either nothing is live, or the one that
  -- is gets cancelled.
  by_cases hsub : s.shut.submission.isSome = true
  · rw [if_pos hsub] at hstage ⊢
    refine hshut.part (fun i a ha => ?_) hstage
    by_contra hlive
    have hnone := (hshut.live i a ha (by simpa using hlive)).2.2.1
    rw [hnone] at hsub
    cases hsub
  · rw [if_neg hsub] at hstage ⊢
    have hcancelled := tended_cancelAttempt hshut
    by_cases hdone : s.shut.cancelAttempt.done = true
    · rw [if_pos hdone] at hstage ⊢
      exact hcancelled.part (fun i a => idle_cancelAttempt hshut) hstage
    · rw [if_neg hdone] at hstage ⊢
      have hrejected := Spares.reject s.shut.cancelAttempt (.plain (.ofKind .cancelled))
      refine (hrejected.tended hcancelled).part (fun i a ha => ?_) hstage
      rw [hrejected.attempts] at ha
      exact idle_cancelAttempt hshut ha

theorem log_close (s : Scene τ ν) : devices s.close.log = devices s.log := by
  have hcancelled : devices s.shut.cancelAttempt.log = devices s.log :=
    congrArg devices (log_cancelAttempt s.shut)
  unfold close
  dsimp only
  split
  · rfl
  · split
    · exact hcancelled
    · exact (Spares.reject _ _).log.trans hcancelled

/-- Another method is chosen. -/
theorem tended_select (h : s.Tended parted answered due ds) {m : Method}
    (hselect : s.select m = .ok s') : s'.Tended parted answered due ds := by
  have hturn {s' : Scene τ ν} (h' : s'.Tended parted answered due ds)
      (hidle : ∀ (i : Nat) a, s'.attempts[i]? = some a → a.isLive = false)
      (hgoes : ¬ parted) (stage : Stage) :
      Negotiation.Tended parted answered (due ++ s'.queue) ds
        { s'.toNegotiation with active := m, stage } :=
    h'.of_idle hidle rfl (fun hparted => absurd hparted hgoes)
      fun i sub hsub hin => h'.told i (.inr ⟨sub, hsub, hin⟩)
  obtain ⟨hopen, -, hcases⟩ := select_cases hselect
  have hgoes : ¬ parted := fun hparted => by simp [h.shut hparted] at hopen
  obtain ⟨-, rfl⟩ | ⟨-, -, rfl⟩ | ⟨-, hkey, rfl⟩ := hcases
  · exact h
  · exact hturn (tended_cancelAttempt h) (fun i a => idle_cancelAttempt h) hgoes _
  · refine hturn h (fun i a ha => ?_) hgoes _
    by_contra hlive
    exact hkey (h.live i a ha (by simpa using hlive)).2.1

theorem log_select {m : Method} (hselect : s.select m = .ok s') : s'.log = s.log := by
  obtain ⟨-, -, ⟨-, rfl⟩ | ⟨-, -, rfl⟩ | ⟨-, -, rfl⟩⟩ := select_cases hselect
  · rfl
  · exact log_cancelAttempt s
  · rfl

theorem spares_setInput {value : String} (hinput : s.setInput value = .ok s') : Spares s s' := by
  obtain ⟨hopen, -, rfl⟩ := setInput_cases hinput
  exact .of_same rfl rfl rfl rfl (fun _ => hopen) rfl rfl

/-- A proof of a method that takes text is accepted. No attempt is live then. -/
theorem tended_accept (h : s.Tended parted answered due ds) {p : Proof}
    (hp : p.method ≠ .webauthn) (caller : τ) :
    (s.accept p (.caller caller)).Tended parted answered due ds := by
  let submitting : Negotiation τ := { s.toNegotiation.shut with stage := .submitting }
  have hsubmitting : submitting.Tended parted answered (due ++ s.queue) ds :=
    { h with shut := fun _ => rfl }
  refine Negotiation.Tended.of_hushes ?_ ((hushes_accept s p _).append due)
  rw [toNegotiation_accept, Negotiation.accept, if_neg hp]
  refine hsubmitting.cancelKey.of_idle (fun i a => hsubmitting.idle_cancelKey) rfl (fun _ => ?_) ?_
  · exact congrArg Stage.isOpen (Alike.cancelKey submitting).stage
  · intro i sub hsub hin
    cases hsub
    simp at hin

/-- The active method is confirmed. -/
theorem tended_confirm (hs : Staged s.toNegotiation)
    (h : s.Tended parted answered due ds) {caller : τ} {waits : Bool}
    (hconfirm : s.confirm caller = .ok (waits, s')) :
    s'.Tended parted answered due ds := by
  obtain ⟨hopen, ⟨hkey, hidle, rfl⟩ | ⟨htext, ⟨-, rfl⟩ | ⟨-, rfl⟩⟩⟩ := confirm_cases hconfirm
  · have hbegun : Negotiation.Tended parted answered (due ++ s.queue) ds
        (s.begin [.caller caller]) := h.begin hs hopen hkey hidle (by simp)
    exact hbegun.of_hushes ((hushes_enqueue { s with
      attempts := s.attempts ++ [_], current := _ } (by simp)).append due)
  · have hkey : s.active ≠ .webauthn := fun hkey => by simp [hkey, Method.takesText] at htext
    let cleared : Scene τ ν := { s with inputError := none }
    have hs : Spares s cleared := .of_same rfl rfl rfl rfl id rfl rfl
    exact tended_accept (hs.tended h) hkey caller
  · have hs : Spares s { s with inputError := some s.active } :=
      .of_same rfl rfl rfl rfl id rfl rfl
    exact hs.tended h

theorem log_confirm {caller : τ} {waits : Bool} (hconfirm : s.confirm caller = .ok (waits, s')) :
    s'.log = s.log := by
  obtain ⟨-, ⟨-, -, rfl⟩ | ⟨-, ⟨-, rfl⟩ | ⟨-, rfl⟩⟩⟩ := confirm_cases hconfirm
  · rfl
  · exact log_accept _ _ _
  · rfl

/-- Guests who begin no attempt unasked leave no device behind. -/
theorem tended_visited (hv : s.Visited (· ≠ .start) s') (hs : Staged s.toNegotiation)
    (h : s.Tended parted answered due (ds ++ devices s.log)) :
    s'.Tended parted answered due (ds ++ devices s'.log) := by
  induction hv with
  | refl => exact h
  | trans hv _ ih ih' => exact ih' (hs.visited hv) (ih hs h)
  | @act s s' a ha hact =>
    cases a with
    | start => exact absurd rfl ha
    | select m =>
      rw [log_select hact]
      exact tended_select h hact
    | input value => exact (spares_setInput hact).tended_log h
    | close =>
      cases hact
      rw [log_close]
      exact (tended_close hs h).imp fun _ => trivial
  | confirm hconfirm =>
    rw [log_confirm hconfirm]
    exact tended_confirm hs h hconfirm
  | awaitClosed s caller => exact (Spares.awaitClosed s caller).tended_log h
  | awaitOutcome s caller => exact (Spares.awaitOutcome s caller).tended_log h
  | enqueue s t =>
    have hspares : Spares s (s.enqueue [.caller t]) := .of_callers [t] rfl rfl rfl rfl id rfl rfl
    exact hspares.tended_log h
  | noted s n =>
    have hspares : Spares s (s.note [.noted n]) := .note s rfl
    exact hspares.tended_log h

/-- A negotiation begins with an attempt if the security key may answer the challenge, and is the
active method then. -/
theorem tended_start (hs : Staged s.toNegotiation) (hopen : s.stage.isOpen = true)
    (hattempts : s.attempts = [])
    (hactive : s.available.contains .webauthn = true → s.active = .webauthn) (hgoes : ¬ parted)
    (hsilent : ∀ i, .attemptNotified i ∉ due ++ s.queue) :
    s.start.Tended parted answered due [] := by
  have hnew : s.Tended parted answered due [] :=
    .new hs hopen hattempts hsilent hgoes
  unfold start
  split
  · rename_i hkey
    have hidle : s.pending = false := by
      simp [pending, currentAttempt?, hattempts]
    have hbegun : Negotiation.Tended parted answered (due ++ s.queue) [] (s.begin []) :=
      hnew.begin hs hopen (hactive hkey) hidle (by simp)
    exact hbegun.of_hushes ((hushes_enqueue { s with
      attempts := s.attempts ++ [_], current := _ } (by simp)).append due)
  · exact hnew

end Scene

end SecondFactor.Negotiation
