import SecondFactor.Proofs.Negotiation.Contact
import SecondFactor.Proofs.Negotiation.Standing

/-! # Requests are seen through

In a scene each request stands as what happened around its device says. The turn of an attempt may
begin a request or leave one, guests may have attempts cancelled, and nothing else that happens
concerns requests. -/

namespace SecondFactor.Negotiation

variable {τ ν : Type}

namespace Scene

variable {said : Nat → Nat → Key.Behaviour → Prop} {p p' : Nat → Key.Standing}
  {due : List (Turn τ)} {ds es : List (Nat × Key.DeviceEvent)} {s s' : Scene τ ν} {i : Nat}
  {a : Attempt τ}

/-- Whether requests stand so in a scene, where more turns may be due. -/
abbrev Tracks (said : Nat → Nat → Key.Behaviour → Prop) (p : Nat → Key.Standing)
    (due : List (Turn τ)) (ds : List (Nat × Key.DeviceEvent)) (s : Scene τ ν) : Prop :=
  s.toNegotiation.Tracks said p (due ++ s.queue) ds

/-- Requests stand as before where attempts are left alone. -/
theorem Spares.tracks (hs : s.Spares s') (h : s.Tracks said p due ds) :
    s'.Tracks said p due ds where
  events := h.events
  engaged := fun i k c => by rw [engaged_congr hs.attempts, h.engaged]
  goes := hs.attempts ▸ h.goes
  told := by
    rw [hs.attempts]
    exact fun i hi => h.told i (hs.told hi)

theorem tracks_endAttempt (h : s.Tracks said p due ds) (ha : s.attempts[i]? = some a)
    (hf : Frees i p p' ds es) (how : Ending Unit) :
    (s.endAttempt i how).Tracks said p' due (ds ++ es) := by
  obtain ⟨answered, hbehaves⟩ := (h.goes i a ha).behaves
  let a' : Attempt τ := { a with task := .finished how }
  have hfreed : Negotiation.Tracks said p' (due ++ s.queue) (ds ++ es)
      { s.toNegotiation with attempts := s.attempts.set i a' } := by
    refine h.free ha hf rfl ⟨⟨answered, hbehaves.silent, trivial⟩, ?_⟩ rfl
    exact fun k next onLateCancel hphase => by cases hphase
  rw [Tracks, toNegotiation_endAttempt, setTask_eq ha]
  exact hfreed.of_hushes ((hushes_endAttempt ha hbehaves.silent how).append due)

/-- An attempt that leaves its device ends, or has its proof submitted. -/
theorem tracks_conclude (h : s.Tracks said p due ds) (ha : s.attempts[i]? = some a)
    (hf : Frees i p p' ds es) (r : Key.Reply) : (s.conclude i r).Tracks said p' due (ds ++ es) := by
  cases r with
  | refused r =>
    have hs := Spares.keyFailed s r
    exact tracks_endAttempt (hs.tracks h) ((congrArg (·[i]?) hs.attempts).trans ha) hf _
  | crashed f => exact tracks_endAttempt h ha hf _
  | assertion assertion =>
    unfold conclude
    dsimp only
    split
    · let a' : Attempt τ := { a with task := .waitingFor .submission }
      obtain ⟨answered, hbehaves⟩ := (h.goes i a ha).behaves
      have hfreed : Negotiation.Tracks said p' (due ++ s.queue) (ds ++ es)
          { s.toNegotiation with attempts := s.attempts.set i a' } := by
        refine h.free ha hf rfl ⟨⟨answered, hbehaves.silent, trivial⟩, ?_⟩ rfl
        exact fun k next onLateCancel hphase => by cases hphase
      refine Negotiation.Tracks.of_hushes ?_
        (((hushes_accept s _ _).trans (hushes_updateAttempt _ i _)).append due)
      rw [toNegotiation_submitting ha]
      refine hfreed.of_attempts rfl fun j sub hsub hin => ?_
      cases hsub
      have hne : Turn.attemptNotified j ≠ (.submissionEnded : Turn τ) := fun heq => by cases heq
      cases List.mem_singleton.mp (List.mem_of_ne_of_mem hne hin)
      exact ⟨a', List.getElem?_set_self (List.getElem?_eq_some_iff.mp ha).1, rfl⟩
    · exact tracks_endAttempt h ha hf _

/-! ### The turn of an attempt -/

theorem Leaves.tracks {x : Key.Exit} (hl : s.Leaves i x s') (h : s.Tracks said p due ds)
    (ha : s.attempts[i]? = some a) (hf : Frees i p p' ds es) :
    s'.Tracks said p' due (ds ++ es) := by
  cases hl with
  | ends => exact tracks_conclude h ha hf _
  | stops => exact tracks_endAttempt h ha hf .cancelled

theorem tracks_exit (h : s.Tracks said p due (devices s.log)) {k : Nat} {x : Key.Exit}
    (hx : s.Exits i k x) :
    (s.runAttempt i).Tracks said (Function.update p k (.left x)) due
      (devices (s.runAttempt i).log) := by
  obtain ⟨events, hevents, hleaves⟩ := leaves_runAttempt hx fun a ha => (h.goes i a ha).behaves
  obtain ⟨c, hengaged, -⟩ := hx.engaged
  obtain ⟨a, ha, -⟩ := exists_of_engaged hengaged
  rw [hleaves.log, note, devices_append, hevents]
  exact hleaves.tracks (s := s.note events) h ha (h.frees_exit hx)

theorem lt_asked_of_engages (hadapter : s.adapter = some fun _ => .device) {k : Nat}
    (he : s.Engages i k) : k < (s.runAttempt i).asked.length := by
  obtain ⟨options, hrun⟩ := runAttempt_of_engages hadapter he
  rw [hrun, toOutside_proceed, he.number]
  simp [note]

/-- An attempt begins to wait for its device. -/
theorem tracks_engage (hadapter : s.adapter = some fun _ => .device)
    (h : s.Tracks said p due (devices s.log)) {k : Nat} (he : s.Engages i k)
    (hfresh : p k = .unasked) :
    (s.runAttempt i).Tracks said (Function.update p k (.waiting i false)) due
      (devices (s.runAttempt i).log) := by
  obtain ⟨options, hrun⟩ := runAttempt_of_engages hadapter he
  obtain ⟨a, ha, hfirst⟩ := he.first
  let asking : Scene τ ν := note { s with asked := s.asked ++ [options] } [.keyRequested k]
  let a' : Attempt τ := { a with task := .waitingFor (.reply k .abandoned .abandoned) }
  have hready := Task.phase_of_first hfirst
  have hnone : s.engaged? i = none := engaged_of_none ha (by rw [Attempt.device?, hready])
  have hlog : devices (asking.proceed i k .device).log =
      devices s.log ++ [.shown, .asked].map (k, ·) := by
    rw [log_proceed]
    exact congrArg (· ++ _) (Spares.note _ rfl).log
  have hwaits : (asking.proceed i k .device).toNegotiation =
      { s.toNegotiation with attempts := s.attempts.set i a' } :=
    (toNegotiation_updateAttempt _ i _).trans (setTask_eq (n := s.toNegotiation) ha _)
  have hasked : Negotiation.Tracks said (Function.update p k (.waiting i false)) (due ++ s.queue)
      (devices s.log ++ [.shown, .asked].map (k, ·))
      { s.toNegotiation with attempts := s.attempts.set i a' } := by
    obtain ⟨answered, hbehaves⟩ := (h.goes i a ha).behaves
    refine h.wait ha (fun k' c heq => ?_) (fun j c _ heq => ?_) ?_ rfl ?_ ?_
    · cases hnone.symm.trans heq
    · cases hfresh.symm.trans heq
    · rw [hfresh]
      rfl
    · exact ⟨⟨answered, hbehaves.silent, rfl, rfl⟩, fun k next _ hphase => by cases hphase⟩
    · exact fun _ => by simp [Attempt.isUnanswered, hready]
  rw [hrun, Tracks, hlog, hwaits]
  exact hasked.of_hushes ((hushes_updateAttempt _ i _).append due)

/-- In any other turn of an attempt nothing happens to requests. -/
theorem tracks_rest (hadapter : s.adapter = some fun _ => .device)
    (h : s.Tracks said p due (devices s.log)) (hengages : ∀ k, ¬ s.Engages i k)
    (hexits : ∀ k x, ¬ s.Exits i k x) :
    (s.runAttempt i).Tracks said p due (devices (s.runAttempt i).log) := by
  have hturned := turned_runAttempt hadapter fun a ha => (h.goes i a ha).behaves
  generalize s.runAttempt i = s' at hturned
  cases hturned with
  | idle => exact h
  | begins he => exact absurd he (hengages _)
  | refuses ha hfirst =>
    have hready := Task.phase_of_first hfirst
    rw [log_conclude, ← List.append_nil (devices s.log)]
    refine tracks_conclude h ha (h.frees_none (engaged_of_none ha ?_)) _
    rw [Attempt.device?, hready]
  | leaves hx => exact absurd hx (hexits _ _)
  | ends ha hnone how =>
    rw [log_endAttempt, ← List.append_nil (devices s.log)]
    exact tracks_endAttempt h ha (h.frees_none (engaged_of_none ha hnone)) how

/-! ### What may happen -/

/-- Whether requests stand as they have to after those had their turns of whom this says so. Whoever
begins a request is in the middle of it then, and whoever leaves one has left it. Nothing else can
happen to a request but that its attempt is cancelled. -/
structure Marks (s : Scene τ ν) (turn : Nat → Prop) (p p' : Nat → Key.Standing) : Prop where
  engages : ∀ i k, turn i → s.Engages i k → p' k = .waiting i false
  exits : ∀ i k x, turn i → s.Exits i k x → p' k = .left x
  stays : ∀ k, p' k = p k ∨ (∃ i, p k = .waiting i false ∧ p' k = .waiting i true) ∨
    ∃ i, turn i ∧ (s.Engages i k ∨ ∃ x, s.Exits i k x ∧ p' k = .left x)

theorem Marks.of_cancels (hp : Cancels p p') {turn : Nat → Prop} (hturn : ∀ i, ¬ turn i) :
    s.Marks turn p p' :=
  ⟨fun i _ hi => absurd hi (hturn i), fun i _ _ hi => absurd hi (hturn i),
    fun k => (hp k).imp_right .inl⟩

theorem tracks_runAttempt (hadapter : s.adapter = some fun _ => .device)
    (h : s.Tracks said p due (devices s.log)) (hfresh : p s.asked.length = .unasked) (i : Nat) :
    ∃ p', s.Marks (· = i) p p' ∧
      (s.runAttempt i).Tracks said p' due (devices (s.runAttempt i).log) := by
  have hidle {k : Nat} (he : s.Engages i k) : s.engaged? i = none := by
    obtain ⟨a, ha, hfirst⟩ := he.first
    exact engaged_of_none ha (by rw [Attempt.device?, Task.phase_of_first hfirst])
  by_cases hengages : ∃ k, s.Engages i k
  · obtain ⟨k, he⟩ := hengages
    have hk : k = s.asked.length := he.number
    refine ⟨Function.update p k (.waiting i false), ⟨?_, ?_, fun k' => ?_⟩,
      tracks_engage hadapter h he (hk ▸ hfresh)⟩
    · rintro j k' rfl he'
      rw [he'.number, ← hk, Function.update_self]
    · rintro j k' x rfl hx
      obtain ⟨c, hengaged, -⟩ := hx.engaged
      cases (hidle he).symm.trans hengaged
    · by_cases hkk : k' = k
      · exact .inr (.inr ⟨i, rfl, .inl (hkk ▸ he)⟩)
      · exact .inl (Function.update_of_ne hkk _ _)
  · by_cases hexits : ∃ k x, s.Exits i k x
    · obtain ⟨k, x, hx⟩ := hexits
      refine ⟨Function.update p k (.left x), ⟨?_, ?_, fun k' => ?_⟩, tracks_exit h hx⟩
      · rintro j k' rfl he'
        exact absurd ⟨k', he'⟩ hengages
      · rintro j k' x' rfl hx'
        obtain ⟨rfl, rfl⟩ := hx.unique hx'
        exact Function.update_self _ _ _
      · by_cases hkk : k' = k
        · subst hkk
          exact .inr (.inr ⟨i, rfl, .inr ⟨x, hx, Function.update_self _ _ _⟩⟩)
        · exact .inl (Function.update_of_ne hkk _ _)
    · refine ⟨p, ⟨?_, ?_, fun k => .inl rfl⟩, tracks_rest hadapter h ?_ ?_⟩
      · rintro j k rfl he
        exact absurd ⟨k, he⟩ hengages
      · rintro j k x rfl hx
        exact absurd ⟨k, x, hx⟩ hexits
      · exact fun k he => hengages ⟨k, he⟩
      · exact fun k x hx => hexits ⟨k, x, hx⟩

/-! ### Attempts are told something -/

theorem tracks_updateAttempt (h : s.Tracks said p due ds) (ha : s.attempts[i]? = some a)
    {f : Task Attempt.Wait Unit → Task Attempt.Wait Unit}
    (hengaged : ({ a with task := f a.task } : Attempt τ).engaged? = a.engaged?)
    (hgoes : ({ a with task := f a.task } : Attempt τ).Goes (said i))
    (hunanswered : ({ a with task := f a.task } : Attempt τ).isUnanswered = a.isUnanswered) :
    (s.updateAttempt i f).Tracks said p due ds := by
  rw [Tracks, toNegotiation_updateAttempt, setTask_eq ha]
  exact (h.retask ha hengaged hgoes fun hu => hunanswered ▸ hu).of_hushes
    ((hushes_updateAttempt s i f).append due)

theorem tracks_updateAttempt_self (h : s.Tracks said p due ds)
    {f : Task Attempt.Wait Unit → Task Attempt.Wait Unit}
    (hf : ∀ a, s.attempts[i]? = some a → f a.task = a.task) :
    (s.updateAttempt i f).Tracks said p due ds := by
  rw [updateAttempt_eq_self hf]
  exact h

/-- An attempt whose proof is submitted hears of the end of the submission. -/
theorem tracks_wake (h : s.Tracks said p due ds) (ha : s.attempts[i]? = some a)
    (hanswered : a.isUnanswered = false) :
    (s.updateAttempt i (Task.wake .submission)).Tracks said p due ds := by
  obtain ⟨answered, hbehaves⟩ := (h.goes i a ha).behaves
  obtain hsame | ⟨hphase, hwoken⟩ := hbehaves.wake_submission hanswered
  · refine tracks_updateAttempt_self h fun b hb => ?_
    cases ha.symm.trans hb
    exact hsame
  · refine tracks_updateAttempt h ha ?_ ?_ ?_ <;> rw [hwoken]
    · rw [Attempt.engaged?, Attempt.engaged?, Attempt.device?, Attempt.device?, hphase]
      rfl
    · exact ⟨⟨answered, hbehaves.silent, trivial⟩, fun k next _ hphase => by cases hphase⟩
    · rw [hanswered]
      rfl

/-- A device answers. -/
theorem tracks_replyTo (h : s.Tracks said p due ds) (i : Nat) {o : Key.PlatformOutcome}
    {next : Key.Behaviour} (ho : Key.Behaviour.answered? o = some next)
    (hsaid : ∀ k, s.engaged? i = some (k, false) → said i k next) :
    (s.replyTo i next).Tracks said p due ds := by
  obtain heq | ⟨a, k, onCancel, onLateCancel, ha, hwaits, heq⟩ := s.replyTo_cases i next <;> rw [heq]
  · exact h
  · have hphase := Task.phase_of_awaits hwaits
    have hcancelling := Task.cancelling_of_awaits hwaits
    have hdevice : a.device? = some k := by rw [Attempt.device?, hphase]
    have hengaged := engaged_of_device ha hdevice
    rw [hcancelling] at hengaged
    obtain ⟨answered, hsilent, hstands⟩ := (h.goes i a ha).behaves
    rw [hphase] at hstands
    obtain ⟨-, rfl⟩ := hstands
    refine tracks_updateAttempt h ha ?_ ?_ ?_ <;> rw [Task.wake_of_awaits hwaits]
    · rw [Attempt.engaged?, Attempt.engaged?, hdevice, hcancelling]
      rfl
    · refine ⟨⟨[k], hsilent, List.mem_singleton_self k, ⟨o, ho⟩, rfl⟩, ?_⟩
      intro k' next _ hphase
      cases hphase
      exact hsaid k hengaged
    · rw [Attempt.isUnanswered, Attempt.isUnanswered, hphase]

/-- What a turn does to requests. -/
theorem tracks_run (hadapter : s.adapter = some fun _ => .device) (t : Turn τ)
    (h : s.Tracks said p (t :: due) (devices s.log)) (hfresh : p s.asked.length = .unasked) :
    ∃ p', s.Marks (t = .attempt ·) p p' ∧ (s.run t).Tracks said p' due (devices (s.run t).log) := by
  have hrest : s.Tracks said p due (devices s.log) := h.of_hushes fun _ => List.mem_cons_of_mem t
  have hstays (hturn : ∀ i, t ≠ .attempt i)
      (hrun : (s.run t).Tracks said p due (devices (s.run t).log)) :
      ∃ p', s.Marks (t = .attempt ·) p p' ∧
        (s.run t).Tracks said p' due (devices (s.run t).log) :=
    ⟨p, .of_cancels (.refl p) hturn, hrun⟩
  have hspares {s' : Scene τ ν} (hs : Spares s s') : s'.Tracks said p due (devices s'.log) := by
    rw [hs.log]
    exact hs.tracks hrest
  cases t with
  | attempt i =>
    obtain ⟨p', hmarks, hrun⟩ := tracks_runAttempt hadapter hrest hfresh i
    refine ⟨p', ⟨fun j k hj => ?_, fun j k x hj => ?_, fun k => ?_⟩, hrun⟩
    · cases hj
      exact hmarks.engages i k rfl
    · cases hj
      exact hmarks.exits i k x rfl
    · refine (hmarks.stays k).imp_right (Or.imp_right fun hturn => ?_)
      obtain ⟨j, rfl, hhappens⟩ := hturn
      exact ⟨j, rfl, hhappens⟩
  | attemptEnded i => exact hstays (fun _ heq => by cases heq) (hspares (.ended s _))
  | attemptNotified i =>
    obtain ⟨a, ha, hanswered⟩ := h.told i (.inl List.mem_cons_self)
    refine hstays (fun _ heq => by cases heq) ?_
    unfold run
    rw [log_updateAttempt]
    exact tracks_wake hrest ha hanswered
  | submission => exact hstays (fun _ heq => by cases heq) (hspares (.runSubmission s))
  | submissionEnded => exact hstays (fun _ heq => by cases heq) (hspares (.ended s _))
  | caller t => exact hstays (fun _ heq => by cases heq) (hspares (.refl s))

/-! ### Guests -/

theorem tracks_cancel (h : s.Tracks said p due ds) (i : Nat) :
    ∃ p', Cancels p p' ∧ (s.updateAttempt i Task.cancel).Tracks said p' due ds := by
  obtain ⟨p', hp, hcancelled⟩ := h.cancel i
  refine ⟨p', hp, ?_⟩
  rw [Tracks, toNegotiation_updateAttempt]
  exact hcancelled.of_hushes ((hushes_updateAttempt s i _).append due)

theorem tracks_cancelAttempt (h : s.Tracks said p due ds) :
    ∃ p', Cancels p p' ∧ s.cancelAttempt.Tracks said p' due ds := by
  unfold cancelAttempt
  split
  · exact ⟨p, .refl p, h⟩
  · exact tracks_cancel h _

theorem tracks_begin (h : s.Tracks said p due ds) {whenEnded : List (Turn τ)}
    (hsilent : ∀ i, .attemptNotified i ∉ whenEnded) :
    (s.beginAttempt whenEnded).Tracks said p due ds := by
  have hbegun : Negotiation.Tracks said p (due ++ s.queue) ds (s.begin whenEnded) :=
    h.begin hsilent
  exact hbegun.of_hushes ((hushes_enqueue { s with
    attempts := s.attempts ++ [_], current := _ } (by simp)).append due)

theorem tracks_close (h : s.Tracks said p due ds) :
    ∃ p', Cancels p p' ∧ s.close.Tracks said p' due ds := by
  have hshut : s.shut.Tracks said p due ds := (Spares.shut s).tracks h
  obtain ⟨p', hp, hcancelled⟩ := tracks_cancelAttempt hshut
  unfold close
  dsimp only
  split
  · exact ⟨p, .refl p, hshut⟩
  · split
    · exact ⟨p', hp, hcancelled⟩
    · exact ⟨p', hp, (Spares.reject _ _).tracks hcancelled⟩

theorem tracks_select (h : s.Tracks said p due ds) {m : Method} (hselect : s.select m = .ok s') :
    ∃ p', Cancels p p' ∧ s'.Tracks said p' due ds := by
  obtain ⟨-, -, ⟨-, rfl⟩ | ⟨-, -, rfl⟩ | ⟨-, -, rfl⟩⟩ := select_cases hselect
  · exact ⟨p, .refl p, h⟩
  · obtain ⟨p', hp, hcancelled⟩ := tracks_cancelAttempt h
    refine ⟨p', hp, hcancelled.of_attempts rfl fun i sub hsub hin => ?_⟩
    exact hcancelled.told i (.inr ⟨sub, hsub, hin⟩)
  · exact ⟨p, .refl p, h.of_attempts rfl fun i sub hsub hin => h.told i (.inr ⟨sub, hsub, hin⟩)⟩

/-- A proof of a method that takes text is accepted. -/
theorem tracks_accept (h : s.Tracks said p due ds) {proof : Proof}
    (hproof : proof.method ≠ .webauthn) (caller : τ) :
    ∃ p', Cancels p p' ∧ (s.accept proof (.caller caller)).Tracks said p' due ds := by
  let submitting : Negotiation τ := { s.toNegotiation.shut with stage := .submitting }
  have hsubmitting : submitting.Tracks said p (due ++ s.queue) ds := { h with }
  obtain ⟨p', hp, hcancelled⟩ := hsubmitting.cancelKey
  refine ⟨p', hp, Negotiation.Tracks.of_hushes ?_ ((hushes_accept s proof _).append due)⟩
  rw [toNegotiation_accept, Negotiation.accept, if_neg hproof]
  refine hcancelled.of_attempts rfl fun i sub hsub hin => ?_
  cases hsub
  simp at hin

theorem tracks_confirm (h : s.Tracks said p due ds) {caller : τ} {waits : Bool}
    (hconfirm : s.confirm caller = .ok (waits, s')) :
    ∃ p', Cancels p p' ∧ s'.Tracks said p' due ds := by
  obtain ⟨-, ⟨-, -, rfl⟩ | ⟨htext, ⟨-, rfl⟩ | ⟨-, rfl⟩⟩⟩ := confirm_cases hconfirm
  · exact ⟨p, .refl p, tracks_begin h (by simp)⟩
  · have hkey : s.active ≠ .webauthn := fun hkey => by simp [hkey, Method.takesText] at htext
    let cleared : Scene τ ν := { s with inputError := none }
    have hs : Spares s cleared := .of_same rfl rfl rfl rfl id rfl rfl
    exact tracks_accept (hs.tracks h) hkey caller
  · have hs : Spares s { s with inputError := some s.active } :=
      .of_same rfl rfl rfl rfl id rfl rfl
    exact ⟨p, .refl p, hs.tracks h⟩

/-- Guests may have attempts cancelled, and do no more to requests. -/
theorem tracks_visited (hv : s.Visited (fun _ => True) s')
    (h : s.Tracks said p due (devices s.log)) :
    ∃ p', Cancels p p' ∧ s'.Tracks said p' due (devices s'.log) := by
  have hspares {s s' : Scene τ ν} {p : Nat → Key.Standing} (hs : Spares s s')
      (h : s.Tracks said p due (devices s.log)) :
      ∃ p', Cancels p p' ∧ s'.Tracks said p' due (devices s'.log) := by
    rw [hs.log]
    exact ⟨p, .refl p, hs.tracks h⟩
  induction hv generalizing p with
  | refl => exact ⟨p, .refl p, h⟩
  | trans _ _ ih ih' =>
    obtain ⟨p', hp, h⟩ := ih h
    obtain ⟨p'', hp', h⟩ := ih' h
    exact ⟨p'', hp.trans hp', h⟩
  | @act s s' a _ hact =>
    cases a with
    | start =>
      cases hact
      unfold start
      split
      · exact ⟨p, .refl p, tracks_begin h (by simp)⟩
      · exact ⟨p, .refl p, h⟩
    | select m =>
      rw [log_select hact]
      exact tracks_select h hact
    | input value => exact hspares (spares_setInput hact) h
    | close =>
      cases hact
      rw [log_close]
      exact tracks_close h
  | confirm hconfirm =>
    rw [log_confirm hconfirm]
    exact tracks_confirm h hconfirm
  | awaitClosed s caller => exact hspares (.awaitClosed s caller) h
  | awaitOutcome s caller => exact hspares (.awaitOutcome s caller) h
  | enqueue s t =>
    have hs : Spares s (s.enqueue [.caller t]) := .of_callers [t] rfl rfl rfl rfl id rfl rfl
    exact hspares hs h
  | noted s n =>
    have hs : Spares s (s.note [.noted n]) := .note s rfl
    exact hspares hs h

end Scene

end SecondFactor.Negotiation
