import SecondFactor.Proofs.Negotiation.Attempts
import SecondFactor.Proofs.Negotiation.Closing
import SecondFactor.Proofs.Negotiation.Contact

/-! # Attempts in flight

A negotiation remembers the attempt that was begun last and can cancel no other. To confirm the
security key is refused while that attempt is in flight, but to start is not, nor is it once the
dialog is closed. -/

namespace SecondFactor.Negotiation

variable {τ ν : Type}

/-- Whether no attempt is in flight. -/
def Idle (n : Negotiation τ) : Prop :=
  ∀ (i : Nat) a, n.attempts[i]? = some a → a.task.isOver = true

/-- Whether no attempt is in flight but the one that can be cancelled. -/
def Single (n : Negotiation τ) : Prop :=
  ∀ (i : Nat) a, n.attempts[i]? = some a → a.task.isOver = false → n.current = some i

/-- Whether every attempt that is in flight was told to stop. -/
def Recalled (n : Negotiation τ) : Prop :=
  ∀ (i : Nat) a, n.attempts[i]? = some a → a.task.isOver = false → a.task.cancelling = true

/-- Whether an attempt is going to ask the security key. -/
def Poised (n : Negotiation τ) : Prop :=
  ∃ (i : Nat) (a : Attempt τ), n.attempts[i]? = some a ∧ a.task.start = .first

/-! ## Parts of changes -/

section

variable {n n' : Negotiation τ} {es : List Happening}

@[simp] theorem reject_attempts (n : Negotiation τ) (f : Failure) :
    (n.reject f).attempts = n.attempts := by
  unfold reject
  split <;> rfl

@[simp] theorem resolve_attempts (n : Negotiation τ) (t : Ticket) :
    (n.resolve t).attempts = n.attempts := by
  unfold resolve
  split <;> rfl

@[simp] theorem keyFailed_attempts (n : Negotiation τ) (r : Key.Refusal) :
    (n.keyFailed r).attempts = n.attempts := by
  unfold keyFailed
  dsimp only
  split
  · rfl
  · exact reject_attempts _ _

@[simp] theorem notice_attempts (n : Negotiation τ) (f : Failure) :
    (n.notice f).attempts = n.attempts := by
  unfold notice
  split
  · rfl
  · exact reject_attempts _ _

@[simp] theorem settle_attempts (n : Negotiation τ) (result : Except Failure Ticket) :
    (n.settle result).attempts = n.attempts := by
  cases result with
  | ok t => exact resolve_attempts n t
  | error f =>
    by_cases hf : f.loginError?.isSome = true
    · simp only [settle, if_pos hf]
      exact reject_attempts n f
    · simp only [settle, if_neg hf]
      rfl

theorem not_poised_of_attempts (h : ¬ n.Poised) (hattempts : n'.attempts = n.attempts) :
    ¬ n'.Poised := by
  rintro ⟨i, a, ha, hfirst⟩
  exact h ⟨i, a, hattempts ▸ ha, hfirst⟩

/-- A task does not begin again. -/
theorem not_poised_setTask (h : ¬ n.Poised) (i : Nat)
    {f : Task Attempt.Wait Unit → Task Attempt.Wait Unit}
    (hf : ∀ t : Task Attempt.Wait Unit, t.start ≠ .first → (f t).start ≠ .first) :
    ¬ (n.setTask i f).Poised := by
  rintro ⟨j, a', ha', hfirst⟩
  rw [setTask, List.getElem?_modify] at ha'
  obtain ⟨a, ha, rfl⟩ := Option.map_eq_some_iff.mp ha'
  have hbegun : a.task.start ≠ .first := fun hstart => h ⟨j, a, ha, hstart⟩
  by_cases hij : i = j
  · rw [if_pos hij] at hfirst
    exact hf a.task hbegun hfirst
  · rw [if_neg hij] at hfirst
    exact hbegun hfirst

theorem Recalled.not_poised (h : n.Recalled) : ¬ n.Poised := by
  rintro ⟨i, a, ha, hfirst⟩
  have hcancelling := h i a ha (Task.isOver_of_start (by simp [hfirst]))
  rw [Task.cancelling_of_going (.inl hfirst)] at hcancelling
  cases hcancelling

namespace Single

theorem keeps (h : n.Single) (hk : Keeps n n') : n'.Single := by
  intro i a' ha' hlive
  obtain ⟨a, ha, hcalms⟩ := hk.attempts i a' ha'
  rw [hk.current]
  exact h i a ha (hcalms.ended hlive)

/-- Where nothing is in flight, an attempt may begin. -/
theorem begin (h : n.Idle) (whenEnded : List (Turn τ)) : (n.begin whenEnded).Single := by
  intro i a ha hlive
  by_cases hi : i < n.attempts.length
  · have hold : n.attempts[i]? = some a := (List.getElem?_append_left hi).symm.trans ha
    rw [h i a hold] at hlive
    cases hlive
  · have hlen : i < (n.begin whenEnded).begun := (List.getElem?_eq_some_iff.mp ha).1
    rw [begun_begin, begun] at hlen
    have hlast : i = n.attempts.length := by omega
    rw [hlast]
    rfl

/-- An attempt that begins is the one that can be cancelled, so that none may be in flight. -/
theorem idle_of_begin {whenEnded : List (Turn τ)} (h : (n.begin whenEnded).Single) : n.Idle := by
  intro i a ha
  by_contra hlive
  have hi : i < n.attempts.length := (List.getElem?_eq_some_iff.mp ha).1
  have hcurrent : some n.attempts.length = some i :=
    h i a ((List.getElem?_append_left hi).trans ha) (by simpa using hlive)
  cases hcurrent
  exact Nat.lt_irrefl _ hi

theorem idle_of_not_pending (h : n.Single) (hidle : n.pending = false) : n.Idle := by
  intro i a ha
  by_contra hlive
  have hcurrent := h i a ha (by simpa using hlive)
  simp only [pending, currentAttempt?, hcurrent, Option.bind_some, ha, Option.any_some,
    Bool.not_eq_false'] at hidle
  exact hlive hidle

/-- To cancel the attempt that was begun last recalls all that are in flight. -/
theorem recalled_cancelKey (h : n.Single) : n.cancelKey.Recalled := by
  intro i a' ha' hlive
  have hcurrent : n.current = some i := by
    rw [← (Keeps.cancelKey n).current]
    exact h.keeps (.cancelKey n) i a' ha' hlive
  simp only [cancelKey, hcurrent, setTask, List.getElem?_modify] at ha'
  obtain ⟨a, ha, rfl⟩ := Option.map_eq_some_iff.mp ha'
  rcases a.task.over_or_cancelling_cancel with hover | hcancelling
  · exact absurd (hover.symm.trans hlive) (by simp)
  · simpa using hcancelling

/-- While one attempt goes on, no other is going to ask. -/
theorem not_poised_of_live (h : n.Single) {i : Nat} {a : Attempt τ}
    (ha : n.attempts[i]? = some a) (hlive : a.task.isOver = false)
    {f : Task Attempt.Wait Unit → Task Attempt.Wait Unit} (hf : (f a.task).start ≠ .first) :
    ¬ (n.setTask i f).Poised := by
  rintro ⟨j, b', hb', hfirst⟩
  rw [setTask, List.getElem?_modify] at hb'
  obtain ⟨b, hb, rfl⟩ := Option.map_eq_some_iff.mp hb'
  by_cases hij : i = j
  · subst hij
    rw [ha] at hb
    cases hb
    rw [if_pos rfl] at hfirst
    exact hf hfirst
  · rw [if_neg hij] at hfirst
    have hlive' : b.task.isOver = false := Task.isOver_of_start (by simp [hfirst])
    have hcurrent := (h i a ha hlive).symm.trans (h j b hb hlive')
    exact hij (Option.some.inj hcurrent)

end Single

/-- A change begins an attempt, or leaves none in flight that was not so before. -/
theorem Change.single (hc : Change n es n') (h : n.Single) :
    n'.Single ∨ ∃ whenEnded, n' = n.begin whenEnded := by
  cases hc.effect with
  | keeps hk => exact .inl (h.keeps hk)
  | begins whenEnded => exact .inr ⟨whenEnded, rfl⟩
  | selects hk => exact .inl fun i => h.keeps hk i
  | tells => exact .inl h
  | accepts hk => exact .inl fun i => h.keeps hk i
  | submits hk => exact .inl fun i => h.keeps hk i

/-- Once the dialog is closed no attempt is going to ask, unless one begins or another is seen to
have failed. -/
theorem Change.not_poised (hc : Change n es n') (hs : Staged n) (hone : n.Single)
    (hbegun : n'.begun = n.begun) (hcrash : ∀ i f, es = [.crashed (some i) f] → ¬ n.Poised)
    (hquiet : n.closed = true → ¬ n.Poised) (hclosed : n'.closed = true) : ¬ n'.Poised := by
  have hsubmitted {sub : Submission τ} (hsub : n.submission = some sub) : ¬ n.Poised :=
    hquiet (hs.closed_of_accepted (hsub ▸ rfl))
  have hgrows {whenEnded : List (Turn τ)} (h : (n.begin whenEnded).begun = n.begun) : False := by
    rw [begun_begin] at h
    exact Nat.succ_ne_self _ h
  cases hc with
  | idle | waits | mistypes => exact hquiet hclosed
  | told => exact hquiet hclosed
  | starts =>
    split at hbegun
    · exact (hgrows hbegun).elim
    · rename_i hkey
      rw [if_neg hkey] at hclosed ⊢
      exact hquiet hclosed
  | retries => exact (hgrows hbegun).elim
  | selects m hopen =>
    have hwanting := (hs.wanting_of_isOpen hopen).2.2
    have hkept : (if n.active = .webauthn then n.cancelKey else n).closed = n.closed := by
      split
      · exact (Alike.cancelKey n).closed
      · rfl
    rw [hkept.trans hwanting] at hclosed
    cases hclosed
  | closes =>
    have hrecalled : n.shut.cancelKey.Recalled := Single.recalled_cancelKey (n := n.shut) hone
    split
    · rename_i hsub
      exact hquiet (hs.closed_of_accepted hsub)
    · split
      · exact hrecalled.not_poised
      · exact not_poised_of_attempts hrecalled.not_poised (reject_attempts _ _)
  | confirms caller hopen htext =>
    have hmethod : n.active ≠ .webauthn := by
      intro hkey
      rw [hkey] at htext
      cases htext
    have hrecalled :
        (cancelKey { shut { n with inputError := none } with stage := .submitting }).Recalled :=
      Single.recalled_cancelKey hone
    refine not_poised_of_attempts hrecalled.not_poised ?_
    simp only [accept, if_neg hmethod]
  | asks i a request onCancel onLateCancel ha hu =>
    exact hone.not_poised_of_live ha (Attempt.isOver_of_isUnanswered hu) (by simp)
  | refused i a r ha hu =>
    refine not_poised_of_attempts (n := n.setTask i fun _ => .finished (.returned ())) ?_ ?_
    · exact hone.not_poised_of_live ha (Attempt.isOver_of_isUnanswered hu) (by simp)
    · simp only [setTask, keyFailed_attempts]
  | keyCrashed i a f ha hu | assertsLate i a f ha hu =>
    exact hone.not_poised_of_live ha (Attempt.isOver_of_isUnanswered hu) (by simp)
  | asserts i a assertion ha hu hopen =>
    refine not_poised_of_attempts (n := n.setTask i fun _ => .waitingFor .submission) ?_ ?_
    · exact hone.not_poised_of_live ha (Attempt.isOver_of_isUnanswered hu) (by simp)
    · rfl
  | stops i => exact not_poised_setTask (hquiet hclosed) i (by simp)
  | wakes i news =>
    exact not_poised_setTask (hquiet hclosed) i fun t => t.start_wake_ne_first news
  | notices i f hf =>
    refine not_poised_of_attempts ?_ (notice_attempts n f)
    cases i with
    | some i => exact hcrash i f rfl
    | none =>
      obtain ⟨sub, hsub, -⟩ := Option.bind_eq_some_iff.mp hf
      exact hsubmitted hsub
  | sends _ _ _ hsub | responds _ _ _ _ hsub => exact hsubmitted hsub
  | exchanges _ _ _ _ _ hsub | balks _ _ hsub | receives _ _ _ _ hsub =>
    exact not_poised_of_attempts (hsubmitted hsub) (settle_attempts n _)

end

/-! ## Along a run -/

namespace Scene

variable (script : Nat → Http.Outcome)

/-- Whether the negotiation is started only while a proof is wanted and no attempt is in flight. -/
def StartsIdle (s : Scene τ ν) (ms : List (Move τ ν)) : Prop :=
  ∀ k, ms[k]? = some (.act .start) →
    (s.after script ms k).available.contains .webauthn = true →
    (s.after script ms k).stage.isOpen = true ∧ (s.after script ms k).Idle

/-- Whether no attempt is going to ask the security key when another is seen to have failed. -/
def FailsApart (s : Scene τ ν) (ms : List (Move τ ν)) : Prop :=
  ∀ k i f, ms[k]? = some (.turn (.attemptEnded i)) →
    (s.after script ms k).attempts[i]?.bind (·.task.ending?) = some (.failed f) →
    ¬ (s.after script ms k).Poised

theorem recalled_close {s : Scene τ ν} (h : s.Single) (hsub : s.submission = none) :
    s.close.Recalled := by
  have hrecalled : s.toNegotiation.shut.cancelKey.Recalled :=
    Single.recalled_cancelKey (n := s.toNegotiation.shut) h
  rw [toNegotiation_close, hsub, Option.isSome_none, if_neg Bool.false_ne_true]
  split
  · exact hrecalled
  · intro i a ha
    rw [reject_attempts] at ha
    exact hrecalled i a ha

theorem recalled_select {s s' : Scene τ ν} (h : s.Single) (hkey : s.active = .webauthn)
    {m : Method} (hm : m ≠ .webauthn) (hselect : s.select m = .ok s') : s'.Recalled := by
  have hrecalled : s.cancelAttempt.Recalled := by
    rw [toNegotiation_cancelAttempt]
    exact h.recalled_cancelKey
  obtain ⟨-, -, ⟨hsame, -⟩ | ⟨-, -, rfl⟩ | ⟨-, hother, -⟩⟩ := select_cases hselect
  · exact absurd (hsame.trans hkey) hm
  · exact hrecalled
  · exact absurd hkey hother

variable {s : Scene τ ν} {ms : List (Move τ ν)}

theorem single_move (h : s.Single) {m : Move τ ν}
    (hstart : m = .act .start → s.available.contains .webauthn = true → s.Idle) :
    (s.move script m).Single := by
  obtain hsame | ⟨rfl, hkey, hbegin⟩ | ⟨caller, r, -, -, -, hidle, hbegin⟩ := s.begun_move script m
  · obtain hsingle | ⟨whenEnded, hbegin⟩ := (s.change_move script m).single h
    · exact hsingle
    · rw [hbegin, begun_begin] at hsame
      exact absurd hsame (Nat.succ_ne_self _)
  · rw [hbegin]
    exact .begin (hstart rfl hkey) []
  · rw [hbegin]
    exact .begin (h.idle_of_not_pending hidle) [.caller caller]

theorem single_after (h : s.Single) (hstarts : s.StartsIdle script ms) (k : Nat) :
    (s.after script ms k).Single := by
  induction k with
  | zero => exact h
  | succ k ih =>
    cases hm : ms[k]? with
    | none =>
      rw [after_succ_of_none script hm]
      exact ih
    | some m =>
      rw [after_succ script hm]
      refine single_move script ih ?_
      rintro rfl hkey
      exact (hstarts k hm hkey).2

/-- An attempt begins while a proof is wanted, and the dialog stays open. -/
theorem wanting_of_begins (hstarts : s.StartsIdle script ms) {k : Nat}
    (hgrows : (s.after script ms k).begun < (s.after script ms (k + 1)).begun) :
    (s.after script ms k).stage.isOpen = true ∧
      (s.after script ms (k + 1)).closed = (s.after script ms k).closed := by
  cases hm : ms[k]? with
  | none =>
    rw [after_succ_of_none script hm] at hgrows
    exact absurd hgrows (Nat.lt_irrefl _)
  | some m =>
    rw [after_succ script hm] at hgrows ⊢
    obtain hsame | ⟨rfl, hkey, hbegin⟩ | ⟨caller, r, rfl, hr, -, -, hbegin⟩ :=
      (s.after script ms k).begun_move script m
    · exact absurd hsame (Nat.ne_of_gt hgrows)
    · exact ⟨(hstarts k hm hkey).1, congrArg (·.closed) hbegin⟩
    · exact ⟨(confirm_cases hr).1, congrArg (·.closed) hbegin⟩

theorem not_poised_after (h : s.Single) (hstaged : ∀ k, Staged (s.after script ms k).toNegotiation)
    (hstarts : s.StartsIdle script ms) (hfails : s.FailsApart script ms) (hopen : s.closed = false)
    (k : Nat) (hclosed : (s.after script ms k).closed = true) :
    ¬ (s.after script ms k).Poised := by
  induction k with
  | zero =>
    have hclosed : s.closed = true := hclosed
    rw [hopen] at hclosed
    cases hclosed
  | succ k ih =>
    by_cases hgrows : (s.after script ms k).begun < (s.after script ms (k + 1)).begun
    · obtain ⟨hwanting, hsame⟩ := wanting_of_begins script hstarts hgrows
      rw [hsame, ((hstaged k).wanting_of_isOpen hwanting).2.2] at hclosed
      cases hclosed
    · cases hm : ms[k]? with
      | none =>
        rw [after_succ_of_none script hm] at hclosed ⊢
        exact ih hclosed
      | some m =>
        rw [after_succ script hm] at hgrows hclosed ⊢
        have hbegun : ((s.after script ms k).move script m).begun = (s.after script ms k).begun :=
          Nat.le_antisymm (Nat.le_of_not_lt hgrows) (begun_le_move script _ m)
        refine ((s.after script ms k).change_move script m).not_poised (hstaged k)
          (single_after script h hstarts k) hbegun (fun i f hshows => ?_) ih hclosed
        have hmem : .crashed (some i) f ∈ (s.after script ms k).shows script m := by
          rw [hshows]
          exact List.mem_cons_self
        obtain ⟨-, he⟩ | ⟨j, g, rfl, hfailed, -⟩ | hordinary := mem_shows script hmem
        · cases he
        · exact hfails k j g hm hfailed
        · cases hordinary

end Scene

/-- At every point of a run no attempt is in flight but the one that can be cancelled, and none is
begun once the dialog is closed or the outcome is known, exactly if the negotiation is started only
while a proof is wanted and no attempt is in flight. Then to close the dialog without a proof, or to
turn away from the security key, recalls all that is in flight; and the negotiation asks no security
key once the dialog is closed or the outcome is known, if none was going to be asked when an attempt
was seen to have failed. -/
theorem one_in_flight_iff {userid ticket : String} {c : Challenge} {n : Negotiation τ}
    (script : Nat → Http.Outcome) (hn : ofChallenge userid ticket c = .ok n) (o : Outside)
    (ms : List (Move τ ν)) :
    let s : Scene τ ν := { toOutside := o, toNegotiation := n }
    let point := s.after script ms
    (((∀ k, (point k).Single) ∧
        ∀ k, (point k).begun < (point (k + 1)).begun →
          (point k).closed = false ∧ (point k).done = false) ↔
      s.StartsIdle script ms) ∧
    (s.StartsIdle script ms →
      (∀ k, (point k).submission = none → (point k).close.Recalled) ∧
      (∀ k m s', (point k).active = .webauthn → m ≠ .webauthn → (point k).select m = .ok s' →
        s'.Recalled) ∧
      (s.FailsApart script ms → ∀ k, (point (k + 1)).asked ≠ (point k).asked →
        (∃ others queue notes, ms[k]? = some (.aside others queue notes)) ∨
          (point k).closed = false ∧ (point k).done = false)) := by
  intro s point
  have hstaged (k : Nat) : Staged (point k).toNegotiation :=
    (staged_moves script hn o (ms.take k)).1
  have hopen {k : Nat} (hwanting : (point k).closed = false) : (point k).done = false := by
    by_contra hdone
    rw [(hstaged k).closed_of_done (by simpa using hdone)] at hwanting
    cases hwanting
  have hnew : s.Single ∧ s.closed = false := by
    obtain ⟨active, options, -, rfl⟩ := ofChallenge_ok hn
    exact ⟨nofun, rfl⟩
  refine ⟨⟨?_, fun hstarts => ⟨?_, ?_⟩⟩, fun hstarts => ⟨?_, ?_, ?_⟩⟩
  · rintro ⟨hone, hbegins⟩ k hm hkey
    have hbegin : (point (k + 1)).toNegotiation = (point k).begin [] := by
      have hmove : point (k + 1) = (point k).start := Scene.after_succ script hm
      rw [hmove, Scene.start, if_pos hkey]
      rfl
    have hsingle := hone (k + 1)
    rw [hbegin] at hsingle
    have hgrows : (point k).begun < (point (k + 1)).begun := by
      rw [hbegin, begun_begin]
      exact Nat.lt_succ_self _
    refine ⟨?_, hsingle.idle_of_begin⟩
    by_contra hover
    have hclosed := (hstaged k).closed_iff.mpr (by simpa using hover)
    rw [(hbegins k hgrows).1] at hclosed
    cases hclosed
  · exact Scene.single_after script hnew.1 hstarts
  · intro k hgrows
    have hwanting := (Scene.wanting_of_begins script hstarts hgrows).1
    have hclosed := ((hstaged k).wanting_of_isOpen hwanting).2.2
    exact ⟨hclosed, hopen hclosed⟩
  · intro k hsub
    exact Scene.recalled_close (Scene.single_after script hnew.1 hstarts k) hsub
  · intro k m s' hkey hm hselect
    exact Scene.recalled_select (Scene.single_after script hnew.1 hstarts k) hkey hm hselect
  · intro hfails k hasked
    have hquiet := Scene.not_poised_after script hnew.1 hstaged hstarts hfails hnew.2 k
    cases hm : ms[k]? with
    | none => exact absurd (congrArg (·.asked) (Scene.after_succ_of_none script hm)) hasked
    | some m =>
      by_cases haside : ∃ others queue notes, m = .aside others queue notes
      · obtain ⟨others, queue, notes, rfl⟩ := haside
        exact .inl ⟨others, queue, notes, rfl⟩
      · right
        have hasked' : ((point k).move script m).asked ≠ (point k).asked := by
          rw [← Scene.after_succ script hm]
          exact hasked
        obtain ⟨i, a, -, ha, hfirst⟩ := Scene.first_of_asked script
          (fun others queue notes h => haside ⟨others, queue, notes, h⟩) hasked'
        have hclosed : (point k).closed = false := by
          by_contra hclosed
          exact hquiet (by simpa using hclosed) ⟨i, a, ha, hfirst⟩
        exact ⟨hclosed, hopen hclosed⟩

/-- A security key that keeps its callers waiting, and stops when a request is cancelled. -/
def stoppingOutside : Outside where
  client := { settings := {} }
  backend := fun _ => none
  adapter := some fun _ => .waits .stops .stops

/-- A user who turns from the security key to a time code and back, confirms, and closes. -/
def leavingMoves : List (Move Unit Unit) :=
  [.act .start, .turn (.attempt 0), .act (.select .totp), .turn (.attempt 0),
    .act (.select .webauthn), .confirm (), .turn (.attempt 1), .act .close, .turn (.attempt 1)]

theorem one_in_flight_leaving :
    let s : Scene Unit Unit := { toOutside := stoppingOutside, toNegotiation := sample }
    let point := s.after sampleScript leavingMoves
    ofChallenge "root@pam" "PBS:!tfa!" sampleChallenge = .ok sample ∧
      (∀ k, (point k).Single) ∧ (point 7).close.Recalled ∧
      ∀ k, (point (k + 1)).asked ≠ (point k).asked →
        (point k).closed = false ∧ (point k).done = false := by
  intro s point
  obtain ⟨hiff, hthen⟩ :=
    one_in_flight_iff sampleScript ofChallenge_sample stoppingOutside leavingMoves
  have hstarts : s.StartsIdle sampleScript leavingMoves := by
    intro k hm hkey
    rcases k with _ | _ | _ | _ | _ | _ | _ | _ | _ | k <;> cases hm
    exact ⟨rfl, nofun⟩
  have hfails : s.FailsApart sampleScript leavingMoves := by
    intro k i f hm
    rcases k with _ | _ | _ | _ | _ | _ | _ | _ | _ | k <;> cases hm
  obtain ⟨hclose, -, hasks⟩ := hthen hstarts
  refine ⟨ofChallenge_sample, (hiff.mpr hstarts).1, hclose 7 rfl, fun k hasked => ?_⟩
  refine (hasks hfails k hasked).resolve_left ?_
  rintro ⟨others, queue, notes, hm⟩
  rcases k with _ | _ | _ | _ | _ | _ | _ | _ | _ | k <;> cases hm

/-- A security key whose first request fails at once by something that nobody expects. -/
def failingOutside : Outside where
  client := { settings := {} }
  backend := fun _ => none
  adapter := some fun number =>
    if number = 0 then .ends (.crashed (.crash "driver bug")) else .waits .stops .stops

/-- An attempt that is begun before another is seen to have failed asks although the negotiation is
rejected by then. -/
example :
    let s : Scene Unit Unit := { toOutside := failingOutside, toNegotiation := sample }
    let ms : List (Move Unit Unit) :=
      [.act .start, .turn (.attempt 0), .confirm (), .turn (.attemptEnded 0), .turn (.attempt 1)]
    (s.after sampleScript ms 4).done = true ∧ (s.after sampleScript ms 4).asked.length = 1 ∧
      (s.after sampleScript ms 5).asked.length = 2 :=
  ⟨rfl, rfl, rfl⟩

/-- A negotiation that is started twice has two requests in flight. To close the dialog recalls the
second one only, and a third start begins another attempt when all is over. -/
theorem second_start_escapes :
    let s : Scene Unit Unit := { toOutside := stoppingOutside, toNegotiation := sample }
    let ms : List (Move Unit Unit) :=
      [.act .start, .turn (.attempt 0), .act .start, .turn (.attempt 1), .act .close,
        .turn (.attempt 1), .act .start]
    let point := s.after sampleScript ms
    (point 4).attempts.map (·.asking?) = [some 0, some 1] ∧
      (point 6).attempts.map (·.asking?) = [some 0, none] ∧
      (point 6).closed = true ∧ (point 6).done = true ∧ (point 6).begun < (point 7).begun :=
  ⟨rfl, rfl, rfl, rfl, by decide⟩

end SecondFactor.Negotiation
