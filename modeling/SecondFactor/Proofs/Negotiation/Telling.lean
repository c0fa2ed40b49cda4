import SecondFactor.Proofs.Negotiation.Due
import SecondFactor.Proofs.Negotiation.Order
import SecondFactor.Proofs.Negotiation.Stage

/-! # What those are told who wait for the end of a task

An attempt or the submission that ends makes turns due: first the one in which its end is seen, then
those of all who wait for it. As turns are taken in order, whoever is told of the end is told after it
was seen. If the task had crashed there is an outcome by then. -/

namespace SecondFactor.Negotiation

/-- Whether a turn tells somebody that an attempt or the submission has ended. -/
def Turn.isNotice : Turn Room.Turn → Bool
  | .attemptNotified _ | .caller (.confirmNotified _) | .caller (.dialogNotified _) => true
  | _ => false

/-! ## Who waits for a task -/

section

variable {τ : Type}

/-- The caller whose turn it is. -/
def Turn.caller? : Turn τ → Option τ
  | .caller c => some c
  | _ => none

/-- The callers among some turns. -/
def callersOf (ts : List (Turn τ)) : List τ := ts.filterMap Turn.caller?

theorem mem_callersOf {ts : List (Turn τ)} {c : τ} : c ∈ callersOf ts ↔ .caller c ∈ ts := by
  unfold callersOf
  rw [List.mem_filterMap]
  constructor
  · rintro ⟨t, ht, hc⟩
    cases t <;> cases hc
    exact ht
  · exact fun h => ⟨_, h, rfl⟩

/-- The callers who wait for an attempt or the submission, or did so. -/
def callers (n : Negotiation τ) : List τ :=
  n.attempts.flatMap (callersOf ·.whenEnded) ++ n.submission.toList.flatMap (callersOf ·.whenEnded)

theorem callers_of_same {n n' : Negotiation τ} (hattempts : n'.attempts = n.attempts)
    (hsubmission : n'.submission = n.submission) : n'.callers = n.callers := by
  unfold callers
  rw [hattempts, hsubmission]

theorem getElem_setTask (n : Negotiation τ) (i j : Nat)
    (f : Task Attempt.Wait Unit → Task Attempt.Wait Unit) :
    (n.setTask i f).attempts[j]? =
      n.attempts[j]?.map fun a => if i = j then { a with task := f a.task } else a := by
  rw [setTask, List.getElem?_modify]
  cases n.attempts[j]? with
  | none => rfl
  | some a => by_cases hij : i = j <;> simp [hij]

theorem callers_setTask (n : Negotiation τ) (i : Nat)
    (f : Task Attempt.Wait Unit → Task Attempt.Wait Unit) : (n.setTask i f).callers = n.callers := by
  have hwhenEnded : (n.setTask i f).attempts.map (callersOf ·.whenEnded) =
      n.attempts.map (callersOf ·.whenEnded) := by
    refine List.ext_getElem? fun j => ?_
    rw [List.getElem?_map, List.getElem?_map, getElem_setTask]
    cases n.attempts[j]? with
    | none => rfl
    | some a => by_cases hij : i = j <;> simp [hij]
  unfold callers
  rw [List.flatMap_def, hwhenEnded]
  rfl

theorem callers_setSubmission (n : Negotiation τ)
    (f : Task Submission.Wait Unit → Task Submission.Wait Unit) :
    (n.setSubmission f).callers = n.callers := by
  unfold callers setSubmission
  cases n.submission <;> rfl

end

/-! ## Where tasks stand -/

variable {ν : Type} {refused recalled : Nat → Prop}

/-- Whether it is known how an attempt came to stand where it does, given which ones were refused and
which recalled or quit: it ends after it was refused, unless there is an outcome, or as cancelled. -/
structure Attempt.Traced (refused recalled : Nat → Prop) (done : Bool) (i : Nat)
    (a : Attempt Room.Turn) : Prop where
  told : ∃ cs : List Room.Turn, a.whenEnded = .attemptEnded i :: cs.map .caller
  cancelling : a.task.cancelling = true → recalled i
  stands : match a.task.phase with
    | .woken .submission => done = true
    | .woken (.reply ..) => False
    | .ended (.returned _) => done = true ∨ refused i
    | .ended .cancelled => recalled i
    | .ready | .waiting _ | .woken (.replied ..) | .ended (.failed _) => True

/-- Whether it is known how the submission came to stand where it does. -/
structure Submission.Traced (done : Bool) (sub : Submission Room.Turn) : Prop where
  told : ∃ t, sub.whenEnded = [.submissionEnded, t]
  stands : ∀ how, sub.task.ending? = some how → done = true ∨ ∃ f, how = .failed f

/-- Whether it is known of all tasks how they came to stand where they do. Nobody who waits for
something else is told of their end. -/
structure Traced (refused recalled : Nat → Prop) (n : Negotiation Room.Turn) : Prop where
  attempts : ∀ (i : Nat) a, n.attempts[i]? = some a → a.Traced refused recalled n.done i
  submission : ∀ sub, n.submission = some sub → sub.Traced n.done
  waiting : ∀ c ∈ n.whenClosed ++ n.whenDone, (Turn.caller c).isNotice = false

theorem Attempt.Traced.mono {done done' : Bool} {i : Nat} {a : Attempt Room.Turn}
    (h : a.Traced refused recalled done i) (hdone : done = true → done' = true) :
    a.Traced refused recalled done' i := by
  refine ⟨h.told, h.cancelling, ?_⟩
  have hstands := h.stands
  split at hstands
  · exact hdone hstands
  · exact hstands
  · exact hstands.imp_left hdone
  · exact hstands
  all_goals trivial

theorem Submission.Traced.mono {done done' : Bool} {sub : Submission Room.Turn}
    (h : sub.Traced done) (hdone : done = true → done' = true) : sub.Traced done' :=
  ⟨h.told, fun how hhow => (h.stands how hhow).imp_left hdone⟩

/-! ## What is over -/

/-- Whether the task is over that a turn tells of. If it crashed, then its end was seen, or is going
to be seen in one of the turns that come before. -/
def Over (n : Negotiation Room.Turn) (before : List (Turn Room.Turn)) (t : Turn Room.Turn) : Prop :=
  (∃ (i : Nat) (a : Attempt Room.Turn) (how : Ending Unit), n.attempts[i]? = some a ∧
      t ∈ a.whenEnded ∧ a.task.ending? = some how ∧
        ((∃ f, how = .failed f) → n.done = true ∨ .attemptEnded i ∈ before)) ∨
    ∃ (sub : Submission Room.Turn) (how : Ending Unit), n.submission = some sub ∧
      t ∈ sub.whenEnded ∧ sub.task.ending? = some how ∧
        ((∃ f, how = .failed f) → n.done = true ∨ .submissionEnded ∈ before)

/-- Whether those who are told in some turns that a task has ended are told so truly, and after its
end was seen. -/
def Heard (n : Negotiation Room.Turn) (ts : List (Turn Room.Turn)) : Prop :=
  ∀ before t after, ts = before ++ t :: after → t.isNotice = true → n.Over before t

/-- Whether what is over in a negotiation is over for good. -/
structure Persists (n n' : Negotiation Room.Turn) : Prop where
  attempts : ∀ (i : Nat) a, n.attempts[i]? = some a → a.task.isOver = true →
    n'.attempts[i]? = some a
  submission : ∀ sub, n.submission = some sub → sub.task.isOver = true → n'.submission = some sub
  done : n.done = true → n'.done = true

section

variable {n n' n'' : Negotiation Room.Turn} {q q' ts : List (Turn Room.Turn)} {t : Turn Room.Turn}

theorem Persists.refl (n : Negotiation Room.Turn) : Persists n n :=
  ⟨fun _ _ ha _ => ha, fun _ hsub _ => hsub, id⟩

theorem Persists.trans (h : Persists n n') (h' : Persists n' n'') : Persists n n'' where
  attempts := fun i a ha hover => h'.attempts i a (h.attempts i a ha hover) hover
  submission := fun sub hsub hover => h'.submission sub (h.submission sub hsub hover) hover
  done := h'.done ∘ h.done

theorem Over.mono (h : n.Over q t) (hn : Persists n n') (hq : q ⊆ q') : n'.Over q' t := by
  obtain ⟨i, a, how, ha, ht, hhow, hseen⟩ | ⟨sub, how, hsub, ht, hhow, hseen⟩ := h
  · refine .inl ⟨i, a, how, hn.attempts i a ha ?_, ht, hhow, fun hf => ?_⟩
    · rw [Task.isOver, hhow, Option.isSome_some]
    · exact (hseen hf).imp hn.done fun hin => hq hin
  · refine .inr ⟨sub, how, hn.submission sub hsub ?_, ht, hhow, fun hf => ?_⟩
    · rw [Task.isOver, hhow, Option.isSome_some]
    · exact (hseen hf).imp hn.done fun hin => hq hin

/-- A turn need not come before once it was taken, if there is an outcome in case a crash was seen in
it. -/
theorem Over.taken {u : Turn Room.Turn} (h : n.Over (u :: q) t) (hn : Persists n n')
    (hattempt : ∀ i a f, u = .attemptEnded i → n.attempts[i]? = some a →
      a.task.ending? = some (.failed f) → n'.done = true)
    (hsubmission : ∀ sub f, u = .submissionEnded → n.submission = some sub →
      sub.task.ending? = some (.failed f) → n'.done = true) : n'.Over q t := by
  obtain ⟨i, a, how, ha, ht, hhow, hseen⟩ | ⟨sub, how, hsub, ht, hhow, hseen⟩ := h
  · refine .inl ⟨i, a, how, hn.attempts i a ha ?_, ht, hhow, fun hf => ?_⟩
    · rw [Task.isOver, hhow, Option.isSome_some]
    · rcases hseen hf with hdone | hin
      · exact .inl (hn.done hdone)
      · rcases List.mem_cons.mp hin with heq | hin
        · obtain ⟨f, rfl⟩ := hf
          exact .inl (hattempt i a f heq.symm ha hhow)
        · exact .inr hin
  · refine .inr ⟨sub, how, hn.submission sub hsub ?_, ht, hhow, fun hf => ?_⟩
    · rw [Task.isOver, hhow, Option.isSome_some]
    · rcases hseen hf with hdone | hin
      · exact .inl (hn.done hdone)
      · rcases List.mem_cons.mp hin with heq | hin
        · obtain ⟨f, rfl⟩ := hf
          exact .inl (hsubmission sub f heq.symm hsub hhow)
        · exact .inr hin

theorem Heard.taken {u : Turn Room.Turn} (h : n.Heard (u :: q)) (hn : Persists n n')
    (hattempt : ∀ i a f, u = .attemptEnded i → n.attempts[i]? = some a →
      a.task.ending? = some (.failed f) → n'.done = true)
    (hsubmission : ∀ sub f, u = .submissionEnded → n.submission = some sub →
      sub.task.ending? = some (.failed f) → n'.done = true) : n'.Heard q := by
  rintro before t after rfl ht
  exact (h (u :: before) t after rfl ht).taken hn hattempt hsubmission

theorem Heard.mono (h : n.Heard ts) (hn : Persists n n') : n'.Heard ts :=
  fun before t after heq ht => (h before t after heq ht).mono hn (List.Subset.refl _)

theorem Heard.append (hq : n.Heard q) (hts : n.Heard ts) : n.Heard (q ++ ts) := by
  intro before t after heq ht
  obtain ⟨l, hbefore, hnew⟩ | ⟨l, hold, hafter⟩ := List.append_eq_append_iff.mp heq
  · rw [hbefore]
    exact (hts l t after hnew ht).mono (.refl n) (List.subset_append_right _ _)
  · cases l with
    | nil => exact (hts [] t after hafter.symm ht).mono (.refl n) (List.nil_subset _)
    | cons u l =>
      cases hafter
      exact hq before t l hold ht

theorem heard_of_quiet (hts : ∀ t ∈ ts, t.isNotice = false) : n.Heard ts := by
  rintro before t after rfl ht
  rw [hts t (List.mem_append_right _ List.mem_cons_self)] at ht
  cases ht

theorem heard_nil (n : Negotiation Room.Turn) : n.Heard [] :=
  heard_of_quiet fun _ ht => absurd ht List.not_mem_nil

/-- Those who become due behind the turn in which an end is seen are told after it. -/
theorem heard_of_ended {u : Turn Room.Turn} (hu : u.isNotice = false)
    (h : ∀ t ∈ u :: ts, ∀ before, u ∈ before → n.Over before t) : n.Heard (u :: ts) := by
  intro before t after heq ht
  have hin : t ∈ u :: ts := heq ▸ List.mem_append_right before List.mem_cons_self
  cases before with
  | nil =>
    obtain ⟨rfl, -⟩ := List.cons.inj heq
    rw [hu] at ht
    cases ht
  | cons v before =>
    obtain ⟨rfl, -⟩ := List.cons.inj heq
    exact h t hin _ List.mem_cons_self

/-- Whoever is told with no turn to come before is told of a task that ended with an outcome, or of an
attempt that was refused or recalled. -/
theorem Over.settled (h : n.Over [] t) (hn : n.Traced refused recalled) :
    (∃ sub, n.submission = some sub ∧ t ∈ sub.whenEnded ∧ n.done = true) ∨
      ∃ (i : Nat) (a : Attempt Room.Turn), n.attempts[i]? = some a ∧ t ∈ a.whenEnded ∧
        (n.done = true ∨ refused i ∨ a.task.ending? = some .cancelled ∧ recalled i) := by
  obtain ⟨i, a, how, ha, ht, hhow, hseen⟩ | ⟨sub, how, hsub, ht, hhow, hseen⟩ := h
  · have hstands := (hn.attempts i a ha).stands
    rw [Task.phase_of_ending hhow] at hstands
    refine .inr ⟨i, a, ha, ht, ?_⟩
    cases how with
    | returned _ => exact hstands.imp_right .inl
    | failed f => exact .inl ((hseen ⟨f, rfl⟩).resolve_right List.not_mem_nil)
    | cancelled => exact .inr (.inr ⟨hhow, hstands⟩)
  · refine .inl ⟨sub, hsub, ht, ?_⟩
    rcases (hn.submission sub hsub).stands how hhow with hdone | hf
    · exact hdone
    · exact (hseen hf).resolve_right List.not_mem_nil

end

/-! ## What a scene does about it -/

namespace Scene

/-- Whether all that is told in one scene, beside those callers, is told as truly in another. -/
structure Follows (refused recalled : Nat → Prop) (cs : List Room.Turn)
    (s s' : Scene Room.Turn ν) : Prop where
  persists : Persists s.toNegotiation s'.toNegotiation
  callers : s'.callers = s.callers ++ cs
  traced : s.Traced refused recalled → s'.Traced refused recalled
  queue : s.Traced refused recalled → ∃ ts, s'.queue = s.queue ++ ts ∧ s'.Heard ts

namespace Follows

variable {cs cs' : List Room.Turn} {s s' s'' : Scene Room.Turn ν}

theorem trans (h : Follows refused recalled cs s s') (h' : Follows refused recalled cs' s' s'') :
    Follows refused recalled (cs ++ cs') s s'' where
  persists := h.persists.trans h'.persists
  callers := by rw [h'.callers, h.callers, List.append_assoc]
  traced := h'.traced ∘ h.traced
  queue := by
    intro hs
    obtain ⟨ts, hts, hheard⟩ := h.queue hs
    obtain ⟨ts', hts', hheard'⟩ := h'.queue (h.traced hs)
    exact ⟨ts ++ ts', by rw [hts', hts, List.append_assoc],
      (hheard.mono h'.persists).append hheard'⟩

/-- What a scene goes on with after nobody new came to wait. -/
theorem then_ (h : Follows refused recalled [] s s') (h' : Follows refused recalled cs s' s'') :
    Follows refused recalled cs s s'' := h.trans h'

/-- No task changes, and those who become due waited for something else. -/
theorem of_quiet (cs : List Room.Turn) (hattempts : s'.attempts = s.attempts)
    (hsubmission : s'.submission = s.submission)
    (hdone : s.done = true → s'.done = true)
    (hwaiting : ∀ c ∈ s'.whenClosed ++ s'.whenDone,
      c ∈ s.whenClosed ++ s.whenDone ∨ (Turn.caller c).isNotice = false)
    (hqueue : s'.queue = s.queue ++ cs.map .caller)
    (hcs : ∀ c ∈ cs, c ∈ s.whenClosed ++ s.whenDone ∨ (Turn.caller c).isNotice = false) :
    Follows refused recalled [] s s' where
  persists := ⟨fun i a ha _ => hattempts ▸ ha, fun sub hsub _ => hsubmission.trans hsub, hdone⟩
  callers := by rw [List.append_nil, callers_of_same hattempts hsubmission]
  traced := by
    intro hs
    refine ⟨fun i a ha => ?_, fun sub hsub => ?_, fun c hc => ?_⟩
    · exact (hs.attempts i a (hattempts ▸ ha)).mono hdone
    · exact (hs.submission sub (hsubmission ▸ hsub)).mono hdone
    · exact (hwaiting c hc).elim (hs.waiting c) id
  queue := by
    intro hs
    refine ⟨cs.map .caller, hqueue, heard_of_quiet fun t ht => ?_⟩
    obtain ⟨c, hc, rfl⟩ := List.mem_map.mp ht
    exact (hcs c hc).elim (hs.waiting c) id

/-- Neither the tasks nor those who wait change. -/
theorem of_same (hattempts : s'.attempts = s.attempts) (hsubmission : s'.submission = s.submission)
    (houtcome : s'.outcome = s.outcome) (hwhenClosed : s'.whenClosed = s.whenClosed)
    (hwhenDone : s'.whenDone = s.whenDone) (hqueue : s'.queue = s.queue) :
    Follows refused recalled [] s s' := by
  refine of_quiet [] hattempts hsubmission ?_ ?_ ?_ nofun
  · rw [done, done, houtcome]
    exact id
  · rw [hwhenClosed, hwhenDone]
    exact fun c => .inl
  · rw [hqueue, List.map_nil, List.append_nil]

theorem refl (s : Scene Room.Turn ν) : Follows refused recalled [] s s :=
  of_same rfl rfl rfl rfl rfl rfl

theorem note (s : Scene Room.Turn ν) (es : List (Event ν)) : Follows refused recalled [] s (s.note es) :=
  of_same rfl rfl rfl rfl rfl rfl

theorem enqueue (s : Scene Room.Turn ν) {c : Room.Turn} (hc : (Turn.caller c).isNotice = false) :
    Follows refused recalled [] s (s.enqueue [.caller c]) := by
  refine of_quiet [c] rfl rfl id (fun c => .inl) rfl fun c' hc' => .inr ?_
  rwa [List.mem_singleton.mp hc']

theorem shut (s : Scene Room.Turn ν) : Follows refused recalled [] s s.shut := by
  refine of_quiet s.whenClosed rfl rfl id (fun c hc => .inl ?_) rfl fun c hc => .inl ?_
  · exact List.mem_append_right _ hc
  · exact List.mem_append_left _ hc

/-- The outcome is there. -/
theorem announce (s : Scene Room.Turn ν) (stage : Stage) (o : Except Failure Ticket) :
    Follows refused recalled [] s (Scene.announce { s with stage, outcome := some o }) := by
  refine of_quiet s.whenDone rfl rfl (fun _ => rfl) (fun c hc => .inl ?_) rfl
    fun c hc => .inl ?_
  · have hc : c ∈ s.whenClosed ++ [] := hc
    rw [List.append_nil] at hc
    exact List.mem_append_left _ hc
  · exact List.mem_append_right _ hc

theorem reject (s : Scene Room.Turn ν) (f : Failure) :
    Follows refused recalled [] s (s.reject f) := by
  by_cases hdone : s.done = true
  · rw [reject_of_done hdone]
    exact shut s
  · rw [reject_of_not_done hdone]
    exact (shut s).trans (announce s.shut .rejected (.error f))

theorem resolve (s : Scene Room.Turn ν) (t : Ticket) :
    Follows refused recalled [] s (s.resolve t) := by
  unfold Scene.resolve
  split
  · exact refl s
  · exact announce s .resolved (.ok t)

theorem keyFailed (s : Scene Room.Turn ν) (r : Key.Refusal) :
    Follows refused recalled [] s (s.keyFailed r) := by
  have herror : Follows refused recalled [] s { s with keyError := some r } :=
    of_same rfl rfl rfl rfl rfl rfl
  unfold Scene.keyFailed
  dsimp only
  split
  · exact herror
  · exact herror.trans (reject _ _)

theorem awaitClosed (s : Scene Room.Turn ν) {c : Room.Turn}
    (hc : (Turn.caller c).isNotice = false) :
    Follows refused recalled [] s (s.awaitClosed c).2 := by
  unfold Scene.awaitClosed
  split
  · exact refl s
  · refine of_quiet [] rfl rfl id (fun c' hc' => ?_) (List.append_nil _).symm nofun
    have hc' : c' ∈ (s.whenClosed ++ [c]) ++ s.whenDone := hc'
    simp only [List.mem_append, List.mem_singleton] at hc' ⊢
    obtain (hold | rfl) | hold := hc'
    · exact .inl (.inl hold)
    · exact .inr hc
    · exact .inl (.inr hold)

theorem awaitOutcome (s : Scene Room.Turn ν) {c : Room.Turn}
    (hc : (Turn.caller c).isNotice = false) :
    Follows refused recalled [] s (s.awaitOutcome c).2 := by
  unfold Scene.awaitOutcome
  split
  · exact refl s
  · refine of_quiet [] rfl rfl id (fun c' hc' => ?_) (List.append_nil _).symm nofun
    have hc' : c' ∈ s.whenClosed ++ (s.whenDone ++ [c]) := hc'
    simp only [List.mem_append, List.mem_singleton] at hc' ⊢
    obtain hold | hold | rfl := hc'
    · exact .inl (.inl hold)
    · exact .inl (.inr hold)
    · exact .inr hc

/-! ### Attempts -/

/-- The task of an attempt changes that was not over. -/
theorem of_task {i : Nat} {f : Task Attempt.Wait Unit → Task Attempt.Wait Unit}
    (hn : s'.toNegotiation = s.toNegotiation.setTask i f)
    (hover : ∀ a, s.attempts[i]? = some a → a.task.isOver = true → f a.task = a.task)
    (hf : ∀ a, s.attempts[i]? = some a → a.Traced refused recalled s.done i →
      Attempt.Traced refused recalled s.done i { a with task := f a.task })
    (hqueue : s.Traced refused recalled → ∃ ts, s'.queue = s.queue ++ ts ∧ s'.Heard ts) :
    Follows refused recalled [] s s' := by
  refine ⟨?_, ?_, ?_, hqueue⟩
  · rw [hn]
    refine ⟨fun j a ha hisOver => ?_, fun _ hsub _ => hsub, id⟩
    rw [getElem_setTask, ha, Option.map_some]
    by_cases hij : i = j
    · subst hij
      rw [if_pos rfl, hover a ha hisOver]
    · rw [if_neg hij]
  · rw [hn, callers_setTask, List.append_nil]
  · intro hs
    rw [hn]
    refine ⟨fun j b hb => ?_, hs.submission, hs.waiting⟩
    rw [getElem_setTask] at hb
    obtain ⟨a, ha, rfl⟩ := Option.map_eq_some_iff.mp hb
    by_cases hij : i = j
    · subst hij
      rw [if_pos rfl]
      exact hf a ha (hs.attempts i a ha)
    · rw [if_neg hij]
      exact hs.attempts j a ha

theorem updateAttempt (s : Scene Room.Turn ν) (i : Nat)
    {f : Task Attempt.Wait Unit → Task Attempt.Wait Unit}
    (hover : ∀ a, s.attempts[i]? = some a → a.task.isOver = true → f a.task = a.task)
    (hf : ∀ a, s.attempts[i]? = some a → a.Traced refused recalled s.done i →
      Attempt.Traced refused recalled s.done i { a with task := f a.task }) :
    Follows refused recalled [] s (s.updateAttempt i f) := by
  refine of_task (s.toNegotiation_updateAttempt i f) hover hf fun _ => ?_
  unfold Scene.updateAttempt
  cases s.attempts[i]? with
  | none => exact ⟨[], (List.append_nil _).symm, heard_nil _⟩
  | some a =>
    dsimp only
    split
    · exact ⟨[.attempt i], rfl, heard_of_quiet (by simp [Turn.isNotice])⟩
    · exact ⟨[], (List.append_nil _).symm, heard_nil _⟩

/-- An attempt that is not over comes to wait for something. -/
theorem awaits (s : Scene Room.Turn ν) {i : Nat} (on : Attempt.Wait)
    (hlive : ∀ a, s.attempts[i]? = some a → a.task.isOver = false) :
    Follows refused recalled [] s (s.updateAttempt i fun _ => .waitingFor on) := by
  refine updateAttempt s i (fun a ha hover => ?_) fun a ha h => ⟨h.told, nofun, trivial⟩
  rw [hlive a ha] at hover
  cases hover

/-- An attempt ends, and those who wait for it are told after its end was seen. -/
theorem endAttempt (s : Scene Room.Turn ν) {i : Nat} {how : Ending Unit}
    (hlive : ∀ a, s.attempts[i]? = some a → a.task.isOver = false)
    (hhow : match how with
      | .returned _ => s.done = true ∨ refused i
      | .cancelled => recalled i
      | .failed _ => True) : Follows refused recalled [] s (s.endAttempt i how) := by
  refine of_task (s.toNegotiation_endAttempt i how) (fun a ha hover => ?_)
    (fun a ha h => ⟨h.told, nofun, ?_⟩) fun hs => ?_
  · rw [hlive a ha] at hover
    cases hover
  · cases how <;> exact hhow
  · have hattempt := s.getElem_endAttempt i how
    unfold Scene.endAttempt at hattempt ⊢
    cases ha : s.attempts[i]? with
    | none => exact ⟨[], (List.append_nil _).symm, heard_nil _⟩
    | some a =>
      simp only [ha, Option.map_some] at hattempt
      obtain ⟨cs, hcs⟩ := (hs.attempts i a ha).told
      refine ⟨a.whenEnded, rfl, ?_⟩
      rw [hcs]
      refine heard_of_ended rfl fun t ht before hbefore => .inl ?_
      exact ⟨i, _, how, hattempt, by rwa [hcs], rfl, fun _ => .inr hbefore⟩

theorem beginAttempt (s : Scene Room.Turn ν) (cs : List Room.Turn)
    (hcs : cs = [] ∨ s.submission = none) :
    Follows refused recalled cs s (s.beginAttempt (cs.map .caller)) := by
  have hold {i : Nat} {a : Attempt Room.Turn} (ha : s.attempts[i]? = some a) :
      (s.beginAttempt (cs.map .caller)).attempts[i]? = some a := by
    have hlt : i < s.attempts.length := (List.getElem?_eq_some_iff.mp ha).1
    exact (List.getElem?_append_left hlt).trans ha
  refine ⟨⟨fun i a ha _ => hold ha, fun _ hsub _ => hsub, id⟩, ?_, fun hs => ?_, fun _ => ?_⟩
  · have hnew : callersOf (.attemptEnded s.attempts.length :: cs.map .caller) = cs := by
      unfold callersOf
      rw [List.filterMap_cons_none rfl, List.filterMap_map]
      exact List.filterMap_some
    have hmore : (s.beginAttempt (cs.map .caller)).callers =
        s.attempts.flatMap (callersOf ·.whenEnded) ++ cs ++
          s.submission.toList.flatMap (callersOf ·.whenEnded) := by
      unfold Negotiation.callers
      simp [Scene.beginAttempt, hnew]
    rw [hmore]
    unfold Negotiation.callers
    rcases hcs with rfl | hnone
    · simp
    · simp [hnone]
  · let new : Attempt Room.Turn :=
      { whenEnded := .attemptEnded s.attempts.length :: cs.map .caller }
    refine ⟨fun i a ha => ?_, hs.submission, hs.waiting⟩
    have ha : (s.attempts ++ [new])[i]? = some a := ha
    rcases Nat.lt_or_ge i s.attempts.length with hlt | hge
    · exact hs.attempts i a ((List.getElem?_append_left hlt).symm.trans ha)
    · have hi : i = s.attempts.length := by
        have hlen := (List.getElem?_eq_some_iff.mp ha).1
        rw [List.length_append, List.length_singleton] at hlen
        omega
      subst hi
      rw [List.getElem?_concat_length] at ha
      cases ha
      exact ⟨⟨cs, rfl⟩, fun h => absurd h Bool.false_ne_true, trivial⟩
  · exact ⟨[.attempt s.attempts.length], rfl, heard_of_quiet (by simp [Turn.isNotice])⟩

/-- The attempt that was begun last is cancelled. -/
theorem cancelAttempt (s : Scene Room.Turn ν)
    (hrecalled : ∀ i, s.current = some i → s.pending = true → recalled i) :
    Follows refused recalled [] s s.cancelAttempt := by
  unfold Scene.cancelAttempt
  cases hcurrent : s.current with
  | none => exact refl s
  | some i =>
    refine updateAttempt s i (fun a _ hover => ?_) fun a ha h => ?_
    · rw [Task.cancel, if_pos hover]
    · by_cases hover : a.task.isOver = true
      · rw [Task.cancel, if_pos hover]
        exact h
      · have hpending : s.pending = true := by
          simp [pending, currentAttempt?, hcurrent, ha, hover]
        refine ⟨h.told, fun _ => hrecalled i hcurrent hpending, ?_⟩
        dsimp only
        rw [Task.phase_cancel]
        exact h.stands

/-! ### The submission -/

/-- The task of the submission changes. -/
theorem of_submission {f : Task Submission.Wait Unit → Task Submission.Wait Unit}
    (hn : s'.toNegotiation = s.toNegotiation.setSubmission f)
    (hover : ∀ sub, s.submission = some sub → sub.task.isOver = true → f sub.task = sub.task)
    (hf : ∀ sub how, s.submission = some sub → (f sub.task).ending? = some how →
      sub.task.ending? = some how ∨ s.done = true ∨ ∃ f, how = .failed f)
    (hqueue : s.Traced refused recalled → ∃ ts, s'.queue = s.queue ++ ts ∧ s'.Heard ts) :
    Follows refused recalled [] s s' := by
  refine ⟨?_, ?_, ?_, hqueue⟩
  · rw [hn]
    refine ⟨fun _ _ ha _ => ha, fun sub hsub hisOver => ?_, id⟩
    rw [setSubmission, hsub, Option.map_some, hover sub hsub hisOver]
  · rw [hn, callers_setSubmission, List.append_nil]
  · intro hs
    rw [hn]
    refine ⟨hs.attempts, fun sub' hsub' => ?_, hs.waiting⟩
    obtain ⟨sub, hsub, rfl⟩ := Option.map_eq_some_iff.mp hsub'
    have hold := hs.submission sub hsub
    exact ⟨hold.told, fun how hhow => (hf sub how hsub hhow).elim (hold.stands how) id⟩

theorem updateSubmission (s : Scene Room.Turn ν)
    {f : Task Submission.Wait Unit → Task Submission.Wait Unit}
    (hover : ∀ sub, s.submission = some sub → sub.task.isOver = true → f sub.task = sub.task)
    (hlive : ∀ sub, s.submission = some sub → sub.task.isOver = false →
      (f sub.task).ending? = none) :
    Follows refused recalled [] s (s.updateSubmission f) := by
  refine of_submission (s.toNegotiation_updateSubmission f) hover (fun sub how hsub hhow => .inl ?_)
    fun _ => ?_
  · cases hisOver : sub.task.isOver with
    | true => rwa [hover sub hsub hisOver] at hhow
    | false =>
      rw [hlive sub hsub hisOver] at hhow
      cases hhow
  · unfold Scene.updateSubmission
    cases s.submission with
    | none => exact ⟨[], (List.append_nil _).symm, heard_nil _⟩
    | some sub =>
      dsimp only
      split
      · exact ⟨[.submission], rfl, heard_of_quiet (by simp [Turn.isNotice])⟩
      · exact ⟨[], (List.append_nil _).symm, heard_nil _⟩

/-- The submission ends with an outcome, or by a failure that is going to be seen before those who wait
for it are told. -/
theorem endSubmission (s : Scene Room.Turn ν) {how : Ending Unit}
    (hlive : ∀ sub, s.submission = some sub → sub.task.isOver = false)
    (hhow : s.done = true ∨ ∃ f, how = .failed f) :
    Follows refused recalled [] s (s.endSubmission how) := by
  refine of_submission (s.toNegotiation_endSubmission how) (fun sub hsub hover => ?_)
    (fun sub how' _ hhow' => .inr ?_) fun hs => ?_
  · rw [hlive sub hsub] at hover
    cases hover
  · cases hhow'
    exact hhow
  · unfold Scene.endSubmission
    cases hsub : s.submission with
    | none => exact ⟨[], (List.append_nil _).symm, heard_nil _⟩
    | some sub =>
      obtain ⟨u, hu⟩ := (hs.submission sub hsub).told
      refine ⟨sub.whenEnded, rfl, ?_⟩
      rw [hu]
      refine heard_of_ended rfl fun t ht before hbefore => .inr ?_
      exact ⟨_, how, rfl, by rwa [hu], rfl, fun _ => .inr hbefore⟩

/-- A submission begins where there was none. -/
theorem submits (s : Scene Room.Turn ν) (p : Proof) (t : Turn Room.Turn) (hnone : s.submission = none) :
    Follows refused recalled (callersOf [t]) s
      (Scene.enqueue { s with submission := some { proof := p, whenEnded := [.submissionEnded, t] } }
        [.submission]) := by
  refine ⟨⟨fun _ _ ha _ => ha, fun sub hsub => ?_, id⟩, ?_, fun hs => ?_, fun _ => ?_⟩
  · rw [hnone] at hsub
    cases hsub
  · simp [Negotiation.callers, hnone, Scene.enqueue]
    rfl
  · refine ⟨hs.attempts, fun sub hsub => ?_, hs.waiting⟩
    cases hsub
    refine ⟨⟨t, rfl⟩, fun how hhow => ?_⟩
    cases hhow
  · exact ⟨[.submission], rfl, heard_of_quiet (by simp [Turn.isNotice])⟩

/-- A proof is accepted where there was none. An attempt that is given up by that is recalled. -/
theorem accept (s : Scene Room.Turn ν) (p : Proof) (t : Turn Room.Turn) (hnone : s.submission = none)
    (hrecalled : p.method ≠ .webauthn →
      ∀ i, s.current = some i → s.pending = true → recalled i) :
    Follows refused recalled (callersOf [t]) s (s.accept p t) := by
  have hstage : Follows refused recalled [] s { s with stage := .submitting } :=
    of_same rfl rfl rfl rfl rfl rfl
  have hshut : Follows refused recalled [] s (Scene.shut { s with stage := .submitting }) :=
    hstage.then_ (shut _)
  unfold Scene.accept
  dsimp only
  split
  · exact hshut.then_ (submits _ p t hnone)
  · rename_i hmethod
    refine (hshut.then_ (cancelAttempt _ (hrecalled hmethod))).then_ (submits _ p t ?_)
    rw [toNegotiation_cancelAttempt, (Keeps.cancelKey _).submission]
    exact hnone

/-! ### Turns -/

theorem attempts_reject (s : Scene Room.Turn ν) (f : Failure) :
    (s.reject f).attempts = s.attempts := by
  rw [toNegotiation_reject]
  unfold Negotiation.reject
  split <;> rfl

theorem attempts_keyFailed (s : Scene Room.Turn ν) (r : Key.Refusal) :
    (s.keyFailed r).attempts = s.attempts := by
  unfold Scene.keyFailed
  dsimp only
  split
  · rfl
  · exact attempts_reject _ _

/-- A failure of the security key that leaves the outcome open leaves other methods. -/
theorem done_keyFailed (s : Scene Room.Turn ν) (r : Key.Refusal) :
    (s.keyFailed r).done = true ∨ ∃ m ∈ s.available, m ≠ .webauthn := by
  unfold Scene.keyFailed
  dsimp only
  split
  · rename_i h
    simp only [Bool.or_eq_true, List.any_eq_true, decide_eq_true_eq] at h
    exact h
  · exact .inl (done_reject _ _)

theorem conclude {s : Scene Room.Turn ν} {i : Nat} {r : Key.Reply} (hs : Staged s.toNegotiation)
    (hlive : ∀ a, s.attempts[i]? = some a → a.task.isOver = false)
    (hrefused : ∀ e, r = .refused e → (∃ m ∈ s.available, m ≠ .webauthn) → refused i) :
    Follows refused recalled [] s (s.conclude i r) := by
  cases r with
  | refused e =>
    refine (keyFailed s e).then_ (endAttempt _ ?_ ?_)
    · rwa [attempts_keyFailed]
    · exact (done_keyFailed s e).imp_right (hrefused e rfl)
  | crashed f => exact endAttempt s hlive trivial
  | assertion a =>
    unfold Scene.conclude
    dsimp only
    split
    · rename_i hopen
      have hnone : s.submission = none := by simpa using (hs.wanting_of_isOpen hopen).1
      have haccept : Follows refused recalled [] s
          (s.accept (a.proof s.keyText) (.attemptNotified i)) :=
        accept s (a.proof s.keyText) (.attemptNotified i) hnone fun hmethod => absurd rfl hmethod
      exact haccept.then_ (awaits _ _ hlive)
    · exact endAttempt s hlive trivial

theorem proceed {s : Scene Room.Turn ν} {i : Nat} {b : Key.Behaviour} (request : Nat)
    (hs : Staged s.toNegotiation)
    (hlive : ∀ a, s.attempts[i]? = some a → a.task.isOver = false)
    (hrefused : ∀ e, b.reply? = some (.refused e) → (∃ m ∈ s.available, m ≠ .webauthn) → refused i)
    (hstops : b.proceed.2 = .stopped → recalled i) :
    Follows refused recalled [] s (s.proceed i request b) := by
  have hnote : Follows refused recalled [] s (s.note (b.proceed.1.map (.device request))) := note s _
  unfold Scene.proceed
  dsimp only
  split
  · rename_i r hrest
    refine hnote.then_ (conclude hs hlive fun e he => hrefused e ?_)
    simp only [Key.Behaviour.reply?, hrest, he]
  · rename_i hrest
    exact hnote.then_ (endAttempt _ hlive (hstops hrest))
  · exact hnote.then_ (awaits _ _ hlive)

theorem ask {s : Scene Room.Turn ν} {i : Nat} (hs : Staged s.toNegotiation)
    (hlive : ∀ a, s.attempts[i]? = some a → a.task.isOver = false)
    (hrefused : ∀ e, (match s.adapter, s.options with
      | some adapter, some _ => (adapter s.asked.length).reply?
      | _, _ => some (.refused .unsupported)) = some (.refused e) →
      (∃ m ∈ s.available, m ≠ .webauthn) → refused i)
    (hstops : ∀ b, (match s.adapter, s.options with
      | some adapter, some _ => some (adapter s.asked.length)
      | _, _ => none) = some b → b.proceed.2 = .stopped → recalled i) :
    Follows refused recalled [] s (s.ask i) := by
  unfold Scene.ask
  split
  · rename_i adapter options hadapter hoptions
    simp only [hadapter, hoptions] at hrefused hstops
    have hasked : Follows refused recalled [] s { s with asked := s.asked ++ [options] } :=
      of_same rfl rfl rfl rfl rfl rfl
    exact (hasked.then_ (note _ _)).then_
      (proceed _ hs hlive hrefused (hstops _ rfl))
  · rename_i hnone
    refine conclude hs hlive fun e he => hrefused e ?_
    split
    · rename_i adapter options hadapter hoptions
      exact absurd hoptions (hnone adapter options hadapter)
    · rw [he]

/-- The turn of an attempt. -/
theorem runAttempt {s : Scene Room.Turn ν} {i : Nat} (hs : Staged s.toNegotiation)
    (htraced : s.Traced refused recalled)
    (hrefused : ∀ e, s.reply? i = some (.refused e) → (∃ m ∈ s.available, m ≠ .webauthn) → refused i)
    (hstops : ∀ b, s.goesOn? i = some b → b.proceed.2 = .stopped → recalled i) :
    Follows refused recalled [] s (s.runAttempt i) := by
  unfold Scene.runAttempt
  unfold reply? at hrefused
  unfold goesOn? at hstops
  cases ha : s.attempts[i]? with
  | none => exact refl s
  | some a =>
    have hknown := htraced.attempts i a ha
    simp only [ha, Option.bind_some] at hrefused hstops
    have hlive (hstart : a.task.start ≠ .idle) :
        ∀ b, s.attempts[i]? = some b → b.task.isOver = false := by
      intro b hb
      cases ha.symm.trans hb
      exact Task.isOver_of_start hstart
    have hstands := hknown.stands
    dsimp only
    cases hstart : a.task.start with
    | idle => exact refl s
    | first =>
      simp only [hstart] at hrefused hstops
      exact ask hs (hlive (by simp [hstart])) hrefused hstops
    | news w =>
      have hlive := hlive (by simp [hstart])
      rw [Task.phase_of_news hstart] at hstands
      cases w with
      | replied request next onLateCancel =>
        simp only [hstart] at hrefused hstops
        exact proceed request hs hlive hrefused (hstops next rfl)
      | reply _ _ _ => exact hstands.elim
      | submission => exact endAttempt s hlive (.inl hstands)
    | cancelled on =>
      have hlive := hlive (by simp [hstart])
      have hrecalled := hknown.cancelling (Task.cancelling_of_start (.inl ⟨on, hstart⟩))
      rcases on with _ | ⟨request, onCancel, onLateCancel⟩ | _ | _
      · exact endAttempt s hlive hrecalled
      · simp only [hstart] at hrefused
        exact (note s _).then_ (proceed request hs hlive hrefused fun _ => hrecalled)
      · exact endAttempt s hlive hrecalled
      · exact endAttempt s hlive hrecalled
    | cancelledLate w =>
      have hlive := hlive (by simp [hstart])
      have hrecalled := hknown.cancelling (Task.cancelling_of_start (.inr ⟨w, hstart⟩))
      cases w with
      | replied request next onLateCancel =>
        simp only [hstart] at hrefused
        exact proceed request hs hlive hrefused fun _ => hrecalled
      | reply _ _ _ | submission => exact endAttempt s hlive hrecalled

/-- Once a crash was seen there is an outcome. -/
theorem done_ended_failed (s : Scene Room.Turn ν) (f : Failure) :
    (s.ended (some (.failed f))).done = true := by
  by_cases hdone : s.done = true
  · rwa [Scene.ended, if_pos hdone]
  · rw [Scene.ended, if_neg hdone]
    exact done_reject s _

theorem done_run_attemptEnded {s : Scene Room.Turn ν} {i : Nat} {a : Attempt Room.Turn} {f : Failure}
    (ha : s.attempts[i]? = some a) (hf : a.task.ending? = some (.failed f)) :
    (s.run (.attemptEnded i)).done = true := by
  simp only [Scene.run, ha, Option.bind_some, hf]
  exact done_ended_failed s f

theorem done_run_submissionEnded {s : Scene Room.Turn ν} {sub : Submission Room.Turn} {f : Failure}
    (hsub : s.submission = some sub) (hf : sub.task.ending? = some (.failed f)) :
    (s.run .submissionEnded).done = true := by
  simp only [Scene.run, hsub, Option.bind_some, hf]
  exact done_ended_failed s f

theorem ended (s : Scene Room.Turn ν) (how : Option (Ending Unit)) :
    Follows refused recalled [] s (s.ended how) := by
  unfold Scene.ended
  split
  · split
    · exact refl s
    · exact reject s _
  · exact refl s

/-- The submission has an outcome, or fails. -/
theorem settleSubmission (s : Scene Room.Turn ν) (result : Except Failure Ticket)
    (hlive : ∀ sub, s.submission = some sub → sub.task.isOver = false) :
    Follows refused recalled [] s (s.settleSubmission result) := by
  cases result with
  | ok t =>
    refine (resolve s t).then_ (endSubmission _ ?_ (.inl (done_resolve s t)))
    rwa [toNegotiation_resolve, (Keeps.resolve _ t).submission]
  | error f =>
    unfold Scene.settleSubmission
    dsimp only
    split
    · refine (reject s f).then_ (endSubmission _ ?_ (.inl (done_reject s f)))
      rwa [submission_reject]
    · exact endSubmission s hlive (.inr ⟨f, rfl⟩)

theorem receive (s : Scene Room.Turn ν) (r : Http.Request) (o : Http.Outcome)
    (hlive : ∀ sub, s.submission = some sub → sub.task.isOver = false) :
    Follows refused recalled [] s (s.receive r o) := by
  have hreceived : Follows refused recalled [] s { s with toOutside := s.toOutside.receive r o } :=
    of_same rfl rfl rfl rfl rfl rfl
  exact hreceived.then_ (settleSubmission _ _ hlive)

theorem runSubmission (s : Scene Room.Turn ν) : Follows refused recalled [] s s.runSubmission := by
  unfold Scene.runSubmission
  cases hsub : s.submission with
  | none => exact refl s
  | some sub =>
    have hlive (hstart : sub.task.start ≠ .idle) :
        ∀ sub', s.submission = some sub' → sub'.task.isOver = false := by
      intro sub' hsub'
      cases hsub.symm.trans hsub'
      exact Task.isOver_of_start hstart
    dsimp only
    split
    · rename_i hstart
      have hlive := hlive (by simp [hstart])
      unfold Scene.submit
      split
      · exact settleSubmission s _ hlive
      · rename_i outside _
        have hsent : Follows refused recalled [] s { s with toOutside := outside } :=
          of_same rfl rfl rfl rfl rfl rfl
        dsimp only
        split
        · exact (hsent.then_ (note _ _)).then_ (receive _ _ _ hlive)
        · refine (hsent.then_ (note _ _)).then_ (updateSubmission _ (fun sub' hsub' hover => ?_)
            fun _ _ _ => rfl)
          rw [hlive sub' hsub'] at hover
          cases hover
    · rename_i hstart
      exact receive s _ _ (hlive (by simp [hstart]))
    · exact refl s

/-- An attempt is told that the submission of its proof ended. -/
theorem notifyAttempt (s : Scene Room.Turn ν) (i : Nat) (hdone : s.done = true) :
    Follows refused recalled [] s (s.updateAttempt i (Task.wake .submission)) := by
  refine updateAttempt s i (fun a _ hover => ?_) fun a _ h => ?_
  · exact Task.wake_of_awaits_none _ (Task.awaits_of_isOver hover)
  · cases hw : a.task.awaits? with
    | none =>
      rw [Task.wake_of_awaits_none _ hw]
      exact h
    | some on =>
      rw [Task.wake_of_awaits hw]
      exact ⟨h.told, fun h => absurd h Bool.false_ne_true, hdone⟩

/-- The reply to the request of an attempt comes. -/
theorem replyTo (s : Scene Room.Turn ν) (i : Nat) (next : Key.Behaviour) :
    Follows refused recalled [] s (s.replyTo i next) := by
  refine updateAttempt s i (fun a _ hover => ?_) fun a _ h => ?_
  · simp only [Task.awaits_of_isOver hover]
  · cases hw : a.task.awaits? with
    | none => exact h
    | some on =>
      cases on with
      | reply request onCancel onLateCancel =>
        dsimp only
        rw [Task.wake_of_awaits hw]
        exact ⟨h.told, fun h => absurd h Bool.false_ne_true, trivial⟩
      | replied _ _ _ | submission => exact h

theorem respond (s : Scene Room.Turn ν) (o : Http.Outcome) :
    Follows refused recalled [] s (s.respond o) := by
  refine updateSubmission s (fun sub _ hover => ?_) fun sub _ hlive => ?_
  · simp only [Task.awaits_of_isOver hover]
  · have hending : sub.task.ending? = none := by simpa [Task.isOver] using hlive
    cases hw : sub.task.awaits? with
    | none => exact hending
    | some on =>
      cases on with
      | response number r =>
        dsimp only
        rw [Task.wake_of_awaits hw]
        rfl
      | responded _ _ => exact hending

/-! ### Calls -/

theorem act {a : Action} (h : s.act a = .ok s')
    (hrecalled : ∀ i, s.Recalls (.act a) i → recalled i) : Follows refused recalled [] s s' := by
  cases a with
  | start =>
    cases h
    unfold Scene.start
    split
    · exact beginAttempt s [] (.inl rfl)
    · exact refl s
  | select m =>
    have hturn (s : Scene Room.Turn ν) (stage : Stage) :
        Follows refused recalled [] s { s with active := m, stage } :=
      of_same rfl rfl rfl rfl rfl rfl
    obtain ⟨hopen, hm, ⟨-, rfl⟩ | ⟨hne, hkey, rfl⟩ | ⟨-, -, rfl⟩⟩ := select_cases h
    · exact refl _
    · refine (cancelAttempt s fun i hcurrent hpending => ?_).then_ (hturn _ _)
      exact hrecalled i ⟨hcurrent, hpending, hopen, hkey, hm, hkey ▸ hne⟩
    · exact hturn s _
  | input value =>
    obtain ⟨-, -, rfl⟩ := setInput_cases h
    exact of_same rfl rfl rfl rfl rfl rfl
  | close =>
    cases h
    unfold Scene.close
    dsimp only
    split
    · exact shut s
    · rename_i hnone
      have hnone : s.submission = none := by
        have hnone : ¬ s.submission.isSome = true := hnone
        simpa using hnone
      have hcancelled : Follows refused recalled [] s s.shut.cancelAttempt :=
        (shut s).then_ <| cancelAttempt s.shut
          fun i hcurrent hpending => hrecalled i ⟨hcurrent, hpending, hnone⟩
      split
      · exact hcancelled
      · exact hcancelled.then_ (reject _ _)

/-- Who confirms waits for an attempt or the submission, unless they mistyped. -/
theorem confirm {c : Room.Turn} {waits : Bool} (hs : Staged s.toNegotiation)
    (h : s.confirm c = .ok (waits, s'))
    (hrecalled : ∀ i, s.Recalls (.confirm c) i → recalled i) :
    Follows refused recalled (if waits then [c] else []) s s' := by
  have hwaits := waits_of_confirm h
  obtain ⟨hopen, ⟨hkey, -, rfl⟩ | ⟨htext, ⟨hshape, rfl⟩ | ⟨hshape, rfl⟩⟩⟩ := confirm_cases h
  all_goals have hnone : s.submission = none := by simpa using (hs.wanting_of_isOpen hopen).1
  · obtain rfl : waits = true := by simpa [hkey] using hwaits
    exact beginAttempt s [c] (.inr hnone)
  · obtain rfl : waits = true := by simpa [hshape] using hwaits
    have hcleared : Follows refused recalled [] s { s with inputError := none } :=
      of_same rfl rfl rfl rfl rfl rfl
    exact hcleared.then_ <| accept _ ⟨s.active, s.input s.active⟩ (.caller c) hnone
      fun _ i hcurrent hpending => hrecalled i ⟨hcurrent, hpending, hopen, htext, hshape⟩
  · have hne : s.active ≠ .webauthn := by
      intro hkey
      rw [hkey] at htext
      cases htext
    obtain rfl : waits = false := by simpa [hshape, hne] using hwaits
    exact of_same rfl rfl rfl rfl rfl rfl

end Follows

end Scene

end SecondFactor.Negotiation
