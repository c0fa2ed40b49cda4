import SecondFactor.Proofs.Negotiation.Linking
import SecondFactor.Proofs.Negotiation.Returning
import SecondFactor.Proofs.Negotiation.Waiting

/-! # What is pending

While no turn is due, the attempt that was begun last is pending for one of two reasons: the
security key that it asked has not replied yet, or the proof that came of the reply is being
submitted. -/

namespace SecondFactor.Negotiation

/-! ## Reasons to be pending -/

section

variable {τ ν : Type}

/-- Whether a security key was asked for an assertion and has not replied yet. -/
def Asking (n : Negotiation τ) : Prop := ∃ a ∈ n.attempts, a.asking?.isSome = true

/-- Whether a proof by a security key is being submitted. -/
def Submitting (n : Negotiation τ) : Prop :=
  ∃ sub, n.submission = some sub ∧ sub.proof.method = .webauthn ∧ sub.task.isOver = false

theorem Attempt.exists_of_asking {a : Attempt τ} (h : a.asking?.isSome = true) :
    ∃ request onCancel onLateCancel,
      a.task.awaits? = some (.reply request onCancel onLateCancel) := by
  unfold asking? at h
  split at h
  · exact ⟨_, _, _, ‹_›⟩
  · cases h

/-- An attempt that waits does so for the reply to its request or for the submission of its
proof. -/
theorem Linked.asking_or_submission {n : Negotiation τ} {due : List (Turn τ)} (h : n.Linked due)
    {i : Nat} {a : Attempt τ} (ha : n.attempts[i]? = some a) {on : Attempt.Wait}
    (hw : a.task.awaits? = some on) :
    a.asking?.isSome = true ∨ a.task.awaits? = some .submission := by
  refine (h.attempts i a ha).imp (fun hfree => ?_) And.left
  rw [Attempt.free, Task.phase_of_awaits hw] at hfree
  cases on with
  | reply _ _ _ => simp only [Attempt.asking?, hw, Option.isSome_some]
  | replied _ _ _ | submission => cases hfree

/-- Where no attempt is in flight but the one that can be cancelled, one that is in flight is
pending. -/
theorem Single.pending_iff {n : Negotiation τ} (h : n.Single) :
    n.pending = true ↔
      ∃ (i : Nat) (a : Attempt τ), n.attempts[i]? = some a ∧ a.task.isOver = false := by
  refine ⟨fun hpending => ?_, fun ⟨i, a, ha, hlive⟩ => ?_⟩
  · unfold pending at hpending
    cases hcurrent : n.currentAttempt? with
    | none =>
      rw [hcurrent] at hpending
      cases hpending
    | some a =>
      obtain ⟨i, -, ha⟩ := Option.bind_eq_some_iff.mp hcurrent
      rw [hcurrent] at hpending
      exact ⟨i, a, ha, by simpa using hpending⟩
  · by_contra hidle
    exact absurd (h.idle_of_not_pending (by simpa using hidle) i a ha) (by simp [hlive])

namespace Scene

/-- Guests begin an attempt only where none is in flight, unless they start the negotiation. -/
theorem single_visited (script : Nat → Http.Outcome) {s s' : Scene τ ν} (h : s.Single)
    (hv : s.Visited (· ≠ .start) s') : s'.Single := by
  induction hv with
  | refl | enqueue | noted => exact h
  | trans _ _ ih ih' => exact ih' (ih h)
  | @act s s' a ha hact =>
    have hmove : s.move script (.act a) = s' := by simp only [move, hact]
    rw [← hmove]
    exact single_move script h fun heq => absurd (by cases heq; rfl) ha
  | @confirm s s' caller waits hconfirm =>
    have hmove : s.move script (.confirm caller) = s' := by simp only [move, hconfirm]
    rw [← hmove]
    exact single_move script h fun heq => by cases heq
  | awaitClosed s caller =>
    exact single_move script h (m := .awaitClosed caller) fun heq => by cases heq
  | awaitOutcome s caller =>
    exact single_move script h (m := .awaitOutcome caller) fun heq => by cases heq

/-- The backend answers only a request that it kept waiting. -/
theorem move_respond (script : Nat → Http.Outcome) (s : Scene τ ν) :
    s.move script .respond = s ∨ ∃ o, s.move script .respond = s.respond o := by
  simp only [move]
  split
  · exact .inr ⟨_, rfl⟩
  · exact .inl rfl

/-- Whether it is known how all that is in flight goes on. -/
structure Accounted (s : Scene τ ν) : Prop where
  staged : Staged s.toNegotiation
  alive : s.Alive s.queue
  linked : s.Linked s.queue
  single : s.Single

namespace Accounted

variable {s s' : Scene τ ν}

/-- While no turn is due, what is pending is a request or a submission, and not both. -/
theorem pending_iff (h : s.Accounted) (hqueue : s.queue = []) :
    (s.pending = true ↔ s.Asking ∨ s.Submitting) ∧ ¬ (s.Asking ∧ s.Submitting) := by
  obtain ⟨-, halive, hlinked, hsingle⟩ := h
  rw [hqueue] at halive hlinked
  have hlive {a : Attempt τ} {on : Attempt.Wait} (hw : a.task.awaits? = some on) :
      a.task.isOver = false := by
    rw [Task.isOver, Task.ending_of_awaits hw, Option.isSome_none]
  have hsubmission (hsubmitting : s.Submitting) :
      ∃ (i : Nat) (a : Attempt τ), s.attempts[i]? = some a ∧ a.task.awaits? = some .submission := by
    obtain ⟨sub, hsub, hmethod, hrunning⟩ := hsubmitting
    exact hlinked.submission sub hsub hmethod hrunning
  refine ⟨hsingle.pending_iff.trans ⟨?_, ?_⟩, ?_⟩
  · rintro ⟨i, a, ha, hrunning⟩
    have hrests : a.task.isDue = false := by
      by_contra hdue
      exact absurd (halive.attempts i a ha (by simpa using hdue)) List.not_mem_nil
    obtain ⟨on, hw⟩ := Task.exists_awaits hrunning hrests
    refine (hlinked.asking_or_submission ha hw).imp
      (fun hasking => ⟨a, List.mem_of_getElem? ha, hasking⟩) fun hw => ?_
    obtain hfree | ⟨-, sub, hsub, htells⟩ := hlinked.attempts i a ha
    · exact absurd hw (Attempt.awaits_ne_of_free hfree)
    · refine ⟨sub, hsub, htells.method, ?_⟩
      by_contra hover
      exact absurd (htells.told (by simpa using hover)) List.not_mem_nil
  · rintro (⟨a, ha, hasking⟩ | hsubmitting)
    · obtain ⟨i, hi⟩ := List.mem_iff_getElem?.mp ha
      obtain ⟨request, onCancel, onLateCancel, hw⟩ := Attempt.exists_of_asking hasking
      exact ⟨i, a, hi, hlive hw⟩
    · obtain ⟨i, a, ha, hw⟩ := hsubmission hsubmitting
      exact ⟨i, a, ha, hlive hw⟩
  · rintro ⟨⟨a, ha, hasking⟩, hsubmitting⟩
    obtain ⟨i, hi⟩ := List.mem_iff_getElem?.mp ha
    obtain ⟨request, onCancel, onLateCancel, hw⟩ := Attempt.exists_of_asking hasking
    obtain ⟨j, b, hb, hw'⟩ := hsubmission hsubmitting
    have hsame : i = j :=
      Option.some.inj ((hsingle i a hi (hlive hw)).symm.trans (hsingle j b hb (hlive hw')))
    subst hsame
    cases hi.symm.trans hb
    cases hw.symm.trans hw'

/-! ## What is known in the next scene -/

theorem follow (h : s.Accounted) (hstaged : Staged s'.toNegotiation) (hupholds : Upholds s s')
    (hlinks : Links s s') (hsingle : s'.Single) : s'.Accounted :=
  ⟨hstaged, hupholds.alive [] h.alive, hlinks [] h.linked, hsingle⟩

variable (script : Nat → Http.Outcome)

theorem move (h : s.Accounted) {m : Move τ ν}
    (hstart : m = .act .start → s.available.contains .webauthn = true → s.Idle)
    (hupholds : Upholds s (s.move script m)) (hlinks : Links s (s.move script m)) :
    (s.move script m).Accounted :=
  h.follow (h.staged.change (s.change_move script m)).staged hupholds hlinks
    (single_move script h.single hstart)

include script

theorem visited (h : s.Accounted) (hv : s.Visited (· ≠ .start) s') : s'.Accounted :=
  h.follow (h.staged.visited hv) (.visited hv) (.visited h.staged hv)
    (single_visited script h.single hv)

theorem start (h : s.Accounted) (hidle : s.available.contains .webauthn = true → s.Idle) :
    s.start.Accounted := by
  have hv : s.Visited (fun _ => True) s.start := .act (a := .start) trivial rfl
  exact h.move script (m := .act .start) (fun _ => hidle) (.visited hv) (.visited h.staged hv)

/-- The turn is taken that has been due for longest. -/
theorem take (h : s.Accounted) {t : Turn τ} {rest : List (Turn τ)} (hqueue : s.queue = t :: rest)
    (hover : ∀ i, t = .attemptNotified i → ∀ sub, s.submission = some sub →
      sub.task.isOver = true) : (run { s with queue := rest } t).Accounted := by
  obtain ⟨hstaged, halive, hlinked, hsingle⟩ := h
  rw [hqueue] at halive hlinked
  let taken : Scene τ ν := { s with queue := rest }
  have halive : taken.Alive (t :: [] ++ taken.queue) := halive
  have hlinked : taken.Linked (t :: [] ++ taken.queue) := hlinked
  refine ⟨?_, ?_, ?_, ?_⟩
  · have hchange := taken.change_move script (.turn t)
    exact (Staged.change (n := taken.toNegotiation) hstaged hchange).staged
  · exact alive_run halive
  · exact linked_run hlinked hstaged hover
  · exact single_move script (s := taken) (m := .turn t) hsingle nofun

theorem replyTo (h : s.Accounted) (i : Nat) (next : Key.Behaviour) :
    (s.replyTo i next).Accounted :=
  h.move script (m := .reply i next) nofun (.replyTo s i next) (.replyTo s i next)

theorem respond (h : s.Accounted) : (s.move script .respond).Accounted := by
  obtain heq | ⟨o, heq⟩ := move_respond script s
  · rwa [heq]
  · refine h.move script (fun hact => by cases hact) ?_ ?_
    · exact heq ▸ .respond s o
    · exact heq ▸ .respond s o

end Accounted

/-- At the beginning nothing is in flight. -/
theorem accounted_ofChallenge {userid ticket : String} {c : Challenge} {n : Negotiation τ}
    (hn : ofChallenge userid ticket c = .ok n) (o : Outside) :
    ({ toOutside := o, toNegotiation := n } : Scene τ ν).Accounted := by
  have hstaged := staged_ofChallenge hn
  obtain ⟨active, options, -, rfl⟩ := ofChallenge_ok hn
  refine ⟨hstaged, ⟨?_, ?_⟩, ⟨?_, ?_⟩, ?_⟩
  · exact fun i a ha => absurd ha (by simp)
  · exact fun sub hsub => absurd hsub (by simp)
  · exact fun i a ha => absurd ha (by simp)
  · exact fun sub hsub => absurd hsub (by simp)
  · exact fun i a ha => absurd ha (by simp)

end Scene

end

/-! ## What a step keeps -/

namespace Room

variable {ν : Type} {script : Nat → Http.Outcome} {r : Room ν}

theorem visited_updateDialog {P : Action → Prop} (r : Room ν)
    (f : Task (Dialog.Wait ν) Unit → Task (Dialog.Wait ν) Unit) :
    r.toScene.Visited P (r.updateDialog f).toScene :=
  visited_enqueueIf { r with dialog := f r.dialog } _ _

theorem visited_notifyDialog {P : Action → Prop} (r : Room ν) (k : Nat) :
    r.toScene.Visited P (r.notifyDialog k).toScene := by
  unfold notifyDialog
  split
  · split
    · exact visited_updateDialog r _
    · exact .refl r.toScene
  · exact .refl r.toScene

theorem visited_tell {P : Action → Prop} (r : Room ν) :
    r.toScene.Visited P r.tell.toScene := by
  unfold tell
  split
  · exact visited_updateDialog r _
  · exact .refl r.toScene

section

variable {Q : Scene Room.Turn ν → Prop}
  (hvisited : ∀ s s' : Scene Room.Turn ν, s.Visited (· ≠ .start) s' → Q s → Q s')

include hvisited

/-- What guests keep, whatever they do but start the negotiation, a dialog keeps if the starts that
it makes do so. -/
theorem proceed_keeps {d : Dialog ν} (r : Room ν)
    (hstart : ∀ s, (s, .act .start) ∈ callsOf d r → Q s → Q s.start) (h : Q r.toScene) :
    Q (proceed d r).toScene := by
  -- over the dialog as a tree, in any room, since every step may change the room
  induction d generalizing r with
  | ends how =>
    exact hvisited _ _ (visited_enqueueIf { r with dialog := .finished how } true .hostParting) h
  | notes n next ih =>
    exact ih (r.onScene (·.note [.noted n])) hstart (hvisited _ _ (.noted r.toScene n) h)
  | looks next ih => exact ih r.view r hstart h
  | acts a next ih =>
    refine ih (r.act a).1 (r.act a).2 (fun s hs => hstart s (List.mem_cons_of_mem _ hs)) ?_
    by_cases ha : a = .start
    · subst ha
      exact hstart r.toScene List.mem_cons_self h
    · exact hvisited _ _ (visits_act r ha).visited h
  | confirms next ih =>
    unfold proceed
    unfold callsOf at hstart
    split
    · rename_i hconfirm
      rw [hconfirm] at hstart
      exact ih _ r (fun s hs => hstart s (List.mem_cons_of_mem _ hs)) h
    · rename_i scene hconfirm
      rw [hconfirm] at hstart
      exact ih _ { r with toScene := scene } (fun s hs => hstart s (List.mem_cons_of_mem _ hs))
        (hvisited _ _ (.confirm hconfirm) h)
    · rename_i hconfirm
      exact hvisited _ _ (.confirm hconfirm) h
  | waits what next onCancel => exact h

theorem runDialog_keeps (hstart : ∀ s, (s, .act .start) ∈ r.callsIn (.caller .dialog) → Q s →
    Q s.start) (h : Q r.toScene) : Q r.runDialog.toScene := by
  rw [runDialog_eq]
  unfold callsIn at hstart
  split
  · rename_i d hd
    rw [hd] at hstart
    exact proceed_keeps hvisited r hstart h
  · exact h

theorem runGuest_keeps {t : Room.Turn}
    (hstart : ∀ s, (s, .act .start) ∈ r.callsIn (.caller t) → Q s → Q s.start) (h : Q r.toScene) :
    Q (r.run (.caller t)).toScene := by
  cases t with
  | confirm i => exact hvisited _ _ (visits_runConfirmation r i).visited h
  | confirmNotified i => exact hvisited _ _ (visits_updateConfirmation r i _).visited h
  | read i => exact hvisited _ _ (visits_runReader r i).visited h
  | readNotified i => exact hvisited _ _ (visits_updateReader r i _).visited h
  | dialog => exact runDialog_keeps hvisited hstart h
  | dialogNotified k => exact hvisited _ _ (visited_notifyDialog r k) h
  | watch => exact hvisited _ _ (visited_runWatcher r) h
  | host | hostParting | hostOutcome => exact h

theorem call_keeps (c : Call) (hstart : ∀ s, (s, .act .start) ∈ r.calls (.call c) → Q s → Q s.start)
    (h : Q r.toScene) : Q (r.call c).toScene := by
  cases c with
  | act a =>
    by_cases ha : a = .start
    · subst ha
      exact hstart r.toScene (List.mem_singleton_self _) h
    · exact hvisited _ _ (visits_act r ha).visited h
  | confirm => exact hvisited _ _ (visits_confirm r).visited h
  | read => exact hvisited _ _ (visits_read r).visited h
  | cancelConfirmation i => exact hvisited _ _ (visits_updateConfirmation r i Task.cancel).visited h
  | cancelReader i => exact hvisited _ _ (visits_updateReader r i Task.cancel).visited h
  | cancelDialog => exact hvisited _ _ (visited_cancelDialog r) h

end

/-- An attempt is told of the end of the submission when that has ended. -/
theorem Orderly.over_of_notified {refused recalled : Nat → Prop} (h : Orderly refused recalled r)
    {i : Nat} {rest : List (Negotiation.Turn Room.Turn)}
    (hqueue : r.queue = .attemptNotified i :: rest)
    {sub : Submission Room.Turn} (hsub : r.submission = some sub) : sub.task.isOver = true := by
  have hheard := h.heard
  rw [hqueue] at hheard
  obtain ⟨j, a, how, ha, hin, -⟩ | ⟨sub', how, hsub', -, hhow, -⟩ := hheard [] _ rest rfl rfl
  · obtain ⟨cs, hcs⟩ := (h.known.traced.attempts j a ha).told
    simp [hcs] at hin
  · cases hsub.symm.trans hsub'
    rw [Task.isOver, hhow, Option.isSome_some]

/-! ## Runs that start where nothing is in flight -/

/-- Whether the negotiation is started only while no attempt is in flight. -/
def StartsIdle (script : Nat → Http.Outcome) (r : Room ν) (ss : List (Step ν)) : Prop :=
  ∀ before st after, ss = before ++ st :: after →
    ∀ s, (s, .act .start) ∈ (r.steps script before).calls st →
      s.available.contains .webauthn = true → s.Idle

theorem accounted_step (h : r.Accounted) (st : Step ν)
    (hstart : ∀ s, (s, .act .start) ∈ r.calls st → s.available.contains .webauthn = true → s.Idle)
    (hheard : ∀ i rest, r.queue = .attemptNotified i :: rest →
      ∀ sub, r.submission = some sub → sub.task.isOver = true) :
    (r.step script st).Accounted := by
  have hvisited (s s' : Scene Room.Turn ν) (hv : s.Visited (· ≠ .start) s') (hs : s.Accounted) :
      s'.Accounted := hs.visited script hv
  have hstarts {cs : List (Scene Room.Turn ν × Negotiation.Move Room.Turn ν)}
      (hcs : cs ⊆ r.calls st) (s : Scene Room.Turn ν) (hin : (s, .act .start) ∈ cs)
      (hs : s.Accounted) : s.start.Accounted := hs.start script (hstart s (hcs hin))
  cases st with
  | next =>
    unfold step
    cases hqueue : r.queue with
    | nil => exact h
    | cons t rest =>
      have htaken : (Scene.run { r.toScene with queue := rest } t).Accounted := by
        refine h.take script hqueue fun i ht => ?_
        exact hheard i rest (ht ▸ hqueue)
      cases t with
      | caller c =>
        refine runGuest_keeps hvisited (r := { r with queue := rest }) (hstarts ?_) htaken
        simp only [calls, hqueue]
        exact List.Subset.refl _
      | attempt _ | attemptEnded _ | attemptNotified _ | submission | submissionEnded =>
        exact htaken
  | call c => exact call_keeps hvisited c (hstarts (List.Subset.refl _)) h
  | letIn d => exact h.visited script (.enqueue r.toScene .dialog)
  | watch => exact h.visited script (.enqueue r.toScene .watch)
  | tell => exact h.visited script (visited_tell r)
  | cancelWatcher => exact h.visited script (visited_cancelWatcher r)
  | awaitOutcome => exact h.visited script (.awaitOutcome r.toScene .hostOutcome)
  | reply i next => exact h.replyTo script i next
  | respond => exact h.respond script
  | aside others notes => exact ⟨h.staged, h.alive, h.linked, h.single⟩

theorem accounted_steps {userid ticket : String} {c : Challenge} {n : Negotiation Room.Turn}
    (hn : ofChallenge userid ticket c = .ok n) (o : Outside) {ss : List (Step ν)}
    (hstarts : StartsIdle script { toOutside := o, toNegotiation := n } ss) :
    (steps script { toOutside := o, toNegotiation := n } ss).Accounted := by
  induction ss using List.reverseRecOn with
  | nil => exact Scene.accounted_ofChallenge hn o
  | append_singleton ss st ih =>
    rw [steps_concat]
    have horderly : Orderly (fun _ => True) (fun _ => True)
        (steps script { toOutside := o, toNegotiation := n } ss) :=
      (orderly_ofChallenge hn o).steps (fun _ _ => trivial) (fun _ _ => trivial) fun _ _ => trivial
    refine accounted_step (ih fun before st' after hss => ?_) st (hstarts ss st [] rfl) ?_
    · exact hstarts before st' (after ++ [st]) (by rw [hss]; simp)
    · intro i rest hqueue sub
      exact horderly.over_of_notified hqueue

end Room

/-! ## Main results -/

/-- Where the negotiation is started only while no attempt is in flight, whatever is pending while
no turn is due is either a request to a security key that has not replied yet or the submission of
the proof that came of a reply, and never both. So to be pending means that a request is under way
exactly as long as no proof by a security key is being submitted. -/
theorem pending_iff_asking_iff (script : Nat → Http.Outcome) {userid ticket : String}
    {c : Challenge} {n : Negotiation Room.Turn} (hn : ofChallenge userid ticket c = .ok n)
    {ν : Type} (o : Outside) (ss : List (Room.Step ν)) :
    let start : Room ν := { toOutside := o, toNegotiation := n }
    let r := start.steps script ss
    start.StartsIdle script ss → r.queue = [] →
      (r.pending = true ↔ r.Asking ∨ r.Submitting) ∧ ¬ (r.Asking ∧ r.Submitting) ∧
        ((r.pending = true ↔ r.Asking) ↔ ¬ r.Submitting) := by
  intro start r hstarts hqueue
  have haccounted : r.Accounted := Room.accounted_steps hn o hstarts
  obtain ⟨hpending, hnot⟩ := haccounted.pending_iff hqueue
  refine ⟨hpending, hnot, fun hiff hsubmitting => ?_, fun hidle => ?_⟩
  · exact hnot ⟨hiff.mp (hpending.mpr (.inr hsubmitting)), hsubmitting⟩
  · exact hpending.trans (or_iff_left hidle)

/-- A user who is asked to touch the security key, does so, and waits for the backend. -/
def touchingSteps : List (Room.Step Unit) :=
  [.call (.act .start), .next, .reply 0 (.fetched (.assertion (.ofResponse sampleResponse))),
    .next, .next]

/-- The room before each of these steps, or behind the last one. -/
def touchedRoom (n : Negotiation Room.Turn) (k : Nat) : Room Unit :=
  Room.steps sampleScript { toOutside := deviceOutside, toNegotiation := n } (touchingSteps.take k)

/-- As long as the user has not touched the security key, it is pending because it was asked. -/
theorem pending_iff_asking_iff_touching :
    ∃ n : Negotiation Room.Turn, ofChallenge "root@pam" "PBS:!tfa!" sampleChallenge = .ok n ∧
      (touchedRoom n 0).StartsIdle sampleScript (touchingSteps.take 2) ∧
        (touchedRoom n 2).queue = [] ∧ (touchedRoom n 2).pending = true ∧
        ¬ (touchedRoom n 2).Submitting ∧ (touchedRoom n 2).Asking := by
  obtain ⟨n, hn⟩ : ∃ n : Negotiation Room.Turn,
      ofChallenge "root@pam" "PBS:!tfa!" sampleChallenge = .ok n := ⟨_, rfl⟩
  have hstarts : (touchedRoom n 0).StartsIdle sampleScript (touchingSteps.take 2) := by
    intro before st after hss s hs _
    cases hn
    rcases before with _ | ⟨_, _ | ⟨_, before⟩⟩
    · obtain ⟨rfl, -⟩ := List.cons.inj hss
      cases List.mem_singleton.mp hs
      exact nofun
    · obtain ⟨rfl, -⟩ := List.cons.inj (List.cons.inj hss).2
      obtain ⟨rfl, -⟩ := List.cons.inj hss
      cases hs
    · cases before <;> cases hss
  have hqueue : (touchedRoom n 2).queue = [] := by
    cases hn
    rfl
  have hpending : (touchedRoom n 2).pending = true := by
    cases hn
    rfl
  have hnone : ¬ (touchedRoom n 2).Submitting := by
    cases hn
    rintro ⟨sub, hsub, -⟩
    cases hsub
  obtain ⟨-, -, hiff⟩ := pending_iff_asking_iff sampleScript hn deviceOutside (touchingSteps.take 2)
    hstarts hqueue
  exact ⟨n, hn, hstarts, hqueue, hpending, hnone, (hiff.mpr hnone).mp hpending⟩

/-- While the proof is being submitted, the security key is pending although it is not asked any
more. -/
theorem submitting_pends :
    ∃ n : Negotiation Room.Turn, ofChallenge "root@pam" "PBS:!tfa!" sampleChallenge = .ok n ∧
      (touchedRoom n 5).queue = [] ∧ (touchedRoom n 5).pending = true ∧
        ¬ (touchedRoom n 5).Asking := by
  obtain ⟨n, hn⟩ : ∃ n : Negotiation Room.Turn,
      ofChallenge "root@pam" "PBS:!tfa!" sampleChallenge = .ok n := ⟨_, rfl⟩
  refine ⟨n, hn, ?_⟩
  cases hn
  refine ⟨rfl, rfl, ?_⟩
  rintro ⟨a, ha, hasking⟩
  cases List.mem_singleton.mp ha
  cases hasking

end SecondFactor.Negotiation
