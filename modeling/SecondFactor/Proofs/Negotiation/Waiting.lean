import SecondFactor.Proofs.Negotiation.Due

/-! # Who waits in a room

The watcher hears that the dialog is closed, and the host hears that the dialog or the watcher has
ended, whatever the other guests do meanwhile and in whatever order turns are taken. -/

namespace SecondFactor.Negotiation

variable {ν : Type}

/-! ## Turns that are due -/

section

variable {τ : Type} {due due' : List (Turn τ)} {n : Negotiation τ} {c : τ} {t : Turn τ}

theorem Alive.mono (h : n.Alive due) (hdue : due ⊆ due') : n.Alive due' :=
  ⟨fun i a ha hisDue => hdue (h.attempts i a ha hisDue),
    fun sub hsub => (h.submission sub hsub).mono hdue id⟩

theorem HearsClosed.mono (h : n.HearsClosed due c) (hdue : due ⊆ due') : n.HearsClosed due' c :=
  h.imp_right fun ⟨hclosed, hin⟩ => ⟨hclosed, hdue hin⟩

theorem HearsOutcome.mono (h : n.HearsOutcome due c) (hdue : due ⊆ due') :
    n.HearsOutcome due' c :=
  h.imp_right fun ⟨hdone, hin⟩ => ⟨hdone, hdue hin⟩

theorem HearsClosed.drop (h : n.HearsClosed (t :: due) c) (ht : .caller c ≠ t) :
    n.HearsClosed due c :=
  h.imp_right fun ⟨hclosed, hin⟩ => ⟨hclosed, List.mem_of_ne_of_mem ht hin⟩

theorem HearsOutcome.drop (h : n.HearsOutcome (t :: due) c) (ht : .caller c ≠ t) :
    n.HearsOutcome due c :=
  h.imp_right fun ⟨hdone, hin⟩ => ⟨hdone, List.mem_of_ne_of_mem ht hin⟩

/-- The turns of callers do not concern the tasks of a negotiation. -/
theorem Alive.drop_caller (h : n.Alive (.caller c :: due)) : n.Alive due :=
  h.drop nofun nofun nofun

end

namespace Room

/-! ## Those who hear of each other -/

/-- Whether the tasks of a negotiation and its watcher go on by themselves. -/
structure Lively (due : List (Negotiation.Turn Room.Turn)) (n : Negotiation Room.Turn)
    (g : Guests ν) : Prop where
  negotiation : n.Alive due
  watcher : g.watcher.isDue = true → .caller .watch ∈ due
  watching : g.watcher.awaits? = some () → n.HearsClosed due .watch

/-- Whether the host is going to hear that the dialog or the watcher has ended. -/
structure Heralds (due : List (Negotiation.Turn Room.Turn)) (g : Guests ν) : Prop where
  dialog : g.dialog.isOver = true → .caller .hostParting ∈ due
  watcher : g.watcher.isOver = true → .caller .hostParting ∈ due

variable {due due' : List (Negotiation.Turn Room.Turn)} {n : Negotiation Room.Turn} {g : Guests ν}

theorem Lively.mono (h : Lively due n g) (hdue : due ⊆ due') : Lively due' n g :=
  ⟨h.negotiation.mono hdue, fun hisDue => hdue (h.watcher hisDue),
    fun hw => (h.watching hw).mono hdue⟩

theorem Heralds.mono (h : Heralds due g) (hdue : due ⊆ due') : Heralds due' g :=
  ⟨fun hover => hdue (h.dialog hover), fun hover => hdue (h.watcher hover)⟩

theorem Lively.drop {t : Room.Turn} (h : Lively (.caller t :: due) n g) (ht : .watch ≠ t) :
    Lively due n g := by
  have hne : Turn.caller Room.Turn.watch ≠ .caller t := fun h => ht (Turn.caller.inj h)
  exact ⟨h.negotiation.drop_caller, fun hisDue => List.mem_of_ne_of_mem hne (h.watcher hisDue),
    fun hw => (h.watching hw).drop hne⟩

theorem Heralds.drop {t : Negotiation.Turn Room.Turn} (h : Heralds (t :: due) g)
    (ht : .caller .hostParting ≠ t) : Heralds due g :=
  ⟨fun hover => List.mem_of_ne_of_mem ht (h.dialog hover),
    fun hover => List.mem_of_ne_of_mem ht (h.watcher hover)⟩

/-- Whether nobody in a room is forgotten from one state of it to another, although turns were due
at first that are not due afterwards. -/
structure Upholds (due : List (Negotiation.Turn Room.Turn)) (r : Room ν)
    (due' : List (Negotiation.Turn Room.Turn)) (r' : Room ν) : Prop where
  lively : Lively (due ++ r.queue) r.toNegotiation r.toGuests →
    Lively (due' ++ r'.queue) r'.toNegotiation r'.toGuests
  heralds : Heralds (due ++ r.queue) r.toGuests → Heralds (due' ++ r'.queue) r'.toGuests
  outcome : r.HearsOutcome (due ++ r.queue) .hostOutcome →
    r'.HearsOutcome (due' ++ r'.queue) .hostOutcome
  accepted : r.submission.isSome = true ∨ r.done = true →
    r'.submission.isSome = true ∨ r'.done = true

variable {r r' r'' : Room ν}

theorem Upholds.trans {due'' : List (Negotiation.Turn Room.Turn)} (h : Upholds due r due' r')
    (h' : Upholds due' r' due'' r'') : Upholds due r due'' r'' :=
  ⟨h'.lively ∘ h.lively, h'.heralds ∘ h.heralds, h'.outcome ∘ h.outcome, h'.accepted ∘ h.accepted⟩

/-- What a scene upholds is upheld if the host hears of what becomes of the guests. -/
theorem Upholds.of_scene (hscene : r.toScene.Upholds r'.toScene) (hwatcher : r'.watcher = r.watcher)
    (hdialog : r'.dialog.isOver = true →
      r.dialog.isOver = true ∨ .caller .hostParting ∈ r'.queue) : Upholds due r due r' := by
  have hdue : due ++ r.queue ⊆ due ++ r'.queue := append_subset_append hscene.queue
  constructor
  · intro h
    refine ⟨hscene.alive due h.negotiation, ?_, ?_⟩
    · rw [hwatcher]
      exact fun hisDue => hdue (h.watcher hisDue)
    · rw [hwatcher]
      exact fun hw => hscene.closed due _ (h.watching hw)
  · intro h
    constructor
    · intro hover
      rcases hdialog hover with hold | hnew
      · exact hdue (h.dialog hold)
      · exact List.mem_append_right due hnew
    · rw [hwatcher]
      exact fun hover => hdue (h.watcher hover)
  · exact hscene.outcome due _
  · exact Or.imp hscene.submission hscene.done

/-- Guests forget nobody. -/
theorem Upholds.visits {P : Action → Prop} (h : Visits P r r') : Upholds due r due r' := by
  have hdialog : r'.dialog.isOver = true →
      r.dialog.isOver = true ∨ .caller .hostParting ∈ r'.queue := by
    induction h with
    | refl | scene | tasks => exact .inl
    | @trans r r' r'' _ h' ih ih' =>
      intro hover
      rcases ih' hover with hover | hin
      · exact (ih hover).imp_right fun hin => (Scene.Upholds.visited h'.visited).queue hin
      · exact .inr hin
    | dialog _ _ hsame => exact fun hover => .inl (hsame.symm.trans hover)
    | ends => exact fun _ => .inr (List.mem_append_right _ (List.mem_singleton_self _))
  exact .of_scene (.visited h.visited) h.watcher hdialog

/-! ## Turns -/

/-- The turn of a guest need not be due any more. -/
theorem Upholds.drop {t : Room.Turn} (hwatch : .watch ≠ t) (hparting : .hostParting ≠ t)
    (houtcome : .hostOutcome ≠ t) : Upholds (.caller t :: due) r due r where
  lively := fun h => h.drop hwatch
  heralds := fun h => h.drop fun h => hparting (Turn.caller.inj h)
  outcome := fun h => h.drop fun h => houtcome (Turn.caller.inj h)
  accepted := id

theorem upholds_endWatcher (r : Room ν) (how : Ending Unit) :
    Upholds (.caller .watch :: due) r due (r.endWatcher how) := by
  have hdue : due ++ r.queue ⊆ due ++ (r.endWatcher how).queue :=
    append_subset_append (List.subset_append_left _ _)
  have hin : Turn.caller Room.Turn.hostParting ∈ due ++ (r.endWatcher how).queue :=
    List.mem_append_right due (List.mem_append_right _ (List.mem_singleton_self _))
  constructor
  · exact fun h => ⟨h.negotiation.drop_caller.mono hdue, nofun, nofun⟩
  · exact fun h => ⟨fun hover => hdue ((h.drop nofun).dialog hover), fun _ => hin⟩
  · exact fun h => (h.drop nofun).mono hdue
  · exact id

theorem upholds_runWatcher (r : Room ν) : Upholds (.caller .watch :: due) r due r.runWatcher := by
  unfold runWatcher
  split
  · split
    · rename_i scene hasks
      have hscene : r.toScene.Upholds (r.toScene.awaitClosed .watch).2 :=
        .awaitClosed r.toScene .watch
      rw [hasks] at hscene
      have hopen : scene.closed = false ∧ .watch ∈ scene.whenClosed := by
        unfold Scene.awaitClosed at hasks
        split at hasks
        · cases hasks
        · rename_i hclosed
          cases hasks
          exact ⟨by simpa using hclosed, List.mem_append_right _ (List.mem_singleton_self _)⟩
      constructor
      · exact fun h => ⟨(hscene.alive _ h.negotiation).drop_caller, nofun, fun _ => .inl hopen⟩
      · have hdue : due ++ r.queue ⊆ due ++ scene.queue := append_subset_append hscene.queue
        exact fun h => ⟨fun hover => hdue ((h.drop nofun).dialog hover), nofun⟩
      · exact fun h => (hscene.outcome _ _ h).drop nofun
      · exact Or.imp hscene.submission hscene.done
    · exact upholds_endWatcher r _
  · exact upholds_endWatcher r _
  · exact upholds_endWatcher r _
  · exact upholds_endWatcher r _
  · rename_i hidle
    split
    · exact upholds_endWatcher r _
    · rename_i hnot
      constructor
      · refine fun h => ⟨h.negotiation.drop_caller, ?_, fun hw => ?_⟩
        · rw [Task.isDue_of_idle hidle]
          exact nofun
        · -- the watcher waits, so that the dialog is not closed
          have hover : r.watcher.isOver = false := by
            rw [Task.isOver, Task.ending_of_awaits hw]
            rfl
          rcases h.watching hw with hopen | ⟨hclosed, -⟩
          · exact .inl hopen
          · exact absurd (by simp [hclosed, hover]) hnot
      · exact fun h => h.drop nofun
      · exact fun h => h.drop nofun
      · exact id

/-- Whoever takes a turn in a room, nobody is forgotten by that. -/
theorem upholds_run (r : Room ν) {t : Negotiation.Turn Room.Turn}
    (hparting : .caller .hostParting ≠ t)
    (houtcome : .caller .hostOutcome ≠ t) : Upholds (t :: due) r due (r.run t) := by
  have hscene : Upholds (t :: due) r (t :: due) { r with toScene := r.toScene.run t } :=
    .of_scene (.run r.toScene t) rfl .inl
  have hdrop (hwatch : .caller .watch ≠ t) :
      Upholds (t :: due) r due { r with toScene := r.toScene.run t } := by
    constructor
    · intro h
      have h' := hscene.lively h
      exact ⟨Scene.alive_run h.negotiation,
        fun hisDue => List.mem_of_ne_of_mem hwatch (h'.watcher hisDue),
        fun hw => (h'.watching hw).drop hwatch⟩
    · exact fun h => (hscene.heralds h).drop hparting
    · exact fun h => (hscene.outcome h).drop houtcome
    · exact hscene.accepted
  cases t with
  | caller t =>
    have hguests (ht : t.isGuests = true) : Upholds (.caller t :: due) r due (r.run (.caller t)) := by
      refine (Upholds.visits (visits_run r.within_all ht)).trans (.drop ?_ ?_ ?_)
      all_goals
        rintro rfl
        cases ht
    cases t with
    | watch => exact upholds_runWatcher r
    | host => exact hdrop nofun
    | hostParting => exact absurd rfl hparting
    | hostOutcome => exact absurd rfl houtcome
    | _ => exact hguests rfl
  | attempt _ | attemptEnded _ | attemptNotified _ | submission | submissionEnded =>
    exact hdrop nofun

/-! ## The host -/

theorem upholds_cancelWatcher (r : Room ν) : Upholds due r due r.cancelWatcher := by
  have hscene : r.toScene.Upholds r.cancelWatcher.toScene :=
    .visited (visited_cancelWatcher (P := fun _ => True) r)
  have hdue : due ++ r.queue ⊆ due ++ r.cancelWatcher.queue := append_subset_append hscene.queue
  have hguests : r.cancelWatcher.toGuests = { r.toGuests with watcher := r.watcher.cancel } :=
    toGuests_enqueueIf _ _ _
  have hwatcher : r.cancelWatcher.watcher = r.watcher.cancel := by rw [hguests]
  have hdialog : r.cancelWatcher.dialog = r.dialog := by rw [hguests]
  constructor
  · refine fun h => ⟨hscene.alive due h.negotiation, ?_, ?_⟩
    · rw [hwatcher]
      intro hisDue
      by_cases hold : r.watcher.isDue = true
      · exact hdue (h.watcher hold)
      · have hqueue : r.cancelWatcher.queue = r.queue ++ [.caller .watch] := by
          simp [cancelWatcher, enqueueIf, hisDue, hold, onScene, Scene.enqueue]
        rw [hqueue]
        exact List.mem_append_right due (List.mem_append_right _ (List.mem_singleton_self _))
    · rw [hwatcher, Task.awaits_cancel]
      intro hawaits
      cases hawaits
  · intro h
    constructor
    · rw [hdialog]
      exact fun hover => hdue (h.dialog hover)
    · rw [hwatcher, Task.isOver_cancel]
      exact fun hover => hdue (h.watcher hover)
  · exact hscene.outcome due _
  · exact Or.imp hscene.submission hscene.done

/-- The host parts with the dialog. -/
theorem upholds_part (r : Room ν) :
    Upholds due r due (r.cancelWatcher.cancelDialog.onScene (·.close)) :=
  ((upholds_cancelWatcher r).trans (.visits (visits_cancelDialog r.cancelWatcher.within_all))).trans
    (.of_scene (.close _) rfl .inl)

theorem upholds_awaitOutcome (r : Room ν) :
    Upholds due r due (r.onScene fun s => (s.awaitOutcome .hostOutcome).2) :=
  .of_scene (.awaitOutcome r.toScene _) rfl .inl

/-- A negotiation has a proof or an outcome when its dialog is closed. -/
theorem accepted_close {τ : Type} (s : Scene τ ν) :
    s.close.submission.isSome = true ∨ s.close.done = true := by
  unfold Scene.close
  dsimp only
  split
  · exact .inl ‹_›
  · split
    · exact .inr ‹_›
    · exact .inr (Scene.done_reject _ _)

/-- When a negotiation begins, everybody in the room hears of what they wait for. -/
theorem lively_begin {r : Room ν} (hattempts : r.attempts = []) (hsubmission : r.submission = none)
    (d : Dialog ν) :
    let r' := ((r.onScene (·.start)).letIn d).watch
    Lively (due ++ r'.queue) r'.toNegotiation r'.toGuests ∧
      Heralds (due ++ r'.queue) r'.toGuests := by
  intro r'
  have hscene : r.toScene.Upholds r'.toScene :=
    .visited (visited_begin (P := fun _ => True) trivial d r)
  have hnew : r.Alive (due ++ r.queue) := by
    constructor
    · intro i a ha
      rw [hattempts] at ha
      cases ha
    · intro sub hsub
      rw [hsubmission] at hsub
      cases hsub
  refine ⟨⟨hscene.alive due hnew, fun _ => ?_, nofun⟩, nofun, nofun⟩
  exact List.mem_append_right due (List.mem_append_right _ (List.mem_singleton_self _))

/-! ## When nothing is due -/

/-- Somebody who waits for the outcome waits for the backend, if a proof was accepted. -/
theorem awaits_of_hearsOutcome (h : n.Alive []) {c : Room.Turn} (hears : n.HearsOutcome [] c)
    (haccepted : n.submission.isSome = true ∨ n.done = true) :
    ∃ sub number r, n.submission = some sub ∧
      sub.task.awaits? = some (.response number r) := by
  have hnone : n.done = false := by
    rcases hears with ⟨hnone, -⟩ | ⟨-, hin⟩
    · simp [done, hnone]
    · cases hin
  obtain ⟨sub, hsub⟩ : ∃ sub, n.submission = some sub := by
    rcases haccepted with hsome | hdone
    · exact Option.isSome_iff_exists.mp hsome
    · cases hnone.symm.trans hdone
  obtain ⟨-, huncancelled, hstands⟩ := h.submission sub hsub
  obtain ⟨proof, ⟨phase, cancelling⟩, whenEnded⟩ := sub
  cases huncancelled
  cases phase with
  | ready => cases hstands
  | waiting on =>
    cases on with
    | response number r => exact ⟨_, number, r, hsub, rfl⟩
    | responded => exact hstands.elim
  | woken news =>
    cases news with
    | response => exact hstands.elim
    | responded => cases hstands
  | ended how =>
    rcases hstands with hdone | ⟨-, hin⟩
    · cases hnone.symm.trans hdone
    · cases hin

/-- As long as the host hears nothing the dialog has not ended, and is not closed. -/
theorem running_of_heralds (h : Lively [] n g) (hh : Heralds [] g) :
    g.dialog.isOver = false ∧ n.closed = false := by
  have hnot {P : Prop} {b : Bool} (h : b = true → P) (hP : ¬ P) : b = false := by
    cases b with
    | true => exact absurd (h rfl) hP
    | false => rfl
  have hdialog := hnot hh.dialog List.not_mem_nil
  have hwatcher := hnot hh.watcher List.not_mem_nil
  obtain ⟨on, hw⟩ := Task.exists_awaits hwatcher (hnot h.watcher List.not_mem_nil)
  rcases h.watching hw with ⟨hopen, -⟩ | ⟨-, hin⟩
  · exact ⟨hdialog, hopen⟩
  · cases hin

end Room

end SecondFactor.Negotiation
