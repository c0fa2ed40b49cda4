import SecondFactor.Proofs.Negotiation.Refusing
import SecondFactor.Proofs.Negotiation.Surroundings
import SecondFactor.Proofs.Negotiation.Telling

/-! # Confirmations that return

Who confirms has to wait for an attempt with the security key, or for the submission of a proof, and
goes on when that has ended. By then there is an outcome, unless the attempt came to nothing: the
security key failed while there are other methods, or the attempt was given up. -/

namespace SecondFactor.Negotiation.Room

variable {ν : Type} {refused recalled : Nat → Prop}

/-! ## Guests who wait -/

/-- Whether a guest has begun to wait who is told of the end in such a turn. -/
def Guests.Waits (g : Guests ν) : Room.Turn → Prop
  | .confirmNotified i => ∃ t, g.confirmations[i]? = some t ∧ t.phase ≠ .ready
  | .dialogNotified k => k < g.confirmed
  | _ => False

/-- Whether a guest was told in such a turn that what they wait for has ended, and has not gone on
since. -/
def Guests.Told (g : Guests ν) : Room.Turn → Prop
  | .confirmNotified i => ∃ t, g.confirmations[i]? = some t ∧ t.phase = .woken ()
  | .dialogNotified k => ∃ next, g.dialog.phase = .woken (.confirmation k next)
  | _ => False

/-- Whether a call to confirm that had to wait is going to return in the next turn of whoever made
it. They were told in such a turn. -/
def Guests.Returning (g : Guests ν) : Room.Turn → Prop
  | .confirmNotified i => ∃ t, g.confirmations[i]? = some t ∧ t.start = .news ()
  | .dialogNotified k => ∃ next, g.dialog.start = .news (.confirmation k next)
  | _ => False

theorem Guests.told_of_returning {g : Guests ν} {c : Room.Turn} (h : g.Returning c) : g.Told c := by
  cases c with
  | confirmNotified i =>
    obtain ⟨t, ht, hstart⟩ := h
    exact ⟨t, ht, Task.phase_of_news hstart⟩
  | dialogNotified k =>
    obtain ⟨next, hstart⟩ := h
    exact ⟨next, Task.phase_of_news hstart⟩
  | _ => exact h

/-- Whether it is known how the tasks of a negotiation came to stand where they do, and what its guests
wait for: they wait for one task each, and whoever was told that it ended was told so truly. -/
structure Known (refused recalled : Nat → Prop) (n : Negotiation Room.Turn) (g : Guests ν) : Prop where
  staged : Staged n
  traced : n.Traced refused recalled
  callers : n.callers.Nodup
  waits : ∀ c ∈ n.callers, g.Waits c
  told : ∀ c, g.Told c → n.Over [] (.caller c)

/-- What is known of a room in which turns are taken in order. -/
structure Orderly (refused recalled : Nat → Prop) (r : Room ν) : Prop where
  known : Known refused recalled r.toNegotiation r.toGuests
  heard : r.Heard r.queue

section

variable {s s' : Scene Room.Turn ν} {g g' : Guests ν} {cs : List Room.Turn}

theorem Known.follow (h : Known refused recalled s.toNegotiation g) (hstaged : Staged s'.toNegotiation)
    (hf : s.Follows refused recalled cs s') (hcs : cs.Nodup)
    (hnew : ∀ c ∈ cs, ¬ g.Waits c ∧ g'.Waits c) (hwaits : ∀ c, g.Waits c → g'.Waits c)
    (htold : ∀ c, g'.Told c → g.Told c ∨ s.Over [] (.caller c)) :
    Known refused recalled s'.toNegotiation g' where
  staged := hstaged
  traced := hf.traced h.traced
  callers := by
    rw [hf.callers]
    refine List.nodup_append.mpr ⟨h.callers, hcs, ?_⟩
    rintro c hc _ hc' rfl
    exact (hnew c hc').1 (h.waits c hc)
  waits := by
    intro c hc
    rw [hf.callers] at hc
    rcases List.mem_append.mp hc with hold | hin
    · exact hwaits c (h.waits c hold)
    · exact (hnew c hin).2
  told := fun c hc =>
    ((htold c hc).elim (h.told c) id).mono hf.persists (List.Subset.refl _)

end

variable {r r' : Room ν}

theorem Orderly.follow (h : Orderly refused recalled r) (hstaged : Staged r'.toNegotiation)
    (cs : List Room.Turn) (hf : r.toScene.Follows refused recalled cs r'.toScene) (hcs : cs.Nodup)
    (hnew : ∀ c ∈ cs, ¬ r.Waits c ∧ r'.Waits c) (hwaits : ∀ c, r.Waits c → r'.Waits c)
    (htold : ∀ c, r'.Told c → r.Told c ∨ r.Over [] (.caller c)) :
    Orderly refused recalled r' where
  known := h.known.follow hstaged hf hcs hnew hwaits htold
  heard := by
    obtain ⟨ts, hts, hheard⟩ := hf.queue h.known.traced
    rw [hts]
    exact (h.heard.mono hf.persists).append hheard

/-- Nobody begins to wait, and nobody is told of an end. -/
theorem Orderly.same (h : Orderly refused recalled r) (hstaged : Staged r'.toNegotiation)
    (hf : r.toScene.Follows refused recalled [] r'.toScene)
    (hconfirmations : r'.confirmations = r.confirmations) (hconfirmed : r'.confirmed = r.confirmed)
    (hdialog : ∀ k next, r'.dialog.phase = .woken (.confirmation k next) →
      r.dialog.phase = .woken (.confirmation k next)) : Orderly refused recalled r' := by
  refine h.follow hstaged [] hf List.nodup_nil nofun (fun c hc => ?_) fun c hc => .inl ?_
  · cases c with
    | confirmNotified i =>
      obtain ⟨t, ht, hphase⟩ := hc
      exact ⟨t, hconfirmations.symm ▸ ht, hphase⟩
    | dialogNotified k => exact Nat.lt_of_lt_of_eq hc hconfirmed.symm
    | _ => exact hc
  · cases c with
    | confirmNotified i =>
      obtain ⟨t, ht, hphase⟩ := hc
      exact ⟨t, hconfirmations ▸ ht, hphase⟩
    | dialogNotified k =>
      obtain ⟨next, hnext⟩ := hc
      exact ⟨next, hdialog k next hnext⟩
    | _ => exact hc

theorem follows_enqueueIf (r : Room ν) (isDue : Bool) {t : Room.Turn}
    (ht : (Negotiation.Turn.caller t).isNotice = false) :
    r.toScene.Follows refused recalled [] (r.enqueueIf isDue t).toScene := by
  cases isDue with
  | false => exact .refl r.toScene
  | true => exact .enqueue r.toScene ht

/-! ## Confirmations -/

theorem toGuests_updateConfirmation (r : Room ν) (i : Nat) (f : Task Unit Unit → Task Unit Unit) :
    (r.updateConfirmation i f).toGuests =
      { r.toGuests with confirmations := r.confirmations.modify i f } := by
  unfold updateConfirmation
  rw [List.modify_eq_set_getElem?]
  cases r.confirmations[i]? with
  | none => rfl
  | some t => exact toGuests_enqueueIf _ _ _

theorem follows_updateConfirmation (r : Room ν) (i : Nat) (f : Task Unit Unit → Task Unit Unit) :
    r.toScene.Follows refused recalled [] (r.updateConfirmation i f).toScene := by
  unfold updateConfirmation
  cases r.confirmations[i]? with
  | none => exact .refl r.toScene
  | some t =>
    exact follows_enqueueIf { r with confirmations := r.confirmations.set i (f t) } _ rfl

section

variable {g : Guests ν} {i : Nat} {f : Task Unit Unit → Task Unit Unit}

theorem Guests.waits_modify (hf : ∀ t, t.phase ≠ .ready → (f t).phase ≠ .ready) {c : Room.Turn}
    (h : g.Waits c) : { g with confirmations := g.confirmations.modify i f }.Waits c := by
  cases c with
  | confirmNotified j =>
    obtain ⟨t, ht, hphase⟩ := h
    by_cases hij : i = j
    · exact ⟨f t, by simp [ht, hij], hf t hphase⟩
    · exact ⟨t, by simp [ht, hij], hphase⟩
  | _ => exact h

theorem Guests.told_modify {c : Room.Turn}
    (h : { g with confirmations := g.confirmations.modify i f }.Told c) :
    g.Told c ∨ c = .confirmNotified i ∧
      ∃ t, g.confirmations[i]? = some t ∧ (f t).phase = .woken () := by
  cases c with
  | confirmNotified j =>
    obtain ⟨t', ht', hphase⟩ := h
    rw [List.getElem?_modify] at ht'
    obtain ⟨t, ht, rfl⟩ := Option.map_eq_some_iff.mp ht'
    by_cases hij : i = j
    · subst hij
      rw [if_pos rfl] at hphase
      exact .inr ⟨rfl, t, ht, hphase⟩
    · rw [if_neg hij] at hphase
      exact .inl ⟨t, ht, hphase⟩
  | _ => exact .inl h

end

/-- The task of a confirmation changes that has begun, and is told of no end but one that is true. -/
theorem Orderly.updateConfirmation (h : Orderly refused recalled r) (i : Nat)
    {f : Task Unit Unit → Task Unit Unit} (hready : ∀ t, t.phase ≠ .ready → (f t).phase ≠ .ready)
    (htold : ∀ t, r.confirmations[i]? = some t → (f t).phase = .woken () →
      t.phase = .woken () ∨ r.Over [] (.caller (.confirmNotified i))) :
    Orderly refused recalled (r.updateConfirmation i f) := by
  have hguests := toGuests_updateConfirmation r i f
  refine h.follow (h.known.staged.visited (visits_updateConfirmation (P := fun _ => True) r i f).visited)
    [] (follows_updateConfirmation r i f) List.nodup_nil nofun (fun c hc => ?_) fun c hc => ?_
  · rw [hguests]
    exact Guests.waits_modify hready hc
  · rw [hguests] at hc
    rcases Guests.told_modify hc with hold | ⟨rfl, t, ht, hphase⟩
    · exact .inl hold
    · exact (htold t ht hphase).imp_left fun hold => ⟨t, ht, hold⟩

theorem Orderly.finishConfirmation (h : Orderly refused recalled r) (i : Nat) (how : Ending Unit) :
    Orderly refused recalled (r.updateConfirmation i fun _ => .finished how) :=
  h.updateConfirmation i (fun _ _ => nofun) nofun

/-- A confirmation begins, and waits for one task at most. -/
theorem Orderly.beginConfirmation (h : Orderly refused recalled r) {i : Nat} {t : Task Unit Unit}
    (ht : r.confirmations[i]? = some t) (hstart : t.start = .first)
    (hrecalled : ∀ j, r.toScene.Recalls (.confirm (.confirmNotified i)) j → recalled j) :
    Orderly refused recalled (r.beginConfirmation i) := by
  have hstaged : Staged (r.beginConfirmation i).toNegotiation :=
    h.known.staged.visited (visits_beginConfirmation (P := fun _ => True) r i).visited
  unfold Room.beginConfirmation at hstaged ⊢
  cases hconfirm : r.toScene.confirm (.confirmNotified i) with
  | error e => exact h.finishConfirmation i _
  | ok result =>
    obtain ⟨waits, scene⟩ := result
    have hf : r.toScene.Follows refused recalled (if waits then [.confirmNotified i] else []) scene :=
      .confirm h.known.staged hconfirm hrecalled
    simp only [hconfirm] at hstaged
    cases waits with
    | false =>
      have hscene : Orderly refused recalled { r with toScene := scene } :=
        h.same (h.known.staged.visited (.confirm (P := fun _ => True) hconfirm)) hf rfl rfl
          fun _ _ => id
      exact hscene.finishConfirmation i _
    | true =>
      have hguests := toGuests_updateConfirmation { r with toScene := scene } i
        fun _ => .waitingFor ()
      refine h.follow hstaged [.confirmNotified i]
        (hf.trans (follows_updateConfirmation { r with toScene := scene } i _))
        (List.pairwise_singleton _ _) (fun c hc => ?_) (fun c hc => ?_) fun c hc => ?_
      · cases List.mem_singleton.mp hc
        constructor
        · rintro ⟨t', ht', hphase⟩
          cases ht.symm.trans ht'
          exact hphase (Task.phase_of_first hstart)
        · rw [hguests]
          exact ⟨.waitingFor (), by simp [ht], nofun⟩
      · rw [hguests]
        refine Guests.waits_modify (fun _ _ hready => ?_) hc
        cases hready
      · rw [hguests] at hc
        rcases Guests.told_modify hc with hold | ⟨-, t, -, hphase⟩
        · exact .inl hold
        · cases hphase

theorem Orderly.runConfirmation (h : Orderly refused recalled r) (i : Nat)
    (hrecalled : ∀ c ∈ r.callsIn (.caller (.confirm i)), ∀ j, c.1.Recalls c.2 j → recalled j) :
    Orderly refused recalled (r.runConfirmation i) := by
  unfold Room.runConfirmation
  unfold callsIn at hrecalled
  cases ht : r.confirmations[i]? with
  | none => exact h
  | some t =>
    simp only [ht, Option.map_some] at hrecalled
    dsimp only
    split
    · exact h
    · rename_i hstart
      simp only [hstart, List.mem_singleton, forall_eq] at hrecalled
      exact h.beginConfirmation ht hstart hrecalled
    all_goals exact h.finishConfirmation i _

/-! ## Readers of the outcome and the watcher -/

theorem toGuests_updateReader (r : Room ν) (i : Nat) (f : Task Unit Ticket → Task Unit Ticket) :
    ∃ readers, (r.updateReader i f).toGuests = { r.toGuests with readers } := by
  unfold updateReader
  cases r.readers[i]? with
  | none => exact ⟨r.readers, rfl⟩
  | some t => exact ⟨_, toGuests_enqueueIf _ _ _⟩

theorem Orderly.updateReader (h : Orderly refused recalled r) (i : Nat)
    (f : Task Unit Ticket → Task Unit Ticket) :
    Orderly refused recalled (r.updateReader i f) := by
  obtain ⟨readers, hguests⟩ := toGuests_updateReader r i f
  have hf : r.toScene.Follows refused recalled [] (r.updateReader i f).toScene := by
    unfold Room.updateReader
    cases r.readers[i]? with
    | none => exact .refl r.toScene
    | some t => exact follows_enqueueIf { r with readers := r.readers.set i (f t) } _ rfl
  refine h.same (h.known.staged.visited (visits_updateReader (P := fun _ => True) r i f).visited) hf
    ?_ ?_ ?_
  all_goals rw [hguests]
  exact fun _ _ => id

theorem Orderly.readOutcome (h : Orderly refused recalled r) (i : Nat) :
    Orderly refused recalled (r.readOutcome i) := by
  have hasks : Orderly refused recalled
      { r with toScene := (r.toScene.awaitOutcome (.readNotified i)).2 } :=
    h.same (h.known.staged.visited (.awaitOutcome (P := fun _ => True) r.toScene _))
      (.awaitOutcome r.toScene rfl) rfl rfl fun _ _ => id
  unfold Room.readOutcome
  split
  all_goals
    rename_i hscene
    rw [hscene] at hasks
    exact hasks.updateReader i _

theorem Orderly.runReader (h : Orderly refused recalled r) (i : Nat) :
    Orderly refused recalled (r.runReader i) := by
  unfold Room.runReader
  cases r.readers[i]? with
  | none => exact h
  | some t =>
    dsimp only
    split
    · exact h
    · exact h.readOutcome i
    · exact h.readOutcome i
    all_goals exact h.updateReader i _

theorem Orderly.enqueueWatcher (h : Orderly refused recalled r) (watcher : Task Unit Unit)
    (isDue : Bool) {t : Room.Turn} (ht : (Negotiation.Turn.caller t).isNotice = false) :
    Orderly refused recalled (enqueueIf { r with watcher } isDue t) := by
  have hguests := toGuests_enqueueIf { r with watcher } isDue t
  refine h.same (h.known.staged.visited
    (visited_enqueueIf (P := fun _ => True) { r with watcher } isDue t))
    (follows_enqueueIf { r with watcher } isDue ht) ?_ ?_ ?_
  all_goals rw [hguests]
  exact fun _ _ => id

theorem Orderly.runWatcher (h : Orderly refused recalled r) :
    Orderly refused recalled r.runWatcher := by
  have hends (how : Ending Unit) : Orderly refused recalled (r.endWatcher how) :=
    h.enqueueWatcher (.finished how) true rfl
  unfold Room.runWatcher
  split
  · split
    · rename_i scene hscene
      have hf : r.toScene.Follows refused recalled [] (r.toScene.awaitClosed .watch).2 :=
        .awaitClosed r.toScene rfl
      have hstaged := h.known.staged.visited
        (.awaitClosed (P := fun _ => True) r.toScene Room.Turn.watch)
      rw [hscene] at hf hstaged
      exact h.same hstaged hf rfl rfl fun _ _ => id
    · exact hends _
  · exact hends _
  · exact hends _
  · exact hends _
  · split
    · exact hends _
    · exact h

/-! ## The dialog -/

theorem Orderly.act (h : Orderly refused recalled r) {a : Action}
    (hrecalled : ∀ i, r.toScene.Recalls (.act a) i → recalled i) :
    Orderly refused recalled (r.act a).2 := by
  have hstaged : Staged (r.act a).2.toNegotiation :=
    h.known.staged.visited (visits_act (P := fun _ => True) r trivial).visited
  unfold Room.act at hstaged ⊢
  cases hact : r.toScene.act a with
  | error e => exact h
  | ok scene =>
    rw [hact] at hstaged
    exact h.same hstaged (.act hact hrecalled) rfl rfl fun _ _ => id

theorem Orderly.updateDialog (h : Orderly refused recalled r)
    {f : Task (Dialog.Wait ν) Unit → Task (Dialog.Wait ν) Unit}
    (htold : ∀ k next, (f r.dialog).phase = .woken (.confirmation k next) →
      r.dialog.phase = .woken (.confirmation k next) ∨ r.Over [] (.caller (.dialogNotified k))) :
    Orderly refused recalled (r.updateDialog f) := by
  have hguests : (r.updateDialog f).toGuests = { r.toGuests with dialog := f r.dialog } :=
    toGuests_enqueueIf _ _ _
  refine h.follow (h.known.staged.visited
    (visited_enqueueIf (P := fun _ => True) { r with dialog := f r.dialog } _ _))
    [] (follows_enqueueIf { r with dialog := f r.dialog } _ rfl) List.nodup_nil nofun
    (fun c hc => ?_) fun c hc => ?_
  · rw [hguests]
    cases c <;> exact hc
  · rw [hguests] at hc
    cases c with
    | dialogNotified k =>
      obtain ⟨next, hnext⟩ := hc
      exact (htold k next hnext).imp_left fun hold => ⟨next, hold⟩
    | _ => exact .inl hc

/-- However a dialog goes on, it waits for one task at most with every call to confirm. -/
theorem Orderly.proceed {d : Dialog ν} (h : Orderly refused recalled r)
    (hrecalled : ∀ c ∈ callsOf d r, ∀ i, c.1.Recalls c.2 i → recalled i) :
    Orderly refused recalled (Room.proceed d r) := by
  -- over the dialog as a tree, in any room, since every step may change the room
  induction d generalizing r with
  | ends how =>
    have hguests : (r.endDialog how).toGuests = { r.toGuests with dialog := .finished how } :=
      toGuests_enqueueIf _ _ _
    show Orderly refused recalled (r.endDialog how)
    refine h.same (h.known.staged.visited
      (visited_enqueueIf (P := fun _ => True) { r with dialog := .finished how } true _))
      (follows_enqueueIf { r with dialog := .finished how } true rfl) ?_ ?_ ?_
    all_goals rw [hguests]
    rintro k next hnext
    cases hnext
  | notes n next ih =>
    have hnoted : Orderly refused recalled (r.onScene (·.note [.noted n])) :=
      h.same h.known.staged (.note r.toScene _) rfl rfl fun _ _ => id
    exact ih hnoted hrecalled
  | looks next ih => exact ih r.view h hrecalled
  | acts a next ih =>
    have hacts : Orderly refused recalled (r.act a).2 :=
      h.act fun i => hrecalled _ List.mem_cons_self i
    exact ih _ hacts fun c hc => hrecalled c (List.mem_cons_of_mem _ hc)
  | confirms next ih =>
    unfold callsOf at hrecalled
    have hnow := hrecalled _ List.mem_cons_self
    unfold Room.proceed
    cases hconfirm : r.toScene.confirm (.dialogNotified r.confirmed) with
    | error e =>
      simp only [hconfirm] at hrecalled
      exact ih _ h fun c hc => hrecalled c (List.mem_cons_of_mem _ hc)
    | ok result =>
      obtain ⟨waits, scene⟩ := result
      have hf : r.toScene.Follows refused recalled
          (if waits then [.dialogNotified r.confirmed] else []) scene :=
        .confirm h.known.staged hconfirm hnow
      have hstaged := h.known.staged.visited (.confirm (P := fun _ => True) hconfirm)
      simp only [hconfirm] at hrecalled
      cases waits with
      | false =>
        have hscene : Orderly refused recalled { r with toScene := scene } :=
          h.same hstaged hf rfl rfl fun _ _ => id
        exact ih _ hscene fun c hc => hrecalled c (List.mem_cons_of_mem _ hc)
      | true =>
        refine h.follow hstaged [.dialogNotified r.confirmed] hf (List.pairwise_singleton _ _)
          (fun c hc => ?_) (fun c hc => ?_) fun c hc => ?_
        · cases List.mem_singleton.mp hc
          exact ⟨Nat.lt_irrefl _, Nat.lt_succ_self _⟩
        · cases c with
          | dialogNotified k => exact Nat.lt_succ_of_lt hc
          | _ => exact hc
        · cases c with
          | dialogNotified k =>
            obtain ⟨next', hnext⟩ := hc
            cases hnext
          | _ => exact .inl hc
  | waits what next onCancel =>
    refine h.same h.known.staged (.refl r.toScene) rfl rfl fun k next' hnext => ?_
    cases hnext

theorem Orderly.runDialog (h : Orderly refused recalled r)
    (hrecalled : ∀ c ∈ r.callsIn (.caller .dialog), ∀ i, c.1.Recalls c.2 i → recalled i) :
    Orderly refused recalled r.runDialog := by
  unfold callsIn at hrecalled
  rw [runDialog_eq]
  cases hresumed : r.resumed? with
  | none => exact h
  | some d =>
    simp only [hresumed] at hrecalled
    exact h.proceed hrecalled

theorem Orderly.notifyDialog (h : Orderly refused recalled r) {k : Nat}
    (hover : r.Over [] (.caller (.dialogNotified k))) :
    Orderly refused recalled (r.notifyDialog k) := by
  unfold Room.notifyDialog
  split
  · rename_i j next hw
    split
    · rename_i hjk
      subst hjk
      refine h.updateDialog fun k next' hphase => ?_
      rw [Task.wake_of_awaits hw] at hphase
      cases hphase
      exact .inr hover
    · exact h
  · exact h

theorem Orderly.tell (h : Orderly refused recalled r) : Orderly refused recalled r.tell := by
  unfold Room.tell
  split
  · rename_i what next onCancel hw
    refine h.updateDialog fun k next' hphase => ?_
    rw [Task.wake_of_awaits hw] at hphase
    cases hphase
  · exact h

/-! ## Turns -/

/-- The turn of a guest, who is told of no end but one that is true. -/
theorem Orderly.run_caller (h : Orderly refused recalled r) {t : Room.Turn}
    (hover : (Negotiation.Turn.caller t).isNotice = true → r.Over [] (.caller t))
    (hrecalled : ∀ c ∈ r.callsIn (.caller t), ∀ i, c.1.Recalls c.2 i → recalled i) :
    Orderly refused recalled (r.run (.caller t)) := by
  cases t with
  | confirm i => exact h.runConfirmation i hrecalled
  | confirmNotified i =>
    refine h.updateConfirmation i (fun t ht => ?_) fun _ _ _ => .inr (hover rfl)
    cases hw : t.awaits? with
    | none => rwa [Task.wake_of_awaits_none () hw]
    | some w =>
      rw [Task.wake_of_awaits hw]
      exact nofun
  | read i => exact h.runReader i
  | readNotified i => exact h.updateReader i _
  | dialog => exact h.runDialog hrecalled
  | dialogNotified k => exact h.notifyDialog (hover rfl)
  | watch => exact h.runWatcher
  | host | hostParting | hostOutcome => exact h

section

variable {u : Negotiation.Turn Room.Turn} {rest : List (Negotiation.Turn Room.Turn)}

/-- What the scene does in a turn that is nobody else's. An attempt is told of the end of its submission
when there is an outcome. -/
theorem Orderly.follows_run (h : Orderly refused recalled r) (hqueue : r.queue = u :: rest)
    (hu : ∀ c, u ≠ .caller c)
    (hrefused : ∀ i e, u = .attempt i → r.reply? i = some (.refused e) →
      (∃ m ∈ r.available, m ≠ .webauthn) → refused i)
    (hstops : ∀ i b, u = .attempt i → r.goesOn? i = some b → b.proceed.2 = .stopped →
      recalled i) :
    Scene.Follows refused recalled [] { r.toScene with queue := rest }
      (Scene.run { r.toScene with queue := rest } u) := by
  obtain ⟨hknown, hheard⟩ := h
  rw [hqueue] at hheard
  cases u with
  | attempt i =>
    exact .runAttempt hknown.staged hknown.traced (fun e he => hrefused i e rfl he)
      fun b => hstops i b rfl
  | attemptEnded i => exact .ended _ _
  | attemptNotified i =>
    refine .notifyAttempt _ i ?_
    have hover : r.Over [] (.attemptNotified i) := hheard [] _ rest rfl rfl
    obtain ⟨sub, -, -, hdone⟩ | ⟨j, a, ha, hin, -⟩ := hover.settled hknown.traced
    · exact hdone
    · obtain ⟨cs, hcs⟩ := (hknown.traced.attempts j a ha).told
      simp [hcs] at hin
  | submission => exact .runSubmission _
  | submissionEnded => exact .ended _ _
  | caller c => exact absurd rfl (hu c)

/-- The turn of an attempt or of the submission, or one in which the end of either is seen. -/
theorem Orderly.run_scene (h : Orderly refused recalled r) (hqueue : r.queue = u :: rest)
    (hu : ∀ c, u ≠ .caller c)
    (hrefused : ∀ i e, u = .attempt i → r.reply? i = some (.refused e) →
      (∃ m ∈ r.available, m ≠ .webauthn) → refused i)
    (hstops : ∀ i b, u = .attempt i → r.goesOn? i = some b → b.proceed.2 = .stopped →
      recalled i) :
    Orderly refused recalled (run { r with queue := rest } u) := by
  let s : Scene Room.Turn ν := { r.toScene with queue := rest }
  have hf : s.Follows refused recalled [] (s.run u) := h.follows_run hqueue hu hrefused hstops
  obtain ⟨hknown, hheard⟩ := h
  rw [hqueue] at hheard
  have hseen : (s.run u).Heard rest := by
    refine hheard.taken hf.persists ?_ ?_
    · rintro i a f rfl ha hhow
      exact Scene.Follows.done_run_attemptEnded ha hhow
    · rintro sub f rfl hsub hhow
      exact Scene.Follows.done_run_submissionEnded hsub hhow
  have hrun : run { r with queue := rest } u = { r with toScene := s.run u } := by
    cases u with
    | caller c => exact absurd rfl (hu c)
    | _ => rfl
  have hstaged : Staged (s.run u).toNegotiation :=
    (Staged.change hknown.staged (s.change_move (fun _ => .error .undecodableBytes) (.turn u))).staged
  obtain ⟨ts, hts, hnew⟩ := hf.queue hknown.traced
  have hqueue' : (s.run u).queue = rest ++ ts := hts
  have hboth := hseen.append hnew
  rw [← hqueue'] at hboth
  rw [hrun]
  exact ⟨hknown.follow (s := s) hstaged hf List.nodup_nil
    (fun c hc => absurd hc List.not_mem_nil) (fun _ => id) fun _ => .inl, hboth⟩

end

end SecondFactor.Negotiation.Room
