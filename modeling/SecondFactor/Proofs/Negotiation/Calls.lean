import SecondFactor.Proofs.Negotiation.Asking
import SecondFactor.Proofs.Negotiation.Pending
import SecondFactor.Proofs.Negotiation.Tracking

/-! # Requests to devices from begin to end

Whatever a platform makes of a request, and whenever its attempt is cancelled, the indicator is
shown when the request begins and hidden when it ends. The device is told to stop if the attempt was
cancelled, or the platform itself says so, and what the platform says is reported otherwise. One
thing that a platform can say is never heard. -/

namespace SecondFactor.Negotiation

variable {ν : Type}

/-! ## Rooms in which attempts may be cancelled -/

namespace Room

section

variable (script : Nat → Http.Outcome)

/-- Whether a step is that a request to a security key gets a reply. -/
def Step.isReply : Step ν → Bool
  | .reply .. => true
  | _ => false

/-- What can happen in a room in which replies come from platforms only: some other step, a platform
is done with what attempt `i` asked for, or somebody cancels the task of an attempt. -/
inductive Stir (ν : Type) where
  | step (st : Step ν) (hst : st.isReply = false)
  | finish (i : Nat) (o : Key.PlatformOutcome)
  | cancel (i : Nat)

/-- Lets something happen in a room. -/
def stir (r : Room ν) : Stir ν → Room ν
  | .step st _ => r.step script st
  | .finish i o =>
    match Key.Behaviour.answered? o with
    | some next => r.onScene (·.replyTo i next)
    | none => r
  | .cancel i => r.onScene (·.updateAttempt i Task.cancel)

/-- Lets things happen in a room, the first one first. -/
def stirs (r : Room ν) (ss : List (Stir ν)) : Room ν := ss.foldl (stir script) r

theorem stirs_append (r : Room ν) (ss ss' : List (Stir ν)) :
    r.stirs script (ss ++ ss') = (r.stirs script ss).stirs script ss' := List.foldl_append

theorem stirs_concat (r : Room ν) (ss : List (Stir ν)) (st : Stir ν) :
    r.stirs script (ss ++ [st]) = (r.stirs script ss).stir script st := List.foldl_append

/-- A platform that is done is heard, or nothing happens. -/
theorem stir_finish (r : Room ν) (i : Nat) (o : Key.PlatformOutcome) :
    r.stir script (.finish i o) = r ∨ ∃ next, Key.Behaviour.answered? o = some next ∧
      r.stir script (.finish i o) = r.onScene (·.replyTo i next) := by
  cases ho : Key.Behaviour.answered? o with
  | none => exact .inl (by simp only [stir, ho])
  | some next => exact .inr ⟨next, rfl, by simp only [stir, ho]⟩

end

/-- Whether what happens is that attempt `i` has its turn. -/
def TurnOf (r : Room ν) (st : Stir ν) (i : Nat) : Prop :=
  st = .step .next rfl ∧ r.queue.head? = some (.attempt i)

/-- What becomes of the scene in a room. -/
inductive Stirs (r : Room ν) : Stir ν → Scene Room.Turn ν → Prop where
  | turn {t : Negotiation.Turn Room.Turn} {rest : List (Negotiation.Turn Room.Turn)}
      (hqueue : r.queue = t :: rest) :
      Stirs r (.step .next rfl) (Scene.run { r.toScene with queue := rest } t)
  | guestsTurn {c : Room.Turn} {rest : List (Negotiation.Turn Room.Turn)}
      (hqueue : r.queue = .caller c :: rest) {s : Scene Room.Turn ν}
      (hv : Scene.Visited (fun _ => True) { r.toScene with queue := rest } s) :
      Stirs r (.step .next rfl) s
  | guests {st : Stir ν} (hturn : ∀ i, ¬ r.TurnOf st i) {s : Scene Room.Turn ν}
      (hv : r.toScene.Visited (fun _ => True) s) : Stirs r st s
  | finish (i : Nat) {o : Key.PlatformOutcome} {next : Key.Behaviour}
      (ho : Key.Behaviour.answered? o = some next) :
      Stirs r (.finish i o) (r.toScene.replyTo i next)
  | respond (o : Http.Outcome) : Stirs r (.step .respond rfl) (r.toScene.respond o)
  | aside (others : Outside) (notes : List ν) :
      Stirs r (.step (.aside others notes) rfl)
        { r.toScene with
          toOutside := r.toOutside.usedBy others
          log := r.log ++ notes.map .noted }
  | cancel (i : Nat) : Stirs r (.cancel i) (r.toScene.updateAttempt i Task.cancel)

variable (script : Nat → Http.Outcome) {r : Room ν}

/-- Attempts have no turns but those that are taken. -/
theorem not_turnOf {st : Stir ν} (hst : st ≠ .step .next rfl) (i : Nat) : ¬ r.TurnOf st i :=
  fun hturn => hst hturn.1

/-- Whatever happens in a room is one of these things. -/
theorem stirs_stir (st : Stir ν) : r.Stirs st (r.stir script st).toScene := by
  have hguests {st : Step ν} {hst : st.isReply = false} (hne : st ≠ .next)
      (hv : r.toScene.Visited (fun _ => True) (r.step script st).toScene) :
      r.Stirs (.step st hst) (r.step script st).toScene :=
    .guests (not_turnOf fun heq => hne (Stir.step.inj heq)) hv
  cases st with
  | cancel i => exact .cancel i
  | finish i o =>
    obtain heq | ⟨next, ho, heq⟩ := r.stir_finish script i o <;> rw [heq]
    · exact .guests (not_turnOf fun heq => by cases heq) (.refl r.toScene)
    · exact .finish i ho
  | step st hst =>
    cases st with
    | next =>
      cases hqueue : r.queue with
      | nil =>
        have hstir : r.stir script (.step .next rfl) = r := by simp only [stir, step, hqueue]
        rw [hstir]
        refine .guests (fun i hturn => ?_) (.refl r.toScene)
        have hhead := hturn.2
        rw [hqueue] at hhead
        cases hhead
      | cons t rest =>
        have hstir : r.stir script (.step .next rfl) = run { r with queue := rest } t := by
          simp only [stir, step, hqueue]
        rw [hstir]
        cases t with
        | caller c =>
          have hwithin : Guests.Within (fun _ => True) { r with queue := rest }.toGuests :=
            r.within_all
          by_cases hc : c.isGuests = true
          · exact .guestsTurn hqueue (visits_run hwithin hc).visited
          · cases c with
            | watch => exact .guestsTurn hqueue (visited_runWatcher { r with queue := rest })
            | host | hostParting | hostOutcome => exact .turn hqueue
            | _ => exact absurd rfl hc
        | attempt _ | attemptEnded _ | attemptNotified _ | submission | submissionEnded =>
          exact .turn hqueue
    | call c => exact hguests (by simp) (visits_call r.within_all c fun _ _ => trivial).visited
    | letIn d => exact hguests (by simp) (.enqueue r.toScene .dialog)
    | watch => exact hguests (by simp) (.enqueue r.toScene .watch)
    | tell => exact hguests (by simp) (visits_tell r.within_all).visited
    | cancelWatcher => exact hguests (by simp) (visited_cancelWatcher r)
    | awaitOutcome => exact hguests (by simp) (.awaitOutcome r.toScene .hostOutcome)
    | reply => cases hst
    | respond =>
      have hstir : (r.stir script (.step .respond rfl)).toScene =
          r.toScene.move script .respond := rfl
      rw [hstir]
      obtain heq | ⟨o, heq⟩ := r.toScene.move_respond script <;> rw [heq]
      · exact .guests (not_turnOf fun heq => by cases heq) (.refl r.toScene)
      · exact .respond o
    | aside others notes => exact .aside others notes

/-! ### What stays in order -/

theorem adapter_stir (r : Room ν) (st : Stir ν) : (r.stir script st).adapter = r.adapter := by
  cases st with
  | step st => exact Scene.adapter_of_leads (leads_step script r st)
  | finish i o =>
    obtain heq | ⟨next, -, heq⟩ := r.stir_finish script i o <;> rw [heq]
    exact congrArg (·.adapter) (Scene.toOutside_updateAttempt r.toScene i _)
  | cancel i => exact congrArg (·.adapter) (Scene.toOutside_updateAttempt r.toScene i Task.cancel)

/-- What was asked for stays known. -/
theorem asked_le_moves (s : Scene Room.Turn ν) (ms : List (Negotiation.Move Room.Turn ν)) :
    s.asked.length ≤ (s.moves script ms).asked.length := by
  induction ms generalizing s with
  | nil => exact Nat.le_refl _
  | cons m ms ih =>
    refine Nat.le_trans ?_ (ih (s.move script m))
    by_cases haside : ∃ others queue notes, m = .aside others queue notes
    · obtain ⟨others, queue, notes, rfl⟩ := haside
      simp [Scene.move, Outside.usedBy]
    · push Not at haside
      simp [Scene.asked_move script haside]

theorem asked_le_stir (r : Room ν) (st : Stir ν) :
    r.asked.length ≤ (r.stir script st).asked.length := by
  have htold (i : Nat) (f : Task Attempt.Wait Unit → Task Attempt.Wait Unit) :
      r.asked.length ≤ (r.toScene.updateAttempt i f).asked.length :=
    Nat.le_of_eq (congrArg (·.asked.length) (Scene.toOutside_updateAttempt r.toScene i f)).symm
  cases st with
  | step st hst =>
    obtain ⟨ms, hms⟩ := leads_step script r st
    have hstep : (r.stir script (.step st hst)).toScene = r.toScene.moves script ms := hms
    rw [hstep]
    exact asked_le_moves script r.toScene ms
  | finish i o =>
    obtain heq | ⟨next, -, heq⟩ := r.stir_finish script i o <;> rw [heq]
    exact htold i _
  | cancel i => exact htold i _

/-- No turn of an attempt or of the submission gets lost. -/
theorem alive_stir (h : r.Alive r.queue) (st : Stir ν) :
    (r.stir script st).Alive (r.stir script st).queue := by
  have hstirs := stirs_stir script (r := r) st
  generalize (r.stir script st).toScene = s at hstirs
  cases hstirs with
  | @turn t rest hqueue =>
    rw [hqueue] at h
    let taken : Scene Room.Turn ν := { r.toScene with queue := rest }
    have htaken : taken.Alive (t :: [] ++ taken.queue) := h
    exact Scene.alive_run htaken
  | guestsTurn hqueue hv =>
    rw [hqueue] at h
    exact (Scene.Upholds.visited hv).alive [] h.drop_caller
  | guests _ hv => exact (Scene.Upholds.visited hv).alive [] h
  | @finish i o next _ => exact (Scene.Upholds.replyTo r.toScene i next).alive [] h
  | respond o => exact (Scene.Upholds.respond r.toScene o).alive [] h
  | aside => exact ⟨h.attempts, h.submission⟩
  | cancel i => exact (Scene.Upholds.updateAttempt r.toScene i Task.cancel).alive [] h

/-! ## Where requests stand in a room -/

variable {said : Nat → Nat → Key.Behaviour → Prop} {p p' : Nat → Key.Standing}

/-- Whether requests stand so in a room in which a device can be asked. -/
structure Tracked (said : Nat → Nat → Key.Behaviour → Prop) (p : Nat → Key.Standing)
    (r : Room ν) : Prop where
  adapter : r.adapter = some fun _ => .device
  alive : r.Alive r.queue
  tracks : r.toScene.Tracks said p [] (devices r.log)
  fresh : ∀ k, r.asked.length ≤ k → p k = .unasked

/-- What happens to the scene in a room does to requests what it may do. -/
theorem tracks_stirs (h : r.Tracked said p) {st : Stir ν} {s : Scene Room.Turn ν}
    (hs : r.Stirs st s)
    (hsaid : ∀ i o next, st = .finish i o → Key.Behaviour.answered? o = some next →
      ∀ k, r.engaged? i = some (k, false) → said i k next) :
    ∃ p', r.Marks (r.TurnOf st) p p' ∧ s.Tracks said p' [] (devices s.log) := by
  obtain ⟨hadapter, -, htracks, hfresh⟩ := h
  have hspares {s' : Scene Room.Turn ν} (hs : r.toScene.Spares s') (hst : ∀ i, ¬ r.TurnOf st i) :
      ∃ p', r.Marks (r.TurnOf st) p p' ∧ s'.Tracks said p' [] (devices s'.log) := by
    rw [hs.log]
    exact ⟨p, .of_cancels (.refl p) hst, hs.tracks htracks⟩
  cases hs with
  | @turn t rest hqueue =>
    let taken : Scene Room.Turn ν := { r.toScene with queue := rest }
    have htaken : taken.Tracks said p (t :: []) (devices taken.log) := by
      have htracks : r.toNegotiation.Tracks said p r.queue (devices r.log) := htracks
      rwa [hqueue] at htracks
    have hadapter : taken.adapter = some fun _ => .device := hadapter
    obtain ⟨p', hmarks, hrun⟩ := Scene.tracks_run hadapter t htaken (hfresh _ (Nat.le_refl _))
    have hturn (i : Nat) : r.TurnOf (.step .next rfl) i ↔ t = .attempt i := by
      rw [TurnOf, hqueue]
      simp
    refine ⟨p', ⟨fun i k hi he => ?_, fun i k x hi hx => ?_, fun k => ?_⟩, hrun⟩
    · exact hmarks.engages i k ((hturn i).mp hi) ⟨he.first, he.options, he.number⟩
    · exact hmarks.exits i k x ((hturn i).mp hi) hx
    · refine (hmarks.stays k).imp_right (Or.imp_right fun hhappens => ?_)
      obtain ⟨i, hi, hhappens⟩ := hhappens
      refine ⟨i, (hturn i).mpr hi, hhappens.imp_left fun he => ?_⟩
      exact ⟨he.first, he.options, he.number⟩
  | @guestsTurn c rest hqueue _ hv =>
    have htaken : Scene.Tracks said p [] (devices r.log) { r.toScene with queue := rest } := by
      have htracks : r.toNegotiation.Tracks said p r.queue (devices r.log) := htracks
      rw [hqueue] at htracks
      exact htracks.of_hushes fun _ => List.mem_cons_of_mem _
    obtain ⟨p', hp, htracks⟩ := Scene.tracks_visited hv htaken
    refine ⟨p', .of_cancels hp fun i hturn => ?_, htracks⟩
    have hhead := hturn.2
    rw [hqueue] at hhead
    cases hhead
  | guests hturn hv =>
    obtain ⟨p', hp, htracks⟩ := Scene.tracks_visited hv htracks
    exact ⟨p', .of_cancels hp hturn, htracks⟩
  | @finish i o next ho =>
    refine ⟨p, .of_cancels (.refl p) (not_turnOf nofun), ?_⟩
    have hlog : (r.toScene.replyTo i next).log = r.log := Scene.log_updateAttempt r.toScene i _
    rw [hlog]
    exact Scene.tracks_replyTo htracks i ho (hsaid i o next rfl ho)
  | respond o =>
    exact hspares (.updateSubmission r.toScene _) (not_turnOf nofun)
  | aside others notes =>
    refine hspares ?_ (not_turnOf nofun)
    refine .of_same rfl rfl rfl rfl id rfl ?_
    simp [devices, List.filterMap_map, Function.comp_def, Event.device?]
  | cancel i =>
    obtain ⟨p', hp, hcancelled⟩ := Scene.tracks_cancel htracks i
    refine ⟨p', .of_cancels hp (not_turnOf (by simp)), ?_⟩
    rw [Scene.log_updateAttempt]
    exact hcancelled

/-- An attempt has its turn in a room as it has it in a scene. -/
theorem stir_of_turnOf {st : Stir ν} {i : Nat} (h : r.TurnOf st i) :
    ∃ rest, (r.stir script st).toScene = Scene.runAttempt { r.toScene with queue := rest } i := by
  obtain ⟨rfl, hhead⟩ := h
  obtain ⟨rest, hqueue⟩ := List.head?_eq_some_iff.mp hhead
  exact ⟨rest, by simp only [stir, step, hqueue, run, onScene, Scene.run]⟩

/-- What happens in a room does to requests what it may do, and makes no other request known. -/
theorem Tracked.stir (h : r.Tracked said p) (st : Stir ν)
    (hsaid : ∀ i o next, st = .finish i o → Key.Behaviour.answered? o = some next →
      ∀ k, r.engaged? i = some (k, false) → said i k next) :
    ∃ p', r.Marks (r.TurnOf st) p p' ∧ (r.stir script st).Tracked said p' := by
  obtain ⟨p', hmarks, htracks⟩ := tracks_stirs h (stirs_stir script st) hsaid
  have hadapter := (adapter_stir script r st).trans h.adapter
  refine ⟨p', hmarks, hadapter, alive_stir script h.alive st, htracks, fun k hk => ?_⟩
  have hfresh := h.fresh k (Nat.le_trans (asked_le_stir script r st) hk)
  rcases hmarks.stays k with heq | ⟨i, hwaiting, -⟩ | ⟨i, hi, he | ⟨x, hx, -⟩⟩
  · exact heq.trans hfresh
  · cases hfresh.symm.trans hwaiting
  · obtain ⟨rest, hrest⟩ := stir_of_turnOf script hi
    let taken : Scene Room.Turn ν := { r.toScene with queue := rest }
    have htaken : taken.Engages i k := ⟨he.first, he.options, he.number⟩
    have hlt : k < (taken.runAttempt i).asked.length :=
      Scene.lt_asked_of_engages (s := taken) h.adapter htaken
    rw [← hrest] at hlt
    exact absurd hk (Nat.not_le.mpr hlt)
  · obtain ⟨c, hwaiting, -⟩ := h.tracks.waiting_of_exits hx
    cases hfresh.symm.trans hwaiting

/-- A request goes its way. -/
theorem Tracked.leads (h : r.Tracked said p) {turn : Nat → Prop} (hmarks : r.Marks turn p p')
    (k : Nat) : (p k).Leads (p' k) := by
  rcases hmarks.stays k with heq | ⟨i, hbefore, hafter⟩ | ⟨i, -, he | ⟨x, hx, hleft⟩⟩
  · rw [heq]
    exact .refl _
  · rw [hbefore, hafter]
    exact ⟨rfl, fun _ => rfl⟩
  · rw [h.fresh k (Nat.le_of_eq he.number.symm)]
    trivial
  · obtain ⟨c, hwaiting, hc⟩ := h.tracks.waiting_of_exits hx
    rw [hwaiting, hleft]
    exact hc.mp

/-- Whether attempt `i` begins request `k`. -/
def Begins (r : Room ν) (st : Stir ν) (i k : Nat) : Prop := r.TurnOf st i ∧ r.Engages i k

/-- Whether attempt `i` leaves request `k`. -/
def Ends (r : Room ν) (st : Stir ν) (i k : Nat) (x : Key.Exit) : Prop :=
  r.TurnOf st i ∧ r.Exits i k x

/-- Each request goes its way in a run, and is left by the attempt that was in the middle of it. -/
theorem Tracked.stirs (h : r.Tracked said p) (ss : List (Stir ν))
    (hsaid : ∀ before i o next after, ss = before ++ .finish i o :: after →
      Key.Behaviour.answered? o = some next →
        ∀ k, (r.stirs script before).engaged? i = some (k, false) → said i k next) :
    ∃ p', (r.stirs script ss).Tracked said p' ∧ (∀ k, (p k).Leads (p' k)) ∧
      ∀ k x, p' k = .left x → p k = .left x ∨
        ∃ before st after i c, ss = before ++ st :: after ∧
          (r.stirs script before).Ends st i k x ∧ (p k).Leads (.waiting i c) := by
  induction ss using List.reverseRecOn with
  | nil => exact ⟨p, h, fun k => .refl _, fun k x => .inl⟩
  | append_singleton ss st ih =>
    obtain ⟨p', h', hleads, hleft⟩ := ih fun before i o next after hss =>
      hsaid before i o next (after ++ [st]) (by rw [hss]; simp)
    obtain ⟨p'', hmarks, h''⟩ := h'.stir script st fun i o next hst =>
      hsaid ss i o next [] (by rw [hst])
    rw [stirs_concat]
    refine ⟨p'', h'', fun k => (hleads k).trans (h'.leads hmarks k), fun k x hk => ?_⟩
    rcases hmarks.stays k with heq | ⟨i, -, hwaiting⟩ | ⟨i, hi, he | ⟨x', hx, hleft'⟩⟩
    · refine (hleft k x (heq.symm.trans hk)).imp_right fun hends => ?_
      obtain ⟨before, st', after, i, c, hss, hends⟩ := hends
      exact ⟨before, st', after ++ [st], i, c, by rw [hss]; simp, hends⟩
    · cases hwaiting.symm.trans hk
    · cases (hmarks.engages i k hi he).symm.trans hk
    · cases hleft'.symm.trans hk
      obtain ⟨c, hwaiting, -⟩ := h'.tracks.waiting_of_exits hx
      exact .inr ⟨ss, st, [], i, c, rfl, ⟨hi, hx⟩, hwaiting ▸ hleads k⟩

/-- When a negotiation begins nothing was asked yet. -/
theorem tracked_ofChallenge {userid ticket : String} {c : Challenge} {n : Negotiation Room.Turn}
    (hn : ofChallenge userid ticket c = .ok n) {o : Outside}
    (hdevice : o.adapter = some fun _ => .device)
    (said : Nat → Nat → Key.Behaviour → Prop) :
    Tracked said (fun _ => .unasked) ({ toOutside := o, toNegotiation := n } : Room ν) := by
  have halive := (Scene.accounted_ofChallenge (ν := ν) hn o).alive
  obtain ⟨active, options, -, rfl⟩ := ofChallenge_ok hn
  refine ⟨hdevice, halive, ⟨fun k => rfl, fun i k c => ?_, fun i a ha => ?_, fun i hi => ?_⟩, ?_⟩
  · exact iff_of_false (fun heq => by cases heq) fun heq => by cases heq
  · exact absurd ha (by simp)
  · rcases hi with hdue | ⟨sub, hsub, -⟩
    · exact absurd hdue (by simp)
    · cases hsub
  · exact fun _ _ => rfl

/-- Whether attempt `i` is in the middle of request `k`. While no turn is due, the attempt has heard
nothing from the platform and was not cancelled. -/
def UnderWay (r : Room ν) (i k : Nat) : Prop :=
  ∃ c, r.engaged? i = some (k, c) ∧
    (r.queue = [] → c = false ∧ ∃ a, r.attempts[i]? = some a ∧ a.asking? = some k)

/-- An attempt that has heard from its platform, or was cancelled, has another turn. -/
theorem underWay_of_engaged (h : r.Alive r.queue) {i k : Nat} {c : Bool}
    (hengaged : r.engaged? i = some (k, c)) : r.UnderWay i k := by
  refine ⟨c, hengaged, fun hqueue => ?_⟩
  obtain ⟨a, ha, hk, rfl⟩ := exists_of_engaged hengaged
  rw [hqueue] at h
  have hrests : a.task.isDue = false := by
    by_contra hdue
    exact absurd (h.attempts i a ha (by simpa using hdue)) List.not_mem_nil
  unfold Attempt.device? at hk
  split at hk
  · rename_i hphase
    cases hk
    have hcancelling : a.task.cancelling = false := by simpa [Task.isDue, hphase] using hrests
    exact ⟨hcancelling, a, ha, by simp [Attempt.asking?, Task.awaits?, hphase, hcancelling]⟩
  · rename_i hphase
    simp [Task.isDue, hphase] at hrests
  · cases hk

/-! ## One request in a run -/

/-- Whether requests stand so in a room, whatever was replied to them. -/
abbrev Followed (p : Nat → Key.Standing) (r : Room ν) : Prop := r.Tracked (fun _ _ _ => True) p

section

variable {st : Stir ν} {ss : List (Stir ν)} {i k : Nat} {x : Key.Exit}

theorem Followed.stir (h : r.Followed p) (st : Stir ν) :
    ∃ p', r.Marks (r.TurnOf st) p p' ∧ (r.stir script st).Followed p' :=
  Tracked.stir script h st fun _ _ _ _ _ _ _ => trivial

theorem Followed.stirs (h : r.Followed p) (ss : List (Stir ν)) :
    ∃ p', (r.stirs script ss).Followed p' ∧ (∀ k, (p k).Leads (p' k)) ∧
      ∀ k x, p' k = .left x → p k = .left x ∨
        ∃ before st after i c, ss = before ++ st :: after ∧
          (r.stirs script before).Ends st i k x ∧ (p k).Leads (.waiting i c) :=
  Tracked.stirs script h ss fun _ _ _ _ _ _ _ _ _ => trivial

/-- A request that begins is under way until its attempt leaves it. -/
theorem Followed.begins (h : r.Followed p) (hbegins : r.Begins st i k) (ss : List (Stir ν)) :
    around k (devices r.log) = [] ∧
      ((r.stirs script (st :: ss)).UnderWay i k ∧
          around k (devices (r.stirs script (st :: ss)).log) = [.shown, .asked] ∨
        ∃ before st' after x, ss = before ++ st' :: after ∧
          (r.stirs script (st :: before)).Ends st' i k x) := by
  obtain ⟨hturn, hengages⟩ := hbegins
  obtain ⟨p', hmarks, h'⟩ := h.stir script st
  obtain ⟨p'', h'', hleads, hleft⟩ := h'.stirs script ss
  have hbegun : p' k = .waiting i false := hmarks.engages i k hturn hengages
  have hlead := hleads k
  rw [hbegun] at hlead
  refine ⟨?_, ?_⟩
  · rw [h.tracks.events, h.fresh k (Nat.le_of_eq hengages.number.symm)]
    rfl
  · cases hk : p'' k with
    | unasked =>
      rw [hk] at hlead
      exact hlead.elim
    | waiting j c =>
      rw [hk] at hlead
      obtain ⟨rfl, -⟩ := hlead
      refine .inl ⟨underWay_of_engaged h''.alive ((h''.tracks.engaged j k c).mpr hk), ?_⟩
      have hevents := h''.tracks.events k
      rw [hk] at hevents
      exact hevents
    | left x =>
      obtain hleft | ⟨before, st', after, j, c, hss, hends, hlead'⟩ := hleft k x hk
      · cases hbegun.symm.trans hleft
      · rw [hbegun] at hlead'
        obtain ⟨rfl, -⟩ := hlead'
        exact .inr ⟨before, st', after, x, hss, hends⟩

/-- What happened around the device when an attempt leaves a request is all that ever will. -/
theorem Followed.ends (h : r.Followed p) (hends : r.Ends st i k x) (ss : List (Stir ν)) :
    around k (devices (r.stirs script (st :: ss)).log) = (Key.Standing.left x).events := by
  obtain ⟨p', hmarks, h'⟩ := h.stir script st
  obtain ⟨p'', h'', hleads, -⟩ := h'.stirs script ss
  have hlead := hleads k
  rw [hmarks.exits i k x hends.1 hends.2] at hlead
  have hevents := h''.tracks.events k
  rw [hlead] at hevents
  exact hevents

/-- An attempt that was cancelled in the middle of a request gives it up. -/
theorem Followed.givesUp (h : r.Followed p) (hcancelled : r.engaged? i = some (k, true))
    (hends : (r.stirs script ss).Ends st i k x) : x = .givenUp := by
  obtain ⟨p', h', hleads, -⟩ := h.stirs script ss
  obtain ⟨c, hwaiting, hc⟩ := h'.tracks.waiting_of_exits hends.2
  have hlead := hleads k
  rw [(h.tracks.engaged i k true).mp hcancelled, hwaiting] at hlead
  exact hc.mp (hlead.2 rfl)

/-- When an attempt leaves a request, all has happened around the device before the attempt ends or
goes on. -/
theorem Tracked.leaves (h : r.Tracked said p) (hends : r.Ends st i k x) :
    around k (devices r.log) = [.shown, .asked] ∧
      ∃ s : Scene Room.Turn ν, around k (devices s.log) = (Key.Standing.left x).events ∧
        s.Leaves i x (r.stir script st).toScene := by
  obtain ⟨hturn, hexits⟩ := hends
  obtain ⟨c, hwaiting, -⟩ := h.tracks.waiting_of_exits hexits
  have hevents := h.tracks.events k
  rw [hwaiting] at hevents
  obtain ⟨rest, hrun⟩ := stir_of_turnOf script hturn
  let taken : Scene Room.Turn ν := { r.toScene with queue := rest }
  have htaken : taken.Exits i k x := hexits
  obtain ⟨events, hmore, hleaves⟩ :=
    Scene.leaves_runAttempt htaken fun a ha => (h.tracks.goes i a ha).behaves
  refine ⟨hevents, taken.note events, ?_, hrun ▸ hleaves⟩
  have hlog : devices (taken.note events).log = devices r.log ++ devices events :=
    devices_append r.log events
  rw [hlog, hmore, around_append, around_self, hevents]
  rfl

end

end Room

/-! ## Main results -/

/-- Whether the indicator was shown once, and then hidden once and for all. -/
def Retracts (es : List Key.DeviceEvent) : Prop :=
  ∃ between, es = .shown :: between ++ [.hidden] ∧ .shown ∉ between ∧ .hidden ∉ between

theorem retracts_shown (between : List Key.DeviceEvent) (hshown : .shown ∉ between)
    (hhidden : .hidden ∉ between) : Retracts ([.shown, .asked] ++ (between ++ [.hidden])) :=
  ⟨.asked :: between, rfl, by simp [hshown], by simp [hhidden]⟩

/-- A request that is given up has its indicator hidden, and its device told to stop. -/
theorem retracts_givenUp : Retracts (Key.Standing.left .givenUp).events ∧
    .signalled ∈ (Key.Standing.left .givenUp).events :=
  ⟨retracts_shown [.signalled] (by decide) (by decide), by decide⟩

/-- So has a request whose platform is done, but the device is told to stop only if it was the
platform that cancelled. -/
theorem retracts_concludes {o : Key.PlatformOutcome} {next : Key.Behaviour}
    (ho : Key.Behaviour.Concludes o next) :
    Retracts (Key.Standing.left (.replied next)).events ∧
      (.signalled ∈ (Key.Standing.left (.replied next)).events ↔ o.Cancels) := by
  have hall : (Key.Standing.left (.replied next)).events = [.shown, .asked] ++ next.proceed.1 := rfl
  rw [hall]
  cases ho with
  | ends hbefore hevents _ _ hnot =>
    rw [hevents]
    rcases hbefore with rfl | rfl
    all_goals exact ⟨retracts_shown _ (by decide) (by decide), iff_of_false (by decide) hnot⟩
  | stops hbefore hevents _ hcancels =>
    rw [hevents]
    rcases hbefore with rfl | rfl
    · exact ⟨retracts_shown [.signalled] (by decide) (by decide),
        iff_of_true (by decide) hcancels⟩
    · exact ⟨retracts_shown [.fetched, .signalled] (by decide) (by decide),
        iff_of_true (by decide) hcancels⟩

/-- Whatever a platform makes of the requests to its device, and whenever attempts are cancelled:
once a request begins, its indicator is shown, and the request is under way until its attempt leaves
it. By then the indicator was hidden once and for all. A request is given up exactly if its attempt
was cancelled in the middle of it. Then the device was told to stop, and the attempt ends as
cancelled, whatever the platform makes of that. Otherwise the platform was done before, and was
heard: the device was told to stop exactly if the platform itself raised a cancellation, with which
the attempt ends, and otherwise the attempt goes on with a reply that says what the platform said. -/
theorem request_retracts (script : Nat → Http.Outcome) {userid ticket : String} {c : Challenge}
    {n : Negotiation Room.Turn} (hn : ofChallenge userid ticket c = .ok n) {ν : Type} (o : Outside)
    (hdevice : o.adapter = some fun _ => .device) (ss : List (Room.Stir ν)) :
    let room (ss : List (Room.Stir ν)) : Room ν :=
      Room.stirs script { toOutside := o, toNegotiation := n } ss
    let events (k : Nat) (ss : List (Room.Stir ν)) : List Key.DeviceEvent :=
      around k (devices (room ss).log)
    (∀ before st after i k, ss = before ++ st :: after → (room before).Begins st i k →
      events k before = [] ∧
        ((room ss).UnderWay i k ∧ events k ss = [.shown, .asked] ∨
          ∃ before' st' after' x, ss = before' ++ st' :: after' ∧ (room before').Ends st' i k x)) ∧
    ∀ before st after i k x, ss = before ++ st :: after → (room before).Ends st i k x →
      events k before = [.shown, .asked] ∧ Retracts (events k ss) ∧
      (x = .givenUp ↔ ∃ earlier, earlier <+: before ∧ (room earlier).engaged? i = some (k, true)) ∧
      ∃ s : Scene Room.Turn ν, around k (devices s.log) = events k ss ∧
        (x = .givenUp ∧ .signalled ∈ events k ss ∧
            (room (before ++ [st])).toScene = s.endAttempt i .cancelled ∨
          ∃ heard earlier between, x ≠ .givenUp ∧ before = earlier ++ .finish i heard :: between ∧
            (room earlier).engaged? i = some (k, false) ∧ ¬ heard.Vanishes ∧
            (.signalled ∈ events k ss ↔ heard.Cancels) ∧
            s.Heeds i heard (room (before ++ [st])).toScene) := by
  intro room events
  have hroom (before after : List (Room.Stir ν)) :
      room (before ++ after) = (room before).stirs script after :=
    Room.stirs_append script _ before after
  have hfollowed (before : List (Room.Stir ν)) : ∃ p, (room before).Followed p := by
    obtain ⟨p, h, -⟩ := Room.Followed.stirs script
      (Room.tracked_ofChallenge (ν := ν) hn hdevice _) before
    exact ⟨p, h⟩
  refine ⟨fun before st after i k hss hbegins => ?_, fun before st after i k x hss hends => ?_⟩
  · obtain ⟨p, h⟩ := hfollowed before
    obtain ⟨hbefore, hrest⟩ := h.begins script hbegins after
    refine ⟨hbefore, ?_⟩
    rw [← hroom, ← hss] at hrest
    refine hrest.imp_right fun hleft => ?_
    obtain ⟨between, st', later, x, hlater, hends⟩ := hleft
    rw [← hroom] at hends
    exact ⟨before ++ st :: between, st', later, x, by rw [hss, hlater]; simp, hends⟩
  · obtain ⟨p, h⟩ := hfollowed before
    obtain ⟨p', h', -⟩ := Room.Tracked.stirs script
      (Room.tracked_ofChallenge (ν := ν) hn hdevice fun i k next =>
        ∃ heard earlier between, before = earlier ++ .finish i heard :: between ∧
          (room earlier).engaged? i = some (k, false) ∧ Key.Behaviour.answered? heard = some next)
      before fun earlier i heard next between hbefore hheard k hengaged =>
        ⟨heard, earlier, between, hbefore, hengaged, hheard⟩
    obtain ⟨hbefore, s, hs, hleaves⟩ := h'.leaves script hends
    have hevents : events k ss = (Key.Standing.left x).events := by
      have hall := h.ends script hends after
      rwa [← hroom, ← hss] at hall
    have hgiven : x = .givenUp ↔
        ∃ earlier, earlier <+: before ∧ (room earlier).engaged? i = some (k, true) := by
      constructor
      · intro hx
        obtain ⟨c, hengaged, hc⟩ := hends.2.engaged
        exact ⟨before, List.prefix_rfl, hc.mpr hx ▸ hengaged⟩
      · rintro ⟨earlier, ⟨between, rfl⟩, hcancelled⟩
        obtain ⟨p, h⟩ := hfollowed earlier
        rw [hroom] at hends
        exact h.givesUp script hcancelled hends
    rw [hroom, hevents]
    cases x with
    | givenUp =>
      obtain ⟨hretracts, hsignalled⟩ := retracts_givenUp
      exact ⟨hbefore, hretracts, hgiven, s, hs, .inl ⟨rfl, hsignalled, hleaves.eq_of_givenUp⟩⟩
    | replied next =>
      obtain ⟨heard, earlier, between, hsplit, hengaged, hheard⟩ :=
        h'.tracks.said_of_exits hends.2
      have hconcludes := Key.Behaviour.concludes_answered hheard
      obtain ⟨hretracts, hsignalled⟩ := retracts_concludes hconcludes
      have hnot : ¬ heard.Vanishes := fun hvanishes => by
        cases hheard.symm.trans (Key.Behaviour.answered_eq_none_iff.mpr hvanishes)
      exact ⟨hbefore, hretracts, hgiven, s, hs, .inr ⟨heard, earlier, between, nofun, hsplit,
        hengaged, hnot, hsignalled, hleaves.heeds hconcludes⟩⟩

/-- A user who touches the security key, and an attempt that is cancelled before it hears of
that. -/
def withdrawnSteps : List (Room.Stir Unit) :=
  [.step (.call (.act .start)) rfl, .step .next rfl, .finish 0 (.response sampleResponse),
    .cancel 0, .step .next rfl]

/-- The room before each of these steps, or behind the last one. -/
def withdrawnRoom (n : Negotiation Room.Turn) (k : Nat) : Room Unit :=
  Room.stirs sampleScript { toOutside := deviceOutside, toNegotiation := n } (withdrawnSteps.take k)

/-- Although the platform was done, the device is told to stop. -/
theorem request_retracts_withdrawn :
    ∃ n : Negotiation Room.Turn, ofChallenge "root@pam" "PBS:!tfa!" sampleChallenge = .ok n ∧
      deviceOutside.adapter = some (fun _ => .device) ∧
        (withdrawnRoom n 4).Ends (.step .next rfl) 0 0 .givenUp ∧
        Retracts (around 0 (devices (withdrawnRoom n 5).log)) ∧
        .signalled ∈ around 0 (devices (withdrawnRoom n 5).log) := by
  obtain ⟨n, hn⟩ : ∃ n : Negotiation Room.Turn,
      ofChallenge "root@pam" "PBS:!tfa!" sampleChallenge = .ok n := ⟨_, rfl⟩
  have hends : (withdrawnRoom n 4).Ends (.step .next rfl) 0 0 .givenUp := by
    cases hn
    exact ⟨⟨rfl, rfl⟩, .givenUp rfl⟩
  obtain ⟨-, hends'⟩ := request_retracts sampleScript hn deviceOutside rfl withdrawnSteps
  obtain ⟨-, hretracts, -, s, -, hleft⟩ :=
    hends' (withdrawnSteps.take 4) (.step .next rfl) [] 0 0 .givenUp rfl hends
  obtain ⟨-, hsignalled, -⟩ | ⟨_, _, _, hnot, -⟩ := hleft
  · exact ⟨n, hn, rfl, hends, hretracts, hsignalled⟩
  · exact absurd rfl hnot

/-- A user who is asked to touch the security key, and a platform that is done with that. -/
def answeredSteps (o : Key.PlatformOutcome) : List (Room.Stir Unit) :=
  [.step (.call (.act .start)) rfl, .step .next rfl, .finish 0 o, .step .next rfl]

/-- The room behind these steps, if a device can be asked in it. -/
def answeredRoom (n : Negotiation Room.Turn) (o : Key.PlatformOutcome) : Room Unit :=
  Room.stirs sampleScript { toOutside := deviceOutside, toNegotiation := n } (answeredSteps o)

/-- The room in which an attempt is cancelled, and its device utters a refusal because it was told to
stop. -/
def stoppedRoom (n : Negotiation Room.Turn) : Room Unit :=
  let refusal : Key.PlatformError := .client ⟨.other, .status .keepaliveCancel⟩
  Room.stirs sampleScript { toOutside := deviceOutside, toNegotiation := n }
    [.step (.call (.act .start)) rfl, .step .next rfl, .cancel 0, .step .next rfl,
      .finish 0 (.error false refusal), .step .next rfl]

/-- Not all errors of a platform come through. Nobody hears of the end of an iteration that is
dropped: there is nothing left to do, and the attempt still waits with the indicator shown. One that
comes late is replaced. Who raises a cancellation has the device told to stop although nobody
cancelled the attempt. And an attempt that was cancelled does not hear of the refusal that its device
utters because of that. -/
theorem platform_errors_unheard :
    ∃ n : Negotiation Room.Turn, ofChallenge "root@pam" "PBS:!tfa!" sampleChallenge = .ok n ∧
      deviceOutside.adapter = some (fun _ => .device) ∧
      (let dropped := answeredRoom n (.error false (.endOfIteration true))
       dropped.queue = [] ∧ dropped.UnderWay 0 0 ∧
         around 0 (devices dropped.log) = [.shown, .asked]) ∧
      (answeredRoom n (.error true (.endOfIteration true))).attempts[0]?.bind (·.task.ending?) =
        some (.failed (.foreign (.crash "coroutine raised StopIteration"))) ∧
      .signalled ∈
        around 0 (devices (answeredRoom n (.error true (.cancelled false))).log) ∧
      (stoppedRoom n).attempts[0]?.bind (·.task.ending?) = some .cancelled ∧
        (stoppedRoom n).keyError.isNone = true := by
  refine ⟨_, rfl, rfl, ⟨rfl, ⟨false, rfl, fun _ => ⟨rfl, _, rfl, rfl⟩⟩, rfl⟩, rfl, ?_, rfl, rfl⟩
  decide

end SecondFactor.Negotiation
