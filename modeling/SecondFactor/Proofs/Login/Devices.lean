import SecondFactor.Proofs.Login.Requests
import SecondFactor.Proofs.Login.Waiting
import SecondFactor.Proofs.Negotiation.Switching
import SecondFactor.Proofs.Negotiation.Tending

/-! # No device is left behind

A login parts with its negotiation before it ends, however that comes about: the dialog is
cancelled, and no attempt with the security key goes on. -/

namespace SecondFactor

/-! ## In the room of the negotiation -/

namespace Negotiation.Room

variable {ν : Type} {answered : List Nat} {due due' : List (Negotiation.Turn Room.Turn)}
  {r r' : Room ν}

/-- Whether what is done in a room leaves no device behind. Its guests begin no attempt unasked, and
a dialog that is over stays so. -/
structure Tends (answered : List Nat) (due : List (Negotiation.Turn Room.Turn)) (r : Room ν)
    (due' : List (Negotiation.Turn Room.Turn)) (r' : Room ν) : Prop where
  tended : ∀ parted ds, Staged r.toNegotiation →
    r.toScene.Tended parted answered due (ds ++ devices r.log) →
      r'.toScene.Tended parted answered due' (ds ++ devices r'.log)
  guests : r'.Within (· ≠ .start)
  isOver : r.dialog.isOver = true → r'.dialog.isOver = true

theorem Tends.of_hushes (h : Tends answered due' r due' r')
    (hdue : Hushes (due ++ r.queue) (due' ++ r.queue)) : Tends answered due r due' r' :=
  { h with tended := fun parted ds hs hr => h.tended parted ds hs (hr.of_hushes hdue) }

theorem Tends.of_visits (hr : r.Within (· ≠ .start)) (h : r.Visits (· ≠ .start) r') :
    Tends answered due r due r' :=
  ⟨fun _ _ hs => Scene.tended_visited h.visited hs, h.within hr, h.isOver⟩

theorem Tends.of_spares (hr : r.Within (· ≠ .start)) {s : Scene Room.Turn ν}
    (hs : r.toScene.Spares s) : Tends answered due r due { r with toScene := s } :=
  ⟨fun _ _ _ => hs.tended_log, ⟨hr.script, hr.dialog⟩, id⟩

/-- Every turn in a room leaves no device behind. -/
theorem tends_run (hadapter : r.adapter = some fun _ => .device) (hr : r.Within (· ≠ .start))
    (t : Negotiation.Turn Room.Turn) : Tends answered (t :: due) r due (r.run t) := by
  have hdrop : Hushes (t :: due ++ r.queue) (due ++ r.queue) := fun _ => List.mem_cons_of_mem t
  have hscene : Tends answered (t :: due) r due (r.onScene (·.run t)) :=
    ⟨fun _ _ _ => Scene.tended_run hadapter t, ⟨hr.script, hr.dialog⟩, id⟩
  cases t with
  | caller t =>
    by_cases ht : t.isGuests = true
    · exact (Tends.of_visits hr (visits_run hr ht)).of_hushes hdrop
    · cases t with
      | watch =>
        obtain ⟨hscript, hdialog⟩ := dialog_runWatcher r
        refine ⟨fun parted ds hs hr => ?_, ⟨hscript ▸ hr.script, hdialog ▸ hr.dialog⟩, hdialog ▸ id⟩
        exact Scene.tended_visited (visited_runWatcher r) hs (hr.of_hushes hdrop)
      | host | hostParting | hostOutcome => exact hscene
      | _ => exact absurd rfl ht
  | attempt _ | attemptEnded _ | attemptNotified _ | submission | submissionEnded => exact hscene

end Negotiation.Room

namespace Login

open Negotiation (AtRest Hushes Room Staged)

variable {ν : Type}

/-! ## What a login leaves behind -/

/-- The device that an event is about, and what happened there. -/
def Event.device? : Event ν → Option (Nat × Key.DeviceEvent)
  | .negotiation e => e.device?
  | _ => none

/-- What happened around devices. -/
def devices (es : List (Event ν)) : List (Nat × Key.DeviceEvent) := es.filterMap Event.device?

theorem devices_append (es fs : List (Event ν)) : devices (es ++ fs) = devices es ++ devices fs :=
  List.filterMap_append

theorem devices_negotiation (es : List (Negotiation.Event ν)) :
    devices (es.map .negotiation) = Negotiation.devices es :=
  List.filterMap_map

/-- Whether a login does not wait for its dialog any more. -/
def Parted (l : Login ν) : Prop :=
  l.task.phase ≠ .waiting .parting ∧ l.task.phase ≠ .woken .parting

/-- Whether the devices that were asked for a login are looked after, and so is its dialog, once the
login has parted with it: it was cancelled before, is over, or is going to be told. -/
structure Tended (parted gone : Prop) (answered : List Nat)
    (due : List (Negotiation.Turn Room.Turn)) (es : List (Event ν)) (l : Login ν) : Prop where
  script : l.script.Within (· ≠ .start)
  guests : l.guests.Within (· ≠ .start)
  quiet : l.negotiation = none → devices es = [] ∧ ∀ i, .attemptNotified i ∉ due
  negotiation : ∀ n, l.negotiation = some n → n.Tended parted answered due (devices es)
  dialog : ∀ n, l.negotiation = some n → parted →
    gone ∨ l.guests.dialog.isOver = true ∨ l.guests.dialog.cancelling = true

section

variable {parted parted' gone gone' : Prop} {answered answered' : List Nat}
  {due due' : List (Negotiation.Turn Room.Turn)} {es es' : List (Event ν)} {l l' : Login ν}

/-- A login changes. It may have parted with a negotiation only if it did so before. -/
theorem Tended.of_same (h : l.Tended parted gone answered due es) (hscript : l'.script = l.script)
    (hguests : l'.guests = l.guests) (hnegotiation : l'.negotiation = l.negotiation)
    (hparted : l.negotiation = none ∨ (parted' → parted)) (hes : devices es' = devices es)
    (hdue : Hushes due due') : l'.Tended parted' gone answered due' es' where
  script := hscript ▸ h.script
  guests := hguests ▸ h.guests
  quiet := by
    rw [hnegotiation, hes]
    exact fun hn => (h.quiet hn).imp_right fun hsilent i hi => hsilent i (hdue i hi)
  negotiation := by
    rw [hnegotiation, hes]
    intro n hn
    have hbefore : parted' → parted := hparted.resolve_left (by simp [hn])
    exact ((h.negotiation n hn).imp hbefore).of_hushes hdue
  dialog := by
    rw [hnegotiation, hguests]
    intro n hn hp
    have hbefore : parted' → parted := hparted.resolve_left (by simp [hn])
    exact h.dialog n hn (hbefore hp)

theorem Tended.of_hushes (h : l.Tended parted gone answered due es) (hdue : Hushes due due') :
    l.Tended parted gone answered due' es :=
  h.of_same rfl rfl rfl (.inr id) rfl hdue

theorem Tended.of_task (h : l.Tended parted gone answered due es) (task : Task Wait Ticket)
    (hparted : l.negotiation = none ∨ (parted' → parted)) :
    ({ l with task } : Login ν).Tended parted' gone answered due es :=
  h.of_same rfl rfl rfl hparted rfl fun _ => id

theorem Tended.imp (h : l.Tended parted gone answered due es) (hparted : parted' → parted) :
    l.Tended parted' gone answered due es :=
  h.of_task l.task (.inr hparted)

/-- More devices answer, and more dialogs are cancelled. -/
theorem Tended.mono (h : l.Tended parted gone answered due es) (hgone : gone → gone')
    (hmore : answered ⊆ answered') : l.Tended parted gone' answered' due es :=
  { h with
    negotiation := fun n hn => (h.negotiation n hn).mono hmore
    dialog := fun n hn hp => (h.dialog n hn hp).imp_left hgone }

theorem parted_of_phase {p : Task.Phase Wait Ticket} (h : l.task.phase = p)
    (hwaiting : p ≠ .waiting .parting) (hwoken : p ≠ .woken .parting) : l.Parted := by
  rw [← h] at hwaiting hwoken
  exact ⟨hwaiting, hwoken⟩

end

/-! ## What may be done to logins -/

/-- The number of the request to a device that gets its reply. -/
def answers? (l : Login ν) : Deed → Option Nat
  | .reply j _ => l.negotiation.bind fun n => n.attempts[j]?.bind (·.asking?)
  | _ => none

/-- Whether a reply comes from a device, and no attempt begins unasked. -/
def Deed.Ordinary : Deed → Prop
  | .reply _ next => ∃ o, Key.Behaviour.answered? o = some next
  | .call c => c ≠ .act .start
  | .cancel | .tell | .respond => True

/-- Whether dialogs leave it to their logins to begin with the security key, and replies come from
devices. -/
def Occurrence.Ordinary : Occurrence ν → Prop
  | .login _ _ _ dialog => dialog.Within (· ≠ .start)
  | .deed _ d => d.Ordinary
  | .take _ => True

namespace Course

variable {script : Nat → Http.Outcome} {parted parted' gone : Prop} {answered : List Nat}
  {due due' : List (Negotiation.Turn Room.Turn)} {es : List (Event ν)} {c : Course ν}
  {f : Room ν → Room ν}

/-- Whether what came of a login leaves no device behind. -/
abbrev Tended (parted gone : Prop) (answered : List Nat)
    (due : List (Negotiation.Turn Room.Turn)) (es : List (Event ν)) (c : Course ν) : Prop :=
  c.toLogin.Tended parted gone answered (due ++ c.queue) (es ++ c.log)

/-! ## What guests do -/

/-- In its room a negotiation is looked after as it is in its login. -/
theorem tended_room (h : c.Tended parted gone answered due es)
    {r : Room ν} (hr : c.room? = some r) : r.toScene.Tended parted answered (due ++ c.queue)
      (devices (es ++ c.log) ++ Negotiation.devices r.log) := by
  obtain ⟨n, hn, rfl⟩ := Option.map_eq_some_iff.mp hr
  have hnegotiation := h.negotiation n hn
  rwa [← List.append_nil (due ++ c.queue), ← List.append_nil (devices _)] at hnegotiation

theorem tended_settleIn (hscript : c.script.Within (· ≠ .start)) {r : Room ν}
    (hguests : r.Within (· ≠ .start))
    (hr : r.toScene.Tended parted answered (due ++ c.queue)
      (devices (es ++ c.log) ++ Negotiation.devices r.log))
    (hdialog : parted → gone ∨ r.dialog.isOver = true ∨ r.dialog.cancelling = true) :
    (c.settleIn r).Tended parted gone answered due es := by
  refine ⟨hscript, ⟨hguests.script, hguests.dialog⟩, nofun, fun n hn => ?_, fun _ _ => hdialog⟩
  cases hn
  have hlog : devices (es ++ c.log) ++ Negotiation.devices r.log =
      devices (es ++ (c.settleIn r).log) := by
    rw [← devices_negotiation, ← devices_append, List.append_assoc]
    rfl
  have hqueue : due ++ c.queue ++ r.queue = due ++ (c.settleIn r).queue :=
    List.append_assoc due c.queue r.queue
  rwa [Negotiation.Scene.Tended, hlog, hqueue] at hr

/-- What is done in the room leaves no device behind. A dialog that is going to be told that it is
cancelled may be told. -/
theorem tended_inRoom (h : c.Tended parted gone answered due es)
    (hstaged : ∀ n, c.negotiation = some n → Staged n)
    (hgone : c.guests.dialog.cancelling = true → gone)
    (hdue : Hushes (due ++ c.queue) (due' ++ c.queue))
    (hf : ∀ r : Room ν, c.room? = some r →
      Room.Tends answered (due ++ c.queue) r (due' ++ c.queue) (f r)) :
    (c.inRoom f).Tended parted gone answered due' es := by
  unfold inRoom
  cases hr : c.room? with
  | none => exact h.of_hushes hdue
  | some r =>
    have htends := hf r hr
    have hbefore := tended_room h hr
    obtain ⟨n, hn, rfl⟩ := Option.map_eq_some_iff.mp hr
    refine tended_settleIn h.script htends.guests
      (htends.tended parted _ (hstaged n hn) hbefore) fun hp => ?_
    rcases h.dialog n hn hp with hgone' | hover | hcancelling
    · exact .inl hgone'
    · exact .inr (.inl (htends.isOver hover))
    · exact .inl (hgone hcancelling)

/-- The dialog is parted with. -/
theorem tended_part (h : c.Tended parted gone answered due es)
    (hstaged : ∀ n, c.negotiation = some n → Staged n) :
    c.part.Tended True gone answered due es := by
  cases hn : c.negotiation with
  | none =>
    rw [part, inRoom_none hn]
    exact h.of_task c.task (.inl hn)
  | some n =>
    let r : Room ν := { toOutside := c.toOutside, toNegotiation := n, toGuests := c.guests }
    let left : Room ν := r.cancelWatcher.cancelDialog
    have hr : c.room? = some r := by rw [room?, hn, Option.map_some]
    have hvisited : r.toScene.Visited (· ≠ .start) left.toScene :=
      (Room.visited_cancelWatcher r).trans (Room.visited_cancelDialog r.cancelWatcher)
    have hguests : left.toGuests = { c.guests with
        watcher := c.guests.watcher.cancel, dialog := c.guests.dialog.cancel } := by
      simp only [left, Room.cancelDialog, Room.updateDialog, Room.toGuests_enqueueIf,
        Room.cancelWatcher]
      rfl
    have hleft := Negotiation.Scene.tended_visited hvisited (hstaged n hn) (tended_room h hr)
    have hclosed := Negotiation.Scene.tended_close ((hstaged n hn).visited hvisited) hleft
    rw [← Negotiation.Scene.log_close] at hclosed
    rw [part, inRoom_some hn]
    refine tended_settleIn h.script ?_ hclosed fun _ => .inr ?_
    · exact hguests ▸ ⟨h.guests.script, h.guests.dialog.cancel⟩
    · exact hguests ▸ Task.over_or_cancelling_cancel c.guests.dialog

/-! ## Turns of a login -/

theorem tended_update (h : c.Tended parted gone answered due es)
    {g : Task Wait Ticket → Task Wait Ticket} (hparted : parted' → parted) :
    (c.update g).Tended parted' gone answered due es := by
  refine h.of_same rfl rfl rfl (.inr hparted) rfl (Hushes.append (fun i hi => ?_) due)
  unfold update at hi
  dsimp only at hi
  split at hi
  · rcases List.mem_append.mp hi with hin | hin
    · exact hin
    · cases List.mem_singleton.mp hin
  · exact hi

theorem tended_conclude (h : c.Tended parted gone answered due es)
    (hparted : c.negotiation = none ∨ (parted' → parted)) (result : Except Failure Ticket) :
    (c.conclude result).Tended parted' gone answered due es := by
  have hquiet (e : Event ν) (he : e.device? = none) :
      devices (es ++ (c.log ++ [e])) = devices (es ++ c.log) := by
    simp [devices, he]
  unfold conclude
  split
  · exact h.of_same rfl rfl rfl hparted (hquiet _ rfl) fun _ => id
  · split
    · exact h.of_same rfl rfl rfl hparted (hquiet _ rfl) fun _ => id
    · exact h.of_task _ hparted

/-- The login goes on with the outcome of the negotiation that it parted with, or waits for it. -/
theorem tended_awaitOutcome (h : c.Tended True gone answered due es) :
    c.awaitOutcome.Tended True gone answered due es := by
  unfold awaitOutcome
  split
  · exact tended_conclude h (.inr id) _
  · let asks : Course ν := c.inRoom fun r => r.onScene fun s => (s.awaitOutcome .hostOutcome).2
    have hasks : asks.Tended True gone answered due es := by
      unfold asks inRoom
      cases hr : c.room? with
      | none => exact h
      | some r =>
        have hspares := Negotiation.Scene.Spares.awaitOutcome r.toScene Room.Turn.hostOutcome
        have hafter := hspares.tended_log (tended_room h hr)
        obtain ⟨n, hn, rfl⟩ := Option.map_eq_some_iff.mp hr
        exact tended_settleIn h.script h.guests hafter (h.dialog n hn)
    exact hasks.of_task _ (.inr id)

/-- A negotiation begins, and parts with nothing. -/
theorem tended_negotiate (h : c.Tended parted gone answered due es) (hn : c.negotiation = none)
    (t : Ticket) : (c.negotiate t).Tended (c.negotiate t).Parted gone answered due es := by
  unfold negotiate
  split
  · exact tended_conclude h (.inl hn) _
  · rename_i n hmade
    obtain ⟨challenge, -, hof⟩ := Negotiation.exists_challenge hmade
    have hnew : n.attempts = [] ∧ n.stage.isOpen = true := by
      obtain ⟨active, options, -, rfl⟩ := Negotiation.ofChallenge_ok hof
      exact ⟨rfl, rfl⟩
    let begun : Course ν := { c with negotiation := some n, task := .waitingFor .parting }
    let r : Room ν := { toOutside := c.toOutside, toNegotiation := n, toGuests := c.guests }
    let r' : Room ν := ((r.onScene (·.start)).letIn c.script).watch
    have hbegun : begun.negotiation = some n := rfl
    have hparted {c' : Course ν} (htask : c'.task = .waitingFor .parting) : ¬ c'.Parted :=
      fun hparted => hparted.1 (congrArg Task.phase htask)
    have hstaged : Staged r.toNegotiation := Negotiation.staged_ofChallenge hof
    obtain ⟨hdevices, hsilent⟩ := h.quiet hn
    dsimp only
    rw [inRoom_some hbegun]
    have hstarted : r.start.Tended (begun.settleIn r').Parted answered (due ++ c.queue) [] := by
      refine Negotiation.Scene.tended_start hstaged hnew.2 hnew.1
        (Negotiation.active_of_ofChallenge hof) (hparted rfl) fun i => ?_
      rw [List.append_nil]
      exact hsilent i
    have hlet : r.start.Visited (· ≠ .start) r'.toScene :=
      .trans (.enqueue _ Room.Turn.dialog) (.enqueue _ Room.Turn.watch)
    have hstart : r.toScene.Visited (fun _ => True) r.start := .act (a := .start) trivial rfl
    have hquiet : r.start.log = [] := by
      unfold Negotiation.Scene.start
      split <;> rfl
    have hentered : r'.toScene.Tended (begun.settleIn r').Parted answered (due ++ c.queue)
        (devices (es ++ c.log) ++ Negotiation.devices r'.log) := by
      refine Negotiation.Scene.tended_visited hlet (hstaged.visited hstart) ?_
      rw [hdevices, hquiet]
      exact hstarted
    have hguests : r'.Within (· ≠ .start) := ⟨h.script, trivial⟩
    exact tended_settleIn (c := begun) h.script hguests hentered fun hp => absurd hp (hparted rfl)

theorem tended_receive (h : c.Tended parted gone answered due es) (hn : c.negotiation = none)
    (r : Http.Request) (o : Http.Outcome) :
    (c.receive r o).Tended (c.receive r o).Parted gone answered due es := by
  rw [receive_eq]
  let received : Course ν := { c with toOutside := c.toOutside.receive r o }
  have h' : received.Tended parted gone answered due es := h
  cases received.client.ticketResult r o with
  | error f => exact tended_conclude h' (.inl hn) _
  | ok t =>
    unfold take
    dsimp only
    split
    · exact tended_negotiate h' hn t
    · exact tended_conclude h' (.inl hn) _

theorem tended_submit (h : c.Tended parted gone answered due es) (hn : c.negotiation = none) :
    c.submit.Tended c.submit.Parted gone answered due es := by
  unfold submit
  cases c.toOutside.send (c.client.primaryCall c.credentials) with
  | error f => exact tended_conclude h (.inl hn) _
  | ok sent =>
    obtain ⟨r, outside⟩ := sent
    let noted : Course ν :=
      note { c with toOutside := outside } [.negotiation (.requested c.sent.length)]
    have h' : noted.Tended parted gone answered due es := by
      refine h.of_same rfl rfl rfl (.inr id) ?_ fun _ => id
      simp [noted, note, devices, Event.device?, Negotiation.Event.device?]
    dsimp only
    split
    · exact tended_receive h' hn r _
    · exact h'.of_task _ (.inl hn)

theorem tended_start (h : c.Tended parted gone answered due es) (hn : c.negotiation = none) :
    c.start.Tended c.start.Parted gone answered due es := by
  rw [start_eq]
  refine tended_submit (h.of_same rfl rfl rfl (.inr id) ?_ fun _ => id) hn
  simp [devices, List.filterMap_map, Event.device?, Function.comp_def]

/-- The turn of a login. It parts with its negotiation before it ends. -/
theorem tended_runLogin (halive : c.toLogin.Alive (.caller .host :: due ++ c.queue))
    (h : c.Tended c.Parted gone answered due es) :
    c.runLogin.Tended c.runLogin.Parted gone answered due es := by
  have hstaged (n : Negotiation Room.Turn) (hn : c.negotiation = some n) : Staged n :=
    (halive.housed n hn).1
  have hstands := halive.stands
  have hleft := tended_part h hstaged
  unfold runLogin
  split
  -- The login has no negotiation yet when its turn is the first, or brings the ticket.
  · rename_i hfirst
    rw [Task.phase_of_first hfirst] at hstands
    exact tended_start h hstands
  · rename_i hnews
    rw [Task.phase_of_news hnews] at hstands
    exact tended_receive h hstands _ _
  -- The dialog has ended: the login parts with it, and goes on.
  · exact (tended_awaitOutcome hleft).imp fun _ => trivial
  · rename_i hnews
    have hparted : c.Parted := parted_of_phase (Task.phase_of_news hnews) nofun nofun
    exact (tended_awaitOutcome (h.imp fun _ => hparted)).imp fun _ => trivial
  -- A cancellation that arrives while the dialog goes on parts with it as well.
  · exact hleft.of_task _ (.inr fun _ => trivial)
  · exact hleft.of_task _ (.inr fun _ => trivial)
  -- Any other cancellation finds the login parted already.
  · rename_i on hnot hcancelled
    refine h.of_task _ (.inr fun _ => ?_)
    cases on with
    | none => exact parted_of_phase (Task.phase_of_unbegun hcancelled) nofun nofun
    | some on =>
      refine parted_of_phase (Task.phase_of_cancelled hcancelled) (fun heq => ?_) nofun
      cases heq
      exact hnot rfl
  · rename_i news hnot hcancelled
    refine h.of_task _ (.inr fun _ => ?_)
    refine parted_of_phase (Task.phase_of_cancelledLate hcancelled) nofun fun heq => ?_
    cases heq
    exact hnot rfl
  · exact h
  · exact h

theorem tended_notifyParting (h : c.Tended c.Parted gone answered due es) :
    c.notifyParting.Tended c.notifyParting.Parted gone answered due es := by
  unfold notifyParting
  split
  · rename_i hw
    refine tended_update h fun hparted => absurd ?_ hparted.2
    exact congrArg Task.phase (Task.wake_of_awaits hw)
  · exact h

theorem tended_notifyOutcome (h : c.Tended c.Parted gone answered due es) :
    c.notifyOutcome.Tended c.notifyOutcome.Parted gone answered due es := by
  unfold notifyOutcome
  split
  · rename_i hw
    exact tended_update h fun _ => parted_of_phase (Task.phase_of_awaits hw) nofun nofun
  · exact h

theorem parted_inRoom (c : Course ν) (f : Room ν → Room ν) (hparted : (c.inRoom f).Parted) :
    c.Parted := by
  unfold inRoom at hparted
  split at hparted
  · exact hparted
  · exact hparted

/-- Every turn leaves no device behind. -/
theorem tended_run (hadapter : c.adapter = some fun _ => .device) {t : Negotiation.Turn Room.Turn}
    (halive : c.toLogin.Alive (t :: due ++ c.queue))
    (hgone : c.guests.dialog.cancelling = true → gone)
    (h : c.Tended c.Parted gone answered (t :: due) es) :
    (c.run t).Tended (c.run t).Parted gone answered due es := by
  have hdrop : Hushes (t :: due ++ c.queue) (due ++ c.queue) := fun _ => List.mem_cons_of_mem t
  have hdropped := h.of_hushes hdrop
  unfold run
  split
  · exact tended_runLogin halive hdropped
  · exact tended_notifyParting hdropped
  · exact tended_notifyOutcome hdropped
  · have hroom := tended_inRoom (f := (·.run t)) h (fun n hn => (halive.housed n hn).1) hgone hdrop
      fun r hr => ?_
    · exact hroom.imp (parted_inRoom c _)
    · obtain ⟨n, hn, rfl⟩ := Option.map_eq_some_iff.mp hr
      exact Room.tends_run hadapter h.guests t

/-! ## What is done to a login -/

/-- What is done to a login leaves no device behind. The devices that have answered by then are
those that had before, and one that answers now. -/
theorem tended_deed {answered' : List Nat} {d : Deed} (hd : d.Ordinary)
    (halive : c.toLogin.Alive (due ++ c.queue)) (hgone : c.guests.dialog.cancelling = true → gone)
    (hmore : answered ⊆ answered') (hanswers : ∀ k, c.toLogin.answers? d = some k → k ∈ answered')
    (h : c.Tended c.Parted gone answered due es) :
    (c.deed script d).Tended (c.deed script d).Parted gone answered' due es := by
  have hmono : c.Tended c.Parted gone answered' due es := h.mono id hmore
  have hroom {f : Room ν → Room ν} (hf : ∀ r : Room ν, c.room? = some r → r.Within (· ≠ .start) →
      Room.Tends answered' (due ++ c.queue) r (due ++ c.queue) (f r)) :
      (c.inRoom f).Tended (c.inRoom f).Parted gone answered' due es := by
    have hafter := tended_inRoom hmono (fun n hn => (halive.housed n hn).1) hgone (fun _ => id)
      fun r hr => hf r hr ?_
    · exact hafter.imp (parted_inRoom c f)
    · obtain ⟨n, -, rfl⟩ := Option.map_eq_some_iff.mp hr
      exact h.guests
  cases d with
  | cancel =>
    refine tended_update hmono fun hparted => ?_
    have hphase : (c.deed script .cancel).task.phase = c.task.phase := Task.phase_cancel c.task
    rwa [Parted, hphase] at hparted
  | tell => exact hroom fun r _ hr => .of_visits hr (Room.visits_tell hr)
  | respond =>
    unfold deed
    dsimp only
    split
    · unfold respond
      split
      · rename_i hw
        exact tended_update hmono fun _ => parted_of_phase (Task.phase_of_awaits hw) nofun nofun
      · exact hroom fun r _ hr => .of_spares hr (.updateSubmission r.toScene _)
    · exact hmono
  | reply j next =>
    obtain ⟨o, ho⟩ := hd
    refine hroom fun r hr hguests =>
      ⟨fun parted ds _ hscene => ?_, ⟨hguests.script, hguests.dialog⟩, id⟩
    have hlog : (r.onScene (·.replyTo j next)).log = r.log :=
      Negotiation.Scene.log_updateAttempt r.toScene j _
    rw [hlog]
    obtain ⟨n, hn, rfl⟩ := Option.map_eq_some_iff.mp hr
    refine Negotiation.Scene.tended_replyTo hscene j (fun a k ha hk => hanswers k ?_) ho
    have ha : n.attempts[j]? = some a := ha
    simp [answers?, hn, ha, hk]
  | call call =>
    refine hroom fun r _ hr => .of_visits hr (Room.visits_call hr call fun a ha => ?_)
    rintro rfl
    exact hd ha

/-- What is done to a login sends nothing. -/
theorem sends_deed (c : Course ν) (d : Deed) : c.Sends (c.deed script d) := by
  cases d with
  | cancel => exact .quiet rfl rfl rfl rfl
  | tell => exact sends_visited (fun r => (Room.visits_tell r.within_all).visited) c
  | respond =>
    unfold deed
    dsimp only
    split
    · exact sends_respond c _
    · exact .quiet rfl rfl rfl rfl
  | reply j next =>
    exact sends_inRoom (fun r => .of_traffic (r.toScene.traffic_updateAttempt j _)) c
  | call call =>
    refine sends_visited (fun r => ?_) c
    exact (Room.visits_call r.within_all call fun _ _ => trivial).visited

end Course

/-! ## Along a run -/

namespace World

variable (script : Nat → Http.Outcome)

/-- The number of the request to a device that gets its reply. -/
def answers? (w : World ν) : Occurrence ν → Option Nat
  | .deed i d => w.logins[i]?.bind (·.answers? d)
  | _ => none

/-- The requests to devices that get their replies along a run. -/
def answered (w : World ν) : List (Occurrence ν) → List Nat
  | [] => []
  | o :: os => (w.answers? o).toList ++ (w.occur script o).answered os

/-- Whether the dialog of a login was sent a cancellation at some time along a run. -/
def Dismisses (w : World ν) (os : List (Occurrence ν)) (i : Nat) : Prop :=
  ∃ before l, before <+: os ∧ (w.run script before).logins[i]? = some l ∧
    l.guests.dialog.cancelling = true

theorem answered_concat (w : World ν) (os : List (Occurrence ν)) (o : Occurrence ν) :
    w.answered script (os ++ [o]) =
      w.answered script os ++ ((w.run script os).answers? o).toList := by
  induction os generalizing w with
  | nil => exact List.append_nil _
  | cons first os ih =>
    rw [List.cons_append, answered, answered, ih, List.append_assoc]
    rfl

variable {script}

theorem Dismisses.concat {w : World ν} {os : List (Occurrence ν)} {i : Nat}
    (h : w.Dismisses script os i) (o : Occurrence ν) : w.Dismisses script (os ++ [o]) i := by
  obtain ⟨before, l, hbefore, hl⟩ := h
  exact ⟨before, l, hbefore.trans (List.prefix_append os [o]), hl⟩

theorem adapter_inCourse (w : World ν) (i : Nat) {f : Course ν → Course ν}
    (hf : ∀ c : Course ν, c.Sends (f c)) : (w.inCourse i f).adapter = w.adapter := by
  unfold inCourse
  cases hc : w.course? i with
  | none => rfl
  | some c =>
    obtain ⟨l, -, rfl⟩ := Option.map_eq_some_iff.mp hc
    obtain ⟨ns, hadds, -⟩ := hf { toOutside := w.toOutside, toLogin := l, store := w.store }
    exact hadds.adapter

/-- Devices behave the same, whatever happens. -/
theorem adapter_occur (w : World ν) (o : Occurrence ν) :
    (w.occur script o).adapter = w.adapter := by
  cases o with
  | login credentials keep levels dialog => rfl
  | deed i d => exact adapter_inCourse w i fun c => c.sends_deed d
  | take k =>
    unfold occur
    dsimp only
    split
    · rfl
    · exact adapter_inCourse _ _ fun c => c.sends_run _

/-- What holds of a login along a run: it goes on by itself, and leaves no device behind. -/
def Tends (gone : Nat → Prop) (answered : List Nat) : Invariant ν := fun i due es l =>
  l.Alive due ∧ l.Tended l.Parted (gone i) answered due es

theorem tends_unordered (gone : Nat → Prop) (answered : List Nat) :
    (Tends (ν := ν) gone answered).Unordered := fun _ _ _ _ _ hdue h =>
  ⟨h.1.mono fun t => (hdue t).mp, h.2.of_hushes fun _ => (hdue _).mpr⟩

theorem course_toLogin {w : World ν} {i : Nat} {c : Course ν} (hc : w.course? i = some c) :
    w.logins[i]? = some c.toLogin ∧ c.adapter = w.adapter := by
  obtain ⟨l, hl, rfl⟩ := Option.map_eq_some_iff.mp hc
  exact ⟨hl, rfl⟩

theorem tended_new (credentials : Credentials) (keep : Bool) (levels : Nat)
    {dialog : Negotiation.Dialog ν} (hdialog : dialog.Within (· ≠ .start)) (parted gone : Prop)
    (answered : List Nat) :
    ({ credentials, keep, levels, script := dialog } : Login ν).Tended parted gone answered
      [.caller .host] [] where
  script := hdialog
  guests := ⟨trivial, trivial⟩
  quiet := fun _ => ⟨rfl, by simp⟩
  negotiation := by
    intro n hn
    cases hn
  dialog := by
    intro n hn
    cases hn

/-- Every occurrence leaves no device behind. -/
theorem holds_occur {w : World ν} {gone gone' : Nat → Prop} {answered answered' : List Nat}
    (hw : w.Holds (Tends gone answered)) (hadapter : w.adapter = some fun _ => .device)
    (hgone : ∀ i l, w.logins[i]? = some l → l.guests.dialog.cancelling = true → gone i)
    (hmore : ∀ i, gone i → gone' i) {o : Occurrence ν} (ho : o.Ordinary)
    (hanswered : answered' = answered ++ (w.answers? o).toList) :
    (w.occur script o).Holds (Tends gone' answered') := by
  -- A dialog that is cancelled now may be told in this very occurrence, so its login is among those
  -- that sent a cancellation beforehand.
  let I : Invariant ν := fun i due es l =>
    Tends gone answered i due es l ∧ (l.guests.dialog.cancelling = true → gone i)
  have hI : w.Holds I := ⟨fun i l hl => ⟨hw.logins i l hl, hgone i l hl⟩, hw.queue, hw.log⟩
  have hsubset : answered ⊆ answered' := hanswered ▸ List.subset_append_left _ _
  have hstays (i : Nat) (due : List (Negotiation.Turn Room.Turn)) (es : List (Event ν))
      (l : Login ν) (h : I i due es l) : Tends gone' answered' i due es l :=
    ⟨h.1.1, h.1.2.mono (hmore i) hsubset⟩
  have hunordered : I.Unordered := fun _ _ _ _ _ hdue h =>
    ⟨tends_unordered gone answered _ _ _ _ _ hdue h.1, h.2⟩
  cases o with
  | login credentials keep levels dialog =>
    exact Holds.login hI (tends_unordered gone' answered') hstays credentials keep levels dialog
      ⟨alive_new credentials keep levels dialog, tended_new credentials keep levels ho _ _ _⟩
  | deed i d =>
    refine Holds.deed hI hstays i d fun c hc ⟨⟨halive, h⟩, hgone⟩ =>
      ⟨Course.alive_deed halive d, ?_⟩
    refine Course.tended_deed ho halive (hmore i ∘ hgone) hsubset (fun k hk => ?_)
      (h.mono (hmore i) (List.Subset.refl _))
    rw [hanswered]
    refine List.mem_append_right _ (Option.mem_toList.mpr ?_)
    simpa only [answers?, (course_toLogin hc).1, Option.bind_some] using hk
  | take k =>
    refine Holds.take hI hunordered hstays k fun i t due es c hc ⟨⟨halive, h⟩, hgone⟩ =>
      ⟨Course.alive_run halive, ?_⟩
    exact Course.tended_run (hc.trans hadapter) halive (hmore i ∘ hgone) (h.mono (hmore i) hsubset)

/-- A run in which devices behave as such leaves none of them behind. -/
theorem holds_run {w : World ν} (hw : ∀ I : Invariant ν, w.Holds I)
    (hadapter : w.adapter = some fun _ => .device) {os : List (Occurrence ν)}
    (hos : ∀ o ∈ os, o.Ordinary) :
    (w.run script os).Holds (Tends (w.Dismisses script os) (w.answered script os)) := by
  have hrun : (∀ o ∈ os, o.Ordinary) → (w.run script os).adapter = some (fun _ => .device) ∧
      (w.run script os).Holds (Tends (w.Dismisses script os) (w.answered script os)) := by
    refine run_induction script (P := fun os w' => (∀ o ∈ os, o.Ordinary) →
      w'.adapter = some (fun _ => .device) ∧
        w'.Holds (Tends (w.Dismisses script os) (w.answered script os))) ?_ ?_ os
    · exact fun _ => ⟨hadapter, hw _⟩
    · intro os o ih hos
      obtain ⟨hadapter, hholds⟩ := ih fun o ho => hos o (List.mem_append_left _ ho)
      refine ⟨(adapter_occur _ o).trans hadapter, ?_⟩
      have ho : o.Ordinary := hos o (List.mem_append_right _ (List.mem_singleton_self o))
      refine holds_occur hholds hadapter (fun i l hl hcancelling => ?_) (fun i h => h.concat o) ho
        (answered_concat script w os o)
      exact ⟨os, l, List.prefix_refl os, hl, hcancelling⟩
  exact (hrun hos).2

/-- No device is left behind, and no dialog. When none of the turns of a login is due, nobody waits
for a device any more if the login has ended, or its negotiation has turned to another method. If it
has ended, so has its dialog, unless that was sent a cancellation. -/
theorem leaves_no_device_behind (client : Http.Client) (script : Nat → Http.Outcome)
    (held : Nat → Bool) (store : Store) {os : List (Occurrence ν)} (hos : ∀ o ∈ os, o.Ordinary)
    {i : Nat} {l : Login ν} :
    let opening : World ν := World.opening client script held (some fun _ => .device) store
    let w := opening.run script os
    w.logins[i]? = some l → (∀ t, (i, t) ∉ w.queue) →
      (l.task.isOver = true → AtRest (opening.answered script os) (devices (w.eventsOf i)) ∧
        ∀ n, l.negotiation = some n →
          l.guests.dialog.isOver = true ∨ opening.Dismisses script os i) ∧
      ∀ n, l.negotiation = some n → n.active ≠ .webauthn →
        AtRest (opening.answered script os) (devices (w.eventsOf i)) := by
  intro opening w hl hsettled
  have hholds : w.Holds (Tends (opening.Dismisses script os) (opening.answered script os)) :=
    holds_run (fun I => holds_opening client held _ store) rfl hos
  have hdue : w.dueFor i = [] :=
    List.eq_nil_iff_forall_not_mem.mpr fun t ht => hsettled t (mem_dueFor.mp ht)
  obtain ⟨halive, htended⟩ := hholds.logins i l hl
  rw [hdue] at halive htended
  have hrest (n : Negotiation Room.Turn) (hn : l.negotiation = some n)
      (haway : n.active = .webauthn → l.Parted) :
      AtRest (opening.answered script os) (devices (w.eventsOf i)) := by
    refine (htended.negotiation n hn).atRest (fun j a ha => ?_) haway
    by_contra hisDue
    cases (halive.housed n hn).2.negotiation.attempts j a ha (by simpa using hisDue)
  refine ⟨fun hover => ?_, fun n hn haway => hrest n hn fun hkey => absurd hkey haway⟩
  obtain ⟨how, hending⟩ := Option.isSome_iff_exists.mp hover
  have hparted : l.Parted := parted_of_phase (Task.phase_of_ending hending) nofun nofun
  refine ⟨?_, fun n hn => ?_⟩
  · cases hn : l.negotiation with
    | none =>
      rw [(htended.quiet hn).1]
      exact ⟨rfl, fun k hk => absurd hk List.not_mem_nil⟩
    | some n => exact hrest n hn fun _ => hparted
  · rcases htended.dialog n hn hparted with hgone | hdialog | hcancelling
    · exact .inr hgone
    · exact .inl hdialog
    · exact .inr ⟨os, l, List.prefix_refl os, hl, hcancelling⟩

end World

/-- A backend that asks for the security key. -/
def keyScript (_ : Nat) : Http.Outcome :=
  sampleResponse ("PBS:!tfa!%7B%22webauthn%22%3A%7B%22publicKey%22%3A%7B%22challenge%22%3A" ++
    "%22AAAA%22%7D%7D%7D")

/-- A world in which a device is asked to answer that backend. -/
def keyWorld : World Unit :=
  World.opening { settings := {} } keyScript (fun _ => false) (some fun _ => .device) []

/-- A login that is cancelled while a device is asked, and its user thinks about it. -/
def cancelledLogin : List (Occurrence Unit) :=
  .login ⟨"root", "pw", "pam"⟩ false 995 (.waits () (.ends (.returned ())) (.ends .cancelled)) ::
    (List.replicate 4 (.take 0) ++ .deed 0 .cancel :: List.replicate 8 (.take 0))

theorem leaves_no_device_behind_cancelled :
    (∀ o ∈ cancelledLogin, o.Ordinary) ∧
      ∃ l, (keyWorld.run keyScript cancelledLogin).logins[0]? = some l ∧
        (∀ t, (0, t) ∉ (keyWorld.run keyScript cancelledLogin).queue) ∧ l.task.isOver = true ∧
        (0, .asked) ∈ devices ((keyWorld.run keyScript cancelledLogin).eventsOf 0) ∧
        AtRest (keyWorld.answered keyScript cancelledLogin)
          (devices ((keyWorld.run keyScript cancelledLogin).eventsOf 0)) := by
  have hos : ∀ o ∈ cancelledLogin, o.Ordinary := by
    simp [cancelledLogin, Occurrence.Ordinary, Deed.Ordinary, Negotiation.Dialog.Within]
  have hw : (keyWorld.run keyScript cancelledLogin).queue.isEmpty = true ∧
      (keyWorld.run keyScript cancelledLogin).logins[0]?.map (·.task.isOver) = some true ∧
      (0, .asked) ∈ devices ((keyWorld.run keyScript cancelledLogin).eventsOf 0) := by
    decide +kernel
  obtain ⟨hqueue, hended, hasked⟩ := hw
  have hsettled : ∀ t, (0, t) ∉ (keyWorld.run keyScript cancelledLogin).queue := by
    rw [List.isEmpty_iff.mp hqueue]
    exact fun t => List.not_mem_nil
  obtain ⟨l, hl, hover⟩ := Option.map_eq_some_iff.mp hended
  have hrest :=
    World.leaves_no_device_behind { settings := {} } keyScript (fun _ => false) [] hos hl hsettled
  exact ⟨hos, l, hl, hsettled, hover, hasked, (hrest.1 hover).1⟩

end Login

end SecondFactor
