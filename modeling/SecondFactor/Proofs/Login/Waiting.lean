import SecondFactor.Proofs.Login.Schedule
import SecondFactor.Proofs.Negotiation.Stage
import SecondFactor.Proofs.Negotiation.Waiting

/-! # What a login waits for

A login never waits for nothing. When none of its turns is due, it has ended, or it waits for the
backend, or for a dialog that can still bring a proof. -/

namespace SecondFactor.Login

open Negotiation (Room Staged)
open Negotiation.Room (Heralds Lively Upholds)

variable {ν : Type}

/-- Whether a login can stand there with this negotiation: there is none before the response to the
credentials, and the outcome is waited for only where a proof was accepted or the outcome is known. -/
def Stands (negotiation : Option (Negotiation Room.Turn)) : Task.Phase Wait Ticket → Prop
  | .ready | .waiting (.response _ _) | .woken (.responded _ _) => negotiation = none
  | .waiting .parting | .woken .parting => ∃ n, negotiation = some n
  | .waiting .outcome | .woken .outcome =>
    ∃ n, negotiation = some n ∧ (n.submission.isSome = true ∨ n.done = true)
  | .waiting (.responded _ _) | .woken (.response _ _) => False
  | .ended _ => True

/-- Whether all that is in the room of a login goes on by itself. -/
def Housed (due : List (Negotiation.Turn Room.Turn)) (l : Login ν) : Prop :=
  ∀ n, l.negotiation = some n → Staged n ∧ Lively due n l.guests

/-- Whether a login goes on by itself unless it waits for somebody else, given the turns that are
due. -/
structure Alive (due : List (Negotiation.Turn Room.Turn)) (l : Login ν) : Prop where
  host : l.task.isDue = true → .caller .host ∈ due
  stands : Stands l.negotiation l.task.phase
  parting : l.task.awaits? = some .parting → Heralds due l.guests
  outcome : l.task.awaits? = some .outcome →
    ∀ n, l.negotiation = some n → n.HearsOutcome due .hostOutcome
  housed : Housed due l

section

variable {due due' : List (Negotiation.Turn Room.Turn)} {l : Login ν}

/-- A proof that was accepted stays so, and so does an outcome. -/
theorem Stands.mono {n n' : Negotiation Room.Turn} {p : Task.Phase Wait Ticket}
    (h : Stands (some n) p) (hn : n.submission.isSome = true ∨ n.done = true →
      n'.submission.isSome = true ∨ n'.done = true) : Stands (some n') p := by
  cases p with
  | ready => cases h
  | waiting on =>
    cases on with
    | response => cases h
    | parting => exact ⟨n', rfl⟩
    | outcome =>
      obtain ⟨m, hm, haccepted⟩ := h
      cases hm
      exact ⟨n', rfl, hn haccepted⟩
    | _ => exact h
  | woken news =>
    cases news with
    | responded => cases h
    | parting => exact ⟨n', rfl⟩
    | outcome =>
      obtain ⟨m, hm, haccepted⟩ := h
      cases hm
      exact ⟨n', rfl, hn haccepted⟩
    | _ => exact h
  | ended => trivial

theorem Housed.mono (h : Housed due l) (hdue : due ⊆ due') : Housed due' l :=
  fun n hn => ⟨(h n hn).1, (h n hn).2.mono hdue⟩

theorem Housed.drop {t : Room.Turn} (h : Housed (.caller t :: due) l) (ht : .watch ≠ t) :
    Housed due l := fun n hn => ⟨(h n hn).1, (h n hn).2.drop ht⟩

theorem Alive.mono (h : l.Alive due) (hdue : due ⊆ due') : l.Alive due' where
  host := fun hisDue => hdue (h.host hisDue)
  stands := h.stands
  parting := fun hw => (h.parting hw).mono hdue
  outcome := fun hw n hn => (h.outcome hw n hn).mono hdue
  housed := h.housed.mono hdue

/-- The turn of a host that does not concern the login any more need not be due. -/
theorem Alive.drop {t : Room.Turn} (h : l.Alive (.caller t :: due)) (hwatch : .watch ≠ t)
    (hhost : t = .host → l.task.isDue = false)
    (hparting : t = .hostParting → l.task.awaits? ≠ some .parting)
    (houtcome : t = .hostOutcome → l.task.awaits? ≠ some .outcome) : l.Alive due where
  host := by
    intro hisDue
    refine List.mem_of_ne_of_mem (fun heq => ?_) (h.host hisDue)
    cases (hhost (Negotiation.Turn.caller.inj heq).symm).symm.trans hisDue
  stands := h.stands
  parting := by
    intro hw
    refine (h.parting hw).drop fun heq => ?_
    exact hparting (Negotiation.Turn.caller.inj heq).symm hw
  outcome := by
    intro hw n hn
    refine (h.outcome hw n hn).drop fun heq => ?_
    exact houtcome (Negotiation.Turn.caller.inj heq).symm hw
  housed := h.housed.drop hwatch

/-- The login ends, or begins to wait for the backend. -/
theorem Housed.alive (h : Housed due l) (hidle : l.task.isDue = false)
    (hstands : Stands l.negotiation l.task.phase)
    (hawaits : l.task.awaits? ≠ some .parting ∧ l.task.awaits? ≠ some .outcome) : l.Alive due where
  host := fun hisDue => by cases hidle.symm.trans hisDue
  stands := hstands
  parting := fun hw => absurd hw hawaits.1
  outcome := fun hw => absurd hw hawaits.2
  housed := h

end

namespace Course

variable {script : Nat → Http.Outcome} {due due' : List (Negotiation.Turn Room.Turn)} {c : Course ν}
  {f : Room ν → Room ν}

/-! ## In the room of the negotiation -/

theorem inRoom_some {n : Negotiation Room.Turn} (hn : c.negotiation = some n) :
    c.inRoom f =
      c.settleIn (f { toOutside := c.toOutside, toNegotiation := n, toGuests := c.guests }) := by
  simp only [inRoom, room?, hn, Option.map_some]

theorem housed_inRoom
    (hstaged : ∀ r : Room ν, Staged r.toNegotiation → Staged (f r).toNegotiation)
    (hf : ∀ r : Room ν, Upholds (due ++ c.queue) r (due' ++ c.queue) (f r))
    (h : Housed (due ++ c.queue) c.toLogin) :
    Housed (due' ++ (c.inRoom f).queue) (c.inRoom f).toLogin := by
  cases hn : c.negotiation with
  | none =>
    rw [inRoom_none hn]
    intro n hn'
    cases hn.symm.trans hn'
  | some n =>
    obtain ⟨hs, hlively⟩ := h n hn
    let r : Room ν := { toOutside := c.toOutside, toNegotiation := n, toGuests := c.guests }
    rw [inRoom_some hn]
    intro n' hn'
    cases hn'
    refine ⟨hstaged r hs, ?_⟩
    have hnow := (hf r).lively ((List.append_nil _).symm ▸ hlively)
    rwa [List.append_assoc] at hnow

/-- What the guests do leaves a login alive, if the turns that concern it stay due. -/
theorem alive_inRoom
    (hstaged : ∀ r : Room ν, Staged r.toNegotiation → Staged (f r).toNegotiation)
    (hf : ∀ r : Room ν, Upholds (due ++ c.queue) r (due' ++ c.queue) (f r))
    (hhost : .caller .host ∈ due ++ c.queue → .caller .host ∈ due' ++ c.queue)
    (h : c.toLogin.Alive (due ++ c.queue)) :
    (c.inRoom f).toLogin.Alive (due' ++ (c.inRoom f).queue) := by
  have hhoused := housed_inRoom hstaged hf h.housed
  have hstands := h.stands
  cases hn : c.negotiation with
  | none =>
    rw [inRoom_none hn] at hhoused ⊢
    refine ⟨hhost ∘ h.host, h.stands, fun hw => ?_, fun hw => ?_, hhoused⟩
    all_goals
      -- a login without a negotiation waits for nobody there
      rw [Task.phase_of_awaits hw, hn] at hstands
      obtain ⟨n, hnone⟩ := hstands
      simp at hnone
  | some n =>
    let r : Room ν := { toOutside := c.toOutside, toNegotiation := n, toGuests := c.guests }
    rw [inRoom_some hn] at hhoused ⊢
    constructor
    · intro hisDue
      have hnow := List.mem_append_left (f r).queue (hhost (h.host hisDue))
      rwa [List.append_assoc] at hnow
    · rw [hn] at hstands
      exact hstands.mono (hf r).accepted
    · intro hw
      have hnow := (hf r).heralds ((List.append_nil _).symm ▸ h.parting hw)
      rwa [List.append_assoc] at hnow
    · intro hw n' hn'
      cases hn'
      have hnow := (hf r).outcome ((List.append_nil _).symm ▸ h.outcome hw n hn)
      rwa [List.append_assoc] at hnow
    · exact hhoused

/-- Guests leave a login alive. -/
theorem alive_visits (hf : ∀ r : Room ν, r.Visits (fun _ => True) (f r))
    (h : c.toLogin.Alive (due ++ c.queue)) :
    (c.inRoom f).toLogin.Alive (due ++ (c.inRoom f).queue) :=
  alive_inRoom (fun r hs => hs.visited (hf r).visited) (fun r => .visits (hf r)) id h

/-! ## The task of a login -/

/-- A login that is told of something, or cancelled, has its turn. -/
theorem alive_update (h : c.toLogin.Alive (due ++ c.queue))
    {g : Task Wait Ticket → Task Wait Ticket} (hstands : Stands c.negotiation (g c.task).phase)
    (hawaits : (g c.task).awaits? = none) :
    (c.update g).toLogin.Alive (due ++ (c.update g).queue) := by
  have hdue : due ++ c.queue ⊆ due ++ (c.update g).queue := by
    refine Negotiation.append_subset_append ?_
    unfold update
    dsimp only
    split
    · exact List.subset_append_left _ _
    · exact List.Subset.refl _
  have hnone (on : Wait) : (c.update g).task.awaits? ≠ some on := by
    have hsame : (c.update g).task.awaits? = none := hawaits
    rw [hsame]
    nofun
  refine ⟨fun hisDue => ?_, hstands, fun hw => absurd hw (hnone _), fun hw => absurd hw (hnone _),
    h.housed.mono hdue⟩
  by_cases hold : c.task.isDue = true
  · exact hdue (h.host hold)
  · have hqueue : (c.update g).queue = c.queue ++ [.caller .host] := by
      have hnow : (g c.task).isDue = true := hisDue
      simp [update, hnow, hold]
    rw [hqueue]
    exact List.mem_append_right due (List.mem_append_right _ (List.mem_singleton_self _))

theorem alive_wake (h : c.toLogin.Alive (due ++ c.queue)) {on : Wait} (news : Wait)
    (hw : c.task.awaits? = some on)
    (hstands : Stands c.negotiation (.waiting on) → Stands c.negotiation (.woken news)) :
    (c.update (Task.wake news)).toLogin.Alive (due ++ (c.update (Task.wake news)).queue) := by
  have hold := h.stands
  rw [Task.phase_of_awaits hw] at hold
  apply alive_update h
  · rw [Task.wake_of_awaits hw]
    exact hstands hold
  · rw [Task.wake_of_awaits hw]
    rfl

theorem alive_cancel (h : c.toLogin.Alive (due ++ c.queue)) :
    (c.update Task.cancel).toLogin.Alive (due ++ (c.update Task.cancel).queue) := by
  apply alive_update h
  · rw [Task.phase_cancel]
    exact h.stands
  · exact Task.awaits_cancel c.task

theorem alive_respond (h : c.toLogin.Alive (due ++ c.queue)) (o : Http.Outcome) :
    (c.respond o).toLogin.Alive (due ++ (c.respond o).queue) := by
  unfold respond
  split
  · rename_i hw
    exact alive_wake h _ hw id
  · refine alive_inRoom (fun r hs => ?_) (fun r => .of_scene (.respond r.toScene o) rfl .inl) id h
    have hsame : (r.toScene.respond o).toNegotiation = r.toNegotiation.setSubmission _ :=
      r.toScene.toNegotiation_updateSubmission _
    exact hs.of_alike (hsame ▸ .setSubmission r.toNegotiation _)

/-! ## Turns of a login -/

theorem alive_conclude (h : Housed (due ++ c.queue) c.toLogin) (result : Except Failure Ticket) :
    (c.conclude result).toLogin.Alive (due ++ (c.conclude result).queue) := by
  cases result with
  | ok t =>
    exact Housed.alive (l := { c.toLogin with task := .finished (.returned t) }) h rfl trivial
      ⟨nofun, nofun⟩
  | error f =>
    unfold conclude
    dsimp only
    split
    · exact Housed.alive h rfl trivial ⟨nofun, nofun⟩
    · exact Housed.alive h rfl trivial ⟨nofun, nofun⟩

/-- The login goes on with the outcome of its negotiation, or waits for it. -/
theorem alive_awaitOutcome (h : Housed (due ++ c.queue) c.toLogin)
    (hn : ∃ n, c.negotiation = some n ∧ (n.submission.isSome = true ∨ n.done = true)) :
    c.awaitOutcome.toLogin.Alive (due ++ c.awaitOutcome.queue) := by
  obtain ⟨n, hn, haccepted⟩ := hn
  unfold awaitOutcome
  cases houtcome : n.outcome with
  | some o =>
    simp only [hn, Option.bind_some, houtcome]
    exact alive_conclude h o
  | none =>
    let s : Negotiation.Scene Room.Turn ν := { toOutside := c.toOutside, toNegotiation := n }
    have hscene : (s.awaitOutcome .hostOutcome).2 =
        { s with whenDone := s.whenDone ++ [.hostOutcome] } := by
      have hnone : s.outcome = none := houtcome
      simp only [Negotiation.Scene.awaitOutcome, hnone]
    have hhoused := housed_inRoom
      (fun r hs => hs.visited (P := fun _ => True) (.awaitOutcome r.toScene .hostOutcome))
      Room.upholds_awaitOutcome h
    rw [inRoom_some hn] at hhoused
    simp only [hn, Option.bind_some, houtcome]
    rw [inRoom_some hn]
    refine ⟨fun hisDue => ?_, ⟨(s.awaitOutcome .hostOutcome).2.toNegotiation, rfl, ?_⟩,
      fun hawaits => ?_, fun _ n' hn' => ?_, hhoused⟩
    · cases hisDue
    · rw [hscene]
      exact haccepted
    · cases hawaits
    · cases hn'
      change (s.awaitOutcome .hostOutcome).2.HearsOutcome _ _
      rw [hscene]
      exact .inl ⟨houtcome, List.mem_append_right _ (List.mem_singleton_self _)⟩

theorem housed_part (h : Housed (due ++ c.queue) c.toLogin) :
    Housed (due ++ c.part.queue) c.part.toLogin :=
  housed_inRoom (fun r hs => hs.visited (Room.visited_part (P := fun _ => True) trivial r))
    Room.upholds_part h

/-- A dialog that is parted with has brought a proof, or there is an outcome without one. -/
theorem accepted_part {n : Negotiation Room.Turn} (hn : c.negotiation = some n) :
    ∃ n', c.part.negotiation = some n' ∧ (n'.submission.isSome = true ∨ n'.done = true) := by
  unfold part
  rw [inRoom_some hn]
  exact ⟨_, rfl, Room.accepted_close _⟩

/-- When a challenge is negotiated, nothing of an earlier negotiation matters. -/
theorem alive_negotiate (h : Housed (due ++ c.queue) c.toLogin) (t : Ticket) :
    (c.negotiate t).toLogin.Alive (due ++ (c.negotiate t).queue) := by
  unfold negotiate
  split
  · exact alive_conclude h _
  · rename_i n hmade
    obtain ⟨challenge, -, hof⟩ := Negotiation.exists_challenge hmade
    have hnew : n.attempts = [] ∧ n.submission = none := by
      obtain ⟨active, options, -, rfl⟩ := Negotiation.ofChallenge_ok hof
      exact ⟨rfl, rfl⟩
    let begun : Course ν := { c with negotiation := some n, task := .waitingFor .parting }
    let r : Room ν := { toOutside := c.toOutside, toNegotiation := n, toGuests := c.guests }
    have hn : begun.negotiation = some n := rfl
    let r' : Room ν := ((r.onScene (·.start)).letIn c.script).watch
    obtain ⟨hlively, hheralds⟩ : Lively (due ++ c.queue ++ r'.queue) r'.toNegotiation r'.toGuests ∧
        Heralds (due ++ c.queue ++ r'.queue) r'.toGuests := Room.lively_begin hnew.1 hnew.2 c.script
    have hstaged : Staged r'.toNegotiation := (Negotiation.staged_ofChallenge hof).visited
      (s := r.toScene) (Room.visited_begin (P := fun _ => True) trivial c.script r)
    rw [List.append_assoc] at hlively hheralds
    dsimp only
    rw [inRoom_some hn]
    refine ⟨nofun, ⟨_, rfl⟩, fun _ => hheralds, nofun, fun n' hn' => ?_⟩
    cases hn'
    exact ⟨hstaged, hlively⟩

theorem alive_receive (h : Housed (due ++ c.queue) c.toLogin) (r : Http.Request) (o : Http.Outcome) :
    (c.receive r o).toLogin.Alive (due ++ (c.receive r o).queue) := by
  rw [receive_eq]
  let received : Course ν := { c with toOutside := c.toOutside.receive r o }
  have h' : Housed (due ++ received.queue) received.toLogin := h
  cases received.client.ticketResult r o with
  | error f => exact alive_conclude h' _
  | ok t =>
    unfold take
    dsimp only
    split
    · exact alive_negotiate h' t
    · exact alive_conclude h' _

theorem alive_submit (h : Housed (due ++ c.queue) c.toLogin) (hn : c.negotiation = none) :
    c.submit.toLogin.Alive (due ++ c.submit.queue) := by
  unfold submit
  cases c.toOutside.send (c.client.primaryCall c.credentials) with
  | error f => exact alive_conclude h (.error f)
  | ok sent =>
    obtain ⟨r, outside⟩ := sent
    let noted : Course ν :=
      note { c with toOutside := outside } [.negotiation (.requested c.sent.length)]
    have h' : Housed (due ++ noted.queue) noted.toLogin := h
    dsimp only
    split
    · exact alive_receive h' r _
    · exact Housed.alive h rfl hn ⟨nofun, nofun⟩

theorem alive_start (h : Housed (due ++ c.queue) c.toLogin) (hn : c.negotiation = none) :
    c.start.toLogin.Alive (due ++ c.start.queue) := by
  rw [start_eq]
  exact alive_submit h hn

/-- Whatever a login finds in its turn, it does not need that turn any more. -/
theorem alive_runLogin (h : c.toLogin.Alive (.caller .host :: due ++ c.queue)) :
    c.runLogin.toLogin.Alive (due ++ c.runLogin.queue) := by
  have hhoused : Housed (due ++ c.queue) c.toLogin := h.housed.drop nofun
  have hstands := h.stands
  have hcancelled (h : Housed (due ++ c.queue) c.toLogin) :
      Login.Alive (due ++ c.queue) { c.toLogin with task := .finished .cancelled } :=
    Housed.alive h rfl trivial ⟨nofun, nofun⟩
  unfold runLogin
  split
  · rename_i hfirst
    rw [Task.phase_of_first hfirst] at hstands
    exact alive_start hhoused hstands
  · exact alive_receive hhoused _ _
  · rename_i hnews
    rw [Task.phase_of_news hnews] at hstands
    obtain ⟨n, hn⟩ := hstands
    exact alive_awaitOutcome (housed_part hhoused) (accepted_part hn)
  · rename_i hnews
    rw [Task.phase_of_news hnews] at hstands
    exact alive_awaitOutcome hhoused hstands
  · exact Housed.alive (housed_part hhoused) rfl trivial ⟨nofun, nofun⟩
  · exact Housed.alive (housed_part hhoused) rfl trivial ⟨nofun, nofun⟩
  · exact hcancelled hhoused
  · exact hcancelled hhoused
  · rename_i hidle
    exact Login.Alive.drop h nofun (fun _ => Task.isDue_of_idle hidle) nofun nofun
  · rename_i news hresponded hparting houtcome hnews
    rw [Task.phase_of_news hnews] at hstands
    cases news with
    | response => exact hstands.elim
    | responded r o => exact absurd rfl (hresponded r o)
    | parting => exact absurd rfl hparting
    | outcome => exact absurd rfl houtcome

theorem awaits_update_wake {on news : Wait} (hw : c.task.awaits? = some on) :
    (c.update (Task.wake news)).task.awaits? = none := by
  have hsame : (c.update (Task.wake news)).task = { phase := .woken news } := Task.wake_of_awaits hw
  rw [hsame]
  rfl

theorem alive_notifyParting (h : c.toLogin.Alive (.caller .hostParting :: due ++ c.queue)) :
    c.notifyParting.toLogin.Alive (due ++ c.notifyParting.queue) := by
  unfold notifyParting
  split
  · rename_i hw
    have hwoken := alive_wake h .parting hw id
    refine Login.Alive.drop hwoken nofun nofun (fun _ => ?_) nofun
    rw [awaits_update_wake hw]
    nofun
  · rename_i hnot
    exact Login.Alive.drop h nofun nofun (fun _ => hnot) nofun

theorem alive_notifyOutcome (h : c.toLogin.Alive (.caller .hostOutcome :: due ++ c.queue)) :
    c.notifyOutcome.toLogin.Alive (due ++ c.notifyOutcome.queue) := by
  unfold notifyOutcome
  split
  · rename_i hw
    have hwoken := alive_wake h .outcome hw id
    refine Login.Alive.drop hwoken nofun nofun nofun (fun _ => ?_)
    rw [awaits_update_wake hw]
    nofun
  · rename_i hnot
    exact Login.Alive.drop h nofun nofun nofun (fun _ => hnot)

/-- The same of every turn. -/
theorem alive_run {t : Negotiation.Turn Room.Turn} (h : c.toLogin.Alive (t :: due ++ c.queue)) :
    (c.run t).toLogin.Alive (due ++ (c.run t).queue) := by
  have hroom (hhost : .caller .host ≠ t) (hparting : .caller .hostParting ≠ t)
      (houtcome : .caller .hostOutcome ≠ t) :
      (c.inRoom (·.run t)).toLogin.Alive (due ++ (c.inRoom (·.run t)).queue) := by
    refine alive_inRoom (fun r hs => ?_)
      (fun r => Room.upholds_run r hparting houtcome) (List.mem_of_ne_of_mem hhost) h
    exact hs.leads (fun _ => .error .undecodableBytes) (Room.leads_run r t)
  unfold run
  split
  · exact alive_runLogin h
  · exact alive_notifyParting h
  · exact alive_notifyOutcome h
  · rename_i hhost hparting houtcome
    exact hroom (Ne.symm hhost) (Ne.symm hparting) (Ne.symm houtcome)

/-- What is done to a login from outside leaves it alive. -/
theorem alive_deed (h : c.toLogin.Alive (due ++ c.queue)) (d : Deed) :
    (c.deed script d).toLogin.Alive (due ++ (c.deed script d).queue) := by
  cases d with
  | cancel => exact alive_cancel h
  | tell => exact alive_visits (fun r => Room.visits_tell r.within_all) h
  | respond =>
    unfold deed
    dsimp only
    split
    · exact alive_respond h _
    · exact h
  | reply j next =>
    refine alive_inRoom (fun r hs => ?_) (fun r => .of_scene (.replyTo r.toScene j next) rfl .inl)
      id h
    have hleads : r.toScene.Leads script (r.toScene.replyTo j next) := .move r.toScene (.reply j next)
    exact hs.leads script hleads
  | call call =>
    exact alive_visits (fun r => Room.visits_call r.within_all call fun _ _ => trivial) h

end Course

/-! ## Logins in any order -/

namespace World

variable {script : Nat → Http.Outcome} {w : World ν}

theorem alive_new (credentials : Credentials) (keep : Bool) (levels : Nat)
    (dialog : Negotiation.Dialog ν) :
    ({ credentials, keep, levels, script := dialog } : Login ν).Alive [.caller .host] where
  host := fun _ => List.mem_singleton_self _
  stands := rfl
  parting := nofun
  outcome := nofun
  housed := by
    intro n hn
    cases hn

/-- Whether every login goes on by itself, unless it waits for somebody else. -/
def Lives (w : World ν) : Prop := w.Holds fun _ due _ l => l.Alive due

theorem Lives.occur (hw : w.Lives) (o : Occurrence ν) : (w.occur script o).Lives := by
  have hunordered : Invariant.Unordered fun (_ : Nat) due (_ : List (Event ν)) l => l.Alive due :=
    fun _ _ _ _ _ hdue h => h.mono fun t => (hdue t).mp
  have hstays (_ : Nat) due (_ : List (Event ν)) (l : Login ν) (h : l.Alive due) : l.Alive due := h
  cases o with
  | login credentials keep levels dialog =>
    exact Holds.login hw hunordered hstays credentials keep levels dialog
      (alive_new credentials keep levels dialog)
  | deed i d => exact Holds.deed hw hstays i d fun _ _ h => Course.alive_deed h d
  | take k => exact Holds.take hw hunordered hstays k fun _ _ _ _ _ _ h => Course.alive_run h

theorem lives_of_scheduled (hw : w.Scheduled script) : w.Lives := by
  obtain ⟨client, held, adapter, store, os, rfl⟩ := hw
  exact run_induction script (P := fun _ w => w.Lives) (holds_opening client held adapter store)
    (fun _ o hw => hw.occur o) os

end World

/-! ## Whom a login waits for -/

/-- Whether the request that carries the credentials waits for its answer. -/
def AwaitsCredentials (l : Login ν) : Prop :=
  ∃ number r, l.task.awaits? = some (.response number r)

/-- Whether the request that carries the proof waits for its answer. -/
def AwaitsProof (l : Login ν) : Prop :=
  ∃ n sub number r, l.negotiation = some n ∧ n.submission = some sub ∧
    sub.task.awaits? = some (.response number r)

/-- Whether the dialog can still bring a proof. -/
def AwaitsDialog (l : Login ν) : Prop :=
  ∃ n, l.negotiation = some n ∧ n.stage.isOpen = true ∧ n.closed = false ∧
    l.guests.dialog.isOver = false

/-- A login of which nothing is due has ended, or waits for somebody. -/
theorem Alive.awaits {l : Login ν} (h : l.Alive []) (hover : l.task.isOver = false) :
    l.AwaitsCredentials ∨ l.AwaitsProof ∨ l.AwaitsDialog := by
  have hdue : l.task.isDue = false := by
    by_contra hisDue
    cases h.host (by simpa using hisDue)
  obtain ⟨on, hw⟩ := Task.exists_awaits hover hdue
  have hstands := h.stands
  rw [Task.phase_of_awaits hw] at hstands
  cases on with
  | response number r => exact .inl ⟨number, r, hw⟩
  | responded => exact hstands.elim
  | parting =>
    obtain ⟨n, hn⟩ := hstands
    obtain ⟨hstaged, hlively⟩ := h.housed n hn
    obtain ⟨hdialog, hclosed⟩ := Room.running_of_heralds hlively (h.parting hw)
    have hopen : n.stage.isOpen = true := by
      by_contra hstage
      cases (hstaged.closed_iff.mpr (by simpa using hstage)).symm.trans hclosed
    exact .inr (.inr ⟨n, hn, hopen, hclosed, hdialog⟩)
  | outcome =>
    obtain ⟨n, hn, haccepted⟩ := hstands
    obtain ⟨sub, number, r, hsub, hresponse⟩ := Room.awaits_of_hearsOutcome
      (h.housed n hn).2.negotiation (h.outcome hw n hn) haccepted
    exact .inr (.inl ⟨n, sub, number, r, hn, hsub, hresponse⟩)

/-- A login never waits for nothing. Where none of its turns is due, it has ended, or the request with
its credentials or that with its proof waits for its answer, or its negotiation is open and the dialog
has not ended. Once the dialog has ended or was closed, it has ended unless the request with its proof
waits for its answer. -/
theorem World.waits_for_somebody {script : Nat → Http.Outcome} {w : World ν}
    (hw : w.Scheduled script) {i : Nat} {l : Login ν} (hl : w.logins[i]? = some l)
    (hsettled : ∀ t, (i, t) ∉ w.queue) :
    (l.task.isOver = false → l.AwaitsCredentials ∨ l.AwaitsProof ∨ l.AwaitsDialog) ∧
      ∀ n, l.negotiation = some n → l.guests.dialog.isOver = true ∨ n.closed = true →
        ¬ l.AwaitsProof → l.task.isOver = true := by
  have hdue : w.dueFor i = [] :=
    List.eq_nil_iff_forall_not_mem.mpr fun t ht => hsettled t (mem_dueFor.mp ht)
  have hlive : l.Alive [] := hdue ▸ (lives_of_scheduled hw).logins i l hl
  refine ⟨hlive.awaits, fun n hn hparted hproof => ?_⟩
  by_contra hover
  rcases hlive.awaits (by simpa using hover) with
    ⟨number, r, hw⟩ | hawaits | ⟨n', hn', -, hclosed, hdialog⟩
  · have hstands := hlive.stands
    rw [Task.phase_of_awaits hw] at hstands
    cases hstands.symm.trans hn
  · exact hproof hawaits
  · cases hn'.symm.trans hn
    rcases hparted with hdialog' | hclosed'
    · cases hdialog.symm.trans hdialog'
    · cases hclosed.symm.trans hclosed'

/-- The world with a login whose dialog waits for its user, when nothing is due any more. -/
def waitingWorld : World Unit :=
  let opening := World.opening { settings := {} } (sampleScript "") (fun _ => false) none []
  World.settle 30 (opening.login ⟨"root", "pw", "pam"⟩ false 995
    (.waits () (.ends (.returned ())) (.ends .cancelled)))

theorem waits_for_somebody_user :
    ∃ l, waitingWorld.logins[0]? = some l ∧ (∀ t, (0, t) ∉ waitingWorld.queue) ∧
      l.task.isOver = false ∧ (l.AwaitsCredentials ∨ l.AwaitsProof ∨ l.AwaitsDialog) := by
  have hw : waitingWorld.Scheduled (sampleScript "") := by
    obtain ⟨os, hos⟩ := World.settle_eq_run (sampleScript "") 30
      ((World.opening { settings := {} } (sampleScript "") (fun _ => false) none []).login
        ⟨"root", "pw", "pam"⟩ false 995 (.waits () (.ends (.returned ())) (.ends .cancelled)))
    exact ⟨_, _, _, _, .login ⟨"root", "pw", "pam"⟩ false 995 _ :: os, hos⟩
  have hsettled : ∀ t, (0, t) ∉ waitingWorld.queue := by
    have hqueue : waitingWorld.queue.isEmpty = true := by decide +kernel
    rw [List.isEmpty_iff.mp hqueue]
    exact fun t => List.not_mem_nil
  have hrunning : waitingWorld.logins[0]?.map (·.task.isOver) = some false := by decide +kernel
  obtain ⟨l, hl, hover⟩ := Option.map_eq_some_iff.mp hrunning
  exact ⟨l, hl, hsettled, hover, (World.waits_for_somebody hw hl hsettled).1 hover⟩

end SecondFactor.Login
