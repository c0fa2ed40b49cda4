import SecondFactor.Proofs.Login.Steps

/-! # Turns of a login

Whatever a login does in a turn, nothing becomes of the session before it ends, and how it ends says
what has become of it. -/

namespace SecondFactor.Login.Course

open Negotiation (Room)

variable {ν : Type} {script : Nat → Http.Outcome} {sent : List Http.Request} {L : List (Event ν)}
  {c : Course ν}

/-! ## The end of a login -/

theorem resting_conclude (hc : c.Working script sent L) {result : Except Failure Ticket}
    (hissued : ∀ t, result = .ok t → Issued script c.sent c.credentials (requested (L ++ c.log)) t ∧
      (c.negotiation.isSome = true → (requested (L ++ c.log)).length = 2)) :
    (c.conclude result).Resting script sent L := by
  have hm := hc.midway
  cases result with
  | ok t =>
    refine ⟨hc.follows, hc.keeps, ?_⟩
    have hends := hm.ends [.established t] (.returned t)
      (by rw [established_append, clearings_append, hm.unused, hm.uncleared]; rfl) rfl
      (fun u hu => hissued u (by cases hu; rfl))
    rw [List.append_assoc] at hends
    exact hends
  | error f =>
    unfold conclude
    dsimp only
    split
    · rename_i hlogin
      refine ⟨hc.follows, hc.keeps, ?_⟩
      have hends := hm.ends [.cleared] (.failed (failure f))
        (by rw [established_append, clearings_append, hm.unused, hm.uncleared]; rfl) rfl
        (fun u hu => by cases hu)
      rw [List.append_assoc] at hends
      exact hends
    · rename_i hlogin
      refine ⟨hc.follows, hc.keeps, ?_⟩
      have hends := hm.ends [] (.failed f)
        (by rw [List.append_nil, hm.unused, hm.uncleared, verdict, if_neg hlogin]) rfl
        (fun u hu => by cases hu)
      rw [List.append_nil] at hends
      exact hends

/-- A login ends with a failure. -/
theorem resting_fail (hc : c.Working script sent L) (f : Failure) :
    (c.conclude (.error f)).Resting script sent L :=
  resting_conclude hc fun t h => by cases h

/-- A login ends without a result. -/
theorem resting_cancelled (hc : c.Working script sent L) :
    Resting script sent L { c with task := .finished .cancelled } := by
  have hends := hc.midway.ends [] .cancelled
    (by rw [List.append_nil, hc.midway.unused, hc.midway.uncleared]; rfl) rfl
    (fun u hu => by cases hu)
  rw [List.append_nil] at hends
  exact ⟨hc.follows, hc.keeps, hends⟩

/-! ## The negotiation -/

/-- The outcome of the negotiation is the outcome of the login, once it is known. -/
theorem resting_awaitOutcome (hc : c.Working script sent L) :
    c.awaitOutcome.Resting script sent L := by
  unfold awaitOutcome
  split
  · rename_i outcome houtcome
    apply resting_conclude hc
    rintro t rfl
    obtain ⟨n, hn, ho⟩ := Option.bind_eq_some_iff.mp houtcome
    obtain ⟨first, challenge, _, h, hn⟩ := hc.midway.negotiating n hn
    obtain ⟨second, hsecond, hbrings⟩ := hn.tracked.outcome t ho
    obtain ⟨sub, -, hproof⟩ := hn.carried second (by simp [hsecond])
    rw [hn.requests, hsecond]
    refine ⟨.inr ⟨first, second, challenge, sub.proof.text, rfl, hn.carries, hn.brings,
      hn.isChallenge, hproof, hbrings⟩, fun _ => rfl⟩
  · have hc' := working_inRoom Room.plays_awaitOutcome hc
    exact ⟨hc'.follows, hc'.keeps, hc'.midway.waits (.inr (.inl rfl))⟩

theorem working_part (hc : c.Working script sent L) : c.part.Working script sent L :=
  working_inRoom Room.plays_part hc

/-- A challenge is negotiated. -/
theorem resting_negotiate (hc : c.Working script sent L) {number : Nat}
    (ho : Opened c.sent (L ++ c.log) c.toLogin number) {t : Ticket}
    (hbrings : (script number).Brings t) (hchallenge : Ticket.isChallenge t.ticket = true) :
    (c.negotiate t).Resting script sent L := by
  unfold negotiate
  split
  · exact resting_fail hc _
  · rename_i n hmade
    obtain ⟨challenge, hread, hof⟩ := Negotiation.exists_challenge hmade
    have hnew : n.submission = none ∧ n.outcome = none := by
      obtain ⟨active, options, _, rfl⟩ := Negotiation.ofChallenge_ok hof
      exact ⟨rfl, rfl⟩
    have hbegun : Midway script c.sent (L ++ c.log) { c.toLogin with negotiation := some n } := by
      have hunchallenged : Unchallenged c.sent (L ++ c.log)
          { c.toLogin with negotiation := some n } := fun h => by cases h
      refine ⟨hc.midway.unused, hc.midway.uncleared, hunchallenged, ?_⟩
      intro n' hn'
      cases hn'
      exact ⟨number, t, challenge, [], {
        carries := ho.carries
        brings := hbrings
        isChallenge := hchallenge
        read := hread
        sound := Negotiation.sound_ofChallenge hof
        tracked := .of_new hnew.1 hnew.2
        carried := List.forall_mem_nil _
        requests := ho.only }⟩
    let begun : Course ν := { c with negotiation := some n, task := .waitingFor .parting }
    have hresting : begun.Resting script sent L :=
      ⟨hc.follows, hc.keeps, hbegun.waits (.inl rfl)⟩
    exact resting_inRoom (Room.plays_begin c.script) hresting

/-! ## The credentials -/

/-- Goes on with the first ticket. -/
def take (c : Course ν) : Except Failure Ticket → Course ν
  | .error f => c.conclude (.error f)
  | .ok t => if Ticket.isChallenge t.ticket then c.negotiate t else c.conclude (.ok t)

theorem receive_eq (c : Course ν) (r : Http.Request) (o : Http.Outcome) :
    c.receive r o = take { c with toOutside := c.toOutside.receive r o }
      ((c.toOutside.receive r o).client.ticketResult r o) := by
  unfold receive
  dsimp only
  cases (c.toOutside.receive r o).client.ticketResult r o <;> rfl

/-- A response to the credentials comes. -/
theorem resting_receive (hc : c.Working script sent L) {number : Nat}
    (ho : Opened c.sent (L ++ c.log) c.toLogin number) (r : Http.Request) {o : Http.Outcome}
    (hanswer : o = script number) : (c.receive r o).Resting script sent L := by
  let received : Course ν := { c with toOutside := c.toOutside.receive r o }
  have hc' : received.Working script sent L := ⟨hc.follows, hc.keeps, hc.midway⟩
  have ho' : Opened received.sent (L ++ received.log) received.toLogin number := ho
  have hreceive : c.receive r o = received.take (received.client.ticketResult r o) :=
    receive_eq c r o
  rw [hreceive]
  cases hresult : received.client.ticketResult r o with
  | error f => exact resting_fail hc' f
  | ok t =>
    have hbrings : (script number).Brings t := hanswer ▸ Http.Outcome.brings_of_ticketResult hresult
    unfold take
    dsimp only
    split
    · rename_i hchallenge
      exact resting_negotiate hc' ho' hbrings hchallenge
    · rename_i hchallenge
      apply resting_conclude hc'
      intro u hu
      cases hu
      refine ⟨.inl ⟨number, ho'.only, ho'.carries, hbrings, by simpa using hchallenge⟩, ?_⟩
      intro hsome
      rw [ho'.negotiation] at hsome
      cases hsome

/-- The credentials are sent. -/
theorem resting_submit (hc : c.Working script sent L) (hn : c.negotiation = none)
    (hnumber : requested (L ++ c.log) = []) : c.submit.Resting script sent L := by
  unfold submit
  cases hcall : c.client.request (c.client.primaryCall c.credentials) with
  | error f =>
    have hsend : c.toOutside.send (c.client.primaryCall c.credentials) = .error f := by
      simp only [Outside.send, hcall, Except.map]
    rw [hsend]
    exact resting_fail hc f
  | ok r =>
    have hsend : c.toOutside.send (c.client.primaryCall c.credentials) =
        .ok (r, { c.toOutside with sent := c.sent ++ [r] }) := by
      simp only [Outside.send, hcall, Except.map]
    rw [hsend]
    let noted : Course ν := note { c with toOutside := { c.toOutside with sent := c.sent ++ [r] } }
      [.negotiation (.requested c.sent.length)]
    have hlog : L ++ noted.log = L ++ c.log ++ [.negotiation (.requested c.sent.length)] :=
      (List.append_assoc L c.log _).symm
    have hopened : Opened noted.sent (L ++ noted.log) noted.toLogin c.sent.length := by
      refine ⟨?_, Http.carries_append hcall, hn⟩
      rw [hlog, requested_append, hnumber]
      rfl
    have hm : Midway script noted.sent (L ++ noted.log) noted.toLogin := by
      rw [hlog]
      refine ⟨?_, ?_, fun _ => .inr ⟨c.sent.length, hlog ▸ hopened⟩, fun n h => ?_⟩
      · rw [established_append, hc.midway.unused]
        rfl
      · rw [clearings_append, hc.midway.uncleared]
        rfl
      · exact absurd (hn.symm.trans h) (by simp)
    have hc' : noted.Working script sent L :=
      ⟨hc.follows, hc.keeps.trans (List.prefix_append c.sent [r]), hm⟩
    dsimp only
    split
    · rename_i o ho
      exact resting_receive hc' hopened r (hc.follows _ _ ho)
    · exact ⟨hc'.follows, hc'.keeps, hm.asks hopened r⟩

/-- Uses of the store change nothing but the store. -/
theorem foldl_access (as : List Store.Access) (c : Course ν) :
    as.foldl access c =
      { c with store := as.foldl Store.apply c.store, log := c.log ++ as.map .accessed } := by
  induction as generalizing c with
  | nil => simp
  | cons a as ih =>
    rw [List.foldl_cons, ih (c.access a)]
    simp [access, note]

theorem start_eq (c : Course ν) :
    c.start = submit { c with
      store := (Store.remember c.credentials.username c.keep).foldl Store.apply c.store
      log := c.log ++ (Store.remember c.credentials.username c.keep).map .accessed } :=
  congrArg submit (foldl_access _ c)

theorem resting_start (hc : c.Resting script sent L) (hready : c.task.phase = .ready) :
    c.start.Resting script sent L := by
  obtain ⟨hnumber, hn⟩ := hc.honest.fresh hready
  have hm := hc.honest.midway (by unfold Task.ending?; rw [hready])
  let as : List (Event ν) := (Store.remember c.credentials.username c.keep).map .accessed
  let noted : Course ν := { c with
    store := (Store.remember c.credentials.username c.keep).foldl Store.apply c.store
    log := c.log ++ as }
  have hlog : L ++ noted.log = L ++ c.log ++ as := (List.append_assoc L c.log as).symm
  have hrequested : requested as = [] := by
    simp [as, requested, List.filterMap_map, Event.requested?]
  have hm' : Midway script noted.sent (L ++ noted.log) noted.toLogin := by
    rw [hlog]
    exact hm.append hrequested
      (by simp [as, established, List.filterMap_map, Event.established?])
      (by simp [as, clearings, List.countP_map, Event.isCleared])
  have hc' : noted.Working script sent L := ⟨hc.follows, hc.keeps, hm'⟩
  have hnumber' : requested (L ++ noted.log) = [] := by
    rw [hlog, requested_append, hnumber, hrequested]
    rfl
  rw [start_eq]
  exact resting_submit hc' hn hnumber'

/-! ## Turns -/

/-- A login changes its state, and nothing else. -/
theorem resting_update (hc : c.Resting script sent L) {f : Task Wait Ticket → Task Wait Ticket}
    (hh : Honest script c.sent (L ++ c.log) { c.toLogin with task := f c.task }) :
    (c.update f).Resting script sent L :=
  ⟨hc.follows, hc.keeps, hh⟩

theorem resting_runLogin (hc : c.Resting script sent L) : c.runLogin.Resting script sent L := by
  have hworking (hstart : c.task.start ≠ .idle) : c.Working script sent L :=
    ⟨hc.follows, hc.keeps, hc.honest.midway (Task.ending_of_start hstart)⟩
  unfold runLogin
  split
  · rename_i hfirst
    exact resting_start hc (Task.phase_of_first hfirst)
  · rename_i r o hnews
    obtain ⟨number, hopened, ho⟩ := hc.honest.answered r o (Task.phase_of_news hnews)
    exact resting_receive (hworking (by simp [hnews])) hopened r ho
  · rename_i hnews
    exact resting_awaitOutcome (working_part (hworking (by simp [hnews])))
  · rename_i hnews
    exact resting_awaitOutcome (hworking (by simp [hnews]))
  · rename_i hstart
    exact resting_cancelled (working_part (hworking (by simp [hstart])))
  · rename_i hstart
    exact resting_cancelled (working_part (hworking (by simp [hstart])))
  · rename_i hstart
    exact resting_cancelled (hworking (by simp [hstart]))
  · rename_i hstart
    exact resting_cancelled (hworking (by simp [hstart]))
  · exact hc
  · exact hc

/-- Every step keeps what holds between two of them. -/
theorem resting_step (hc : c.Resting script sent L) {i : Nat} {m : Move ν} {c' : Course ν}
    (hs : Step script i c m c') : c'.Resting script sent L := by
  cases hs with
  | idle => exact hc
  | room m f hf => exact resting_inRoom hf hc
  | responds m number r hw =>
    have hopened := hc.honest.waiting number r (Task.phase_of_awaits hw)
    have hm := hc.honest.midway (Task.ending_of_awaits hw)
    refine resting_update hc ?_
    rw [Task.wake_of_awaits hw]
    exact hm.learns hopened r
  | learns m on hw hon =>
    have hm := hc.honest.midway (Task.ending_of_awaits hw)
    refine resting_update hc (hm.waits ?_)
    rw [Task.wake_of_awaits hw]
    rcases hon with rfl | rfl <;> simp
  | cancels => exact resting_update hc (hc.honest.of_phase (Task.phase_cancel c.task))
  | acts => exact resting_runLogin hc

end SecondFactor.Login.Course
