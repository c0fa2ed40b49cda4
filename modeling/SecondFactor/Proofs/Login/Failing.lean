import SecondFactor.Proofs.Login.Handover
import SecondFactor.Proofs.Negotiation.Rejection

/-! # How logins fail

Whoever logs in learns of a failure that there was one, and a wrong password looks like a wrong
second factor. This is so for all that goes wrong with the second factor. What goes wrong with the
first ticket shows as it is, unless it is a login error. -/

namespace SecondFactor.Login

open Negotiation (Room)

variable {ν : Type}

/-- The error with which logins fail. It says nothing of what went wrong, which is the cause that is
chained to it. -/
def refusal : LoginError where
  kind := .authFailed
  message := "Login failed. Please try again"
  details := .none
  status := none

example : refusal.kind.code = "AUTH_FAILED" := rfl

/-- Whether a login ends with a ticket or a refusal. -/
def Tactful (how : Ending Ticket) : Prop :=
  (∃ t, how = .returned t) ∨ ∃ cause, how = .failed (.chained refusal cause)

namespace Course

/-- What the call for the first ticket comes to, if it comes to its end in the next turn of the
login. -/
def answer? (c : Course ν) : Option (Except Failure Ticket) :=
  match c.task.start with
  | .first =>
    match c.toOutside.send (c.client.primaryCall c.credentials) with
    | .error f => some (.error f)
    | .ok (r, outside) =>
      (outside.backend c.sent.length).map fun o => (outside.receive r o).client.ticketResult r o
  | .news (.responded r o) => some ((c.toOutside.receive r o).client.ticketResult r o)
  | _ => none

/-- Whether something goes wrong with the first ticket in the next turn of a login that is no login
error: with the call that asks for it, or in that its challenge is nested too deep to be read. -/
def Breaks (c : Course ν) : Prop :=
  (∃ f, c.answer? = some (.error f) ∧ f.loginError? = none) ∨
    ∃ t, c.answer? = some (.ok t) ∧ Ticket.isChallenge t.ticket = true ∧
      Challenge.ofTicket c.levels t.ticket = .error (.foreign .nestedTooDeep)

variable {c : Course ν}

theorem runLogin_of_first (h : c.task.start = .first) :
    ∃ store log, c.runLogin = submit { c with store, log } := by
  rw [runLogin, h]
  exact ⟨_, _, start_eq c⟩

/-- With the first ticket a login goes on, having changed but its surroundings. -/
theorem runLogin_of_answer {result : Except Failure Ticket} (h : c.answer? = some result) :
    ∃ c' : Course ν, c'.toLogin = c.toLogin ∧ c.runLogin = c'.take result := by
  unfold answer? at h
  cases hstart : c.task.start with
  | first =>
    obtain ⟨store, log, hrun⟩ := runLogin_of_first hstart
    rw [hrun]
    unfold submit
    cases hsend : c.toOutside.send (c.client.primaryCall c.credentials) with
    | error f =>
      simp only [hstart, hsend, Option.some.injEq] at h
      subst h
      exact ⟨{ c with store, log }, rfl, rfl⟩
    | ok sent =>
      obtain ⟨r, outside⟩ := sent
      simp only [hstart, hsend] at h
      obtain ⟨o, ho, rfl⟩ := Option.map_eq_some_iff.mp h
      simp only [note, ho]
      refine ⟨_, ?_, receive_eq _ r o⟩
      rfl
  | news w =>
    cases w with
    | responded r o =>
      simp only [hstart, Option.some.injEq] at h
      subst h
      refine ⟨{ c with toOutside := c.toOutside.receive r o }, rfl, ?_⟩
      rw [runLogin, hstart]
      exact receive_eq c r o
    | response _ _ | parting | outcome => simp [hstart] at h
  | idle | cancelled _ | cancelledLate _ => simp [hstart] at h

/-- Without the first ticket a login that begins waits for it. -/
theorem runLogin_of_unanswered (hfirst : c.task.start = .first) (h : c.answer? = none) :
    ∃ number r,
      c.runLogin.toLogin = { c.toLogin with task := .waitingFor (.response number r) } := by
  obtain ⟨store, log, hrun⟩ := runLogin_of_first hfirst
  rw [hrun]
  unfold answer? at h
  unfold submit
  cases hsend : c.toOutside.send (c.client.primaryCall c.credentials) with
  | error f => simp [hfirst, hsend] at h
  | ok sent =>
    obtain ⟨r, outside⟩ := sent
    simp only [hfirst, hsend] at h
    have hheld := Option.map_eq_none_iff.mp h
    simp only [note, hheld]
    exact ⟨c.sent.length, r, rfl⟩

/-- What is no login error ends the login as it is. -/
theorem ending_of_breaks (h : c.Breaks) :
    ∃ f, f.loginError? = none ∧ c.runLogin.task.ending? = some (.failed f) := by
  have hconclude (c' : Course ν) {f : Failure} (hf : f.loginError? = none) :
      (c'.conclude (.error f)).task.ending? = some (.failed f) := by
    simp only [conclude, hf, Option.isSome_none]
    rfl
  rcases h with ⟨f, hanswer, hf⟩ | ⟨t, hanswer, hchallenge, hnested⟩
  · obtain ⟨c', -, hrun⟩ := runLogin_of_answer hanswer
    rw [hrun]
    exact ⟨f, hf, hconclude c' hf⟩
  · obtain ⟨c', hsame, hrun⟩ := runLogin_of_answer hanswer
    have hlevels : c'.levels = c.levels := congrArg Login.levels hsame
    have hread : (Challenge.ofTicket c'.levels t.ticket >>=
        Negotiation.ofChallenge t.username t.ticket : Except Failure (Negotiation Room.Turn)) =
          .error (.foreign .nestedTooDeep) := by
      rw [hlevels, hnested]
      rfl
    rw [hrun, take, if_pos hchallenge, negotiate, hread]
    exact ⟨_, rfl, hconclude c' rfl⟩

end Course

/-! ## What a caller learns -/

/-- What holds of a login that was not cancelled: if it has ended, then tactfully, and its
negotiation is not rejected but with a login error. -/
structure Discreet (l : Login ν) : Prop where
  uncancelled : l.task.cancelling = false
  ending : ∀ how, l.task.ending? = some how → Tactful how
  explained : ∀ n, l.negotiation = some n → n.Explained

theorem Discreet.of_unended {l : Login ν} (huncancelled : l.task.cancelling = false)
    (hending : l.task.ending? = none) (hexplained : ∀ n, l.negotiation = some n → n.Explained) :
    Discreet l where
  uncancelled := huncancelled
  ending := by
    intro how hhow
    rw [hending] at hhow
    cases hhow
  explained := hexplained

namespace Course

variable {script : Nat → Http.Outcome} {c : Course ν} {f : Room ν → Room ν}

theorem explained_inRoom (hf : Room.Plays script f)
    (hc : ∀ n, c.negotiation = some n → n.Explained) :
    ∀ n, (c.inRoom f).negotiation = some n → n.Explained := by
  cases hn : c.negotiation with
  | none =>
    rw [inRoom_none hn]
    exact hc
  | some n =>
    obtain ⟨ms, guests, queue, heq⟩ := inRoom_eq hf hn
    rw [heq]
    rintro n' hn'
    cases hn'
    exact Negotiation.Explained.moves script
      (s := { toOutside := c.toOutside, toNegotiation := n }) (hc n hn) ms

theorem task_inRoom (hf : Room.Plays script f) : (c.inRoom f).task = c.task := by
  cases hn : c.negotiation with
  | none => rw [inRoom_none hn]
  | some n =>
    obtain ⟨ms, guests, queue, heq⟩ := inRoom_eq hf hn
    rw [heq]

theorem discreet_inRoom (hf : Room.Plays script f) (hc : Discreet c.toLogin) :
    Discreet (c.inRoom f).toLogin where
  uncancelled := by
    rw [task_inRoom hf]
    exact hc.uncancelled
  ending := by
    rw [task_inRoom hf]
    exact hc.ending
  explained := explained_inRoom hf hc.explained

theorem discreet_conclude (hc : ∀ n, c.negotiation = some n → n.Explained)
    {result : Except Failure Ticket} (hresult : Explains result) :
    Discreet (c.conclude result).toLogin := by
  cases result with
  | ok t =>
    refine ⟨rfl, fun how hhow => ?_, hc⟩
    cases hhow
    exact .inl ⟨t, rfl⟩
  | error f =>
    rw [conclude, if_pos (hresult f rfl)]
    refine ⟨rfl, fun how hhow => ?_, hc⟩
    cases hhow
    exact .inr ⟨f, rfl⟩

section

-- what is done in the room is a run of the negotiation with any script
variable (script)

include script

theorem discreet_negotiate (hc : ∀ n, c.negotiation = some n → n.Explained) {t : Ticket}
    (hread : Explains (Challenge.ofTicket c.levels t.ticket)) : Discreet (c.negotiate t).toLogin := by
  unfold negotiate
  split
  · rename_i f hmade
    refine discreet_conclude hc (.error ?_)
    exact (hread.bind fun _ => Negotiation.explains_ofChallenge _ _ _) f hmade
  · rename_i n hmade
    obtain ⟨challenge, -, hof⟩ := Negotiation.exists_challenge hmade
    let begun : Course ν := { c with negotiation := some n, task := .waitingFor .parting }
    have hbegun : Discreet begun.toLogin := by
      refine .of_unended rfl rfl ?_
      rintro n' hn' f hf
      cases hn'
      obtain ⟨active, options, -, rfl⟩ := Negotiation.ofChallenge_ok hof
      cases hf
    exact discreet_inRoom (Room.plays_begin c.script : Room.Plays script _) hbegun

theorem discreet_awaitOutcome (hc : ∀ n, c.negotiation = some n → n.Explained) :
    Discreet c.awaitOutcome.toLogin := by
  unfold awaitOutcome
  split
  · rename_i outcome houtcome
    obtain ⟨n, hn, ho⟩ := Option.bind_eq_some_iff.mp houtcome
    refine discreet_conclude hc ?_
    rintro f rfl
    exact hc n hn f ho
  · exact .of_unended rfl rfl (explained_inRoom (Room.plays_awaitOutcome : Room.Plays script _) hc)

theorem discreet_take (hc : ∀ n, c.negotiation = some n → n.Explained)
    {result : Except Failure Ticket} (hresult : Explains result)
    (hread : ∀ t, result = .ok t → Ticket.isChallenge t.ticket = true →
      Explains (Challenge.ofTicket c.levels t.ticket)) : Discreet (c.take result).toLogin := by
  cases result with
  | error f => exact discreet_conclude hc hresult
  | ok t =>
    unfold take
    dsimp only
    split
    · exact discreet_negotiate script hc (hread t rfl ‹_›)
    · exact discreet_conclude hc hresult

/-- If nothing breaks, a login that was not cancelled stays discreet in its turn. -/
theorem discreet_runLogin (hc : Discreet c.toLogin) (hwhole : ¬ c.Breaks) :
    Discreet c.runLogin.toLogin := by
  cases hanswer : c.answer? with
  | some result =>
    obtain ⟨c', hsame, hrun⟩ := runLogin_of_answer hanswer
    have hlevels : c'.levels = c.levels := congrArg Login.levels hsame
    rw [hrun]
    refine discreet_take script (hsame ▸ hc.explained) ?_ ?_
    · rintro f rfl
      by_contra hf
      exact hwhole (.inl ⟨f, hanswer, by simpa using hf⟩)
    · rintro t rfl hchallenge f hread
      by_contra hf
      obtain rfl := Challenge.nested_of_ofTicket hread (by simpa using hf)
      exact hwhole (.inr ⟨t, hanswer, hchallenge, hlevels ▸ hread⟩)
  | none =>
    unfold runLogin
    cases hstart : c.task.start with
    | first =>
      dsimp only
      have hrun : c.runLogin = c.start := by rw [runLogin, hstart]
      obtain ⟨number, r, hwaits⟩ := runLogin_of_unanswered hstart hanswer
      rw [← hrun, hwaits]
      exact .of_unended rfl rfl hc.explained
    | news w =>
      cases w with
      | responded r o => simp [answer?, hstart] at hanswer
      | parting =>
        have hpart : ∀ n, c.part.negotiation = some n → n.Explained :=
          explained_inRoom (Room.plays_part : Room.Plays script _) hc.explained
        exact discreet_awaitOutcome script hpart
      | outcome => exact discreet_awaitOutcome script hc.explained
      | response number r => exact hc
    | idle => exact hc
    | cancelled on =>
      have hcancelling := Task.cancelling_of_start (.inl ⟨on, hstart⟩)
      rw [hc.uncancelled] at hcancelling
      cases hcancelling
    | cancelledLate news =>
      have hcancelling := Task.cancelling_of_start (.inr ⟨news, hstart⟩)
      rw [hc.uncancelled] at hcancelling
      cases hcancelling

end

/-- Every step but its cancellation keeps a login discreet, if nothing breaks in its turn. -/
theorem discreet_step (hc : Discreet c.toLogin) {i : Nat} {m : Move ν} {c' : Course ν}
    (hs : Step script i c m c') (hcancel : m ≠ .cancel i)
    (hwhole : m = .turn i (.caller .host) → ¬ c.Breaks) : Discreet c'.toLogin := by
  have hwakes {on : Wait} (news : Wait) (hw : c.task.awaits? = some on) :
      Discreet (c.update (Task.wake news)).toLogin := by
    simp only [update, Task.wake_of_awaits hw]
    exact .of_unended rfl rfl hc.explained
  cases hs with
  | idle => exact hc
  | room m f hf => exact discreet_inRoom hf hc
  | responds m number r hw => exact hwakes _ hw
  | learns m on hw hon => exact hwakes _ hw
  | cancels => exact absurd rfl hcancel
  | acts => exact discreet_runLogin script hc (hwhole rfl)

end Course

namespace World

variable {script : Nat → Http.Outcome}

/-- A login that is never cancelled, and in which nothing breaks, is discreet all along. -/
theorem discreet_moves (w : World ν) (hw : w.logins = []) {i : Nat} {ms : List (Move ν)}
    (hcancel : .cancel i ∉ ms)
    (hwhole : ∀ before, before ++ [.turn i (.caller .host)] <+: ms →
      ∀ c, (w.moves script before).course? i = some c → ¬ c.Breaks) :
    ∀ l, (w.moves script ms).logins[i]? = some l → Discreet l := by
  induction ms using List.reverseRecOn with
  | nil =>
    intro l hl
    have hl : w.logins[i]? = some l := hl
    rw [hw] at hl
    cases hl
  | append_singleton ms m ih =>
    intro l hl
    rw [moves_append] at hl
    have hbefore := ih (fun h => hcancel (List.mem_append_left _ h)) fun before h =>
      hwhole before (h.trans (List.prefix_append ms [m]))
    cases hc : (w.moves script ms).course? i with
    | none =>
      obtain ⟨credentials, keep, levels, dialog, rfl⟩ := new_of_move script (course_eq_none.mp hc) hl
      refine .of_unended rfl rfl ?_
      intro n hn
      cases hn
    | some c =>
      obtain ⟨c', hl', hs⟩ := step_of_move script hc m
      obtain rfl : c'.toLogin = l := Option.some.inj (hl'.symm.trans hl)
      refine Course.discreet_step (hbefore _ (login_of_course hc)) hs ?_ ?_
      · rintro rfl
        exact hcancel (List.mem_append_right ms List.mem_cons_self)
      · rintro rfl
        exact hwhole ms (List.prefix_refl _) c hc

/-- A login that is never cancelled ends with a ticket, or with a refusal after it has cleared the
session once, if and only if nothing breaks in any of its turns. -/
theorem refused_alike_iff (script : Nat → Http.Outcome) (client : Http.Client) (held : Nat → Bool)
    (adapter : Option Key.Adapter) (store : Store) {i : Nat} {ms : List (Move ν)}
    (hcancel : .cancel i ∉ ms) :
    let w (ms : List (Move ν)) : World ν :=
      (opening client script held adapter store).moves script ms
    (∀ how, (w ms).ending? i = some how →
        (∃ t, how = .returned t) ∨
        ∃ cause, how = .failed (.chained refusal cause) ∧ clearings ((w ms).eventsOf i) = 1) ↔
      ∀ before, before ++ [.turn i (.caller .host)] <+: ms →
        ∀ c, (w before).course? i = some c → ¬ c.Breaks := by
  intro w
  constructor
  · intro hclaim before hbefore c hc hbreaks
    obtain ⟨f, hf, hending⟩ := Course.ending_of_breaks hbreaks
    obtain ⟨after, rfl⟩ := hbefore
    have hturn :
        ((w before).move script (.turn i (.caller .host))).ending? i = some (.failed f) := by
      rw [ending?, move, logins_inCourse_self hc, Option.bind_some]
      exact hending
    have hend :
        (w (before ++ [.turn i (.caller .host)] ++ after)).ending? i = some (.failed f) := by
      simp only [w, List.append_assoc, moves_append]
      exact ending_moves script hturn after
    obtain ⟨t, ht⟩ | ⟨cause, hcause, -⟩ := hclaim _ hend
    · cases ht
    · cases hcause
      cases hf
  · intro hwhole how hhow
    obtain ⟨l, hl, hending⟩ := Option.bind_eq_some_iff.mp hhow
    have hdiscreet : Discreet l :=
      discreet_moves (opening client script held adapter store) rfl hcancel hwhole l hl
    obtain ⟨t, rfl⟩ | ⟨cause, rfl⟩ := hdiscreet.ending how hending
    · exact .inl ⟨t, rfl⟩
    · have hreached : (w ms).Reached script := ⟨client, held, adapter, store, ms, rfl⟩
      obtain ⟨-, -, -, -, -, hclears⟩ := session_follows_ending hreached i
      exact .inr ⟨cause, rfl, hclears.mpr ⟨_, hhow, rfl⟩⟩

end World

/-- A user who logs in, and waits for nothing else. -/
def rootMoves : List (Move Unit) :=
  [.login ⟨"root", "pw", "pam"⟩ false 995 sampleDialog, .turn 0 (.caller .host)]

theorem prefix_rootMoves {before : List (Move Unit)}
    (h : before ++ [.turn 0 (.caller .host)] <+: rootMoves) :
    before = [.login ⟨"root", "pw", "pam"⟩ false 995 sampleDialog] := by
  match before, h with
  | [], h => cases (List.cons_prefix_cons.mp h).1
  | [m], h => rw [(List.cons_prefix_cons.mp h).1]
  | m :: m' :: rest, h =>
    have hlen := h.length_le
    simp only [rootMoves, List.length_append, List.length_cons, List.length_nil] at hlen
    omega

/-- A backend that knows no password. -/
def unknowing : Nat → Http.Outcome := fun _ => .ok { status := 401, headers := [], body := [], levels := 995 }

theorem refused_alike_password :
    let w : World Unit := (World.opening { settings := {} } unknowing (fun _ => false) none []).moves
      unknowing rootMoves
    Move.cancel 0 ∉ rootMoves ∧
      ∃ cause, w.ending? 0 = some (.failed (.chained refusal cause)) ∧
        clearings (w.eventsOf 0) = 1 := by
  have hcancel : Move.cancel 0 ∉ rootMoves := by simp [rootMoves]
  have hwhole := (World.refused_alike_iff unknowing { settings := {} } (fun _ => false) none []
    hcancel).mpr ?_
  · refine ⟨hcancel, ?_⟩
    obtain ⟨t, ht⟩ | ⟨cause, -, hcleared⟩ := hwhole _ rfl
    · cases ht
    · exact ⟨.plain (.ofStatus 401), rfl, hcleared⟩
  · intro before hbefore c hc hbreaks
    rw [prefix_rootMoves hbefore] at hc
    cases hc
    rcases hbreaks with ⟨f, hanswer, hf⟩ | ⟨t, hanswer, -⟩
    · cases hanswer
      cases hf
    · cases hanswer

/-- A client that breaks in the first call breaks the login, which leaves the session as it was. -/
theorem broken_call_shows :
    let broken : Nat → Http.Outcome := fun _ => .error (.crash "boom")
    let w : World Unit := (World.opening { settings := {} } broken (fun _ => false) none []).moves
      broken rootMoves
    Move.cancel 0 ∉ rootMoves ∧ w.ending? 0 = some (.failed (.foreign (.crash "boom"))) ∧
      clearings (w.eventsOf 0) = 0 :=
  ⟨by simp [rootMoves], rfl, by decide +kernel⟩

end SecondFactor.Login
