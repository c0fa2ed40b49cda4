import SecondFactor.Proofs.Login.Run
import SecondFactor.Proofs.Negotiation.Response

/-! # What becomes of the session

A login hands a ticket on, or makes the session unusable, or does neither, and it never does both. A
ticket that is handed on was brought by the response to its last request. -/

namespace SecondFactor.Login

open Negotiation (Carried Happening Room Sound Tracked numbers requests)

variable {ν : Type} (script : Nat → Http.Outcome) (sent : List Http.Request)

/-- Whether the requests with these numbers lead to a ticket. Either the only one carries the
credentials, and brings the ticket, which is no challenge; or the first one carries the credentials
and brings a challenge, and the second one carries a proof for that and brings the ticket. -/
def Issued (credentials : Credentials) (ns : List Nat) (t : Ticket) : Prop :=
  (∃ number, ns = [number] ∧ Http.Carries sent number (·.primaryCall credentials) ∧
      (script number).Brings t ∧ Ticket.isChallenge t.ticket = false) ∨
    ∃ first second challenge proof, ns = [first, second] ∧
      Http.Carries sent first (·.primaryCall credentials) ∧
      (script first).Brings challenge ∧ Ticket.isChallenge challenge.ticket = true ∧
      Http.Carries sent second (·.proofCall challenge.username challenge.ticket proof) ∧
      (script second).Brings t

/-- Whether a login has sent its credentials, and nothing else. -/
structure Opened (es : List (Event ν)) (l : Login ν) (number : Nat) : Prop where
  only : requested es = [number]
  carries : Http.Carries sent number (·.primaryCall l.credentials)
  negotiation : l.negotiation = none

/-- Whether a negotiation is that of a challenge which came for the credentials, and has this
history. -/
structure Challenged (credentials : Credentials) (levels : Nat) (es : List (Event ν))
    (n : Negotiation Room.Turn) (first : Nat) (t : Ticket) (c : Challenge) (h : List Happening) :
    Prop where
  carries : Http.Carries sent first (·.primaryCall credentials)
  brings : (script first).Brings t
  isChallenge : Ticket.isChallenge t.ticket = true
  read : Challenge.ofTicket levels t.ticket = .ok c
  sound : Sound t.username t.ticket c h n
  tracked : Tracked script h n
  carried : Carried sent t.username t.ticket (numbers h) n
  requests : requested es = first :: numbers h

/-- Whether a negotiation is that of a challenge which came for the credentials. -/
def Negotiates (credentials : Credentials) (levels : Nat) (es : List (Event ν))
    (n : Negotiation Room.Turn) : Prop :=
  ∃ first t c h, Challenged script sent credentials levels es n first t c h

/-- What a login that ended so has handed on, and how often it has cleared the session. -/
def verdict : Option (Ending Ticket) → List Ticket × Nat
  | some (.returned t) => ([t], 0)
  | some (.failed f) => ([], if f.loginError?.isSome then 1 else 0)
  | _ => ([], 0)

/-- What a login without a negotiation has sent: nothing, or its credentials. -/
def Unchallenged (es : List (Event ν)) (l : Login ν) : Prop :=
  l.negotiation = none → requested es = [] ∨ ∃ number, Opened sent es l number

/-- What holds of a login in the middle of a turn that has not concluded it: nothing has become of
the session yet. -/
structure Midway (es : List (Event ν)) (l : Login ν) : Prop where
  unused : established es = []
  uncleared : clearings es = 0
  unchallenged : Unchallenged sent es l
  negotiating : ∀ n, l.negotiation = some n → Negotiates script sent l.credentials l.levels es n

/-- What holds of a login between two turns, given the events of its course. -/
structure Honest (es : List (Event ν)) (l : Login ν) : Prop where
  fresh : l.task.phase = .ready → requested es = [] ∧ l.negotiation = none
  waiting : ∀ number r, l.task.phase = .waiting (.response number r) → Opened sent es l number
  answered : ∀ r o, l.task.phase = .woken (.responded r o) →
    ∃ number, Opened sent es l number ∧ o = script number
  unchallenged : Unchallenged sent es l
  negotiating : ∀ n, l.negotiation = some n → Negotiates script sent l.credentials l.levels es n
  verdict : (established es, clearings es) = verdict l.task.ending?
  issued : ∀ t, l.task.ending? = some (.returned t) →
    Issued script sent l.credentials (requested es) t ∧
      (l.negotiation.isSome = true → (requested es).length = 2)

variable {script sent} {sent' : List Http.Request}

/-! ## What was sent stays sent -/

theorem Issued.mono {credentials : Credentials} {ns : List Nat} {t : Ticket}
    (hi : Issued script sent credentials ns t) (hmore : sent <+: sent') :
    Issued script sent' credentials ns t := by
  rcases hi with ⟨number, hns, hcarries, hbrings, hticket⟩ |
    ⟨first, second, challenge, proof, hns, hfirst, hbrings, hchallenge, hsecond, hticket⟩
  · exact .inl ⟨number, hns, hcarries.mono hmore, hbrings, hticket⟩
  · exact .inr ⟨first, second, challenge, proof, hns, hfirst.mono hmore, hbrings, hchallenge,
      hsecond.mono hmore, hticket⟩

theorem Opened.mono {es : List (Event ν)} {l : Login ν} {number : Nat}
    (ho : Opened sent es l number) (hmore : sent <+: sent') : Opened sent' es l number :=
  { ho with carries := ho.carries.mono hmore }

theorem Unchallenged.mono {es : List (Event ν)} {l : Login ν} (hu : Unchallenged sent es l)
    (hmore : sent <+: sent') : Unchallenged sent' es l := fun hn =>
  (hu hn).imp_right fun ⟨number, ho⟩ => ⟨number, ho.mono hmore⟩

theorem Negotiates.mono {credentials : Credentials} {levels : Nat} {es : List (Event ν)}
    {n : Negotiation Room.Turn} (hn : Negotiates script sent credentials levels es n)
    (hmore : sent <+: sent') : Negotiates script sent' credentials levels es n := by
  obtain ⟨first, t, c, h, hc⟩ := hn
  exact ⟨first, t, c, h,
    { hc with carries := hc.carries.mono hmore, carried := hc.carried.mono hmore }⟩

theorem Honest.mono {es : List (Event ν)} {l : Login ν} (hh : Honest script sent es l)
    (hmore : sent <+: sent') : Honest script sent' es l where
  fresh := hh.fresh
  waiting := fun number r h => (hh.waiting number r h).mono hmore
  answered := by
    intro r o h
    obtain ⟨number, hopened, ho⟩ := hh.answered r o h
    exact ⟨number, hopened.mono hmore, ho⟩
  unchallenged := hh.unchallenged.mono hmore
  negotiating := fun n hn => (hh.negotiating n hn).mono hmore
  verdict := hh.verdict
  issued := by
    intro t h
    obtain ⟨hissued, hlength⟩ := hh.issued t h
    exact ⟨hissued.mono hmore, hlength⟩

/-! ## The task of a login -/

/-- A login that has not ended is in the middle of its course. -/
theorem Honest.midway {es : List (Event ν)} {l : Login ν} (hh : Honest script sent es l)
    (hending : l.task.ending? = none) : Midway script sent es l := by
  have hverdict := hh.verdict
  rw [hending] at hverdict
  exact ⟨congrArg Prod.fst hverdict, congrArg Prod.snd hverdict, hh.unchallenged, hh.negotiating⟩

theorem Opened.with_task {es : List (Event ν)} {l : Login ν} {number : Nat}
    (ho : Opened sent es l number) (t : Task Wait Ticket) :
    Opened sent es { l with task := t } number :=
  ⟨ho.only, ho.carries, ho.negotiation⟩

theorem Unchallenged.with_task {es : List (Event ν)} {l : Login ν} (hu : Unchallenged sent es l)
    (t : Task Wait Ticket) : Unchallenged sent es { l with task := t } := fun hn =>
  (hu hn).imp_right fun ⟨number, ho⟩ => ⟨number, ho.with_task t⟩

/-- Events that concern no request change nothing. -/
theorem Unchallenged.of_requested {es fs : List (Event ν)} {l : Login ν}
    (hu : Unchallenged sent es l) (hsame : requested fs = requested es) :
    Unchallenged sent fs l := by
  intro hn
  rcases hu hn with hnone | ⟨number, ho⟩
  · exact .inl (hsame.trans hnone)
  · exact .inr ⟨number, hsame.trans ho.only, ho.carries, ho.negotiation⟩

/-- Only the phase of the task counts. -/
theorem Honest.of_phase {es : List (Event ν)} {l : Login ν} (hh : Honest script sent es l)
    {t : Task Wait Ticket} (hphase : t.phase = l.task.phase) :
    Honest script sent es { l with task := t } := by
  have hending : t.ending? = l.task.ending? := by
    unfold Task.ending?
    rw [hphase]
  constructor
  · exact fun h => hh.fresh (hphase ▸ h)
  · exact fun number r h => (hh.waiting number r (hphase ▸ h)).with_task t
  · intro r o h
    obtain ⟨number, hopened, ho⟩ := hh.answered r o (hphase ▸ h)
    exact ⟨number, hopened.with_task t, ho⟩
  · exact hh.unchallenged.with_task t
  · exact hh.negotiating
  · rw [hending]
    exact hh.verdict
  · exact fun u h => hh.issued u (hending ▸ h)

/-- Events that concern no request leave a negotiation what it is. -/
theorem Negotiates.of_requested {credentials : Credentials} {levels : Nat} {es fs : List (Event ν)}
    {n : Negotiation Room.Turn} (hn : Negotiates script sent credentials levels es n)
    (hsame : requested fs = requested es) : Negotiates script sent credentials levels fs n := by
  obtain ⟨first, t, c, h, hc⟩ := hn
  exact ⟨first, t, c, h, { hc with requests := hsame.trans hc.requests }⟩

namespace Midway

variable {es fs : List (Event ν)} {l : Login ν}

/-- Events that concern neither the backend nor the session change nothing. -/
theorem append (hm : Midway script sent es l) (hrequested : requested fs = [])
    (hestablished : established fs = []) (hclearings : clearings fs = 0) :
    Midway script sent (es ++ fs) l := by
  have hsame : requested (es ++ fs) = requested es := by
    rw [requested_append, hrequested, List.append_nil]
  constructor
  · rw [established_append, hm.unused, hestablished]
    rfl
  · rw [clearings_append, hm.uncleared, hclearings]
  · exact hm.unchallenged.of_requested hsame
  · exact fun n hn => (hm.negotiating n hn).of_requested hsame

/-- The login goes on. What it knows of its first request is what its task says. -/
theorem goes_on (hm : Midway script sent es l) {t : Task Wait Ticket} (hending : t.ending? = none)
    (hready : t.phase ≠ .ready)
    (hwaiting : ∀ number r, t.phase = .waiting (.response number r) → Opened sent es l number)
    (hanswered : ∀ r o, t.phase = .woken (.responded r o) →
      ∃ number, Opened sent es l number ∧ o = script number) :
    Honest script sent es { l with task := t } := by
  constructor
  · exact fun h => absurd h hready
  · exact fun number r h => (hwaiting number r h).with_task t
  · intro r o h
    obtain ⟨number, hopened, ho⟩ := hanswered r o h
    exact ⟨number, hopened.with_task t, ho⟩
  · exact hm.unchallenged.with_task t
  · exact hm.negotiating
  · rw [hm.unused, hm.uncleared, hending]
    rfl
  · intro u h
    rw [hending] at h
    cases h

/-- The login waits for something that is no response. -/
theorem waits (hm : Midway script sent es l) {t : Task Wait Ticket}
    (ht : t.phase = .waiting .parting ∨ t.phase = .waiting .outcome ∨
      t.phase = .woken .parting ∨ t.phase = .woken .outcome) :
    Honest script sent es { l with task := t } := by
  have hending : t.ending? = none := by
    unfold Task.ending?
    rcases ht with h | h | h | h <;> rw [h]
  apply hm.goes_on hending
  · rcases ht with h | h | h | h <;> simp [h]
  · intro number r h
    rcases ht with h' | h' | h' | h' <;> rw [h'] at h <;> cases h
  · intro r o h
    rcases ht with h' | h' | h' | h' <;> rw [h'] at h <;> cases h

/-- The login waits for the response to its first request. -/
theorem asks (hm : Midway script sent es l) {number : Nat} (ho : Opened sent es l number)
    (r : Http.Request) :
    Honest script sent es { l with task := .waitingFor (.response number r) } := by
  apply hm.goes_on rfl (by simp [Task.waitingFor])
  · intro number' r' h
    cases h
    exact ho
  · intro r' o h
    cases h

/-- The response to its first request is there, but the login was not told of it yet. -/
theorem learns (hm : Midway script sent es l) {number : Nat} (ho : Opened sent es l number)
    (r : Http.Request) :
    Honest script sent es { l with task := { phase := .woken (.responded r (script number)) } } := by
  apply hm.goes_on rfl (by simp)
  · intro number' r' h
    cases h
  · intro r' o h
    cases h
    exact ⟨number, ho, rfl⟩

/-- The login ends. -/
theorem ends (hm : Midway script sent es l) (fs : List (Event ν)) (how : Ending Ticket)
    (hverdict : (established (es ++ fs), clearings (es ++ fs)) = verdict (some how))
    (hrequested : requested fs = [])
    (hissued : ∀ t, how = .returned t → Issued script sent l.credentials (requested es) t ∧
      (l.negotiation.isSome = true → (requested es).length = 2)) :
    Honest script sent (es ++ fs) { l with task := .finished how } := by
  have hsame : requested (es ++ fs) = requested es := by
    rw [requested_append, hrequested, List.append_nil]
  constructor
  · intro h
    cases h
  · intro number r h
    cases h
  · intro r o h
    cases h
  · exact (hm.unchallenged.with_task (.finished how)).of_requested hsame
  · exact fun n hn => (hm.negotiating n hn).of_requested hsame
  · exact hverdict
  · intro t h
    rw [hsame]
    exact hissued t (Option.some.inj h)

end Midway

/-! ## What happens in the room of a negotiation -/

theorem requested_negotiation (es : List (Negotiation.Event ν)) :
    requested (es.map Event.negotiation) = requests es := by
  simp only [requested, requests, List.filterMap_map]
  rfl

theorem established_negotiation (es : List (Negotiation.Event ν)) :
    established (es.map Event.negotiation) = [] := by
  simp [established, List.filterMap_map, Event.established?]

theorem clearings_negotiation (es : List (Negotiation.Event ν)) :
    clearings (es.map Event.negotiation) = 0 := by
  simp [clearings, List.countP_map, Event.isCleared]

/-- A run of the negotiation of a challenge goes on with it. -/
theorem Negotiates.moves {credentials : Credentials} {levels : Nat} {es : List (Event ν)}
    {n : Negotiation Room.Turn} {o : Outside}
    (hb : ∀ number outcome, o.backend number = some outcome → outcome = script number)
    (hn : Negotiates script o.sent credentials levels es n)
    (ms : List (Negotiation.Move Room.Turn ν)) :
    let s : Negotiation.Scene Room.Turn ν := { toOutside := o, toNegotiation := n }
    Negotiates script (s.moves script ms).sent credentials levels
      (es ++ (s.moves script ms).log.map .negotiation) (s.moves script ms).toNegotiation := by
  intro s
  obtain ⟨first, t, c, h, hc⟩ := hn
  have hs : Sound t.username t.ticket c h s.toNegotiation := hc.sound
  refine ⟨first, t, c, h ++ s.history script ms, ?_⟩
  constructor
  · exact hc.carries.mono (s.sent_moves script ms)
  · exact hc.brings
  · exact hc.isChallenge
  · exact hc.read
  · exact hs.moves script ms
  · exact hc.tracked.moves hb hs ms
  · exact hs.carried_moves hc.carried ms
  · rw [requested_append, requested_negotiation, s.requests_moves, hc.requests,
      Negotiation.numbers_append]
    rfl

/-- No more than two requests go out for a login with a negotiation. -/
theorem Negotiates.length_le {credentials : Credentials} {levels : Nat} {es : List (Event ν)}
    {n : Negotiation Room.Turn} (hn : Negotiates script sent credentials levels es n) :
    (requested es).length ≤ 2 := by
  obtain ⟨first, t, c, h, hc⟩ := hn
  rw [hc.requests, List.length_cons]
  exact Nat.succ_le_succ hc.tracked.length_le

namespace Course

variable {L : List (Event ν)} {c : Course ν} {f : Room ν → Room ν}

/-- Whether the backend answers as the script says where it answers at once. -/
def Follows (script : Nat → Http.Outcome) (c : Course ν) : Prop :=
  ∀ number o, c.backend number = some o → o = script number

/-- What holds of a course in the middle of a turn, before which there were these requests and
events. -/
structure Working (script : Nat → Http.Outcome) (sent : List Http.Request) (L : List (Event ν))
    (c : Course ν) : Prop where
  follows : c.Follows script
  keeps : sent <+: c.sent
  midway : Midway script c.sent (L ++ c.log) c.toLogin

/-- What holds of a course behind a turn, before which there were these requests and events. -/
structure Resting (script : Nat → Http.Outcome) (sent : List Http.Request) (L : List (Event ν))
    (c : Course ν) : Prop where
  follows : c.Follows script
  keeps : sent <+: c.sent
  honest : Honest script c.sent (L ++ c.log) c.toLogin

/-- What is done in a room is a run of the negotiation in it, and touches nothing else of a login
but its guests. -/
theorem inRoom_eq (hf : Room.Plays script f) {n : Negotiation Room.Turn}
    (hn : c.negotiation = some n) :
    ∃ ms guests queue,
      let s : Negotiation.Scene Room.Turn ν := { toOutside := c.toOutside, toNegotiation := n }
      c.inRoom f = { c with
        toOutside := (s.moves script ms).toOutside
        negotiation := some (s.moves script ms).toNegotiation
        guests
        queue
        log := c.log ++ (s.moves script ms).log.map .negotiation } := by
  obtain ⟨ms, hms⟩ := hf { toOutside := c.toOutside, toNegotiation := n, toGuests := c.guests }
  refine ⟨ms, (f { toOutside := c.toOutside, toNegotiation := n, toGuests := c.guests }).toGuests,
    c.queue ++ (f { toOutside := c.toOutside, toNegotiation := n, toGuests := c.guests }).queue, ?_⟩
  simp only [inRoom, room?, hn, Option.map_some, settleIn]
  rw [← hms]

theorem inRoom_none (hn : c.negotiation = none) : c.inRoom f = c := by
  simp only [inRoom, room?, hn, Option.map_none]

theorem follows_inRoom (hf : Room.Plays script f) (hb : c.Follows script) :
    (c.inRoom f).Follows script := by
  cases hn : c.negotiation with
  | none => rwa [inRoom_none hn]
  | some n =>
    obtain ⟨ms, guests, queue, heq⟩ := inRoom_eq hf hn
    have hbackend := Negotiation.Scene.backend_moves script
      ({ toOutside := c.toOutside, toNegotiation := n } : Negotiation.Scene Room.Turn ν) ms
    intro number o ho
    rw [heq] at ho
    refine hb number o ?_
    rw [← ho]
    exact (congrFun hbackend number).symm

theorem sent_inRoom (hf : Room.Plays script f) : c.sent <+: (c.inRoom f).sent := by
  cases hn : c.negotiation with
  | none =>
    have hsame : (c.inRoom f).sent = c.sent := congrArg (·.sent) (inRoom_none hn)
    exact ⟨[], (List.append_nil _).trans hsame.symm⟩
  | some n =>
    obtain ⟨ms, guests, queue, heq⟩ := inRoom_eq hf hn
    rw [heq]
    exact Negotiation.Scene.sent_moves script
      ({ toOutside := c.toOutside, toNegotiation := n } : Negotiation.Scene Room.Turn ν) ms

theorem working_inRoom (hf : Room.Plays script f) (hc : c.Working script sent L) :
    (c.inRoom f).Working script sent L := by
  refine ⟨follows_inRoom hf hc.follows, hc.keeps.trans (sent_inRoom hf), ?_⟩
  cases hn : c.negotiation with
  | none =>
    rw [inRoom_none hn]
    exact hc.midway
  | some n =>
    obtain ⟨ms, guests, queue, heq⟩ := inRoom_eq hf hn
    rw [heq]
    dsimp only
    rw [← List.append_assoc]
    constructor
    · rw [established_append, hc.midway.unused, established_negotiation]
      rfl
    · rw [clearings_append, hc.midway.uncleared, clearings_negotiation]
    · intro hnone
      cases hnone
    · intro n' hn'
      cases hn'
      exact (hc.midway.negotiating n hn).moves hc.follows ms

theorem resting_inRoom (hf : Room.Plays script f) (hc : c.Resting script sent L) :
    (c.inRoom f).Resting script sent L := by
  refine ⟨follows_inRoom hf hc.follows, hc.keeps.trans (sent_inRoom hf), ?_⟩
  have hh := hc.honest
  cases hn : c.negotiation with
  | none => rwa [inRoom_none hn]
  | some n =>
    obtain ⟨ms, guests, queue, heq⟩ := inRoom_eq hf hn
    rw [heq]
    dsimp only
    rw [← List.append_assoc]
    have hsome : c.negotiation ≠ none := by simp [hn]
    let s : Negotiation.Scene Room.Turn ν := { toOutside := c.toOutside, toNegotiation := n }
    have hnegotiates : Negotiates script (s.moves script ms).sent c.credentials c.levels
        (L ++ c.log ++ (s.moves script ms).log.map .negotiation)
        (s.moves script ms).toNegotiation := (hh.negotiating n hn).moves hc.follows ms
    constructor
    · exact fun h => absurd (hh.fresh h).2 hsome
    · exact fun number r h => absurd (hh.waiting number r h).negotiation hsome
    · intro r o h
      obtain ⟨number, hopened, -⟩ := hh.answered r o h
      exact absurd hopened.negotiation hsome
    · intro hnone
      cases hnone
    · intro n' hn'
      cases hn'
      exact hnegotiates
    · rw [established_append, established_negotiation, List.append_nil, clearings_append,
        clearings_negotiation, Nat.add_zero]
      exact hh.verdict
    · intro t ht
      obtain ⟨hissued, hlength⟩ := hh.issued t ht
      have htwo : (requested (L ++ c.log)).length = 2 := hlength (by simp [hn])
      -- both requests went out already, so that no other does
      have hle := hnegotiates.length_le
      rw [requested_append, List.length_append, htwo] at hle
      have hnil : requested ((s.moves script ms).log.map Event.negotiation) = [] := by
        apply List.eq_nil_of_length_eq_zero
        omega
      rw [requested_append, hnil, List.append_nil]
      exact ⟨hissued.mono (s.sent_moves script ms), fun _ => htwo⟩

end Course

end SecondFactor.Login
