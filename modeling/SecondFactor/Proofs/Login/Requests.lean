import SecondFactor.Proofs.Login.Handover
import SecondFactor.Proofs.Text.Form

/-! # What is sent for a login

A login sends its credentials, and the proof for a challenge that they brought. It sends nothing
else, whatever comes back, and every request can be read back as the fields that it carries. -/

namespace SecondFactor

open Negotiation (Room)

/-! ## Requests for a ticket -/

namespace Http

/-- Whether a request goes to where tickets are, and carries a form. -/
structure Request.AsksTicket (settings : Settings) (r : Request) : Prop where
  method : r.method = "POST"
  url : Client.target { settings } { endpoint := settings.ticketPath } = .ok r.url
  contentType : r.contentType = some "application/x-www-form-urlencoded"

theorem exists_of_bind {ε α β : Type} {x : Except ε α} {f : α → Except ε β} {b : β}
    (h : (x >>= f) = .ok b) : ∃ a, x = .ok a ∧ f a = .ok b := by
  cases x with
  | error e => cases h
  | ok a => exact ⟨a, rfl, h⟩

theorem ok_of_mapError {ε ε' α : Type} {x : Except ε α} {f : ε → ε'} {a : α}
    (h : x.mapError f = .ok a) : x = .ok a := by
  cases x with
  | error e => cases h
  | ok a' =>
    cases h
    rfl

/-- What a request has from the call that it is made for. -/
theorem Client.request_ok {c : Client} {call : Call} {r : Request} (h : c.request call = .ok r) :
    c.target call = .ok r.url ∧ r.method = String.ofList (CaseMapping.upper call.method.toList) ∧
      r.contentType =
        (if call.form.isEmpty then none else some "application/x-www-form-urlencoded") ∧
      r.body = Form.encodeGroups call.form ∧
      (call.timeout = none → r.timeout = c.settings.timeout) := by
  unfold request at h
  obtain ⟨url, hurl, h⟩ := exists_of_bind h
  obtain ⟨cookie, -, h⟩ := exists_of_bind h
  obtain ⟨host, -, h⟩ := exists_of_bind h
  simp only [throw, throwThe, MonadExceptOf.throw, bind, Except.bind, pure, Except.pure] at h
  split at h
  · cases h
  · split at h
    · cases h
    · split at h
      · cases h
      · cases h
        refine ⟨ok_of_mapError hurl, rfl, rfl, rfl, fun hnone => ?_⟩
        simp only [hnone]

/-- A request for a ticket can be read back. -/
theorem Client.request_ticketCall {c : Client} {form : List Form.Field} {r : Request}
    (hform : form ≠ []) (h : c.request (c.ticketCall form) = .ok r) :
    r.AsksTicket c.settings ∧ Form.decode r.body = some form := by
  have hgroups : (form.map Form.Group.ofField).isEmpty = false := by simpa using hform
  obtain ⟨hurl, hmethod, hcontent, hbody, -⟩ := request_ok h
  have hupper : String.ofList (CaseMapping.upper "POST".toList) = "POST" := by decide +kernel
  refine ⟨⟨hmethod.trans hupper, hurl, ?_⟩, ?_⟩
  · simpa [ticketCall, hgroups] using hcontent
  · rw [hbody, ticketCall, Form.encodeGroups_ofField, Form.decode_encode]

/-- Whether a request was made for a ticket, by a client with these settings. -/
def Request.MadeWith (settings : Settings) (r : Request) : Prop :=
  ∃ (c : Client) (form : List Form.Field), form ≠ [] ∧ c.settings = settings ∧
    c.request (c.ticketCall form) = .ok r

theorem Request.MadeWith.asksTicket {settings : Settings} {r : Request}
    (h : r.MadeWith settings) : r.AsksTicket settings := by
  obtain ⟨c, form, hform, rfl, hcall⟩ := h
  exact (Client.request_ticketCall hform hcall).1

/-- A request for a ticket may take as long as the settings say. -/
theorem Request.MadeWith.timeout {settings : Settings} {r : Request} (h : r.MadeWith settings) :
    r.timeout = settings.timeout := by
  obtain ⟨c, form, -, rfl, hcall⟩ := h
  exact (Client.request_ok hcall).2.2.2.2 rfl

/-- A request that carries a call for a ticket is read back as the fields of the call. -/
theorem Carries.decode {sent : List Request} {number : Nat} {form : List Form.Field}
    (hform : form ≠ []) (h : Carries sent number (·.ticketCall form)) :
    ∃ r, sent[number]? = some r ∧ Form.decode r.body = some form := by
  obtain ⟨c, r, hr, hcall⟩ := h
  exact ⟨r, hr, (Client.request_ticketCall hform hcall).2⟩

end Http

/-! ## Where requests come from -/

/-- Whether what was sent grew by requests for tickets, of which these are the numbers. -/
structure Outside.Adds (o o' : Outside) (ns : List Nat) : Prop where
  adapter : o'.adapter = o.adapter
  settings : o'.client.settings = o.client.settings
  sent : ∃ rs, o'.sent = o.sent ++ rs ∧ ns = List.range' o.sent.length rs.length ∧
    ∀ r ∈ rs, r.MadeWith o.client.settings

namespace Outside.Adds

variable {o o' o'' : Outside} {ns ns' : List Nat}

theorem nothing (hadapter : o'.adapter = o.adapter)
    (hsettings : o'.client.settings = o.client.settings) (hsent : o'.sent = o.sent) :
    o.Adds o' [] :=
  ⟨hadapter, hsettings, [], by simp [hsent], rfl, List.forall_mem_nil _⟩

theorem one {client : Http.Client} {form : List Form.Field} {r : Http.Request} (hform : form ≠ [])
    (hsettings : client.settings = o.client.settings)
    (h : o.client.request (o.client.ticketCall form) = .ok r) :
    o.Adds { o with client, sent := o.sent ++ [r] } [o.sent.length] :=
  ⟨rfl, hsettings, [r], rfl, rfl, List.forall_mem_singleton.mpr ⟨o.client, form, hform, rfl, h⟩⟩

theorem trans (h : o.Adds o' ns) (h' : o'.Adds o'' ns') : o.Adds o'' (ns ++ ns') := by
  obtain ⟨hadapter, hsettings, rs, hsent, rfl, hrs⟩ := h
  obtain ⟨hadapter', hsettings', rs', hsent', rfl, hrs'⟩ := h'
  refine ⟨hadapter'.trans hadapter, hsettings'.trans hsettings, rs ++ rs', ?_, ?_, ?_⟩
  · rw [hsent', hsent, List.append_assoc]
  · rw [hsent, List.length_append, List.length_append, List.range'_append_1]
  · intro r hr
    rcases List.mem_append.mp hr with hold | hnew
    · exact hrs r hold
    · exact hsettings ▸ hrs' r hnew

end Outside.Adds

namespace Negotiation

/-- Whether nothing but requests for tickets went out from one scene to another, all of them noted. -/
def Scene.Sends {τ ν : Type} (s s' : Scene τ ν) : Prop :=
  ∃ ns, s.toOutside.Adds s'.toOutside ns ∧ requests s'.log = requests s.log ++ ns

namespace Scene

variable {τ ν : Type} {s s' s'' : Scene τ ν}

theorem Sends.of_traffic (h : s'.traffic = s.traffic) : s.Sends s' := by
  obtain ⟨-, hsent, hlog, hsettings, hadapter⟩ : s'.backend = s.backend ∧ s'.sent = s.sent ∧
      requests s'.log = requests s.log ∧ s'.client.settings = s.client.settings ∧
        s'.adapter = s.adapter := by
    simpa [traffic] using h
  exact ⟨[], .nothing hadapter hsettings hsent, by rw [hlog, List.append_nil]⟩

/-- Guests send nothing. -/
theorem Visited.traffic {P : Action → Prop} (h : s.Visited P s') : s'.traffic = s.traffic := by
  let script (_ : Nat) : Http.Outcome := .error .malformedJson
  induction h with
  | refl => rfl
  | trans _ _ ih ih' => exact ih'.trans ih
  | @act s s' a _ h => simpa [move, h] using traffic_act script s a
  | @confirm s s' caller _ h => simpa [move, h] using traffic_confirm script s caller
  | awaitClosed s caller =>
    exact traffic_move script s (m := .awaitClosed caller) (by simp) (by simp)
  | awaitOutcome s caller =>
    exact traffic_move script s (m := .awaitOutcome caller) (by simp) (by simp)
  | enqueue => rfl
  | noted s n => exact traffic_note s rfl

theorem sends_runSubmission (s : Scene τ ν) : s.Sends s.runSubmission := by
  have htraffic := s.traffic_runSubmission
  cases hr : s.submits? with
  | none =>
    refine .of_traffic ?_
    simpa [hr, traffic] using htraffic
  | some r =>
    obtain ⟨sub, -, hcall⟩ := s.exists_of_submits hr
    obtain ⟨-, hsent, hlog, hsettings, hadapter⟩ : _ ∧ s.runSubmission.sent = s.sent ++ [r] ∧
        requests s.runSubmission.log = requests s.log ++ [s.sent.length] ∧
          s.runSubmission.client.settings = s.client.settings ∧
            s.runSubmission.adapter = s.adapter := by
      simpa [hr, traffic] using htraffic
    refine ⟨[s.sent.length], ⟨hadapter, hsettings, [r], hsent, rfl, ?_⟩, hlog⟩
    exact List.forall_mem_singleton.mpr ⟨s.client, _, List.cons_ne_nil _ _, rfl, hcall⟩

theorem sends_run (s : Scene τ ν) (t : Turn τ) : s.Sends (s.run t) := by
  cases t with
  | submission => exact sends_runSubmission s
  | attempt i => exact .of_traffic (traffic_runAttempt s i)
  | attemptEnded i => exact .of_traffic (traffic_ended s _)
  | attemptNotified i => exact .of_traffic (traffic_updateAttempt s i _)
  | submissionEnded => exact .of_traffic (traffic_ended s _)
  | caller t => exact .of_traffic rfl

end Scene

namespace Room

variable {ν : Type}

/-- Whether what is done in a room sends nothing but requests for tickets. -/
def Sends (f : Room ν → Room ν) : Prop := ∀ r : Room ν, r.toScene.Sends (f r).toScene

theorem sends_of_visited {f : Room ν → Room ν}
    (hf : ∀ r : Room ν, r.toScene.Visited (fun _ => True) (f r).toScene) : Sends f :=
  fun r => .of_traffic (hf r).traffic

theorem sends_run (t : Negotiation.Turn Room.Turn) : Sends fun r : Room ν => r.run t := by
  cases t with
  | caller t =>
    cases ht : t.isGuests with
    | true => exact sends_of_visited fun r => (visits_run r.within_all ht).visited
    | false =>
      cases t with
      | watch => exact sends_of_visited visited_runWatcher
      | host | hostParting | hostOutcome => exact fun r => r.toScene.sends_run _
      | _ => cases ht
  | attempt _ | attemptEnded _ | attemptNotified _ | submission | submissionEnded =>
    exact fun r => r.toScene.sends_run _

end Room

end Negotiation

namespace Login

variable {ν : Type}

namespace Course

variable {c c' c'' : Course ν} {f : Room ν → Room ν}

/-- Whether nothing but requests for tickets went out in the course of a login, all of them noted. -/
def Sends (c c' : Course ν) : Prop :=
  ∃ ns, c.toOutside.Adds c'.toOutside ns ∧ requested c'.log = requested c.log ++ ns

theorem Sends.quiet (hadapter : c'.adapter = c.adapter)
    (hsettings : c'.client.settings = c.client.settings) (hsent : c'.sent = c.sent)
    (hlog : requested c'.log = requested c.log) : c.Sends c' :=
  ⟨[], .nothing hadapter hsettings hsent, by rw [hlog, List.append_nil]⟩

theorem Sends.trans (h : c.Sends c') (h' : c'.Sends c'') : c.Sends c'' := by
  obtain ⟨ns, hadds, hlog⟩ := h
  obtain ⟨ns', hadds', hlog'⟩ := h'
  exact ⟨ns ++ ns', hadds.trans hadds', by rw [hlog', hlog, List.append_assoc]⟩

theorem sends_inRoom (hf : Room.Sends f) (c : Course ν) : c.Sends (c.inRoom f) := by
  cases hn : c.negotiation with
  | none =>
    rw [inRoom_none hn]
    exact .quiet rfl rfl rfl rfl
  | some n =>
    obtain ⟨ns, hadds, hlog⟩ :=
      hf { toOutside := c.toOutside, toNegotiation := n, toGuests := c.guests }
    refine ⟨ns, ?_, ?_⟩
    · simpa only [inRoom, room?, hn, Option.map_some, settleIn] using hadds
    · simp only [inRoom, room?, hn, Option.map_some, settleIn, requested_append,
        requested_negotiation, hlog]
      rfl

theorem sends_visited (hf : ∀ r : Room ν, r.toScene.Visited (fun _ => True) (f r).toScene)
    (c : Course ν) : c.Sends (c.inRoom f) :=
  sends_inRoom (Room.sends_of_visited hf) c

theorem sends_conclude (c : Course ν) (result : Except Failure Ticket) :
    c.Sends (c.conclude result) := by
  unfold conclude
  split
  · exact .quiet rfl rfl rfl (requested_append _ _ |>.trans (List.append_nil _))
  · split
    · exact .quiet rfl rfl rfl (requested_append _ _ |>.trans (List.append_nil _))
    · exact .quiet rfl rfl rfl rfl

theorem sends_negotiate (c : Course ν) (t : Ticket) : c.Sends (c.negotiate t) := by
  unfold negotiate
  split
  · exact sends_conclude c _
  · rename_i n _
    let begun : Course ν := { c with negotiation := some n, task := .waitingFor .parting }
    have hbegun : c.Sends begun := .quiet rfl rfl rfl rfl
    exact hbegun.trans (sends_visited (Room.visited_begin trivial c.script) begun)

theorem sends_take (c : Course ν) (result : Except Failure Ticket) : c.Sends (c.take result) := by
  unfold take
  split
  · exact sends_conclude c _
  · split
    · exact sends_negotiate c _
    · exact sends_conclude c _

theorem sends_receive (c : Course ν) (r : Http.Request) (o : Http.Outcome) :
    c.Sends (c.receive r o) := by
  let received : Course ν := { c with toOutside := c.toOutside.receive r o }
  have hreceived : c.Sends received := .quiet rfl (Http.Client.settings_receive _ _ _) rfl rfl
  rw [receive_eq]
  exact hreceived.trans (sends_take received _)

theorem sends_submit (c : Course ν) : c.Sends c.submit := by
  unfold submit Outside.send
  cases hcall : c.client.request (c.client.primaryCall c.credentials) with
  | error f => exact sends_conclude c _
  | ok r =>
    let noted : Course ν := note { c with toOutside := { c.toOutside with sent := c.sent ++ [r] } }
      [.negotiation (.requested c.sent.length)]
    have hnoted : c.Sends noted :=
      ⟨[c.sent.length], .one (List.cons_ne_nil _ _) rfl hcall, requested_append _ _⟩
    dsimp only [Except.map]
    split
    · exact hnoted.trans (sends_receive noted r _)
    · exact hnoted.trans (.quiet rfl rfl rfl rfl)

theorem sends_start (c : Course ν) : c.Sends c.start := by
  let accessed : Course ν := { c with
    store := (Store.remember c.credentials.username c.keep).foldl Store.apply c.store
    log := c.log ++ (Store.remember c.credentials.username c.keep).map .accessed }
  have haccessed : c.Sends accessed := by
    refine .quiet rfl rfl rfl ?_
    rw [requested_append]
    simp [requested, List.filterMap_map, Event.requested?]
  rw [start_eq]
  exact haccessed.trans (sends_submit accessed)

theorem sends_part (c : Course ν) : c.Sends c.part := sends_visited (Room.visited_part trivial) c

theorem sends_awaitOutcome (c : Course ν) : c.Sends c.awaitOutcome := by
  unfold awaitOutcome
  split
  · exact sends_conclude c _
  · have hasks : c.Sends (c.inRoom fun r => r.onScene fun s => (s.awaitOutcome .hostOutcome).2) :=
      sends_visited (fun r => .awaitOutcome r.toScene Room.Turn.hostOutcome) c
    exact hasks.trans (.quiet rfl rfl rfl rfl)

theorem sends_runLogin (c : Course ν) : c.Sends c.runLogin := by
  unfold runLogin
  split
  · exact sends_start c
  · exact sends_receive c _ _
  · exact (sends_part c).trans (sends_awaitOutcome _)
  · exact sends_awaitOutcome c
  · exact (sends_part c).trans (.quiet rfl rfl rfl rfl)
  · exact (sends_part c).trans (.quiet rfl rfl rfl rfl)
  all_goals exact .quiet rfl rfl rfl rfl

/-- Every step of a login sends nothing but requests for tickets. -/
theorem sends_run (c : Course ν) (t : Negotiation.Turn Room.Turn) : c.Sends (c.run t) := by
  unfold run
  split
  · exact sends_runLogin c
  · unfold notifyParting
    split <;> exact .quiet rfl rfl rfl rfl
  · unfold notifyOutcome
    split <;> exact .quiet rfl rfl rfl rfl
  · exact sends_inRoom (Room.sends_run _) c

theorem sends_respond (c : Course ν) (o : Http.Outcome) : c.Sends (c.respond o) := by
  unfold respond
  split
  · exact .quiet rfl rfl rfl rfl
  · exact sends_inRoom (fun r => .of_traffic (r.toScene.traffic_updateSubmission _)) c

end Course

namespace World

/-- What holds of a world whose client was set so: everything that was sent asks for a ticket, and is
noted for a login. -/
structure Recorded (set : Settings) (w : World ν) : Prop where
  settings : w.client.settings = set
  made : ∀ r ∈ w.sent, r.MadeWith set
  noted : w.log.filterMap (·.2.requested?) = List.range w.sent.length

variable {set : Settings} {w : World ν}

theorem Recorded.inCourse (hw : w.Recorded set) (i : Nat) {f : Course ν → Course ν}
    (hf : ∀ c : Course ν, c.Sends (f c)) : (w.inCourse i f).Recorded set := by
  unfold World.inCourse
  cases hc : w.course? i with
  | none => exact hw
  | some c =>
    obtain ⟨l, -, rfl⟩ := Option.map_eq_some_iff.mp hc
    obtain ⟨ns, ⟨-, hsettings, rs, hsent, rfl, hrs⟩, hlog⟩ :=
      hf { toOutside := w.toOutside, toLogin := l, store := w.store }
    refine ⟨hsettings.trans hw.settings, fun r hr => ?_, ?_⟩
    · simp only [settleIn, hsent] at hr
      rcases List.mem_append.mp hr with hold | hnew
      · exact hw.made r hold
      · exact hw.settings ▸ hrs r hnew
    · have hnew (es : List (Event ν)) :
          (es.map (i, ·)).filterMap (·.2.requested?) = requested es := by
        rw [List.filterMap_map]
        rfl
      simp only [settleIn, List.filterMap_append, hnew, hlog, hw.noted, hsent, List.length_append]
      rw [List.range_eq_range', List.range_eq_range', ← List.range'_append_1]
      simp [requested]

theorem Recorded.move {script : Nat → Http.Outcome} (hw : w.Recorded set) (m : Move ν) :
    (w.move script m).Recorded set := by
  cases m with
  | login credentials keep dialog => exact ⟨hw.settings, hw.made, hw.noted⟩
  | cancel i => exact hw.inCourse i fun c => .quiet rfl rfl rfl rfl
  | tell i =>
    exact hw.inCourse i (Course.sends_visited fun r => (Room.visits_tell r.within_all).visited)
  | respond i =>
    simp only [World.move]
    split
    · exact hw.inCourse i fun c => c.sends_respond _
    · exact hw
  | reply i j next =>
    refine hw.inCourse i (Course.sends_inRoom fun r => ?_)
    exact .of_traffic (r.toScene.traffic_updateAttempt j _)
  | turn i t => exact hw.inCourse i fun c => c.sends_run t
  | queue queue => exact ⟨hw.settings, hw.made, hw.noted⟩

theorem recorded_moves (client : Http.Client) (script : Nat → Http.Outcome) (held : Nat → Bool)
    (adapter : Option Key.Adapter) (store : Store) (ms : List (Move ν)) :
    ((opening client script held adapter store).moves script ms).Recorded client.settings :=
  moves_induction script (fun _ m hw => hw.move m) ⟨rfl, List.forall_mem_nil _, rfl⟩ ms

theorem Recorded.asks (hw : w.Recorded set) (r : Http.Request) (hr : r ∈ w.sent) :
    r.AsksTicket set :=
  (hw.made r hr).asksTicket

/-- Whatever was sent is noted for a login. -/
theorem Recorded.exists_requested (hw : w.Recorded set) {number : Nat} {r : Http.Request}
    (hr : w.sent[number]? = some r) : ∃ i, number ∈ requested (w.eventsOf i) := by
  have hmem : number ∈ w.log.filterMap (·.2.requested?) := by
    rw [hw.noted]
    exact List.mem_range.mpr (List.getElem?_eq_some_iff.mp hr).1
  obtain ⟨⟨i, e⟩, he, hnumber⟩ := List.mem_filterMap.mp hmem
  refine ⟨i, List.mem_filterMap.mpr ⟨e, ?_, hnumber⟩⟩
  exact List.mem_map.mpr ⟨(i, e), List.mem_filter.mpr ⟨he, beq_self_eq_true i⟩, rfl⟩

/-- Whether the request with this number asks for a ticket, and is read back as these fields. -/
def Posts (w : World ν) (set : Settings) (number : Nat) (fields : List Form.Field) : Prop :=
  ∃ r, w.sent[number]? = some r ∧ r.AsksTicket set ∧ Form.decode r.body = some fields

theorem Recorded.posts (hw : w.Recorded set) {number : Nat} {fields : List Form.Field}
    (hfields : fields ≠ []) (h : Http.Carries w.sent number (·.ticketCall fields)) :
    w.Posts set number fields := by
  obtain ⟨r, hr, hdecode⟩ := h.decode hfields
  exact ⟨r, hr, hw.asks r (List.mem_of_getElem? hr), hdecode⟩

end World

/-- The first request of a login carries its credentials, and there is no more than one other. -/
theorem Honest.requests {script : Nat → Http.Outcome} {sent : List Http.Request}
    {es : List (Event ν)} {l : Login ν} (hh : Honest script sent es l) :
    (requested es).length ≤ 2 ∧ ∀ first rest, requested es = first :: rest →
      Http.Carries sent first (·.primaryCall l.credentials) := by
  cases hn : l.negotiation with
  | none =>
    rcases hh.unchallenged hn with hnone | ⟨number, ho⟩
    · rw [hnone]
      exact ⟨Nat.zero_le 2, nofun⟩
    · rw [ho.only]
      refine ⟨Nat.le_succ 1, fun first rest h => ?_⟩
      cases h
      exact ho.carries
  | some n =>
    have hnegotiates := hh.negotiating n hn
    refine ⟨hnegotiates.length_le, fun first rest h => ?_⟩
    obtain ⟨number, t, c, hist, hc⟩ := hnegotiates
    cases hc.requests.symm.trans h
    exact hc.carries

/-- Another request carries the proof that was accepted for the challenge in the first response. -/
theorem Honest.proof {script : Nat → Http.Outcome} {sent : List Http.Request}
    {es : List (Event ν)} {l : Login ν} (hh : Honest script sent es l) {first second : Nat}
    (hrequested : requested es = [first, second]) :
    ∃ t c n sub, (script first).Brings t ∧ Ticket.isChallenge t.ticket = true ∧
      Challenge.ofTicket l.levels t.ticket = .ok c ∧ l.negotiation = some n ∧ n.challenge = c ∧
      n.submission = some sub ∧ c.offers sub.proof.method = true ∧
      Http.Carries sent second (·.proofCall t.username t.ticket sub.proof.text) := by
  cases hn : l.negotiation with
  | none =>
    rcases hh.unchallenged hn with hnone | ⟨number, ho⟩
    · cases hnone.symm.trans hrequested
    · cases ho.only.symm.trans hrequested
  | some n =>
    obtain ⟨number, t, c, hist, hc⟩ := hh.negotiating n hn
    obtain ⟨rfl, hnumbers⟩ := List.cons.inj (hc.requests.symm.trans hrequested)
    obtain ⟨sub, hsub, hcarries⟩ := hc.carried second (hnumbers ▸ List.mem_singleton_self second)
    exact ⟨t, c, n, sub, hc.brings, hc.isChallenge, hc.read, rfl, hc.sound.ofChallenge, hsub,
      (hc.sound.rests sub hsub).1, hcarries⟩

/-- Whatever happens, all that is sent are requests for tickets, each of them for a login, and no
more than two for each. The first one is read back as the credentials, in this order; the second one
goes out when a proof was accepted for the challenge that the first one brought, and is read back as
the name and the ticket that came with it, and the proof. -/
theorem World.requests_read_back (client : Http.Client) (script : Nat → Http.Outcome)
    (held : Nat → Bool) (adapter : Option Key.Adapter) (store : Store) (ms : List (Move ν)) :
    let w : World ν := (opening client script held adapter store).moves script ms
    (∀ number r, w.sent[number]? = some r →
      r.AsksTicket client.settings ∧ ∃ i, number ∈ requested (w.eventsOf i)) ∧
    ∀ i, (requested (w.eventsOf i)).length ≤ 2 ∧ ∀ l, w.logins[i]? = some l →
      (∀ first rest, requested (w.eventsOf i) = first :: rest →
        w.Posts client.settings first
          [("username", l.credentials.username ++ "@" ++ l.credentials.realm),
            ("password", l.credentials.password)]) ∧
      ∀ first second, requested (w.eventsOf i) = [first, second] →
        ∃ t c n sub, (script first).Brings t ∧ Ticket.isChallenge t.ticket = true ∧
          Challenge.ofTicket l.levels t.ticket = .ok c ∧ l.negotiation = some n ∧ n.challenge = c ∧
          n.submission = some sub ∧ c.offers sub.proof.method = true ∧
          w.Posts client.settings second
            [("username", t.username), ("password", sub.proof.text),
              ("tfa-challenge", t.ticket)] := by
  intro w
  have hrecorded : w.Recorded client.settings := recorded_moves client script held adapter store ms
  have htruthful : w.Truthful script :=
    truthful_of_reached ⟨client, held, adapter, store, ms, rfl⟩
  refine ⟨fun number r hr => ?_, fun i => ⟨?_, fun l hl => ⟨?_, ?_⟩⟩⟩
  · exact ⟨hrecorded.asks r (List.mem_of_getElem? hr), hrecorded.exists_requested hr⟩
  · cases hl : w.logins[i]? with
    | none =>
      rw [htruthful.eventsOf_eq_nil (List.getElem?_eq_none_iff.mp hl)]
      exact Nat.zero_le 2
    | some l => exact (htruthful.honest i l hl).requests.1
  · intro first rest h
    exact hrecorded.posts (List.cons_ne_nil _ _) ((htruthful.honest i l hl).requests.2 first rest h)
  · intro first second h
    obtain ⟨t, c, n, sub, hbrings, hchallenge, hread, hn, hc, hsub, hoffers, hcarries⟩ :=
      (htruthful.honest i l hl).proof h
    exact ⟨t, c, n, sub, hbrings, hchallenge, hread, hn, hc, hsub, hoffers,
      hrecorded.posts (List.cons_ne_nil _ _) hcarries⟩

theorem requests_read_back_totp :
    requested ((sampleWorld "PBS:root@pam").eventsOf 0) = [0, 1] ∧
      (sampleWorld "PBS:root@pam").Posts {} 0 [("username", "root@pam"), ("password", "pw")] ∧
      ∃ fields, (sampleWorld "PBS:root@pam").Posts {} 1 fields := by
  let script := sampleScript "PBS:root@pam"
  let opening : World Unit := World.opening { settings := {} } script (fun _ => false) none []
  obtain ⟨ms, hms⟩ := World.settle_eq_moves script 30
    (opening.login ⟨"root", "pw", "pam"⟩ false 995 sampleDialog)
  have hw : opening.moves script (.login ⟨"root", "pw", "pam"⟩ false 995 sampleDialog :: ms) =
      sampleWorld "PBS:root@pam" := hms.symm
  have hrequested : requested ((sampleWorld "PBS:root@pam").eventsOf 0) = [0, 1] := by
    decide +kernel
  have hcredentials : ((sampleWorld "PBS:root@pam").logins[0]?).map (·.credentials) =
      some ⟨"root", "pw", "pam"⟩ := by
    decide +kernel
  obtain ⟨l, hl, hcredentials⟩ := Option.map_eq_some_iff.mp hcredentials
  have hread := World.requests_read_back { settings := {} } script (fun _ => false) none []
    (.login ⟨"root", "pw", "pam"⟩ false 995 sampleDialog :: ms)
  rw [hw] at hread
  obtain ⟨hfirst, hsecond⟩ := (hread.2 0).2 l hl
  obtain ⟨_, _, _, _, _, _, _, _, _, _, _, hposts⟩ := hsecond 0 1 hrequested
  refine ⟨hrequested, ?_, _, hposts⟩
  rw [hcredentials] at hfirst
  exact hfirst 0 [1] hrequested

end Login

end SecondFactor
