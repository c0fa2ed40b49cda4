import SecondFactor.Proofs.Http.Redirect
import SecondFactor.Proofs.Ticket.Reading

/-! # Tickets in responses

A call for a ticket brings one exactly when the response tells of success and its body says what a
ticket says. In all other cases the call is refused, unless the response leads to a place that no
request can be made to: what is wrong with the place then shows as it is. -/

namespace SecondFactor

/-- Whether a failure is that of a refused request. -/
def Failure.IsRefusal (f : Failure) : Prop :=
  ∃ e, f.loginError? = some e ∧ e.kind = .authFailed

namespace Http

open Client

/-! ## Responses -/

namespace Response

/-- Whether whoever reads a response can follow the nesting of the JSON in its body, if there is
any. -/
def IsShallow (r : Response) : Prop :=
  ∀ text, Encoding.decodeDocument r.body = some text → Json.read r.levels text ≠ .error .tooDeep

/-- Whether a response hands over a ticket. -/
structure Carries (r : Response) (t : Ticket) : Prop where
  success : 200 ≤ r.status ∧ r.status < 300
  body : ∃ (text : Text) (answer data : Members), Encoding.decodeDocument r.body = some text ∧
    Json.read r.levels text = .ok (.object answer) ∧ answer.find? "data" = some (.object data) ∧
      Ticket.Says data t

/-- Whether whatever is wrong with the place that a response leads to, if it leads anywhere, is a
fault of the peer. -/
def LeadsWell (c : Client) (asked : Url) (r : Response) : Prop :=
  ∀ f, Redirect.check c.cookies asked r = .error f →
    ∃ message, f = .transport .remoteProtocol message

theorem isSuccess_iff {r : Response} : r.isSuccess = true ↔ 200 ≤ r.status ∧ r.status < 300 := by
  simp [isSuccess]

/-- A response of success leads nowhere else. -/
theorem check_of_success {r : Response} (hsuccess : r.isSuccess = true) (jar : Cookie.Jar)
    (asked : Url) : Redirect.check jar asked r = .ok () := by
  have hother : Redirect.statuses.contains r.status = false := by
    obtain ⟨hlow, hhigh⟩ := isSuccess_iff.mp hsuccess
    rw [List.contains_eq_mem, decide_eq_false_iff_not]
    intro hmem
    simp only [Redirect.statuses, List.mem_cons, List.not_mem_nil, or_false] at hmem
    omega
  have hnowhere : Redirect.location? r = none := by
    unfold Redirect.location?
    rw [hother]
  unfold Redirect.check
  rw [hnowhere]

/-- Opening a response changes nothing but its body. -/
theorem opened_status {r opened : Response} (h : r.opened = .ok opened) :
    opened.status = r.status := by
  unfold Response.opened at h
  split at h
  · cases h
    rfl
  · split at h <;> cases h
    rfl

/-- A response that cannot be opened has a body that does not decompress. -/
theorem opened_error {r : Response} {f : Foreign} (h : r.opened = .error f) :
    ∃ message, f = .transport .decoding message := by
  unfold Response.opened at h
  split at h
  · cases h
  · split at h <;> cases h
    exact ⟨_, rfl⟩

end Response

/-! ## Answers -/

namespace Client

theorem isRefusal_unreadable {status : Int} {e : Json.ReadError} (he : e ≠ .tooDeep) :
    (unreadable status e).IsRefusal := by
  cases e with
  | malformed | integerTooLong => exact ⟨_, rfl, rfl⟩
  | tooDeep => exact absurd rfl he

theorem answer_eq_ok {r : Response} {ms : Members} :
    answer r = .ok ms ↔ (200 ≤ r.status ∧ r.status < 300) ∧ ∃ text,
      Encoding.decodeDocument r.body = some text ∧ Json.read r.levels text = .ok (.object ms) := by
  rw [← Response.isSuccess_iff]
  unfold answer
  cases r.isSuccess with
  | false => simp
  | true =>
    cases Encoding.decodeDocument r.body with
    | none => simp
    | some text =>
      simp only [Bool.not_true, Bool.false_eq_true, if_false, true_and, Option.some.injEq,
        exists_eq_left']
      generalize Json.read r.levels text = read
      cases read with
      | error e => simp
      | ok v => cases v <;> simp

/-- A response without an object in its body is a refusal. -/
theorem isRefusal_of_answer {r : Response} (hshallow : r.IsShallow) {f : Failure}
    (h : answer r = .error f) : f.IsRefusal := by
  unfold answer at h
  split at h
  · cases h
    exact ⟨_, rfl, rfl⟩
  · split at h
    · cases h
      exact ⟨_, rfl, rfl⟩
    · rename_i text htext
      split at h
      · rename_i e he
        cases h
        refine isRefusal_unreadable ?_
        rintro rfl
        exact hshallow text htext he
      · cases h
      · cases h
        exact ⟨_, rfl, rfl⟩

theorem ticket_eq_ok {ms : Members} {t : Ticket} :
    ticket ms = .ok t ↔ ∃ data, ms.find? "data" = some (.object data) ∧ Ticket.Says data t := by
  rw [← Ticket.ofAnswer_eq_ok]
  unfold ticket
  cases Ticket.ofAnswer (.object ms) <;> simp

theorem isRefusal_of_ticket {ms : Members} {f : Failure} (h : ticket ms = .error f) :
    f.IsRefusal := by
  unfold ticket at h
  split at h
  · cases h
  · cases h
    exact ⟨_, rfl, rfl⟩

/-- A failure of the transport is a refusal if it is neither one of the network nor a timeout. -/
theorem isRefusal_failureOf {e : TransportError} {message : String}
    (he : e = .decoding ∨ e = .remoteProtocol) :
    (failureOf (.transport e message)).IsRefusal := by
  rcases he with rfl | rfl <;> exact ⟨_, rfl, rfl⟩

theorem not_isRefusal_failureOf {f : Foreign} (hf : f.IsPeers)
    (hother : ∀ message, f ≠ .transport .remoteProtocol message) : ¬ (failureOf f).IsRefusal := by
  cases f with
  | transport e message =>
    obtain rfl := hf e message rfl
    exact absurd rfl (hother message)
  | _ =>
    rintro ⟨e, he, -⟩
    cases he

/-! ## Calls for a ticket -/

variable {c : Client} {r : Request} {response opened : Response}

theorem ticketResult_of_lost {f : Foreign}
    (h : Redirect.check c.cookies r.url response = .error f) :
    c.ticketResult r (.ok response) = .error (failureOf f) := by
  simp [ticketResult, result, h, bind, Except.bind, Except.mapError]

theorem ticketResult_of_unopened {f : Foreign}
    (hcheck : Redirect.check c.cookies r.url response = .ok ()) (h : response.opened = .error f) :
    c.ticketResult r (.ok response) = .error (failureOf f) := by
  simp [ticketResult, result, hcheck, h, bind, Except.bind, Except.mapError]

theorem ticketResult_of_opened (hcheck : Redirect.check c.cookies r.url response = .ok ())
    (h : response.opened = .ok opened) :
    c.ticketResult r (.ok response) = answer opened >>= ticket := by
  simp only [ticketResult, result, hcheck, h, bind, Except.bind, Except.mapError]

theorem answer_bind_ticket_eq_ok {t : Ticket} :
    answer opened >>= ticket = .ok t ↔ opened.Carries t := by
  constructor
  · intro h
    cases hanswer : answer opened with
    | error f => simp [hanswer, bind, Except.bind] at h
    | ok ms =>
      obtain ⟨hsuccess, text, htext, hread⟩ := answer_eq_ok.mp hanswer
      rw [hanswer] at h
      obtain ⟨data, hdata, htold⟩ := ticket_eq_ok.mp h
      exact ⟨hsuccess, text, ms, data, htext, hread, hdata, htold⟩
  · rintro ⟨hsuccess, text, ms, data, htext, hread, hdata, htold⟩
    rw [answer_eq_ok.mpr ⟨hsuccess, text, htext, hread⟩]
    exact ticket_eq_ok.mpr ⟨data, hdata, htold⟩

theorem isRefusal_of_answer_bind_ticket (hshallow : opened.IsShallow) {f : Failure}
    (h : answer opened >>= ticket = .error f) : f.IsRefusal := by
  cases hanswer : answer opened with
  | error f' =>
    rw [hanswer] at h
    cases h
    exact isRefusal_of_answer hshallow hanswer
  | ok ms =>
    rw [hanswer] at h
    exact isRefusal_of_ticket h

/-- A call brings the ticket that the response carries. -/
theorem ticketResult_eq_ok {t : Ticket} :
    c.ticketResult r (.ok response) = .ok t ↔
      ∃ opened, response.opened = .ok opened ∧ opened.Carries t := by
  -- without success there is no ticket, wherever the response leads
  have hleads (opened : Response) (hopened : response.opened = .ok opened)
      (hcarries : opened.Carries t) : Redirect.check c.cookies r.url response = .ok () := by
    refine Response.check_of_success (Response.isSuccess_iff.mpr ?_) _ _
    rw [← Response.opened_status hopened]
    exact hcarries.success
  cases hcheck : Redirect.check c.cookies r.url response with
  | error f =>
    rw [ticketResult_of_lost hcheck]
    refine iff_of_false nofun fun ⟨opened, hopened, hcarries⟩ => ?_
    rw [hleads opened hopened hcarries] at hcheck
    cases hcheck
  | ok u =>
    cases hopened : response.opened with
    | error f => simp [ticketResult_of_unopened hcheck hopened]
    | ok opened =>
      rw [ticketResult_of_opened hcheck hopened]
      simp only [Except.ok.injEq, exists_eq_left', answer_bind_ticket_eq_ok]

/-- A call that brings no ticket is refused, if the response leads nowhere bad. -/
theorem isRefusal_of_ticketResult
    (hshallow : ∀ opened, response.opened = .ok opened → opened.IsShallow)
    (hleads : response.LeadsWell c r.url) {f : Failure}
    (h : c.ticketResult r (.ok response) = .error f) : f.IsRefusal := by
  cases hcheck : Redirect.check c.cookies r.url response with
  | error f' =>
    rw [ticketResult_of_lost hcheck] at h
    cases h
    obtain ⟨message, rfl⟩ := hleads f' hcheck
    exact isRefusal_failureOf (.inr rfl)
  | ok u =>
    cases hopened : response.opened with
    | error f' =>
      rw [ticketResult_of_unopened hcheck hopened] at h
      cases h
      obtain ⟨message, rfl⟩ := Response.opened_error hopened
      exact isRefusal_failureOf (.inl rfl)
    | ok opened =>
      rw [ticketResult_of_opened hcheck hopened] at h
      exact isRefusal_of_answer_bind_ticket (hshallow opened hopened) h

/-- A response that leads to a bad place is no refusal. -/
theorem leadsWell_of_isRefusal
    (h : ∀ f, c.ticketResult r (.ok response) = .error f → f.IsRefusal) :
    response.LeadsWell c r.url := by
  intro f hcheck
  by_contra hother
  exact not_isRefusal_failureOf (Redirect.blamesPeer_check c.cookies r.url response f hcheck)
    (fun message hmessage => hother ⟨message, hmessage⟩) (h _ (ticketResult_of_lost hcheck))

/-- For every response, whatever its headers and its body are, a call for a ticket brings the ticket
that the response carries and no other, and brings none if it carries none. In that case the call is
refused exactly when the response leads nowhere bad. -/
theorem ticket_iff_carried (c : Client) (r : Request) (response : Response)
    (hshallow : ∀ opened, response.opened = .ok opened → opened.IsShallow) :
    (∀ t, c.ticketResult r (.ok response) = .ok t ↔
        ∃ opened, response.opened = .ok opened ∧ opened.Carries t) ∧
      ((∀ f, c.ticketResult r (.ok response) = .error f → f.IsRefusal) ↔
        response.LeadsWell c r.url) :=
  ⟨fun _ => ticketResult_eq_ok, leadsWell_of_isRefusal,
    fun hleads _ => isRefusal_of_ticketResult hshallow hleads⟩

end Client

/-- A client that has just been created. -/
def sampleClient : Client := { settings := {} }

/-- The request with which it submits credentials. -/
def sampleRequest : Request where
  method := "POST"
  url := {
    scheme := "https", userinfo := "", host := "localhost", portNumber := some 8007,
    path := "/api2/json/access/ticket", query := none, fragment := none }
  contentType := some "application/x-www-form-urlencoded"
  userAgent := sampleClient.settings.userAgent
  cookie := none
  timeout := sampleClient.settings.timeout
  body := "username=root%40pam&password=pw"

example : (sampleClient.request (sampleClient.primaryCall ⟨"root", "pw", "pam"⟩)).toOption =
    some sampleRequest := by
  decide +kernel

/-- A response with a ticket, and one more member beside it. -/
def sampleAnswer : Response :=
  let text := "\x7b\"data\":\x7b\"ticket\":\"PBS:x\",\"username\":\"u\",\"cap\":[1]\x7d\x7d"
  { status := 200, headers := [], body := Utf8.encode text.toList, levels := 995 }

theorem opened_sampleAnswer : sampleAnswer.opened = .ok sampleAnswer := by decide +kernel

theorem isShallow_sampleAnswer : sampleAnswer.IsShallow := by
  have hread : ((Encoding.decodeDocument sampleAnswer.body).all fun text =>
      (Json.read sampleAnswer.levels text).toOption.isSome) = true := by decide +kernel
  intro text htext hdeep
  rw [htext, Option.all_some, hdeep] at hread
  cases hread

theorem ticketResult_sampleAnswer :
    ((sampleClient.ticketResult sampleRequest (.ok sampleAnswer)).toOption.map fun t =>
      (t.ticket, t.username, t.csrfToken, t.extra.map Prod.fst)) =
        some ("PBS:x", "u", (none : Option Text), [Text.ofString "cap"]) := by
  decide +kernel

theorem ticket_iff_carried_sample :
    sampleAnswer.IsShallow ∧
      (∃ (opened : Response) (t : Ticket), opened.Carries t ∧ t.ticket = "PBS:x" ∧
        t.extra.map Prod.fst = ["cap"]) ∧
        sampleAnswer.LeadsWell sampleClient sampleRequest.url := by
  have hshallow (opened : Response) (h : sampleAnswer.opened = .ok opened) : opened.IsShallow := by
    rw [opened_sampleAnswer] at h
    cases h
    exact isShallow_sampleAnswer
  obtain ⟨hok, hrefusal⟩ :=
    Client.ticket_iff_carried sampleClient sampleRequest sampleAnswer hshallow
  obtain ⟨t, hresult, ht⟩ := Option.map_eq_some_iff.mp ticketResult_sampleAnswer
  have hresult : sampleClient.ticketResult sampleRequest (.ok sampleAnswer) = .ok t := by
    cases h : sampleClient.ticketResult sampleRequest (.ok sampleAnswer) with
    | error f => simp [h, Except.toOption] at hresult
    | ok t' => simpa [h, Except.toOption] using hresult
  simp only [Prod.mk.injEq] at ht
  obtain ⟨opened, -, hcarries⟩ := (hok t).mp hresult
  refine ⟨isShallow_sampleAnswer, ⟨opened, t, hcarries, ht.1, ht.2.2.2⟩, ?_⟩
  refine hrefusal.mp fun f hf => ?_
  rw [hresult] at hf
  cases hf

/-- A response that leads to a place without a host. -/
def sampleDetour : Response where
  status := 302
  headers := [("Location", "https:login")]
  body := []
  levels := 995

/-- Such a response brings no ticket, and yet the call is not refused: the bad place shows. -/
theorem not_refused_detour :
    sampleDetour.IsShallow ∧ sampleDetour.opened = .ok sampleDetour ∧
      (∀ t, ¬ sampleDetour.Carries t) ∧
        ∃ f, sampleClient.ticketResult sampleRequest (.ok sampleDetour) = .error f ∧
          ¬ f.IsRefusal := by
  refine ⟨?_, rfl, ?_, .foreign (.invalidUrl
    "For absolute URLs, path must be empty or begin with '/'"), ?_, ?_⟩
  · intro text htext
    have hempty : Encoding.decodeDocument sampleDetour.body = some [] := by rfl
    rw [hempty] at htext
    cases htext
    exact nofun
  · rintro t ⟨⟨-, hhigh⟩, -⟩
    exact absurd hhigh (by decide)
  · rfl
  · rintro ⟨e, he, -⟩
    cases he

end Http

end SecondFactor
