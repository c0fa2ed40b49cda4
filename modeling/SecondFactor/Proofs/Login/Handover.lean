import SecondFactor.Proofs.Login.Turns
import SecondFactor.Text.Utf8

/-! # The ticket that a login hands on

Whatever happens in a world, what a login has handed on agrees with how it ended, and with the
responses to its own requests. -/

namespace SecondFactor.Login

open Negotiation (Room)

variable {ν : Type} {script : Nat → Http.Outcome}

/-- A login that was not begun yet. -/
theorem honest_new (sent : List Http.Request) {l : Login ν} (htask : l.task.phase = .ready)
    (hn : l.negotiation = none) : Honest script sent [] l := by
  have hending : l.task.ending? = none := by
    unfold Task.ending?
    rw [htask]
  constructor
  · exact fun _ => ⟨rfl, hn⟩
  · intro number r h
    rw [htask] at h
    cases h
  · intro r o h
    rw [htask] at h
    cases h
  · exact fun _ => .inl rfl
  · intro n h
    rw [hn] at h
    cases h
  · rw [hending]
    rfl
  · intro t h
    rw [hending] at h
    cases h

namespace World

/-- What holds of a world between two moves. -/
structure Truthful (script : Nat → Http.Outcome) (w : World ν) : Prop where
  follows : ∀ number o, w.backend number = some o → o = script number
  honest : ∀ i l, w.logins[i]? = some l → Honest script w.sent (w.eventsOf i) l
  bounded : ∀ e ∈ w.log, e.1 < w.logins.length

theorem truthful_opening (client : Http.Client) (held : Nat → Bool)
    (adapter : Option Key.Adapter) (store : Store) :
    (opening client script held adapter store : World ν).Truthful script where
  follows := by
    intro number o h
    simp only [opening] at h
    split at h
    · cases h
    · exact (Option.some.inj h).symm
  honest := by
    intro i l h
    cases h
  bounded := by
    intro e h
    cases h

/-- What is marked for one login belongs to no other. -/
theorem ofLogin_map {α : Type} (xs : List α) (i j : Nat) :
    ((xs.map (i, ·)).filter (·.1 == j)).map Prod.snd = if i = j then xs else [] := by
  by_cases h : i = j <;> simp [h, List.filter_map, Function.comp_def]

theorem eventsOf_settleIn (w : World ν) (i j : Nat) (c : Course ν) :
    (w.settleIn i c).eventsOf j = w.eventsOf j ++ if i = j then c.log else [] := by
  simp only [eventsOf, settleIn, List.filter_append, List.map_append, ofLogin_map]

theorem Truthful.eventsOf_eq_nil {w : World ν} (hw : w.Truthful script) {i : Nat}
    (hi : w.logins.length ≤ i) : w.eventsOf i = [] := by
  rw [eventsOf, List.filter_eq_nil_iff.mpr, List.map_nil]
  intro e he
  simpa using Nat.ne_of_lt (Nat.lt_of_lt_of_le (hw.bounded e he) hi)

/-- What is done in the course of a login concerns the others only in that more was sent. -/
theorem Truthful.inCourse {w : World ν} (hw : w.Truthful script) {i : Nat}
    {f : Course ν → Course ν}
    (hf : ∀ c, w.course? i = some c → c.Resting script w.sent (w.eventsOf i) →
      (f c).Resting script w.sent (w.eventsOf i)) : (w.inCourse i f).Truthful script := by
  unfold World.inCourse
  cases hcourse : w.course? i with
  | none => exact hw
  | some c =>
    dsimp only
    obtain ⟨l, hl, rfl⟩ := Option.map_eq_some_iff.mp hcourse
    have hlt : i < w.logins.length := (List.getElem?_eq_some_iff.mp hl).1
    have hbefore := hw.honest i l hl
    rw [← List.append_nil (w.eventsOf i)] at hbefore
    have hc := hf _ hcourse ⟨hw.follows, List.prefix_refl _, hbefore⟩
    constructor
    · exact hc.follows
    · intro j l' hl'
      rw [eventsOf_settleIn]
      simp only [settleIn] at hl' ⊢
      by_cases hij : i = j
      · subst hij
        rw [List.getElem?_set_self hlt] at hl'
        cases hl'
        rw [if_pos rfl]
        exact hc.honest
      · -- nothing of the other login has changed, but more may have been sent
        rw [List.getElem?_set_ne hij] at hl'
        rw [if_neg hij, List.append_nil]
        exact (hw.honest j l' hl').mono hc.keeps
    · intro e he
      simp only [settleIn, List.length_set] at he ⊢
      rcases List.mem_append.mp he with hold | hnew
      · exact hw.bounded e hold
      · obtain ⟨_, -, rfl⟩ := List.mem_map.mp hnew
        exact hlt

theorem Truthful.login {w : World ν} (hw : w.Truthful script) (credentials : Credentials)
    (keep : Bool) (levels : Nat) (dialog : Negotiation.Dialog ν) :
    (w.login credentials keep levels dialog).Truthful script where
  follows := hw.follows
  honest := by
    intro i l hl
    rcases Nat.lt_trichotomy i w.logins.length with h | rfl | h
    · exact hw.honest i l ((List.getElem?_append_left h).symm.trans hl)
    · have hnone := hw.eventsOf_eq_nil (Nat.le_refl _)
      cases List.getElem?_concat_length.symm.trans hl
      have hnew : Honest script w.sent [] { credentials, keep, levels, script := dialog : Login ν } :=
        honest_new w.sent rfl rfl
      rwa [← hnone] at hnew
    · have hlt := (List.getElem?_eq_some_iff.mp hl).1
      simp only [World.login, List.length_append, List.length_singleton] at hlt
      omega
  bounded := by
    intro e he
    have hlt := hw.bounded e he
    simp only [World.login, List.length_append, List.length_singleton]
    omega

/-- Every move keeps a world truthful. -/
theorem Truthful.move {w : World ν} (hw : w.Truthful script) (m : Move ν) :
    (w.move script m).Truthful script := by
  cases m with
  | login credentials keep levels dialog => exact hw.login credentials keep levels dialog
  | cancel i => exact hw.inCourse fun c _ hc => Course.resting_step hc (i := i) .cancels
  | tell i => exact hw.inCourse fun c _ hc => Course.resting_inRoom Room.leads_tell hc
  | respond i =>
    simp only [World.move]
    split
    · rename_i number hheld
      refine hw.inCourse fun c hcourse hc => ?_
      have hheld : c.heldNumber? = some number := by simpa [hcourse] using hheld
      exact Course.resting_step hc (Course.step_respond script (i := i) hheld (.respond i))
    · exact hw
  | reply i j next =>
    refine hw.inCourse fun c _ hc => Course.resting_inRoom (fun r => ?_) hc
    exact .move r.toScene (.reply j next)
  | turn i t =>
    exact hw.inCourse fun c _ hc => Course.resting_step hc (Course.step_run script (i := i) t)
  | queue queue => exact ⟨hw.follows, hw.honest, hw.bounded⟩

theorem truthful_of_reached {w : World ν} (hw : w.Reached script) : w.Truthful script := by
  obtain ⟨client, held, adapter, store, ms, rfl⟩ := hw
  exact moves_induction script (fun _ m hw => hw.move m)
    (truthful_opening client held adapter store) ms

end World

/-! ## What a login leads to -/

theorem verdict_length_le (how : Option (Ending Ticket)) :
    (verdict how).1.length ≤ 1 ∧ (verdict how).2 ≤ 1 ∧ ((verdict how).1 = [] ∨ (verdict how).2 = 0) := by
  unfold verdict
  split
  · exact ⟨Nat.le_refl 1, Nat.zero_le 1, .inr rfl⟩
  · refine ⟨Nat.zero_le 1, ?_, .inl rfl⟩
    dsimp only
    split <;> decide
  · exact ⟨Nat.zero_le 1, Nat.zero_le 1, .inl rfl⟩

theorem mem_verdict {how : Option (Ending Ticket)} {t : Ticket} :
    t ∈ (verdict how).1 ↔ how = some (.returned t) := by
  cases how with
  | none => simp [verdict]
  | some how =>
    cases how with
    | returned u =>
      simp only [verdict, List.mem_singleton, Option.some.injEq, Ending.returned.injEq]
      exact eq_comm
    | failed _ | cancelled => simp [verdict]

theorem verdict_clears {how : Option (Ending Ticket)} :
    (verdict how).2 = 1 ↔ ∃ f, how = some (.failed f) ∧ f.loginError?.isSome = true := by
  cases how with
  | none => simp [verdict]
  | some how =>
    cases how with
    | failed f => by_cases hf : f.loginError?.isSome <;> simp [verdict, hf]
    | returned _ | cancelled => simp [verdict]

namespace World

variable {w : World ν}

theorem verdict_of_ending (hw : w.Reached script) (i : Nat) :
    (established (w.eventsOf i), clearings (w.eventsOf i)) = verdict (w.ending? i) := by
  have hw := truthful_of_reached hw
  cases hl : w.logins[i]? with
  | none =>
    have hnone : w.eventsOf i = [] := hw.eventsOf_eq_nil (List.getElem?_eq_none_iff.mp hl)
    simp only [hnone, ending?, hl]
    rfl
  | some l =>
    simp only [ending?, hl]
    exact (hw.honest i l hl).verdict

/-- The ticket that a login hands on was brought by the response to its last request. -/
theorem issued_of_established (hw : w.Reached script) (i : Nat) :
    ∀ t ∈ established (w.eventsOf i), ∃ l, w.logins[i]? = some l ∧
      Issued script w.sent l.credentials (requested (w.eventsOf i)) t := by
  intro t ht
  have hestablished : established (w.eventsOf i) = (verdict (w.ending? i)).1 :=
    congrArg Prod.fst (verdict_of_ending hw i)
  rw [hestablished] at ht
  obtain ⟨l, hl, hending⟩ := Option.bind_eq_some_iff.mp (mem_verdict.mp ht)
  exact ⟨l, hl, (((truthful_of_reached hw).honest i l hl).issued t hending).1⟩

/-- A login hands on one ticket at most, or makes the session unusable once at most, and it never
does both. It hands on the ticket that it returns, which the response to its last request has
brought; and it makes the session unusable if and only if it fails with a login error. -/
theorem session_follows_ending (hw : w.Reached script) (i : Nat) :
    (established (w.eventsOf i)).length ≤ 1 ∧ clearings (w.eventsOf i) ≤ 1 ∧
      (established (w.eventsOf i) = [] ∨ clearings (w.eventsOf i) = 0) ∧
      (∀ t, t ∈ established (w.eventsOf i) ↔ w.ending? i = some (.returned t)) ∧
      (∀ t ∈ established (w.eventsOf i), ∃ l, w.logins[i]? = some l ∧
        Issued script w.sent l.credentials (requested (w.eventsOf i)) t) ∧
      (clearings (w.eventsOf i) = 1 ↔
        ∃ f, w.ending? i = some (.failed f) ∧ f.loginError?.isSome = true) := by
  have hverdict := verdict_of_ending hw i
  have hestablished : established (w.eventsOf i) = (verdict (w.ending? i)).1 :=
    congrArg Prod.fst hverdict
  have hclearings : clearings (w.eventsOf i) = (verdict (w.ending? i)).2 :=
    congrArg Prod.snd hverdict
  obtain ⟨hone, hclear, hnot⟩ := verdict_length_le (w.ending? i)
  refine ⟨hestablished ▸ hone, hclearings ▸ hclear, ?_, fun t => ?_, ?_, ?_⟩
  · rwa [hestablished, hclearings]
  · rw [hestablished]
    exact mem_verdict
  · exact issued_of_established hw i
  · rw [hclearings]
    exact verdict_clears

end World

/-- The ticket with which the backend asks for a time code. -/
def sampleChallenge : String := "PBS:!tfa!%7B%22totp%22%3Atrue%7D"

/-- A response with a ticket. -/
def sampleResponse (ticket : String) : Http.Outcome :=
  let text := "\x7b\"data\":\x7b\"ticket\":\"" ++ ticket ++ "\",\"username\":\"root@pam\"\x7d\x7d"
  .ok { status := 200, headers := [], body := Utf8.encode text.toList, levels := 995 }

/-- A backend that asks for a time code, and has this ticket for the proof. -/
def sampleScript (ticket : String) (number : Nat) : Http.Outcome :=
  if number = 0 then sampleResponse sampleChallenge else sampleResponse ticket

/-- A dialog that puts in a time code. -/
def sampleDialog : Negotiation.Dialog Unit :=
  .acts (.input "123456") fun _ => .confirms fun _ => .ends (.returned ())

/-- The world after the login of that user. -/
def sampleWorld (ticket : String) : World Unit :=
  let opening := World.opening { settings := {} } (sampleScript ticket) (fun _ => false) none []
  World.settle 30 (opening.login ⟨"root", "pw", "pam"⟩ false 995 sampleDialog)

theorem reached_sampleWorld (ticket : String) :
    (sampleWorld ticket).Reached (sampleScript ticket) := by
  obtain ⟨ms, hms⟩ := World.settle_eq_moves (sampleScript ticket) 30
    ((World.opening { settings := {} } (sampleScript ticket) (fun _ => false) none []).login
      ⟨"root", "pw", "pam"⟩ false 995 sampleDialog)
  exact ⟨_, _, _, _, .login ⟨"root", "pw", "pam"⟩ false 995 sampleDialog :: ms, hms⟩

theorem established_sampleWorld :
    (established ((sampleWorld "PBS:root@pam").eventsOf 0)).map (·.ticket) = ["PBS:root@pam"] := by
  decide +kernel

theorem exists_established {es : List (Event ν)} {ticket : String}
    (h : (established es).map (·.ticket) = [ticket]) :
    ∃ t, t ∈ established es ∧ t.ticket = ticket := by
  apply List.mem_map.mp
  rw [h]
  exact List.mem_singleton_self ticket

theorem session_follows_ending_usable :
    (sampleWorld "PBS:root@pam").Reached (sampleScript "PBS:root@pam") ∧
      ∃ t, t ∈ established ((sampleWorld "PBS:root@pam").eventsOf 0) ∧
        (sampleWorld "PBS:root@pam").ending? 0 = some (.returned t) := by
  have hw := reached_sampleWorld "PBS:root@pam"
  obtain ⟨t, ht, -⟩ := exists_established established_sampleWorld
  exact ⟨hw, t, ht, ((World.session_follows_ending hw 0).2.2.2.1 t).mp ht⟩

/-! ## Whether a session can be used with it -/

/-- Whether a login with these requests got a challenge again, in answer to its proof. -/
def Rechallenged (script : Nat → Http.Outcome) (ns : List Nat) : Prop :=
  ∃ first second t, ns = [first, second] ∧ (script second).Brings t ∧
    Ticket.isChallenge t.ticket = true

theorem Issued.usable_iff {sent : List Http.Request} {credentials : Credentials} {ns : List Nat}
    {t : Ticket} (hi : Issued script sent credentials ns t) :
    Ticket.isChallenge t.ticket = false ↔ ¬ Rechallenged script ns := by
  rcases hi with ⟨number, rfl, -, -, hticket⟩ |
    ⟨first, second, challenge, proof, rfl, -, -, -, -, hbrings⟩
  · refine iff_of_true hticket ?_
    rintro ⟨_, _, _, hns, -⟩
    cases hns
  · constructor
    · rintro hticket ⟨_, _, t', hns, hbrings', hchallenge⟩
      cases hns
      rw [hbrings.unique hbrings', hchallenge] at hticket
      cases hticket
    · intro hnot
      by_contra hticket
      exact hnot ⟨first, second, t, rfl, hbrings, by simpa using hticket⟩

/-- A login hands on a ticket with which a session can be used, if and only if it got no challenge
in answer to its proof. Only the first response is tested. -/
theorem World.usable_iff_not_rechallenged {w : World ν} (hw : w.Reached script) (i : Nat)
    {t : Ticket} (ht : t ∈ established (w.eventsOf i)) :
    Ticket.isChallenge t.ticket = false ↔ ¬ Rechallenged script (requested (w.eventsOf i)) := by
  obtain ⟨l, -, hissued⟩ := issued_of_established hw i t ht
  exact hissued.usable_iff

theorem usable_iff_not_rechallenged_root :
    (sampleWorld "PBS:root@pam").Reached (sampleScript "PBS:root@pam") ∧
      ∃ t, t ∈ established ((sampleWorld "PBS:root@pam").eventsOf 0) ∧
        ¬ Rechallenged (sampleScript "PBS:root@pam")
          (requested ((sampleWorld "PBS:root@pam").eventsOf 0)) := by
  have hw := reached_sampleWorld "PBS:root@pam"
  obtain ⟨t, ht, hticket⟩ := exists_established established_sampleWorld
  refine ⟨hw, t, ht, (World.usable_iff_not_rechallenged hw 0 ht).mp ?_⟩
  rw [hticket]
  decide +kernel

/-- A challenge that comes in answer to the proof is handed on as if a session could be used with
it. -/
theorem challenge_established :
    (sampleWorld sampleChallenge).Reached (sampleScript sampleChallenge) ∧
      ∃ t, t ∈ established ((sampleWorld sampleChallenge).eventsOf 0) ∧
        Ticket.isChallenge t.ticket = true := by
  have hevents : (established ((sampleWorld sampleChallenge).eventsOf 0)).map (·.ticket) =
      [sampleChallenge] := by decide +kernel
  obtain ⟨t, ht, hticket⟩ := exists_established hevents
  refine ⟨reached_sampleWorld sampleChallenge, t, ht, ?_⟩
  rw [hticket]
  decide +kernel

end SecondFactor.Login
