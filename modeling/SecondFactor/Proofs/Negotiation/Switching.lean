import SecondFactor.Proofs.Negotiation.Attempts
import SecondFactor.Proofs.Negotiation.Closing

/-! # Turning away from the security key

When another method becomes the active one, the request to the security key is cancelled. What the
request does with that is its own affair: an assertion that it gives all the same is a proof like
any other, although nobody asks for it any more. -/

namespace SecondFactor.Negotiation

variable {τ ν : Type} (script : Nat → Http.Outcome)

namespace Scene

/-- Whether move `k` of a run makes another method than the security key the active one. -/
def TurnsAway (s : Scene τ ν) (ms : List (Move τ ν)) (k : Nat) : Prop :=
  (s.after script ms k).active = .webauthn ∧ (s.after script ms (k + 1)).active ≠ .webauthn

/-- Whether move `k` of a run asks the security key again. -/
def Reconfirms (s : Scene τ ν) (ms : List (Move τ ν)) (k : Nat) : Prop :=
  ∃ caller r, ms[k]? = some (.confirm caller) ∧ (s.after script ms k).active = .webauthn ∧
    (s.after script ms k).confirm caller = .ok r

/-- Whether a proof is accepted by move `k` of a run. -/
def Accepts (s : Scene τ ν) (ms : List (Move τ ν)) (k : Nat) (p : Proof) : Prop :=
  (s.after script ms k).submission = none ∧
    ∃ sub, (s.after script ms (k + 1)).submission = some sub ∧ sub.proof = p

/-- An attempt that gets a reply is under way. -/
theorem live_of_reply {s : Scene τ ν} {i : Nat} {r : Key.Reply} (h : s.reply? i = some r) :
    ∃ a, s.attempts[i]? = some a ∧ a.task.isOver = false := by
  obtain ⟨a, ha, hr⟩ := Option.bind_eq_some_iff.mp h
  refine ⟨a, ha, Task.isOver_of_start ?_⟩
  intro hidle
  simp [hidle] at hr

/-- The security key is confirmed only when no attempt is under way. -/
theorem idle_of_confirm {s : Scene τ ν} {caller : τ} {r : Bool × Scene τ ν}
    (h : s.confirm caller = .ok r) (hkey : s.active = .webauthn) : s.pending = false := by
  obtain ⟨waits, s'⟩ := r
  obtain ⟨-, ⟨-, hidle, -⟩ | ⟨htext, -⟩⟩ := confirm_cases h
  · exact hidle
  · rw [hkey] at htext
    cases htext

/-- As long as an attempt is under way the security key is not asked again. -/
theorem not_reconfirms {h : List Happening} {s : Scene τ ν} {ms : List (Move τ ν)} {l k i : Nat}
    (hd : Decided h (s.after script ms l).toNegotiation) (hlk : l ≤ k)
    (hi : i < (s.after script ms l).begun) {a' : Attempt τ}
    (ha' : (s.after script ms k).attempts[i]? = some a') (hlive' : a'.task.isOver = false) :
    ¬ s.Reconfirms script ms l := by
  rintro ⟨caller, r, -, hkey, hr⟩
  obtain ⟨ns, hns⟩ := s.exists_moves_after script ms hlk
  rw [hns] at ha'
  obtain ⟨a, ha, hlive⟩ := live_moves script hi ns ha' hlive'
  have hpending : (s.after script ms l).pending = true := by
    simp [pending, currentAttempt?, hd.single i a ha hlive, ha, hlive]
  rw [idle_of_confirm hr hkey] at hpending
  cases hpending

theorem reply_of_shows {s : Scene τ ν} {m : Move τ ν} {r : Key.Reply}
    (h : s.shows script m = [.replied r]) : ∃ i, m = .turn (.attempt i) ∧ s.reply? i = some r := by
  cases m with
  | turn t =>
    cases t with
    | attempt i =>
      refine ⟨i, rfl, ?_⟩
      cases hr : s.reply? i with
      | none => simp [shows, hr] at h
      | some r' => simpa [shows, hr] using h
    | attemptEnded i | submissionEnded =>
      simp only [shows, noticing] at h
      split at h <;> simp at h
    | submission =>
      simp only [shows, submitting] at h
      split at h
      · cases h
      · split at h <;> simp at h
    | attemptNotified _ | caller _ => cases h
  | act a =>
    cases a with
    | input value =>
      simp only [shows] at h
      split at h <;> simp at h
    | start | select _ | close => simp [shows] at h
  | respond =>
    simp only [shows] at h
    cases hn : s.heldNumber? <;> simp [hn] at h
  | confirm _ | awaitClosed _ | awaitOutcome _ | reply _ _ | aside _ _ _ => cases h

end Scene

/-- An assertion is a proof while one is wanted. -/
theorem Change.accepts_assertion {n n' : Negotiation τ} {assertion : Key.Assertion}
    (hc : Change n [.replied (.assertion assertion)] n') (hopen : n.stage.isOpen = true) :
    ∃ sub, n'.submission = some sub ∧ sub.proof.method = .webauthn := by
  cases hc with
  | asserts i =>
    obtain ⟨m, -, -, -, heq⟩ := Keeps.accept n (assertion.proof n.keyText) (.attemptNotified i)
    rw [heq]
    exact ⟨_, rfl, rfl⟩
  | assertsLate _ _ _ _ _ hlate =>
    rw [hopen] at hlate
    cases hlate

/-- The security key is preferred to all other methods. -/
theorem active_of_ofChallenge {userid ticket : String} {c : Challenge} {n : Negotiation τ}
    (hn : ofChallenge userid ticket c = .ok n) (hkey : n.available.contains .webauthn = true) :
    n.active = .webauthn := by
  obtain ⟨active, options, hhead, rfl⟩ := ofChallenge_ok hn
  have hoffers : c.offers .webauthn = true := mem_available.mp (by simpa using hkey)
  simp only [Challenge.available, Method.all, List.filter_cons_of_pos hoffers, List.head?_cons,
    Option.some.injEq] at hhead
  exact hhead.symm

section

variable {userid ticket : String} {c : Challenge} {n : Negotiation τ} {rest : List (Move τ ν)}

/-- An attempt is begun while the security key is the active method and stays so. -/
theorem active_of_begins (hn : ofChallenge userid ticket c = .ok n) (o : Outside)
    (hstart : .act .start ∉ rest) {l : Nat} {m : Move τ ν}
    (hm : (.act .start :: rest)[l]? = some m) :
    let s : Scene τ ν := { toOutside := o, toNegotiation := n }
    let ms : List (Move τ ν) := .act .start :: rest
    (s.after script ms l).begun < ((s.after script ms l).move script m).begun →
      (s.after script ms l).active = .webauthn ∧ (s.after script ms (l + 1)).active = .webauthn ∧
        (0 < l → s.Reconfirms script ms l) := by
  intro s ms hgrows
  have hkeeps {whenEnded : List (Turn τ)}
      (h : ((s.after script ms l).move script m).toNegotiation =
        (s.after script ms l).begin whenEnded) (hkey : (s.after script ms l).active = .webauthn) :
      (s.after script ms (l + 1)).active = .webauthn := by
    rw [Scene.after_succ script hm, h]
    exact hkey
  obtain hsame | ⟨rfl, hkey, hbegin⟩ | ⟨caller, r, rfl, hr, hkey, -, hbegin⟩ :=
    (s.after script ms l).begun_move script m
  · exact absurd hsame (Nat.ne_of_gt hgrows)
  · cases l with
    | zero =>
      have hactive : (s.after script ms 0).active = .webauthn := active_of_ofChallenge hn hkey
      exact ⟨hactive, hkeeps hbegin hactive, fun h => absurd h (Nat.lt_irrefl 0)⟩
    | succ l => exact absurd (List.mem_of_getElem? (l := rest) hm) hstart
  · exact ⟨hkey, hkeeps hbegin hkey, fun _ => ⟨caller, r, hm, hkey, hr⟩⟩

/-- If an attempt was begun after the user last turned away from the security key, then this is the
active method, and was asked again. -/
theorem asked_again (hn : ofChallenge userid ticket c = .ok n) (o : Outside)
    (hstart : .act .start ∉ rest) {k i : Nat} :
    let s : Scene τ ν := { toOutside := o, toNegotiation := n }
    let ms : List (Move τ ν) := .act .start :: rest
    i < (s.after script ms k).begun →
      (∀ j < k, s.TurnsAway script ms j → (s.after script ms j).begun ≤ i) →
      (s.after script ms k).active = .webauthn ∧
        ∀ j < k, s.TurnsAway script ms j → ∃ l, j < l ∧ l < k ∧ s.Reconfirms script ms l := by
  intro s ms hi hsince
  -- where the attempt was begun, the security key was the active method before and behind
  have hbegins {j : Nat} (hjk : j ≤ k) (hj : (s.after script ms j).begun ≤ i) :
      ∃ l, j ≤ l ∧ l < k ∧ i < (s.after script ms (l + 1)).begun ∧
        (s.after script ms l).active = .webauthn ∧ (s.after script ms (l + 1)).active = .webauthn ∧
          (0 < l → s.Reconfirms script ms l) := by
    obtain ⟨l, m, hjl, hlk, hm, hl, hgrows⟩ := Scene.exists_move_after script
      (P := fun s' => s'.begun ≤ i) hjk hj (Nat.not_le_of_lt hi)
    have hgrows : i < ((s.after script ms l).move script m).begun := Nat.lt_of_not_le hgrows
    refine ⟨l, hjl, hlk, ?_, active_of_begins script hn o hstart hm (Nat.lt_of_le_of_lt hl hgrows)⟩
    rw [Scene.after_succ script hm]
    exact hgrows
  constructor
  · have hnew : (s.after script ms 0).begun ≤ i := by
      obtain ⟨active, options, -, rfl⟩ := ofChallenge_ok hn
      exact Nat.zero_le i
    obtain ⟨l, -, hlk, hil, -, hkey, -⟩ := hbegins (Nat.zero_le k) hnew
    by_contra hother
    obtain ⟨j, m, hlj, hjk, hm, hkeyed, haway⟩ := Scene.exists_move_after script
      (P := fun s' => s'.active = .webauthn) hlk hkey hother
    rw [← Scene.after_succ script hm] at haway
    have hij := hsince j hjk ⟨hkeyed, haway⟩
    have hmore : (s.after script ms (l + 1)).begun ≤ (s.after script ms j).begun :=
      s.begun_le_after script ms hlj
    omega
  · intro j hjk haway
    obtain ⟨l, hjl, hlk, -, -, hkey, hagain⟩ := hbegins (Nat.le_of_lt hjk) (hsince j hjk haway)
    have hne : j ≠ l := by
      rintro rfl
      exact haway.2 hkey
    have hlt : j < l := by omega
    exact ⟨l, hlt, hlk, hagain (Nat.zero_lt_of_lt hlt)⟩

/-- In a run that starts once, a proof is by the method that is active when it is accepted, and no
security key gives one after the user turned away from it, unless it was asked again. This holds
exactly if no attempt that was begun before the user turned away asserts anything while a proof is
still wanted. -/
theorem proof_is_by_active_iff (hn : ofChallenge userid ticket c = .ok n) (o : Outside)
    (hstart : .act .start ∉ rest) :
    let s : Scene τ ν := { toOutside := o, toNegotiation := n }
    let ms : List (Move τ ν) := .act .start :: rest
    (∀ k p, s.Accepts script ms k p →
        p.method = (s.after script ms k).active ∧
        (p.method = .webauthn → ∀ j < k, s.TurnsAway script ms j →
          ∃ l, j < l ∧ l < k ∧ s.Reconfirms script ms l)) ↔
      ∀ j k i assertion, j < k → s.TurnsAway script ms j → i < (s.after script ms j).begun →
        ms[k]? = some (.turn (.attempt i)) → (s.after script ms k).stage.isOpen = true →
        (s.after script ms k).reply? i ≠ some (.assertion assertion) := by
  intro s ms
  have hpoint (k : Nat) := decided_moves script hn o hstart (ms.take k) (List.take_prefix k ms)
  constructor
  · intro hclaim j k i assertion hjk haway hi hk hopen hreply
    have hc := (s.after script ms k).change_move script (.turn (.attempt i))
    simp only [Scene.shows, hreply, Option.toList_some, List.map_cons, List.map_nil] at hc
    obtain ⟨sub, hsub, hp⟩ := hc.accepts_assertion hopen
    rw [← Scene.after_succ script hk] at hsub
    have hnone : (s.after script ms k).submission = none := (hpoint k).1.unsubmitted hopen
    obtain ⟨l, hjl, hlk, hagain⟩ := (hclaim k sub.proof ⟨hnone, sub, hsub, rfl⟩).2 hp j hjk haway
    obtain ⟨a, ha, hlive⟩ := Scene.live_of_reply hreply
    have hil := Nat.lt_of_lt_of_le hi (s.begun_le_after script ms (Nat.le_of_lt hjl))
    exact Scene.not_reconfirms script (hpoint l).2 (Nat.le_of_lt hlk) hil ha hlive hagain
  · rintro hquiet k p ⟨hnone, sub, hsub, rfl⟩
    cases hk : ms[k]? with
    | none =>
      rw [Scene.after_succ_of_none script hk, hnone] at hsub
      cases hsub
    | some m =>
      rw [Scene.after_succ script hk] at hsub
      have hc := (s.after script ms k).change_move script m
      obtain ⟨hopen, ⟨htext, hp⟩ | ⟨assertion, hshows, hp⟩⟩ := hc.accepted hnone hsub
      · refine ⟨congrArg (·.method) hp, fun hkey => ?_⟩
        have hkey : (s.after script ms k).active = .webauthn :=
          (congrArg (·.method) hp).symm.trans hkey
        rw [hkey] at htext
        cases htext
      · obtain ⟨i, rfl, hreply⟩ := Scene.reply_of_shows script hshows
        obtain ⟨a, ha, -⟩ := Scene.live_of_reply hreply
        have hi : i < (s.after script ms k).begun := (List.getElem?_eq_some_iff.mp ha).1
        have hsince (j : Nat) (hjk : j < k) (haway : s.TurnsAway script ms j) :
            (s.after script ms j).begun ≤ i := by
          by_contra hij
          exact hquiet j k i assertion hjk haway (Nat.lt_of_not_le hij) hk hopen hreply
        obtain ⟨hkey, hagain⟩ := asked_again script hn o hstart hi hsince
        have hmethod : sub.proof.method = .webauthn := congrArg (·.method) hp
        exact ⟨hmethod.trans hkey.symm, fun _ => hagain⟩

end

/-- A security key that gives up a request that is cancelled, and answers the next one. -/
def patientOutside : Outside where
  client := { settings := {} }
  backend := fun _ => none
  adapter := some fun number => if number = 0 then .waits .stops .stops else .ends (.assertion [])

/-- A user who turns from the security key to a time code and back, and confirms. -/
def returningMoves : List (Move Unit Unit) :=
  [.turn (.attempt 0), .act (.select .totp), .turn (.attempt 0), .act (.select .webauthn),
    .confirm (), .turn (.attempt 1)]

theorem proof_is_by_active_returning :
    let s : Scene Unit Unit := { toOutside := patientOutside, toNegotiation := sample }
    let ms : List (Move Unit Unit) := .act .start :: returningMoves
    ofChallenge "root@pam" "PBS:!tfa!" sampleChallenge = .ok sample ∧
      Move.act .start ∉ returningMoves ∧
      ∀ k p, s.Accepts sampleScript ms k p →
        p.method = (s.after sampleScript ms k).active ∧
        (p.method = .webauthn → ∀ j < k, s.TurnsAway sampleScript ms j →
          ∃ l, j < l ∧ l < k ∧ s.Reconfirms sampleScript ms l) := by
  have hstart : Move.act .start ∉ returningMoves := by simp [returningMoves]
  refine ⟨ofChallenge_sample, hstart,
    (proof_is_by_active_iff sampleScript ofChallenge_sample patientOutside hstart).mpr ?_⟩
  intro j k i assertion hjk haway hi hk hopen
  -- three of the moves are turns of an attempt
  rcases k with _ | _ | _ | _ | _ | _ | _ | k <;> cases hk
  · obtain rfl : j = 0 := by omega
    exact absurd rfl haway.2
  · -- the first attempt is told that it is cancelled
    intro hreply
    cases hreply
  · -- the second one was begun after the user came back
    have hfew := Scene.begun_le_after sampleScript
      ({ toOutside := patientOutside, toNegotiation := sample } : Scene Unit Unit)
      (.act .start :: returningMoves) (Nat.le_of_lt_succ hjk)
    exact absurd (Nat.lt_of_lt_of_le hi hfew) (by decide)

/-- A security key whose request was cancelled for a time code, and which asserts all the same,
makes the proof. -/
theorem cancelled_key_proves :
    let s : Scene Unit Unit := { toOutside := eagerOutside, toNegotiation := sample }
    let ms : List (Move Unit Unit) :=
      [.act .start, .turn (.attempt 0), .act (.select .totp), .turn (.attempt 0)]
    s.TurnsAway sampleScript ms 2 ∧ (s.after sampleScript ms 3).active = .totp ∧
      ∃ p, s.Accepts sampleScript ms 3 p ∧ p.method = .webauthn := by
  refine ⟨⟨rfl, by decide⟩, rfl, _, ⟨rfl, _, rfl, rfl⟩, rfl⟩

end SecondFactor.Negotiation
