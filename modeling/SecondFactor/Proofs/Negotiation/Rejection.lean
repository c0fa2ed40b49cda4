import SecondFactor.Proofs.Negotiation.Outcome

/-! # Why a negotiation is rejected

Nothing but a login error rejects a negotiation, whatever goes wrong in it: a failure that nobody
expects is put behind one. -/

namespace SecondFactor

/-! ## Computations that fail with login errors -/

/-- Whether a computation has a result or fails with a login error. -/
def Explains {α : Type} (x : Except Failure α) : Prop :=
  ∀ f, x = .error f → f.loginError?.isSome = true

namespace Explains

variable {α β : Type}

theorem ok (a : α) : Explains (.ok a : Except Failure α) := by
  intro f hf
  cases hf

theorem error {f : Failure} (hf : f.loginError?.isSome = true) :
    Explains (.error f : Except Failure α) := by
  intro g hg
  cases hg
  exact hf

theorem bind {x : Except Failure α} {g : α → Except Failure β} (hx : Explains x)
    (hg : ∀ a, Explains (g a)) : Explains (x >>= g) := by
  cases x with
  | error f => exact error (hx f rfl)
  | ok a => exact hg a

theorem mapM {g : α → Except Failure β} (hg : ∀ a, Explains (g a)) (as : List α) :
    Explains (as.mapM g) := by
  induction as with
  | nil => exact ok []
  | cons a as ih =>
    rw [List.mapM_cons]
    exact (hg a).bind fun b => ih.bind fun bs => ok (b :: bs)

end Explains

theorem Key.Options.explains_ofChallenge (c : KeyChallenge) : Explains (ofChallenge c) := by
  have hbytes (t : Text) : Explains (bytes t) := by
    unfold bytes
    cases Base64Url.decode t with
    | error e => exact .error rfl
    | ok b => exact .ok b
  exact (hbytes _).bind fun _ => (Explains.mapM (fun _ => hbytes _) _).bind fun _ => .ok _

theorem Key.Refusal.explains (r : Key.Refusal) : r.failure.loginError?.isSome = true := by
  unfold failure
  split <;> rfl

/-- What cannot be read as a challenge, for another reason than a login error, is nested too deep. -/
theorem Challenge.nested_of_ofTicket {levels : Nat} {ticket : String} {f : Failure}
    (h : ofTicket levels ticket = .error f) (hf : f.loginError? = none) : f = .foreign .nestedTooDeep := by
  unfold ofTicket at h
  split at h
  · cases h
    cases hf
  · split at h
    · cases h
      cases hf
    · split at h
      · rename_i e _
        cases h
        cases e with
        | tooDeep => rfl
        | malformed | integerTooLong => cases hf
      · unfold ofPayload at h
        split at h
        · split at h <;> cases h
          cases hf
        · cases h
          cases hf

namespace Negotiation

variable {τ ν : Type}

theorem explains_ofChallenge (userid ticket : String) (c : Challenge) :
    Explains (ofChallenge userid ticket c : Except Failure (Negotiation τ)) := by
  have hkeys (o : Option KeyChallenge) : Explains (o.mapM Key.Options.ofChallenge) := by
    cases o with
    | none => exact .ok none
    | some k => exact (Key.Options.explains_ofChallenge k).bind fun options => .ok (some options)
  unfold ofChallenge
  cases userid.isEmpty with
  | true => exact .error (f := malformed "challenge ticket has no userid") rfl
  | false =>
    cases ticket.isEmpty with
    | true => exact .error (f := malformed "challenge ticket is empty") rfl
    | false =>
      dsimp only
      cases c.available.head? with
      | none => exact .error (f := .plain (.ofKind .noMethod)) rfl
      | some active => exact (hkeys _).bind fun options => .ok _

/-- Whether a negotiation that was rejected was so with a login error. -/
def Explained (n : Negotiation τ) : Prop :=
  ∀ f, n.outcome = some (.error f) → f.loginError?.isSome = true

namespace Explained

variable {n n' : Negotiation τ} {es : List Happening}

theorem of_eq (hn : Explained n) (h : n'.outcome = n.outcome) : Explained n' := by
  intro f hf
  exact hn f (h.symm.trans hf)

/-- A negotiation without an outcome gets this one. -/
theorem of_or (hn : Explained n) {o : Option (Except Failure Ticket)}
    (h : n'.outcome = n.outcome.or o)
    (ho : ∀ f, o = some (.error f) → f.loginError?.isSome = true) : Explained n' := by
  intro f hf
  rw [h] at hf
  cases hold : n.outcome with
  | some r =>
    rw [hold, Option.some_or] at hf
    exact hn f (hold.trans hf)
  | none =>
    rw [hold, Option.none_or] at hf
    exact ho f hf

theorem reject (hn : Explained n) {f : Failure} (hf : f.loginError?.isSome = true) :
    Explained (n.reject f) := by
  refine hn.of_or (reject_outcome n f) ?_
  rintro g hg
  cases hg
  exact hf

theorem accept (hn : Explained n) (p : Proof) (whenEnded : Turn τ) :
    Explained (n.accept p whenEnded) := by
  obtain ⟨m, -, -, ho, heq⟩ := Keeps.accept n p whenEnded
  rw [heq]
  exact hn.of_eq ho

theorem settle (hn : Explained n) (result : Except Failure Ticket) :
    Explained (n.settle result) := by
  refine hn.of_or (settle_outcome n result) ?_
  intro f hf
  cases result with
  | ok t => cases hf
  | error g =>
    by_cases hg : g.loginError?.isSome
    · rw [verdict?, if_pos hg] at hf
      cases hf
      exact hg
    · rw [verdict?, if_neg hg] at hf
      cases hf

theorem change (hn : Explained n) (hc : Change n es n') : Explained n' := by
  cases hc with
  | idle | waits | told | retries | mistypes | asks | keyCrashed | assertsLate | stops | wakes
  | sends | responds => exact hn.of_eq rfl
  | starts => split <;> exact hn.of_eq rfl
  | selects =>
    refine hn.of_eq ?_
    dsimp only
    split
    · exact cancelKey_outcome n
    · rfl
  | closes =>
    have hcancel : Explained n.shut.cancelKey := hn.of_eq (cancelKey_outcome n.shut)
    split
    · exact hn.of_eq rfl
    · split
      · exact hcancel
      · exact hcancel.reject rfl
  | confirms caller =>
    have hn' : Explained { n with inputError := none } := hn.of_eq rfl
    exact hn'.accept _ _
  | asserts i a assertion => exact (hn.accept _ (.attemptNotified i)).of_eq rfl
  | refused i a r =>
    have hn' : Explained { n with keyError := some r } := hn.of_eq rfl
    have hfailed : Explained (n.keyFailed r) := by
      unfold keyFailed
      dsimp only
      split
      · exact hn'
      · exact hn'.reject r.explains
    exact hfailed.of_eq rfl
  | notices i f =>
    refine hn.of_or (notice_outcome n f) ?_
    intro g hg
    cases hg
    rfl
  | exchanges | balks | receives => exact hn.settle _

theorem moves (script : Nat → Http.Outcome) {s : Scene τ ν} (hs : Explained s.toNegotiation)
    (ms : List (Move τ ν)) : Explained (s.moves script ms).toNegotiation := by
  induction ms generalizing s with
  | nil => exact hs
  | cons m ms ih => exact ih (hs.change (s.change_move script m))

end Explained

end Negotiation

end SecondFactor
