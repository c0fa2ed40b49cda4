import Mathlib.Data.Finset.Card
import SecondFactor.Proofs.Negotiation.Flight
import SecondFactor.Proofs.Negotiation.KeyFailing

/-! # Requests to a security key

A security key is asked once for each attempt that gets to its first turn, and attempts begin only
when the negotiation is started or the security key is confirmed. So each request is paid for by one
of these calls. An attempt that was begun and did not have its turn yet is paid for already. -/

namespace SecondFactor.Negotiation

variable {τ ν : Type}

/-- The attempts that are going to ask the security key. -/
def poised (n : Negotiation τ) : Finset Nat :=
  {i ∈ Finset.range n.begun | ∃ a ∈ n.attempts[i]?, a.task.start matches .first}

section

variable {n n' n'' : Negotiation τ}

theorem mem_poised {i : Nat} :
    i ∈ n.poised ↔ ∃ a, n.attempts[i]? = some a ∧ a.task.start = .first := by
  have hfirst (a : Attempt τ) : (a.task.start matches .first) = true ↔ a.task.start = .first := by
    cases a.task.start <;> simp
  simp only [poised, Finset.mem_filter, Finset.mem_range, Option.mem_def, hfirst]
  refine ⟨And.right, fun h => ⟨?_, h⟩⟩
  obtain ⟨a, ha, -⟩ := h
  exact (List.getElem?_eq_some_iff.mp ha).1

theorem poised_eq_empty (h : ¬ n.Poised) : n.poised = ∅ := by
  refine Finset.eq_empty_of_forall_notMem fun i hi => h ?_
  obtain ⟨a, ha, hfirst⟩ := mem_poised.mp hi
  exact ⟨i, a, ha, hfirst⟩

theorem poised_begin (n : Negotiation τ) (whenEnded : List (Turn τ)) :
    (n.begin whenEnded).poised ⊆ insert n.begun n.poised := by
  intro i hi
  obtain ⟨a, ha, hfirst⟩ := mem_poised.mp hi
  by_cases hlast : i = n.begun
  · exact hlast ▸ Finset.mem_insert_self _ _
  · have hlen : i < (n.begin whenEnded).begun := (List.getElem?_eq_some_iff.mp ha).1
    rw [begun_begin] at hlen
    have hold : i < n.attempts.length := by
      unfold begun at hlast hlen
      omega
    refine Finset.mem_insert_of_mem (mem_poised.mpr ⟨a, ?_, hfirst⟩)
    exact (List.getElem?_append_left hold).symm.trans ha

/-! ## What a change leaves to be asked -/

/-- Whether there is the same to ask for as before, and nobody else who is going to ask for it. -/
structure Restrains (n n' : Negotiation τ) : Prop where
  options : n'.options = n.options
  poised : n'.poised ⊆ n.poised

namespace Restrains

theorem refl (n : Negotiation τ) : Restrains n n := ⟨rfl, Finset.Subset.refl _⟩

theorem trans (h : Restrains n n') (h' : Restrains n' n'') : Restrains n n'' :=
  ⟨h'.options.trans h.options, h'.poised.trans h.poised⟩

theorem of_attempts (hoptions : n'.options = n.options) (hattempts : n'.attempts = n.attempts) :
    Restrains n n' := by
  refine ⟨hoptions, fun i hi => ?_⟩
  obtain ⟨a, ha, hfirst⟩ := mem_poised.mp hi
  exact mem_poised.mpr ⟨a, hattempts ▸ ha, hfirst⟩

/-- A task does not begin again. -/
theorem setTask (n : Negotiation τ) (i : Nat) {f : Task Attempt.Wait Unit → Task Attempt.Wait Unit}
    (hf : ∀ t : Task Attempt.Wait Unit, t.start ≠ .first → (f t).start ≠ .first) :
    Restrains n (n.setTask i f) := by
  refine ⟨rfl, fun j hj => ?_⟩
  obtain ⟨a', ha', hfirst⟩ := mem_poised.mp hj
  rw [Negotiation.setTask, List.getElem?_modify] at ha'
  obtain ⟨a, ha, rfl⟩ := Option.map_eq_some_iff.mp ha'
  refine mem_poised.mpr ⟨a, ha, ?_⟩
  by_cases hij : i = j
  · by_contra hbegun
    rw [if_pos hij] at hfirst
    exact hf a.task hbegun hfirst
  · rw [if_neg hij] at hfirst
    exact hfirst

theorem shut (n : Negotiation τ) : Restrains n n.shut := of_attempts rfl rfl

theorem cancelKey (n : Negotiation τ) : Restrains n n.cancelKey := by
  unfold Negotiation.cancelKey
  split
  · exact refl n
  · exact setTask n _ fun t => t.start_cancel_ne_first

theorem reject (n : Negotiation τ) (f : Failure) : Restrains n (n.reject f) := by
  refine of_attempts ?_ (reject_attempts n f)
  unfold Negotiation.reject
  split <;> rfl

theorem keyFailed (n : Negotiation τ) (r : Key.Refusal) : Restrains n (n.keyFailed r) := by
  have herror : Restrains n { n with keyError := some r } := of_attempts rfl rfl
  unfold Negotiation.keyFailed
  dsimp only
  split
  · exact herror
  · exact herror.trans (reject _ _)

theorem notice (n : Negotiation τ) (f : Failure) : Restrains n (n.notice f) := by
  unfold Negotiation.notice
  split
  · exact refl n
  · exact reject n _

theorem settle (n : Negotiation τ) (result : Except Failure Ticket) :
    Restrains n (n.settle result) := by
  refine of_attempts ?_ (settle_attempts n result)
  cases result with
  | ok t =>
    unfold Negotiation.settle Negotiation.resolve
    dsimp only
    split <;> rfl
  | error f =>
    unfold Negotiation.settle
    dsimp only
    split
    · exact (reject n f).options
    · rfl

theorem accept (n : Negotiation τ) (p : Proof) (whenEnded : Turn τ) :
    Restrains n (n.accept p whenEnded) := by
  have hshut : Restrains n { n.shut with stage := .submitting } := of_attempts rfl rfl
  unfold Negotiation.accept
  dsimp only
  split
  · exact hshut.trans (of_attempts rfl rfl)
  · exact (hshut.trans (cancelKey _)).trans (of_attempts rfl rfl)

end Restrains

/-- A change begins an attempt, or leaves nobody else to ask. -/
theorem Change.restrains {es : List Happening} (hc : Change n es n') :
    Restrains n n' ∨ ∃ whenEnded, n' = n.begin whenEnded := by
  cases hc with
  | starts =>
    split
    · exact .inr ⟨_, rfl⟩
    · exact .inl (.refl n)
  | retries caller => exact .inr ⟨_, rfl⟩
  | idle => exact .inl (.refl n)
  | waits | mistypes | told | sends | responds => exact .inl (.of_attempts rfl rfl)
  | selects m =>
    left
    split
    · exact (Restrains.cancelKey n).trans (.of_attempts rfl rfl)
    · exact .of_attempts rfl rfl
  | closes =>
    left
    have hcancel := (Restrains.shut n).trans (.cancelKey n.shut)
    split
    · exact .shut n
    · split
      · exact hcancel
      · exact hcancel.trans (.reject _ _)
  | confirms =>
    have hnone : Restrains n { n with inputError := none } := .of_attempts rfl rfl
    exact .inl (hnone.trans (.accept _ _ _))
  | asks i | keyCrashed i | assertsLate i | stops i => exact .inl (.setTask n i (by simp))
  | refused i a r => exact .inl ((Restrains.keyFailed n r).trans (.setTask _ i (by simp)))
  | asserts i => exact .inl ((Restrains.accept n _ _).trans (.setTask _ i (by simp)))
  | wakes i news => exact .inl (.setTask n i fun t => t.start_wake_ne_first news)
  | notices _ f => exact .inl (.notice n f)
  | exchanges | balks | receives => exact .inl (.settle n _)

end

/-! ## What a run asks for -/

/-- Whether a move is the call that starts the negotiation. -/
def Move.isStart : Move τ ν → Bool
  | .act .start => true
  | _ => false

namespace Scene

variable (script : Nat → Http.Outcome)

/-- What a move asks the security key to sign. What others ask for does not count. -/
def asks (s : Scene τ ν) : Move τ ν → List Key.Options
  | .aside .. => []
  | m => (s.move script m).asked.drop s.asked.length

/-- What a run asks the security key to sign. -/
def keyRequests (s : Scene τ ν) : List (Move τ ν) → List Key.Options
  | [] => []
  | m :: ms => s.asks script m ++ keyRequests (s.move script m) ms

/-- Whether a move confirms while the security key is the active method, and is not refused. -/
def confirmsKey (s : Scene τ ν) : Move τ ν → Bool
  | .confirm caller => s.active = .webauthn && (s.confirm caller).isOk
  | _ => false

/-- How often a run confirms while the security key is the active method, and is not refused. -/
def keyConfirms (s : Scene τ ν) : List (Move τ ν) → Nat
  | [] => 0
  | m :: ms => (s.confirmsKey m).toNat + keyConfirms (s.move script m) ms

/-- In its first turn an attempt asks for what the negotiation asks, if there is a key to ask. -/
theorem asked_ask (s : Scene τ ν) (i : Nat) :
    (s.ask i).asked = s.asked ∨ ∃ o, s.options = some o ∧ (s.ask i).asked = s.asked ++ [o] := by
  unfold ask
  split
  · rename_i adapter options hadapter hoptions
    exact .inr ⟨options, hoptions, congrArg (·.asked) (toOutside_proceed _ i _ _)⟩
  · exact .inl (congrArg (·.asked) (toOutside_conclude s i _))

/-- A move that is none of others asks for nothing, or is the first turn of an attempt. -/
theorem asked_cases {s : Scene τ ν} {m : Move τ ν}
    (haside : ∀ others queue notes, m ≠ .aside others queue notes) :
    (s.move script m).asked = s.asked ∨
      ∃ i a o, m = .turn (.attempt i) ∧ s.attempts[i]? = some a ∧ a.task.start = .first ∧
        s.options = some o ∧ (s.move script m).asked = s.asked ++ [o] := by
  by_cases hsame : (s.move script m).asked = s.asked
  · exact .inl hsame
  · obtain ⟨i, a, rfl, ha, hfirst⟩ := first_of_asked script haside hsame
    have hrun : s.move script (.turn (.attempt i)) = s.ask i := by
      simp only [move, run, runAttempt, ha, hfirst]
    rw [hrun] at hsame ⊢
    obtain hask | ⟨o, ho, hask⟩ := s.asked_ask i
    · exact absurd hask hsame
    · exact .inr ⟨i, a, o, rfl, ha, hfirst, ho, hask⟩

theorem asked_move {s : Scene τ ν} {m : Move τ ν}
    (haside : ∀ others queue notes, m ≠ .aside others queue notes) :
    (s.move script m).asked = s.asked ++ s.asks script m := by
  have hasks : s.asks script m = (s.move script m).asked.drop s.asked.length := by
    cases m with
    | aside others queue notes => exact absurd rfl (haside others queue notes)
    | _ => rfl
  obtain hsame | ⟨i, a, o, -, -, -, -, hmore⟩ := asked_cases script haside
  · rw [hasks, hsame, List.drop_length, List.append_nil]
  · rw [hasks, hmore, List.drop_left]

theorem asks_cases (s : Scene τ ν) (m : Move τ ν) :
    s.asks script m = [] ∨
      ∃ i a o, m = .turn (.attempt i) ∧ s.attempts[i]? = some a ∧ a.task.start = .first ∧
        s.options = some o ∧ s.asks script m = [o] := by
  by_cases haside : ∃ others queue notes, m = .aside others queue notes
  · obtain ⟨others, queue, notes, rfl⟩ := haside
    exact .inl rfl
  · push Not at haside
    have hmove := asked_move script (s := s) haside
    obtain hsame | ⟨i, a, o, rfl, ha, hfirst, ho, hmore⟩ := asked_cases script (s := s) haside
    · exact .inl (List.self_eq_append_right.mp (hsame.symm.trans hmove))
    · exact .inr ⟨i, a, o, rfl, ha, hfirst, ho, List.append_cancel_left (hmove.symm.trans hmore)⟩

/-- An attempt that had its first turn is not going to ask again. -/
theorem not_mem_poised_runAttempt (s : Scene τ ν) (i : Nat) : i ∉ (s.runAttempt i).poised := by
  intro hi
  obtain ⟨a, ha, hfirst⟩ := mem_poised.mp hi
  have hdue : a.task.isDue = false := rests_runAttempt s i a ha
  rw [Task.isDue, Task.phase_of_first hfirst] at hdue
  cases hdue

/-- What a move asks for, and who is going to ask after it, is paid for by the move itself or by one
who was going to ask. -/
theorem asks_move (s : Scene τ ν) (m : Move τ ν) :
    (s.asks script m).length + (s.move script m).poised.card ≤
      s.poised.card + (m.isStart.toNat + (s.confirmsKey m).toNat) := by
  have hbegin {whenEnded : List (Turn τ)}
      (h : (s.move script m).toNegotiation = s.begin whenEnded) :
      (s.move script m).poised.card ≤ s.poised.card + 1 := by
    rw [h]
    exact (Finset.card_le_card (poised_begin _ _)).trans (Finset.card_insert_le _ _)
  have hquiet (hm : ∀ i, m ≠ .turn (.attempt i)) : s.asks script m = [] := by
    obtain hnothing | ⟨i, a, o, hturn, -⟩ := s.asks_cases script m
    · exact hnothing
    · exact absurd hturn (hm i)
  obtain hsame | ⟨rfl, -, h⟩ | ⟨caller, r, rfl, hr, hkey, -, h⟩ := s.begun_move script m
  · obtain hless | ⟨whenEnded, hbegins⟩ := (s.change_move script m).restrains
    · obtain hnothing | ⟨i, a, o, rfl, ha, hfirst, -, hasks⟩ := s.asks_cases script m
      · rw [hnothing, List.length_nil, Nat.zero_add]
        exact (Finset.card_le_card hless.poised).trans (Nat.le_add_right _ _)
      · -- the attempt that asks drops out of those who are going to
        have hi : i ∈ s.poised := mem_poised.mpr ⟨a, ha, hfirst⟩
        have hsub : (s.move script (.turn (.attempt i))).poised ⊆ s.poised.erase i :=
          Finset.subset_erase.mpr ⟨hless.poised, s.not_mem_poised_runAttempt i⟩
        have hcard := Finset.card_le_card hsub
        rw [hasks, List.length_singleton]
        have hone := Finset.card_erase_add_one hi
        omega
    · rw [hbegins, begun_begin] at hsame
      exact absurd hsame (Nat.succ_ne_self _)
  · have hcard := hbegin h
    simp only [hquiet nofun, List.length_nil, Move.isStart, Bool.toNat_true]
    omega
  · have hconfirms : s.confirmsKey (.confirm caller : Move τ ν) = true := by
      simp [confirmsKey, hkey, hr, Except.isOk, Except.toBool]
    have hcard := hbegin h
    simp only [hquiet nofun, hconfirms, List.length_nil, Bool.toNat_true]
    omega

/-- What a run asks for is paid for by calls of it, or by those who were going to ask before it. -/
theorem keyRequests_le (s : Scene τ ν) (ms : List (Move τ ν)) :
    (s.keyRequests script ms).length + (s.moves script ms).poised.card ≤
      s.poised.card + (ms.countP Move.isStart + s.keyConfirms script ms) := by
  induction ms generalizing s with
  | nil => simp [keyRequests, keyConfirms]
  | cons m ms ih =>
    have hstep := s.asks_move script m
    have hrest := ih (s.move script m)
    have hcount : (m :: ms).countP Move.isStart = m.isStart.toNat + ms.countP Move.isStart := by
      rw [List.countP_cons, Nat.add_comm]
      cases m.isStart <;> rfl
    simp only [keyRequests, keyConfirms, List.length_append, moves_cons, hcount]
    omega

theorem keyConfirms_eq_zero {s : Scene τ ν} {ms : List (Move τ ν)}
    (hms : ∀ m ∈ ms, m.isBeginning = false) : s.keyConfirms script ms = 0 := by
  induction ms generalizing s with
  | nil => rfl
  | cons m ms ih =>
    obtain ⟨hm, hms⟩ := List.forall_mem_cons.mp hms
    have hnot : s.confirmsKey m = false := by
      cases m with
      | confirm caller => cases hm
      | _ => rfl
    rw [keyConfirms, hnot, ih hms]
    rfl

/-- Where nobody is going to ask and nobody calls, nothing is asked for. -/
theorem keyRequests_eq_nil {s : Scene τ ν} {ms : List (Move τ ν)} (hs : ¬ s.Poised)
    (hms : ∀ m ∈ ms, m.isBeginning = false) : s.keyRequests script ms = [] := by
  have hstarts : ms.countP Move.isStart = 0 := by
    refine List.countP_eq_zero.mpr fun m hm hstart => ?_
    have hbeginning : m.isBeginning = true := by
      unfold Move.isStart at hstart
      split at hstart
      · rfl
      · cases hstart
    rw [hms m hm] at hbeginning
    cases hbeginning
  have hle := s.keyRequests_le script ms
  rw [hstarts, keyConfirms_eq_zero script hms, poised_eq_empty hs, Finset.card_empty] at hle
  exact List.length_eq_zero_iff.mp (by omega)

theorem options_move (s : Scene τ ν) (m : Move τ ν) : (s.move script m).options = s.options := by
  obtain hless | ⟨whenEnded, hbegin⟩ := (s.change_move script m).restrains
  · exact hless.options
  · rw [hbegin]
    rfl

/-- Whatever is asked for is what the negotiation asks. -/
theorem options_of_mem_keyRequests {s : Scene τ ν} {ms : List (Move τ ν)} {o : Key.Options}
    (ho : o ∈ s.keyRequests script ms) : s.options = some o := by
  induction ms generalizing s with
  | nil => cases ho
  | cons m ms ih =>
    obtain ho | ho := List.mem_append.mp ho
    · obtain hnothing | ⟨i, a, o', -, -, -, ho', hasks⟩ := s.asks_cases script m
      · rw [hnothing] at ho
        cases ho
      · rw [hasks, List.mem_singleton] at ho
        rw [ho', ho]
    · rw [← s.options_move script m]
      exact ih ho

/-- Where nobody else uses the key, all that it is asked for is asked for by the negotiation. -/
theorem asked_eq_keyRequests {s : Scene τ ν} {ms : List (Move τ ν)}
    (hms : ∀ others queue notes, .aside others queue notes ∉ ms) :
    (s.moves script ms).asked = s.asked ++ s.keyRequests script ms := by
  induction ms generalizing s with
  | nil => simp [keyRequests]
  | cons m ms ih =>
    have hstep := asked_move script (s := s) fun others queue notes hm =>
      hms others queue notes (hm ▸ .head ms)
    rw [moves_cons, ih fun others queue notes hm => hms others queue notes (.tail m hm), hstep,
      keyRequests, List.append_assoc]

end Scene

/-- What a negotiation asks a security key is what its challenge asks. -/
theorem options_of_ofChallenge {userid ticket : String} {c : Challenge} {n : Negotiation τ}
    (hn : ofChallenge userid ticket c = .ok n) :
    c.webauthn.mapM Key.Options.ofChallenge = .ok n.options := by
  unfold ofChallenge at hn
  simp only [bind, Except.bind, throw, throwThe, MonadExceptOf.throw, pure, Except.pure] at hn
  split at hn
  · cases hn
  · split at hn
    · cases hn
    · split at hn
      · cases hn
      · cases hoptions : c.webauthn.mapM Key.Options.ofChallenge with
        | error f =>
          rw [hoptions] at hn
          cases hn
        | ok options =>
          rw [hoptions] at hn
          cases hn
          rfl

/-- A security key is asked at most as often as the negotiation is started or the key is confirmed,
always for what the challenge asks, and never if the challenge offers no security key. From any
point on it is asked at most as often as this is done from there on, unless an attempt was begun
before and is only now going to ask. If there is none, and nobody calls, then nothing else makes the
negotiation ask the key, whatever fails, ends, or is chosen. -/
theorem asked_only_on_call {userid ticket : String} {c : Challenge} {n : Negotiation τ}
    (script : Nat → Http.Outcome) (hn : ofChallenge userid ticket c = .ok n) (o : Outside)
    (ms : List (Move τ ν)) :
    let s : Scene τ ν := { toOutside := o, toNegotiation := n }
    (s.keyRequests script ms).length ≤ ms.countP Move.isStart + s.keyConfirms script ms ∧
    (∀ options ∈ s.keyRequests script ms,
      ∃ k, c.webauthn = some k ∧ Key.Options.ofChallenge k = .ok options) ∧
    (c.offers .webauthn = false → s.keyRequests script ms = []) ∧
    ((∀ others queue notes, .aside others queue notes ∉ ms) →
      (s.moves script ms).asked = o.asked ++ s.keyRequests script ms) ∧
    let point := s.moves script ms
    ∀ later : List (Move τ ν),
      (point.keyRequests script later).length ≤
        point.poised.card + (later.countP Move.isStart + point.keyConfirms script later) ∧
      (¬ point.Poised → (∀ m ∈ later, m.isBeginning = false) →
        point.keyRequests script later = []) := by
  intro s
  have hnew : ¬ s.Poised := by
    obtain ⟨active, options, -, rfl⟩ := ofChallenge_ok hn
    rintro ⟨i, a, ha, -⟩
    cases ha
  have hoptions : ∀ options ∈ s.keyRequests script ms,
      ∃ k, c.webauthn = some k ∧ Key.Options.ofChallenge k = .ok options := by
    intro options ho
    have hread := options_of_ofChallenge hn
    have hsome : n.options = some options := Scene.options_of_mem_keyRequests script ho
    rw [hsome] at hread
    cases hk : c.webauthn with
    | none =>
      rw [hk] at hread
      cases hread
    | some k =>
      refine ⟨k, rfl, ?_⟩
      rw [hk, Option.mapM_some] at hread
      cases hk' : Key.Options.ofChallenge k with
      | error f =>
        rw [hk'] at hread
        cases hread
      | ok options' =>
        rw [hk'] at hread
        cases hread
        rfl
  refine ⟨?_, hoptions, fun hoffers => ?_, Scene.asked_eq_keyRequests script, fun later => ⟨?_, ?_⟩⟩
  · have hle := s.keyRequests_le script ms
    rw [poised_eq_empty hnew, Finset.card_empty] at hle
    omega
  · refine List.eq_nil_iff_forall_not_mem.mpr fun options ho => ?_
    obtain ⟨k, hk, -⟩ := hoptions options ho
    rw [Challenge.offers, hk] at hoffers
    cases hoffers
  · exact (Nat.le_add_right _ _).trans (Scene.keyRequests_le script _ later)
  · exact Scene.keyRequests_eq_nil script

/-- A user who starts, and confirms once the first attempt has failed. -/
def retryingMoves : List (Move Unit Unit) :=
  [.act .start, .turn (.attempt 0), .turn (.attemptEnded 1), .confirm (), .turn (.attempt 1)]

theorem asked_only_on_call_retrying :
    let s : Scene Unit Unit := { toOutside := failingOutside, toNegotiation := sample }
    ofChallenge "root@pam" "PBS:!tfa!" sampleChallenge = .ok sample ∧
      (s.keyRequests sampleScript retryingMoves).length = 2 ∧
      retryingMoves.countP Move.isStart + s.keyConfirms sampleScript retryingMoves = 2 ∧
      (s.keyRequests sampleScript retryingMoves).length ≤
        retryingMoves.countP Move.isStart + s.keyConfirms sampleScript retryingMoves ∧
      ∀ later : List (Move Unit Unit), (∀ m ∈ later, m.isBeginning = false) →
        (s.moves sampleScript retryingMoves).keyRequests sampleScript later = [] := by
  intro s
  obtain ⟨hle, -, -, -, hlater⟩ :=
    asked_only_on_call sampleScript ofChallenge_sample failingOutside retryingMoves
  have hidle : ((s.moves sampleScript retryingMoves).attempts.any
      fun a => a.task.start matches .first) = false := by decide +kernel
  refine ⟨ofChallenge_sample, by decide +kernel, by decide +kernel, hle, fun later hcalls => ?_⟩
  refine (hlater later).2 ?_ hcalls
  rintro ⟨i, a, ha, hfirst⟩
  refine absurd ?_ (List.any_eq_false.mp hidle a (List.mem_of_getElem? ha))
  rw [hfirst]

end SecondFactor.Negotiation
