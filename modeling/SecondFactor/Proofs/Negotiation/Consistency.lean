import SecondFactor.Proofs.Negotiation.Confirmable

/-! # What a dialog fills in

The methods on offer, the active one, the stage, the input of each method and the input that was
found wrong are read together by whoever shows a dialog, and written one at a time by calls that may
come in any order. At every point of a run they agree. -/

namespace SecondFactor.Negotiation

variable {τ ν : Type}

/-! ## Stages in which a proof is wanted

What brings a negotiation to its end never brings it to another stage in which a proof is wanted. -/

section

variable (n : Negotiation τ)

theorem stage_reject (f : Failure) (hopen : (n.reject f).stage.isOpen = true) :
    (n.reject f).stage = n.stage := by
  unfold reject at hopen ⊢
  split
  · rfl
  · rename_i hdone
    rw [if_neg hdone] at hopen
    cases hopen

theorem stage_resolve (t : Ticket) (hopen : (n.resolve t).stage.isOpen = true) :
    (n.resolve t).stage = n.stage := by
  unfold resolve at hopen ⊢
  split
  · rfl
  · rename_i hdone
    rw [if_neg hdone] at hopen
    cases hopen

theorem stage_notice (f : Failure) (hopen : (n.notice f).stage.isOpen = true) :
    (n.notice f).stage = n.stage := by
  unfold notice at hopen ⊢
  split
  · rfl
  · rename_i hdone
    rw [if_neg hdone] at hopen
    exact stage_reject n _ hopen

theorem stage_keyFailed (r : Key.Refusal) (hopen : (n.keyFailed r).stage.isOpen = true) :
    (n.keyFailed r).stage = n.stage := by
  unfold keyFailed at hopen ⊢
  dsimp only at hopen ⊢
  split
  · rfl
  · rename_i hlast
    rw [if_neg hlast] at hopen
    exact stage_reject _ _ hopen

theorem stage_closes :
    let n' := if n.submission.isSome then n.shut
      else if n.done then n.shut.cancelKey
      else n.shut.cancelKey.reject (.plain (.ofKind .cancelled))
    n'.stage.isOpen = true → n'.stage = n.stage := by
  dsimp only
  split
  · exact fun _ => rfl
  · split
    · exact fun _ => cancelKey_stage n.shut
    · exact fun hopen => (stage_reject _ _ hopen).trans (cancelKey_stage n.shut)

end

/-! ## Along a run -/

/-- Whether input is held for text methods on offer only, and the stage tells of the active method
whether it has input: nothing or an empty text when a method is to be selected, and some text, be it
empty, when input is awaited. -/
structure Consistent (n : Negotiation τ) : Prop where
  held : ∀ m value, n.inputs m = some value → m ∈ n.available ∧ m.takesText = true
  selecting : n.stage = .selecting → n.input n.active = ""
  awaiting : n.stage = .awaiting → ∃ value, n.inputs n.active = some value

namespace Consistent

variable {n n' : Negotiation τ} {es : List Happening}

theorem keeps (h : Consistent n) (hk : Keeps n n')
    (hstage : n'.stage.isOpen = true → n'.stage = n.stage) : Consistent n' where
  held := by
    rw [hk.inputs, hk.available]
    exact h.held
  selecting := by
    intro hselecting
    have hsame : n'.stage = n.stage := hstage (hselecting ▸ rfl)
    rw [input, hk.inputs, hk.active]
    exact h.selecting (hsame.symm.trans hselecting)
  awaiting := by
    intro hawaiting
    have hsame : n'.stage = n.stage := hstage (hawaiting ▸ rfl)
    rw [hk.inputs, hk.active]
    exact h.awaiting (hsame.symm.trans hawaiting)

/-- Once a proof was accepted, the stage tells nothing of input any more. -/
theorem accept (h : Consistent n) (p : Proof) (whenEnded : Turn τ) :
    Consistent (n.accept p whenEnded) := by
  obtain ⟨n', hk, hstage, -, heq⟩ := Keeps.accept n p whenEnded
  have hkept : Consistent n' := h.keeps hk fun hopen => by
    rw [hstage] at hopen
    cases hopen
  rw [heq]
  exact ⟨hkept.held, hkept.selecting, hkept.awaiting⟩

theorem settle (h : Consistent n) (result : Except Failure Ticket) :
    Consistent (n.settle result) := by
  have hfields {m : Negotiation τ} (hm : Consistent m) (how : Ending Unit) :
      Consistent (m.setSubmission fun _ => .finished how) := ⟨hm.held, hm.selecting, hm.awaiting⟩
  unfold Negotiation.settle
  cases result with
  | ok t => exact hfields (h.keeps (.resolve n t) (stage_resolve n t)) _
  | error f =>
    dsimp only
    split
    · exact hfields (h.keeps (.reject n f) (stage_reject n f)) _
    · exact hfields h _

/-- Another method is chosen, and the stage follows the input that it has already. -/
theorem selects (h : Consistent n) (m : Method) :
    Consistent { n with
      active := m, stage := if n.input m = "" then .selecting else .awaiting } where
  held := h.held
  selecting := by
    intro hselecting
    dsimp only at hselecting
    split at hselecting
    · assumption
    · cases hselecting
  awaiting := by
    intro hawaiting
    dsimp only at hawaiting
    split at hawaiting
    · cases hawaiting
    · rename_i hinput
      refine Option.ne_none_iff_exists'.mp fun hnone => hinput ?_
      exact congrArg (·.getD "") hnone

/-- Input is set for the active method. -/
theorem told (h : Consistent n) (hactive : n.active ∈ n.available)
    (htext : n.active.takesText = true) (value : String) :
    Consistent { n with
      inputs := fun m => if m = n.active then some value else n.inputs m
      inputError := none
      stage := .awaiting } where
  held := by
    intro m value' hm
    dsimp only at hm
    split at hm
    · rename_i hsame
      subst hsame
      exact ⟨hactive, htext⟩
    · exact h.held m value' hm
  selecting := by
    intro hselecting
    cases hselecting
  awaiting := fun _ => ⟨value, if_pos rfl⟩

theorem change (h : Consistent n) (hactive : n.active ∈ n.available) (hc : Change n es n') :
    Consistent n' := by
  cases hc with
  | idle => exact h
  | waits | retries | mistypes | asks | keyCrashed | assertsLate | stops | wakes | sends
  | responds => exact ⟨h.held, h.selecting, h.awaiting⟩
  | starts =>
    split
    · exact ⟨h.held, h.selecting, h.awaiting⟩
    · exact h
  | selects m =>
    have hkept : Consistent (if n.active = .webauthn then n.cancelKey else n) := by
      split
      · exact h.keeps (.cancelKey n) fun _ => cancelKey_stage n
      · exact h
    have hinput : (if n.active = .webauthn then n.cancelKey else n).input m = n.input m := by
      split
      · simp [input]
      · rfl
    exact hinput ▸ hkept.selects m
  | told value _ htext => exact h.told hactive htext value
  | closes => exact h.keeps (.closes n) (stage_closes n)
  | confirms caller =>
    have hcleared : Consistent { n with inputError := none } := ⟨h.held, h.selecting, h.awaiting⟩
    exact hcleared.accept _ _
  | refused i a r =>
    have hkept := h.keeps (.keyFailed n r) (stage_keyFailed n r)
    exact ⟨hkept.held, hkept.selecting, hkept.awaiting⟩
  | asserts i a assertion =>
    have hkept := h.accept (assertion.proof n.keyText) (.attemptNotified i)
    exact ⟨hkept.held, hkept.selecting, hkept.awaiting⟩
  | notices i f => exact h.keeps (.notice n f) (stage_notice n f)
  | exchanges | balks | receives => exact h.settle _

end Consistent

theorem Sound.active_mem {userid ticket : String} {c : Challenge} {h : List Happening}
    {n : Negotiation τ} (hs : Sound userid ticket c h n) : n.active ∈ n.available := by
  rw [hs.available]
  exact mem_available.mpr hs.active

variable {userid ticket : String} {c : Challenge} {n : Negotiation τ}

theorem consistent_ofChallenge (hn : ofChallenge userid ticket c = .ok n) : Consistent n := by
  obtain ⟨active, options, -, rfl⟩ := ofChallenge_ok hn
  constructor
  case held =>
    intro m value hm
    cases hm
  case selecting => exact fun _ => rfl
  case awaiting =>
    intro hawaiting
    cases hawaiting

variable (script : Nat → Http.Outcome)

theorem Consistent.moves {h : List Happening} {s : Scene τ ν}
    (hs : Sound userid ticket c h s.toNegotiation) (hfields : Consistent s.toNegotiation)
    (ms : List (Move τ ν)) : Consistent (s.moves script ms).toNegotiation := by
  -- each step needs that the active method is on offer, which soundness carries along
  induction ms generalizing h s with
  | nil => exact hfields
  | cons m ms ih =>
    have hc := s.change_move script m
    exact ih (hs.change hc) (hfields.change hs.active_mem hc)

/-! ## Main result -/

/-- At every point of a run the methods on offer are those that the challenge populates, the
preferred one first, and the active one is among them. Only text methods on offer have input. While
a proof is wanted, the stage says whether the active method has input: it never has any when a
security key is active, nothing or an empty text when a method is to be selected, and some text when
input is awaited. Input that was found wrong when it was confirmed is wrong as it stands now. -/
theorem fields_agree (hn : ofChallenge userid ticket c = .ok n) (o : Outside)
    (ms : List (Move τ ν)) :
    let s : Scene τ ν := Scene.moves script { toOutside := o, toNegotiation := n } ms
    (s.available = n.available ∧ s.available.Sublist [.webauthn, .totp, .recovery] ∧
      (.webauthn ∈ s.available ↔ ∃ key, c.webauthn = some key) ∧
      (.totp ∈ s.available ↔ c.totp = true) ∧
      (.recovery ∈ s.available ↔ ∃ id ids, c.recovery = some (id :: ids))) ∧
    s.active ∈ s.available ∧
    (∀ m value, s.inputs m = some value → m ∈ s.available ∧ m.takesText = true) ∧
    (s.stage.isOpen = true → s.active = .webauthn → s.stage = .selecting) ∧
    (s.stage = .selecting → ∀ value, s.inputs s.active = some value → value = "") ∧
    (s.stage = .awaiting → s.active.takesText = true ∧ ∃ value, s.inputs s.active = some value) ∧
    ∀ m, s.inputError = some m → m.accepts (s.input m) = false := by
  intro s
  have hsound := sound_moves (ν := ν) hn o script ms
  have hfields : Consistent s.toNegotiation :=
    Consistent.moves script (s := { toOutside := o, toNegotiation := n }) (sound_ofChallenge hn)
      (consistent_ofChallenge hn) ms
  have hfault : s.toNegotiation.FaultStands := faultStands_moves hn o script ms
  have hoffered : s.available = c.available := hsound.available
  have htext (hawaiting : s.stage = .awaiting) : s.active.takesText = true := by
    obtain ⟨value, hvalue⟩ := hfields.awaiting hawaiting
    exact (hfields.held s.active value hvalue).2
  refine ⟨⟨?_, ?_, ?_, ?_, ?_⟩, hsound.active_mem, hfields.held, ?_, ?_, ?_, ?_⟩
  · exact hoffered.trans (sound_ofChallenge hn).available.symm
  · rw [hoffered]
    exact List.filter_sublist
  · rw [hoffered, mem_available]
    exact Option.isSome_iff_exists
  · rw [hoffered, mem_available]
    rfl
  · rw [hoffered, mem_available]
    cases hids : c.recovery with
    | none => simp [Challenge.offers, hids]
    | some ids => cases ids <;> simp [Challenge.offers, hids]
  · intro hopen hkey
    cases hstage : s.stage with
    | selecting => rfl
    | awaiting =>
      have hno := htext hstage
      rw [hkey] at hno
      cases hno
    | submitting | resolved | rejected =>
      rw [hstage] at hopen
      cases hopen
  · intro hselecting value hvalue
    have hempty : s.input s.active = "" := hfields.selecting hselecting
    rw [input, hvalue] at hempty
    exact hempty
  · exact fun hawaiting => ⟨htext hawaiting, hfields.awaiting hawaiting⟩
  · exact fun m hm => (hfault m hm).2

/-- A user who mistypes a time code, and turns to the security key and back. -/
def mistypingMoves : List (Move Unit Unit) :=
  [.act .start, .act (.select .totp), .act (.input "12345"), .confirm (), .act (.select .webauthn),
    .act (.select .totp)]

theorem fields_agree_mistyped :
    let s : Scene Unit Unit := Scene.moves sampleScript
      { toOutside := sampleOutside, toNegotiation := sample } mistypingMoves
    ofChallenge "root@pam" "PBS:!tfa!" sampleChallenge = .ok sample ∧
      s.available = [.webauthn, .totp] ∧ s.active = .totp ∧ s.stage = .awaiting ∧
      (∃ value, s.inputs .totp = some value) ∧ s.inputError = some .totp ∧
      Method.totp.accepts (s.input .totp) = false := by
  intro s
  obtain ⟨⟨havailable, -⟩, -, -, -, -, hawaiting, hfault⟩ :=
    fields_agree sampleScript ofChallenge_sample sampleOutside mistypingMoves
  have hstage : s.stage = .awaiting := by decide
  have herror : s.inputError = some .totp := by decide
  exact ⟨ofChallenge_sample, havailable, by decide, hstage, (hawaiting hstage).2, herror,
    hfault .totp herror⟩

end SecondFactor.Negotiation
