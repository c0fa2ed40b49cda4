import SecondFactor.Proofs.Negotiation.Frame

/-! # The proof that is submitted

Text methods and attempts with a security key race for the proof. Whoever wins, the ticket service is
called at most once, for the user and the ticket of the challenge, with a proof that a user or a
security key has given. -/

namespace SecondFactor

/-- A text that has the shape of a method is not empty. -/
theorem Method.accepts_empty (m : Method) : m.accepts "" = false := by
  cases m <;> decide

namespace Negotiation

variable {τ ν : Type}

/-! ## Histories of a proof -/

/-- The value that was told for a method. -/
def Happening.toldFor? (m : Method) : Happening → Option String
  | .told k value => if k = m then some value else none
  | _ => none

/-- The text of the proof with which the ticket service was called. -/
def Happening.submitted? : Happening → Option String
  | .submitted _ _ proof => some proof
  | _ => none

/-- The value that was told last while a method was active. -/
def lastTold (m : Method) (h : List Happening) : Option String :=
  (h.filterMap (Happening.toldFor? m)).getLast?

/-- The proofs with which the ticket service was called. -/
def proofs (h : List Happening) : List String := h.filterMap Happening.submitted?

/-- Whether a proof rests on what has shown: on the last input of its text method, or on an
assertion that a security key gave, made to name the challenge. -/
def RestsOn (c : Challenge) (h : List Happening) (p : Proof) : Prop :=
  match p.method with
  | .webauthn => ∃ key assertion, c.webauthn = some key ∧ .replied (.assertion assertion) ∈ h ∧
      p.payload = Json.write .compact
        (.object (assertion.insert "challenge" (.text key.publicKey.challenge)))
  | m => lastTold m h = some p.payload ∧ m.accepts p.payload = true

/-- Whether every happening of a list has a property that depends on what showed before it. -/
def Throughout (P : List Happening → Happening → Prop) (before : List Happening) :
    List Happening → Prop
  | [] => True
  | e :: es => P before e ∧ Throughout P (before ++ [e]) es

theorem throughout_append {P : List Happening → Happening → Prop} {before es fs : List Happening} :
    Throughout P before (es ++ fs) ↔
      Throughout P before es ∧ Throughout P (before ++ es) fs := by
  induction es generalizing before with
  | nil => simp [Throughout]
  | cons e es ih => simp [Throughout, ih, and_assoc]

/-- Happenings of which nothing is asked have the property. -/
theorem throughout_of_forall {P : List Happening → Happening → Prop} {before es : List Happening}
    (h : ∀ e ∈ es, ∀ b, P b e) : Throughout P before es := by
  induction es generalizing before with
  | nil => trivial
  | cons e es ih =>
    exact ⟨h e (by simp) before, ih fun e' he' => h e' (by simp [he'])⟩

theorem lastTold_append (m : Method) (h es : List Happening) :
    lastTold m (h ++ es) = (lastTold m es).or (lastTold m h) := by
  unfold lastTold
  rw [List.filterMap_append, List.getLast?_append]

theorem proofs_append (h es : List Happening) : proofs (h ++ es) = proofs h ++ proofs es :=
  List.filterMap_append

/-- Whether no value is told in a list of happenings. -/
def Untold (es : List Happening) : Prop := ∀ m, lastTold m es = none

/-- Whether happenings neither tell a value nor submit a proof. -/
def Quiet (es : List Happening) : Prop := Untold es ∧ proofs es = []

theorem Untold.lastTold {es : List Happening} (hes : Untold es) (m : Method)
    (h : List Happening) : lastTold m (h ++ es) = lastTold m h := by
  rw [lastTold_append, hes m, Option.none_or]

theorem Quiet.proofs {es : List Happening} (hes : Quiet es) (h : List Happening) :
    proofs (h ++ es) = proofs h := by
  rw [proofs_append, hes.2, List.append_nil]

theorem RestsOn.append {c : Challenge} {h es : List Happening} {p : Proof} (hp : RestsOn c h p)
    (hes : Untold es) : RestsOn c (h ++ es) p := by
  unfold RestsOn at hp ⊢
  split at hp
  · obtain ⟨key, assertion, hc, ha, hpay⟩ := hp
    exact ⟨key, assertion, hc, List.mem_append_left _ ha, hpay⟩
  · rw [hes.lastTold]
    exact hp

/-! ## What holds along a run -/

section

variable (userid ticket : String) (c : Challenge)

/-- What holds of a happening, given what showed before it: a call of the ticket service is for the
user and the ticket of the challenge, and its proof is by a method on offer and rests on what
showed. -/
def Grounded (before : List Happening) : Happening → Prop
  | .submitted u t proof => u = userid ∧ t = ticket ∧
      ∃ p : Proof, proof = p.text ∧ c.offers p.method = true ∧ RestsOn c before p
  | _ => True

/-- What holds of a negotiation along every run, given what has shown. -/
structure Sound (h : List Happening) (n : Negotiation τ) : Prop where
  forUser : n.userid = userid
  forTicket : n.ticket = ticket
  ofChallenge : n.challenge = c
  available : n.available = c.available
  active : c.offers n.active = true
  keyed : n.attempts ≠ [] → c.offers .webauthn = true
  inputs : ∀ m, n.inputs m = lastTold m h
  unsubmitted : n.stage.isOpen = true → n.submission = none
  undecided : n.stage.isOpen = true → n.outcome = none
  once : proofs h = [] ∨ ∃ sub, n.submission = some sub ∧ sub.task.start ≠ .first ∧
    proofs h = [sub.proof.text]
  rests : ∀ sub, n.submission = some sub → c.offers sub.proof.method = true ∧ RestsOn c h sub.proof
  grounded : Throughout (Grounded userid ticket c) [] h

variable {userid ticket c}

/-- What comes of a challenge is sound. -/
theorem sound_ofChallenge {n : Negotiation τ} (hn : ofChallenge userid ticket c = .ok n) :
    Sound userid ticket c [] n := by
  obtain ⟨active, options, hhead, rfl⟩ := ofChallenge_ok hn
  exact {
    forUser := rfl
    forTicket := rfl
    ofChallenge := rfl
    available := rfl
    active := mem_available.mp (List.mem_of_mem_head? hhead)
    keyed := fun h => absurd rfl h
    inputs := fun m => rfl
    unsubmitted := fun _ => rfl
    undecided := fun _ => rfl
    once := .inl rfl
    rests := fun _ hsub => absurd hsub (by simp)
    grounded := trivial }

/-- Quiet happenings are grounded. -/
theorem grounded_of_quiet {before es : List Happening} (hes : Quiet es) :
    Throughout (Grounded userid ticket c) before es := by
  refine throughout_of_forall ?_
  intro e he b
  have hnone := List.filterMap_eq_nil_iff.mp hes.2 e he
  cases e with
  | submitted _ _ _ => cases hnone
  | _ => trivial

namespace Sound

variable {h es : List Happening} {n n' : Negotiation τ}

/-- What keeps all that a proof depends on keeps a negotiation sound, if nothing else shows. -/
theorem keeps (hs : Sound userid ticket c h n) (hk : Keeps n n') (hes : Quiet es) :
    Sound userid ticket c (h ++ es) n' where
  forUser := hk.userid.trans hs.forUser
  forTicket := hk.ticket.trans hs.forTicket
  ofChallenge := hk.challenge.trans hs.ofChallenge
  available := hk.available.trans hs.available
  active := by
    rw [hk.active]
    exact hs.active
  keyed := by
    intro hne
    obtain ⟨a', ha'⟩ := List.exists_mem_of_ne_nil _ hne
    obtain ⟨i, hi⟩ := List.getElem?_of_mem ha'
    obtain ⟨a, ha, _⟩ := hk.attempts i a' hi
    exact hs.keyed (List.ne_nil_of_mem (List.mem_of_getElem? ha))
  inputs := by
    intro m
    rw [hk.inputs, hes.1.lastTold]
    exact hs.inputs m
  unsubmitted := fun hopen => hk.submission.trans (hs.unsubmitted (hk.closing hopen).1)
  undecided := by
    intro hopen
    obtain ⟨hopen', houtcome⟩ := hk.closing hopen
    exact houtcome.trans (hs.undecided hopen')
  once := by
    rw [hes.proofs, hk.submission]
    exact hs.once
  rests := by
    intro sub hsub
    rw [hk.submission] at hsub
    obtain ⟨hoffers, hrests⟩ := hs.rests sub hsub
    exact ⟨hoffers, hrests.append hes.1⟩
  grounded := throughout_append.mpr ⟨hs.grounded, grounded_of_quiet hes⟩

/-- The submission goes on. One that was begun stays so. -/
theorem setSubmission (hs : Sound userid ticket c h n)
    (f : Task Submission.Wait Unit → Task Submission.Wait Unit)
    (hf : ∀ t : Task Submission.Wait Unit, t.start ≠ .first → (f t).start ≠ .first) :
    Sound userid ticket c h (n.setSubmission f) where
  forUser := hs.forUser
  forTicket := hs.forTicket
  ofChallenge := hs.ofChallenge
  available := hs.available
  active := hs.active
  keyed := hs.keyed
  inputs := hs.inputs
  unsubmitted := by
    intro hopen
    exact Option.map_eq_none_iff.mpr (hs.unsubmitted hopen)
  undecided := hs.undecided
  once := by
    obtain hnone | ⟨sub, hsub, hbegun, hproofs⟩ := hs.once
    · exact .inl hnone
    · exact .inr ⟨{ sub with task := f sub.task }, by simp [Negotiation.setSubmission, hsub],
        hf _ hbegun, hproofs⟩
  rests := by
    intro sub' hsub'
    obtain ⟨sub, hsub, rfl⟩ := Option.map_eq_some_iff.mp hsub'
    exact hs.rests sub hsub
  grounded := hs.grounded

/-- A submission begins with a call of the ticket service, and is begun from then on. -/
theorem submits (hs : Sound userid ticket c h n) {sub : Submission τ}
    (hsub : n.submission = some sub) (hfirst : sub.task.start = .first)
    {f : Task Submission.Wait Unit → Task Submission.Wait Unit} (hf : (f sub.task).start ≠ .first)
    (hes : Quiet es) :
    Sound userid ticket c (h ++ .submitted n.userid n.ticket sub.proof.text :: es)
      (n.setSubmission f) := by
  obtain ⟨hoffers, hrests⟩ := hs.rests sub hsub
  have hproofs : proofs h = [] := by
    obtain hnone | ⟨sub', hsub', hbegun, _⟩ := hs.once
    · exact hnone
    · rw [hsub] at hsub'
      cases hsub'
      exact absurd hfirst hbegun
  have htold : Untold [.submitted n.userid n.ticket sub.proof.text] := fun _ => rfl
  have hsubmitted : Sound userid ticket c (h ++ [.submitted n.userid n.ticket sub.proof.text])
      (n.setSubmission f) := {
    forUser := hs.forUser
    forTicket := hs.forTicket
    ofChallenge := hs.ofChallenge
    available := hs.available
    active := hs.active
    keyed := hs.keyed
    inputs := by
      intro m
      rw [htold.lastTold]
      exact hs.inputs m
    unsubmitted := by
      intro hopen
      have hnone := hs.unsubmitted hopen
      rw [hsub] at hnone
      cases hnone
    undecided := hs.undecided
    once := by
      refine .inr ⟨{ sub with task := f sub.task }, by simp [Negotiation.setSubmission, hsub], hf, ?_⟩
      rw [proofs_append, hproofs]
      rfl
    rests := by
      intro sub' hsub'
      obtain ⟨sub'', hsub'', rfl⟩ := Option.map_eq_some_iff.mp hsub'
      rw [hsub] at hsub''
      cases hsub''
      exact ⟨hoffers, hrests.append htold⟩
    grounded := by
      refine throughout_append.mpr ⟨hs.grounded, ⟨hs.forUser, hs.forTicket, ?_⟩, trivial⟩
      exact ⟨sub.proof, rfl, hoffers, hrests⟩ }
  have happend : h ++ .submitted n.userid n.ticket sub.proof.text :: es =
      (h ++ [.submitted n.userid n.ticket sub.proof.text]) ++ es := by simp
  rw [happend]
  exact hsubmitted.keeps (.refl _) hes

theorem begins (hs : Sound userid ticket c h n) (hkey : c.offers .webauthn = true)
    (whenEnded : List (Turn τ)) : Sound userid ticket c h (n.begin whenEnded) :=
  { hs with keyed := fun _ => hkey }

theorem selects (hs : Sound userid ticket c h n) (hopen : n.stage.isOpen = true) {m : Method}
    (hm : m ∈ n.available) (stage : Stage) :
    Sound userid ticket c h { n with active := m, stage } :=
  { hs with
    active := mem_available.mp (hs.available ▸ hm)
    unsubmitted := fun _ => hs.unsubmitted hopen
    undecided := fun _ => hs.undecided hopen }

theorem tells (hs : Sound userid ticket c h n) (hopen : n.stage.isOpen = true) (value : String)
    (stage : Stage) :
    Sound userid ticket c (h ++ [.told n.active value])
      { n with
        inputs := fun m => if m = n.active then some value else n.inputs m
        inputError := none
        stage } where
  forUser := hs.forUser
  forTicket := hs.forTicket
  ofChallenge := hs.ofChallenge
  available := hs.available
  active := hs.active
  keyed := hs.keyed
  inputs := by
    intro m
    have hm : lastTold m [.told n.active value] = if m = n.active then some value else none := by
      by_cases heq : n.active = m
      · simp [lastTold, Happening.toldFor?, heq]
      · simp [lastTold, Happening.toldFor?, heq, Ne.symm heq]
    rw [lastTold_append, hm]
    by_cases heq : m = n.active
    · simp only [if_pos heq, Option.some_or]
    · simpa only [if_neg heq, Option.none_or] using hs.inputs m
  unsubmitted := fun _ => hs.unsubmitted hopen
  undecided := fun _ => hs.undecided hopen
  once := by
    have hnone : proofs [.told n.active value] = [] := rfl
    rw [proofs_append, hnone, List.append_nil]
    exact hs.once
  rests := by
    intro sub hsub
    rw [hs.unsubmitted hopen] at hsub
    cases hsub
  grounded := throughout_append.mpr ⟨hs.grounded, trivial, trivial⟩

/-- A proof that rests on what showed is accepted while one is wanted. -/
theorem accepts (hs : Sound userid ticket c h n) (hopen : n.stage.isOpen = true) (hes : Quiet es)
    {p : Proof} (hoffers : c.offers p.method = true) (hrests : RestsOn c (h ++ es) p)
    (whenEnded : Turn τ) : Sound userid ticket c (h ++ es) (n.accept p whenEnded) := by
  obtain ⟨n', hk, hstage, _, heq⟩ := Keeps.accept n p whenEnded
  have hclosed (stage : Stage) (h : stage.isOpen = true) (hsub : n'.stage = stage) : False := by
    rw [← hsub, hstage] at h
    cases h
  rw [heq]
  exact { hs.keeps hk hes with
    unsubmitted := fun ho => (hclosed _ ho rfl).elim
    undecided := fun ho => (hclosed _ ho rfl).elim
    once := by
      left
      rw [hes.proofs]
      obtain hnone | ⟨sub, hsub, _⟩ := hs.once
      · exact hnone
      · rw [hs.unsubmitted hopen] at hsub
        cases hsub
    rests := by
      intro sub hsub
      cases hsub
      exact ⟨hoffers, hrests⟩ }

/-- Input of the right shape is what was told last. -/
theorem restsOn_input (hs : Sound userid ticket c h n) (htext : n.active.takesText = true)
    (hshape : n.active.accepts (n.input n.active) = true) :
    RestsOn c h ⟨n.active, n.input n.active⟩ := by
  have htold : lastTold n.active h = some (n.input n.active) := by
    rw [← hs.inputs n.active]
    cases hi : n.inputs n.active with
    | some value => simp [Negotiation.input, hi]
    | none =>
      have hempty : n.input n.active = "" := by simp [Negotiation.input, hi]
      rw [hempty, Method.accepts_empty] at hshape
      cases hshape
  unfold RestsOn
  dsimp only
  split
  · rename_i hkey
    rw [hkey] at htext
    cases htext
  · exact ⟨htold, hshape⟩

/-- The proof made of an assertion rests on it. -/
theorem restsOn_assertion (hs : Sound userid ticket c h n) (hkey : c.offers .webauthn = true)
    (assertion : Key.Assertion) :
    RestsOn c (h ++ [.replied (.assertion assertion)]) (assertion.proof n.keyText) := by
  obtain ⟨key, hc⟩ := Option.isSome_iff_exists.mp hkey
  refine ⟨key, assertion, hc, by simp, ?_⟩
  simp [Key.Assertion.proof, Key.Assertion.payload, Negotiation.keyText, hs.ofChallenge, hc]

/-- The call of the ticket service comes to its end at once. -/
theorem submits_settle (hs : Sound userid ticket c h n) {sub : Submission τ}
    (hsub : n.submission = some sub) (hfirst : sub.task.start = .first)
    (result : Except Failure Ticket) (hes : Quiet es) :
    Sound userid ticket c (h ++ .submitted n.userid n.ticket sub.proof.text :: es)
      (n.settle result) := by
  obtain ⟨n', how, hk, heq⟩ := Keeps.settle n result
  rw [heq, ← hk.userid, ← hk.ticket]
  have hs' : Sound userid ticket c (h ++ []) n' := hs.keeps hk ⟨fun _ => rfl, rfl⟩
  rw [List.append_nil] at hs'
  exact hs'.submits (hk.submission.trans hsub) hfirst (by simp [Task.finished, Task.start]) hes

/-- The call of the ticket service comes to its end later. -/
theorem settle (hs : Sound userid ticket c h n) (result : Except Failure Ticket) (hes : Quiet es) :
    Sound userid ticket c (h ++ es) (n.settle result) := by
  obtain ⟨n', how, hk, heq⟩ := Keeps.settle n result
  rw [heq]
  exact (hs.keeps hk hes).setSubmission _ fun _ _ => by simp [Task.finished, Task.start]

/-- Every change keeps a negotiation sound. -/
theorem change (hs : Sound userid ticket c h n) (hc : Change n es n') :
    Sound userid ticket c (h ++ es) n' := by
  have hnil : Quiet [] := ⟨fun _ => rfl, rfl⟩
  have hkey {i : Nat} {a : Attempt τ} (ha : n.attempts[i]? = some a) :
      c.offers .webauthn = true := by
    apply hs.keyed
    rintro hempty
    rw [hempty] at ha
    cases ha
  cases hc with
  | idle => exact hs.keeps (.refl n) hnil
  | waits whenClosed whenDone =>
    exact hs.keeps (.aside n whenClosed whenDone _ _ _) hnil
  | starts =>
    have hs' : Sound userid ticket c (h ++ [.started]) n :=
      hs.keeps (.refl n) ⟨fun _ => rfl, rfl⟩
    split
    · rename_i hkey
      refine hs'.begins ?_ []
      rw [hs.available] at hkey
      exact mem_available.mp (by simpa using hkey)
    · exact hs'
  | selects m hopen hm hne =>
    rw [List.append_nil]
    have hs' : Sound userid ticket c h (if n.active = .webauthn then n.cancelKey else n) := by
      split
      · simpa using hs.keeps (.cancelKey n) hnil
      · exact hs
    refine hs'.selects ?_ ?_ _
    · split <;> simpa using hopen
    · split <;> simpa using hm
  | told value hopen htext => exact hs.tells hopen value _
  | closes => exact hs.keeps (.closes n) hnil
  | retries caller hopen hactive hidle =>
    rw [List.append_nil]
    refine hs.begins ?_ _
    rw [← hactive]
    exact hs.active
  | mistypes hopen htext hshape => exact hs.keeps (.aside n _ _ _ _ _) hnil
  | confirms caller hopen htext hshape =>
    have hs' := hs.keeps (.aside n n.whenClosed n.whenDone none n.keyError n.closed) hnil
    rw [List.append_nil] at hs' ⊢
    have hacc := hs'.accepts hopen hnil hs.active (p := ⟨n.active, n.input n.active⟩)
      (by simpa using hs.restsOn_input htext hshape) (.caller caller)
    simpa using hacc
  | asks i a request onCancel onLateCancel ha hu => exact hs.keeps (.awaits n _ ha hu) hnil
  | refused i a r ha hu =>
    exact hs.keeps ((Keeps.keyFailed n r).trans (.ends _ i _)) ⟨fun _ => rfl, rfl⟩
  | keyCrashed i a f ha hu => exact hs.keeps (.ends n i _) ⟨fun _ => rfl, rfl⟩
  | asserts i a assertion ha hu hopen =>
    rw [setTask_accept n rfl]
    have hs' := hs.keeps (.awaits n .submission ha hu) hnil
    rw [List.append_nil] at hs'
    exact hs'.accepts hopen ⟨fun _ => rfl, rfl⟩ (hkey ha) (hs.restsOn_assertion (hkey ha) assertion) _
  | assertsLate i a assertion ha hu hopen => exact hs.keeps (.ends n i _) ⟨fun _ => rfl, rfl⟩
  | stops i a how ha hhow => exact hs.keeps (.ends n i _) hnil
  | wakes i news hnews => exact hs.keeps (.wakes n hnews) hnil
  | notices i f hf => exact hs.keeps (.notice n f) ⟨fun _ => rfl, rfl⟩
  | sends sub number r hsub hfirst =>
    exact hs.submits hsub hfirst (by simp [Task.waitingFor, Task.start]) ⟨fun _ => rfl, rfl⟩
  | exchanges sub number r o client hsub hfirst =>
    exact hs.submits_settle hsub hfirst _ ⟨fun _ => rfl, rfl⟩
  | balks sub f hsub hfirst => exact hs.submits_settle hsub hfirst _ ⟨fun _ => rfl, rfl⟩
  | responds sub number r o hsub hw =>
    have hs' : Sound userid ticket c (h ++ [.responded number o]) n :=
      hs.keeps (.refl n) ⟨fun _ => rfl, rfl⟩
    exact hs'.setSubmission _ fun _ => Task.start_wake_ne_first _
  | receives sub r o client hsub hnews => exact hs.settle _ ⟨fun _ => rfl, rfl⟩

/-- Every run keeps a negotiation sound. -/
theorem moves (script : Nat → Http.Outcome) {s : Scene τ ν}
    (hs : Sound userid ticket c h s.toNegotiation) (ms : List (Move τ ν)) :
    Sound userid ticket c (h ++ s.history script ms) (s.moves script ms).toNegotiation :=
  Scene.moves_induction script (P := fun h s => Sound userid ticket c h s.toNegotiation)
    (fun _ s m _ hs => hs.change (s.change_move script m)) hs

end Sound

/-- What comes of a challenge is sound at every point of a run. -/
theorem sound_moves {n : Negotiation τ} (hn : ofChallenge userid ticket c = .ok n) (o : Outside)
    (script : Nat → Http.Outcome) (ms : List (Move τ ν)) :
    let s : Scene τ ν := { toOutside := o, toNegotiation := n }
    Sound userid ticket c (s.history script ms) (s.moves script ms).toNegotiation := by
  intro s
  have hs : Sound userid ticket c [] s.toNegotiation := sound_ofChallenge hn
  exact hs.moves script ms

end

/-! ## Main results -/

/-- Over every run of a negotiation of a challenge the ticket service is called at most once, and it
is called for the user and the ticket of the challenge, with a proof by a method on offer: the last
input of that method in its full shape, or an assertion of a security key that names the challenge
in the text in which it was sent. -/
theorem submitted_once_and_grounded {userid ticket : String} {c : Challenge} {n : Negotiation τ}
    (hn : ofChallenge userid ticket c = .ok n) (o : Outside) (script : Nat → Http.Outcome)
    (ms : List (Move τ ν)) :
    (proofs (Scene.history script { toOutside := o, toNegotiation := n } ms)).length ≤ 1 ∧
      ∀ before u t proof after,
        Scene.history script { toOutside := o, toNegotiation := n } ms =
          before ++ .submitted u t proof :: after →
        u = userid ∧ t = ticket ∧ ∃ m payload, proof = m.word ++ ":" ++ payload ∧
          c.offers m = true ∧ RestsOn c before ⟨m, payload⟩ := by
  have hs := (sound_ofChallenge hn).moves script
    (s := ({ toOutside := o, toNegotiation := n } : Scene τ ν)) ms
  rw [List.nil_append] at hs
  constructor
  · obtain hnone | ⟨sub, _, _, hone⟩ := hs.once
    · simp [hnone]
    · simp [hone]
  · intro before u t proof after hsplit
    have hg := hs.grounded
    rw [hsplit, throughout_append, List.nil_append] at hg
    obtain ⟨hu, ht, p, hp, hoffers, hrests⟩ := hg.2.1
    exact ⟨hu, ht, p.method, p.payload, hp, hoffers, hrests⟩

/-- A challenge for a security key or a time code. -/
def sampleChallenge : Challenge where
  webauthn := some {
    publicKey := {
      challenge := Text.ofString "Y2hh"
      timeout := none
      rpId := none
      allowCredentials := []
      userVerification := none
      extensions := none
      extra := [] }
    extra := [] }
  totp := true
  recovery := none
  extra := []

/-- The negotiation of that challenge. -/
def sample : Negotiation Unit where
  userid := "root@pam"
  ticket := "PBS:!tfa!"
  challenge := sampleChallenge
  options := some {
    challenge := [99, 104, 97]
    timeout := none
    rpId := none
    credentials := []
    userVerification := none
    extensions := none }
  available := [.webauthn, .totp]
  active := .webauthn

theorem ofChallenge_sample :
    ofChallenge "root@pam" "PBS:!tfa!" sampleChallenge = .ok sample := rfl

/-- A backend that keeps its clients waiting, and a security key that fails when its request is
cancelled. -/
def sampleOutside : Outside where
  client := { settings := {} }
  backend := fun _ => none
  adapter := some fun _ => .waits (.ends (.crashed (.crash "driver bug"))) .stops

/-- A user who turns from the security key to a time code. -/
def sampleMoves : List (Move Unit Unit) :=
  [.turn (.attempt 0), .act (.select .totp), .act (.input "123456"), .confirm (), .turn .submission]

/-- A backend that answers nothing that can be read. -/
def sampleScript : Nat → Http.Outcome := fun _ => .error .undecodableBytes

theorem history_sample :
    Scene.history sampleScript
        ({ toOutside := sampleOutside, toNegotiation := sample } : Scene Unit Unit)
        (.act .start :: sampleMoves) =
      [.started, .told .totp "123456"] ++ .submitted "root@pam" "PBS:!tfa!" "totp:123456" ::
        [.requested 0] := by
  rfl

theorem submitted_once_and_grounded_totp :
    ofChallenge "root@pam" "PBS:!tfa!" sampleChallenge = .ok sample ∧
      ∃ m payload, "totp:123456" = m.word ++ ":" ++ payload ∧ sampleChallenge.offers m = true ∧
        RestsOn sampleChallenge [.started, .told .totp "123456"] ⟨m, payload⟩ := by
  obtain ⟨_, hgrounded⟩ := submitted_once_and_grounded ofChallenge_sample sampleOutside
    sampleScript (.act .start :: sampleMoves)
  exact ⟨ofChallenge_sample, (hgrounded _ _ _ _ _ history_sample).2.2⟩

end Negotiation

end SecondFactor
