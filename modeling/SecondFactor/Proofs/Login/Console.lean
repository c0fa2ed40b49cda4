import SecondFactor.Login.Console
import SecondFactor.Proofs.Negotiation.Meanwhile
import SecondFactor.Proofs.Negotiation.Refusing

/-! # Rounds at a console

A dialog at a console goes in rounds, one for each answer. The relations here say what happens in a
round, without the tree that the dialog is; every run of the dialog is shown to follow them. -/

namespace SecondFactor.Login.Console

open Negotiation (Dialog Room View)

/-! ## One round -/

/-- The user is told how things are, and asked. -/
def asked (r : Room Line) : Room Line :=
  r.onScene (·.note ((status r.view ++ [Line.asked (question r.view)]).map .noted))

/-- The user is warned, and nothing else happens. -/
def warned (e : LoginError) (r : Room Line) : Room Line :=
  r.onScene (·.note [.noted (.said .warning e.message)])

/-- What is left of an answer without the blanks around it. -/
def Answer.content (a : Answer) : String := Blank.strip a.text

variable (script : Nat → Http.Outcome)

/-- Whether a question was put and answered. Much may happen before an answer that is late. -/
inductive Answered (a : Answer) (r : Room Line) : Room Line → Prop where
  | now (hlate : a.late = false) : Answered a r (asked r)
  | late (hlate : a.late = true) {t : Task (Dialog.Wait Line) Unit} {r' : Room Line}
      (h : Room.Meanwhile script { asked r with dialog := t } r') : Answered a r r'

/-- Whether the active method was confirmed once. A refusal is a warning. Much may happen before the
proof is settled or the security key has replied. -/
inductive Confirmed (r : Room Line) : Room Line → Prop where
  | refused {e : LoginError} (h : r.toScene.confirm (.dialogNotified r.confirmed) = .error e)
      (hkind : e.kind = .wrongState) : Confirmed r (warned e r)
  | returned {s : Negotiation.Scene Room.Turn Line}
      (h : r.toScene.confirm (.dialogNotified r.confirmed) = .ok (false, s)) :
      Confirmed r { r with toScene := s }
  | waited {s : Negotiation.Scene Room.Turn Line} {t : Task (Dialog.Wait Line) Unit} {r' : Room Line}
      (h : r.toScene.confirm (.dialogNotified r.confirmed) = .ok (true, s))
      (h' : Room.Meanwhile script { r with
        toScene := s
        confirmed := r.confirmed + 1
        dialog := t } r') : Confirmed r r'

variable {script}

/-- Whether an answer that names no method leads to a room in which the active method is confirmed: at
once for the security key, and with the answer as its input for any other method. -/
inductive Prepares (answer : String) (r : Room Line) : Room Line → Prop where
  | key (hword : Method.ofWord? answer = none) (hactive : r.active = .webauthn) :
      Prepares answer r r
  | input {s : Negotiation.Scene Room.Turn Line} (hword : Method.ofWord? answer = none)
      (hactive : r.active ≠ .webauthn) (h : r.toScene.setInput answer = .ok s) :
      Prepares answer r { r with toScene := s }

variable (script)

/-- Whether what an answer asks for was done. What is refused is a warning. -/
inductive Obeyed (answer : String) (r : Room Line) : Room Line → Prop where
  | selected {m : Method} {s : Negotiation.Scene Room.Turn Line}
      (hword : Method.ofWord? answer = some m) (h : r.toScene.select m = .ok s) :
      Obeyed answer r { r with toScene := s }
  | notSelected {m : Method} {e : LoginError} (hword : Method.ofWord? answer = some m)
      (h : r.toScene.select m = .error e) (hkind : e.kind = .wrongState) :
      Obeyed answer r (warned e r)
  | notSet {e : LoginError} (hword : Method.ofWord? answer = none) (hactive : r.active ≠ .webauthn)
      (h : r.toScene.setInput answer = .error e) (hkind : e.kind = .wrongState) :
      Obeyed answer r (warned e r)
  | confirmed {r₁ r' : Room Line} (hprepares : Prepares answer r r₁)
      (hconfirmed : Confirmed script r₁ r') : Obeyed answer r r'

/-- Whether a question was put that the user answered, before the negotiation was over. -/
structure Heard (a : Answer) (r r' : Room Line) : Prop where
  undone : r.done = false
  answered : Answered script a r r'

/-- Whether one answer was asked for and obeyed. -/
inductive Round (a : Answer) (r r' : Room Line) : Prop where
  | intro {r₁ : Room Line} (heard : Heard script a r r₁) (hanswer : a.content ≠ "")
      (hundone : r₁.done = false) (obeyed : Obeyed script a.content r₁ r')

/-- Whether some answers were asked for and obeyed, each in a round of its own. -/
inductive Rounds : Room Line → List Answer → Room Line → Prop where
  | nil (r : Room Line) : Rounds r [] r
  | cons {r r' r'' : Room Line} {a : Answer} {rest : List Answer} (h : Round script a r r')
      (h' : Rounds r' rest r'') : Rounds r (a :: rest) r''

/-! ## The tree of a dialog -/

/-- The dialog with a user who gives these answers, until there are no more of them. -/
def answering : List Answer → Dialog Line
  | [] => .ends (.returned ())
  | a :: rest => round a (answering rest)

theorem dialog_eq (answers : List Answer) : dialog answers = answering (answers ++ [.empty]) := by
  induction answers with
  | nil => rfl
  | cons a rest ih => rw [dialog, ih, List.cons_append, answering]

/-- How a dialog goes on with an answer. -/
def react (a : Answer) (next : Dialog Line) : Dialog Line :=
  if a.content = "" then .ends (.returned ())
  else .looks fun v => if v.done then .ends (.returned ()) else obey a.content next

/-- How a dialog goes on after it confirmed. -/
def resume (next : Dialog Line) : Ending Unit → Dialog Line
  | .returned _ => next
  | .failed f =>
    match f.loginError? with
    | some e => warn e next
    | none => .ends (.failed f)
  | .cancelled => .ends .cancelled

/-- What a dialog waits for while a late answer is awaited. -/
def Answer.wait (a : Answer) (r : Room Line) (next : Dialog Line) : Dialog.Wait Line :=
  .outside (.asked (question r.view)) (react a next) (.ends .cancelled)

theorem told_wait (a : Answer) (r : Room Line) (next : Dialog Line) :
    (a.wait r next).told = react a next := by
  rw [Answer.wait, Dialog.Wait.told]

theorem told_confirmation (k : Nat) (next : Dialog Line) :
    (Dialog.Wait.confirmation k (resume next)).told = next :=
  rfl

theorem proceed_write (lines : List Line) (next : Dialog Line) (r : Room Line) :
    Room.proceed (write lines next) r =
      Room.proceed next (r.onScene (·.note (lines.map .noted))) := by
  induction lines generalizing r with
  | nil => simp [write, Room.onScene, Negotiation.Scene.note]
  | cons line lines ih =>
    have hnotes : (r.onScene (·.note [.noted line])).onScene (·.note (lines.map .noted)) =
        r.onScene (·.note ((line :: lines).map .noted)) := by
      simp [Room.onScene, Negotiation.Scene.note]
    rw [← hnotes, ← ih]
    rfl

theorem proceed_done (a : Answer) (next : Dialog Line) {r : Room Line} (h : r.done = true) :
    Room.proceed (round a next) r = r.endDialog (.returned ()) := by
  have hview : r.view.done = true := h
  simp only [round, Room.proceed, hview, if_true]

/-- An answer is awaited, or there. -/
theorem proceed_round (a : Answer) (next : Dialog Line) {r : Room Line} (h : r.done = false) :
    Room.proceed (round a next) r =
      if a.late then { asked r with dialog := .waitingFor (a.wait r next) }
      else Room.proceed (react a next) (asked r) := by
  have hview : r.view.done = false := h
  have hround : Room.proceed (round a next) r =
      Room.proceed (write (status r.view) (ask (question r.view) a (react a next))) r := by
    rw [round, Room.proceed, if_neg (by simp [hview])]
    rfl
  have hask (d : Dialog Line) : write (status r.view) (ask (question r.view) a d) =
      write (status r.view ++ [.asked (question r.view)])
        (if a.late then .waits (.asked (question r.view)) d (.ends .cancelled) else d) := by
    rw [write, write, List.foldr_append]
    rfl
  rw [hround, hask, proceed_write, ← asked, Answer.wait]
  cases a.late with
  | true => rw [if_pos rfl, if_pos rfl, Room.proceed]
  | false => rw [if_neg Bool.false_ne_true, if_neg Bool.false_ne_true]

theorem proceed_confirm (next : Dialog Line) (r : Room Line) :
    Room.proceed (confirm next) r =
      match r.toScene.confirm (.dialogNotified r.confirmed) with
      | .error e => Room.proceed next (warned e r)
      | .ok (false, s) => Room.proceed next { r with toScene := s }
      | .ok (true, s) =>
        { r with
          toScene := s
          confirmed := r.confirmed + 1
          dialog := .waitingFor (.confirmation r.confirmed (resume next)) } := by
  have hconfirm : confirm next = .confirms (resume next) := rfl
  rw [hconfirm, Room.proceed]
  cases hcalled : r.toScene.confirm (.dialogNotified r.confirmed) with
  | error e => rfl
  | ok called =>
    obtain ⟨waits, s⟩ := called
    cases waits <;> rfl

theorem proceed_acts (a : Negotiation.Action) (next : Option LoginError → Dialog Line)
    (r : Room Line) :
    Room.proceed (.acts a next) r =
      match r.toScene.act a with
      | .error e => Room.proceed (next (some e)) r
      | .ok s => Room.proceed (next none) { r with toScene := s } := by
  rw [Room.proceed, Room.act]
  cases r.toScene.act a <;> rfl

/-! ## Where a dialog stands -/

/-- Whether a dialog waits in the round for an answer: for the answer itself, or for what its
confirmation set off. The other answers are left for later. -/
inductive Waits (a : Answer) (rest : List Answer) (r : Room Line) : Room Line → Prop where
  | asks {r' : Room Line} (hundone : r.done = false) (hlate : a.late = true)
      (h : Room.Meanwhile script
        { asked r with dialog := .waitingFor (a.wait r (answering rest)) } r') : Waits a rest r r'
  | confirms {r₁ r₂ r' : Room Line} {s : Negotiation.Scene Room.Turn Line}
      (heard : Heard script a r r₁) (hanswer : a.content ≠ "") (hundone : r₁.done = false)
      (hprepares : Prepares a.content r₁ r₂)
      (hconfirm : r₂.toScene.confirm (.dialogNotified r₂.confirmed) = .ok (true, s))
      (h : Room.Meanwhile script { r₂ with
        toScene := s
        confirmed := r₂.confirmed + 1
        dialog := .waitingFor (.confirmation r₂.confirmed (resume (answering rest))) } r') :
      Waits a rest r r'

/-- Whether a dialog leaves in the round for an answer: the negotiation was over before the question
or after the answer, or the answer was blank. -/
inductive Leaves (a : Answer) (r : Room Line) : Room Line → Prop where
  | unasked (hdone : r.done = true) : Leaves a r r
  | answered {r' : Room Line} (heard : Heard script a r r')
      (h : a.content = "" ∨ r'.done = true) : Leaves a r r'

/-- Where a dialog stands in the round for the first of some answers. -/
inductive Stands (r : Room Line) : List Answer → Room Line → Prop where
  | waits {a : Answer} {rest : List Answer} {r' : Room Line} (h : Waits script a rest r r') :
      Stands r (a :: rest) r'
  | left {a : Answer} {rest : List Answer} {r₁ r' : Room Line} (h : Leaves script a r r₁)
      (h' : Room.Meanwhile script (r₁.endDialog (.returned ())) r') : Stands r (a :: rest) r'
  | spent {r' : Room Line} (h : Room.Meanwhile script (r.endDialog (.returned ())) r') :
      Stands r [] r'

/-- Whether a dialog went through rounds for the first ones of some answers, and stands in the round
for the next one. -/
inductive Follows : Room Line → List Answer → Room Line → Prop where
  | stands {r r' : Room Line} {as : List Answer} (h : Stands script r as r') : Follows r as r'
  | round {r r₁ r' : Room Line} {a : Answer} {rest : List Answer} (h : Round script a r r₁)
      (h' : Follows r₁ rest r') : Follows r (a :: rest) r'

variable {script}

theorem Follows.exists_stands {r r' : Room Line} {as : List Answer} (h : Follows script r as r') :
    ∃ before rest r₁, as = before ++ rest ∧ Rounds script r before r₁ ∧
      Stands script r₁ rest r' := by
  induction h with
  | stands h => exact ⟨[], _, _, rfl, .nil _, h⟩
  | round h _ ih =>
    obtain ⟨before, rest, r₁, rfl, hrounds, hstands⟩ := ih
    exact ⟨_ :: before, rest, r₁, rfl, .cons h hrounds, hstands⟩

section

variable {a : Answer} {rest : List Answer} {r r₁ r₂ : Room Line}

/-- Once the rest of the answers is followed in any room, so is a confirmation. -/
theorem Follows.confirm (hrest : ∀ r, Follows script r rest (Room.proceed (answering rest) r))
    (heard : Heard script a r r₁) (hanswer : a.content ≠ "") (hundone : r₁.done = false)
    (hprepares : Prepares a.content r₁ r₂) :
    Follows script r (a :: rest) (Room.proceed (confirm (answering rest)) r₂) := by
  have hround {r' : Room Line} (h : Confirmed script r₂ r') : Round script a r r' :=
    .intro heard hanswer hundone (.confirmed hprepares h)
  rw [proceed_confirm]
  split
  · rename_i e h
    exact .round (hround (.refused h (Negotiation.Scene.kind_of_confirm h))) (hrest _)
  · rename_i s h
    exact .round (hround (.returned h)) (hrest _)
  · rename_i s h
    exact .stands (.waits (.confirms heard hanswer hundone hprepares h .refl))

theorem Follows.obey (hrest : ∀ r, Follows script r rest (Room.proceed (answering rest) r))
    (heard : Heard script a r r₁) (hanswer : a.content ≠ "") (hundone : r₁.done = false) :
    Follows script r (a :: rest) (Room.proceed (obey a.content (answering rest)) r₁) := by
  have hround {r' : Room Line} (h : Obeyed script a.content r₁ r') : Round script a r r' :=
    .intro heard hanswer hundone h
  unfold Console.obey
  cases hword : Method.ofWord? a.content with
  | some m =>
    dsimp only
    rw [proceed_acts]
    split
    · rename_i e h
      exact .round (hround (.notSelected hword h (Negotiation.Scene.kind_of_act h))) (hrest _)
    · rename_i s h
      exact .round (hround (.selected hword h)) (hrest _)
  | none =>
    by_cases hactive : r₁.active = .webauthn
    · have hview : r₁.view.active = .webauthn := hactive
      simp only [Room.proceed, hview, if_true]
      exact .confirm hrest heard hanswer hundone (.key hword hactive)
    · have hview : r₁.view.active ≠ .webauthn := hactive
      simp only [Room.proceed.eq_3, hview, if_false]
      rw [proceed_acts]
      split
      · rename_i e h
        exact .round (hround (.notSet hword hactive h (Negotiation.Scene.kind_of_act h))) (hrest _)
      · rename_i s h
        exact .confirm hrest heard hanswer hundone (.input hword hactive h)

/-- With an answer a dialog ends, or does what the answer asks for. -/
theorem Follows.react (hrest : ∀ r, Follows script r rest (Room.proceed (answering rest) r))
    (heard : Heard script a r r₁) :
    Follows script r (a :: rest) (Room.proceed (react a (answering rest)) r₁) := by
  unfold Console.react
  by_cases hanswer : a.content = ""
  · rw [if_pos hanswer]
    exact .stands (.left (.answered heard (.inl hanswer)) .refl)
  · rw [if_neg hanswer]
    cases hdone : r₁.done with
    | true =>
      have hview : r₁.view.done = true := hdone
      simp only [Room.proceed, hview, if_true]
      exact .stands (.left (.answered heard (.inr hdone)) .refl)
    | false =>
      have hview : r₁.view.done = false := hdone
      simp only [Room.proceed, hview, Bool.false_eq_true, if_false]
      exact .obey hrest heard hanswer hdone

end

/-- Whatever a dialog does at once, it follows the answers. -/
theorem follows_answering (as : List Answer) (r : Room Line) :
    Follows script r as (Room.proceed (answering as) r) := by
  induction as generalizing r with
  | nil => exact .stands (.spent .refl)
  | cons a rest ih =>
    rw [answering]
    cases hdone : r.done with
    | true =>
      rw [proceed_done a _ hdone]
      exact .stands (.left (.unasked hdone) .refl)
    | false =>
      rw [proceed_round a _ hdone]
      cases hlate : a.late with
      | true =>
        rw [if_pos rfl]
        exact .stands (.waits (.asks hdone hlate .refl))
      | false =>
        rw [if_neg Bool.false_ne_true]
        exact .react ih ⟨hdone, .now hlate⟩

/-! ## Runs -/

variable {r r' : Room Line} {as : List Answer}

theorem Waits.ending {a : Answer} {rest : List Answer} (h : Waits script a rest r r') :
    r'.dialog.ending? = none := by
  have hnone {r' : Room Line} {w : Dialog.Wait Line} (h : r'.Awaits w) :
      r'.dialog.ending? = none := by
    rcases h with h | h <;> rw [h] <;> rfl
  cases h with
  | asks _ _ h => exact hnone (h.awaits (.inl rfl))
  | confirms _ _ _ _ _ h => exact hnone (h.awaits (.inl rfl))

theorem Follows.others (h : Follows script r as r') {m : Room.Move Line} (hm : m.isOthers = true) :
    Follows script r as (r'.move script m) := by
  induction h with
  | round h _ ih => exact .round h ih
  | stands h =>
    refine .stands ?_
    cases h with
    | waits h =>
      cases h with
      | asks hundone hlate h => exact .waits (.asks hundone hlate (h.move hm))
      | confirms heard hanswer hundone hprepares hconfirm h =>
        exact .waits (.confirms heard hanswer hundone hprepares hconfirm (h.move hm))
    | left h h' => exact .left h (h'.move hm)
    | spent h => exact .spent (h.move hm)

/-- When it is told what it waits for, a dialog goes on where it was. -/
theorem Waits.runDialog {a : Answer} {rest : List Answer} (h : Waits script a rest r r') :
    Follows script r (a :: rest) r'.runDialog := by
  cases h with
  | asks hundone hlate h =>
    obtain hidle | hnews := Room.runDialog_of_awaits (h.awaits (.inl rfl))
    · rw [hidle]
      exact .stands (.waits (.asks hundone hlate h))
    · rw [hnews, told_wait]
      exact .react (follows_answering rest) ⟨hundone, .late hlate h⟩
  | confirms heard hanswer hundone hprepares hconfirm h =>
    obtain hidle | hnews := Room.runDialog_of_awaits (h.awaits (.inl rfl))
    · rw [hidle]
      exact .stands (.waits (.confirms heard hanswer hundone hprepares hconfirm h))
    · rw [hnews, told_confirmation]
      exact .round (.intro heard hanswer hundone (.confirmed hprepares (.waited hconfirm h)))
        (follows_answering rest _)

theorem Follows.runDialog (h : Follows script r as r') : Follows script r as r'.runDialog := by
  have hidle {r₁ r' : Room Line} (h : Room.Meanwhile script (r₁.endDialog (.returned ())) r') :
      r'.runDialog = r' := by
    have hstart : r'.dialog.start = .idle := congrArg Task.start (h.ending rfl)
    rw [Room.runDialog, hstart]
  induction h with
  | round h _ ih => exact .round h ih
  | stands h =>
    cases h with
    | waits h => exact h.runDialog
    | left h h' =>
      rw [hidle h']
      exact .stands (.left h h')
    | spent h =>
      rw [hidle h]
      exact .stands (.spent h)

/-- Whether a dialog was not begun yet, or follows the answers. -/
def Stood (script : Nat → Http.Outcome) (r : Room Line) (as : List Answer) (r' : Room Line) :
    Prop :=
  (Room.Meanwhile script r r' ∧ r'.script = answering as ∧ r'.dialog = .fresh) ∨
    ∃ r₀, Room.Meanwhile script r r₀ ∧ Follows script r₀ as r'

theorem Stood.runDialog (h : Stood script r as r') : Stood script r as r'.runDialog := by
  obtain ⟨h, hscript, hfresh⟩ | ⟨r₀, h, hfollows⟩ := h
  · have hstart : r'.dialog.start = .first := congrArg Task.start hfresh
    rw [Room.runDialog, hstart, hscript]
    exact .inr ⟨r', h, follows_answering as r'⟩
  · exact .inr ⟨r₀, h, hfollows.runDialog⟩

theorem Stood.move (h : Stood script r as r') {m : Room.Move Line} (hm : m.sparesDialog = true) :
    Stood script r as (r'.move script m) := by
  cases hothers : m.isOthers with
  | true =>
    obtain ⟨h, hscript, hfresh⟩ | ⟨r₀, h, hfollows⟩ := h
    · have hmoved : Room.Meanwhile script r' (r'.move script m) := .move .refl hothers
      obtain ⟨hscript', hfresh'⟩ := hmoved.fresh hfresh
      exact .inl ⟨h.move hothers, hscript'.trans hscript, hfresh'⟩
    · exact .inr ⟨r₀, h, hfollows.others hothers⟩
  | false =>
    have hturn : m = .turn (.caller .dialog) := by
      unfold Room.Move.isOthers at hothers
      split at hothers
      · rfl
      · rw [hm] at hothers
        cases hothers
    rw [hturn]
    exact h.runDialog

theorem stood_moves (script : Nat → Http.Outcome) (r : Room Line) (as : List Answer)
    {ms : List (Room.Move Line)} (hms : ∀ m ∈ ms, m.sparesDialog = true) :
    Stood script (r.letIn (answering as)) as ((r.letIn (answering as)).moves script ms) := by
  induction ms using List.reverseRecOn with
  | nil => exact .inl ⟨.refl, rfl, rfl⟩
  | append_singleton ms m ih =>
    obtain ⟨hms, hm⟩ := List.forall_mem_append.mp hms
    rw [Room.moves_append]
    exact (ih hms).move (hm m (List.mem_singleton_self m))

theorem Rounds.content {as : List Answer} {r r' : Room Line} (h : Rounds script r as r') :
    ∀ a ∈ as, a.content ≠ "" := by
  induction h with
  | nil r => exact List.forall_mem_nil _
  | cons h _ ih =>
    obtain ⟨-, hanswer, -, -⟩ := h
    exact List.forall_mem_cons.mpr ⟨hanswer, ih⟩

/-- Whatever happens meanwhile, a dialog that is not cancelled takes one answer for each question, in
their order, and does what it asks for. It ends when it finds the negotiation over, or is given a blank
answer, and neither fails nor ends in any other way. -/
theorem dialog_follows_answers (script : Nat → Http.Outcome) (r : Room Line) (answers : List Answer)
    (ms : List (Room.Move Line)) (hms : ∀ m ∈ ms, m.sparesDialog = true) :
    let start := r.letIn (dialog answers)
    let r' := start.moves script ms
    (Room.Meanwhile script start r' ∧ r'.dialog = .fresh) ∨
    ∃ r₀ before a rest r₁, Room.Meanwhile script start r₀ ∧
      answers ++ [.empty] = before ++ a :: rest ∧ Rounds script r₀ before r₁ ∧
      (Waits script a rest r₁ r' ∧ r'.dialog.ending? = none ∨
        ∃ r₂, Leaves script a r₁ r₂ ∧ Room.Meanwhile script (r₂.endDialog (.returned ())) r' ∧
          r'.dialog.ending? = some (.returned ())) := by
  rw [dialog_eq]
  intro start r'
  obtain ⟨h, -, hfresh⟩ | ⟨r₀, h, hfollows⟩ := stood_moves script r (answers ++ [.empty]) hms
  · exact .inl ⟨h, hfresh⟩
  · obtain ⟨before, rest, r₁, hanswers, hrounds, hstands⟩ := hfollows.exists_stands
    right
    cases hstands with
    | @waits a rest _ hwaits =>
      exact ⟨r₀, before, a, rest, r₁, h, hanswers, hrounds, .inl ⟨hwaits, hwaits.ending⟩⟩
    | @left a rest r₂ _ hleaves hleft =>
      have hending : r'.dialog.ending? = some (.returned ()) :=
        congrArg Task.ending? (hleft.ending rfl)
      exact ⟨r₀, before, a, rest, r₁, h, hanswers, hrounds, .inr ⟨r₂, hleaves, hleft, hending⟩⟩
    | spent =>
      -- the blank answer behind all others would have been obeyed
      rw [List.append_nil] at hanswers
      have hblank : Answer.empty ∈ before := hanswers ▸ List.mem_concat_self
      exact absurd (by decide +kernel) (hrounds.content _ hblank)

/-- The user switches to the time code after a while, and types one at once. -/
def sampleAnswers : List Answer := [{ text := "totp", late := true }, { text := " 123456 " }]

def sampleMoves : List (Room.Move Line) :=
  [.turn (.caller .dialog), .tell, .turn (.caller .dialog)]

def sampleRun (n : Negotiation Room.Turn) : Room Line :=
  (Room.letIn { toOutside := Negotiation.sampleOutside, toNegotiation := n }
    (dialog sampleAnswers)).moves Negotiation.sampleScript sampleMoves

theorem dialog_follows_answers_totp :
    ∃ n : Negotiation Room.Turn,
      Negotiation.ofChallenge "root@pam" "PBS:!tfa!" Negotiation.sampleChallenge = .ok n ∧
      (∀ m ∈ sampleMoves, m.sparesDialog = true) ∧ (sampleRun n).stage = .submitting ∧
        ∃ r₀ before a rest r₁, sampleAnswers ++ [.empty] = before ++ a :: rest ∧
          Rounds Negotiation.sampleScript r₀ before r₁ ∧
          Waits Negotiation.sampleScript a rest r₁ (sampleRun n) := by
  obtain ⟨n, hn⟩ : ∃ n : Negotiation Room.Turn,
      Negotiation.ofChallenge "root@pam" "PBS:!tfa!" Negotiation.sampleChallenge = .ok n := ⟨_, rfl⟩
  have hrun : (Negotiation.ofChallenge "root@pam" "PBS:!tfa!"
      Negotiation.sampleChallenge).toOption.map (fun n =>
        ((sampleRun n).stage, (sampleRun n).dialog.awaits?.isSome)) = some (.submitting, true) := by
    decide +kernel
  rw [hn] at hrun
  obtain ⟨hstage, hawaits⟩ := Prod.mk.inj (Option.some.inj hrun)
  have hms : ∀ m ∈ sampleMoves, m.sparesDialog = true := by
    simp [sampleMoves, Room.Move.sparesDialog]
  refine ⟨n, hn, hms, hstage, ?_⟩
  unfold sampleRun at hawaits ⊢
  obtain ⟨-, hfresh⟩ | ⟨r₀, before, a, rest, r₁, -, hanswers, hrounds, hstands⟩ :=
    dialog_follows_answers Negotiation.sampleScript
      { toOutside := Negotiation.sampleOutside, toNegotiation := n } sampleAnswers sampleMoves hms
  · rw [hfresh] at hawaits
    cases hawaits
  · obtain ⟨hwaits, -⟩ | ⟨r₂, -, -, hending⟩ := hstands
    · exact ⟨r₀, before, a, rest, r₁, hanswers, hrounds, hwaits⟩
    · rw [Task.awaits_of_isOver (by rw [Task.isOver, hending, Option.isSome_some])] at hawaits
      cases hawaits

end SecondFactor.Login.Console
