import Mathlib.Data.Nat.Init
import SecondFactor.Negotiation.Action
import SecondFactor.Negotiation.Turn

/-! # Runs of a negotiation

Anyone may call a negotiation at any time, the security key and the backend may answer at any time,
and turns may be taken in any order. A run is a list of such moves. What shows of it is its history:
which input was told, what security keys replied, and what became of the proof. -/

namespace SecondFactor

/-- The outside world after others used it. What they asked for comes behind what was asked for
before, and they leave their client behind. -/
def Outside.usedBy (o others : Outside) : Outside :=
  { o with
    client := others.client
    sent := o.sent ++ others.sent
    asked := o.asked ++ others.asked }

/-- The outside world as seen by others who have asked for nothing. -/
def Outside.unused (o : Outside) : Outside := { o with sent := [], asked := [] }

theorem Outside.usedBy_unused (o : Outside) : o.usedBy o.unused = o := by
  simp [usedBy, unused]

/-- The reply with which a request comes to rest, unless it stops or waits. -/
def Key.Behaviour.reply? (b : Key.Behaviour) : Option Key.Reply :=
  match b.proceed.2 with
  | .ended r => some r
  | .stopped | .waiting _ _ => none

namespace Negotiation

/-- What can happen to a negotiation. -/
inductive Move (τ ν : Type) where
  /-- A call that takes effect at once. One that is refused changes nothing. -/
  | act (a : Action)
  | confirm (caller : τ)
  | awaitClosed (caller : τ)
  | awaitOutcome (caller : τ)
  /-- A turn is taken. It need not be the one that has been due for longest. -/
  | turn (t : Turn τ)
  /-- The reply to the request of attempt `i` comes, and the request goes on as `next`. -/
  | reply (i : Nat) (next : Key.Behaviour)
  /-- The backend answers the request that carries the proof, after it kept it waiting. -/
  | respond
  /-- Others use the outside world, make turns due and take notes. -/
  | aside (others : Outside) (queue : List (Turn τ)) (notes : List ν)

/-- What shows of a run. -/
inductive Happening where
  | started
  /-- Input was set while a method was active. -/
  | told (m : Method) (value : String)
  /-- The request of an attempt came to its end. -/
  | replied (r : Key.Reply)
  /-- The ticket service was called with a proof. -/
  | submitted (userid ticket proof : String)
  /-- The request that carries the proof went out. -/
  | requested (number : Nat)
  /-- The backend answered that request. -/
  | responded (number : Nat) (outcome : Http.Outcome)
  /-- The call of the ticket service came to its end. -/
  | answered (result : Except Failure Ticket)
  /-- Attempt `i`, or the submission, was seen to have ended by a failure that nobody expected. -/
  | crashed (i : Option Nat) (f : Failure)

namespace Scene

variable {τ ν : Type} (script : Nat → Http.Outcome)

/-- Makes a move. The script says what the backend answers to which request. -/
def move (s : Scene τ ν) : Move τ ν → Scene τ ν
  | .act a =>
    match s.act a with
    | .ok s' => s'
    | .error _ => s
  | .confirm caller =>
    match s.confirm caller with
    | .ok (_, s') => s'
    | .error _ => s
  | .awaitClosed caller => (s.awaitClosed caller).2
  | .awaitOutcome caller => (s.awaitOutcome caller).2
  | .turn t => s.run t
  | .reply i next => s.replyTo i next
  | .respond =>
    match s.heldNumber? with
    | some n => s.respond (script n)
    | none => s
  | .aside others queue notes =>
    { s with
      toOutside := s.toOutside.usedBy others
      queue
      log := s.log ++ notes.map .noted }

/-- Makes moves, the first one first. -/
def moves (s : Scene τ ν) (ms : List (Move τ ν)) : Scene τ ν := ms.foldl (move script) s

/-- The reply that an attempt gets in its next turn, if it gets one. -/
def reply? (s : Scene τ ν) (i : Nat) : Option Key.Reply :=
  s.attempts[i]?.bind fun a =>
    match a.task.start with
    | .first =>
      match s.adapter, s.options with
      | some adapter, some _ => (adapter s.asked.length).reply?
      | _, _ => some (.refused .unsupported)
    | .news (.replied _ next _) => next.reply?
    | .cancelled (some (.reply _ onCancel _)) => onCancel.reply?
    | .cancelledLate (.replied _ _ onLateCancel) => onLateCancel.reply?
    | _ => none

/-- What shows when a proof is sent. -/
def sending (s : Scene τ ν) (p : Proof) : List Happening :=
  match s.toOutside.send (s.client.proofCall s.userid s.ticket p.text) with
  | .error f => [.answered (.error f)]
  | .ok (r, outside) =>
    let n := s.sent.length
    .requested n ::
      match s.backend n with
      | none => []
      | some o => [.responded n o, .answered ((outside.receive r o).client.ticketResult r o)]

/-- What shows when it is the turn of the submission. -/
def submitting (s : Scene τ ν) : List Happening :=
  match s.submission with
  | none => []
  | some sub =>
    match sub.task.start with
    | .first => .submitted s.userid s.ticket sub.proof.text :: s.sending sub.proof
    | .news (.responded r o) => [.answered ((s.toOutside.receive r o).client.ticketResult r o)]
    | _ => []

/-- What shows when a task is seen to have ended. -/
def noticing (i : Option Nat) : Option (Ending Unit) → List Happening
  | some (.failed f) => [.crashed i f]
  | _ => []

/-- What shows of a move. -/
def shows (s : Scene τ ν) : Move τ ν → List Happening
  | .act .start => [.started]
  | .act (.input value) =>
    match s.setInput value with
    | .ok _ => [.told s.active value]
    | .error _ => []
  | .turn (.attempt i) => (s.reply? i).toList.map .replied
  | .turn (.attemptEnded i) => noticing (some i) (s.attempts[i]?.bind (·.task.ending?))
  | .turn .submission => s.submitting
  | .turn .submissionEnded => noticing none (s.submission.bind (·.task.ending?))
  | .respond => s.heldNumber?.toList.map fun n => .responded n (script n)
  | _ => []

/-- The history of a run. -/
def history (s : Scene τ ν) : List (Move τ ν) → List Happening
  | [] => []
  | m :: ms => s.shows script m ++ history (s.move script m) ms

@[simp] theorem moves_nil (s : Scene τ ν) : s.moves script [] = s := rfl

@[simp] theorem moves_cons (s : Scene τ ν) (m : Move τ ν) (ms : List (Move τ ν)) :
    s.moves script (m :: ms) = (s.move script m).moves script ms := rfl

theorem moves_append (s : Scene τ ν) (ms ns : List (Move τ ν)) :
    s.moves script (ms ++ ns) = (s.moves script ms).moves script ns :=
  List.foldl_append

@[simp] theorem history_nil (s : Scene τ ν) : s.history script [] = [] := rfl

@[simp] theorem history_cons (s : Scene τ ν) (m : Move τ ν) (ms : List (Move τ ν)) :
    s.history script (m :: ms) = s.shows script m ++ (s.move script m).history script ms := rfl

theorem history_append (s : Scene τ ν) (ms ns : List (Move τ ν)) :
    s.history script (ms ++ ns) = s.history script ms ++ (s.moves script ms).history script ns := by
  induction ms generalizing s with
  | nil => rfl
  | cons m ms ih => simp [ih]

/-- What every move of a run keeps, given what showed before, is kept by the run. -/
theorem moves_induction {P : List Happening → Scene τ ν → Prop} {ms : List (Move τ ν)}
    (hstep : ∀ h s, ∀ m ∈ ms, P h s → P (h ++ s.shows script m) (s.move script m))
    {h : List Happening} {s : Scene τ ν} (hs : P h s) :
    P (h ++ s.history script ms) (s.moves script ms) := by
  induction ms generalizing h s with
  | nil => simpa using hs
  | cons m ms ih =>
    rw [history_cons, ← List.append_assoc]
    refine ih (fun h s m' hm' => hstep h s m' (List.mem_cons_of_mem m hm')) ?_
    exact hstep h s m List.mem_cons_self hs

/-! ## Points of a run -/

/-- The scene before move `k` of a run, or at its end. -/
def after (s : Scene τ ν) (ms : List (Move τ ν)) (k : Nat) : Scene τ ν := s.moves script (ms.take k)

theorem after_succ {s : Scene τ ν} {ms : List (Move τ ν)} {k : Nat} {m : Move τ ν}
    (hm : ms[k]? = some m) : s.after script ms (k + 1) = (s.after script ms k).move script m := by
  unfold after
  rw [List.take_add_one, hm, Option.toList_some, moves_append, moves_cons, moves_nil]

theorem after_succ_of_none {s : Scene τ ν} {ms : List (Move τ ν)} {k : Nat} (hm : ms[k]? = none) :
    s.after script ms (k + 1) = s.after script ms k := by
  unfold after
  rw [List.take_add_one, hm, Option.toList_none, List.append_nil]

/-- From one point of a run to a later one lead some of its moves. -/
theorem exists_moves_after (s : Scene τ ν) (ms : List (Move τ ν)) {j k : Nat} (hjk : j ≤ k) :
    ∃ ns, s.after script ms k = (s.after script ms j).moves script ns := by
  obtain ⟨ns, hns⟩ := List.take_prefix_take_left (l := ms) hjk
  refine ⟨ns, ?_⟩
  rw [after, ← hns, moves_append, after]

/-- What holds at one point of a run and not at a later one is ended by a move between them. -/
theorem exists_move_after {P : Scene τ ν → Prop} {s : Scene τ ν} {ms : List (Move τ ν)} {j k : Nat}
    (hjk : j ≤ k) (hj : P (s.after script ms j)) (hk : ¬ P (s.after script ms k)) :
    ∃ l m, j ≤ l ∧ l < k ∧ ms[l]? = some m ∧ P (s.after script ms l) ∧
      ¬ P ((s.after script ms l).move script m) := by
  induction k, hjk using Nat.le_induction with
  | base => exact absurd hj hk
  | succ k hjk ih =>
    by_cases hk' : P (s.after script ms k)
    · cases hm : ms[k]? with
      | none =>
        rw [after_succ_of_none script hm] at hk
        exact absurd hk' hk
      | some m =>
        rw [after_succ script hm] at hk
        exact ⟨k, m, hjk, Nat.lt_succ_self k, hm, hk', hk⟩
    · obtain ⟨l, m, hjl, hlk, hl⟩ := ih hk'
      exact ⟨l, m, hjl, Nat.lt_succ_of_lt hlk, hl⟩

end Scene

end Negotiation

end SecondFactor
