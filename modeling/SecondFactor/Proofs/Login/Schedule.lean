import Mathlib.Data.List.Perm.Basic
import SecondFactor.Proofs.Login.Handover

/-! # Logins in any order

Turns are taken from those that are due, in any order, and every turn that is due stays so until it
is taken. Meanwhile the backend and security keys answer, and a dialog has other tasks call its
negotiation. -/

namespace SecondFactor.Login

open Negotiation (Room)

/-- What is done to a login from outside. -/
inductive Deed where
  | cancel
  /-- What its dialog waits for outside of the negotiation is there. -/
  | tell
  /-- The backend answers the request of the login, after it kept it waiting. -/
  | respond
  /-- The reply to the request of attempt `j` comes. -/
  | reply (j : Nat) (next : Key.Behaviour)
  | call (c : Room.Call)

/-- What can happen to logins. -/
inductive Occurrence (ν : Type) where
  | login (credentials : Credentials) (keep : Bool) (levels : Nat) (dialog : Negotiation.Dialog ν)
  | deed (i : Nat) (d : Deed)
  /-- The turn at this place of those that are due is taken. -/
  | take (k : Nat)

variable {ν : Type} (script : Nat → Http.Outcome)

/-- Lets something be done to a login. The script says what the backend answers to which request. -/
def Course.deed (c : Course ν) : Deed → Course ν
  | .cancel => c.update Task.cancel
  | .tell => c.inRoom (·.tell)
  | .respond =>
    match c.heldNumber? with
    | some number => c.respond (script number)
    | none => c
  | .reply j next => c.inRoom (·.onScene (·.replyTo j next))
  | .call call => c.inRoom (·.call call)

namespace World

/-- Lets something happen. -/
def occur (w : World ν) : Occurrence ν → World ν
  | .login credentials keep levels dialog => w.login credentials keep levels dialog
  | .deed i d => w.inCourse i (·.deed script d)
  | .take k =>
    match w.queue[k]? with
    | none => w
    | some (i, t) => inCourse { w with queue := w.queue.eraseIdx k } i (·.run t)

/-- Lets things happen, the first one first. -/
def run (w : World ν) (os : List (Occurrence ν)) : World ν := os.foldl (occur script) w

/-- Whether this can come of a world without logins. -/
def Scheduled (w : World ν) : Prop :=
  ∃ client held adapter store os, w = (opening client script held adapter store).run script os

/-- What every occurrence keeps is kept by every run, and may depend on what has happened so far. -/
theorem run_induction {w : World ν} {P : List (Occurrence ν) → World ν → Prop} (hnil : P [] w)
    (hstep : ∀ os o, P os (w.run script os) → P (os ++ [o]) ((w.run script os).occur script o))
    (os : List (Occurrence ν)) : P os (w.run script os) := by
  induction os using List.reverseRecOn with
  | nil => exact hnil
  | append_singleton os o ih =>
    rw [run, List.foldl_append]
    exact hstep os o ih

/-- Turns that are taken as they become due are taken in one of the orders. -/
theorem settle_eq_run (fuel : Nat) (w : World ν) : ∃ os, settle fuel w = w.run script os := by
  induction fuel generalizing w with
  | zero => exact ⟨[], rfl⟩
  | succ fuel ih =>
    unfold settle
    cases hqueue : w.queue with
    | nil => exact ⟨[], rfl⟩
    | cons first rest =>
      obtain ⟨i, t⟩ := first
      obtain ⟨os, hos⟩ := ih (inCourse { w with queue := rest } i (·.run t))
      refine ⟨.take 0 :: os, hos.trans ?_⟩
      simp only [run, List.foldl_cons, occur, hqueue, List.getElem?_cons_zero, List.eraseIdx_zero,
        List.tail_cons]

/-! ## What holds of each login -/

/-- The turns of a login that are due. -/
def dueFor (w : World ν) (i : Nat) : List (Negotiation.Turn Room.Turn) :=
  (w.queue.filter (·.1 == i)).map Prod.snd

theorem mem_dueFor {w : World ν} {i : Nat} {t : Negotiation.Turn Room.Turn} :
    t ∈ w.dueFor i ↔ (i, t) ∈ w.queue := by
  simp [dueFor]

theorem dueFor_settleIn (w : World ν) (i j : Nat) (c : Course ν) :
    (w.settleIn i c).dueFor j = w.dueFor j ++ if i = j then c.queue else [] := by
  simp only [dueFor, settleIn, List.filter_append, List.map_append, ofLogin_map]

/-- A property of a login that may depend on its number, its turns that are due, and its events. -/
abbrev Invariant (ν : Type) : Type :=
  Nat → List (Negotiation.Turn Room.Turn) → List (Event ν) → Login ν → Prop

/-- Whether every login has a property. Turns and events belong to logins that are there. -/
structure Holds (I : Invariant ν) (w : World ν) : Prop where
  logins : ∀ i l, w.logins[i]? = some l → I i (w.dueFor i) (w.eventsOf i) l
  queue : ∀ e ∈ w.queue, e.1 < w.logins.length
  log : ∀ e ∈ w.log, e.1 < w.logins.length

/-- Whether a property depends only on which turns are due, and not on their order. -/
def Invariant.Unordered (I : Invariant ν) : Prop :=
  ∀ i due due' es l, (∀ t, t ∈ due ↔ t ∈ due') → I i due es l → I i due' es l

variable {script} {I I' : Invariant ν} {w : World ν}

theorem holds_opening (client : Http.Client) (held : Nat → Bool) (adapter : Option Key.Adapter)
    (store : Store) : (opening client script held adapter store : World ν).Holds I := by
  constructor
  · intro i l h
    cases h
  · intro e h
    cases h
  · intro e h
    cases h

theorem Holds.login (hw : w.Holds I) (hunordered : I'.Unordered)
    (hstays : ∀ i due es l, I i due es l → I' i due es l) (credentials : Credentials) (keep : Bool)
    (levels : Nat) (dialog : Negotiation.Dialog ν)
    (hnew : I' w.logins.length [.caller .host] [] { credentials, keep, levels, script := dialog }) :
    (w.login credentials keep levels dialog).Holds I' := by
  have hlength : (w.login credentials keep levels dialog).logins.length = w.logins.length + 1 :=
    List.length_append
  constructor
  · intro i l hl
    have hdue (t : Negotiation.Turn Room.Turn) : t ∈ (w.login credentials keep levels dialog).dueFor i ↔
        t ∈ w.dueFor i ∨ i = w.logins.length ∧ t = .caller .host := by
      simp [mem_dueFor, World.login]
    rcases Nat.lt_trichotomy i w.logins.length with h | rfl | h
    · refine hunordered i (w.dueFor i) _ _ l (fun t => ?_) ?_
      · rw [hdue]
        exact ⟨.inl, fun hin => hin.resolve_right fun hnew => absurd hnew.1 (Nat.ne_of_lt h)⟩
      · exact hstays _ _ _ _ (hw.logins i l ((List.getElem?_append_left h).symm.trans hl))
    · have hnone : w.eventsOf w.logins.length = [] := by
        rw [eventsOf, List.filter_eq_nil_iff.mpr, List.map_nil]
        intro e he
        simpa using Nat.ne_of_lt (hw.log e he)
      cases List.getElem?_concat_length.symm.trans hl
      refine hunordered _ [.caller .host] _ _ _ (fun t => ?_) (hnone ▸ hnew)
      rw [hdue, List.mem_singleton]
      refine ⟨fun heq => .inr ⟨rfl, heq⟩, fun hin => (hin.resolve_left fun hold => ?_).2⟩
      exact Nat.lt_irrefl _ (hw.queue _ (mem_dueFor.mp hold))
    · have hlt := (List.getElem?_eq_some_iff.mp hl).1
      omega
  · intro e he
    rw [hlength]
    rcases List.mem_append.mp he with hold | hnew
    · exact Nat.lt_succ_of_lt (hw.queue e hold)
    · cases List.mem_singleton.mp hnew
      exact Nat.lt_succ_self _
  · intro e he
    rw [hlength]
    exact Nat.lt_succ_of_lt (hw.log e he)

/-- What is done in the course of one login leaves the others as they are. -/
theorem Holds.inCourse (due : Nat → List (Negotiation.Turn Room.Turn))
    (hlogins : ∀ i l, w.logins[i]? = some l → I i (due i) (w.eventsOf i) l)
    (hqueue : ∀ e ∈ w.queue, e.1 < w.logins.length) (hlog : ∀ e ∈ w.log, e.1 < w.logins.length)
    (i : Nat) {f : Course ν → Course ν} (hdue : ∀ j, j ≠ i → due j = w.dueFor j)
    (hstays : ∀ j due es l, I j due es l → I' j due es l)
    (hf : ∀ c, w.course? i = some c → I i (due i ++ c.queue) (w.eventsOf i ++ c.log) c.toLogin →
      I' i (w.dueFor i ++ (f c).queue) (w.eventsOf i ++ (f c).log) (f c).toLogin) :
    (w.inCourse i f).Holds I' := by
  unfold World.inCourse
  cases hcourse : w.course? i with
  | none =>
    refine ⟨fun j l hl => ?_, hqueue, hlog⟩
    have hij : j ≠ i := by
      rintro rfl
      rw [course_eq_none.mp hcourse] at hl
      cases hl
    exact hstays _ _ _ _ (hdue j hij ▸ hlogins j l hl)
  | some c =>
    obtain ⟨l, hl, rfl⟩ := Option.map_eq_some_iff.mp hcourse
    have hlt : i < w.logins.length := (List.getElem?_eq_some_iff.mp hl).1
    have hbefore := hlogins i l hl
    rw [← List.append_nil (due i), ← List.append_nil (w.eventsOf i)] at hbefore
    have hbounded {α : Type} {old : List (Nat × α)} (new : List α)
        (hold : ∀ e ∈ old, e.1 < w.logins.length) (l' : Login ν) :
        ∀ e ∈ old ++ new.map (i, ·), e.1 < (w.logins.set i l').length := by
      intro e he
      rw [List.length_set]
      rcases List.mem_append.mp he with hin | hin
      · exact hold e hin
      · obtain ⟨_, -, rfl⟩ := List.mem_map.mp hin
        exact hlt
    refine ⟨fun j l' hl' => ?_, hbounded _ hqueue _, hbounded _ hlog _⟩
    rw [dueFor_settleIn, eventsOf_settleIn]
    simp only [settleIn] at hl'
    by_cases hij : i = j
    · subst hij
      rw [List.getElem?_set_self hlt] at hl'
      cases hl'
      rw [if_pos rfl, if_pos rfl]
      exact hf _ hcourse hbefore
    · rw [List.getElem?_set_ne hij] at hl'
      rw [if_neg hij, if_neg hij, List.append_nil, List.append_nil]
      exact hstays _ _ _ _ (hdue j (Ne.symm hij) ▸ hlogins j l' hl')

theorem Holds.deed (hw : w.Holds I) (hstays : ∀ i due es l, I i due es l → I' i due es l)
    (i : Nat) (d : Deed)
    (hf : ∀ c, w.course? i = some c →
      I i (w.dueFor i ++ c.queue) (w.eventsOf i ++ c.log) c.toLogin →
      I' i (w.dueFor i ++ (c.deed script d).queue) (w.eventsOf i ++ (c.deed script d).log)
        (c.deed script d).toLogin) : (w.occur script (.deed i d)).Holds I' :=
  .inCourse w.dueFor hw.logins hw.queue hw.log i (fun _ _ => rfl) hstays hf

/-- The turn that is taken was due, and need not be so any more. -/
theorem Holds.take (hw : w.Holds I) (hunordered : I.Unordered)
    (hstays : ∀ i due es l, I i due es l → I' i due es l) (k : Nat)
    (hf : ∀ i t due es (c : Course ν), c.adapter = w.adapter →
      I i (t :: due ++ c.queue) (es ++ c.log) c.toLogin →
      I' i (due ++ (c.run t).queue) (es ++ (c.run t).log) (c.run t).toLogin) :
    (w.occur script (.take k)).Holds I' := by
  cases hk : w.queue[k]? with
  | none =>
    simp only [occur, hk]
    exact ⟨fun i l hl => hstays _ _ _ _ (hw.logins i l hl), hw.queue, hw.log⟩
  | some e =>
    obtain ⟨i, t⟩ := e
    obtain ⟨hlt, hget⟩ := List.getElem?_eq_some_iff.mp hk
    simp only [occur, hk]
    let taken : World ν := { w with queue := w.queue.eraseIdx k }
    have hmem (e : Nat × Negotiation.Turn Room.Turn) :
        e ∈ w.queue ↔ e = (i, t) ∨ e ∈ taken.queue := by
      have hperm := List.getElem_cons_eraseIdx_perm hlt
      rw [hget] at hperm
      rw [← hperm.mem_iff, List.mem_cons]
    let due (j : Nat) : List (Negotiation.Turn Room.Turn) :=
      if j = i then t :: taken.dueFor i else taken.dueFor j
    refine Holds.inCourse (w := taken) due ?_ (fun e he => hw.queue e ((hmem e).mpr (.inr he))) hw.log
      i (fun j hij => if_neg hij) hstays ?_
    · intro j l hl
      refine hunordered j _ _ _ l (fun u => ?_) (hw.logins j l hl)
      rw [mem_dueFor, hmem]
      by_cases hij : j = i
      · subst hij
        simp [due, mem_dueFor]
      · simp [due, hij, mem_dueFor]
    · intro c hcourse hc
      simp only [due, if_true] at hc
      obtain ⟨l, -, rfl⟩ := Option.map_eq_some_iff.mp hcourse
      exact hf i t _ _ _ rfl hc

end World

end SecondFactor.Login
