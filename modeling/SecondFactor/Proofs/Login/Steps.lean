import SecondFactor.Proofs.Login.Session

/-! # Steps of a login

A world makes its moves for many logins. What one of them has to do with a move is one of a few
steps, and only its own turn is more than that it hears of something. -/

namespace SecondFactor.Login

open Negotiation (Room)

variable {ν : Type} (script : Nat → Http.Outcome)

namespace Course

/-- What a move does in the course of login `i`. -/
inductive Step (i : Nat) (c : Course ν) : Move ν → Course ν → Prop where
  | idle (m : Move ν) : Step i c m c
  | room (m : Move ν) (f : Room ν → Room ν) (hf : Room.Plays script f) : Step i c m (c.inRoom f)
  /-- The response to the credentials comes. -/
  | responds (m : Move ν) (number : Nat) (r : Http.Request)
      (hw : c.task.awaits? = some (.response number r)) :
      Step i c m (c.update (Task.wake (.responded r (script number))))
  /-- The dialog is over, or the negotiation is. -/
  | learns (m : Move ν) (on : Wait) (hw : c.task.awaits? = some on)
      (hon : on = .parting ∨ on = .outcome) : Step i c m (c.update (Task.wake on))
  | cancels : Step i c (.cancel i) (c.update Task.cancel)
  | acts : Step i c (.turn i (.caller .host)) c.runLogin

variable {c : Course ν} {i : Nat}

theorem step_respond {number : Nat} (hheld : c.heldNumber? = some number) (m : Move ν) :
    Step script i c m (c.respond (script number)) := by
  unfold heldNumber? at hheld
  unfold respond
  split
  · rename_i n r hwaits
    rw [hwaits] at hheld
    cases hheld
    exact .responds m number r hwaits
  · rename_i hwaits
    have hroom : c.room?.bind (·.heldNumber?) = some number := by
      split at hheld
      · rename_i n r hwaits'
        exact absurd hwaits' (hwaits n r)
      · exact hheld
    obtain ⟨r, hr, hnumber⟩ := Option.bind_eq_some_iff.mp hroom
    -- the number is that of the proof, for which a move looks in the scene itself
    have hsame : c.inRoom (·.onScene (·.respond (script number))) =
        c.inRoom (·.onScene (·.move script .respond)) := by
      simp only [inRoom, hr, Room.onScene, Negotiation.Scene.move, hnumber]
    rw [hsame]
    exact .room m _ fun r => .move r.toScene .respond

theorem step_run (t : Negotiation.Turn Room.Turn) : Step script i c (.turn i t) (c.run t) := by
  unfold run
  split
  · exact .acts
  · unfold notifyParting
    split
    · exact .learns _ .parting ‹_› (.inl rfl)
    · exact .idle _
  · unfold notifyOutcome
    split
    · exact .learns _ .outcome ‹_› (.inr rfl)
    · exact .idle _
  · exact .room _ _ fun r => Room.leads_run r t

end Course

namespace World

variable {w : World ν} {i : Nat}

theorem moves_append (w : World ν) (ms ns : List (Move ν)) :
    w.moves script (ms ++ ns) = (w.moves script ms).moves script ns :=
  List.foldl_append

theorem login_of_course {c : Course ν} (hc : w.course? i = some c) :
    w.logins[i]? = some c.toLogin := by
  obtain ⟨l, hl, rfl⟩ := Option.map_eq_some_iff.mp hc
  exact hl

theorem course_eq_none : w.course? i = none ↔ w.logins[i]? = none := by
  unfold course?
  exact Option.map_eq_none_iff

theorem logins_inCourse_self {c : Course ν} (hc : w.course? i = some c) (f : Course ν → Course ν) :
    (w.inCourse i f).logins[i]? = some (f c).toLogin := by
  have hlt : i < w.logins.length := (List.getElem?_eq_some_iff.mp (login_of_course hc)).1
  simp only [inCourse, hc, settleIn]
  exact List.getElem?_set_self hlt

theorem logins_inCourse_ne {j : Nat} (hij : j ≠ i) (f : Course ν → Course ν) :
    (w.inCourse j f).logins[i]? = w.logins[i]? := by
  unfold inCourse
  split
  · rfl
  · exact List.getElem?_set_ne hij

/-- A move is a step of every login. -/
theorem step_of_move {c : Course ν} (hc : w.course? i = some c) (m : Move ν) :
    ∃ c', (w.move script m).logins[i]? = some c'.toLogin ∧ Course.Step script i c m c' := by
  have hl := login_of_course hc
  have hcourse (j : Nat) (f : Course ν → Course ν) (hf : j = i → Course.Step script i c m (f c)) :
      ∃ c', (w.inCourse j f).logins[i]? = some c'.toLogin ∧ Course.Step script i c m c' := by
    by_cases hij : j = i
    · subst hij
      exact ⟨f c, logins_inCourse_self hc f, hf rfl⟩
    · exact ⟨c, (logins_inCourse_ne hij f).trans hl, .idle m⟩
  cases m with
  | login credentials keep levels dialog =>
    have hlt : i < w.logins.length := (List.getElem?_eq_some_iff.mp hl).1
    exact ⟨c, (List.getElem?_append_left hlt).trans hl, .idle _⟩
  | cancel j =>
    refine hcourse j _ ?_
    rintro rfl
    exact .cancels
  | tell j => exact hcourse j _ fun _ => .room _ _ Room.leads_tell
  | respond j =>
    simp only [move]
    split
    · rename_i number hheld
      refine hcourse j _ ?_
      rintro rfl
      exact Course.step_respond script (by simpa [hc] using hheld) _
    · exact ⟨c, hl, .idle _⟩
  | reply j k next =>
    exact hcourse j _ fun _ => .room _ _ fun r => .move r.toScene (.reply k next)
  | turn j t =>
    refine hcourse j _ ?_
    rintro rfl
    exact Course.step_run script t
  | queue queue => exact ⟨c, hl, .idle _⟩

/-- A login that was not there before a move has done nothing yet. -/
theorem new_of_move (hw : w.logins[i]? = none) {m : Move ν} {l : Login ν}
    (hl : (w.move script m).logins[i]? = some l) :
    ∃ credentials keep levels dialog, l = { credentials, keep, levels, script := dialog } := by
  have hcourse {j : Nat} {f : Course ν → Course ν} (h : (w.inCourse j f).logins[i]? = some l) :
      ∃ credentials keep levels dialog, l = { credentials, keep, levels, script := dialog } := by
    have hij : j ≠ i := by
      rintro rfl
      simp [inCourse, course?, hw] at h
    rw [logins_inCourse_ne hij, hw] at h
    cases h
  cases m with
  | login credentials keep levels dialog =>
    rcases Nat.lt_trichotomy i w.logins.length with hlt | rfl | hlt
    · exact absurd (List.getElem?_eq_none_iff.mp hw) (Nat.not_le_of_lt hlt)
    · cases List.getElem?_concat_length.symm.trans hl
      exact ⟨credentials, keep, levels, dialog, rfl⟩
    · have hlen := (List.getElem?_eq_some_iff.mp hl).1
      simp only [move, login, List.length_append, List.length_singleton] at hlen
      omega
  | cancel j | tell j | reply j k next | turn j t => exact hcourse hl
  | respond j =>
    simp only [move] at hl
    split at hl
    · exact hcourse hl
    · rw [hw] at hl
      cases hl
  | queue queue =>
    have hl : w.logins[i]? = some l := hl
    rw [hw] at hl
    cases hl

end World

/-! ## What is over -/

/-- The end of a login is its end. -/
theorem Course.Step.ending {c c' : Course ν} {i : Nat} {m : Move ν} (hs : Step script i c m c')
    {how : Ending Ticket} (hhow : c.task.ending? = some how) : c'.task.ending? = some how := by
  have hwaits {on : Wait} (hw : c.task.awaits? = some on) : c'.task.ending? = some how := by
    rw [Task.ending_of_awaits hw] at hhow
    cases hhow
  cases hs with
  | idle => exact hhow
  | room m f hf =>
    cases hn : c.negotiation with
    | none => rwa [inRoom_none hn]
    | some n =>
      obtain ⟨ms, guests, queue, heq⟩ := inRoom_eq hf hn
      rwa [heq]
  | responds m number r hw => exact hwaits hw
  | learns m on hw => exact hwaits hw
  | cancels =>
    have hover : c.task.isOver = true := by simp [Task.isOver, hhow]
    simpa [update, Task.cancel, hover] using hhow
  | acts =>
    have hidle : c.task.start = .idle := by
      by_contra hstart
      rw [Task.ending_of_start hstart] at hhow
      cases hhow
    rwa [runLogin, hidle]

theorem World.ending_moves {w : World ν} {i : Nat} {how : Ending Ticket}
    (hhow : w.ending? i = some how) (ms : List (Move ν)) :
    (w.moves script ms).ending? i = some how := by
  induction ms generalizing w with
  | nil => exact hhow
  | cons m ms ih =>
    obtain ⟨l, hl, hhow⟩ := Option.bind_eq_some_iff.mp hhow
    have hc : w.course? i = some { toOutside := w.toOutside, toLogin := l, store := w.store } := by
      rw [course?, hl, Option.map_some]
    obtain ⟨c', hl', hs⟩ := step_of_move script hc m
    refine ih ?_
    rw [ending?, hl', Option.bind_some]
    exact hs.ending script hhow

end SecondFactor.Login
