import SecondFactor.Task

/-! # Tasks between two turns

What a task waits for, and what it finds in its next turn, say where it stands. -/

namespace SecondFactor.Task

variable {ω α : Type} {t : Task ω α}

theorem phase_of_awaits {on : ω} (h : t.awaits? = some on) : t.phase = .waiting on := by
  obtain ⟨phase, cancelling⟩ := t
  cases phase <;> cases cancelling <;> simp_all [awaits?]

theorem cancelling_of_awaits {on : ω} (h : t.awaits? = some on) : t.cancelling = false := by
  obtain ⟨phase, cancelling⟩ := t
  cases phase <;> cases cancelling <;> simp_all [awaits?]

theorem phase_of_first (h : t.start = .first) : t.phase = .ready := by
  obtain ⟨phase, cancelling⟩ := t
  cases phase <;> cases cancelling <;> simp_all [start]

theorem phase_of_unbegun (h : t.start = .cancelled none) : t.phase = .ready := by
  obtain ⟨phase, cancelling⟩ := t
  cases phase <;> cases cancelling <;> simp_all [start]

theorem phase_of_news {news : ω} (h : t.start = .news news) : t.phase = .woken news := by
  obtain ⟨phase, cancelling⟩ := t
  cases phase <;> cases cancelling <;> simp_all [start]

theorem phase_of_cancelled {on : ω} (h : t.start = .cancelled (some on)) :
    t.phase = .waiting on := by
  obtain ⟨phase, cancelling⟩ := t
  cases phase <;> cases cancelling <;> simp_all [start]

theorem phase_of_cancelledLate {news : ω} (h : t.start = .cancelledLate news) :
    t.phase = .woken news := by
  obtain ⟨phase, cancelling⟩ := t
  cases phase <;> cases cancelling <;> simp_all [start]

theorem cancelling_of_start
    (h : (∃ on, t.start = .cancelled on) ∨ ∃ news, t.start = .cancelledLate news) :
    t.cancelling = true := by
  obtain ⟨phase, cancelling⟩ := t
  cases phase <;> cases cancelling <;> simp_all [start]

/-- A task that goes on was not cancelled. -/
theorem cancelling_of_going (h : t.start = .first ∨ ∃ news, t.start = .news news) :
    t.cancelling = false := by
  obtain ⟨phase, cancelling⟩ := t
  cases phase <;> cases cancelling <;> simp_all [start]

theorem phase_cancel (t : Task ω α) : t.cancel.phase = t.phase := by
  unfold cancel
  split <;> rfl

theorem isOver_cancel (t : Task ω α) : t.cancel.isOver = t.isOver := by
  obtain ⟨phase, cancelling⟩ := t
  cases phase <;> rfl

theorem awaits_cancel (t : Task ω α) : t.cancel.awaits? = none := by
  obtain ⟨phase, cancelling⟩ := t
  cases phase <;> rfl

/-- A task that is cancelled is over, or is going to be told. -/
theorem over_or_cancelling_cancel (t : Task ω α) :
    t.cancel.isOver = true ∨ t.cancel.cancelling = true := by
  unfold cancel
  split
  · exact .inl ‹_›
  · exact .inr rfl

/-- A task need not be cancelled twice. -/
theorem cancel_cancel (t : Task ω α) : t.cancel.cancel = t.cancel := by
  obtain ⟨phase, cancelling⟩ := t
  cases phase <;> rfl

theorem isDue_of_awaits {on : ω} (h : t.awaits? = some on) : t.isDue = false := by
  obtain ⟨phase, cancelling⟩ := t
  cases phase <;> cases cancelling <;> simp_all [awaits?, isDue]

/-- A task that cannot go on by itself waits for something, or has ended. -/
theorem exists_awaits (hover : t.isOver = false) (hdue : t.isDue = false) :
    ∃ on, t.awaits? = some on := by
  obtain ⟨phase, cancelling⟩ := t
  cases phase with
  | ready | woken _ => cases hdue
  | waiting on =>
    have hcancelling : cancelling = false := hdue
    subst hcancelling
    exact ⟨on, rfl⟩
  | ended how => cases hover

theorem isDue_of_idle (h : t.start = .idle) : t.isDue = false := by
  obtain ⟨phase, cancelling⟩ := t
  cases phase <;> cases cancelling <;> simp_all [start, isDue]

theorem phase_of_ending {how : Ending α} (h : t.ending? = some how) : t.phase = .ended how := by
  obtain ⟨phase, cancelling⟩ := t
  cases phase <;> simp_all [ending?]

theorem ending_of_awaits {on : ω} (h : t.awaits? = some on) : t.ending? = none := by
  unfold ending?
  rw [phase_of_awaits h]

theorem awaits_of_isOver (h : t.isOver = true) : t.awaits? = none := by
  cases hw : t.awaits? with
  | none => rfl
  | some on =>
    rw [isOver, ending_of_awaits hw] at h
    cases h

/-- A task that has something to do has not ended. -/
theorem ending_of_start (h : t.start ≠ .idle) : t.ending? = none := by
  obtain ⟨phase, cancelling⟩ := t
  cases phase <;> simp_all [start, ending?]

theorem isOver_of_start (h : t.start ≠ .idle) : t.isOver = false := by
  rw [isOver, ending_of_start h, Option.isSome_none]

@[simp] theorem start_waitingFor (on : ω) : (waitingFor on : Task ω α).start = .idle := rfl

@[simp] theorem start_finished (how : Ending α) : (finished how : Task ω α).start = .idle := rfl

theorem wake_of_awaits {on news : ω} (h : t.awaits? = some on) :
    t.wake news = { phase := .woken news } := by
  obtain ⟨phase, cancelling⟩ := t
  cases phase <;> cases cancelling <;> simp_all [awaits?, wake]

theorem wake_of_awaits_none (news : ω) (h : t.awaits? = none) : t.wake news = t := by
  obtain ⟨phase, cancelling⟩ := t
  cases phase <;> cases cancelling <;> simp_all [awaits?, wake]

/-- A task begins only once. -/
theorem start_wake_ne_first (news : ω) (h : t.start ≠ .first) : (t.wake news).start ≠ .first := by
  obtain ⟨phase, cancelling⟩ := t
  cases phase <;> cases cancelling <;> simp_all [wake, start]

theorem start_cancel_ne_first (h : t.start ≠ .first) : t.cancel.start ≠ .first := by
  obtain ⟨phase, cancelling⟩ := t
  cases phase <;> cases cancelling <;> simp_all [cancel, isOver, ending?, start]

end SecondFactor.Task
