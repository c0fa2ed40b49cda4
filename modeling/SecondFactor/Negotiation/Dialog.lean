import SecondFactor.Negotiation.Action

/-!
# Dialogs

A dialog drives a negotiation for a user. It looks at the negotiation, acts on it, confirms, and
waits for the user, as long as it likes. All that it makes of what it sees is in the tree: a dialog
that is cancelled while it waits may still go on.
-/

namespace SecondFactor.Negotiation

/-- What a dialog does, with notes of type `ν`. -/
inductive Dialog (ν : Type) where
  | ends (how : Ending Unit)
  | notes (n : ν) (next : Dialog ν)
  | looks (next : View → Dialog ν)
  /-- Acts, and learns whether it was refused. -/
  | acts (a : Action) (next : Option LoginError → Dialog ν)
  /-- Confirms the active method, and waits until that came to an end. -/
  | confirms (next : Ending Unit → Dialog ν)
  /-- Waits for something outside of the negotiation. -/
  | waits (what : ν) (next onCancel : Dialog ν)

/-- What a dialog waits for. -/
inductive Dialog.Wait (ν : Type) where
  /-- The end of what confirmation number `k` of this dialog set off. -/
  | confirmation (k : Nat) (next : Ending Unit → Dialog ν)
  | outside (what : ν) (next onCancel : Dialog ν)

end SecondFactor.Negotiation
