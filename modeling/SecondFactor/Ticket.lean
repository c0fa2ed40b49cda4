import SecondFactor.Failure

/-!
# Tickets

The backend answers a login with a ticket. One that starts with `marker` is no session ticket but
carries a challenge for a second factor.
-/

namespace SecondFactor

/-- What the backend issues to a user. -/
structure Ticket where
  ticket : String
  username : String
  csrfToken : Option Text
  /-- The members that are none of the above. -/
  extra : Members

namespace Ticket

/-- The keys of the fields, each with those under which it is also found. -/
def keys : List (List String) :=
  [["ticket"], ["username"], ["CSRFPreventionToken", "csrf_prevention_token"]]

/-- Ticket data read from a record. -/
def ofJson (v : Json) : Checked Ticket := do
  let ms ← Field.record "TicketData" v
  let fields := Checked.both (Field.required ms ["ticket"] Field.nonempty)
    (Checked.both (Field.required ms ["username"] Field.nonempty)
      (Field.optional ms ["CSRFPreventionToken", "csrf_prevention_token"] none
        (Field.nullable Field.text)))
  let (f, extra) ← Field.withExtra ms keys fields
  return ⟨f.1, f.2.1, f.2.2, extra⟩

/-- The ticket data inside the answer to a ticket request. -/
def ofAnswer (v : Json) : Checked Ticket := do
  let ms ← Field.record "TicketResponse" v
  Field.required ms ["data"] ofJson

/-- The start of a ticket that carries a challenge. -/
def marker : String := "PBS:!tfa!"

/-- What follows the marker of a ticket that carries a challenge. -/
def challengeText? (ticket : String) : Option (List Char) :=
  if marker.toList.isPrefixOf ticket.toList then some (ticket.toList.drop marker.length) else none

/-- Whether a ticket carries a challenge. -/
def isChallenge (ticket : String) : Bool := (challengeText? ticket).isSome

end Ticket

end SecondFactor
