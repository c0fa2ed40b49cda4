import SecondFactor.Field
import SecondFactor.Text.Form

/-!
# Primary credentials
-/

namespace SecondFactor

/-- What a user types for the first step of a login. -/
structure Credentials where
  username : String
  password : String
  realm : String
  deriving DecidableEq, Repr

namespace Credentials

/-- The name under which the backend knows the user. -/
def userid (c : Credentials) : String := c.username ++ "@" ++ c.realm

/-- The fields of the ticket request. The realm is part of the username and never sent alone. -/
def form (c : Credentials) : List Form.Field :=
  [("username", c.userid), ("password", c.password)]

/-- Credentials read from a record; none of them may be empty. -/
def ofJson (v : Json) : Checked Credentials := do
  let ms ← Field.record "Credentials" v
  let fields ← Checked.both (Field.required ms ["username"] Field.nonempty)
    (Checked.both (Field.required ms ["password"] Field.nonempty)
      (Field.required ms ["realm"] Field.nonempty))
  return ⟨fields.1, fields.2.1, fields.2.2⟩

end Credentials

end SecondFactor
