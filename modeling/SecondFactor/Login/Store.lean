import SecondFactor.Json

/-!
# Remembered usernames

A store of values by key outlives a login. A login writes the username there, if the user wants it
kept, and a flag that says so; the name is given back only where the flag is set.
-/

namespace SecondFactor.Login

/-- Values by key. -/
abbrev Store := List (String × Json)

namespace Store

/-- The key of the username. -/
def usernameKey : String := "login-username"

/-- The key of the flag. -/
def flagKey : String := "login-saveusername"

/-- The value of a key, or `null`. -/
def get (s : Store) (key : String) : Json := (s.lookup key).getD .null

/-- Gives a key a value. -/
def set (s : Store) (key : String) (value : Json) : Store :=
  if s.any (·.1 == key) then s.map fun m => if m.1 == key then (key, value) else m
  else s ++ [(key, value)]

/-- Takes a key away. -/
def clear (s : Store) (key : String) : Store := s.filter (·.1 != key)

/-- A use of a store. -/
inductive Access where
  | get (key : String)
  | set (key : String) (value : Json)
  | clear (key : String)

/-- The store after an access. -/
def apply (s : Store) : Access → Store
  | .get _ => s
  | .set key value => s.set key value
  | .clear key => s.clear key

/-- How a login writes down the username. -/
def remember (username : String) (keep : Bool) : List Access :=
  [if keep then .set usernameKey (.text (Text.ofString username)) else .clear usernameKey,
    .set flagKey (.bool keep)]

/-- Whether a value is the truth value true, and nothing that merely counts as it. -/
def isTrue : Json → Bool
  | .bool b => b
  | _ => false

/-- The username that a store gives back, or `null`, and how it is looked up. -/
def restore (s : Store) : Json × List Access :=
  if isTrue (s.get flagKey) then (s.get usernameKey, [.get flagKey, .get usernameKey])
  else (.null, [.get flagKey])

end Store

end SecondFactor.Login
