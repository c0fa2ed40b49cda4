import SecondFactor.Binary64.Shortest
import SecondFactor.Json
import SecondFactor.Text.Quoted

/-!
# Values in messages

The way in which a message or a form field shows a value. Texts are quoted, a number with a fraction
is shown by the fewest digits that read back, and parts are separated by a comma and a blank.
-/

namespace SecondFactor.Json

mutual

/-- A value as a message shows it. -/
def display : Json → String
  | .null => "None"
  | .bool b => if b then "True" else "False"
  | .int n => toString n
  | .real x => x.toText "inf" "nan"
  | .text t => Quoted.quoteText t
  | .array xs => "[" ++ displayItems xs ++ "]"
  | .object ms => "\x7b" ++ displayMembers ms ++ "\x7d"

/-- Elements with commas between them. -/
def displayItems : List Json → String
  | [] => ""
  | [x] => display x
  | x :: y :: rest => display x ++ ", " ++ displayItems (y :: rest)

/-- Members with commas between them. -/
def displayMembers : List (Text × Json) → String
  | [] => ""
  | [(k, v)] => Quoted.quoteText k ++ ": " ++ display v
  | (k, v) :: m :: rest =>
    Quoted.quoteText k ++ ": " ++ display v ++ ", " ++ displayMembers (m :: rest)

end

end SecondFactor.Json
