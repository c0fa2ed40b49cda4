/-!
# Parts of a text

A text is cut at separators and put together again.
-/

namespace SecondFactor.Split

/-- What stands before the first member with property `p`, and that member with all after it. -/
def cut (p : Char → Bool) (s : List Char) : List Char × List Char :=
  (s.takeWhile (!p ·), s.dropWhile (!p ·))

/-- The parts of a text between members with property `p`, of which there is always one more than
such members. -/
def atEach (p : Char → Bool) : List Char → List (List Char)
  | [] => [[]]
  | c :: s =>
    if p c then [] :: atEach p s
    else
      match atEach p s with
      | part :: parts => (c :: part) :: parts
      | [] => [[c]]

/-- The parts of a text between separators. -/
def on (sep : Char) : List Char → List (List Char) := atEach (· == sep)

/-- Parts with a separator between them. -/
def join (sep : Char) : List (List Char) → List Char
  | [] => []
  | [s] => s
  | s :: t :: rest => s ++ sep :: join sep (t :: rest)

end SecondFactor.Split
