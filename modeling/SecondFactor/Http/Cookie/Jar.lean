/-!
# Kept cookies

Cookies are kept by domain, path and name. A cookie that takes the place of another one stays in its
place, and a place that was emptied is kept for what comes there later.
-/

namespace SecondFactor.Http

/-- A cookie that a client keeps. -/
structure Cookie where
  version : Int
  name : String
  /-- The value, unless the cookie is a name alone. -/
  value : Option String
  domain : List Char
  path : List Char
  /-- The numbers behind a host that the cookie goes to, if it does not go to all. -/
  ports : Option (List (List Char))
  secure : Bool
  deriving DecidableEq, Repr

namespace Cookie

/-- Things kept under keys, in the order in which the keys were first used. -/
abbrev Shelf (κ α : Type) := List (κ × α)

namespace Shelf

/-- Changes what is kept under a key, which comes last if it is new. -/
def alter {κ α : Type} [DecidableEq κ] (key : κ) (f : Option α → α) : Shelf κ α → Shelf κ α
  | [] => [(key, f none)]
  | (k, a) :: rest => if k = key then (k, f (some a)) :: rest else (k, a) :: alter key f rest

end Shelf

/-- The cookies that a client keeps. -/
abbrev Jar := Shelf (List Char) (Shelf (List Char) (Shelf String Cookie))

namespace Jar

/-- All cookies in order. -/
def toList (jar : Jar) : List Cookie :=
  jar.flatMap fun paths => paths.2.flatMap fun names => names.2.map Prod.snd

/-- Whether no cookie is kept. -/
def isEmpty (jar : Jar) : Bool := jar.toList.isEmpty

/-- Keeps a cookie. -/
def insert (jar : Jar) (c : Cookie) : Jar :=
  jar.alter c.domain fun paths => (paths.getD []).alter c.path fun names =>
    (names.getD []).alter c.name fun _ => c

/-- Drops a cookie. -/
def remove (jar : Jar) (domain path : List Char) (name : String) : Jar :=
  jar.map fun (d, paths) => (d, if d = domain then
    paths.map fun (p, names) => (p, if p = path then names.filter (·.1 ≠ name) else names)
    else paths)

end Jar

end Cookie

end SecondFactor.Http
