import SecondFactor.Json.Display
import SecondFactor.Text.Form

/-!
# Values as form fields

The members of an object become fields of a form. An array gives its member as many fields as it has
elements, which may be none.
-/

namespace SecondFactor.Form

/-- A name with all the values that it is given. -/
structure Group where
  name : String
  values : List String
  deriving DecidableEq, Repr

/-- A value in a field. -/
def textOf : Json → String
  | .null => ""
  | .bool b => if b then "true" else "false"
  | .text t => (t.toString?).getD ""
  | v => v.display

namespace Group

/-- The group of a field. -/
def ofField (f : Field) : Group := ⟨f.1, [f.2]⟩

/-- The group that a member of an object gives. -/
def ofMember (m : Text × Json) : Group where
  name := (m.1.toString?).getD ""
  values := match m.2 with
    | .array xs => xs.map textOf
    | v => [textOf v]

/-- The fields of a group. -/
def fields (g : Group) : List Field := g.values.map fun v => (g.name, v)

end Group

/-- The fields of groups in order, encoded. -/
def encodeGroups (groups : List Group) : String := encode (groups.flatMap Group.fields)

end SecondFactor.Form
