import SecondFactor.Binary64.Shortest
import SecondFactor.Failure
import SecondFactor.Text.Quoted

/-!
# Settings
-/

namespace SecondFactor

/-- How a client reaches its backend. -/
structure Settings where
  baseUrl : String := "https://localhost:8007"
  ticketPath : String := "/api2/json/access/ticket"
  /-- In seconds. -/
  timeout : Binary64 := .ofInt 30
  verifyTls : Bool := true
  userAgent : String := "ticketlogin-python/1.0.0"
  deriving DecidableEq, Repr

namespace Settings

/-- Settings read from a record; what is absent has its default. -/
def ofJson (v : Json) : Checked Settings := do
  let ms ← Field.record "ClientSettings" v
  let d : Settings := {}
  let fields ←
    Checked.both (Field.optional ms ["base_url"] d.baseUrl Field.string)
    (Checked.both (Field.optional ms ["ticket_path"] d.ticketPath Field.string)
    (Checked.both (Field.optional ms ["timeout"] d.timeout Field.positive)
    (Checked.both (Field.optional ms ["verify_tls"] d.verifyTls Field.bool)
    (Field.optional ms ["user_agent"] d.userAgent Field.string))))
  return ⟨fields.1, fields.2.1, fields.2.2.1, fields.2.2.2.1, fields.2.2.2.2⟩

/-- The switch that a variable sets; any other word leaves the default. -/
def switch (value : Option String) (absent : Bool) : Bool :=
  let word := String.ofList ((value.getD "").toList.map Char.toLower)
  if ["true", "1", "yes", "on"].contains word then true
  else if ["false", "0", "no", "off"].contains word then false
  else absent

/-- Settings read from the variables of an environment. -/
def ofEnvironment (lookup : String → Option String) : Except Failure Settings := do
  let d : Settings := {}
  let timeout ←
    match lookup "TICKETLOGIN_TIMEOUT" with
    | none => .ok d.timeout
    | some text =>
      match Binary64.readLoose? text.toList with
      | some x => .ok x
      | none =>
        .error (.foreign (.badValue ("could not convert string to float: " ++ Quoted.quote text)))
  if timeout.isPositive then
    return { d with
      baseUrl := (lookup "TICKETLOGIN_BASE_URL").getD d.baseUrl
      ticketPath := (lookup "TICKETLOGIN_TICKET_PATH").getD d.ticketPath
      verifyTls := switch (lookup "TICKETLOGIN_VERIFY_TLS") d.verifyTls
      timeout }
  else
    .error (.foreign (.invalidRecord "ClientSettings" [⟨.notPositive, [.key "timeout"]⟩]))

/-- The arguments of a client that take the place of settings. -/
structure Overrides where
  baseUrl : Option String := none
  timeout : Option Binary64 := none
  verifyTls : Option Bool := none
  deriving DecidableEq, Repr

/-- Settings with the given arguments in place of their own. -/
def override (s : Settings) (o : Overrides) : Settings :=
  { s with
    baseUrl := o.baseUrl.getD s.baseUrl
    timeout := o.timeout.getD s.timeout
    verifyTls := o.verifyTls.getD s.verifyTls }

/-- The text of a timeout. -/
def timeoutText (t : Binary64) : String := t.toText "inf" "nan"

end Settings

end SecondFactor
