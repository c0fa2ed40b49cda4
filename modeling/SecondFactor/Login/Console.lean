import SecondFactor.Login.World
import SecondFactor.Text.Blank

/-!
# Logins at a console

A user at a console types a name, a password and a realm, and then answers the questions of the
dialog: the name of a method to switch to it, or input for the active one. An empty answer ends the
dialog.
-/

namespace SecondFactor.Login.Console

open Negotiation (Dialog View)

/-- How urgent a message is. -/
inductive Level where
  | info
  | warning
  | error
  deriving DecidableEq, Repr

/-- The word for a level. -/
def Level.word : Level → String
  | info => "info"
  | warning => "warning"
  | error => "error"

/-- A line at a console: a question, or a message. -/
inductive Line where
  | asked (question : String)
  | said (level : Level) (message : String)
  deriving DecidableEq, Repr

/-- An answer that a user types. One that is late comes only when nothing else is going on. -/
structure Answer where
  text : String
  late : Bool := false
  deriving DecidableEq, Repr

/-- The answer of a user who has no more to say. -/
def Answer.empty : Answer := { text := "" }

/-- Writes lines, and goes on. -/
def write (lines : List Line) (next : Dialog Line) : Dialog Line := lines.foldr .notes next

/-- Writes a warning, and goes on. -/
def warn (e : LoginError) (next : Dialog Line) : Dialog Line :=
  .notes (.said .warning e.message) next

/-- What a user is told before each question. -/
def status (v : View) : List Line :=
  let few := if v.recoveryKeysLow then
    [Line.said .warning ("Only " ++ toString v.recoveryKeys.length ++ " recovery keys left")]
  else []
  [.said .info ("Second factor required. Available: "
      ++ ", ".intercalate (v.available.map Method.word))]
  ++ few
  ++ (v.keyError.map fun r => Line.said .warning ("Security key: " ++ r.message)).toList
  ++ (v.inputError.map fun e => Line.said .warning e.message).toList

/-- The question that a user is asked. -/
def question (v : View) : String :=
  if v.active = .webauthn && v.pending then "Touch your key, or type a method name to switch: "
  else v.active.word ++ " (or a method name): "

/-- Asks a question, and goes on when there is an answer. -/
def ask (question : String) (a : Answer) (next : Dialog Line) : Dialog Line :=
  .notes (.asked question)
    (if a.late then .waits (.asked question) next (.ends .cancelled) else next)

/-- Confirms the active method. A refusal is no more than a warning. -/
def confirm (next : Dialog Line) : Dialog Line :=
  .confirms fun
    | .returned _ => next
    | .failed f =>
      match f.loginError? with
      | some e => warn e next
      | none => .ends (.failed f)
    | .cancelled => .ends .cancelled

/-- Does what an answer asks for: switches to the method that it names, or confirms the active one
with it as its input. -/
def obey (answer : String) (next : Dialog Line) : Dialog Line :=
  let orWarn (next' : Dialog Line) : Option LoginError → Dialog Line
    | none => next'
    | some e => warn e next
  match Method.ofWord? answer with
  | some m => .acts (.select m) (orWarn next)
  | none =>
    .looks fun v =>
      if v.active = .webauthn then confirm next
      else .acts (.input answer) (orWarn (confirm next))

/-- Asks one question, and does what the answer asks for unless the dialog is over. -/
def round (a : Answer) (next : Dialog Line) : Dialog Line :=
  .looks fun v =>
    if v.done then .ends (.returned ())
    else
      write (status v) (ask (question v) a
        (let answer := Blank.strip a.text
        if answer = "" then .ends (.returned ())
        else .looks fun v => if v.done then .ends (.returned ()) else obey answer next))

/-- The dialog with a user who gives these answers, and none behind them. -/
def dialog : List Answer → Dialog Line
  | [] => round .empty (.ends (.returned ()))
  | a :: rest => round a (dialog rest)

/-- The first of some answers and the others. -/
def take : List Answer → String × List Answer
  | [] => ("", [])
  | a :: rest => (a.text, rest)

/-- The credentials that a user types, and the answers that are left for the dialog. -/
def credentials (answers : List Answer) (passwords : List String) :
    Checked Credentials × List Answer :=
  let (username, answers) := take answers
  let (realm, answers) := take answers
  (Credentials.ofJson (.record [
    ("username", .text (Text.ofString username)),
    ("password", .text (Text.ofString (passwords.head?.getD ""))),
    ("realm", .text (Text.ofString (if realm = "" then "pam" else realm)))]), answers)

/-- What a user is asked for the credentials. -/
def opening : List Line := [.asked "Username: ", .asked "Password: ", .asked "Realm [pam]: "]

/-- The name under which a security key knows the backend. -/
def origin (environment : String → Option String) (s : Settings) : String :=
  (environment "TICKETLOGIN_ORIGIN").getD s.baseUrl

/-- The login of a user who gives these answers. -/
def login (outside : Outside) (levels : Nat) (answers : List Answer) (passwords : List String) :
    Checked (World Line) :=
  let (credentials, answers) := credentials answers passwords
  credentials.map fun c => World.login { toOutside := outside } c true levels (dialog answers)

/-- The line that shows an event to the user. -/
def line? : Event Line → Option Line
  | .established t => some (.said .info ("Session established for " ++ t.username))
  | .cleared => some (.said .info "Session cleared")
  | .negotiation (.noted l) => some l
  | _ => none

/-- What is said when a login has ended, and what becomes of the failure. A failed login is no
failure of the console. -/
def closing : Ending Ticket → List Line × Ending Unit
  | .returned t => ([.said .info ("Logged in as " ++ t.username)], .returned ())
  | .failed f =>
    match f.loginError? with
    | some e =>
      if e.kind.isRequestFailure then ([.said .error e.message], .returned ())
      else ([], .failed f)
    | none => ([], .failed f)
  | .cancelled => ([], .cancelled)

end SecondFactor.Login.Console
