import SecondFactor.Binary64
import SecondFactor.Binary64.Reader
import SecondFactor.Binary64.Shortest
import SecondFactor.Challenge
import SecondFactor.Credentials
import SecondFactor.Deflate
import SecondFactor.Deflate.Bits
import SecondFactor.Deflate.Block
import SecondFactor.Deflate.Code
import SecondFactor.Failure
import SecondFactor.Field
import SecondFactor.Http.Address
import SecondFactor.Http.Client
import SecondFactor.Http.Coding
import SecondFactor.Http.Cookie.Date
import SecondFactor.Http.Cookie.Header
import SecondFactor.Http.Cookie.Jar
import SecondFactor.Http.Cookie.Offer
import SecondFactor.Http.Cookie.Origin
import SecondFactor.Http.Exchange
import SecondFactor.Http.HostName
import SecondFactor.Http.Label
import SecondFactor.Http.Label.Direction
import SecondFactor.Http.Label.Joining
import SecondFactor.Http.Label.Permitted
import SecondFactor.Http.Punycode
import SecondFactor.Http.Redirect
import SecondFactor.Http.Reference
import SecondFactor.Http.Url
import SecondFactor.Json
import SecondFactor.Json.Display
import SecondFactor.Json.Fields
import SecondFactor.Json.Reader
import SecondFactor.Json.Writer
import SecondFactor.Key.Assertion
import SecondFactor.Key.Behaviour
import SecondFactor.Key.Device
import SecondFactor.Key.Options
import SecondFactor.Login.Console
import SecondFactor.Login.Course
import SecondFactor.Login.Store
import SecondFactor.Login.World
import SecondFactor.Method
import SecondFactor.Negotiation.Action
import SecondFactor.Negotiation.Basic
import SecondFactor.Negotiation.Dialog
import SecondFactor.Negotiation.Room
import SecondFactor.Negotiation.Scene
import SecondFactor.Negotiation.Turn
import SecondFactor.Outside
import SecondFactor.Settings
import SecondFactor.Task
import SecondFactor.Text.Base64Url
import SecondFactor.Text.Blank
import SecondFactor.Text.CaseMapping
import SecondFactor.Text.CodePoint
import SecondFactor.Text.Composition
import SecondFactor.Text.Composition.Table
import SecondFactor.Text.DecimalDigit
import SecondFactor.Text.Encoding
import SecondFactor.Text.Form
import SecondFactor.Text.Hex
import SecondFactor.Text.Integer
import SecondFactor.Text.Percent
import SecondFactor.Text.Printable
import SecondFactor.Text.Quoted
import SecondFactor.Text.Ranges
import SecondFactor.Text.Split
import SecondFactor.Text.Utf8
import SecondFactor.Ticket
import SecondFactor.Proofs.Task
import SecondFactor.Proofs.Negotiation.Run
import SecondFactor.Proofs.Negotiation.Change
import SecondFactor.Proofs.Negotiation.Moves
import SecondFactor.Proofs.Negotiation.Submission
import SecondFactor.Proofs.Negotiation.Outcome
import SecondFactor.Proofs.Negotiation.Response
import SecondFactor.Proofs.Negotiation.Guests
import SecondFactor.Proofs.Login.Run
import SecondFactor.Proofs.Login.Session
import SecondFactor.Proofs.Login.Turns
import SecondFactor.Proofs.Login.Handover
import SecondFactor.Proofs.Negotiation.Stage
import SecondFactor.Proofs.Negotiation.Closing
import SecondFactor.Proofs.Negotiation.Attempts
import SecondFactor.Proofs.Negotiation.Switching
import SecondFactor.Proofs.Login.Failing
import SecondFactor.Proofs.Text.CodePoint
import SecondFactor.Proofs.Text.Utf8
import SecondFactor.Proofs.Text.Percent
import SecondFactor.Proofs.Text.Split
import SecondFactor.Proofs.Challenge.Writing
import SecondFactor.Proofs.Text.Form
import SecondFactor.Proofs.Login.Requests
import SecondFactor.Proofs.Negotiation.Due
import SecondFactor.Proofs.Negotiation.Waiting
import SecondFactor.Proofs.Login.Schedule
import SecondFactor.Proofs.Login.Waiting
import SecondFactor.Proofs.Negotiation.Devices
import SecondFactor.Proofs.Negotiation.Tending
import SecondFactor.Proofs.Login.Devices
import SecondFactor.Proofs.Json.RoundTrip
import SecondFactor.Proofs.Text.Base64Url
import SecondFactor.Proofs.Json.Text
import SecondFactor.Proofs.Key.Assertion
import SecondFactor.Proofs.Negotiation.Signing
import SecondFactor.Proofs.Json.Nesting
import SecondFactor.Proofs.Challenge.Reading
import SecondFactor.Proofs.Negotiation.Contact
import SecondFactor.Proofs.Negotiation.Flight
import SecondFactor.Proofs.Negotiation.Undisturbed
import SecondFactor.Proofs.Negotiation.Refusing
import SecondFactor.Proofs.Negotiation.KeyFailing
import SecondFactor.Proofs.Http.Redirect
import SecondFactor.Proofs.Ticket.Reading
import SecondFactor.Proofs.Http.Answer
import SecondFactor.Proofs.Negotiation.Order
import SecondFactor.Proofs.Negotiation.Telling
import SecondFactor.Proofs.Negotiation.Confirming
import SecondFactor.Proofs.Negotiation.Returning
import SecondFactor.Proofs.Negotiation.Confirmable
import SecondFactor.Proofs.Negotiation.Consistency
import SecondFactor.Proofs.Method
import SecondFactor.Proofs.Text.Base64Bits
import SecondFactor.Proofs.Text.Base64Lenience
import SecondFactor.Proofs.Key.Options
import SecondFactor.Proofs.Json.Numeral
import SecondFactor.Proofs.Json.Spelling
import SecondFactor.Proofs.Json.Members
import SecondFactor.Proofs.Challenge.Recovery
import SecondFactor.Proofs.Challenge.Further
import SecondFactor.Proofs.Negotiation.Asking
import SecondFactor.Proofs.Negotiation.Linking
import SecondFactor.Proofs.Negotiation.Pending
import SecondFactor.Proofs.Negotiation.Standing
import SecondFactor.Proofs.Negotiation.Tracking
import SecondFactor.Proofs.Negotiation.Calls
import SecondFactor.Proofs.Http.Resolving
import SecondFactor.Proofs.Login.Destination
import SecondFactor.Proofs.Login.Remembering
import SecondFactor.Proofs.Login.Timeout
import SecondFactor.Proofs.Negotiation.Meanwhile
import SecondFactor.Proofs.Login.Console
