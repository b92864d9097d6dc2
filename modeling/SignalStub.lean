import SignalStub.CommandLine.Basic
import SignalStub.CommandLine.Parse
import SignalStub.CommandLine.Report
import SignalStub.CommandLine.Similarity
import SignalStub.EventId.Source
import SignalStub.Failure
import SignalStub.Http.Message
import SignalStub.Http.Method
import SignalStub.Http.Uri
import SignalStub.Http.Wire
import SignalStub.Log.Console
import SignalStub.Log.Event
import SignalStub.Log.Filter
import SignalStub.Main
import SignalStub.Number.Binary64
import SignalStub.Number.Integer
import SignalStub.Number.Shortest
import SignalStub.Randomness.Draw
import SignalStub.Randomness.Seed
import SignalStub.Randomness.Words
import SignalStub.Route.Pattern
import SignalStub.Route.Router
import SignalStub.Settings.Basic
import SignalStub.Settings.Field
import SignalStub.Settings.Load
import SignalStub.Settings.Name
import SignalStub.Settings.Scalar
import SignalStub.Settings.Table
import SignalStub.Settings.WritePath
import SignalStub.Stub.Answer
import SignalStub.Stub.InFlight
import SignalStub.Stub.Listen
import SignalStub.Stub.Program
import SignalStub.Stub.Server
import SignalStub.Text.CaseIgnorable
import SignalStub.Text.Cased
import SignalStub.Text.CharRanges
import SignalStub.Text.Document
import SignalStub.Text.GraphemeExtend
import SignalStub.Text.LetterCase
import SignalStub.Text.Lowercase
import SignalStub.Text.Quoted
import SignalStub.Text.Unprintable
import SignalStub.Proofs.Route.Literal
import SignalStub.Proofs.Settings.WritePath
import SignalStub.Proofs.Stub.Table
import SignalStub.Proofs.Text.Document
import SignalStub.Proofs.EventId.Sequence
import SignalStub.Proofs.Stub.Signals
import SignalStub.Proofs.EventId.Supply
import SignalStub.Proofs.Settings.Table
import SignalStub.Proofs.Settings.Environment
import SignalStub.Proofs.Stub.Listening
import SignalStub.Proofs.Stub.Availability
import SignalStub.Proofs.Stub.Steps
import SignalStub.Proofs.Stub.Interleaving
import SignalStub.Proofs.Stub.Noninterference
import SignalStub.Proofs.Stub.Session
import SignalStub.Proofs.Stub.Lifecycle
import SignalStub.Proofs.Stub.Stages
import SignalStub.Proofs.Number.Integer
import SignalStub.Proofs.Text.LetterCase
import SignalStub.Proofs.Number.Numeral
import SignalStub.Proofs.Outcome
import SignalStub.Proofs.Number.Rounding
import SignalStub.Proofs.Settings.Slot
import SignalStub.Proofs.Settings.Reading
import SignalStub.Proofs.Settings.Seed
import SignalStub.Proofs.CommandLine.Attached
import SignalStub.Proofs.Settings.Port
import SignalStub.Proofs.Settings.FreeText
import SignalStub.Proofs.Settings.PathLanguage
import SignalStub.Proofs.Number.Characters
import SignalStub.Proofs.EventId.Calls
import SignalStub.Proofs.EventId.Uniformity
import SignalStub.Proofs.EventId.Segments
import SignalStub.Proofs.CommandLine.Options
import SignalStub.Proofs.CommandLine.Overrides
import SignalStub.Proofs.Text.Quoted
import SignalStub.Proofs.Settings.PathFault
import SignalStub.Proofs.Http.Form
import SignalStub.Proofs.Settings.Address
import SignalStub.Proofs.Stub.NotFound
import SignalStub.Proofs.Number.Zero
import SignalStub.Proofs.Number.Caseless
import SignalStub.Proofs.Settings.Switch
