import MqAdmin.Command.Answer
import MqAdmin.Command.Basic
import MqAdmin.Command.Catalogue
import MqAdmin.CommandLine.Arguments
import MqAdmin.CommandLine.Connect
import MqAdmin.CommandLine.Grammar
import MqAdmin.CommandLine.Parameter
import MqAdmin.CommandLine.Run
import MqAdmin.Credentials.Basic
import MqAdmin.Credentials.Der
import MqAdmin.Credentials.Identity
import MqAdmin.Credentials.Pem
import MqAdmin.Credentials.PrivateKey
import MqAdmin.Dialogue.Basic
import MqAdmin.Dialogue.Rehearsal
import MqAdmin.Document.Basic
import MqAdmin.Document.JsonText
import MqAdmin.Document.Record
import MqAdmin.Duration
import MqAdmin.Ensure.Converge
import MqAdmin.Ensure.Target
import MqAdmin.Error
import MqAdmin.Health
import MqAdmin.Http.Address
import MqAdmin.Http.Charset
import MqAdmin.Http.Client
import MqAdmin.Http.Header
import MqAdmin.Http.Host
import MqAdmin.Http.Message
import MqAdmin.Http.Percent
import MqAdmin.Json.Basic
import MqAdmin.Json.Printer
import MqAdmin.KeyMap
import MqAdmin.Main
import MqAdmin.Mapping.Bundled
import MqAdmin.Mapping.Codec
import MqAdmin.Mapping.Issue
import MqAdmin.Mapping.Outcome
import MqAdmin.Mapping.Override
import MqAdmin.Mapping.Table
import MqAdmin.Number.Binary64
import MqAdmin.Number.Notation
import MqAdmin.Number.Reading
import MqAdmin.Proofs.Command.Payload
import MqAdmin.Proofs.Dialogue.Course
import MqAdmin.Proofs.Ensure.Convergence
import MqAdmin.Proofs.Ensure.Difference
import MqAdmin.Proofs.Ensure.Idempotence
import MqAdmin.Proofs.Ensure.Spelling
import MqAdmin.Proofs.KeyMap
import MqAdmin.Proofs.Mapping.RoundTrip
import MqAdmin.Proofs.Session.Course
import MqAdmin.Proofs.Session.Dispatch
import MqAdmin.Proofs.Session.Verdict
import MqAdmin.Proofs.Sync.Polling
import MqAdmin.Session.Basic
import MqAdmin.Session.Build
import MqAdmin.Session.Execute
import MqAdmin.Settings.Basic
import MqAdmin.Settings.File
import MqAdmin.Settings.Variables
import MqAdmin.Sync.Budget
import MqAdmin.Sync.Polling
import MqAdmin.Sync.StatusRule
import MqAdmin.Text.Base64
import MqAdmin.Text.Blank
import MqAdmin.Text.Case
import MqAdmin.Text.CaseTable
import MqAdmin.Text.Printable
import MqAdmin.Text.Quoted
import MqAdmin.Toml.Reader
import MqAdmin.Toml.Scalar
import MqAdmin.Toml.Table
import MqAdmin.Proofs.Duration
import MqAdmin.Proofs.Sync.Timing
import MqAdmin.Proofs.Mapping.Coherence
import MqAdmin.Proofs.Session.Routine
import MqAdmin.Proofs.Session.Strictness
import MqAdmin.Proofs.Session.Memory
import MqAdmin.Proofs.Mapping.Override
import MqAdmin.Proofs.Command.Codes
import MqAdmin.Proofs.Sync.MappedStatus
import MqAdmin.Proofs.Session.Credentials
import MqAdmin.Proofs.Mapping.Troubles
import MqAdmin.Proofs.Document.ComingBack
import MqAdmin.Proofs.Session.Secrecy
import MqAdmin.Proofs.Mapping.Stability
import MqAdmin.Proofs.Mapping.LetterCase
import MqAdmin.Proofs.Ensure.LeastChange
import MqAdmin.Proofs.Session.MappingFailure
import MqAdmin.Proofs.Command.Records
import MqAdmin.Proofs.Session.Construction
import MqAdmin.Proofs.Ensure.QueueManager
import MqAdmin.Proofs.Sync.Restart
import MqAdmin.Proofs.Text.Blank
import MqAdmin.Proofs.Command.Clause
import MqAdmin.Proofs.Mapping.WireName
import MqAdmin.Proofs.Mapping.Locality
import MqAdmin.Proofs.Sync.Budget
import MqAdmin.Proofs.CommandLine.Times
import MqAdmin.Proofs.Text.Pieces
import MqAdmin.Proofs.Credentials.Token
import MqAdmin.Proofs.Number.Integer
import MqAdmin.Proofs.CommandLine.Parameter
import MqAdmin.Proofs.CommandLine.Credentials
import MqAdmin.Proofs.Health
