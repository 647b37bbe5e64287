import Provision.Acl.Entry
import Provision.Acl.Lifecycle
import Provision.Acl.Vocabulary
import Provision.Cluster.Description
import Provision.Cluster.Reference
import Provision.Connectivity.Checkpoint
import Provision.Connectivity.Lifecycle
import Provision.Connectivity.Target
import Provision.Dialogue.Basic
import Provision.Dialogue.Request
import Provision.Encoding.Base64
import Provision.Encoding.Pem
import Provision.Engine.Controller
import Provision.Engine.Poller
import Provision.Failure
import Provision.Json.Basic
import Provision.Json.Codec
import Provision.Json.Cursor
import Provision.Json.Fault
import Provision.Json.Lenient
import Provision.Json.Lexeme
import Provision.Json.Printer
import Provision.Json.Reader
import Provision.Json.Record
import Provision.Lifecycle.Continuation
import Provision.Lifecycle.Event
import Provision.Lifecycle.Handler
import Provision.Lifecycle.ResourceKind
import Provision.Logging.Filter
import Provision.Namespace.Lifecycle
import Provision.Namespace.Spec
import Provision.Number.Binary64
import Provision.Number.Shortest
import Provision.Number.Whole
import Provision.Number.Word
import Provision.Proofs.Acl.Identifier
import Provision.Proofs.Acl.Interference
import Provision.Proofs.Acl.Precedent
import Provision.Proofs.Acl.Recovery
import Provision.Proofs.Acl.Settlement
import Provision.Proofs.Acl.Spelling
import Provision.Proofs.Cluster.Reference
import Provision.Proofs.Connectivity.Completion
import Provision.Proofs.Connectivity.Held
import Provision.Proofs.Connectivity.Records
import Provision.Proofs.Connectivity.Recount
import Provision.Proofs.Connectivity.Reported
import Provision.Proofs.Connectivity.Run
import Provision.Proofs.Connectivity.Step
import Provision.Proofs.Connectivity.Submission
import Provision.Proofs.Dialogue.Conduct
import Provision.Proofs.Dialogue.Interference
import Provision.Proofs.Dialogue.Interleaving
import Provision.Proofs.Dialogue.Punctuality
import Provision.Proofs.Dialogue.Secrecy
import Provision.Proofs.Dialogue.Service
import Provision.Proofs.Dialogue.Timing
import Provision.Proofs.Dialogue.Transcript
import Provision.Proofs.Encoding.Base64
import Provision.Proofs.Encoding.Mangling
import Provision.Proofs.Encoding.Markers
import Provision.Proofs.Encoding.Pem
import Provision.Proofs.Engine.Carriage
import Provision.Proofs.Engine.Deadlines
import Provision.Proofs.Engine.Deletion
import Provision.Proofs.Engine.History
import Provision.Proofs.Engine.Identity
import Provision.Proofs.Engine.Polling
import Provision.Proofs.Engine.Refusal
import Provision.Proofs.Engine.Resumption
import Provision.Proofs.Engine.Retry
import Provision.Proofs.Engine.Run
import Provision.Proofs.Engine.Secrecy
import Provision.Proofs.Engine.Transience
import Provision.Proofs.Engine.Warrant
import Provision.Proofs.Json.Agreement
import Provision.Proofs.Json.Canonical
import Provision.Proofs.Json.Declarations
import Provision.Proofs.Json.Decoding
import Provision.Proofs.Json.Leniency
import Provision.Proofs.Json.Members
import Provision.Proofs.Json.Rearrangement
import Provision.Proofs.Json.RoundTrip
import Provision.Proofs.Json.Spelling
import Provision.Proofs.Lifecycle.Identifier
import Provision.Proofs.Lifecycle.Spelling
import Provision.Proofs.Lifecycle.Validation
import Provision.Proofs.Namespace.Application
import Provision.Proofs.Namespace.Comparison
import Provision.Proofs.Namespace.Convergence
import Provision.Proofs.Namespace.History
import Provision.Proofs.Namespace.Resubmission
import Provision.Proofs.Namespace.Run
import Provision.Proofs.Namespace.Step
import Provision.Proofs.Number.Digits
import Provision.Proofs.Number.Numeral
import Provision.Proofs.Number.Written
import Provision.Proofs.Result
import Provision.Proofs.Service.Documents
import Provision.Proofs.Service.Replies
import Provision.Proofs.Session.Brokers
import Provision.Proofs.Session.Calls
import Provision.Proofs.Session.Credentials
import Provision.Proofs.Session.Declarations
import Provision.Proofs.Session.Interference
import Provision.Proofs.Session.Principal
import Provision.Proofs.Session.Recovery
import Provision.Proofs.Session.SideBySide
import Provision.Proofs.Session.Stages
import Provision.Proofs.Settings.Layers
import Provision.Proofs.Settings.Rendering
import Provision.Proofs.Settings.Texts
import Provision.Proofs.Settings.Variables
import Provision.Proofs.Text.Ascii
import Provision.Proofs.Text.Blanks
import Provision.Proofs.Text.Casing
import Provision.Proofs.Text.Occurrences
import Provision.Proofs.Text.Separated
import Provision.Proofs.Time.Reading
import Provision.Proofs.Topic.Arrival
import Provision.Proofs.Topic.Contents
import Provision.Proofs.Topic.Declaration
import Provision.Proofs.Topic.Growth
import Provision.Proofs.Topic.Interference
import Provision.Proofs.Topic.Leaders
import Provision.Proofs.Topic.Recovery
import Provision.Proofs.Topic.Retention
import Provision.Proofs.Topic.Settlement
import Provision.Proofs.Topic.Waiting
import Provision.Rehearsal.Broker
import Provision.Rehearsal.Script
import Provision.Rehearsal.Stage
import Provision.Rehearsal.Warehouse
import Provision.Rehearsal.World
import Provision.Service.ControlPlane
import Provision.Service.Exchange
import Provision.Service.Kubeconfig
import Provision.Service.Operation
import Provision.Service.SecretStore
import Provision.Service.Warehouse
import Provision.Session.AdminFailure
import Provision.Session.Credentials
import Provision.Session.Handle
import Provision.Session.Principal
import Provision.Session.Properties
import Provision.Settings.Basic
import Provision.Settings.Environment
import Provision.Settings.File
import Provision.Settings.Layer
import Provision.Settings.Loading
import Provision.Text.Blank
import Provision.Text.Case
import Provision.Text.CaseTable
import Provision.Text.InvisibleTable
import Provision.Text.LetterTable
import Provision.Text.Percent
import Provision.Text.Pieces
import Provision.Text.Quoted
import Provision.Text.Utf8
import Provision.Time.Date
import Provision.Time.Timestamp
import Provision.Topic.Lifecycle
import Provision.Topic.Spec
import Provision.Yaml.Lexer
import Provision.Yaml.Node
import Provision.Yaml.Reader
import Provision.Yaml.Scalar
import Provision.Yaml.Source
import Provision.Yaml.Token
