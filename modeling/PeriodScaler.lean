import PeriodScaler.Calendar.Clock
import PeriodScaler.Calendar.Date
import PeriodScaler.Calendar.Instant
import PeriodScaler.Calendar.Pattern
import PeriodScaler.Calendar.Span
import PeriodScaler.Calendar.Zone
import PeriodScaler.Cluster.Answer
import PeriodScaler.Cluster.Connection
import PeriodScaler.Cluster.Kubeconfig
import PeriodScaler.Cluster.Network
import PeriodScaler.Cluster.ObjectShape
import PeriodScaler.Cluster.PodShape
import PeriodScaler.Cluster.Shape
import PeriodScaler.Cluster.Store
import PeriodScaler.Cluster.Target
import PeriodScaler.Cluster.VolumeShape
import PeriodScaler.Cluster.Workloads
import PeriodScaler.Compute.Client
import PeriodScaler.Compute.Credentials
import PeriodScaler.Compute.Filter
import PeriodScaler.Compute.Instance
import PeriodScaler.Compute.ServiceAccount
import PeriodScaler.Compute.Token
import PeriodScaler.Controller.Address
import PeriodScaler.Controller.Backoff
import PeriodScaler.Controller.Config
import PeriodScaler.Controller.LogFilter
import PeriodScaler.Controller.LogPattern
import PeriodScaler.Controller.Metrics
import PeriodScaler.Controller.Startup
import PeriodScaler.Controller.Watch
import PeriodScaler.Crypto.Certificate
import PeriodScaler.Crypto.EdwardsCurve
import PeriodScaler.Crypto.Element
import PeriodScaler.Crypto.EllipticCurve
import PeriodScaler.Crypto.Modular
import PeriodScaler.Crypto.PrivateKey
import PeriodScaler.Crypto.RsaKey
import PeriodScaler.Cycle.Call
import PeriodScaler.Cycle.Chain
import PeriodScaler.Cycle.Change
import PeriodScaler.Cycle.Context
import PeriodScaler.Cycle.Error
import PeriodScaler.Cycle.Reconcile
import PeriodScaler.Cycle.Scripted
import PeriodScaler.Cycle.Stages
import PeriodScaler.Decimal.Nearest
import PeriodScaler.Decimal.Shortest
import PeriodScaler.Encoding.Base64
import PeriodScaler.Encoding.Der
import PeriodScaler.Encoding.Pem
import PeriodScaler.Encoding.PemSection
import PeriodScaler.Encoding.Percent
import PeriodScaler.Fault
import PeriodScaler.Hash.Sha256
import PeriodScaler.Hash.Sha512
import PeriodScaler.HostName.Ascii
import PeriodScaler.HostName.Direction
import PeriodScaler.HostName.Joining
import PeriodScaler.HostName.Mapping
import PeriodScaler.HostName.Punycode
import PeriodScaler.Http.Exchange
import PeriodScaler.Http.Host
import PeriodScaler.Http.Ip
import PeriodScaler.Http.ServerName
import PeriodScaler.Http.Status
import PeriodScaler.Http.Uri
import PeriodScaler.Http.Url
import PeriodScaler.Json.Basic
import PeriodScaler.Json.MergePatch
import PeriodScaler.Json.Reader
import PeriodScaler.Json.Record
import PeriodScaler.Json.Settled
import PeriodScaler.Json.Writer
import PeriodScaler.Main
import PeriodScaler.Manifest.Definition
import PeriodScaler.Manifest.ScalerSchema
import PeriodScaler.Manifest.Schema
import PeriodScaler.Memory.Instances
import PeriodScaler.Memory.Store
import PeriodScaler.Memory.Table
import PeriodScaler.Memory.Workloads
import PeriodScaler.Memory.World
import PeriodScaler.Period.Declaration
import PeriodScaler.Period.Record
import PeriodScaler.Period.Resolution
import PeriodScaler.Period.Window
import PeriodScaler.Program
import PeriodScaler.Proofs.Answers
import PeriodScaler.Proofs.Calendar.Shift
import PeriodScaler.Proofs.Calendar.ZoneForms
import PeriodScaler.Proofs.Calendar.ZoneText
import PeriodScaler.Proofs.Cluster.Scaling
import PeriodScaler.Proofs.Cluster.Writes
import PeriodScaler.Proofs.Compute.Clauses
import PeriodScaler.Proofs.Compute.Exchanges
import PeriodScaler.Proofs.Compute.Lifetimes
import PeriodScaler.Proofs.Compute.Listing
import PeriodScaler.Proofs.Compute.Quoting
import PeriodScaler.Proofs.Compute.Tokens
import PeriodScaler.Proofs.Controller.Backoff
import PeriodScaler.Proofs.Controller.Watch
import PeriodScaler.Proofs.Cycle.Attempts
import PeriodScaler.Proofs.Cycle.Cancellation
import PeriodScaler.Proofs.Cycle.Chains
import PeriodScaler.Proofs.Cycle.Course
import PeriodScaler.Proofs.Cycle.Delays
import PeriodScaler.Proofs.Cycle.Ending
import PeriodScaler.Proofs.Cycle.Failures
import PeriodScaler.Proofs.Cycle.Idempotence
import PeriodScaler.Proofs.Cycle.Leaving
import PeriodScaler.Proofs.Cycle.LongWaits
import PeriodScaler.Proofs.Cycle.Marking
import PeriodScaler.Proofs.Cycle.OneShot
import PeriodScaler.Proofs.Cycle.Recording
import PeriodScaler.Proofs.Cycle.Retries
import PeriodScaler.Proofs.Cycle.Upkeep
import PeriodScaler.Proofs.Cycle.Vanishing
import PeriodScaler.Proofs.Cycle.Waiting
import PeriodScaler.Proofs.Cycle.Ways
import PeriodScaler.Proofs.Cycle.Writes
import PeriodScaler.Proofs.Forms
import PeriodScaler.Proofs.Json.Canonical
import PeriodScaler.Proofs.Json.Fields
import PeriodScaler.Proofs.Json.Merging
import PeriodScaler.Proofs.Json.Reading
import PeriodScaler.Proofs.Json.Records
import PeriodScaler.Proofs.Memory.Carriers
import PeriodScaler.Proofs.Memory.InstanceTable
import PeriodScaler.Proofs.Memory.Order
import PeriodScaler.Proofs.Memory.ScalerStore
import PeriodScaler.Proofs.Memory.Table
import PeriodScaler.Proofs.Memory.Versions
import PeriodScaler.Proofs.Memory.WorkloadTable
import PeriodScaler.Proofs.Period.Choice
import PeriodScaler.Proofs.Period.Days
import PeriodScaler.Proofs.Period.Range
import PeriodScaler.Proofs.Period.Weekly
import PeriodScaler.Proofs.Period.Windows
import PeriodScaler.Proofs.Period.ZoneFlaws
import PeriodScaler.Proofs.Run
import PeriodScaler.Proofs.Scaling.Accounts
import PeriodScaler.Proofs.Scaling.Bulkhead
import PeriodScaler.Proofs.Scaling.Conservation
import PeriodScaler.Proofs.Scaling.Courses
import PeriodScaler.Proofs.Scaling.Legs
import PeriodScaler.Proofs.Scaling.Lines
import PeriodScaler.Proofs.Scaling.Lowering
import PeriodScaler.Proofs.Scaling.Outcomes
import PeriodScaler.Proofs.Scaling.Passes
import PeriodScaler.Proofs.Scaling.Reach
import PeriodScaler.Proofs.Scaling.Repetition
import PeriodScaler.Proofs.Scaling.Restoration
import PeriodScaler.Proofs.Scaling.Sweeps
import PeriodScaler.Proofs.Scaling.Tables
import PeriodScaler.Proofs.Sharing.Pool
import PeriodScaler.Proofs.Sharing.Updates
import PeriodScaler.Proofs.Sharing.Visits
import PeriodScaler.Proofs.Text.Decimal
import PeriodScaler.Proofs.Text.Pieces
import PeriodScaler.Proofs.Transcript
import PeriodScaler.Scaler.Metadata
import PeriodScaler.Scaler.Object
import PeriodScaler.Scaler.Selection
import PeriodScaler.Scaling.Instances
import PeriodScaler.Scaling.Kinds
import PeriodScaler.Scaling.Report
import PeriodScaler.Scaling.Workloads
import PeriodScaler.Text.Alphanumeric
import PeriodScaler.Text.Blank
import PeriodScaler.Text.Composed
import PeriodScaler.Text.Decimal
import PeriodScaler.Text.Hidden
import PeriodScaler.Text.Quoted
import PeriodScaler.Text.Runs
import PeriodScaler.Workload.Basic
import PeriodScaler.Yaml.Cursor
import PeriodScaler.Yaml.Event
import PeriodScaler.Yaml.Property
import PeriodScaler.Yaml.Record
import PeriodScaler.Yaml.Scalar
import PeriodScaler.Yaml.Token
import PeriodScaler.Yaml.Value
import PeriodScaler.Yaml.Writer
