import Stevedore.Binary64.Basic
import Stevedore.Binary64.Reader
import Stevedore.Binary64.Shortest
import Stevedore.Binary64.Text
import Stevedore.Build.Agent
import Stevedore.Build.Basic
import Stevedore.Build.Datastore
import Stevedore.Build.Router
import Stevedore.Build.Server
import Stevedore.Cluster.Container
import Stevedore.Cluster.Discovery
import Stevedore.Cluster.Identity
import Stevedore.Cluster.Key
import Stevedore.Cluster.Node
import Stevedore.Cluster.Ports
import Stevedore.Cluster.Resources
import Stevedore.Cluster.Role
import Stevedore.Cluster.TaskRecord
import Stevedore.Cluster.TaskState
import Stevedore.Cluster.Variables
import Stevedore.Cluster.Workload
import Stevedore.Config.Basic
import Stevedore.Config.Derived
import Stevedore.Config.Document
import Stevedore.Config.Handle
import Stevedore.Config.Layers
import Stevedore.Config.Load
import Stevedore.Config.Path
import Stevedore.Config.Reading
import Stevedore.Config.Validity
import Stevedore.Json.Basic
import Stevedore.Json.Coded
import Stevedore.Json.Fields
import Stevedore.Json.Printer
import Stevedore.Json.Reader
import Stevedore.Json.Token
import Stevedore.KeyMap
import Stevedore.Manager.Call
import Stevedore.Manager.Client
import Stevedore.Manager.Event
import Stevedore.Manager.EventStream
import Stevedore.Manager.Fault
import Stevedore.Manager.Framing
import Stevedore.Manager.Launch
import Stevedore.Manager.Resource
import Stevedore.Manager.TaskInfo
import Stevedore.Observe.Format
import Stevedore.Observe.Lifecycle
import Stevedore.Scheduling.Cycle
import Stevedore.Scheduling.EventQueue
import Stevedore.Scheduling.Events
import Stevedore.Scheduling.Launch
import Stevedore.Scheduling.LockTable
import Stevedore.Scheduling.Nodes
import Stevedore.Scheduling.OfferSignal
import Stevedore.Scheduling.Operator
import Stevedore.Scheduling.Placement
import Stevedore.Scheduling.Probe
import Stevedore.Scheduling.Run
import Stevedore.Scheduling.Script
import Stevedore.Scheduling.StatusUpdate
import Stevedore.Scheduling.Supervision
import Stevedore.Scheduling.Tick
import Stevedore.Scheduling.World
import Stevedore.Store.Access
import Stevedore.Store.Document
import Stevedore.Store.Fault
import Stevedore.Store.File
import Stevedore.Store.Memory
import Stevedore.Store.Nodes
import Stevedore.Store.Records
import Stevedore.Text.Base64
import Stevedore.Text.Blank
import Stevedore.Text.Case
import Stevedore.Text.CaseTable
import Stevedore.Text.Count
import Stevedore.Text.Quoted
import Stevedore.Text.ShapelessTable
import Stevedore.Text.Utf8
import Stevedore.Toml.Basic
import Stevedore.Toml.Moment
import Stevedore.Toml.Number
import Stevedore.Toml.Quoted
import Stevedore.Toml.Reader
import Stevedore.Toml.Table
import Stevedore.Proofs.KeyMap
import Stevedore.Proofs.Digits
import Stevedore.Proofs.ShortestDecimal
import Stevedore.Proofs.DoubleText
import Stevedore.Proofs.StringText
import Stevedore.Proofs.JsonText
import Stevedore.Proofs.Lossless
import Stevedore.Proofs.RecordText
import Stevedore.Proofs.FiniteAmounts
import Stevedore.Proofs.Keys
import Stevedore.Proofs.RecordAccess
import Stevedore.Proofs.Sections
import Stevedore.Proofs.Creation
import Stevedore.Proofs.LaunchEnd
import Stevedore.Proofs.Lifecycle
import Stevedore.Proofs.Conduct
import Stevedore.Proofs.LaunchOnce
import Stevedore.Proofs.Upkeep
import Stevedore.Proofs.OfferAccounting
import Stevedore.Proofs.ExactCreation
import Stevedore.Proofs.Composition
import Stevedore.Proofs.Headcount
import Stevedore.Proofs.Completion
import Stevedore.Proofs.OfferSignal
import Stevedore.Proofs.Staffing
import Stevedore.Proofs.Interleaving
import Stevedore.Proofs.HeldOffers
import Stevedore.Proofs.PendingTasks
import Stevedore.Proofs.Steps
import Stevedore.Proofs.Reconciliation
import Stevedore.Proofs.Fitting
import Stevedore.Proofs.Contents
import Stevedore.Proofs.ServerUrl
import Stevedore.Proofs.Oblivious
import Stevedore.Proofs.Restarts
import Stevedore.Proofs.Registration
import Stevedore.Proofs.Convergence
import Stevedore.Proofs.Confirmation
import Stevedore.Proofs.FirstFit
import Stevedore.Proofs.ScaleDown
import Stevedore.Proofs.Description
import Stevedore.Proofs.FailedLaunch
import Stevedore.Proofs.Shutdown
import Stevedore.Proofs.ConcurrentChanges
import Stevedore.Proofs.MapText
import Stevedore.Proofs.FileStore
import Stevedore.Proofs.SavedRecords
import Stevedore.Proofs.TaskInfoText
import Stevedore.Proofs.WireText
import Stevedore.Proofs.Utf8Text
import Stevedore.Proofs.Framing
import Stevedore.Proofs.EventRelay
import Stevedore.Proofs.OwnKeys
import Stevedore.Proofs.Isolation
import Stevedore.Proofs.ClientSession
import Stevedore.Proofs.LockTable
import Stevedore.Proofs.Chunking
import Stevedore.Proofs.Building
import Stevedore.Proofs.PortChoice
import Stevedore.Proofs.HostPorts
import Stevedore.Proofs.Conservation
import Stevedore.Proofs.Names
import Stevedore.Proofs.StaleNodes
