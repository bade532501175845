import Stevedore.Cluster.Node
import Stevedore.Cluster.TaskRecord
import Stevedore.Config.Handle
import Stevedore.Manager.Call
import Stevedore.Manager.Fault
import Stevedore.Scheduling.LockTable
import Stevedore.Store.Memory

/-!
# The world of the scheduler

Everything that the scheduler acts on. A `World` has a durable part, the store, and the memory of
the running process, which a restart loses; it also remembers what was said to the manager and
which questions were put to the cluster. What the scheduler cannot foresee is fixed in advance by
its `Surroundings`: which accesses fail, how the manager takes each call, what the clock shows and
which ids are drawn. Each of these is a function of how often it has been consulted, so every
pattern of failures is covered by some surroundings.
-/

namespace Stevedore.Scheduling

/-- What becomes of a call to the manager. -/
inductive Delivery where
  /-- It takes effect. -/
  | applied
  /-- It takes no effect, and a fault is reported. -/
  | refused (fault : Manager.Fault)
  /-- It takes effect, but a fault is reported. -/
  | unanswered (fault : Manager.Fault)
  deriving DecidableEq, Repr

/-- What the scheduler cannot foresee. -/
structure Surroundings where
  /-- Why the n-th read of the store fails, if it does. -/
  readFault : Nat → Option String
  /-- Why the n-th write of the store fails, if it does. -/
  writeFault : Nat → Option String
  /-- What becomes of the n-th call. -/
  delivery : Nat → Manager.Call → Delivery
  /-- What the clock shows when it is read for the n-th time, in milliseconds. -/
  clock : Nat → UInt64
  /-- The n-th id that is drawn. -/
  taskId : Nat → String
  /-- What the n-th question whether one of the running datastores answers yields. -/
  datastoreAnswers : Nat → List TaskRecord → Bool
  /-- What the n-th question whether the control plane answers yields. -/
  serverAnswers : Nat → Config → Bool
  /-- Why the n-th listing of the nodes fails, if it does and the nodes are not in the store. -/
  nodeListFault : Nat → Option String
  /-- Why the n-th removal of a node fails, if it does and the nodes are not in the store. -/
  nodeForgetFault : Nat → Option String
  /-- The name of the machine that the framework runs on, if it has one. -/
  machine : Option String

/-- How often the surroundings have been consulted. -/
structure Tally where
  /-- Reads of the store. -/
  reads : Nat := 0
  /-- Writes of the store. -/
  writes : Nat := 0
  /-- Calls to the manager. -/
  calls : Nat := 0
  /-- Readings of the clock. -/
  times : Nat := 0
  /-- Drawn ids. -/
  ids : Nat := 0
  /-- Questions to datastores and control plane. -/
  questions : Nat := 0
  /-- Listings and removals of nodes. -/
  nodes : Nat := 0
  deriving DecidableEq, Repr

/-- Something said to the manager. -/
inductive Contact where
  /-- A stream of events was asked for, and opened or not. -/
  | subscribed (info : Manager.FrameworkInfo) (opened : Bool)
  /-- A call took effect. -/
  | called (call : Manager.Call)
  deriving DecidableEq

/-- A call as it was made. -/
structure Issue where
  /-- The call. -/
  call : Manager.Call
  /-- What became of it. -/
  delivery : Delivery
  /-- What the store held when it was made. -/
  store : Store.Memory
  deriving DecidableEq

/-- A question whether a part of the cluster is healthy. -/
inductive Question where
  /-- Whether one of these running datastores answers. -/
  | datastore (running : List TaskRecord)
  /-- Whether the control plane answers on this host and port. -/
  | server (host : String) (port : UInt32)
  deriving DecidableEq, Repr

/-- Where the nodes of the cluster are listed. -/
inductive NodeSource where
  /-- In the store. -/
  | stored
  /-- In a list of their own. -/
  | listed (nodes : List Node)
  deriving DecidableEq, Repr

/-- Everything that the scheduler acts on. -/
structure World where
  /-- The store. -/
  store : Store.Memory
  /-- The nodes of the cluster. -/
  nodes : NodeSource
  /-- What was said to the manager, in order. -/
  contacts : List Contact
  /-- Every call that was made, in order, whatever became of it. -/
  issued : List Issue
  /-- What was asked of the cluster, in order. -/
  asked : List Question
  /-- How often the surroundings have been consulted. -/
  tally : Tally
  /-- The name under which this process keeps its records: the framework's name at the start. -/
  framework : String
  /-- The configuration in force in this process. -/
  config : ConfigHandle
  /-- Whether this process believes that the manager holds back offers. -/
  suppressed : Bool
  /-- The locks of this process. -/
  locks : LockTable

namespace World

/-- A process that has just started on a store. -/
def start (cfg : Config) (store : Store.Memory) (nodes : NodeSource) : World where
  store := store
  nodes := nodes
  contacts := []
  issued := []
  asked := []
  tally := {}
  framework := cfg.framework.name
  config := .ofConfig cfg
  suppressed := false
  locks := .fresh

/-- The process has ended, and a new one has started with a freshly loaded configuration. -/
def restart (w : World) (cfg : Config) : World :=
  { w with
    framework := cfg.framework.name
    config := .ofConfig cfg
    suppressed := false
    locks := .fresh }

/-- The calls that took effect, in order. -/
def calls (w : World) : List Manager.Call :=
  w.contacts.filterMap fun
    | .called call => some call
    | .subscribed .. => none

end World

end Stevedore.Scheduling
