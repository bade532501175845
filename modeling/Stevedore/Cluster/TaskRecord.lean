import Stevedore.Cluster.Container
import Stevedore.Cluster.Discovery
import Stevedore.Cluster.Key
import Stevedore.Cluster.TaskState
import Stevedore.Cluster.Workload

/-!
# Task records

What the framework knows of one task. A record is created once with everything the task needs, and
from then on only follows the task's life: its state, where it runs, its address, the host ports
that an offer has supplied, and when it last changed.
-/

namespace Stevedore

/-- The record of one task. -/
structure TaskRecord where
  /-- The task's id, never used for another task. -/
  id : String
  /-- The name of its role within the framework. -/
  name : String
  /-- The framework that the task belongs to. -/
  framework : String
  /-- What it runs. -/
  workload : Workload
  /-- What it needs of the machine. -/
  resources : Resources
  /-- The limits enforced on it, if any. -/
  limits : Option Limits
  /-- How its container is started. -/
  container : ContainerSpec
  /-- How it can be found. -/
  discovery : Discovery
  /-- Further named texts handed to the manager. -/
  labels : Variables
  /-- How many tasks of its role were wanted when it was created. -/
  instances : UInt32
  /-- Where it stands in its life. -/
  state : TaskState
  /-- The machine on which it was launched. -/
  agentId : Option String
  /-- The name of that machine. -/
  agentHostname : Option String
  /-- The address of its container, once it runs. -/
  address : Option String
  /-- When it was created, in milliseconds. -/
  createdAt : UInt64
  /-- When it last changed, in milliseconds. -/
  updatedAt : UInt64
  deriving DecidableEq, Repr

namespace TaskRecord

/-- The role of a task. -/
def role (r : TaskRecord) : Role := r.workload.role

/-- The key under which a record is stored. -/
def storeKey (r : TaskRecord) : String :=
  Key.task r.framework r.role r.id

/-- The host port of the first published port, once it is known. -/
def firstHostPort? (r : TaskRecord) : Option UInt32 :=
  (r.container.ports.head?.map (·.hostPort)).filter (· != 0)

/-- Whether a record comes before another, or is as old and has no greater id. -/
def isBefore (a b : TaskRecord) : Bool :=
  a.createdAt < b.createdAt || (a.createdAt == b.createdAt && decide (a.id ≤ b.id))

/-- The form of a record. -/
def toJson (r : TaskRecord) : Json :=
  Json.record
    [Json.field "id" r.id, Json.field "name" r.name, Json.field "framework" r.framework,
      Json.field "workload" r.workload, Json.field "resources" r.resources,
      Json.fieldIfAny "limits" r.limits, Json.field "container" r.container,
      Json.field "discovery" r.discovery, Json.fieldUnlessEmpty "labels" r.labels,
      Json.field "instances" r.instances, Json.field "state" r.state,
      Json.fieldIfAny "agentId" r.agentId, Json.fieldIfAny "agentHostname" r.agentHostname,
      Json.fieldIfAny "address" r.address, Json.field "createdAt" r.createdAt,
      Json.field "updatedAt" r.updatedAt]

/-- The record of a form. -/
def ofJson? (j : Json) : Option TaskRecord := do
  let f ← Json.fields?
    ["id", "name", "framework", "workload", "resources", "limits", "container", "discovery",
      "labels", "instances", "state", "agentId", "agentHostname", "address", "createdAt",
      "updatedAt"] j
  return {
    id := ← f.required "id"
    name := ← f.required "name"
    framework := ← f.required "framework"
    workload := ← f.required "workload"
    resources := ← f.required "resources"
    limits := ← f.optional "limits"
    container := ← f.required "container"
    discovery := ← f.required "discovery"
    labels := ← f.orDefault "labels" []
    instances := ← f.required "instances"
    state := ← f.orDefault "state" .unset
    agentId := ← f.optional "agentId"
    agentHostname := ← f.optional "agentHostname"
    address := ← f.optional "address"
    createdAt := ← f.required "createdAt"
    updatedAt := ← f.required "updatedAt" }

end TaskRecord

instance : Json.Coded TaskRecord where
  encode := TaskRecord.toJson
  decode? := TaskRecord.ofJson?

end Stevedore
