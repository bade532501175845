import Stevedore.Cluster.Role

/-!
# Workloads

What a task runs: its role and, for the datastore, the backend that keeps the data. As JSON a
workload is an object with the role and the backend, the latter only for the datastore.
-/

namespace Stevedore

/-- Where the datastore keeps the cluster's state. -/
inductive Backend where
  /-- A key-value store of its own. -/
  | embedded
  /-- A relational database. -/
  | relational
  deriving DecidableEq, Repr

namespace Backend

/-- Both backends. -/
def all : List Backend := [embedded, relational]

/-- The name of a backend. -/
def name : Backend → String
  | embedded => "embedded"
  | relational => "relational"

end Backend

instance : Json.Coded Backend where
  encode backend := .text backend.name
  decode? := Json.choice? Backend.all Backend.name

/-- What a task runs. -/
inductive Workload where
  /-- The datastore on one of its backends. -/
  | datastore (backend : Backend)
  /-- The control plane. -/
  | server
  /-- A member of the cluster. -/
  | agent
  deriving DecidableEq, Repr

namespace Workload

/-- The four workloads. -/
def all : List Workload := [datastore .embedded, datastore .relational, server, agent]

/-- The role of a workload. -/
def role : Workload → Role
  | datastore _ => .datastore
  | server => .server
  | agent => .agent

/-- A name that tells every workload from the others. -/
def kind : Workload → String
  | datastore .embedded => "datastore-embedded"
  | datastore .relational => "datastore-relational"
  | server => "server"
  | agent => "agent"

/-- The form of a workload. -/
def toJson : Workload → Json
  | datastore backend => .object [("role", .text "datastore"), ("backend", Json.encode backend)]
  | server => .object [("role", .text "server")]
  | agent => .object [("role", .text "agent")]

/-- The workload of a role and the form of its backend, `null` for a role without one. -/
def withBackend? (role : Role) (backend : Json) : Option Workload :=
  match role, backend with
  | .datastore, j => (Json.decode? j).map datastore
  | .server, .null => some server
  | .agent, .null => some agent
  | _, _ => none

/-- The form of a backend that stands before the role. There an empty object also serves as the
content of a choice. -/
def early : Json → Json
  | .object [(name, .object [])] => .object [(name, .null)]
  | j => j

/-- The workload of a form. The role may come before or after the backend; both may also be given
by place, and then both have to be given. -/
def ofJson? : Json → Option Workload
  | .object members =>
    match members.filter fun m => m.1 == "role" || m.1 == "backend" with
    | [("role", role)] => do withBackend? (← Json.decode? role) .null
    | [("role", role), ("backend", backend)] => do withBackend? (← Json.decode? role) backend
    | [("backend", backend), ("role", role)] =>
      do withBackend? (← Json.decode? role) (early backend)
    | _ => none
  | .list [role, backend] => do withBackend? (← Json.decode? role) backend
  | _ => none

end Workload

instance : Json.Coded Workload where
  encode := Workload.toJson
  decode? := Workload.ofJson?

end Stevedore
