import Stevedore.Build.Agent
import Stevedore.Build.Datastore
import Stevedore.Build.Server

/-!
# Choosing how a record is created

There is one builder for every workload. A router holds the builders that are available and uses
the first that is meant for a workload.
-/

namespace Stevedore.Build

/-- What creates the records of one workload. -/
inductive Builder where
  /-- Creates datastores on a backend. -/
  | datastore (backend : Backend)
  /-- Creates servers. -/
  | server
  /-- Creates agents. -/
  | agent
  deriving DecidableEq, Repr

namespace Builder

/-- All builders. -/
def all : List Builder := [datastore .embedded, datastore .relational, server, agent]

/-- The workload whose records a builder creates. -/
def workload : Builder → Workload
  | datastore backend => .datastore backend
  | server => .server
  | agent => .agent

/-- The name of a builder. -/
def name (b : Builder) : String := b.workload.kind

/-- Create a record. -/
def build (b : Builder) (id : String) (ctx : Context) : Except Fault TaskRecord :=
  match b with
  | datastore backend => Build.datastore backend id ctx
  | server => Build.server id ctx
  | agent => Build.agent id ctx

end Builder

/-- The builder for a workload. -/
def pick? (builders : List Builder) (workload : Workload) : Option Builder :=
  builders.find? fun b => b.workload == workload

/-- Create a record of a workload with the builders that are available. -/
def build (builders : List Builder) (workload : Workload) (id : String) (ctx : Context) :
    Except Fault TaskRecord :=
  match pick? builders workload with
  | some b => b.build id ctx
  | none => .error (.noBuilder workload)

end Stevedore.Build
