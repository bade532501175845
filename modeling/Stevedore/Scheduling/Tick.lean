import Stevedore.Build.Router
import Stevedore.Scheduling.Events
import Stevedore.Scheduling.Nodes

/-!
# Comparing what is wanted with what is there

A tick compares the wanted number of tasks of each role with the records that are there and creates
at most one record for every role that is short of tasks, provided that the role it depends on is
healthy. The first server fixes the address of the control plane for good. Then nodes without a
task are removed, and tasks whose nodes are not ready are stopped.

Whatever concerns a single role or a single node may fail without stopping the rest; the next tick
tries again.
-/

namespace Stevedore.Scheduling

/-- What a tick has changed. -/
structure TickReport where
  /-- The tasks whose records were created. -/
  created : List String
  /-- The tasks that were stopped. -/
  killed : List String
  /-- The nodes that were removed. -/
  forgotten : List String
  deriving DecidableEq, Repr

/-- Which roles are healthy. -/
structure Health where
  /-- A datastore answers. -/
  datastore : Bool
  /-- A server is running and the control plane answers. -/
  server : Bool
  deriving DecidableEq, Repr

/-- Whether a role is healthy. Nothing depends on agents. -/
def Health.of (h : Health) : Role → Bool
  | .datastore => h.datastore
  | .server => h.server
  | .agent => true

/-- Whether the role that a role depends on is healthy. -/
def Health.admits (h : Health) (role : Role) : Bool :=
  role.dependsOn.all h.of

/-- The running tasks of a role. -/
def running (records : List TaskRecord) (role : Role) : List TaskRecord :=
  records.filter fun r => r.role = role && r.state = .running

/-- How many tasks of a role have not stopped. -/
def activeCount (records : List TaskRecord) (role : Role) : Nat :=
  (records.filter fun r => r.role = role && !r.state.isTerminal).length

/-- Whether a role is short of tasks. -/
def isShort (cfg : Config) (records : List TaskRecord) (role : Role) : Bool :=
  activeCount records role < (cfg.desired role).toNat

namespace Run

/-- Ask which roles are healthy. The control plane is only asked while a server is running. -/
def probe (cfg : Config) (records : List TaskRecord) : Run Health := do
  let datastore ← askDatastore (running records .datastore)
  let server ←
    if (running records .server).isEmpty then pure false else askServer cfg
  return ⟨datastore, server⟩

/-- Create the record of a new task of a role, if that can be done now. -/
def createRecord (role : Role) (cfg : Config) (identity : Identity) (used : List UInt32) :
    Run (Option TaskRecord) := do
  let id ← drawId
  let now ← now
  match Build.build Build.Builder.all (cfg.workload role) id ⟨cfg, identity, used, now⟩ with
  | .error _ => return none
  | .ok r =>
    match ← attempt (Records.save r) with
    | .error _ => return none
    | .ok () => return some r

/-- Fix the address of the control plane when a server has been created and it is still open. -/
def fixServer (role : Role) (cfg : Config) (settings : Settings) : Run Settings :=
  if role = .server ∧ settings.serverUrl = none then do
    let fixed : Settings := ⟨some cfg.serverUrl, some cfg.server.hostPort⟩
    let _ ← attempt (Records.saveSettings fixed)
    return fixed
  else pure settings

/-- Create records for those of some roles that are short of tasks and may start, and say which. -/
def createMissing (cfg : Config) (identity : Identity) (records : List TaskRecord)
    (health : Health) : List Role → Settings → List UInt32 → Run (List String)
  | [], _, _ => pure []
  | role :: roles, settings, used => do
    if isShort cfg records role && health.admits role then
      match ← createRecord role cfg identity used with
      | none => createMissing cfg identity records health roles settings used
      | some r =>
        let settings ← fixServer role cfg settings
        let rest ←
          createMissing cfg identity records health roles settings (used ++ Ports.used [r])
        return r.id :: rest
    else createMissing cfg identity records health roles settings used

/-- What is done about one node: nothing, unless it names a task. A node of a task that is not
there is removed; a task that is running on a node that is not ready is stopped. -/
def tendNode (records : List TaskRecord) (node : Node) (report : TickReport) : Run TickReport := do
  match node.taskId with
  | none => return report
  | some id =>
    match records.find? fun r => r.id == id with
    | none =>
      match ← attempt (forgetNode node.name) with
      | .ok () => return { report with forgotten := report.forgotten ++ [node.name] }
      | .error _ => return report
    | some r =>
      if node.ready ≠ .ready ∧ r.state = .running then
        match ← attempt (killTask r) with
        | .ok () => return { report with killed := report.killed ++ [r.id] }
        | .error _ => return report
      else return report

/-- Do what is to be done about each of some nodes. -/
def tendNodes (records : List TaskRecord) : List Node → TickReport → Run TickReport
  | [], report => pure report
  | node :: rest, report => do
    tendNodes records rest (← tendNode records node report)

/-- Do what is to be done about the nodes, if they can be listed. -/
def nodePass (records : List TaskRecord) (report : TickReport) : Run TickReport := do
  match ← attempt nodes with
  | .error _ => return report
  | .ok nodes => tendNodes records nodes report

/-- Compare what a configuration wants with what is there, and do something about it. -/
def tick (base : Config) : Run TickReport := do
  let settings ← Records.settings
  let identity ← Records.identity
  let cfg := base.withSettings settings
  let records ← Records.listAll
  let health ← probe cfg records
  let created ←
    createMissing cfg identity records health Role.all settings (Ports.used records)
  nodePass records ⟨created, [], []⟩

end Run

end Stevedore.Scheduling
