import Stevedore.Manager.TaskInfo

/-!
# Calls

What the framework says to the manager. A call names its kind and carries the part that belongs to
it; the other parts are absent from a call that this program makes, though not necessarily from
one that it reads. The framework's id is left open here and filled in when the call is sent.
-/

namespace Stevedore.Manager

/-- The kind of a call. -/
inductive CallKind where
  /-- Open a stream of events. -/
  | subscribe
  /-- Give up the framework and all its tasks. -/
  | teardown
  /-- Launch tasks on an offer. -/
  | accept
  /-- Give offers back. -/
  | decline
  /-- Ask for offers again. -/
  | revive
  /-- Stop a task. -/
  | kill
  /-- Confirm a status. -/
  | acknowledge
  /-- Ask for the current statuses of tasks. -/
  | reconcile
  /-- Ask for no more offers. -/
  | suppress
  deriving DecidableEq, Repr

namespace CallKind

/-- All kinds. -/
def all : List CallKind :=
  [subscribe, teardown, accept, decline, revive, kill, acknowledge, reconcile, suppress]

/-- The name of a kind. -/
def name : CallKind → String
  | subscribe => "SUBSCRIBE"
  | teardown => "TEARDOWN"
  | accept => "ACCEPT"
  | decline => "DECLINE"
  | revive => "REVIVE"
  | kill => "KILL"
  | acknowledge => "ACKNOWLEDGE"
  | reconcile => "RECONCILE"
  | suppress => "SUPPRESS"

end CallKind

instance : Json.Coded CallKind where
  encode kind := .text kind.name
  decode? := Json.choice? CallKind.all CallKind.name

/-- Something the framework can do. -/
structure Capability where
  /-- Its name. -/
  name : String
  deriving DecidableEq, Repr

instance : Json.Coded Capability where
  encode c := Json.record [Json.field "type" c.name]
  decode? j := (Json.unbox? "type" j).map Capability.mk

/-- How the framework introduces itself. -/
structure FrameworkInfo where
  /-- The user that tasks run as. -/
  user : String
  /-- Its name. -/
  name : String
  /-- Its id, if it has been given one. -/
  id : Option Id
  /-- How many seconds the manager keeps its tasks after losing it. -/
  failoverTimeout : Option Binary64
  /-- Whether tasks outlive a restart of their machine's agent. -/
  checkpoint : Option Bool
  /-- The role whose share of the cluster it uses. -/
  role : Option String
  /-- The host it runs on. -/
  hostname : Option String
  /-- The name it authenticates with. -/
  principal : Option String
  /-- The address of its web interface. -/
  webuiUrl : Option String
  /-- What it can do. -/
  capabilities : List Capability
  deriving DecidableEq, Repr

instance : Json.Coded FrameworkInfo where
  encode i := Json.record
    [Json.field "user" i.user, Json.field "name" i.name, Json.fieldIfAny "id" i.id,
      Json.fieldIfAny "failover_timeout" i.failoverTimeout,
      Json.fieldIfAny "checkpoint" i.checkpoint, Json.fieldIfAny "role" i.role,
      Json.fieldIfAny "hostname" i.hostname, Json.fieldIfAny "principal" i.principal,
      Json.fieldIfAny "webui_url" i.webuiUrl,
      Json.fieldUnlessEmpty "capabilities" i.capabilities]
  decode? j := do
    let f ← Json.fields?
      ["user", "name", "id", "failover_timeout", "checkpoint", "role", "hostname", "principal",
        "webui_url", "capabilities"] j
    return {
      user := ← f.required "user"
      name := ← f.required "name"
      id := ← f.optional "id"
      failoverTimeout := ← f.optional "failover_timeout"
      checkpoint := ← f.optional "checkpoint"
      role := ← f.optional "role"
      hostname := ← f.optional "hostname"
      principal := ← f.optional "principal"
      webuiUrl := ← f.optional "webui_url"
      capabilities := ← f.orDefault "capabilities" [] }

/-- Something done with an offer. The one kind of operation launches tasks. -/
structure Operation where
  /-- The launched tasks, if given. -/
  launch : Option (List TaskInfo)
  deriving DecidableEq

/-- The name of the one kind of operation. -/
def Operation.kindName : String := "LAUNCH"

instance : Json.Coded Operation where
  encode o := Json.record
    [Json.field "type" Operation.kindName, Json.boxIfAny "launch" "task_infos" o.launch]
  decode? j := do
    let f ← Json.fields? ["type", "launch"] j
    let _ ← Json.choice? [Operation.kindName] id (← f.get? "type")
    return { launch := ← f.optionalBy "launch" (Json.unbox? "task_infos") }

/-- For how long declined resources are not to be offered again. -/
structure Filters where
  /-- The time in seconds, if given. -/
  refuseSeconds : Option Binary64
  deriving DecidableEq, Repr

instance : Json.Coded Filters where
  encode f := Json.record [Json.fieldIfAny "refuse_seconds" f.refuseSeconds]
  decode? j := do
    let f ← Json.fields? ["refuse_seconds"] j
    return { refuseSeconds := ← f.optional "refuse_seconds" }

/-- Using offers. -/
structure Accept where
  /-- The offers. -/
  offerIds : List Id
  /-- What is done with them. -/
  operations : List Operation
  /-- What is to be refused afterwards. -/
  filters : Option Filters
  deriving DecidableEq

instance : Json.Coded Accept where
  encode a := Json.record
    [Json.field "offer_ids" a.offerIds, Json.field "operations" a.operations,
      Json.fieldIfAny "filters" a.filters]
  decode? j := do
    let f ← Json.fields? ["offer_ids", "operations", "filters"] j
    return {
      offerIds := ← f.required "offer_ids"
      operations := ← f.required "operations"
      filters := ← f.optional "filters" }

/-- Giving offers back. -/
structure Decline where
  /-- The offers. -/
  offerIds : List Id
  /-- What is to be refused afterwards. -/
  filters : Option Filters
  deriving DecidableEq

instance : Json.Coded Decline where
  encode d := Json.record
    [Json.field "offer_ids" d.offerIds, Json.fieldIfAny "filters" d.filters]
  decode? j := do
    let f ← Json.fields? ["offer_ids", "filters"] j
    return { offerIds := ← f.required "offer_ids", filters := ← f.optional "filters" }

/-- Stopping a task, or asking for its status: the task and, if known, the machine it runs on. -/
structure TaskAt where
  /-- The task. -/
  taskId : Id
  /-- The machine. -/
  agentId : Option Id
  deriving DecidableEq, Repr

instance : Json.Coded TaskAt where
  encode t := Json.record [Json.field "task_id" t.taskId, Json.fieldIfAny "agent_id" t.agentId]
  decode? j := do
    let f ← Json.fields? ["task_id", "agent_id"] j
    return { taskId := ← f.required "task_id", agentId := ← f.optional "agent_id" }

/-- Confirming a status. -/
structure Acknowledge where
  /-- The machine that reported it. -/
  agentId : Id
  /-- The task. -/
  taskId : Id
  /-- The id of the report. -/
  uuid : String
  deriving DecidableEq, Repr

instance : Json.Coded Acknowledge where
  encode a := Json.record
    [Json.field "agent_id" a.agentId, Json.field "task_id" a.taskId, Json.field "uuid" a.uuid]
  decode? j := do
    let f ← Json.fields? ["agent_id", "task_id", "uuid"] j
    return {
      agentId := ← f.required "agent_id"
      taskId := ← f.required "task_id"
      uuid := ← f.required "uuid" }

/-- A call. -/
structure Call where
  /-- The framework that calls. -/
  frameworkId : Option Id
  /-- The kind of call. -/
  kind : CallKind
  /-- How the framework introduces itself when it subscribes. -/
  subscribe : Option FrameworkInfo
  /-- The offers that are used. -/
  accept : Option Accept
  /-- The offers that are given back. -/
  decline : Option Decline
  /-- The task to stop. -/
  kill : Option TaskAt
  /-- The status that is confirmed. -/
  acknowledge : Option Acknowledge
  /-- The tasks whose statuses are asked for; all of them if the list is empty. -/
  reconcile : Option (List TaskAt)
  deriving DecidableEq

namespace Call

/-- A call of a kind without any part. -/
def bare (kind : CallKind) : Call :=
  ⟨none, kind, none, none, none, none, none, none⟩

/-- Open a stream of events. -/
def subscribing (info : FrameworkInfo) : Call :=
  { bare .subscribe with frameworkId := info.id, subscribe := some info }

/-- The filter that refuses resources for some seconds, if a time is given. -/
def refusing (seconds : Option Binary64) : Option Filters :=
  seconds.map fun s => ⟨some s⟩

/-- Launch tasks on one offer. -/
def launching (offer : Id) (tasks : List TaskInfo) (refuseSeconds : Option Binary64) : Call :=
  { bare .accept with
    accept := some ⟨[offer], [⟨some tasks⟩], refusing refuseSeconds⟩ }

/-- Give offers back. -/
def declining (offers : List Id) (refuseSeconds : Option Binary64) : Call :=
  { bare .decline with decline := some ⟨offers, refusing refuseSeconds⟩ }

/-- Stop a task. -/
def killing (task : Id) (agent : Option Id) : Call :=
  { bare .kill with kill := some ⟨task, agent⟩ }

/-- Confirm a status. -/
def acknowledging (agent task : Id) (uuid : String) : Call :=
  { bare .acknowledge with acknowledge := some ⟨agent, task, uuid⟩ }

/-- Ask for the statuses of tasks. -/
def reconciling (tasks : List TaskAt) : Call :=
  { bare .reconcile with reconcile := some tasks }

/-- Ask for offers again. -/
def reviving : Call := bare .revive

/-- Ask for no more offers. -/
def suppressing : Call := bare .suppress

/-- Give up the framework. -/
def tearingDown : Call := bare .teardown

/-- The form of a call. -/
def toJson (c : Call) : Json :=
  Json.record
    [Json.fieldIfAny "framework_id" c.frameworkId, Json.field "type" c.kind,
      Json.boxIfAny "subscribe" "framework_info" c.subscribe, Json.fieldIfAny "accept" c.accept,
      Json.fieldIfAny "decline" c.decline, Json.fieldIfAny "kill" c.kill,
      Json.fieldIfAny "acknowledge" c.acknowledge, Json.boxIfAny "reconcile" "tasks" c.reconcile]

/-- The call of a form. -/
def ofJson? (j : Json) : Option Call := do
  let f ← Json.fields?
    ["framework_id", "type", "subscribe", "accept", "decline", "kill", "acknowledge",
      "reconcile"] j
  return {
    frameworkId := ← f.optional "framework_id"
    kind := ← f.required "type"
    subscribe := ← f.optionalBy "subscribe" (Json.unbox? "framework_info")
    accept := ← f.optional "accept"
    decline := ← f.optional "decline"
    kill := ← f.optional "kill"
    acknowledge := ← f.optional "acknowledge"
    reconcile := ← f.optionalBy "reconcile" (Json.unboxOr? "tasks" []) }

end Call

instance : Json.Coded Call where
  encode := Call.toJson
  decode? := Call.ofJson?

end Stevedore.Manager
