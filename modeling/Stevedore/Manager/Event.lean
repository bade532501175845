import Stevedore.Json.Reader
import Stevedore.Manager.Resource

/-!
# Events

What the manager says to the framework. A `Message` is an event as it arrives: its kind and
whatever parts came with it. An `Event` is a message whose part fits its kind.
-/

namespace Stevedore.Manager

/-- The kind of a message. -/
inductive EventKind where
  /-- The stream is open. -/
  | subscribed
  /-- Resources are offered. -/
  | offers
  /-- Resources are wanted back. -/
  | inverseOffers
  /-- An offer is no longer valid. -/
  | rescind
  /-- Resources are no longer wanted back. -/
  | rescindInverseOffer
  /-- A task has a new status. -/
  | update
  /-- An operation has a new status. -/
  | updateOperationStatus
  /-- A message from a task. -/
  | message
  /-- A machine or an executor is gone. -/
  | failure
  /-- The framework did something wrong. -/
  | error
  /-- The stream is still alive. -/
  | heartbeat
  /-- Any other kind. -/
  | unknown
  deriving DecidableEq, Repr

namespace EventKind

/-- All kinds. -/
def all : List EventKind :=
  [subscribed, offers, inverseOffers, rescind, rescindInverseOffer, update, updateOperationStatus,
    message, failure, error, heartbeat, unknown]

/-- The name of a kind. -/
def name : EventKind → String
  | subscribed => "SUBSCRIBED"
  | offers => "OFFERS"
  | inverseOffers => "INVERSE_OFFERS"
  | rescind => "RESCIND"
  | rescindInverseOffer => "RESCIND_INVERSE_OFFER"
  | update => "UPDATE"
  | updateOperationStatus => "UPDATE_OPERATION_STATUS"
  | message => "MESSAGE"
  | failure => "FAILURE"
  | error => "ERROR"
  | heartbeat => "HEARTBEAT"
  | unknown => "UNKNOWN"

/-- The kind that a name stands for. -/
def ofName (s : String) : EventKind :=
  (all.find? fun kind => kind.name == s).getD unknown

end EventKind

instance : Json.Coded EventKind where
  encode kind := .text kind.name
  decode? j := (Json.label? j).map EventKind.ofName

/-- What comes with an opened stream. -/
structure Subscribed where
  /-- The id that the manager knows the framework by. -/
  frameworkId : Id
  /-- How often the stream shows that it is alive. -/
  heartbeatIntervalSeconds : Option Binary64
  deriving DecidableEq, Repr

instance : Json.Coded Subscribed where
  encode s := Json.record
    [Json.field "framework_id" s.frameworkId,
      Json.fieldIfAny "heartbeat_interval_seconds" s.heartbeatIntervalSeconds]
  decode? j := do
    let f ← Json.fields? ["framework_id", "heartbeat_interval_seconds"] j
    return {
      frameworkId := ← f.required "framework_id"
      heartbeatIntervalSeconds := ← f.orDefault "heartbeat_interval_seconds" none }

/-- Resources of one machine that the framework may use. -/
structure Offer where
  /-- The offer's id. -/
  id : Id
  /-- The framework it is made to. -/
  frameworkId : Id
  /-- The machine. -/
  agentId : Id
  /-- The name of the machine. -/
  hostname : String
  /-- The resources. -/
  resources : List Resource
  deriving DecidableEq, Repr

namespace Offer

/-- How much of a scalar resource is offered, all entries of its name together. -/
def scalar (offer : Offer) (name : String) : Binary64 :=
  .sum ((offer.resources.filter fun r => r.name == name).filterMap (·.scalar))

/-- The offered host ports. -/
def portRanges (offer : Offer) : List Range :=
  ((offer.resources.filter fun r => r.name == "ports").filterMap (·.ranges)).flatten

end Offer

instance : Json.Coded Offer where
  encode o := Json.record
    [Json.field "id" o.id, Json.field "framework_id" o.frameworkId,
      Json.field "agent_id" o.agentId, Json.field "hostname" o.hostname,
      Json.field "resources" o.resources]
  decode? j := do
    let f ← Json.fields? ["id", "framework_id", "agent_id", "hostname", "resources"] j
    return {
      id := ← f.required "id"
      frameworkId := ← f.required "framework_id"
      agentId := ← f.required "agent_id"
      hostname := ← f.required "hostname"
      resources := ← f.orDefault "resources" [] }

/-- The status of a task. -/
structure TaskStatus where
  /-- The task. -/
  taskId : Id
  /-- The name of its state. -/
  state : String
  /-- The machine that reports it. -/
  agentId : Option Id
  /-- The id of the report; a report without one needs no confirmation. -/
  uuid : Option String
  /-- An explanation. -/
  message : Option String
  /-- The reason for the state. -/
  reason : Option String
  /-- Who noticed it. -/
  source : Option String
  /-- The networks of the task's container, if given. -/
  networks : Option (List Network)
  deriving DecidableEq, Repr

namespace TaskStatus

/-- The first address of the task's container. -/
def ipAddress? (status : TaskStatus) : Option String :=
  (status.networks.getD []).flatMap (·.addresses) |>.findSome? (·.text)

end TaskStatus

instance : Json.Coded TaskStatus where
  encode s := Json.record
    [Json.field "task_id" s.taskId, Json.field "state" s.state,
      Json.fieldIfAny "agent_id" s.agentId, Json.fieldIfAny "uuid" s.uuid,
      Json.fieldIfAny "message" s.message, Json.fieldIfAny "reason" s.reason,
      Json.fieldIfAny "source" s.source,
      Json.boxIfAny "container_status" "network_infos" s.networks]
  decode? j := do
    let f ← Json.fields?
      ["task_id", "state", "agent_id", "uuid", "message", "reason", "source",
        "container_status"] j
    return {
      taskId := ← f.required "task_id"
      state := ← f.required "state"
      agentId := ← f.orDefault "agent_id" none
      uuid := ← f.orDefault "uuid" none
      message := ← f.orDefault "message" none
      reason := ← f.orDefault "reason" none
      source := ← f.orDefault "source" none
      networks := ← f.orDefaultBy "container_status" none
        (Json.orNull? (Json.unboxOr? "network_infos" [])) }

/-- An event as it arrives. -/
structure Message where
  /-- The kind of event. -/
  kind : EventKind
  /-- The opened stream. -/
  subscribed : Option Subscribed
  /-- The offers. -/
  offers : Option (List Offer)
  /-- The new status of a task. -/
  update : Option TaskStatus
  /-- The offer that is no longer valid. -/
  rescind : Option Id
  /-- What went wrong. -/
  error : Option String
  deriving DecidableEq, Repr

namespace Message

/-- The form of a message. -/
def toJson (m : Message) : Json :=
  Json.record
    [Json.field "type" m.kind, Json.fieldIfAny "subscribed" m.subscribed,
      Json.boxIfAny "offers" "offers" m.offers, Json.boxIfAny "update" "status" m.update,
      Json.boxIfAny "rescind" "offer_id" m.rescind, Json.boxIfAny "error" "message" m.error]

/-- The message of a form. -/
def ofJson? (j : Json) : Option Message := do
  let f ← Json.fields? ["type", "subscribed", "offers", "update", "rescind", "error"] j
  return {
    kind := ← f.required "type"
    subscribed := ← f.orDefault "subscribed" none
    offers := ← f.orDefaultBy "offers" none (Json.orNull? (Json.unboxOr? "offers" []))
    update := ← f.orDefaultBy "update" none (Json.orNull? (Json.unbox? "status"))
    rescind := ← f.orDefaultBy "rescind" none (Json.orNull? (Json.unbox? "offer_id"))
    error := ← f.orDefaultBy "error" none (Json.orNull? (Json.unbox? "message")) }

end Message

instance : Json.Coded Message where
  encode := Message.toJson
  decode? := Message.ofJson?

/-- The message held by the bytes of one record of the stream. -/
def Message.decode? (bytes : List UInt8) : Option Message :=
  (Json.parseBytes? bytes).bind ofJson?

/-- An event whose part fits its kind. -/
inductive Event where
  /-- The stream is open. -/
  | subscribed (subscription : Subscribed)
  /-- Resources are offered. -/
  | offers (offers : List Offer)
  /-- A task has a new status. -/
  | update (status : TaskStatus)
  /-- An offer is no longer valid. -/
  | rescind (offer : Id)
  /-- The stream is still alive. -/
  | heartbeat
  /-- The framework did something wrong. -/
  | error (text : String)
  /-- An event that needs no answer. -/
  | other (kind : EventKind)
  deriving DecidableEq, Repr

/-- A message of a kind that needs a part, without that part. -/
structure MissingPart where
  /-- The kind of the message. -/
  kind : EventKind
  deriving DecidableEq, Repr

/-- What is reported for a message without the part it needs. -/
def MissingPart.message (e : MissingPart) : String :=
  e.kind.name ++ " event without payload"

/-- The event of a message. -/
def Message.event (m : Message) : Except MissingPart Event :=
  let part {α : Type} (content : Option α) : Except MissingPart α :=
    match content with
    | some x => .ok x
    | none => .error ⟨m.kind⟩
  match m.kind with
  | .subscribed => .subscribed <$> part m.subscribed
  | .offers => .offers <$> part m.offers
  | .update => .update <$> part m.update
  | .rescind => .rescind <$> part m.rescind
  | .heartbeat => .ok .heartbeat
  | .error => .ok (.error (m.error.getD ""))
  | kind => .ok (.other kind)

end Stevedore.Manager
