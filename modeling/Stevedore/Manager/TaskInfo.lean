import Stevedore.Cluster.Container
import Stevedore.KeyMap
import Stevedore.Manager.Resource

/-!
# Task descriptions

How a task is described to the manager when an offer is accepted: what it is called, where it
runs, what it takes of the offer, and how its container is started and found.
-/

namespace Stevedore.Manager

/-- A file that is fetched before a task starts. -/
structure CommandUri where
  /-- Where it is fetched from. -/
  value : String
  /-- Whether it is unpacked. -/
  extract : Bool
  /-- Whether it is made executable. -/
  executable : Bool
  /-- Whether the fetched file is kept for later tasks. -/
  cache : Bool
  /-- The name it is stored under, if not its own. -/
  outputFile : Option String
  deriving DecidableEq, Repr

instance : Json.Coded CommandUri where
  encode u := Json.record
    [Json.field "value" u.value, Json.field "extract" u.extract,
      Json.field "executable" u.executable, Json.field "cache" u.cache,
      Json.fieldIfAny "output_file" u.outputFile]
  decode? j := do
    let f ← Json.fields? ["value", "extract", "executable", "cache", "output_file"] j
    return {
      value := ← f.required "value"
      extract := ← f.required "extract"
      executable := ← f.required "executable"
      cache := ← f.required "cache"
      outputFile := ← f.optional "output_file" }

/-- A variable of the environment. -/
structure Variable where
  /-- Its name. -/
  name : String
  /-- Its text. -/
  value : String
  deriving DecidableEq, Repr

instance : Json.Coded Variable where
  encode v := Json.record [Json.field "name" v.name, Json.field "value" v.value]
  decode? j := do
    let f ← Json.fields? ["name", "value"] j
    return { name := ← f.required "name", value := ← f.required "value" }

/-- What a task executes. -/
structure CommandInfo where
  /-- Whether a shell interprets the command line. -/
  shell : Bool
  /-- The command line; without one the image's own command runs. -/
  value : Option String
  /-- Arguments of the command. -/
  arguments : List String
  /-- The files fetched before the start. -/
  uris : List CommandUri
  /-- The environment, if one is given. -/
  environment : Option (List Variable)
  deriving DecidableEq, Repr

instance : Json.Coded CommandInfo where
  encode c := Json.record
    [Json.field "shell" c.shell, Json.fieldIfAny "value" c.value,
      Json.fieldUnlessEmpty "arguments" c.arguments, Json.fieldUnlessEmpty "uris" c.uris,
      Json.boxIfAny "environment" "variables" c.environment]
  decode? j := do
    let f ← Json.fields? ["shell", "value", "arguments", "uris", "environment"] j
    return {
      shell := ← f.required "shell"
      value := ← f.optional "value"
      arguments := ← f.orDefault "arguments" []
      uris := ← f.orDefault "uris" []
      environment := ← f.optionalBy "environment" (Json.unboxOr? "variables" []) }

/-- Which containerizer starts a container. -/
inductive ContainerKind where
  /-- The daemon of the host. -/
  | docker
  /-- The manager's own. -/
  | native
  deriving DecidableEq, Repr

namespace ContainerKind

/-- Both kinds. -/
def all : List ContainerKind := [docker, native]

/-- The name of a kind. -/
def name : ContainerKind → String
  | docker => "DOCKER"
  | native => "MESOS"

end ContainerKind

instance : Json.Coded ContainerKind where
  encode kind := .text kind.name
  decode? := Json.choice? ContainerKind.all ContainerKind.name

/-- Whether a mounted volume may be written. -/
inductive MountMode where
  /-- It may. -/
  | readWrite
  /-- It may not. -/
  | readOnly
  deriving DecidableEq, Repr

namespace MountMode

/-- Both modes. -/
def all : List MountMode := [readWrite, readOnly]

/-- The name of a mode. -/
def name : MountMode → String
  | readWrite => "RW"
  | readOnly => "RO"

end MountMode

instance : Json.Coded MountMode where
  encode mode := .text mode.name
  decode? := Json.choice? MountMode.all MountMode.name

/-- A named volume of the container runtime. -/
structure NamedVolume where
  /-- The driver that provides it, if not the default. -/
  driver : Option String
  /-- Its name. -/
  name : String
  deriving DecidableEq, Repr

instance : Json.Coded NamedVolume where
  encode v := Json.record [Json.fieldIfAny "driver" v.driver, Json.field "name" v.name]
  decode? j := do
    let f ← Json.fields? ["driver", "name"] j
    return { driver := ← f.optional "driver", name := ← f.required "name" }

/-- Where the contents of a mounted volume come from. The one kind of source is a volume of the
container runtime. -/
structure MountSource where
  /-- The volume, if it is named. -/
  volume : Option NamedVolume
  deriving DecidableEq, Repr

/-- The name of the one kind of source. -/
def MountSource.kindName : String := "DOCKER_VOLUME"

instance : Json.Coded MountSource where
  encode s := Json.record
    [Json.field "type" MountSource.kindName, Json.fieldIfAny "docker_volume" s.volume]
  decode? j := do
    let f ← Json.fields? ["type", "docker_volume"] j
    let _ ← Json.choice? [MountSource.kindName] id (← f.get? "type")
    return { volume := ← f.optional "docker_volume" }

/-- A volume mounted into a container. -/
structure Mount where
  /-- Where it is mounted. -/
  containerPath : String
  /-- Whether it may be written. -/
  mode : MountMode
  /-- Where its contents come from. -/
  source : Option MountSource
  deriving DecidableEq, Repr

instance : Json.Coded Mount where
  encode m := Json.record
    [Json.field "container_path" m.containerPath, Json.field "mode" m.mode,
      Json.fieldIfAny "source" m.source]
  decode? j := do
    let f ← Json.fields? ["container_path", "mode", "source"] j
    return {
      containerPath := ← f.required "container_path"
      mode := ← f.required "mode"
      source := ← f.optional "source" }

/-- How a container is connected. -/
inductive NetworkKind where
  /-- As a part of the host. -/
  | host
  /-- Through a bridge of the host. -/
  | bridge
  /-- Not at all. -/
  | none
  /-- Through a network of its own. -/
  | user
  deriving DecidableEq, Repr

namespace NetworkKind

/-- All kinds. -/
def all : List NetworkKind := [host, bridge, none, user]

/-- The name of a kind. -/
def name : NetworkKind → String
  | host => "HOST"
  | bridge => "BRIDGE"
  | none => "NONE"
  | user => "USER"

end NetworkKind

instance : Json.Coded NetworkKind where
  encode kind := .text kind.name
  decode? := Json.choice? NetworkKind.all NetworkKind.name

/-- A port of the host that leads to a port of the container. -/
structure PublishedPort where
  /-- The port of the host. -/
  hostPort : UInt32
  /-- The port of the container. -/
  containerPort : UInt32
  /-- The transport protocol, if given. -/
  protocol : Option String
  deriving DecidableEq, Repr

instance : Json.Coded PublishedPort where
  encode p := Json.record
    [Json.field "host_port" p.hostPort, Json.field "container_port" p.containerPort,
      Json.fieldIfAny "protocol" p.protocol]
  decode? j := do
    let f ← Json.fields? ["host_port", "container_port", "protocol"] j
    return {
      hostPort := ← f.required "host_port"
      containerPort := ← f.required "container_port"
      protocol := ← f.optional "protocol" }

/-- How the daemon of the host starts a container. -/
structure DockerInfo where
  /-- The image. -/
  image : String
  /-- How the container is connected. -/
  network : NetworkKind
  /-- The published ports. -/
  portMappings : List PublishedPort
  /-- Whether the container has the host's privileges. -/
  privileged : Bool
  /-- Options of the container runtime. -/
  parameters : List Parameter
  /-- Whether the image is fetched even if a copy is at hand. -/
  forcePullImage : Bool
  deriving DecidableEq, Repr

instance : Json.Coded DockerInfo where
  encode d := Json.record
    [Json.field "image" d.image, Json.field "network" d.network,
      Json.fieldUnlessEmpty "port_mappings" d.portMappings, Json.field "privileged" d.privileged,
      Json.fieldUnlessEmpty "parameters" d.parameters,
      Json.field "force_pull_image" d.forcePullImage]
  decode? j := do
    let f ← Json.fields?
      ["image", "network", "port_mappings", "privileged", "parameters", "force_pull_image"] j
    return {
      image := ← f.required "image"
      network := ← f.required "network"
      portMappings := ← f.orDefault "port_mappings" []
      privileged := ← f.orDefault "privileged" false
      parameters := ← f.orDefault "parameters" []
      forcePullImage := ← f.orDefault "force_pull_image" false }

/-- How a container is started. -/
structure ContainerInfo where
  /-- Which containerizer starts it. -/
  kind : ContainerKind
  /-- The mounted volumes. -/
  volumes : List Mount
  /-- The name of the host inside the container, if given. -/
  hostname : Option String
  /-- How the daemon of the host starts it. -/
  docker : Option DockerInfo
  /-- The networks it joins. -/
  networks : List Network
  deriving DecidableEq, Repr

instance : Json.Coded ContainerInfo where
  encode c := Json.record
    [Json.field "type" c.kind, Json.fieldUnlessEmpty "volumes" c.volumes,
      Json.fieldIfAny "hostname" c.hostname, Json.fieldIfAny "docker" c.docker,
      Json.fieldUnlessEmpty "network_infos" c.networks]
  decode? j := do
    let f ← Json.fields? ["type", "volumes", "hostname", "docker", "network_infos"] j
    return {
      kind := ← f.required "type"
      volumes := ← f.orDefault "volumes" []
      hostname := ← f.optional "hostname"
      docker := ← f.optional "docker"
      networks := ← f.orDefault "network_infos" [] }

/-- Who may find a task. -/
inductive DiscoveryScope where
  /-- Tasks of the same framework. -/
  | framework
  /-- Everyone inside the cluster. -/
  | cluster
  /-- Everyone. -/
  | external
  deriving DecidableEq, Repr

namespace DiscoveryScope

/-- All scopes. -/
def all : List DiscoveryScope := [framework, cluster, external]

/-- The name of a scope. -/
def name : DiscoveryScope → String
  | framework => "FRAMEWORK"
  | cluster => "CLUSTER"
  | external => "EXTERNAL"

end DiscoveryScope

instance : Json.Coded DiscoveryScope where
  encode scope := .text scope.name
  decode? := Json.choice? DiscoveryScope.all DiscoveryScope.name

/-- A port under which a task can be found. -/
structure ServicePort where
  /-- The port. -/
  number : UInt32
  /-- Its name, if any. -/
  name : Option String
  /-- The protocol spoken on it, if given. -/
  protocol : Option String
  deriving DecidableEq, Repr

instance : Json.Coded ServicePort where
  encode p := Json.record
    [Json.field "number" p.number, Json.fieldIfAny "name" p.name,
      Json.fieldIfAny "protocol" p.protocol]
  decode? j := do
    let f ← Json.fields? ["number", "name", "protocol"] j
    return {
      number := ← f.required "number"
      name := ← f.optional "name"
      protocol := ← f.optional "protocol" }

/-- How a task can be found. -/
structure DiscoveryInfo where
  /-- Who may find it. -/
  visibility : DiscoveryScope
  /-- Its name, if any. -/
  name : Option String
  /-- Its ports, if any are given. -/
  ports : Option (List ServicePort)
  deriving DecidableEq, Repr

instance : Json.Coded DiscoveryInfo where
  encode d := Json.record
    [Json.field "visibility" d.visibility, Json.fieldIfAny "name" d.name,
      Json.boxIfAny "ports" "ports" d.ports]
  decode? j := do
    let f ← Json.fields? ["visibility", "name", "ports"] j
    return {
      visibility := ← f.required "visibility"
      name := ← f.optional "name"
      ports := ← f.optionalBy "ports" (Json.unboxOr? "ports" []) }

/-- A limit on a resource, in an object of its own. -/
structure Limit where
  /-- The largest amount. -/
  value : Binary64
  deriving DecidableEq, Repr

instance : Json.Coded Limit where
  encode l := Json.record [Json.field "value" l.value]
  decode? j := (Json.unbox? "value" j).map Limit.mk

/-- The description of a task that is launched. -/
structure TaskInfo where
  /-- Its name. -/
  name : String
  /-- Its id. -/
  taskId : Id
  /-- The machine it runs on. -/
  agentId : Id
  /-- What it takes of the offer. -/
  resources : List Resource
  /-- What it executes. -/
  command : Option CommandInfo
  /-- How its container is started. -/
  container : Option ContainerInfo
  /-- How it can be found. -/
  discovery : Option DiscoveryInfo
  /-- Its labels, if any are given. -/
  labels : Option (List Label)
  /-- The limits enforced on it, by resource. -/
  limits : KeyMap Limit
  deriving DecidableEq

namespace TaskInfo

/-- The form of a description. -/
def toJson (t : TaskInfo) : Json :=
  Json.record
    [Json.field "name" t.name, Json.field "task_id" t.taskId, Json.field "agent_id" t.agentId,
      Json.field "resources" t.resources, Json.fieldIfAny "command" t.command,
      Json.fieldIfAny "container" t.container, Json.fieldIfAny "discovery" t.discovery,
      Json.boxIfAny "labels" "labels" t.labels,
      if t.limits.isEmpty then none else Json.field "limits" t.limits]

/-- The description of a form. -/
def ofJson? (j : Json) : Option TaskInfo := do
  let f ← Json.fields?
    ["name", "task_id", "agent_id", "resources", "command", "container", "discovery", "labels",
      "limits"] j
  return {
    name := ← f.required "name"
    taskId := ← f.required "task_id"
    agentId := ← f.required "agent_id"
    resources := ← f.orDefault "resources" []
    command := ← f.optional "command"
    container := ← f.optional "container"
    discovery := ← f.optional "discovery"
    labels := ← f.optionalBy "labels" (Json.unboxOr? "labels" [])
    limits := ← f.orDefault "limits" ∅ }

end TaskInfo

instance : Json.Coded TaskInfo where
  encode := TaskInfo.toJson
  decode? := TaskInfo.ofJson?

end Stevedore.Manager
