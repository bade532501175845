import Stevedore.Cluster.Resources
import Stevedore.Cluster.Variables

/-!
# Containers

Everything that the container runtime needs to start a task: the image and its command line, the
network, the ports, the volumes, the environment, and further options of the runtime.
-/

namespace Stevedore

/-- How a container is connected. -/
inductive NetworkMode where
  /-- Through a bridge of the host. -/
  | bridge
  /-- As a part of the host. -/
  | host
  /-- Through a network of its own. -/
  | user
  /-- Not at all. -/
  | none
  deriving DecidableEq, Repr

namespace NetworkMode

/-- All modes. -/
def all : List NetworkMode := [bridge, host, user, none]

/-- The name of a mode. -/
def name : NetworkMode → String
  | bridge => "bridge"
  | host => "host"
  | user => "user"
  | none => "none"

end NetworkMode

instance : Json.Coded NetworkMode where
  encode mode := .text mode.name
  decode? := Json.choice? NetworkMode.all NetworkMode.name

/-- An option of the container runtime. A key may be given several times. -/
structure Parameter where
  /-- The option. -/
  key : String
  /-- Its value. -/
  value : String
  deriving DecidableEq, Repr

instance : Json.Coded Parameter where
  encode p := Json.record [Json.field "key" p.key, Json.field "value" p.value]
  decode? j := do
    let f ← Json.fields? ["key", "value"] j
    return { key := ← f.required "key", value := ← f.required "value" }

/-- Whether a container may write to a volume. -/
inductive VolumeMode where
  /-- It may. -/
  | readWrite
  /-- It may not. -/
  | readOnly
  deriving DecidableEq, Repr

namespace VolumeMode

/-- Both modes. -/
def all : List VolumeMode := [readWrite, readOnly]

/-- The name of a mode. -/
def name : VolumeMode → String
  | readWrite => "rw"
  | readOnly => "ro"

end VolumeMode

instance : Json.Coded VolumeMode where
  encode mode := .text mode.name
  decode? := Json.choice? VolumeMode.all VolumeMode.name

/-- A named volume inside a container. -/
structure Volume where
  /-- Where it is mounted. -/
  containerPath : String
  /-- Whether it may be written. -/
  mode : VolumeMode
  /-- The driver that provides it. -/
  driver : String
  /-- Its name. -/
  name : String
  deriving DecidableEq, Repr

instance : Json.Coded Volume where
  encode v := Json.record
    [Json.field "containerPath" v.containerPath, Json.field "mode" v.mode,
      Json.field "driver" v.driver, Json.field "name" v.name]
  decode? j := do
    let f ← Json.fields? ["containerPath", "mode", "driver", "name"] j
    return {
      containerPath := ← f.required "containerPath"
      mode := ← f.orDefault "mode" .readWrite
      driver := ← f.required "driver"
      name := ← f.required "name" }

/-- A file that is fetched before a task starts. -/
structure Artifact where
  /-- Where it is fetched from. -/
  value : String
  /-- Whether it is unpacked. -/
  extract : Bool
  /-- Whether it is made executable. -/
  executable : Bool
  /-- Whether the fetched file is kept for later tasks. -/
  cache : Bool
  /-- The name it is stored under, if not its own. -/
  outputFile : Option String
  deriving DecidableEq, Repr

instance : Json.Coded Artifact where
  encode a := Json.record
    [Json.field "value" a.value, Json.field "extract" a.extract,
      Json.field "executable" a.executable, Json.field "cache" a.cache,
      Json.fieldIfAny "outputFile" a.outputFile]
  decode? j := do
    let f ← Json.fields? ["value", "extract", "executable", "cache", "outputFile"] j
    return {
      value := ← f.required "value"
      extract := ← f.orDefault "extract" false
      executable := ← f.orDefault "executable" false
      cache := ← f.orDefault "cache" false
      outputFile := ← f.optional "outputFile" }

/-- What the container runtime needs to start a task. -/
structure ContainerSpec where
  /-- The image. -/
  image : String
  /-- The command line; without one the image's own command runs with `arguments`. -/
  command : Option String
  /-- Whether a shell interprets the command line. -/
  shell : Bool
  /-- Arguments of the image's own command. -/
  arguments : List String
  /-- Whether the container has the host's privileges. -/
  privileged : Bool
  /-- The name of the host inside the container. -/
  hostname : String
  /-- How it is connected. -/
  network : NetworkMode
  /-- The named network it joins, if any. -/
  networkName : Option String
  /-- The published ports. -/
  ports : List PortMapping
  /-- Options of the container runtime. -/
  parameters : List Parameter
  /-- The mounted volumes. -/
  volumes : List Volume
  /-- The environment of the process. -/
  env : Variables
  /-- The files fetched before the start. -/
  uris : List Artifact
  /-- Whether the image is fetched even if a copy is at hand. -/
  forcePull : Bool
  deriving DecidableEq, Repr

namespace ContainerSpec

/-- The specification with one more option; others with the same key stay. -/
def addParameter (spec : ContainerSpec) (key value : String) : ContainerSpec :=
  { spec with parameters := spec.parameters ++ [⟨key, value⟩] }

/-- The values given for an option, in the order in which they were added. -/
def parameterValues (spec : ContainerSpec) (key : String) : List String :=
  (spec.parameters.filter fun p => p.key == key).map (·.value)

/-- The form of a specification. -/
def toJson (c : ContainerSpec) : Json :=
  Json.record
    [Json.field "image" c.image, Json.fieldIfAny "command" c.command, Json.field "shell" c.shell,
      Json.fieldUnlessEmpty "arguments" c.arguments, Json.field "privileged" c.privileged,
      Json.field "hostname" c.hostname, Json.field "network" c.network,
      Json.fieldIfAny "networkName" c.networkName, Json.fieldUnlessEmpty "ports" c.ports,
      Json.fieldUnlessEmpty "parameters" c.parameters, Json.fieldUnlessEmpty "volumes" c.volumes,
      Json.fieldUnlessEmpty "env" c.env, Json.fieldUnlessEmpty "uris" c.uris,
      Json.field "forcePull" c.forcePull]

/-- The specification of a form. -/
def ofJson? (j : Json) : Option ContainerSpec := do
  let f ← Json.fields?
    ["image", "command", "shell", "arguments", "privileged", "hostname", "network", "networkName",
      "ports", "parameters", "volumes", "env", "uris", "forcePull"] j
  return {
    image := ← f.required "image"
    command := ← f.optional "command"
    shell := ← f.orDefault "shell" false
    arguments := ← f.orDefault "arguments" []
    privileged := ← f.orDefault "privileged" false
    hostname := ← f.orDefault "hostname" ""
    network := ← f.orDefault "network" .bridge
    networkName := ← f.optional "networkName"
    ports := ← f.orDefault "ports" []
    parameters := ← f.orDefault "parameters" []
    volumes := ← f.orDefault "volumes" []
    env := ← f.orDefault "env" []
    uris := ← f.orDefault "uris" []
    forcePull := ← f.orDefault "forcePull" false }

end ContainerSpec

instance : Json.Coded ContainerSpec where
  encode := ContainerSpec.toJson
  decode? := ContainerSpec.ofJson?

end Stevedore
