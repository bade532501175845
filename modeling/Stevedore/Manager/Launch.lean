import Stevedore.Cluster.TaskRecord
import Stevedore.Manager.TaskInfo

/-!
# Describing a stored task to the manager

The description of a task follows from its record and the machine it is launched on. Host ports
are expected to be known by then: only known ones are asked for, and a port under which the task
can be found is given as the host port that leads to it.
-/

namespace Stevedore.Manager

/-- The host ports that a container takes of an offer, one range for each mapping. -/
def portRangesOf (c : ContainerSpec) : List Range :=
  (c.ports.filter fun p => !p.isDynamic).map fun p => .single p.hostPort.toUInt64

/-- What a task takes of an offer. Disk space and ports are only named if there are any. -/
def resourcesOf (r : TaskRecord) : List Resource :=
  let ports := portRangesOf r.container
  [.ofScalar "cpus" r.resources.cpus, .ofScalar "mem" r.resources.mem]
    ++ (if r.resources.disk.isPositive then [.ofScalar "disk" r.resources.disk] else [])
    ++ (if ports.isEmpty then [] else [.ofRanges "ports" ports])

/-- The limits enforced on a task. -/
def limitsOf : Option Limits → KeyMap Limit
  | none => ∅
  | some l => KeyMap.ofList [("cpus", ⟨l.cpus⟩), ("mem", ⟨l.mem⟩)]

/-- What a container executes. -/
def commandOf (c : ContainerSpec) : CommandInfo where
  shell := c.shell
  value := c.command
  arguments := c.arguments
  uris := c.uris.map fun u => ⟨u.value, u.extract, u.executable, u.cache, u.outputFile⟩
  environment :=
    if c.env.isEmpty then none else some (c.env.map fun kv => ⟨kv.key, kv.value⟩)

/-- How a container is connected, in the words of the manager. -/
def networkOf : NetworkMode → NetworkKind
  | .bridge => .bridge
  | .host => .host
  | .user => .user
  | .none => .none

/-- The ports that a container publishes. A container that is a part of the host, or not
connected, publishes none. -/
def publishedPortsOf (c : ContainerSpec) : List PublishedPort :=
  match c.network with
  | .bridge | .user =>
    c.ports.map fun p => ⟨p.hostPort, p.containerPort, some p.transport⟩
  | .host | .none => []

/-- A volume of a container, mounted. -/
def mountOf (v : Volume) : Mount where
  containerPath := v.containerPath
  mode := match v.mode with
    | .readWrite => .readWrite
    | .readOnly => .readOnly
  source := some ⟨some ⟨if v.driver.isEmpty then none else some v.driver, v.name⟩⟩

/-- How a container is started. A container that is a part of the host has no name of its own. -/
def containerOf (c : ContainerSpec) : ContainerInfo where
  kind := .docker
  volumes := c.volumes.map mountOf
  hostname := if c.hostname.isEmpty || c.network = .host then none else some c.hostname
  docker := some {
    image := c.image
    network := networkOf c.network
    portMappings := publishedPortsOf c
    privileged := c.privileged
    parameters := c.parameters
    forcePullImage := c.forcePull }
  networks := match c.networkName with
    | some name => [⟨some name, []⟩]
    | none => []

/-- The port under which a port of the container is reached from outside: the host port of the
first mapping that leads to it, or the port itself if there is none. -/
def outerPort (c : ContainerSpec) (number : UInt32) : UInt32 :=
  match c.ports.find? fun p => p.containerPort == number with
  | some p => p.hostPort
  | none => number

/-- Who may find a task, in the words of the manager. -/
def scopeOf : Visibility → DiscoveryScope
  | .framework => .framework
  | .cluster => .cluster
  | .external => .external

/-- How a task can be found. Without name and ports it is not to be found at all. -/
def discoveryOf (d : Discovery) (c : ContainerSpec) : Option DiscoveryInfo :=
  if d.name.isEmpty && d.ports.isEmpty then none
  else some {
    visibility := scopeOf d.visibility
    name := if d.name.isEmpty then none else some d.name
    ports := some (d.ports.map fun p => ⟨outerPort c p.number, some p.name, some p.protocol⟩) }

/-- The description of a task that is launched on a machine. -/
def TaskInfo.ofRecord (r : TaskRecord) (agent : Id) : TaskInfo where
  name := r.name
  taskId := ⟨r.id⟩
  agentId := agent
  resources := resourcesOf r
  command := some (commandOf r.container)
  container := some (containerOf r.container)
  discovery := discoveryOf r.discovery r.container
  labels :=
    if r.labels.isEmpty then none else some (r.labels.map fun kv => ⟨kv.key, some kv.value⟩)
  limits := limitsOf r.limits

end Stevedore.Manager
