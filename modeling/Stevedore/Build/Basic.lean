import Stevedore.Binary64.Text
import Stevedore.Cluster.Ports
import Stevedore.Config.Validity

/-!
# Creating records

What the records of all roles have in common when they are created: the parts that follow from the
framework's name and the wanted number of tasks, the network, and the options and volumes that
servers and agents share.
-/

namespace Stevedore.Build

/-- Everything that a new record may depend on besides its id. -/
structure Context where
  /-- The configuration, with the settings that outlive a restart laid over it. -/
  cfg : Config
  /-- The framework's identity. -/
  identity : Identity
  /-- The host ports that are already taken. -/
  usedPorts : List UInt32
  /-- The time in milliseconds. -/
  now : UInt64

/-- Why a record cannot be created. -/
inductive Fault where
  /-- The datastore's port is no port number. -/
  | badDatastorePort (text : String)
  /-- The container's own disk space is to be limited, but to nothing. -/
  | badDiskLimit (limit : Binary64)
  /-- Every host port that a datastore may take is taken. -/
  | portsExhausted (first last : UInt32)
  /-- Nothing is known that creates such records. -/
  | noBuilder (workload : Workload)
  deriving DecidableEq, Repr

/-- What is reported. -/
def Fault.message : Fault → String
  | badDatastorePort text => Config.badDatastorePortText text
  | badDiskLimit limit =>
    s!"invalid configuration: agent.disk_limit {limit.plainText} must be positive " ++
      "when restrict_disk is set"
  | portsExhausted first last =>
    s!"resource exhausted: no free host port in {Text.decimal first.toNat}..=" ++
      Text.decimal last.toNat
  | noBuilder workload => "no builder registered for workload " ++ workload.kind

/-- The network that containers join without further ado. -/
def defaultNetwork : String := "bridge"

namespace Context

/-- The name of the network of their own that containers join, if they do. -/
def userNetwork? (ctx : Context) : Option String :=
  if ctx.identity.cni.isNone && ctx.cfg.docker.cni != defaultNetwork then
    some ctx.cfg.docker.cni
  else none

/-- How containers are connected, and the named network they join. A network set up on the side of
the manager comes first. -/
def network (ctx : Context) : NetworkMode × Option String :=
  match ctx.identity.cni, ctx.userNetwork? with
  | some name, _ => (.bridge, some name)
  | none, some name => (.user, some name)
  | none, none => (.bridge, none)

/-- The port of the datastore inside its container. -/
def datastorePort (ctx : Context) : Except Fault UInt32 :=
  match ctx.cfg.datastorePort? with
  | some port => .ok port
  | none => .error (.badDatastorePort ctx.cfg.datastore.port)

/-- A writable volume. -/
def volume (ctx : Context) (containerPath name : String) : Volume :=
  ⟨containerPath, .readWrite, ctx.cfg.docker.volumeDriver, name⟩

/-- The script that starts servers and agents. -/
def bootstrap (ctx : Context) : Artifact :=
  ⟨ctx.cfg.bootstrap.url, false, true, false, some "bootstrap"⟩

/-- The variables that every environment begins with. -/
def baseEnv (ctx : Context) (role : Role) : Variables :=
  [⟨"SERVICE_NAME", role.qualified ctx.cfg.framework.name⟩]

/-- In a network of their own, containers are found by the framework's name followed by their
role's. -/
def netAlias (ctx : Context) (role : Role) : List Parameter :=
  if ctx.userNetwork?.isSome then [⟨"net-alias", ctx.cfg.framework.name ++ role.name⟩] else []

/-- Options of every server and agent, given its memory. -/
def runtimeParameters (ctx : Context) (mem : Binary64) : List Parameter :=
  let docker := ctx.cfg.docker
  [⟨"cap-add", "NET_ADMIN"⟩, ⟨"cap-add", "SYS_ADMIN"⟩, ⟨"shm-size", docker.shmSize⟩,
    ⟨"memory-swap", ((docker.memorySwap + mem) / 1024).wholeText ++ "g"⟩,
    ⟨"ulimit", "nofile=" ++ docker.ulimit⟩]

/-- Where control groups are found. -/
def cgroupPath : String := "/sys/fs/cgroup"

/-- The option for the second version of control groups, if hosts use it. -/
def cgroupParameters (ctx : Context) : List Parameter :=
  if ctx.cfg.docker.cgroupV2 then [⟨"cgroupns", "host"⟩] else []

/-- The volume for the second version of control groups, if hosts use it. -/
def cgroupVolumes (ctx : Context) : List Volume :=
  if ctx.cfg.docker.cgroupV2 then [ctx.volume cgroupPath cgroupPath] else []

/-- The container that every new record begins with. -/
def baseContainer (ctx : Context) (role : Role) : ContainerSpec where
  image := ""
  command := none
  shell := false
  arguments := []
  privileged := false
  hostname := ctx.cfg.hostnameOf role
  network := ctx.network.1
  networkName := ctx.network.2
  ports := []
  parameters := []
  volumes := []
  env := []
  uris := []
  forcePull := ctx.cfg.docker.forcePull

/-- A new record of a workload with everything that does not depend on its role. -/
def record (ctx : Context) (id : String) (workload : Workload) (resources : Resources)
    (labels : Variables) (container : ContainerSpec) (ports : List DiscoveryPort) : TaskRecord :=
  let name := workload.role.qualified ctx.cfg.framework.name
  { id, name
    framework := ctx.cfg.framework.name
    workload, resources
    limits := none
    container
    discovery := ⟨name, .external, ports⟩
    labels
    instances := ctx.cfg.desired workload.role
    state := .unset
    agentId := none
    agentHostname := none
    address := none
    createdAt := ctx.now
    updatedAt := ctx.now }

end Context

end Stevedore.Build
