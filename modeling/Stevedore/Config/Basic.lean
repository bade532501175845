import Stevedore.Binary64.Basic
import Stevedore.Cluster.Variables
import Stevedore.Cluster.Workload
import Stevedore.Observe.Format

/-!
# Configuration

What an operator can set, section by section, and the values that hold where nothing is set.
-/

namespace Stevedore

namespace Config

/-- How the framework presents itself. -/
structure FrameworkSection where
  /-- Its name, with which every key of the store and every host name inside a container begins. -/
  name : String := "keel"
  /-- The user that tasks run as. -/
  user : String := "root"
  /-- The role whose share of the cluster it uses. -/
  role : String := "*"
  /-- The name it authenticates with. -/
  principal : Option String := none
  /-- The host it runs on; the machine's own name if not set. -/
  hostname : Option String := none
  /-- The address of its web interface. -/
  webuiUrl : Option String := none
  /-- How many seconds the manager keeps its tasks after losing it. -/
  failoverTimeoutSecs : Binary64 := 5000
  /-- Whether tasks outlive a restart of their machine's agent. -/
  checkpoint : Bool := true
  /-- What follows the host names inside containers. -/
  domain : String := ""
  /-- The version of the control plane. -/
  kubernetesVersion : String := "v1.30.4"
  /-- The secret with which members join the cluster. -/
  token : String := ""
  /-- The time zone of the containers. -/
  timezone : String := "UTC"
  /-- Whether limits are sent with the agents. -/
  enforceLimits : Bool := false
  deriving DecidableEq

/-- How the framework works with the manager. -/
structure SchedulerSection where
  /-- The address of the manager. -/
  master : String := "http://127.0.0.1:5050"
  /-- The user for the manager. -/
  username : Option String := none
  /-- The password for the manager. -/
  password : Option String := none
  /-- Whether certificates go unchecked. -/
  acceptInvalidCerts : Bool := false
  /-- The time between two cycles in milliseconds. -/
  tickMs : UInt64 := 2000
  /-- How long a call may take in milliseconds. -/
  callTimeoutMs : UInt64 := 2000
  /-- How long connecting may take in milliseconds. -/
  connectTimeoutMs : UInt64 := 1000
  /-- For how many seconds declined resources are not to be offered again. -/
  refuseSeconds : Binary64 := 120
  /-- The first host port that a datastore may take. -/
  portRangeStart : UInt32 := 31000
  /-- The last host port that a datastore may take. -/
  portRangeEnd : UInt32 := 32000
  /-- How many events may wait. -/
  eventQueue : UInt64 := 1024
  deriving DecidableEq

/-- The datastores. -/
structure DatastoreSection where
  /-- Where they keep the cluster's state. -/
  backend : Backend := .embedded
  /-- How many are wanted. -/
  instances : UInt32 := 1
  /-- The processor shares of each. -/
  cpus : Binary64 := .nearest false Binary64.one 2
  /-- The memory of each. -/
  mem : Binary64 := 1024
  /-- The disk space of each. -/
  disk : Binary64 := 1000
  /-- The port inside the container, as text. -/
  port : String := "2379"
  /-- The image of the embedded backend. -/
  imageEmbedded : String := "bitnami/etcd:latest"
  /-- The image of the relational backend. -/
  imageRelational : String := "mariadb:latest"
  /-- The user of the relational backend. -/
  username : String := "root"
  /-- The password of the relational backend. -/
  password : String := ""
  /-- Whether connections to the relational backend are encrypted. -/
  tls : Bool := false
  /-- The volume that holds the data. -/
  volume : String := "keel-datastore"
  /-- Labels of the tasks. -/
  labels : Variables := []
  deriving DecidableEq

/-- The servers of the control plane. -/
structure ServerSection where
  /-- How many are wanted. -/
  instances : UInt32 := 1
  /-- The processor shares of each. -/
  cpus : Binary64 := 2
  /-- The memory of each. -/
  mem : Binary64 := 2048
  /-- The disk space of each. -/
  disk : Binary64 := 10000
  /-- The host port of the control plane. -/
  hostPort : UInt32 := 31862
  /-- The command line. -/
  args : String :=
    "/usr/local/bin/k3s server --cluster-cidr=10.2.0.0/16 --service-cidr=10.3.0.0/16"
  /-- Where the control plane is asked for its health; its name inside the container if not set. -/
  hostname : Option String := none
  /-- The address of the control plane; computed when the first server is created if not set. -/
  url : Option String := none
  /-- Where the access file is written. -/
  kubeconfig : String := "/mnt/mesos/sandbox/kubeconfig.yaml"
  /-- The volume that holds the data. -/
  volume : String := "keel-server"
  /-- Labels of the tasks. -/
  labels : Variables := []
  deriving DecidableEq

/-- The agents. -/
structure AgentSection where
  /-- How many are wanted. -/
  instances : UInt32 := 1
  /-- The processor shares of each. -/
  cpus : Binary64 := 1
  /-- The memory of each. -/
  mem : Binary64 := 2048
  /-- The disk space of each. -/
  disk : Binary64 := 10000
  /-- The limit on processor shares. -/
  cpuLimit : Binary64 := 2
  /-- The limit on memory. -/
  memLimit : Binary64 := 4096
  /-- The limit on the container's own disk space. -/
  diskLimit : Binary64 := 10000
  /-- Whether the container's own disk space is limited. -/
  restrictDisk : Bool := false
  /-- The command line, its words separated by blanks. -/
  args : String := "/usr/local/bin/k3s agent"
  /-- A further port inside the container. -/
  extraTcpPort : Option UInt32 := none
  /-- Whether agents share the images that they hold. -/
  registryMirror : Bool := false
  /-- The container runtime, if not the default. -/
  customRuntime : Option String := none
  /-- Whether nodes are closed to work until an operator opens them. -/
  enableTaint : Bool := false
  /-- Further variables of the environment. -/
  env : Variables := []
  /-- Labels of the tasks. -/
  labels : Variables := []
  deriving DecidableEq

/-- The containers of all roles. -/
structure DockerSection where
  /-- The network they join if the manager has none of its own. -/
  cni : String := "bridge"
  /-- The image of servers and agents. -/
  image : String := "rancher/k3s:v1.30.4-k3s1"
  /-- Further arguments of servers and agents. -/
  args : String := ""
  /-- Swap space on top of each container's memory. -/
  memorySwap : Binary64 := 1024
  /-- How many files a container may hold open. -/
  ulimit : String := "65535"
  /-- The size of the shared memory. -/
  shmSize : String := "30gb"
  /-- Whether hosts use the second version of control groups. -/
  cgroupV2 : Bool := false
  /-- The driver of the volumes. -/
  volumeDriver : String := "local"
  /-- Whether images are fetched even if a copy is at hand. -/
  forcePull : Bool := true
  deriving DecidableEq

/-- How servers and agents are started. -/
structure BootstrapSection where
  /-- The script that starts them. -/
  url : String := "https://raw.githubusercontent.com/keel-dev/keel/main/bootstrap/bootstrap.sh"
  /-- The user for asking the control plane. -/
  username : String := ""
  /-- The password for asking the control plane. -/
  password : String := ""
  /-- Whether certificates go unchecked when the control plane is asked. -/
  skipSsl : Bool := true
  deriving DecidableEq

/-- Where records are kept. -/
inductive StoreKind where
  /-- In memory, until the program ends. -/
  | memory
  /-- In a file. -/
  | file
  deriving DecidableEq, Repr

namespace StoreKind

/-- Both kinds. -/
def all : List StoreKind := [memory, file]

/-- The name of a kind. -/
def name : StoreKind → String
  | memory => "memory"
  | file => "file"

end StoreKind

/-- The store. -/
structure StoreSection where
  /-- Where records are kept. -/
  backend : StoreKind := .memory
  /-- The file. -/
  path : String := "keel-state.json"
  deriving DecidableEq

end Config

/-- A complete configuration. -/
structure Config where
  /-- How the framework presents itself. -/
  framework : Config.FrameworkSection := {}
  /-- How it works with the manager. -/
  scheduler : Config.SchedulerSection := {}
  /-- The datastores. -/
  datastore : Config.DatastoreSection := {}
  /-- The servers. -/
  server : Config.ServerSection := {}
  /-- The agents. -/
  agent : Config.AgentSection := {}
  /-- The containers of all roles. -/
  docker : Config.DockerSection := {}
  /-- How servers and agents are started. -/
  bootstrap : Config.BootstrapSection := {}
  /-- The store. -/
  store : Config.StoreSection := {}
  /-- The log. -/
  logging : Observe.LogSettings := {}
  deriving DecidableEq

end Stevedore
