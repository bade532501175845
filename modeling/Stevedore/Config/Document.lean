import Stevedore.Config.Reading
import Stevedore.Json.Fields

/-!
# Configurations as JSON

A configuration that stands in a JSON document. Values are understood strictly, as those of records
are; a section may also be given by place. A configuration is written with all its settings.
-/

namespace Stevedore.Config

/-! ### Reading -/

/-- How the values of a JSON document are understood. -/
def document : Dialect Json where
  fields? names j := (Json.fields? names j).map fun f => f.get?
  items?
    | .list items => some items
    | _ => none
  text? := Json.decode?
  flag? := Json.decode?
  count? := Json.count?
  real? := Json.decode?
  name? := Json.label?
  isUnset
    | .null => true
    | _ => false

/-- The configuration that stands in a document. -/
def ofJson? (j : Json) : Option Config :=
  document.config? j

/-! ### Writing -/

open Json (field record)

/-- How the framework presents itself. -/
def frameworkJson (s : FrameworkSection) : Json :=
  record [field "name" s.name, field "user" s.user, field "role" s.role,
    field "principal" s.principal, field "hostname" s.hostname, field "webui_url" s.webuiUrl,
    field "failover_timeout_secs" s.failoverTimeoutSecs, field "checkpoint" s.checkpoint,
    field "domain" s.domain, field "kubernetes_version" s.kubernetesVersion,
    field "token" s.token, field "timezone" s.timezone, field "enforce_limits" s.enforceLimits]

/-- How the framework works with the manager. -/
def schedulerJson (s : SchedulerSection) : Json :=
  record [field "master" s.master, field "username" s.username, field "password" s.password,
    field "accept_invalid_certs" s.acceptInvalidCerts, field "tick_ms" s.tickMs,
    field "call_timeout_ms" s.callTimeoutMs, field "connect_timeout_ms" s.connectTimeoutMs,
    field "refuse_seconds" s.refuseSeconds, field "port_range_start" s.portRangeStart,
    field "port_range_end" s.portRangeEnd, field "event_queue" s.eventQueue]

/-- The datastores. -/
def datastoreJson (s : DatastoreSection) : Json :=
  record [field "backend" s.backend.name, field "instances" s.instances, field "cpus" s.cpus,
    field "mem" s.mem, field "disk" s.disk, field "port" s.port,
    field "image_embedded" s.imageEmbedded, field "image_relational" s.imageRelational,
    field "username" s.username, field "password" s.password, field "tls" s.tls,
    field "volume" s.volume, field "labels" s.labels]

/-- The servers. -/
def serverJson (s : ServerSection) : Json :=
  record [field "instances" s.instances, field "cpus" s.cpus, field "mem" s.mem,
    field "disk" s.disk, field "host_port" s.hostPort, field "args" s.args,
    field "hostname" s.hostname, field "url" s.url, field "kubeconfig" s.kubeconfig,
    field "volume" s.volume, field "labels" s.labels]

/-- The agents. -/
def agentJson (s : AgentSection) : Json :=
  record [field "instances" s.instances, field "cpus" s.cpus, field "mem" s.mem,
    field "disk" s.disk, field "cpu_limit" s.cpuLimit, field "mem_limit" s.memLimit,
    field "disk_limit" s.diskLimit, field "restrict_disk" s.restrictDisk, field "args" s.args,
    field "extra_tcp_port" s.extraTcpPort, field "registry_mirror" s.registryMirror,
    field "custom_runtime" s.customRuntime, field "enable_taint" s.enableTaint, field "env" s.env,
    field "labels" s.labels]

/-- The containers of all roles. -/
def dockerJson (s : DockerSection) : Json :=
  record [field "cni" s.cni, field "image" s.image, field "args" s.args,
    field "memory_swap" s.memorySwap, field "ulimit" s.ulimit, field "shm_size" s.shmSize,
    field "cgroup_v2" s.cgroupV2, field "volume_driver" s.volumeDriver,
    field "force_pull" s.forcePull]

/-- How servers and agents are started. -/
def bootstrapJson (s : BootstrapSection) : Json :=
  record [field "url" s.url, field "username" s.username, field "password" s.password,
    field "skip_ssl" s.skipSsl]

/-- The store. -/
def storeJson (s : StoreSection) : Json :=
  record [field "backend" s.backend.name, field "path" s.path]

/-- The log. -/
def loggingJson (s : Observe.LogSettings) : Json :=
  record [field "format" s.format.name, field "level" s.level, field "with_targets" s.withTargets]

/-- A configuration as a document. -/
def toJson (cfg : Config) : Json :=
  .object [("framework", frameworkJson cfg.framework), ("scheduler", schedulerJson cfg.scheduler),
    ("datastore", datastoreJson cfg.datastore), ("server", serverJson cfg.server),
    ("agent", agentJson cfg.agent), ("docker", dockerJson cfg.docker),
    ("bootstrap", bootstrapJson cfg.bootstrap), ("store", storeJson cfg.store),
    ("logging", loggingJson cfg.logging)]

end Stevedore.Config
