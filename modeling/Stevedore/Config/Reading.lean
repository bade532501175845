import Stevedore.Config.Basic
import Stevedore.Text.Count

/-!
# Reading a configuration

The names of all settings, and how a configuration is put together from a tree of values. What is
not set keeps its default. How a single value is understood depends on where the tree comes from;
a `Dialect` says it for one kind of tree.
-/

namespace Stevedore.Config

/-- How values of one kind of tree are understood. -/
structure Dialect (V : Type) where
  /-- The parts of a value that stand under the given names, if it has named parts. -/
  fields? : List String → V → Option (String → Option V)
  /-- The items of a list. -/
  items? : V → Option (List V)
  /-- A text. -/
  text? : V → Option String
  /-- A truth value. -/
  flag? : V → Option Bool
  /-- A whole number below a limit. -/
  count? : Nat → V → Option Nat
  /-- A number. -/
  real? : V → Option Binary64
  /-- The name of a choice. -/
  name? : V → Option String
  /-- Whether a value says that there is none. -/
  isUnset : V → Bool

namespace Dialect

variable {V : Type} {α : Type}

/-- What stands under a name, or the default if nothing does. -/
def orElse (f : String → Option V) (name : String) (default : α) (read? : V → Option α) :
    Option α :=
  match f name with
  | some v => read? v
  | none => some default

/-- A value that may say that there is none. -/
def optional? (d : Dialect V) (read? : V → Option α) (v : V) : Option (Option α) :=
  if d.isUnset v then some none else (read? v).map some

/-- A number of 32 bits. -/
def word32? (d : Dialect V) (v : V) : Option UInt32 := (d.count? (wordLimit 32) v).map UInt32.ofNat

/-- A number of 64 bits. -/
def word64? (d : Dialect V) (v : V) : Option UInt64 := (d.count? (wordLimit 64) v).map UInt64.ofNat

/-- A list of named texts. Both parts of each have to be present. -/
def variables? (d : Dialect V) (v : V) : Option Variables := do
  (← d.items? v).mapM fun item => do
    let f ← d.fields? ["key", "value"] item
    return ⟨← (f "key").bind d.text?, ← (f "value").bind d.text?⟩

/-- A choice among named values. -/
def choice? (d : Dialect V) (all : List α) (name : α → String) (v : V) : Option α :=
  (d.name? v).bind fun s => all.find? fun x => name x == s

/-- How the framework presents itself. -/
def framework? (d : Dialect V) (v : V) : Option FrameworkSection := do
  let f ← d.fields?
    ["name", "user", "role", "principal", "hostname", "webui_url", "failover_timeout_secs",
      "checkpoint", "domain", "kubernetes_version", "token", "timezone", "enforce_limits"] v
  let base : FrameworkSection := {}
  return {
    name := ← orElse f "name" base.name d.text?
    user := ← orElse f "user" base.user d.text?
    role := ← orElse f "role" base.role d.text?
    principal := ← orElse f "principal" base.principal (d.optional? d.text?)
    hostname := ← orElse f "hostname" base.hostname (d.optional? d.text?)
    webuiUrl := ← orElse f "webui_url" base.webuiUrl (d.optional? d.text?)
    failoverTimeoutSecs := ← orElse f "failover_timeout_secs" base.failoverTimeoutSecs d.real?
    checkpoint := ← orElse f "checkpoint" base.checkpoint d.flag?
    domain := ← orElse f "domain" base.domain d.text?
    kubernetesVersion := ← orElse f "kubernetes_version" base.kubernetesVersion d.text?
    token := ← orElse f "token" base.token d.text?
    timezone := ← orElse f "timezone" base.timezone d.text?
    enforceLimits := ← orElse f "enforce_limits" base.enforceLimits d.flag? }

/-- How the framework works with the manager. -/
def scheduler? (d : Dialect V) (v : V) : Option SchedulerSection := do
  let f ← d.fields?
    ["master", "username", "password", "accept_invalid_certs", "tick_ms", "call_timeout_ms",
      "connect_timeout_ms", "refuse_seconds", "port_range_start", "port_range_end",
      "event_queue"] v
  let base : SchedulerSection := {}
  return {
    master := ← orElse f "master" base.master d.text?
    username := ← orElse f "username" base.username (d.optional? d.text?)
    password := ← orElse f "password" base.password (d.optional? d.text?)
    acceptInvalidCerts := ← orElse f "accept_invalid_certs" base.acceptInvalidCerts d.flag?
    tickMs := ← orElse f "tick_ms" base.tickMs d.word64?
    callTimeoutMs := ← orElse f "call_timeout_ms" base.callTimeoutMs d.word64?
    connectTimeoutMs := ← orElse f "connect_timeout_ms" base.connectTimeoutMs d.word64?
    refuseSeconds := ← orElse f "refuse_seconds" base.refuseSeconds d.real?
    portRangeStart := ← orElse f "port_range_start" base.portRangeStart d.word32?
    portRangeEnd := ← orElse f "port_range_end" base.portRangeEnd d.word32?
    eventQueue := ← orElse f "event_queue" base.eventQueue d.word64? }

/-- The datastores. -/
def datastore? (d : Dialect V) (v : V) : Option DatastoreSection := do
  let f ← d.fields?
    ["backend", "instances", "cpus", "mem", "disk", "port", "image_embedded", "image_relational",
      "username", "password", "tls", "volume", "labels"] v
  let base : DatastoreSection := {}
  return {
    backend := ← orElse f "backend" base.backend (d.choice? Backend.all Backend.name)
    instances := ← orElse f "instances" base.instances d.word32?
    cpus := ← orElse f "cpus" base.cpus d.real?
    mem := ← orElse f "mem" base.mem d.real?
    disk := ← orElse f "disk" base.disk d.real?
    port := ← orElse f "port" base.port d.text?
    imageEmbedded := ← orElse f "image_embedded" base.imageEmbedded d.text?
    imageRelational := ← orElse f "image_relational" base.imageRelational d.text?
    username := ← orElse f "username" base.username d.text?
    password := ← orElse f "password" base.password d.text?
    tls := ← orElse f "tls" base.tls d.flag?
    volume := ← orElse f "volume" base.volume d.text?
    labels := ← orElse f "labels" base.labels d.variables? }

/-- The servers. -/
def server? (d : Dialect V) (v : V) : Option ServerSection := do
  let f ← d.fields?
    ["instances", "cpus", "mem", "disk", "host_port", "args", "hostname", "url", "kubeconfig",
      "volume", "labels"] v
  let base : ServerSection := {}
  return {
    instances := ← orElse f "instances" base.instances d.word32?
    cpus := ← orElse f "cpus" base.cpus d.real?
    mem := ← orElse f "mem" base.mem d.real?
    disk := ← orElse f "disk" base.disk d.real?
    hostPort := ← orElse f "host_port" base.hostPort d.word32?
    args := ← orElse f "args" base.args d.text?
    hostname := ← orElse f "hostname" base.hostname (d.optional? d.text?)
    url := ← orElse f "url" base.url (d.optional? d.text?)
    kubeconfig := ← orElse f "kubeconfig" base.kubeconfig d.text?
    volume := ← orElse f "volume" base.volume d.text?
    labels := ← orElse f "labels" base.labels d.variables? }

/-- The agents. -/
def agent? (d : Dialect V) (v : V) : Option AgentSection := do
  let f ← d.fields?
    ["instances", "cpus", "mem", "disk", "cpu_limit", "mem_limit", "disk_limit", "restrict_disk",
      "args", "extra_tcp_port", "registry_mirror", "custom_runtime", "enable_taint", "env",
      "labels"] v
  let base : AgentSection := {}
  return {
    instances := ← orElse f "instances" base.instances d.word32?
    cpus := ← orElse f "cpus" base.cpus d.real?
    mem := ← orElse f "mem" base.mem d.real?
    disk := ← orElse f "disk" base.disk d.real?
    cpuLimit := ← orElse f "cpu_limit" base.cpuLimit d.real?
    memLimit := ← orElse f "mem_limit" base.memLimit d.real?
    diskLimit := ← orElse f "disk_limit" base.diskLimit d.real?
    restrictDisk := ← orElse f "restrict_disk" base.restrictDisk d.flag?
    args := ← orElse f "args" base.args d.text?
    extraTcpPort := ← orElse f "extra_tcp_port" base.extraTcpPort (d.optional? d.word32?)
    registryMirror := ← orElse f "registry_mirror" base.registryMirror d.flag?
    customRuntime := ← orElse f "custom_runtime" base.customRuntime (d.optional? d.text?)
    enableTaint := ← orElse f "enable_taint" base.enableTaint d.flag?
    env := ← orElse f "env" base.env d.variables?
    labels := ← orElse f "labels" base.labels d.variables? }

/-- The containers of all roles. -/
def docker? (d : Dialect V) (v : V) : Option DockerSection := do
  let f ← d.fields?
    ["cni", "image", "args", "memory_swap", "ulimit", "shm_size", "cgroup_v2", "volume_driver",
      "force_pull"] v
  let base : DockerSection := {}
  return {
    cni := ← orElse f "cni" base.cni d.text?
    image := ← orElse f "image" base.image d.text?
    args := ← orElse f "args" base.args d.text?
    memorySwap := ← orElse f "memory_swap" base.memorySwap d.real?
    ulimit := ← orElse f "ulimit" base.ulimit d.text?
    shmSize := ← orElse f "shm_size" base.shmSize d.text?
    cgroupV2 := ← orElse f "cgroup_v2" base.cgroupV2 d.flag?
    volumeDriver := ← orElse f "volume_driver" base.volumeDriver d.text?
    forcePull := ← orElse f "force_pull" base.forcePull d.flag? }

/-- How servers and agents are started. -/
def bootstrap? (d : Dialect V) (v : V) : Option BootstrapSection := do
  let f ← d.fields? ["url", "username", "password", "skip_ssl"] v
  let base : BootstrapSection := {}
  return {
    url := ← orElse f "url" base.url d.text?
    username := ← orElse f "username" base.username d.text?
    password := ← orElse f "password" base.password d.text?
    skipSsl := ← orElse f "skip_ssl" base.skipSsl d.flag? }

/-- The store. -/
def store? (d : Dialect V) (v : V) : Option StoreSection := do
  let f ← d.fields? ["backend", "path"] v
  let base : StoreSection := {}
  return {
    backend := ← orElse f "backend" base.backend (d.choice? StoreKind.all StoreKind.name)
    path := ← orElse f "path" base.path d.text? }

/-- The log. Whether lines are coloured depends on the terminal alone, but has to be a truth value
if it is set. -/
def logging? (d : Dialect V) (v : V) : Option Observe.LogSettings := do
  let f ← d.fields? ["format", "level", "with_targets", "use_color"] v
  let base : Observe.LogSettings := {}
  let _ ← orElse f "use_color" false d.flag?
  return {
    format := ← orElse f "format" base.format fun v => do
      (Observe.LogFormat.parse (← d.text? v)).toOption
    level := ← orElse f "level" base.level d.text?
    withTargets := ← orElse f "with_targets" base.withTargets d.flag? }

/-- A complete configuration. -/
def config? (d : Dialect V) (v : V) : Option Config := do
  let f ← d.fields?
    ["framework", "scheduler", "datastore", "server", "agent", "docker", "bootstrap", "store",
      "logging"] v
  return {
    framework := ← orElse f "framework" {} d.framework?
    scheduler := ← orElse f "scheduler" {} d.scheduler?
    datastore := ← orElse f "datastore" {} d.datastore?
    server := ← orElse f "server" {} d.server?
    agent := ← orElse f "agent" {} d.agent?
    docker := ← orElse f "docker" {} d.docker?
    bootstrap := ← orElse f "bootstrap" {} d.bootstrap?
    store := ← orElse f "store" {} d.store?
    logging := ← orElse f "logging" {} d.logging? }

end Dialect

end Stevedore.Config
