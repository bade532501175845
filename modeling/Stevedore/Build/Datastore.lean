import Stevedore.Build.Basic

/-!
# New datastores

A datastore takes a host port of its own for as long as it exists: the lowest one of the configured
range that no other record and not the control plane takes.
-/

namespace Stevedore.Build

/-- Where the embedded backend keeps its data. -/
def embeddedDataDir : String := "/default.etcd"

/-- Where the relational backend keeps its data. -/
def relationalDataDir : String := "/var/lib/mysql"

/-- The command line of the embedded backend. -/
def embeddedCommand (port : UInt32) : String :=
  s!"/usr/local/bin/etcd --listen-client-urls http://0.0.0.0:{Text.decimal port.toNat}"
    ++ " --election-timeout '50000' --heartbeat-interval '5000'"

/-- A container with the embedded backend. -/
def withEmbedded (ctx : Context) (port : UInt32) (c : ContainerSpec) : ContainerSpec :=
  { c with
    image := ctx.cfg.datastore.imageEmbedded
    shell := true
    command := some (embeddedCommand port)
    env := ctx.baseEnv .datastore ++
      [⟨"ALLOW_NONE_AUTHENTICATION", "yes"⟩,
        ⟨"ETCD_ADVERTISE_CLIENT_URLS", s!"http://{c.hostname}:{Text.decimal port.toNat}"⟩,
        ⟨"ETCD_DATA_DIR", embeddedDataDir⟩]
    volumes := c.volumes ++ [ctx.volume embeddedDataDir ctx.cfg.datastore.volume] }

/-- A container with the relational backend. -/
def withRelational (ctx : Context) (c : ContainerSpec) : ContainerSpec :=
  { c with
    image := ctx.cfg.datastore.imageRelational
    shell := false
    command := none
    arguments :=
      if ctx.cfg.datastore.tls then
        [s!"--ssl-ca={relationalDataDir}/ca.pem",
          s!"--ssl-cert={relationalDataDir}/server-cert.pem",
          s!"--ssl-key={relationalDataDir}/server-key.pem"]
      else []
    env := ctx.baseEnv .datastore ++
      [⟨"MYSQL_ROOT_PASSWORD", ctx.cfg.datastore.password⟩, ⟨"MYSQL_DATABASE", "k3s"⟩,
        ⟨"TZ", ctx.cfg.framework.timezone⟩]
    volumes := c.volumes ++ [ctx.volume relationalDataDir ctx.cfg.datastore.volume] }

/-- The host port of a new datastore. -/
def datastoreHostPort (ctx : Context) : Except Fault UInt32 :=
  let first := ctx.cfg.scheduler.portRangeStart
  let last := ctx.cfg.scheduler.portRangeEnd
  match Ports.allocate? (ctx.cfg.server.hostPort :: ctx.usedPorts) first last with
  | some port => .ok port
  | none => .error (.portsExhausted first last)

/-- The record of a new datastore on a backend. -/
def datastore (backend : Backend) (id : String) (ctx : Context) : Except Fault TaskRecord := do
  let port ← ctx.datastorePort
  let hostPort ← datastoreHostPort ctx
  let ds := ctx.cfg.datastore
  let base := ctx.baseContainer .datastore
  let published := { base with
    parameters := ⟨"cap-add", "NET_ADMIN"⟩ :: ctx.netAlias .datastore
    ports := [⟨hostPort, port, "tcp"⟩] }
  let container := match backend with
    | .embedded => withEmbedded ctx port published
    | .relational => withRelational ctx published
  return ctx.record id (.datastore backend) ⟨ds.cpus, ds.mem, ds.disk⟩ ds.labels container
    [⟨port, "datastore", "tcp"⟩]

end Stevedore.Build
