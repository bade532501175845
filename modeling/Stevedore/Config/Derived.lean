import Stevedore.Cluster.Identity
import Stevedore.Config.Basic
import Stevedore.Text.Count
import Stevedore.Text.Quoted

/-!
# What follows from a configuration

Values that are computed from what an operator has set: names inside containers, the address of
the control plane, what a role runs and how many of its tasks are wanted. Settings that outlive a
restart are laid over the configuration before it is used.
-/

namespace Stevedore.Config

/-- How many tasks of a role are wanted. -/
def desired (cfg : Config) : Role → UInt32
  | .datastore => cfg.datastore.instances
  | .server => cfg.server.instances
  | .agent => cfg.agent.instances

/-- The configuration with another number of tasks wanted of a role. -/
def setDesired (cfg : Config) (role : Role) (n : UInt32) : Config :=
  match role with
  | .datastore => { cfg with datastore.instances := n }
  | .server => { cfg with server.instances := n }
  | .agent => { cfg with agent.instances := n }

/-- What a new task of a role runs. -/
def workload (cfg : Config) : Role → Workload
  | .datastore => .datastore cfg.datastore.backend
  | .server => .server
  | .agent => .agent

/-- The port of the datastore inside its container, if the text set for it is one. -/
def datastorePort? (cfg : Config) : Option UInt32 :=
  ((Text.count? (wordLimit 16) (Text.trim cfg.datastore.port)).filter (0 < ·)).map UInt32.ofNat

/-- The name of the host inside every container of a role. -/
def hostnameOf (cfg : Config) (role : Role) : String :=
  cfg.framework.name ++ role.name ++ cfg.framework.domain

/-- Where the control plane is asked for its health. -/
def serverHostname (cfg : Config) : String :=
  cfg.server.hostname.getD (cfg.hostnameOf .server)

/-- The address of the control plane. -/
def serverUrl (cfg : Config) : String :=
  cfg.server.url.getD s!"https://{cfg.hostnameOf .server}:6443"

/-- The configuration with the settings that outlive a restart laid over it. -/
def withSettings (cfg : Config) (settings : Settings) : Config :=
  { cfg with
    server.url := settings.serverUrl <|> cfg.server.url
    server.hostPort := settings.serverPort.getD cfg.server.hostPort }

/-- For how many seconds declined resources are not to be offered again, if for any time. -/
def refuseSeconds? (cfg : Config) : Option Binary64 :=
  if cfg.scheduler.refuseSeconds.isPositive then some cfg.scheduler.refuseSeconds else none

end Stevedore.Config
