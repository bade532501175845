import Stevedore.Cluster.TaskRecord
import Stevedore.Config.Derived

/-!
# Asking the cluster for its health

A datastore answers if a connection to its first host port can be opened on the machine that runs
it; the control plane answers if it answers a request in whatever way. Which connections and
requests succeed is up to the network.
-/

namespace Stevedore.Scheduling

/-- A request that asks the control plane for its health. -/
structure HealthRequest where
  /-- The address. -/
  url : String
  /-- The user and the password, if there is a user. -/
  user : Option (String × String)
  deriving DecidableEq, Repr

/-- What the network between the scheduler and the cluster lets through. -/
structure Network where
  /-- Whether a connection to a port of a host can be opened. -/
  connects : String → UInt16 → Bool
  /-- Whether a request is answered. -/
  answers : HealthRequest → Bool

namespace Network

/-- A network that lets nothing through. -/
def down : Network := ⟨fun _ _ => false, fun _ => false⟩

/-- Whether the datastore of a record answers. -/
def reaches (n : Network) (r : TaskRecord) : Bool :=
  match r.agentHostname, r.firstHostPort? with
  | some host, some port => n.connects host port.toUInt16
  | _, _ => false

/-- Whether one of some running datastores answers. -/
def datastoreAnswers (n : Network) (running : List TaskRecord) : Bool :=
  running.any n.reaches

end Network

/-- The request that asks the control plane of a configuration for its health. -/
def HealthRequest.ofConfig (cfg : Config) : HealthRequest where
  url := s!"https://{cfg.serverHostname}:{Text.decimal cfg.server.hostPort.toNat}/"
  user :=
    if cfg.bootstrap.username.isEmpty then none
    else some (cfg.bootstrap.username, cfg.bootstrap.password)

/-- Whether the control plane answers. -/
def Network.serverAnswers (n : Network) (cfg : Config) : Bool :=
  n.answers (.ofConfig cfg)

end Stevedore.Scheduling
