import Stevedore.Json.Fields
import Stevedore.Binary64.Basic

/-!
# Resources of a task

What a task needs of the machine it runs on: shares of its scalar resources, optional hard
limits, and ports of the container that are reachable through ports of the host.
-/

namespace Stevedore

/-- Scalar resources that a task asks for. -/
structure Resources where
  /-- Processor shares. -/
  cpus : Binary64
  /-- Memory in megabytes. -/
  mem : Binary64
  /-- Disk space in megabytes. -/
  disk : Binary64
  deriving DecidableEq, Repr

instance : Json.Coded Resources where
  encode r := Json.record
    [Json.field "cpus" r.cpus, Json.field "mem" r.mem, Json.field "disk" r.disk]
  decode? j := do
    let f ← Json.fields? ["cpus", "mem", "disk"] j
    return {
      cpus := ← f.required "cpus"
      mem := ← f.required "mem"
      disk := ← f.required "disk" }

/-- Limits that the manager enforces on a running task. -/
structure Limits where
  /-- Processor shares. -/
  cpus : Binary64
  /-- Memory in megabytes. -/
  mem : Binary64
  deriving DecidableEq, Repr

instance : Json.Coded Limits where
  encode l := Json.record [Json.field "cpus" l.cpus, Json.field "mem" l.mem]
  decode? j := do
    let f ← Json.fields? ["cpus", "mem"] j
    return { cpus := ← f.required "cpus", mem := ← f.required "mem" }

/-- A port of the container that is reachable through a port of the host. -/
structure PortMapping where
  /-- The port of the host; zero stands for any port that an offer has free. -/
  hostPort : UInt32
  /-- The port inside the container. -/
  containerPort : UInt32
  /-- The protocol spoken on the port, possibly of a higher layer. -/
  protocol : String
  deriving DecidableEq, Repr

namespace PortMapping

/-- A mapping whose host port is left to the offer. -/
def any (containerPort : UInt32) (protocol : String) : PortMapping :=
  ⟨0, containerPort, protocol⟩

/-- Whether the host port is left to the offer. -/
def isDynamic (p : PortMapping) : Bool := p.hostPort == 0

/-- The protocol of the layer below: `udp` where that is declared, otherwise `tcp`. -/
def transport (p : PortMapping) : String :=
  if p.protocol = "udp" then "udp" else "tcp"

end PortMapping

instance : Json.Coded PortMapping where
  encode p := Json.record
    [Json.field "hostPort" p.hostPort, Json.field "containerPort" p.containerPort,
      Json.field "protocol" p.protocol]
  decode? j := do
    let f ← Json.fields? ["hostPort", "containerPort", "protocol"] j
    return {
      hostPort := ← f.required "hostPort"
      containerPort := ← f.required "containerPort"
      protocol := ← f.required "protocol" }

end Stevedore
