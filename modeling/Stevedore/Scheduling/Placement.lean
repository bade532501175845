import Stevedore.Cluster.Ports
import Stevedore.Binary64.Text
import Stevedore.Manager.Event

/-!
# Placing a task on an offer

Whether an offer has what a task needs, and which host ports it supplies for the mappings that
leave theirs open. Mappings are served in order: a fixed port has to be offered and not yet taken
by the same task, an open one gets the first offered port, in the order of the ranges, that is
neither zero nor above the largest port number nor taken.
-/

namespace Stevedore.Scheduling

open Manager (Offer Range)

/-- Why a task does not fit an offer. -/
inductive Mismatch where
  /-- The offer has too little of a scalar resource. -/
  | scalar (name : String) (need offered : Binary64)
  /-- A fixed host port is not offered, or the task needs it twice. -/
  | port (hostPort : UInt32)
  /-- No offered port is left for an open mapping. -/
  | noFreePort (containerPort : UInt32)
  deriving DecidableEq, Repr

/-- What is reported. -/
def Mismatch.message : Mismatch → String
  | scalar name need offered => s!"{name}: need {need.plainText}, have {offered.plainText}"
  | port hostPort => s!"host port {Text.decimal hostPort.toNat} not offered"
  | noFreePort containerPort =>
    s!"no free host port for container port {Text.decimal containerPort.toNat}"

/-- The largest port number. -/
def largestPort : Nat := 65535

/-- The lowest port of a range that can be used and is not taken. -/
def freePortIn? (taken : List UInt32) (r : Range) : Option UInt32 :=
  let low := max r.first.toNat 1
  let high := min r.last.toNat largestPort
  Ports.lowestFree? taken low (high + 1 - low)

/-- The first port, in the order of the ranges, that can be used and is not taken. -/
def freePort? (ranges : List Range) (taken : List UInt32) : Option UInt32 :=
  ranges.findSome? (freePortIn? taken)

/-- The host port that an offer supplies for a mapping when some are already taken. -/
def hostPortFor (ranges : List Range) (taken : List UInt32) (p : PortMapping) :
    Except Mismatch UInt32 :=
  if p.isDynamic then
    match freePort? ranges taken with
    | some port => .ok port
    | none => .error (.noFreePort p.containerPort)
  else if p.hostPort ∈ taken || !ranges.any (·.contains p.hostPort.toUInt64) then
    .error (.port p.hostPort)
  else .ok p.hostPort

/-- The mappings with the host ports that an offer supplies when some are already taken. -/
def resolvePorts (ranges : List Range) (taken : List UInt32) :
    List PortMapping → Except Mismatch (List PortMapping)
  | [] => .ok []
  | p :: rest => do
    let port ← hostPortFor ranges taken p
    let resolved ← resolvePorts ranges (port :: taken) rest
    return { p with hostPort := port } :: resolved

/-- The scalar resources of a task by name. -/
def needs (r : Resources) : List (String × Binary64) :=
  [("cpus", r.cpus), ("mem", r.mem), ("disk", r.disk)]

/-- Whether an offer has enough of every scalar resource; a need that is not positive is always
met. -/
def checkScalars (offer : Offer) : List (String × Binary64) → Except Mismatch Unit
  | [] => .ok ()
  | (name, need) :: rest =>
    let offered := offer.scalar name
    if !need.le 0 && offered.lt need then .error (.scalar name need offered)
    else checkScalars offer rest

/-- The port mappings of a task with the host ports that an offer supplies, if it fits. -/
def fit (offer : Offer) (r : TaskRecord) : Except Mismatch (List PortMapping) := do
  checkScalars offer (needs r.resources)
  resolvePorts offer.portRanges [] r.container.ports

end Stevedore.Scheduling
