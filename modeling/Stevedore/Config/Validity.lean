import Stevedore.Config.Derived

/-!
# Valid configurations

The checks that a configuration passes before the program starts, in the order in which they are
made; the first that fails is reported.
-/

namespace Stevedore.Config

/-- Why a configuration cannot be used. -/
inductive Fault where
  /-- The framework has no name. -/
  | emptyName
  /-- The framework's name has characters that do not belong into host names. -/
  | badName (name : String)
  /-- The address of the manager has no known scheme. -/
  | badMaster (master : String)
  /-- There is no time between two cycles. -/
  | noTick
  /-- No event may wait. -/
  | noQueue
  /-- There are no host ports for datastores, or they are no port numbers. -/
  | badPortRange (first last : UInt32)
  /-- The control plane has no host port. -/
  | noServerPort
  /-- The datastore's port is no port number. -/
  | badDatastorePort (text : String)
  deriving DecidableEq, Repr

/-- What is reported for a datastore's port that is no port number. -/
def badDatastorePortText (text : String) : String :=
  s!"invalid configuration: datastore.port {Text.quoted text} is not a valid port"

/-- What is reported. The last check reports the whole text of the fault that creating a
datastore would meet. -/
def Fault.message (fault : Fault) : String :=
  "invalid configuration: " ++ match fault with
    | .emptyName => "framework.name must not be empty"
    | .badName name =>
      s!"framework.name {Text.quoted name} may only contain ascii letters, digits and '-'"
    | .badMaster master => s!"scheduler.master {Text.quoted master} is not an http(s) url"
    | .noTick => "scheduler.tick_ms must be positive"
    | .noQueue => "scheduler.event_queue must be positive"
    | .badPortRange first last =>
      s!"host port range {Text.decimal first.toNat}..={Text.decimal last.toNat} " ++
        "is empty or out of range"
    | .noServerPort => "server.host_port must be set"
    | .badDatastorePort text => badDatastorePortText text

/-- Whether a character may stand in the framework's name. -/
def isNameChar (c : Char) : Bool :=
  c.isAlphanum || c == '-'

/-- The checks of a configuration. -/
def validate (cfg : Config) : Except Fault Unit := do
  let name := Text.trim cfg.framework.name
  if name.isEmpty then throw .emptyName
  if !name.toList.all isNameChar then throw (.badName name)
  let master := Text.trim cfg.scheduler.master
  if !(Text.beginsWith master "http://" || Text.beginsWith master "https://") then
    throw (.badMaster master)
  if cfg.scheduler.tickMs = 0 then throw .noTick
  if cfg.scheduler.eventQueue = 0 then throw .noQueue
  let first := cfg.scheduler.portRangeStart
  let last := cfg.scheduler.portRangeEnd
  if first = 0 ∨ last < first ∨ 65535 < last then throw (.badPortRange first last)
  if cfg.server.hostPort = 0 then throw .noServerPort
  if cfg.datastorePort?.isNone then throw (.badDatastorePort cfg.datastore.port)

end Stevedore.Config
