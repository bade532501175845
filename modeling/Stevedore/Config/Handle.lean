import Stevedore.Config.Derived

/-!
# Changing a configuration while it is in use

A handle holds the configuration in force. Readers take a copy and keep it for what they are doing;
writers publish a new one. While the cluster is shut down the wanted numbers of tasks are set aside
and restored by the next start.

Every change by an operator is made of two steps: a look at the numbers set aside, and then the
publication of a change, if there is one to publish. Other changes may come between the two.
-/

namespace Stevedore

/-- How many tasks of each role are wanted. -/
structure Counts where
  /-- Datastores. -/
  datastore : UInt32
  /-- Servers. -/
  server : UInt32
  /-- Agents. -/
  agent : UInt32
  deriving DecidableEq, Repr

namespace Counts

/-- How many tasks of a role are wanted. -/
def get (c : Counts) : Role → UInt32
  | .datastore => c.datastore
  | .server => c.server
  | .agent => c.agent

/-- The numbers with another one for a role. -/
def set (c : Counts) (role : Role) (n : UInt32) : Counts :=
  match role with
  | .datastore => { c with datastore := n }
  | .server => { c with server := n }
  | .agent => { c with agent := n }

end Counts

/-- The wanted numbers of a configuration. -/
def Config.counts (cfg : Config) : Counts :=
  ⟨cfg.desired .datastore, cfg.desired .server, cfg.desired .agent⟩

/-- The configuration with other wanted numbers. -/
def Config.setCounts (cfg : Config) (c : Counts) : Config :=
  ((cfg.setDesired .datastore c.datastore).setDesired .server c.server).setDesired .agent c.agent

/-- The configuration in force. -/
structure ConfigHandle where
  /-- The configuration that readers take. -/
  current : Config
  /-- The numbers set aside while the cluster is shut down. -/
  parked : Option Counts
  /-- How many configurations have been published. -/
  published : Nat
  deriving DecidableEq

/-- A change that is still to be published. -/
inductive Publication where
  /-- Another wanted number for a role. -/
  | one (role : Role) (n : UInt32)
  /-- Other wanted numbers for all roles. -/
  | all (counts : Counts)
  deriving DecidableEq, Repr

/-- The configuration after a change. -/
def Publication.apply : Publication → Config → Config
  | one role n, cfg => cfg.setDesired role n
  | all counts, cfg => cfg.setCounts counts

namespace ConfigHandle

/-- The handle of a configuration that has just been loaded. -/
def ofConfig (cfg : Config) : ConfigHandle := ⟨cfg, none, 0⟩

/-- Whether the cluster is shut down. -/
def isShutDown (h : ConfigHandle) : Bool := h.parked.isSome

/-- Publish a changed copy of the configuration in force. -/
def update (h : ConfigHandle) (f : Config → Config) : ConfigHandle :=
  { h with current := f h.current, published := h.published + 1 }

/-- Publish a change, if there is one. -/
def publish (h : ConfigHandle) : Option Publication → ConfigHandle
  | some p => h.update p.apply
  | none => h

/-- The first step of setting a wanted number: while the cluster is shut down the number only
replaces the one set aside. -/
def beginScale (h : ConfigHandle) (role : Role) (n : UInt32) : ConfigHandle × Option Publication :=
  match h.parked with
  | some counts => ({ h with parked := some (counts.set role n) }, none)
  | none => (h, some (.one role n))

/-- The first step of a shutdown: the wanted numbers are set aside, unless they already are. -/
def beginShutdown (h : ConfigHandle) : ConfigHandle × Option Publication :=
  match h.parked with
  | some _ => (h, none)
  | none => ({ h with parked := some h.current.counts }, some (.all ⟨0, 0, 0⟩))

/-- The first step of a start: the numbers set aside are taken back. -/
def beginStart (h : ConfigHandle) : ConfigHandle × Option Publication :=
  match h.parked with
  | some counts => ({ h with parked := none }, some (.all counts))
  | none => (h, none)

/-- Set the wanted number of a role. -/
def scale (h : ConfigHandle) (role : Role) (n : UInt32) : ConfigHandle :=
  let (h, change) := h.beginScale role n
  h.publish change

/-- Set every wanted number to zero and remember the numbers that were wanted. -/
def shutdown (h : ConfigHandle) : ConfigHandle :=
  let (h, change) := h.beginShutdown
  h.publish change

/-- Restore the numbers that were wanted before the shutdown. -/
def start (h : ConfigHandle) : ConfigHandle :=
  let (h, change) := h.beginStart
  h.publish change

end ConfigHandle

end Stevedore
