import Stevedore.Scheduling.Operator
import Stevedore.Scheduling.Tick

/-!
# Cycles

What the scheduler does again and again: compare what is wanted with what is there, make the wanted
tasks eligible, and bring the request for offers in line.
-/

namespace Stevedore

/-- How the framework introduces itself. If no host name is set it gives the machine's. -/
def Config.frameworkInfo (cfg : Config) (identity : Identity) (machine : Option String) :
    Manager.FrameworkInfo where
  user := cfg.framework.user
  name := cfg.framework.name
  id := identity.frameworkId.map Manager.Id.mk
  failoverTimeout := some cfg.framework.failoverTimeoutSecs
  checkpoint := some cfg.framework.checkpoint
  role := some cfg.framework.role
  hostname := cfg.framework.hostname <|> machine
  principal := cfg.framework.principal
  webuiUrl := cfg.framework.webuiUrl
  capabilities := []

namespace Scheduling.Run

/-- Lay the stored settings over the configuration in force. -/
def restore : Run Unit := do
  let settings ← Records.settings
  let _ ← Records.identity
  configure fun h => h.update fun cfg => cfg.withSettings settings

/-- One cycle on the configuration in force when it begins. -/
def cycle : Run TickReport := do
  let cfg ← snapshot
  let report ← tick cfg
  let _ ← promoteUnset
  let _ ← evaluate (!report.created.isEmpty)
  return report

/-- How the framework introduces itself now. -/
def introduction : Run Manager.FrameworkInfo := do
  let cfg ← snapshot
  let identity ← Records.identity
  let machine : Option String ← fun s w => (.ok s.machine, w)
  return cfg.frameworkInfo identity machine

end Scheduling.Run

end Stevedore
