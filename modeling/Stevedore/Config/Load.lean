import Stevedore.Config.Layers
import Stevedore.Config.Validity
import Stevedore.Toml.Reader

/-!
# Loading the configuration

The configuration that the program starts with: the settings of its file, if it is given one, under
those of its environment, and the defaults where neither says anything. A configuration that does
not pass the checks is not used.
-/

namespace Stevedore.Config

/-- The file with the settings. -/
inductive SettingsFile where
  /-- None is given. -/
  | notGiven
  /-- One is given that cannot be read. -/
  | unreadable
  /-- One is given with this text. -/
  | holding (text : String)
  deriving DecidableEq, Repr

/-- Why the program cannot start. -/
inductive LoadFault where
  /-- The settings cannot be understood. -/
  | unreadable
  /-- The configuration does not pass the checks. -/
  | invalid (fault : Fault)
  deriving DecidableEq, Repr

/-- The settings of a file. -/
def SettingsFile.members? : SettingsFile → Option (List (String × Toml.Value))
  | notGiven => some []
  | unreadable => none
  | holding text => Toml.parse? text

/-- The configuration that a file and an environment describe, before any check. -/
def ofSources? (file : SettingsFile) (environment : List (String × String)) : Option Config := do
  let members ← file.members?
  settings.config? (layered [members, environment.filterMap ofVariable?])

/-- Load a configuration. -/
def load (file : SettingsFile) (environment : List (String × String)) : Except LoadFault Config :=
  match ofSources? file environment with
  | none => .error .unreadable
  | some cfg =>
    match cfg.validate with
    | .ok () => .ok cfg
    | .error fault => .error (.invalid fault)

end Stevedore.Config
