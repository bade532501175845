import Stevedore.Json.Fields

/-!
# What outlives a restart

Besides the task records a framework remembers two things: who it is to the manager, and the
address of the control plane once it has been fixed.
-/

namespace Stevedore

/-- A framework's identity. -/
structure Identity where
  /-- The id that the manager gave at the first subscription. -/
  frameworkId : Option String
  /-- The network set up on the side of the manager, if any. -/
  cni : Option String
  deriving DecidableEq, Repr

namespace Identity

/-- The identity of a framework that has never subscribed. -/
def fresh : Identity := ⟨none, none⟩

end Identity

instance : Json.Coded Identity where
  encode s := Json.record
    [Json.fieldIfAny "frameworkId" s.frameworkId, Json.fieldIfAny "mesosCni" s.cni]
  decode? j := do
    let f ← Json.fields? ["frameworkId", "mesosCni"] j
    return { frameworkId := ← f.optional "frameworkId", cni := ← f.orDefault "mesosCni" none }

/-- Computed settings that stay the same once they are in use. -/
structure Settings where
  /-- The address under which the control plane is reached from outside. -/
  serverUrl : Option String
  /-- The host port of the control plane. -/
  serverPort : Option UInt32
  deriving DecidableEq, Repr

namespace Settings

/-- The settings before anything was computed. -/
def unset : Settings := ⟨none, none⟩

end Settings

instance : Json.Coded Settings where
  encode s := Json.record
    [Json.fieldIfAny "serverUrl" s.serverUrl, Json.fieldIfAny "serverPort" s.serverPort]
  decode? j := do
    let f ← Json.fields? ["serverUrl", "serverPort"] j
    return { serverUrl := ← f.optional "serverUrl", serverPort := ← f.optional "serverPort" }

end Stevedore
