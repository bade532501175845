import Stevedore.Json.Fields

/-!
# Service discovery

Under which name, to whom, and on which ports a task can be found.
-/

namespace Stevedore

/-- Who may find a task. -/
inductive Visibility where
  /-- Tasks of the same framework. -/
  | framework
  /-- Everyone inside the cluster. -/
  | cluster
  /-- Everyone. -/
  | external
  deriving DecidableEq, Repr

namespace Visibility

/-- All visibilities. -/
def all : List Visibility := [framework, cluster, external]

/-- The name of a visibility. -/
def name : Visibility → String
  | framework => "framework"
  | cluster => "cluster"
  | external => "external"

end Visibility

instance : Json.Coded Visibility where
  encode v := .text v.name
  decode? := Json.choice? Visibility.all Visibility.name

/-- A port under which a task can be found. -/
structure DiscoveryPort where
  /-- The port inside the container. -/
  number : UInt32
  /-- Its name. -/
  name : String
  /-- The protocol spoken on it. -/
  protocol : String
  deriving DecidableEq, Repr

instance : Json.Coded DiscoveryPort where
  encode p := Json.record
    [Json.field "number" p.number, Json.field "name" p.name, Json.field "protocol" p.protocol]
  decode? j := do
    let f ← Json.fields? ["number", "name", "protocol"] j
    return {
      number := ← f.required "number"
      name := ← f.required "name"
      protocol := ← f.required "protocol" }

/-- How a task can be found. -/
structure Discovery where
  /-- Its name. -/
  name : String
  /-- Who may find it. -/
  visibility : Visibility
  /-- Its ports. -/
  ports : List DiscoveryPort
  deriving DecidableEq, Repr

instance : Json.Coded Discovery where
  encode d := Json.record
    [Json.field "name" d.name, Json.field "visibility" d.visibility,
      Json.fieldUnlessEmpty "ports" d.ports]
  decode? j := do
    let f ← Json.fields? ["name", "visibility", "ports"] j
    return {
      name := ← f.required "name"
      visibility := ← f.orDefault "visibility" .external
      ports := ← f.orDefault "ports" [] }

end Stevedore
