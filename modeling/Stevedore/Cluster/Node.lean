import Stevedore.Json.Fields
import Stevedore.Json.Reader

/-!
# Nodes

The control plane keeps an object for every node of the cluster. Of such an object the framework
reads the node's name, the label with the id of the task that runs it, and whether it is ready.
-/

namespace Stevedore

/-- Whether a node can work. -/
inductive Readiness where
  /-- It can. -/
  | ready
  /-- It cannot. -/
  | notReady
  /-- Nothing is known. -/
  | unknown
  deriving DecidableEq, Repr

namespace Readiness

/-- The name of a readiness. -/
def name : Readiness → String
  | ready => "ready"
  | notReady => "not_ready"
  | unknown => "unknown"

/-- The readiness that the status of the deciding condition stands for. -/
def ofStatus : Option String → Readiness
  | some "True" => ready
  | some "False" => notReady
  | _ => unknown

end Readiness

/-- A node of the cluster. -/
structure Node where
  /-- Its name. -/
  name : String
  /-- The task that runs it, if it is labelled with one. -/
  taskId : Option String
  /-- Whether it can work. -/
  ready : Readiness
  deriving DecidableEq, Repr

namespace Node

/-- The label with which a node names the task that runs it. -/
def taskIdLabel : String := "keel.dev/taskid"

/-- How deep the value of a label may be nested: a document may be nested 127 levels, and a label
stands on the third. -/
def labelDepth : Nat := 124

/-- The labels of a node object. Their values may be anything that holds a value. -/
def labels? : Json → Option (List (String × Json))
  | .object members =>
    if members.all fun m => m.2.isSound && m.2.depth ≤ labelDepth then some members else none
  | _ => none

/-- The name and the labels of a node object. -/
def metadata? (j : Json) : Option (String × List (String × Json)) := do
  let f ← Json.fields? ["name", "labels"] j
  return (← f.orDefault "name" "", ← f.orDefaultBy "labels" [] labels?)

/-- A condition of a node: its kind and its status. -/
def condition? (j : Json) : Option (String × String) := do
  let f ← Json.fields? ["type", "status"] j
  return (← f.required "type", ← f.required "status")

/-- The conditions of a node object. -/
def conditions? : Json → Option (List (String × String))
  | .list items => items.mapM condition?
  | _ => none

/-- The conditions in the status of a node object. -/
def status? (j : Json) : Option (List (String × String)) := do
  let f ← Json.fields? ["conditions"] j
  f.orDefaultBy "conditions" [] conditions?

/-- The task that a node is labelled with. -/
def taskIdOf (labels : List (String × Json)) : Option String :=
  match Json.lastMember? taskIdLabel labels with
  | some (.text id) => if id.isEmpty then none else some id
  | _ => none

/-- The node of an object, with a name for it in case it does not name itself. -/
def ofJson? (fallback : String) (j : Json) : Option Node := do
  let f ← Json.fields? ["metadata", "status"] j
  let (name, labels) ← f.orDefaultBy "metadata" ("", []) metadata?
  let conditions ← f.orDefaultBy "status" [] status?
  return {
    name := if name.isEmpty then fallback else name
    taskId := taskIdOf labels
    ready := .ofStatus (conditions.lookup "Ready") }

/-- The node whose object a text holds. -/
def parse? (fallback text : String) : Option Node :=
  (Json.parse? text).bind (ofJson? fallback)

end Node

end Stevedore
