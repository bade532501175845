import Stevedore.Cluster.Key
import Stevedore.Cluster.Node
import Stevedore.Store.Access

/-!
# Nodes in a store

The objects of the cluster's nodes as the control plane keeps them in the store, one under each key
that begins like the framework's node keys. Objects that cannot be read are skipped.
-/

namespace Stevedore.Nodes

open Access

variable {m : Type → Type} [Monad m] [Access m]

/-- What follows a text at the beginning of a key, or the whole key if it begins otherwise. -/
def restOfKey (start key : String) : String :=
  if Text.beginsWith key start then String.ofList (key.toList.drop start.length) else key

/-- The nodes whose objects are stored under some keys. -/
def loadEach (start : String) : List String → m (List Node)
  | [] => pure []
  | key :: keys => do
    let stored ← getValue key
    let rest ← loadEach start keys
    return (stored.bind (Node.parse? (restOfKey start key))).toList ++ rest

/-- The nodes whose objects are in the store. -/
def list : m (List Node) := do
  let start := Key.nodes (← framework)
  loadEach start (← scanKeys start)

/-- Remove the object of a node from the store. -/
def forget (name : String) : m Unit := do
  let _ ← deleteKey (Key.node (← framework) name)

end Stevedore.Nodes
