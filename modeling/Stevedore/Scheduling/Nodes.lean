import Stevedore.Scheduling.Run
import Stevedore.Store.Nodes

/-!
# The nodes of the cluster

Nodes are either kept in the store by the control plane or listed elsewhere. A list of its own can
fail to be read or changed for reasons of its own.
-/

namespace Stevedore.Scheduling.Run

/-- Consult a list of nodes outside the store. -/
def consultList {α : Type} (reason? : Surroundings → Nat → Option String)
    (f : World → α × World) : Run α := fun s w =>
  let n := w.tally.nodes
  let w := { w with tally.nodes := n + 1 }
  match reason? s n with
  | some reason => (.error (.store (.unavailable reason)), w)
  | none =>
    let (x, w) := f w
    (.ok x, w)

/-- The nodes of the cluster. -/
def nodes : Run (List Node) := do
  match ← look (·.nodes) with
  | .stored => Nodes.list
  | .listed nodes => consultList (·.nodeListFault) fun w => (nodes, w)

/-- Remove a node from the list of nodes. -/
def forgetNode (name : String) : Run Unit := do
  match ← look (·.nodes) with
  | .stored => Nodes.forget name
  | .listed nodes =>
    consultList (·.nodeForgetFault) fun w =>
      ((), { w with nodes := .listed (nodes.filter fun node => node.name != name) })

end Stevedore.Scheduling.Run
