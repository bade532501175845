import Stevedore.Proofs.Keys
import Stevedore.Proofs.Running
import Stevedore.Scheduling.Nodes

/-!
# Nodes in the world's store

What listing the nodes yields in terms of what the store holds: the nodes whose objects can be read,
one for each key of a node.
-/

namespace Stevedore

theorem Nodes.restOfKey_node (framework x : String) :
    Nodes.restOfKey (Key.nodes framework) (Key.node framework x) = x := by
  rw [Nodes.restOfKey, if_pos (Key.beginsWith_nodes_iff.2 ⟨x, rfl⟩), Key.node,
    String.toList_append, ← String.length_toList, List.drop_left, String.ofList_toList]

namespace Store.Memory

/-- The node whose object is under a key, if it can be read. -/
def node? (m : Memory) (framework x : String) : Option Node :=
  (m.get? (Key.node framework x)).bind (Node.parse? x)

/-- The nodes whose objects can be read, one for each of their keys. -/
def nodes (m : Memory) (framework : String) : List Node :=
  (m.scan (Key.nodes framework)).filterMap fun key =>
    (m.get? key).bind (Node.parse? (Nodes.restOfKey (Key.nodes framework) key))

theorem mem_nodes_iff {m : Memory} {framework : String} {node : Node} :
    node ∈ m.nodes framework ↔ ∃ x, m.node? framework x = some node := by
  unfold nodes
  rw [List.mem_filterMap]
  constructor
  · rintro ⟨key, hkey, hnode⟩
    obtain ⟨x, rfl⟩ := Key.beginsWith_nodes_iff.1 (mem_scan_iff.1 hkey).2
    rw [Nodes.restOfKey_node] at hnode
    exact ⟨x, hnode⟩
  · rintro ⟨x, hnode⟩
    refine ⟨Key.node framework x, mem_scan_iff.2 ⟨?_, Key.beginsWith_nodes_iff.2 ⟨x, rfl⟩⟩, ?_⟩
    · obtain ⟨text, htext, -⟩ := Option.bind_eq_some_iff.1 hnode
      rw [htext]
      rfl
    · rw [Nodes.restOfKey_node]
      exact hnode

/-- What nodes there are depends on their keys only. -/
theorem nodes_congr {m m' : Memory} {framework : String}
    (h : ∀ x, m'.get? (Key.node framework x) = m.get? (Key.node framework x)) :
    m'.nodes framework = m.nodes framework := by
  have hscan : m'.scan (Key.nodes framework) = m.scan (Key.nodes framework) := by
    refine scan_congr fun key hkey => ?_
    obtain ⟨x, rfl⟩ := Key.beginsWith_nodes_iff.1 hkey
    exact h x
  unfold nodes
  rw [hscan]
  refine List.filterMap_congr fun key hkey => ?_
  obtain ⟨x, rfl⟩ := Key.beginsWith_nodes_iff.1 (mem_scan_iff.1 hkey).2
  rw [h x]

end Store.Memory

namespace Scheduling.Run

variable {s : Surroundings} {w : World}

theorem looks_loadEachNode (start : String) (keys : List String) :
    Looks (Nodes.loadEach start keys) fun _ store => .ok (keys.filterMap fun key =>
      (store.get? key).bind (Node.parse? (Nodes.restOfKey start key))) := by
  induction keys with
  | nil => exact looks_pure []
  | cons key keys ih =>
    refine (Looks.bind (looks_read fun store => store.get? key) fun stored =>
      Looks.bind ih fun rest => looks_pure _).congr fun name store => ?_
    show Except.ok (((store.get? key).bind _).toList ++ _) = _
    rw [List.filterMap_cons]
    cases (store.get? key).bind (Node.parse? (Nodes.restOfKey start key)) <;> rfl

theorem looks_listNodes : Looks Nodes.list fun name store => .ok (store.nodes name) :=
  looks_framework.bind fun name =>
    (looks_read fun store => store.scan (Key.nodes name)).bind fun keys =>
      looks_loadEachNode (Key.nodes name) keys

/-- Where the nodes are in the store, they are listed from there. -/
theorem nodes_run (hstored : w.nodes = .stored) : nodes s w = (Nodes.list : Run _) s w := by
  unfold nodes
  rw [bind_of_ok (look_run _), hstored]

/-- And a node is removed by deleting its key. -/
theorem forgetNode_run (hstored : w.nodes = .stored) (x : String) :
    forgetNode x s w =
      (write (fun store => store.delete (Key.node w.framework x)) >>= fun _ => pure ()) s w := by
  unfold forgetNode
  rw [bind_of_ok (look_run _), hstored]
  rfl

end Scheduling.Run

end Stevedore
