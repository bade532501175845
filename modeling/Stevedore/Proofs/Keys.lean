import Mathlib.Tactic
import Stevedore.Cluster.TaskRecord
import Stevedore.Proofs.KeyMap

/-!
# Keys that do not clash

Within one framework no two tasks share a key (`task_inj`), and no key of a task is the key of
anything else that the framework keeps.
-/

namespace Stevedore

/-- A text up to its first colon. -/
def Text.beforeColon (s : String) : String :=
  String.ofList (s.toList.takeWhile (· ≠ ':'))

namespace Key

variable {framework : String} {role role' : Role} {id id' : String}

theorem toList_tasks (framework : String) (role : Role) :
    (tasks framework role).toList = framework.toList ++ ':' :: (role.name.toList ++ [':']) := by
  have hcolon : ":".toList = [':'] := rfl
  unfold tasks
  simp only [String.toList_append, hcolon, List.append_assoc, List.cons_append, List.nil_append]

theorem toList_task (framework : String) (role : Role) (id : String) :
    (task framework role id).toList =
      framework.toList ++ ':' :: (role.name.toList ++ ':' :: id.toList) := by
  unfold task
  rw [String.toList_append, toList_tasks]
  simp

/-- **A key belongs to one task of a framework.** -/
theorem task_inj (h : task framework role id = task framework role' id') :
    role = role' ∧ id = id' := by
  have hlist := congrArg String.toList h
  rw [toList_task, toList_task, List.append_cancel_left_eq, List.cons.injEq] at hlist
  have hchars := hlist.2
  have hdatastore : Role.datastore.name.toList = "datastore".toList := rfl
  have hserver : Role.server.name.toList = "server".toList := rfl
  have hagent : Role.agent.name.toList = "agent".toList := rfl
  cases role <;> cases role' <;>
    simp [hdatastore, hserver, hagent, String.toList_inj] at hchars ⊢ <;> exact hchars

theorem beginsWith_task_iff {key : String} :
    Text.beginsWith key (tasks framework role) ↔ ∃ id, key = task framework role id := by
  rw [Store.Memory.beginsWith_iff]
  constructor
  · rintro ⟨rest, hrest⟩
    refine ⟨String.ofList rest, ?_⟩
    rw [← String.toList_inj, ← hrest, task, String.toList_append, String.toList_ofList]
  · rintro ⟨id, rfl⟩
    rw [task, String.toList_append]
    exact List.prefix_append _ _

theorem node_injective (framework : String) : Function.Injective (node framework) := by
  intro x y h
  exact String.append_right_inj _ |>.1 h

theorem beginsWith_nodes_iff {key : String} :
    Text.beginsWith key (nodes framework) ↔ ∃ x, key = node framework x := by
  rw [Store.Memory.beginsWith_iff]
  constructor
  · rintro ⟨rest, hrest⟩
    refine ⟨String.ofList rest, ?_⟩
    rw [← String.toList_inj, ← hrest, node, String.toList_append, String.toList_ofList]
  · rintro ⟨x, rfl⟩
    rw [node, String.toList_append]
    exact List.prefix_append _ _

theorem task_ne_settings : task framework role id ≠ settings framework := by
  intro h
  have hlist := congrArg String.toList h
  have hrest : ":framework_config".toList = ':' :: "framework_config".toList := rfl
  rw [toList_task, settings, String.toList_append, hrest, List.append_cancel_left_eq,
    List.cons.injEq] at hlist
  have hchars := hlist.2
  cases role <;> simp [Role.name] at hchars

theorem task_ne_identity : task framework role id ≠ identity framework := by
  intro h
  have hlist := congrArg String.toList h
  have hrest : ":framework".toList = ':' :: "framework".toList := rfl
  rw [toList_task, identity, String.toList_append, hrest, List.append_cancel_left_eq,
    List.cons.injEq] at hlist
  have hchars := hlist.2
  cases role <;> simp [Role.name] at hchars

theorem task_ne_node {name : String} : task framework role id ≠ node framework name := by
  intro h
  have hlist := congrArg String.toList h
  have hrest : ":kubernetes:".toList = ':' :: "kubernetes:".toList := rfl
  rw [toList_task, node, nodes, String.toList_append, String.toList_append, hrest,
    List.append_assoc, List.append_cancel_left_eq, List.cons_append, List.cons.injEq] at hlist
  have hchars := hlist.2
  cases role <;> simp [Role.name] at hchars

theorem settings_ne_identity : settings framework ≠ identity framework := by
  intro h
  have hlist := congrArg String.toList h
  rw [settings, identity, String.toList_append, String.toList_append,
    List.append_cancel_left_eq] at hlist
  exact absurd hlist (by decide)

theorem settings_ne_node {name : String} : settings framework ≠ node framework name := by
  intro h
  have hlist := congrArg String.toList h
  have hrest : ":kubernetes:".toList = ':' :: 'k' :: "ubernetes:".toList := rfl
  have hrest' : ":framework_config".toList = ':' :: 'f' :: "ramework_config".toList := rfl
  rw [settings, node, nodes, String.toList_append, String.toList_append, String.toList_append,
    hrest, hrest', List.append_assoc, List.append_cancel_left_eq] at hlist
  simp at hlist

theorem identity_ne_node {name : String} : identity framework ≠ node framework name := by
  intro h
  have hlist := congrArg String.toList h
  have hrest : ":kubernetes:".toList = ':' :: 'k' :: "ubernetes:".toList := rfl
  have hrest' : ":framework".toList = ':' :: 'f' :: "ramework".toList := rfl
  rw [identity, node, nodes, String.toList_append, String.toList_append, String.toList_append,
    hrest, hrest', List.append_assoc, List.append_cancel_left_eq] at hlist
  simp at hlist

/-! ### Keys of different frameworks -/

/-- A key that begins with a framework's name and a colon. -/
def Under (framework key : String) : Prop :=
  ∃ rest, key.toList = framework.toList ++ ':' :: rest

theorem under_task : Under framework (task framework role id) :=
  ⟨_, toList_task framework role id⟩

theorem under_settings : Under framework (settings framework) :=
  ⟨"framework_config".toList, by rw [settings, String.toList_append]; rfl⟩

theorem under_identity : Under framework (identity framework) :=
  ⟨"framework".toList, by rw [identity, String.toList_append]; rfl⟩

theorem under_node {name : String} : Under framework (node framework name) := by
  refine ⟨"kubernetes:".toList ++ name.toList, ?_⟩
  rw [node, nodes, String.toList_append, String.toList_append, List.append_assoc]
  rfl

theorem under_of_beginsWith {name start key : String} (hstart : Under name start)
    (h : Text.beginsWith key start) : Under name key := by
  obtain ⟨rest, hrest⟩ := hstart
  obtain ⟨more, hmore⟩ := Store.Memory.beginsWith_iff.1 h
  refine ⟨rest ++ more, ?_⟩
  rw [← hmore, hrest]
  simp

theorem under_tasks {name : String} {role : Role} : Under name (tasks name role) :=
  ⟨_, toList_tasks name role⟩

theorem under_nodes {name : String} : Under name (nodes name) :=
  ⟨"kubernetes:".toList, by rw [nodes, String.toList_append]; rfl⟩

/-- What comes before the first colon of a framework's key is the framework's name, if that has no
colons. -/
theorem Under.beforeColon {key : String} (h : Under framework key)
    (hplain : ':' ∉ framework.toList) : Text.beforeColon key = framework := by
  obtain ⟨rest, hrest⟩ := h
  have hall : ∀ c ∈ framework.toList, decide (c ≠ ':') = true := by
    intro c hc
    exact decide_eq_true fun heq => hplain (heq ▸ hc)
  rw [Text.beforeColon, hrest, List.takeWhile_append_of_pos hall]
  simp

/-- **A key belongs to one framework**, if names have no colons. -/
theorem Under.unique {framework' key : String} (h : Under framework key)
    (h' : Under framework' key) (hplain : ':' ∉ framework.toList)
    (hplain' : ':' ∉ framework'.toList) : framework = framework' :=
  (h.beforeColon hplain).symm.trans (h'.beforeColon hplain')

end Key

end Stevedore
