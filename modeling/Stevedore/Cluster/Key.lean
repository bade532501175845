import Stevedore.Cluster.Role

/-!
# Keys of the store

Where a framework keeps what it has to remember. Every key begins with the framework's name and a
colon, so that several frameworks can share a store.

* `<framework>:<role>:<task id>`: the record of a task;
* `<framework>:framework`: the framework's identity;
* `<framework>:framework_config`: the settings that outlive a restart;
* `<framework>:kubernetes:<node>`: a node object kept by the control plane.
-/

namespace Stevedore.Key

/-- What the keys of all tasks of a role begin with. -/
def tasks (framework : String) (role : Role) : String :=
  framework ++ ":" ++ role.name ++ ":"

/-- The key of a task's record. -/
def task (framework : String) (role : Role) (id : String) : String :=
  tasks framework role ++ id

/-- The key of the framework's identity. -/
def identity (framework : String) : String :=
  framework ++ ":framework"

/-- The key of the settings that outlive a restart. -/
def settings (framework : String) : String :=
  framework ++ ":framework_config"

/-- What the keys of all node objects begin with. -/
def nodes (framework : String) : String :=
  framework ++ ":kubernetes:"

/-- The key of a node object. -/
def node (framework : String) (name : String) : String :=
  nodes framework ++ name

end Stevedore.Key
