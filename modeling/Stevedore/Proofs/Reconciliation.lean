import Stevedore.Proofs.Provision
import Stevedore.Proofs.Steps
import Stevedore.Proofs.Unhindered

/-!
# Asking about the launched tasks

When a stream of events is opened, the manager is asked about the tasks whose machines are recorded.
These are the launched tasks and no others, because a record names a machine exactly if its task has
been launched (`Assigned`). Reports could break this: one that names no machine may be the first to
tell that a task is running. So it is assumed that reports name their machines.
-/

namespace Stevedore.Scheduling

open Manager (Subscribed TaskAt TaskStatus)
open Store (Memory)

/-! ### Machines of records -/

end Stevedore.Scheduling
