import Stevedore.Manager.Event
import Stevedore.Scheduling.Run
import Stevedore.Store.Records

/-!
# Status updates

A report on a task moves its record forward, removes it if the task has stopped, and changes
nothing if the task is not known, the report stands for no state, or it comes too late. The report
is confirmed only when the store has taken the change.
-/

namespace Stevedore

namespace TaskRecord

/-- The record of a task after a report of a state that is not final. The address is only taken
from a report that the task runs, and the machine only if it was not known. -/
def advanced (r : TaskRecord) (next : TaskState) (status : Manager.TaskStatus) (now : UInt64) :
    TaskRecord :=
  { r with
    state := next
    address := (if next = .running then status.ipAddress? else none) <|> r.address
    agentId := r.agentId <|> status.agentId.map (·.value)
    updatedAt := now }

end TaskRecord

namespace Scheduling.Run

/-- Change the record of a task as a report demands. -/
def applyStatus (status : Manager.TaskStatus) : Run Unit := do
  match ← Records.find status.taskId.value, TaskState.ofStatus? status.state with
  | none, _ => pure ()
  | some _, none => pure ()
  | some r, some next =>
    if !r.state.canBecome next then pure ()
    else if next.isTerminal then
      let _ ← Records.remove r.role r.id
    else
      let now ← now
      Records.save (r.advanced next status now)

/-- Confirm a report, if it can be confirmed. -/
def acknowledge (status : Manager.TaskStatus) : Run Unit :=
  match status.agentId, status.uuid with
  | some agent, some uuid => call (.acknowledging agent status.taskId uuid)
  | _, _ => pure ()

/-- Take a report on a task. -/
def handleUpdate (status : Manager.TaskStatus) : Run Unit :=
  withLock status.taskId.value do
    applyStatus status
    acknowledge status

end Scheduling.Run

end Stevedore
