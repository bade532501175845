import Stevedore.Scheduling.Launch
import Stevedore.Scheduling.StatusUpdate

/-!
# Events

What the scheduler does with each event of the manager. A new subscription is remembered, and the
manager is asked about every task that has been launched.
-/

namespace Stevedore.Scheduling.Run

open Manager (Event Subscribed TaskAt)

/-- Remember the id that the manager knows the framework by. -/
def rememberIdentity (frameworkId : String) : Run Unit := do
  let known ← Records.identity
  if known.frameworkId = some frameworkId then pure ()
  else Records.saveIdentity { known with frameworkId := some frameworkId }

/-- The tasks whose machine is known, as the manager is asked about them. -/
def launchedTasks (records : List TaskRecord) : List TaskAt :=
  (records.filter fun r => !r.state.isTerminal).filterMap fun r =>
    r.agentId.map fun agent => ⟨⟨r.id⟩, some ⟨agent⟩⟩

/-- A stream of events is open. -/
def handleSubscribed (subscription : Subscribed) : Run Unit := do
  rememberIdentity subscription.frameworkId.value
  rememberSuppressed false
  let tasks := launchedTasks (← Records.listAll)
  if tasks.isEmpty then pure () else call (.reconciling tasks)

/-- Take an event. -/
def handleEvent : Event → Run Unit
  | .subscribed subscription => handleSubscribed subscription
  | .offers offers => handleOffers offers
  | .update status => do
    handleUpdate status
    let _ ← evaluate false
  | .rescind _ | .heartbeat | .error _ | .other _ => pure ()

/-- Stop a task. Its record changes when the manager reports the outcome. -/
def killTask (r : TaskRecord) : Run Unit :=
  call (.killing ⟨r.id⟩ (r.agentId.map Manager.Id.mk))

end Stevedore.Scheduling.Run
