import Stevedore.Scheduling.Events

/-!
# What an operator can do

Change how many tasks of a role are wanted, shut the cluster down, start it again. Surplus tasks
are stopped and their records removed at once; missing ones are created by the ticks that follow.
-/

namespace Stevedore.Scheduling.Run

/-- Change the configuration in force. -/
def configure (f : ConfigHandle → ConfigHandle) : Run Unit :=
  change fun w => { w with config := f w.config }

/-- Stop a task if it has been launched, remove its record, and say whether there was one. -/
def retire (candidate : TaskRecord) : Run Bool :=
  withLock candidate.id do
    match ← Records.load candidate.role candidate.id with
    | none => pure false
    | some r =>
      if r.state.isLaunched then killTask r
      Records.remove r.role r.id

/-- Stop tasks and remove their records one by one, and say how many there were. -/
def retireEach : List TaskRecord → Run Nat
  | [] => pure 0
  | r :: rest => do
    let removed ← retire r
    let more ← retireEach rest
    return if removed then more + 1 else more

/-- The records that are too many when `n` are wanted, newest first. -/
def surplus (records : List TaskRecord) (n : UInt32) : List TaskRecord :=
  records.reverse.take (records.length - n.toNat)

/-- Set how many tasks of a role are wanted, remove those that are too many, and say how many were
removed. While the cluster is shut down the number is only remembered. -/
def scale (role : Role) (n : UInt32) : Run Nat := do
  configure fun h => h.scale role n
  if (← look (·.config.isShutDown)) then return 0
  let active := (← Records.listRole role).filter fun r => !r.state.isTerminal
  retireEach (surplus active n)

/-- Want no tasks at all, remove all that are there, and say how many were removed. -/
def shutdown : Run Nat := do
  configure (·.shutdown)
  retireEach (← Records.listAll)

/-- Want as many tasks again as before the shutdown. -/
def start : Run Unit :=
  configure (·.start)

/-- Shut the cluster down and start it again. -/
def restart : Run Nat := do
  let removed ← shutdown
  start
  return removed

end Stevedore.Scheduling.Run
