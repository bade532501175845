import Stevedore.Json.Coded

/-!
# The life of a task

A task is first wanted, then offered for placement, then handed to the manager, which stages,
starts and runs it, and in the end it stops in one of four ways. `TaskState.rank` numbers these
stages, and a task only ever moves to the same or a higher rank.
-/

namespace Stevedore

/-- Where a task stands in its life. -/
inductive TaskState where
  /-- Wanted, but not yet considered when offers arrive. -/
  | unset
  /-- Waiting for an offer that fits. -/
  | new
  /-- Handed to the manager, which is staging it. -/
  | staging
  /-- Handed to the manager, whose executor is starting it. -/
  | starting
  /-- Reported to be running. -/
  | running
  /-- Stopped by itself. -/
  | finished
  /-- Stopped by an error. -/
  | failed
  /-- Stopped on request. -/
  | killed
  /-- No longer known to the manager. -/
  | lost
  deriving DecidableEq, Repr

namespace TaskState

/-- The states in the order of their ranks. -/
def all : List TaskState :=
  [unset, new, staging, starting, running, finished, failed, killed, lost]

/-- The name of a state. -/
def name : TaskState → String
  | unset => "unset"
  | new => "new"
  | staging => "staging"
  | starting => "starting"
  | running => "running"
  | finished => "finished"
  | failed => "failed"
  | killed => "killed"
  | lost => "lost"

/-- How far a task has come. -/
def rank : TaskState → Nat
  | unset => 0
  | new => 1
  | staging => 2
  | starting => 3
  | running => 4
  | finished | failed | killed | lost => 5

/-- Whether the task has stopped for good. -/
def isTerminal : TaskState → Bool
  | finished | failed | killed | lost => true
  | _ => false

/-- Whether the task still waits for an offer. -/
def isPending : TaskState → Bool
  | unset | new => true
  | _ => false

/-- Whether the task is in the hands of the manager. -/
def isLaunched : TaskState → Bool
  | staging | starting | running => true
  | _ => false

/-- Whether a task may go from one state to another: never out of a terminal state, and never to a
lower rank. -/
def canBecome (state next : TaskState) : Bool :=
  !state.isTerminal && state.rank ≤ next.rank

/-- The state that a status of the manager stands for. A status that is about to change, such as
`TASK_KILLING`, stands for none. -/
def ofStatus? (status : String) : Option TaskState :=
  match status with
  | "TASK_STAGING" => some staging
  | "TASK_STARTING" => some starting
  | "TASK_RUNNING" => some running
  | "TASK_FINISHED" => some finished
  | "TASK_FAILED" | "TASK_ERROR" => some failed
  | "TASK_KILLED" => some killed
  | "TASK_LOST" | "TASK_DROPPED" | "TASK_GONE" | "TASK_GONE_BY_OPERATOR" | "TASK_UNREACHABLE"
  | "TASK_UNKNOWN" => some lost
  | _ => none

end TaskState

instance : Json.Coded TaskState where
  encode state := .text state.name
  decode? := Json.choice? TaskState.all TaskState.name

end Stevedore
