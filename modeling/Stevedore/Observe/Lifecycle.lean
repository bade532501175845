import Stevedore.Text.Count

/-!
# What the supervisor reports

The parts of the program run under a supervisor, which reports what happens to them. Each report
becomes one line of the log, with a severity and a message that depend on what happened and with
the details that matter for it.
-/

namespace Stevedore.Observe

/-- How much a log line matters. -/
inductive Severity where
  /-- Of interest when a fault is traced. -/
  | trace
  /-- Of interest when a fault is looked for. -/
  | debug
  /-- Of interest in normal operation. -/
  | info
  /-- Unusual. -/
  | warn
  /-- A fault. -/
  | error
  deriving DecidableEq, Repr

namespace Severity

/-- The name of a severity. -/
def name : Severity → String
  | trace => "Trace"
  | debug => "Debug"
  | info => "Info"
  | warn => "Warn"
  | error => "Error"

/-- The name of a severity in a log line. -/
def level : Severity → String
  | trace => "TRACE"
  | debug => "DEBUG"
  | info => "INFO"
  | warn => "WARN"
  | error => "ERROR"

end Severity

/-- What can happen to a supervised part. -/
inductive ReportKind where
  /-- A part is to be added. -/
  | taskAddRequested
  /-- A part was added. -/
  | taskAdded
  /-- A part is to be removed. -/
  | taskRemoveRequested
  /-- A part was removed. -/
  | taskRemoved
  /-- A part starts. -/
  | taskStarting
  /-- A part has stopped. -/
  | taskStopped
  /-- A part has failed and may be started again. -/
  | taskFailed
  /-- A part took too long. -/
  | timeoutHit
  /-- A part will be started again after a while. -/
  | backoffScheduled
  /-- A part will not be started again. -/
  | actorExhausted
  /-- A part has failed for good. -/
  | actorDead
  /-- The program is to end. -/
  | shutdownRequested
  /-- All parts have stopped in time. -/
  | allStoppedWithinGrace
  /-- Some parts have not stopped in time. -/
  | graceExceeded
  /-- A receiver of reports was too slow. -/
  | subscriberOverflow
  /-- A receiver of reports has failed. -/
  | subscriberPanicked
  /-- A submission was refused. -/
  | controllerRejected
  /-- A submission was accepted. -/
  | controllerSubmitted
  /-- A slot for submissions has changed its state. -/
  | controllerSlotTransition
  deriving DecidableEq, Repr

namespace ReportKind

/-- All kinds. -/
def all : List ReportKind :=
  [taskAddRequested, taskAdded, taskRemoveRequested, taskRemoved, taskStarting, taskStopped,
    taskFailed, timeoutHit, backoffScheduled, actorExhausted, actorDead, shutdownRequested,
    allStoppedWithinGrace, graceExceeded, subscriberOverflow, subscriberPanicked,
    controllerRejected, controllerSubmitted, controllerSlotTransition]

/-- The name of a kind. -/
def name : ReportKind → String
  | taskAddRequested => "TaskAddRequested"
  | taskAdded => "TaskAdded"
  | taskRemoveRequested => "TaskRemoveRequested"
  | taskRemoved => "TaskRemoved"
  | taskStarting => "TaskStarting"
  | taskStopped => "TaskStopped"
  | taskFailed => "TaskFailed"
  | timeoutHit => "TimeoutHit"
  | backoffScheduled => "BackoffScheduled"
  | actorExhausted => "ActorExhausted"
  | actorDead => "ActorDead"
  | shutdownRequested => "ShutdownRequested"
  | allStoppedWithinGrace => "AllStoppedWithinGrace"
  | graceExceeded => "GraceExceeded"
  | subscriberOverflow => "SubscriberOverflow"
  | subscriberPanicked => "SubscriberPanicked"
  | controllerRejected => "ControllerRejected"
  | controllerSubmitted => "ControllerSubmitted"
  | controllerSlotTransition => "ControllerSlotTransition"

/-- The kind with a name. -/
def ofName? (s : String) : Option ReportKind :=
  all.find? fun kind => kind.name == s

/-- How much a report of a kind matters, and what its log line says. A part that fails is started
again as a matter of course, so only a part that has failed for good is a fault. -/
def classify : ReportKind → Severity × String
  | taskAddRequested => (.trace, "task add requested")
  | taskAdded => (.debug, "task registered")
  | taskRemoveRequested => (.trace, "task removal requested")
  | taskRemoved => (.debug, "task removed")
  | taskStarting => (.info, "task starting")
  | taskStopped => (.debug, "task stopped")
  | taskFailed => (.warn, "task attempt failed")
  | timeoutHit => (.warn, "task attempt timed out")
  | backoffScheduled => (.debug, "task restart scheduled")
  | actorExhausted => (.warn, "task will not be restarted")
  | actorDead => (.error, "task died permanently")
  | shutdownRequested => (.info, "shutdown requested")
  | allStoppedWithinGrace => (.info, "all tasks stopped")
  | graceExceeded => (.warn, "tasks still running after grace period")
  | subscriberOverflow => (.error, "event subscriber dropped an event")
  | subscriberPanicked => (.error, "event subscriber panicked")
  | controllerRejected => (.warn, "controller rejected submission")
  | controllerSubmitted => (.trace, "controller accepted submission")
  | controllerSlotTransition => (.debug, "controller slot transition")

end ReportKind

/-- A report of the supervisor. -/
structure Report where
  /-- What has happened. -/
  kind : ReportKind
  /-- The part it has happened to. -/
  task : Option String
  /-- Why it has happened. -/
  reason : Option String
  /-- How often the part has been started. -/
  attempt : Option UInt32
  /-- How long it is until the part is started again, in milliseconds. -/
  delayMs : Option UInt32
  /-- How long the part was allowed to take, in milliseconds. -/
  timeoutMs : Option UInt32
  deriving DecidableEq, Repr

/-- A time in milliseconds as a report holds it: times that are too long are cut. -/
def Report.milliseconds (ms : Nat) : UInt32 :=
  UInt32.ofNat (min ms (wordLimit 32 - 1))

/-- A detail of a log line. -/
inductive Detail where
  /-- A text. -/
  | text (s : String)
  /-- A number. -/
  | count (n : UInt32)
  deriving DecidableEq, Repr

/-- A line of the log. -/
structure LogLine where
  /-- How much it matters. -/
  severity : Severity
  /-- What it says. -/
  message : String
  /-- Its details by name. -/
  details : List (String × Detail)
  deriving DecidableEq, Repr

/-- What stands for a text that a report does not give. -/
def unknownText : String := "-"

namespace Report

/-- The part that a report is about. -/
def taskDetail (r : Report) : String × Detail := ("task", .text (r.task.getD unknownText))

/-- How often the part has been started. -/
def attemptDetail (r : Report) : String × Detail := ("attempt", .count (r.attempt.getD 0))

/-- Why it has happened. -/
def reasonDetail (r : Report) : String × Detail := ("reason", .text (r.reason.getD unknownText))

/-- The details of the log line of a report: the more it matters, the more of them. -/
def details (r : Report) : List (String × Detail) :=
  match r.kind, r.kind.classify.1 with
  | .backoffScheduled, _ =>
    [r.taskDetail, r.attemptDetail, ("delay_ms", .count (r.delayMs.getD 0)), r.reasonDetail]
  | .timeoutHit, _ =>
    [r.taskDetail, r.attemptDetail, ("timeout_ms", .count (r.timeoutMs.getD 0))]
  | _, .trace => [r.taskDetail]
  | _, .debug | _, .info => [r.taskDetail, r.attemptDetail]
  | _, .warn | _, .error => [r.taskDetail, r.attemptDetail, r.reasonDetail]

/-- The log line of a report. -/
def logLine (r : Report) : LogLine where
  severity := r.kind.classify.1
  message := r.kind.classify.2
  details := r.details

end Report

/-- What turns reports into log lines. Reports wait in a queue of limited length. -/
structure Journal where
  /-- How many reports may wait. -/
  capacity : Nat
  /-- At least one may. -/
  pos : 0 < capacity

namespace Journal

/-- The name under which it receives reports. -/
def name : String := "keel-journal"

/-- A journal for which the given number of reports may wait, or one if that is none. -/
def ofCapacity (capacity : Nat) : Journal := ⟨max capacity 1, by omega⟩

/-- The journal as it is set up if nothing is said. -/
def standard : Journal := ⟨1024, by decide⟩

end Journal

end Stevedore.Observe
