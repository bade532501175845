import Stevedore.Scheduling.World

/-!
# Scripted surroundings

Surroundings that are set by hand, to try out how the scheduler deals with failures: the store
fails from some access on, calls of some kinds are refused, the clock advances by the same step at
every reading, and ids are numbered.
-/

namespace Stevedore.Scheduling

/-- What scripted surroundings do. -/
structure Script where
  /-- From which read of the store on all fail. -/
  readsFrom : Option Nat := none
  /-- From which write of the store on all fail. -/
  writesFrom : Option Nat := none
  /-- The kinds of calls that are refused, by name. -/
  refused : List String := []
  /-- Whether listing the nodes fails. -/
  nodeListFails : Bool := false
  /-- Whether removing a node fails. -/
  nodeForgetFails : Bool := false
  /-- Whether a datastore answers. -/
  datastore : Bool := false
  /-- Whether the control plane answers. -/
  server : Bool := false
  /-- What the clock shows at the reading that follows `clockFrom` others. -/
  clockAt : Nat := 1000000
  /-- How many readings came before. -/
  clockFrom : Nat := 0
  /-- By how much each reading advances the clock. -/
  clockStep : Nat := 0
  /-- The number of the id that is drawn after `idFrom` others. -/
  idAt : Nat := 1
  /-- How many ids were drawn before. -/
  idFrom : Nat := 0

/-- The id with a number. -/
def numberedId (n : Nat) : String :=
  let digits := Nat.toDigits 16 n
  "00000000-0000-4000-8000-" ++ String.ofList (List.replicate (12 - digits.length) '0' ++ digits)

namespace Script

/-- The reason of a failure that the script asks for. -/
def injected (fails : Bool) : Option String :=
  if fails then some "injected" else none

/-- The surroundings that follow a script. -/
def surroundings (s : Script) : Surroundings where
  readFault n := injected (s.readsFrom.any (· ≤ n))
  writeFault n := injected (s.writesFrom.any (· ≤ n))
  delivery _ c :=
    if s.refused.contains c.kind.name then .refused (.status 503 "unavailable") else .applied
  clock n := UInt64.ofNat (s.clockAt + (n - s.clockFrom) * s.clockStep)
  taskId n := numberedId (s.idAt + (n - s.idFrom))
  datastoreAnswers _ _ := s.datastore
  serverAnswers _ _ := s.server
  nodeListFault _ := injected s.nodeListFails
  nodeForgetFault _ := injected s.nodeForgetFails
  machine := none

/-- The same script without failures. -/
def calm (s : Script) : Script :=
  { s with
    readsFrom := none
    writesFrom := none
    refused := []
    nodeListFails := false
    nodeForgetFails := false }

/-- The script for a process that starts now: clock and ids run on. -/
def fresh (s : Script) : Script :=
  { clockAt := s.clockAt
    clockFrom := s.clockFrom
    clockStep := s.clockStep
    idAt := s.idAt
    idFrom := s.idFrom }

end Script

end Stevedore.Scheduling
