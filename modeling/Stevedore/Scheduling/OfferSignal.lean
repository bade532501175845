import Stevedore.Scheduling.Run
import Stevedore.Store.Records

/-!
# Asking for offers

While no task waits for an offer, the manager is asked to hold offers back. The process remembers
what it asked for last, and only asks again when that has to change; a new subscription starts with
offers flowing.
-/

namespace Stevedore.Scheduling.Run

/-- Remember whether offers are held back. -/
def rememberSuppressed (suppressed : Bool) : Run Unit :=
  change fun w => { w with suppressed := suppressed }

/-- Ask for offers, whatever was asked for last. -/
def revive : Run Unit := do
  call .reviving
  rememberSuppressed false

/-- Ask for offers if tasks are pending and none are flowing, and to hold them back if no task is
pending and none is about to be. Says whether offers are held back now. -/
def evaluate (createdThisCycle : Bool) : Run Bool := do
  let records ← Records.listAll
  let pending := records.any (·.state.isPending)
  let suppressed ← look (·.suppressed)
  if pending && suppressed then
    revive
  else if !pending && !createdThisCycle && !suppressed then
    call .suppressing
    rememberSuppressed true
  look (·.suppressed)

end Stevedore.Scheduling.Run
