import Stevedore.KeyMap

/-!
# Locks on task ids

Whoever changes a task's record first takes the lock of the task's id. Locks are made on demand and
kept in a table. Before a request is served, a table that has grown to `pruneAt` entries drops the
locks that nobody holds or awaits. Requests for one lock are granted in the order in which they
came: the oldest request in the table holds the lock, the others await it.
-/

namespace Stevedore.Scheduling

/-- How many entries a table may have before idle locks are dropped. -/
def pruneAt : Nat := 256

/-- A request for a lock that has neither been given back nor given up. -/
structure Ticket where
  /-- The number of the request. -/
  number : Nat
  /-- The id whose lock was asked for. -/
  id : String
  /-- The lock that was found for it. -/
  lock : Nat
  deriving DecidableEq, Repr

/-- The locks in use. -/
structure LockTable where
  /-- The lock of each id, by its number. -/
  locks : KeyMap Nat
  /-- The open requests, oldest first. -/
  tickets : List Ticket
  /-- How many locks have been made. -/
  made : Nat
  /-- How many requests have been served. -/
  served : Nat
  deriving DecidableEq

namespace LockTable

/-- A table without locks. -/
def fresh : LockTable := ⟨∅, [], 0, 0⟩

/-- How many entries a table has. -/
def size (t : LockTable) : Nat := t.locks.size

/-- Whether somebody holds or awaits a lock. -/
def inUse (t : LockTable) (lock : Nat) : Bool := t.tickets.any fun k => k.lock == lock

/-- A table that has grown too large drops the locks that are not in use. -/
def prune (t : LockTable) : LockTable :=
  if pruneAt ≤ t.size then { t with locks := t.locks.filter fun _ lock => t.inUse lock } else t

/-- The lock of an id, made if there is none. -/
def entry (t : LockTable) (id : String) : Nat × LockTable :=
  match t.locks.get? id with
  | some lock => (lock, t)
  | none => (t.made, { t with locks := t.locks.insert id t.made, made := t.made + 1 })

/-- Ask for the lock of an id. -/
def request (t : LockTable) (id : String) : Ticket × LockTable :=
  let (lock, t) := t.prune.entry id
  let ticket : Ticket := ⟨t.served, id, lock⟩
  (ticket, { t with tickets := t.tickets ++ [ticket], served := t.served + 1 })

/-- Whether a request has been granted. -/
def isGranted (t : LockTable) (ticket : Ticket) : Bool :=
  (t.tickets.find? fun k => k.lock == ticket.lock) == some ticket

/-- Give a lock back, or give up waiting for it. -/
def release (t : LockTable) (ticket : Ticket) : LockTable :=
  { t with tickets := t.tickets.filter (· != ticket) }

end LockTable

end Stevedore.Scheduling
