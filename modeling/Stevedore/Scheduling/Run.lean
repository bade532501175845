import Stevedore.Scheduling.World
import Stevedore.Store.Access

/-!
# Acting on the world

A `Run` is something the scheduler does: it depends on the surroundings, changes the world, and
yields a result or stops with a fault. What it changed before the fault stays changed. The steps
below are the only ones that reach the store, the manager, the clock and the locks; everything else
is put together from them.
-/

namespace Stevedore.Scheduling

/-- What can stop the scheduler. -/
inductive Fault where
  /-- The store did not give or take a value. -/
  | store (fault : Store.Fault)
  /-- The manager did not take a call. -/
  | manager (fault : Manager.Fault)
  deriving DecidableEq, Repr

/-- What is reported of a fault. -/
def Fault.message : Fault → String
  | store fault => fault.message
  | manager fault => "cluster manager: " ++ fault.message

/-- Something the scheduler does. -/
def Run (α : Type) : Type := Surroundings → World → Except Fault α × World

namespace Run

variable {α β : Type}

/-- Do nothing. -/
protected def pure (x : α) : Run α := fun _ w => (.ok x, w)

/-- Do one thing and then another, unless the first stops with a fault. -/
protected def bind (m : Run α) (f : α → Run β) : Run β := fun s w =>
  match m s w with
  | (.ok x, w) => f x s w
  | (.error e, w) => (.error e, w)

instance : Monad Run where
  pure := Run.pure
  bind := Run.bind

/-- Stop with a fault. -/
def fail (e : Fault) : Run α := fun _ w => (.error e, w)

/-- Do something and go on in any case, with its result or its fault. -/
def attempt (m : Run α) : Run (Except Fault α) := fun s w =>
  let (r, w) := m s w
  (.ok r, w)

/-- A result or a fault that is already known. -/
def ofExcept : Except Fault α → Run α
  | .ok x => pure x
  | .error e => fail e

/-- Look at the world. -/
def look (f : World → α) : Run α := fun _ w => (.ok (f w), w)

/-- Change the world. -/
def change (f : World → World) : Run Unit := fun _ w => (.ok (), f w)

/-! ### The store -/

/-- One read of the store. -/
def read (f : Store.Memory → α) : Run α := fun s w =>
  let n := w.tally.reads
  let w := { w with tally.reads := n + 1 }
  match s.readFault n with
  | some reason => (.error (.store (.unavailable reason)), w)
  | none => (.ok (f w.store), w)

/-- One write of the store. -/
def write (f : Store.Memory → α × Store.Memory) : Run α := fun s w =>
  let n := w.tally.writes
  let w := { w with tally.writes := n + 1 }
  match s.writeFault n with
  | some reason => (.error (.store (.unavailable reason)), w)
  | none =>
    let (x, store) := f w.store
    (.ok x, { w with store := store })

instance : Access Run where
  framework := look (·.framework)
  getValue key := read fun store => store.get? key
  setValue key value := write fun store => ((), store.set key value)
  deleteKey key := write fun store => store.delete key
  scanKeys start := read fun store => store.scan start
  corrupt key := fail (.store (.corrupt key))

/-! ### The manager -/

/-- Make a call. -/
def call (c : Manager.Call) : Run Unit := fun s w =>
  let n := w.tally.calls
  let delivery := s.delivery n c
  let w := { w with
    tally.calls := n + 1
    issued := w.issued ++ [⟨c, delivery, w.store⟩] }
  let applied := { w with contacts := w.contacts ++ [.called c] }
  match delivery with
  | .applied => (.ok (), applied)
  | .refused fault => (.error (.manager fault), w)
  | .unanswered fault => (.error (.manager fault), applied)

/-! ### Clock, ids and questions -/

/-- The time in milliseconds. -/
def now : Run UInt64 := fun s w =>
  let n := w.tally.times
  (.ok (s.clock n), { w with tally.times := n + 1 })

/-- A new id for a task. -/
def drawId : Run String := fun s w =>
  let n := w.tally.ids
  (.ok (s.taskId n), { w with tally.ids := n + 1 })

/-- Whether one of the running datastores answers. -/
def askDatastore (running : List TaskRecord) : Run Bool := fun s w =>
  let n := w.tally.questions
  (.ok (s.datastoreAnswers n running),
    { w with tally.questions := n + 1, asked := w.asked ++ [.datastore running] })

/-- Whether the control plane answers. -/
def askServer (cfg : Config) : Run Bool := fun s w =>
  let n := w.tally.questions
  (.ok (s.serverAnswers n cfg),
    { w with
      tally.questions := n + 1
      asked := w.asked ++ [.server cfg.serverHostname cfg.server.hostPort] })

/-! ### Locks and configuration -/

/-- Do something while holding the lock of a task's id. -/
def withLock (id : String) (body : Run α) : Run α := fun s w =>
  let (ticket, locks) := w.locks.request id
  let (r, w) := body s { w with locks := locks }
  (r, { w with locks := w.locks.release ticket })

/-- The configuration in force. -/
def snapshot : Run Config := look (·.config.current)

end Run

end Stevedore.Scheduling
