import Stevedore.Scheduling.Supervision

/-!
# The queue of events

One task reads the manager's stream, and another deals with the events in it. Between them is a
queue that has room for a number of events: while it is full, the reader waits with the next event
in its hands. Items that hold no event are passed over. The reader can be told to end only while it
waits for an item, and it fails when the stream has ended or when nobody takes events any more.
-/

namespace Stevedore.Scheduling

open Manager (Event EventStream Item)

/-- How a reader ends. -/
inductive Ending where
  /-- It is called off. -/
  | cancelled
  /-- The program stops. -/
  | stopped
  /-- It fails for a reason, and starting it again may help or not. -/
  | failed (isFatal : Bool) (reason : String)
  deriving DecidableEq

namespace Ending

/-- The end of the stream. -/
def streamEnded : Ending := .failed false "event stream ended"

/-- The end of the queue. -/
def queueClosed : Ending := .failed true "event queue closed"

end Ending

/-- What a reader is at. -/
inductive Reader where
  /-- It waits for an item. -/
  | reading
  /-- It waits for room for an event. -/
  | handing (event : Event)
  /-- It has ended. -/
  | ended (ending : Ending)

/-- A queue of events. -/
structure EventQueue where
  /-- For how many events there is room. -/
  capacity : Nat
  /-- The events in it, the first one first. -/
  waiting : List Event
  /-- Whether nobody takes events any more. -/
  isClosed : Bool

/-- A reader of a stream, the queue, and the events that were taken from it. -/
structure Relay where
  /-- The stream. -/
  stream : EventStream
  /-- What the reader is at. -/
  reader : Reader
  /-- The queue. -/
  queue : EventQueue
  /-- The events that were taken, in order. -/
  taken : List Event

/-- What happens next between the reader and those around it. -/
inductive Relay.Turn where
  /-- The reader goes on if it can. -/
  | advance
  /-- An event is taken from the queue. -/
  | take
  /-- Whoever takes events goes away. -/
  | close
  /-- The reader is told to end. -/
  | interrupt (stops : Bool)

namespace Relay

/-- A reader at the beginning of a stream, with an empty queue. -/
def ofStream (capacity : Nat) (stream : EventStream) : Relay :=
  ⟨stream, .reading, ⟨capacity, [], false⟩, []⟩

/-- The reader goes on: it takes an item and keeps the event in it, or puts an event into the
queue. -/
def advance (r : Relay) : Relay :=
  match r.reader with
  | .reading =>
    match r.stream.poll with
    | (none, stream) => { r with stream := stream, reader := .ended .streamEnded }
    | (some item, stream) =>
      match item.event? with
      | none => { r with stream := stream }
      | some event => { r with stream := stream, reader := .handing event }
  | .handing event =>
    if r.queue.isClosed then { r with reader := .ended .queueClosed }
    else if r.queue.waiting.length < r.queue.capacity then
      { r with reader := .reading, queue.waiting := r.queue.waiting ++ [event] }
    else r
  | .ended _ => r

/-- The first event is taken from the queue, if there is one and somebody takes it. -/
def take (r : Relay) : Relay :=
  match r.queue.isClosed, r.queue.waiting with
  | false, event :: waiting => { r with queue.waiting := waiting, taken := r.taken ++ [event] }
  | _, _ => r

/-- Whoever takes events goes away. -/
def close (r : Relay) : Relay :=
  { r with queue.isClosed := true }

/-- The reader is told to end. It does so when it waits for an item. -/
def interrupt (stops : Bool) (r : Relay) : Relay :=
  match r.reader with
  | .reading => { r with reader := .ended (if stops then .stopped else .cancelled) }
  | .handing _ | .ended _ => r

/-- What happens next. -/
def step (r : Relay) : Turn → Relay
  | .advance => r.advance
  | .take => r.take
  | .close => r.close
  | .interrupt stops => r.interrupt stops

/-- What happens over some time. -/
def run (r : Relay) (turns : List Turn) : Relay := turns.foldl step r

/-- The events that the reader has put into the queue, in order. -/
def forwarded (r : Relay) : List Event := r.taken ++ r.queue.waiting

end Relay

end Stevedore.Scheduling
