import Stevedore.Manager.EventStream
import Stevedore.Scheduling.Cycle

/-!
# Following the manager's events

The scheduler subscribes, takes the events of the stream one by one, and subscribes again when the
stream has ended or could not be opened. Items of the stream that hold no event are passed over,
and an event that cannot be dealt with does not keep the next ones from being taken.
-/

namespace Stevedore.Scheduling

open Manager (Event Item)

/-- What a subscription yields: the items of its stream, or none if it cannot be opened. -/
abbrev Subscription := Option (List Item)

/-- The events that the items of a stream hold, in order. -/
def eventsOf (items : List Item) : List Event :=
  items.filterMap Item.event?

namespace Run

/-- Take events one by one, whatever becomes of each. -/
def followEvents : List Event → Run Unit
  | [] => pure ()
  | event :: rest => do
    let _ ← attempt (handleEvent event)
    followEvents rest

/-- Ask for a stream of events, which is opened or not. -/
def subscribe (opened : Bool) : Run Unit := do
  let info ← introduction
  change fun w => { w with contacts := w.contacts ++ [.subscribed info opened] }

/-- Subscribe and take the events of the stream until it ends. -/
def follow (subscription : Subscription) : Run Unit := do
  subscribe subscription.isSome
  match subscription with
  | none => fail (.manager .transport)
  | some items => followEvents (eventsOf items)

/-- Subscribe again and again. -/
def followAll : List Subscription → Run Unit
  | [] => pure ()
  | subscription :: rest => do
    let _ ← attempt (follow subscription)
    followAll rest

/-- The scheduler at work: a first cycle, and then the events of one subscription after another. -/
def supervise (subscriptions : List Subscription) : Run Unit := do
  let _ ← attempt cycle
  followAll subscriptions

end Run

end Stevedore.Scheduling
