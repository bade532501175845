import Stevedore.Manager.Fault

/-!
# Streams of events

The body of the manager's answer to a subscription, taken apart into messages as its pieces arrive.
Every complete record yields one item, in order; a record that holds no message yields a fault but
does not end the stream. A stream that cannot be taken apart any further, or whose connection
breaks, yields one fault and is over.
-/

namespace Stevedore.Manager

/-- The body of an answer: its pieces in the order in which they arrive, and whether the connection
breaks after them. -/
structure Body where
  /-- The pieces. -/
  chunks : List (List UInt8)
  /-- Whether the connection breaks after them. -/
  broken : Bool
  deriving DecidableEq, Repr

/-- An item of a stream. -/
abbrev Item : Type := Except Fault Message

/-- A stream between two items. -/
structure EventStream where
  /-- What has arrived and not been given out. -/
  decoder : Decoder
  /-- What has not yet arrived. -/
  body : Body
  /-- Whether the stream is over. -/
  isOver : Bool

namespace EventStream

/-- The stream of a body of which nothing has arrived. -/
def ofBody (body : Body) : EventStream := ⟨.fresh, body, false⟩

/-- The item of a complete record. -/
def itemOf (record : List UInt8) : Item :=
  match Message.decode? record with
  | some m => .ok m
  | none => .error .undecodable

/-- What a decoder gives out with what it has: an item and whether the stream is over then, or
nothing. -/
def give (d : Decoder) : Option (Item × Bool) × Decoder :=
  match d.next with
  | (.ok (some record), d) => (some (itemOf record, false), d)
  | (.ok none, d) => (none, d)
  | (.error fault, d) => (some (.error (.protocol (.framing fault)), true), d)

/-- The next item of a stream whose further pieces are given. -/
def pollFrom (broken : Bool) (d : Decoder) : List (List UInt8) → Option Item × EventStream
  | [] =>
    match give d with
    | (some (item, isLast), d) => (some item, ⟨d, ⟨[], broken⟩, isLast⟩)
    | (none, d) =>
      (if broken then some (.error .transport) else none, ⟨d, ⟨[], broken⟩, true⟩)
  | chunk :: rest =>
    match give d with
    | (some (item, isLast), d) => (some item, ⟨d, ⟨chunk :: rest, broken⟩, isLast⟩)
    | (none, d) => pollFrom broken (d.push chunk) rest

/-- The next item of a stream, or none when it is over. -/
def poll (s : EventStream) : Option Item × EventStream :=
  if s.isOver then (none, s) else pollFrom s.body.broken s.decoder s.body.chunks

/-- The items of a stream up to its end, but at most the given number. -/
def itemsUpTo : Nat → EventStream → List Item
  | 0, _ => []
  | n + 1, s =>
    match s.poll with
    | (some item, s) => item :: itemsUpTo n s
    | (none, _) => []

/-- All items of a stream. A byte that has arrived or will arrive belongs to one record at most, and
one more item can report how the stream ends. -/
def items (s : EventStream) : List Item :=
  itemsUpTo (s.decoder.buffer.length + s.body.chunks.flatten.length + 2) s

end EventStream

/-- The event of an item, if it holds one. -/
def Item.event? : Item → Option Event
  | .ok message => message.event.toOption
  | .error _ => none

end Stevedore.Manager
