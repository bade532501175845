import Stevedore.Json.Fields
import Stevedore.Binary64.Basic

/-!
# Resources and small parts of messages

The parts that calls, events and task descriptions have in common: ids, the named resources of
offers and tasks, labels and networks. A scalar, a list of ranges and an id each stand in an
object of their own inside a message.
-/

namespace Stevedore.Manager

/-- An id of the manager: of a framework, a machine, an offer or a task. -/
structure Id where
  /-- Its text. -/
  value : String
  deriving DecidableEq, Repr

instance : Json.Coded Id where
  encode id := Json.record [Json.field "value" id.value]
  decode? j := (Json.unbox? "value" j).map Id.mk

/-- What kind of amount a resource is. -/
inductive ResourceKind where
  /-- A number. -/
  | scalar
  /-- Ranges of whole numbers. -/
  | ranges
  /-- A set of names. -/
  | set
  /-- A text. -/
  | text
  deriving DecidableEq, Repr

namespace ResourceKind

/-- All kinds. -/
def all : List ResourceKind := [scalar, ranges, set, text]

/-- The name of a kind. -/
def name : ResourceKind → String
  | scalar => "SCALAR"
  | ranges => "RANGES"
  | set => "SET"
  | text => "TEXT"

end ResourceKind

instance : Json.Coded ResourceKind where
  encode kind := .text kind.name
  decode? := Json.choice? ResourceKind.all ResourceKind.name

/-- A range of whole numbers, both ends included. -/
structure Range where
  /-- The first number. -/
  first : UInt64
  /-- The last number. -/
  last : UInt64
  deriving DecidableEq, Repr

namespace Range

/-- The range of one number. -/
def single (n : UInt64) : Range := ⟨n, n⟩

/-- Whether a number lies in a range. -/
def contains (r : Range) (n : UInt64) : Bool := r.first ≤ n && n ≤ r.last

end Range

instance : Json.Coded Range where
  encode r := Json.record [Json.field "begin" r.first, Json.field "end" r.last]
  decode? j := do
    let f ← Json.fields? ["begin", "end"] j
    return { first := ← f.required "begin", last := ← f.required "end" }

/-- A named amount of a resource. -/
structure Resource where
  /-- The name of the resource. -/
  name : String
  /-- The kind of amount. -/
  kind : ResourceKind
  /-- The amount of a scalar resource. -/
  scalar : Option Binary64
  /-- The ranges of a ranged resource. -/
  ranges : Option (List Range)
  deriving DecidableEq, Repr

namespace Resource

/-- An amount of a scalar resource. -/
def ofScalar (name : String) (amount : Binary64) : Resource :=
  ⟨name, .scalar, some amount, none⟩

/-- Ranges of a ranged resource. -/
def ofRanges (name : String) (ranges : List Range) : Resource :=
  ⟨name, .ranges, none, some ranges⟩

end Resource

instance : Json.Coded Resource where
  encode r := Json.record
    [Json.field "name" r.name, Json.field "type" r.kind, Json.boxIfAny "scalar" "value" r.scalar,
      Json.boxIfAny "ranges" "range" r.ranges]
  decode? j := do
    let f ← Json.fields? ["name", "type", "scalar", "ranges"] j
    return {
      name := ← f.required "name"
      kind := ← f.required "type"
      scalar := ← f.optionalBy "scalar" (Json.unbox? "value")
      ranges := ← f.optionalBy "ranges" (Json.unboxOr? "range" []) }

/-- A label of a task. -/
structure Label where
  /-- Its name. -/
  key : String
  /-- Its text, if any. -/
  value : Option String
  deriving DecidableEq, Repr

instance : Json.Coded Label where
  encode l := Json.record [Json.field "key" l.key, Json.fieldIfAny "value" l.value]
  decode? j := do
    let f ← Json.fields? ["key", "value"] j
    return { key := ← f.required "key", value := ← f.optional "value" }

/-- The address of a container in a network. -/
structure Address where
  /-- Its text, if known. -/
  text : Option String
  deriving DecidableEq, Repr

instance : Json.Coded Address where
  encode a := Json.record [Json.fieldIfAny "ip_address" a.text]
  decode? j := do
    let f ← Json.fields? ["ip_address"] j
    return { text := ← f.optional "ip_address" }

/-- A network that a container has joined. -/
structure Network where
  /-- Its name, if it has one. -/
  name : Option String
  /-- The container's addresses in it. -/
  addresses : List Address
  deriving DecidableEq, Repr

instance : Json.Coded Network where
  encode n := Json.record
    [Json.fieldIfAny "name" n.name, Json.fieldUnlessEmpty "ip_addresses" n.addresses]
  decode? j := do
    let f ← Json.fields? ["name", "ip_addresses"] j
    return { name := ← f.optional "name", addresses := ← f.orDefault "ip_addresses" [] }

end Stevedore.Manager
