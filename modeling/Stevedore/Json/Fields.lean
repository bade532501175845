import Stevedore.Json.Coded

/-!
# Records as JSON

A record is written as an object with its fields in order, fields without content left out where
their type says so. It is read by name: members with other names are skipped whatever they hold,
and a known name must not stand twice. A record may also be read by place, from an array of its
fields in order; then the last fields may be missing only if they have a default, and nothing may
follow them.
-/

namespace Stevedore.Json

/-! ### Writing -/

/-- A field that is always written. -/
def field {α : Type} [Coded α] (name : String) (x : α) : Option (String × Json) :=
  some (name, encode x)

/-- A field that is written if there is a value. -/
def fieldIfAny {α : Type} [Coded α] (name : String) (x : Option α) : Option (String × Json) :=
  x.map fun v => (name, encode v)

/-- A field that is written if its list has items. -/
def fieldUnlessEmpty {α : Type} [Coded α] (name : String) (xs : List α) :
    Option (String × Json) :=
  if xs.isEmpty then none else some (name, encode xs)

/-- A field that holds a record with one field of its own, written if there is a value. -/
def boxIfAny {α : Type} [Coded α] (name inner : String) (x : Option α) : Option (String × Json) :=
  x.map fun v => (name, .object [(inner, encode v)])

/-- A record with the given fields. -/
def record (fields : List (Option (String × Json))) : Json :=
  .object (fields.filterMap id)

/-! ### Reading -/

/-- The known fields of a record that is being read. -/
structure Fields where
  /-- The fields that are present, with their values. -/
  present : List (String × Json)
  /-- Whether they were given by place. -/
  byPlace : Bool

/-- The fields of a record with the given field names. -/
def fields? (names : List String) : Json → Option Fields
  | .object members =>
    let known := members.filter fun m => names.contains m.1
    if (known.map (·.1)).Nodup then some ⟨known, false⟩ else none
  | .list items =>
    if items.length ≤ names.length then some ⟨names.zip items, true⟩ else none
  | _ => none

namespace Fields

/-- What stands in a field, if it is present. -/
def get? (fields : Fields) (name : String) : Option Json :=
  fields.present.lookup name

/-- A field that has to be present. -/
def required {α : Type} [Coded α] (fields : Fields) (name : String) : Option α :=
  (fields.get? name).bind decode?

/-- A field without a value if it is absent or `null`. By place it has to be present. -/
def optional {α : Type} [Coded α] (fields : Fields) (name : String) : Option (Option α) :=
  match fields.get? name with
  | some j => decode? j
  | none => if fields.byPlace then none else some none

/-- A field with a default for when it is absent. -/
def orDefault {α : Type} [Coded α] (fields : Fields) (name : String) (default : α) : Option α :=
  match fields.get? name with
  | some j => decode? j
  | none => some default

end Fields

/-- The value of a record whose one field has to be present. -/
def unbox? {α : Type} [Coded α] (inner : String) (j : Json) : Option α :=
  (fields? [inner] j).bind (·.required inner)

/-- The value of a record whose one field has a default. -/
def unboxOr? {α : Type} [Coded α] (inner : String) (default : α) (j : Json) : Option α :=
  (fields? [inner] j).bind (·.orDefault inner default)

/-- The value of a form that may be `null`, read with the given reader. -/
def orNull? {α : Type} (read? : Json → Option α) : Json → Option (Option α)
  | .null => some none
  | j => (read? j).map some

namespace Fields

/-- A field with a default for when it is absent, read with the given reader. -/
def orDefaultBy {α : Type} (fields : Fields) (name : String) (default : α)
    (read? : Json → Option α) : Option α :=
  match fields.get? name with
  | some j => read? j
  | none => some default

/-- A field that may be absent or `null`, read with the given reader. By place it has to be
present. -/
def optionalBy {α : Type} (fields : Fields) (name : String) (read? : Json → Option α) :
    Option (Option α) :=
  match fields.get? name with
  | some j => orNull? read? j
  | none => if fields.byPlace then none else some none

end Fields

end Stevedore.Json
