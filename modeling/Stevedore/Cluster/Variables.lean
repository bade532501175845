import Stevedore.Json.Fields

/-!
# Variables

Named texts in a fixed order: the environment of a container, and the labels of a task. A name
may stand several times; all of them are handed on, and a look-up finds the last.
-/

namespace Stevedore

/-- A named text. -/
structure KeyValue where
  /-- Its name. -/
  key : String
  /-- The text. -/
  value : String
  deriving DecidableEq, Repr

instance : Json.Coded KeyValue where
  encode kv := Json.record [Json.field "key" kv.key, Json.field "value" kv.value]
  decode? j := do
    let f ← Json.fields? ["key", "value"] j
    return { key := ← f.required "key", value := ← f.required "value" }

/-- Named texts in the order in which they were added. -/
abbrev Variables := List KeyValue

namespace Variables

/-- The text that was added last under a name. -/
def get? (vars : Variables) (key : String) : Option String :=
  (vars.reverse.find? fun kv => kv.key == key).map (·.value)

/-- The variables with one more at the end. -/
def push (vars : Variables) (key value : String) : Variables :=
  vars ++ [⟨key, value⟩]

/-- The variables with further ones at the end. -/
def extend (vars : Variables) (more : List (String × String)) : Variables :=
  vars ++ more.map fun kv => ⟨kv.1, kv.2⟩

end Variables

end Stevedore
