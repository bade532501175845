import Stevedore.Json.Basic
import Stevedore.KeyMap
import Stevedore.Text.Count

/-!
# Values with a JSON form

`Json.Coded` gathers, for one type, how a value is written and how it is read back. Reading is
strict: a number is never taken for a string nor a string for a number, a whole number has to fit
the word it is meant for, and only a double may be written as a whole number. A choice among names
is written as the name alone; when read it may also stand as an object whose one member has that
name and the value `null`. In a free map the last of several entries with one key counts.
-/

namespace Stevedore.Json

/-- A type whose values are written as JSON and read from it. -/
class Coded (α : Type) where
  /-- The form of a value. -/
  encode : α → Json
  /-- The value of a form, if it is one. -/
  decode? : Json → Option α

export Coded (encode decode?)

instance : Coded String where
  encode := .text
  decode?
    | .text s => some s
    | _ => none

instance : Coded Bool where
  encode := .bool
  decode?
    | .bool b => some b
    | _ => none

/-- The whole number of a value, if it is one and lies below a limit. -/
def count? (limit : Nat) : Json → Option Nat
  | .int n => if 0 ≤ n ∧ n < limit then some n.toNat else none
  | _ => none

instance : Coded UInt32 where
  encode n := .int n.toNat
  decode? j := (count? (wordLimit 32) j).map UInt32.ofNat

instance : Coded UInt64 where
  encode n := .int n.toNat
  decode? j := (count? (wordLimit 64) j).map UInt64.ofNat

instance : Coded Binary64 where
  encode := .real
  decode?
    | .real x => some x
    | .int n => some (.ofInt n)
    | _ => none

instance {α : Type} [Coded α] : Coded (List α) where
  encode xs := .list (xs.map encode)
  decode?
    | .list items => items.mapM decode?
    | _ => none

instance {α : Type} [Coded α] : Coded (Option α) where
  encode
    | some x => encode x
    | none => .null
  decode?
    | .null => some none
    | j => (decode? j).map some

/-- The name that stands for a choice. -/
def label? : Json → Option String
  | .text s => some s
  | .object [(s, .null)] => some s
  | _ => none

/-- The value among `all` whose name stands for a choice. -/
def choice? {α : Type} (all : List α) (name : α → String) (j : Json) : Option α :=
  (label? j).bind fun s => all.find? fun x => name x == s

instance {α : Type} [Coded α] : Coded (KeyMap α) where
  encode m := .object (m.entries.map fun e => (e.1, encode e.2))
  decode?
    | .object members => (members.mapM fun m => (decode? m.2).map (m.1, ·)).map KeyMap.ofList
    | _ => none

end Stevedore.Json
