import Stevedore.Binary64.Reader
import Stevedore.Binary64.Text
import Stevedore.Config.Path
import Stevedore.Config.Reading
import Stevedore.Text.Case
import Stevedore.Toml.Basic

/-!
# Layers of settings

A configuration is laid down in layers: the settings of a file, and over them those of the
environment. Names of sections and settings are the same in upper and in lower case. A later
setting replaces an earlier one under its name, except that a table is added to the table that is
there. The values of both layers are understood generously: whatever kind of value can stand for
the kind that is wanted does so.
-/

namespace Stevedore.Config

open Toml (Value)

/-! ### Laying one setting over others -/

/-- The members of a table; any other value has none. -/
def membersOf : Value → List (String × Value)
  | .table ms => ms
  | _ => []

/-- The items of a list; any other value has none. -/
def itemsOf : Value → List Value
  | .list items => items
  | _ => []

/-- The members with one put in its place. -/
def putMember (name : String) (v : Value) : List (String × Value) → List (String × Value)
  | [] => [(name, v)]
  | m :: ms => if m.1 == name then (name, v) :: ms else m :: putMember name v ms

mutual

/-- Members with a value laid over what stands under a name. -/
def overlay (ms : List (String × Value)) (name : String) : Value → List (String × Value)
  | .table parts =>
    let name := Text.lowerAll name
    putMember name (overlayParts ((ms.lookup name).getD (.table [])) parts) ms
  | v => putMember (Text.lowerAll name) v ms

/-- A value with the members of a table laid over it. -/
def overlayParts (target : Value) : List (String × Value) → Value
  | [] => target
  | part :: parts => overlayParts (.table (overlayPart (membersOf target) part)) parts

/-- Members with another member laid over them. -/
def overlayPart (ms : List (String × Value)) : String × Value → List (String × Value)
  | (name, v) => overlay ms name v

end

/-- The items of a list that has an item at a place. -/
def padded (items : List Value) (place : Nat) : List Value :=
  items ++ List.replicate (place + 1 - items.length) (.list [])

/-- Where a place in a list lies, counted from its head. -/
def placeIn (items : List Value) (place : Int) : Nat :=
  if 0 ≤ place then place.toNat else items.length - place.natAbs

/-- A value with another laid over the part of it that some steps lead to. Whatever is missing on
the way is made, and whatever stands in the way is replaced. -/
def layOver (v : Value) : List Step → Value → Value
  | [], _ => v
  | [.name s], target => .table (overlay (membersOf target) s v)
  | .name s :: steps, target =>
    let ms := membersOf target
    let name := Text.lowerAll s
    .table (putMember name (layOver v steps ((ms.lookup name).getD (.list []))) ms)
  | .place i :: steps, target =>
    let place := placeIn (itemsOf target) i
    let items := padded (itemsOf target) place
    .list (items.set place (layOver v steps (items.getD place (.list []))))

/-- A table with a setting laid over it. -/
def laySetting (base : Value) (setting : String × Value) : Value :=
  let path := Path.ofText setting.1
  layOver setting.2 (.name path.root :: path.steps) base

/-- A table of all settings of some layers, the lowest first. -/
def layered (layers : List (List (String × Value))) : Value :=
  layers.flatten.foldl laySetting (.table [])

/-! ### Settings of the environment -/

/-- How the names of the program's variables begin, in lower case. -/
def variableStart : String := "keel__"

/-- A text with two underscores replaced by a dot wherever they stand. -/
def dotted : List Char → List Char
  | '_' :: '_' :: cs => '.' :: dotted cs
  | c :: cs => c :: dotted cs
  | [] => []

/-- The value of a variable: a truth value or a number if it is written like one. -/
def variableValue (s : String) : Value :=
  match Text.lowerAll s with
  | "true" => .flag true
  | "false" => .flag false
  | _ =>
    match Text.integer? (wordLimit 63) s, Binary64.ofText? s with
    | some n, _ => .int n
    | none, some x => .real x
    | none, none => .text s

/-- The setting of a variable, if it is one of the program's. -/
def ofVariable? (v : String × String) : Option (String × Value) :=
  let name := Text.lowerAll v.1
  if Text.beginsWith name variableStart then
    some (String.ofList (dotted (name.toList.drop variableStart.length)), variableValue v.2)
  else none

/-! ### Understanding values -/

/-- The truth value of a word. -/
def flagOfWord? : String → Option Bool
  | "true" | "on" | "yes" => some true
  | "false" | "off" | "no" => some false
  | _ => none

/-- The text of a value. -/
def textOf? : Value → Option String
  | .text s => some s
  | .int n => some (if n < 0 then "-" ++ Text.decimal n.natAbs else Text.decimal n.natAbs)
  | .real x => some x.plainText
  | .flag b => some (if b then "true" else "false")
  | .moment m => some m.text
  | .list _ | .table _ => none

/-- The truth value of a text. -/
def flagOfText? (s : String) : Option Bool :=
  match Text.lowerAll s with
  | "1" => some true
  | "0" => some false
  | word => flagOfWord? word

/-- The truth value of a value. -/
def flagOf? : Value → Option Bool
  | .flag b => some b
  | .int n => some (n != 0)
  | .real x => some (x.units? != some 0)
  | .text s => flagOfText? s
  | .moment m => flagOfText? m.text
  | .list _ | .table _ => none

/-- The whole number of a text. -/
def countOfText? (s : String) : Option Nat :=
  match flagOfWord? (Text.lowerAll s) with
  | some b => some b.toNat
  | none => Text.count? (wordLimit 64) s

/-- The whole number of a value. -/
def countOf? : Value → Option Nat
  | .int n => if 0 ≤ n then some n.toNat else none
  | .flag b => some b.toNat
  | .real x => some (x.toCount (wordLimit 64 - 1))
  | .text s => countOfText? s
  | .moment m => countOfText? m.text
  | .list _ | .table _ => none

/-- The number of a text. -/
def realOfText? (s : String) : Option Binary64 :=
  match flagOfWord? (Text.lowerAll s) with
  | some b => some (.ofNat b.toNat)
  | none => Binary64.ofText? s

/-- The number of a value. -/
def realOf? : Value → Option Binary64
  | .real x => some x
  | .int n => some (.ofInt n)
  | .flag b => some (.ofNat b.toNat)
  | .text s => realOfText? s
  | .moment m => realOfText? m.text
  | .list _ | .table _ => none

/-- The name that stands for a choice: a text, or the one name in a table. -/
def nameOf? : Value → Option String
  | .text s => some (Text.lowerAll s)
  | .moment m => some (Text.lowerAll m.text)
  | .table [(s, _)] => some (Text.lowerAll s)
  | _ => none

/-- How the values of layered settings are understood. A table may also be given by place. -/
def settings : Dialect Value where
  fields? names
    | .table ms => some fun name => ms.lookup name
    | .list items => some fun name => (names.zip items).lookup name
    | _ => none
  items?
    | .list items => some items
    | _ => none
  text? := textOf?
  flag? := flagOf?
  count? limit v := (countOf? v).filter (· < limit)
  real? := realOf?
  name? := nameOf?
  isUnset _ := false

end Stevedore.Config
