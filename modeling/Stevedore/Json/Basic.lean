import Stevedore.Binary64.Basic

/-!
# JSON values

A value as it stands in a document: the members of an object keep their order and repeated names
stay visible, whole numbers and other numbers are told apart. A piece of a document can be well
formed and still hold no value, for instance a string with half of a surrogate pair or a number
beyond the largest double; such a piece can only be skipped and is `damaged`.
-/

namespace Stevedore

/-- A JSON value. -/
inductive Json where
  /-- The value `null`. -/
  | null
  /-- One of `true` and `false`. -/
  | bool (b : Bool)
  /-- A number without a point or exponent that fits 64 bits, signed or unsigned. -/
  | int (n : Int)
  /-- Any other number. -/
  | real (x : Binary64)
  /-- A string. -/
  | text (s : String)
  /-- An array. -/
  | list (items : List Json)
  /-- An object, its members in the order of the document. -/
  | object (members : List (String × Json))
  /-- A well-formed piece that holds no value. -/
  | damaged
  deriving Repr, Inhabited

namespace Json

mutual

/-- How deeply arrays and objects are nested in a value. -/
def depth : Json → Nat
  | list items => depthOfItems items + 1
  | object members => depthOfMembers members + 1
  | _ => 0

/-- The greatest depth among the items of an array. -/
def depthOfItems : List Json → Nat
  | [] => 0
  | j :: js => max j.depth (depthOfItems js)

/-- The greatest depth among the members of an object. -/
def depthOfMembers : List (String × Json) → Nat
  | [] => 0
  | m :: ms => max (depthOfMember m) (depthOfMembers ms)

/-- The depth of a member's value. -/
def depthOfMember : String × Json → Nat
  | (_, j) => j.depth

end

mutual

/-- Whether every piece of a value holds a value. -/
def isSound : Json → Bool
  | damaged => false
  | list items => itemsSound items
  | object members => membersSound members
  | _ => true

/-- Whether every item is sound. -/
def itemsSound : List Json → Bool
  | [] => true
  | j :: js => j.isSound && itemsSound js

/-- Whether every member is sound. -/
def membersSound : List (String × Json) → Bool
  | [] => true
  | m :: ms => memberSound m && membersSound ms

/-- Whether a member's value is sound. -/
def memberSound : String × Json → Bool
  | (_, j) => j.isSound

end

/-- The value of the last member with a name. -/
def lastMember? (name : String) (members : List (String × Json)) : Option Json :=
  (members.reverse.find? fun m => m.1 == name).map (·.2)

end Json

end Stevedore
