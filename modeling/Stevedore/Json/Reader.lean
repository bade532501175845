import Stevedore.Json.Token

/-!
# Reading JSON

A document is one value with white space around its tokens. The reader is a machine over the
tokens: a stack of the arrays and objects that are open, and what may come next. There is no limit
on nesting here; a caller that keeps values of any shape sets its own.
-/

namespace Stevedore.Json

/-- An array or object that is not yet closed. -/
inductive Frame where
  /-- An array with its items so far, last one first. -/
  | list (items : List Json)
  /-- An object with its members so far, last one first, whether all its names were sound, and the
  name of the member under way. -/
  | object (members : List (String × Json)) (sound : Bool) (name : Option String)

/-- What may come next. -/
inductive Await where
  /-- A value. -/
  | value
  /-- The first item of an array or its end. -/
  | firstItem
  /-- The name of the first member of an object or its end. -/
  | firstName
  /-- The name of a further member. -/
  | name
  /-- The colon after a name. -/
  | colon
  /-- A comma or the end of the innermost array or object. -/
  | next

/-- Where the reader stands between two tokens. -/
inductive Reading where
  /-- Inside the document, with the open arrays and objects, innermost first. -/
  | within (await : Await) (stack : List Frame)
  /-- After the document's value. -/
  | finished (j : Json)

/-- A value is complete. -/
def deliver (j : Json) : List Frame → Reading
  | [] => .finished j
  | .list items :: stack => .within .next (.list (j :: items) :: stack)
  | .object members sound (some name) :: stack =>
    .within .next (.object ((name, j) :: members) sound none :: stack)
  | .object members _ none :: stack => .within .next (.object members false none :: stack)

/-- The value of a closed object. -/
def closed (members : List (String × Json)) (sound : Bool) : Json :=
  if sound then .object members.reverse else .damaged

/-- A token where a value is due. -/
def beginValue? (stack : List Frame) : Token → Option Reading
  | .atom j => some (deliver j stack)
  | .text (some s) => some (deliver (.text s) stack)
  | .text none => some (deliver .damaged stack)
  | .openList => some (.within .firstItem (.list [] :: stack))
  | .openObject => some (.within .firstName (.object [] true none :: stack))
  | _ => none

/-- A token where the name of a member is due. -/
def beginMember? : List Frame → Token → Option Reading
  | .object members sound _ :: stack, .text name =>
    some (.within .colon (.object members sound name :: stack))
  | _, _ => none

/-- One token. -/
def readStep? : Reading → Token → Option Reading
  | .within .value stack, t => beginValue? stack t
  | .within .firstItem (.list items :: stack), .closeList =>
    some (deliver (.list items.reverse) stack)
  | .within .firstItem stack, t => beginValue? stack t
  | .within .firstName (.object members sound _ :: stack), .closeObject =>
    some (deliver (closed members sound) stack)
  | .within .firstName stack, t => beginMember? stack t
  | .within .name stack, t => beginMember? stack t
  | .within .colon stack, .colon => some (.within .value stack)
  | .within .next (.list items :: stack), .comma => some (.within .value (.list items :: stack))
  | .within .next (.list items :: stack), .closeList =>
    some (deliver (.list items.reverse) stack)
  | .within .next (.object members sound name :: stack), .comma =>
    some (.within .name (.object members sound name :: stack))
  | .within .next (.object members sound _ :: stack), .closeObject =>
    some (deliver (closed members sound) stack)
  | _, _ => none

/-- The reader after a list of tokens. -/
def readFrom? (state : Reading) : List Token → Option Reading
  | [] => some state
  | t :: ts => (readStep? state t).bind fun next => readFrom? next ts

/-- The value of a list of tokens. -/
def ofTokens? (ts : List Token) : Option Json :=
  match readFrom? (.within .value []) ts with
  | some (.finished j) => some j
  | _ => none

/-- The value of a document. -/
def ofSymbols? (document : List Text.Symbol) : Option Json :=
  (tokens? document).bind ofTokens?

/-- The value of a document held as text. -/
def parse? (s : String) : Option Json :=
  ofSymbols? (Text.ofText s)

/-- The value of a document held as bytes. -/
def parseBytes? (bytes : List UInt8) : Option Json :=
  ofSymbols? (Text.symbols bytes)

end Stevedore.Json
