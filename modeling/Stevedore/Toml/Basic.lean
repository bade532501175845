import Stevedore.Binary64.Basic
import Stevedore.Toml.Moment

/-!
# TOML values

The values of a TOML document. The members of a table keep the order in which they were first
named.
-/

namespace Stevedore.Toml

/-- A value. -/
inductive Value where
  /-- A text. -/
  | text (s : String)
  /-- A whole number of 64 bits with sign. -/
  | int (n : Int)
  /-- Any other number. -/
  | real (x : Binary64)
  /-- A truth value. -/
  | flag (b : Bool)
  /-- A date, a time of day or both. -/
  | moment (m : Moment)
  /-- A list. -/
  | list (items : List Value)
  /-- A table. -/
  | table (members : List (String × Value))
  deriving Repr, Inhabited

end Stevedore.Toml
