import Stevedore.KeyMap
import Stevedore.Text.Blank

/-!
# A store in memory

Texts under keys, for as long as the process runs. The keys that begin with a given text lie side
by side, so a scan goes to the first key that is not below the text and reads on while keys begin
with it.
-/

namespace Stevedore.Store

/-- A store in memory. -/
abbrev Memory : Type := KeyMap String

namespace Memory

/-- The entries whose keys begin with a text. -/
def entriesFrom (m : Memory) (start : String) : List (String × String) :=
  (m.entries.dropWhile fun e => decide (e.1 < start)).takeWhile fun e =>
    Text.beginsWith e.1 start

/-- The keys that begin with a text, in ascending order. -/
def scan (m : Memory) (start : String) : List String :=
  (m.entriesFrom start).map (·.1)

/-- How many keys begin with a text. -/
def count (m : Memory) (start : String) : Nat :=
  (m.entriesFrom start).length

/-- Put a value under a key. -/
def set (m : Memory) (key value : String) : Memory :=
  m.insert key value

/-- Remove a key, and say whether it was there. -/
def delete (m : Memory) (key : String) : Bool × Memory :=
  (m.contains key, m.erase key)

end Memory

end Stevedore.Store
