/-!
# Faults of a store

What can keep a store from giving or taking a value, and how it is reported.
-/

namespace Stevedore.Store

/-- What can go wrong with a store. -/
inductive Fault where
  /-- It cannot be reached. -/
  | unavailable (reason : String)
  /-- What it holds under a key is not what belongs there. -/
  | corrupt (key : String)
  deriving DecidableEq, Repr

/-- What is reported of a fault. -/
def Fault.message : Fault → String
  | unavailable reason => "store unavailable: " ++ reason
  | corrupt key => "corrupt value at " ++ key

end Stevedore.Store
