import Stevedore.Store.File

/-!
# Access to a store

What keeps records in a store only reads and writes texts under keys, and is therefore written for
any kind of action that can do so (`Access`). The plainest such kind works on a store and nothing
else (`Ledger`); the store is in memory or in a file.
-/

namespace Stevedore

/-- A store of texts under keys. -/
inductive Store where
  /-- It is in memory. -/
  | memory (m : Store.Memory)
  /-- It is in a file. -/
  | file (f : Store.FileStore)
  deriving DecidableEq

namespace Store

/-- What a store holds. -/
def entries : Store → Memory
  | memory m => m
  | file f => f.map

/-- The value under a key. -/
def get : Store → String → Option String
  | memory m, key => m.get? key
  | file f, key => f.get key

/-- Put a value under a key. -/
def set : Store → String → String → Except Fault Unit × Store
  | memory m, key, value => (.ok (), memory (m.set key value))
  | file f, key, value =>
    let (r, f) := f.set key value
    (r, file f)

/-- Remove a key, and say whether it was there. -/
def delete : Store → String → Except Fault Bool × Store
  | memory m, key =>
    let (there, m) := m.delete key
    (.ok there, memory m)
  | file f, key =>
    let (r, f) := f.delete key
    (r, file f)

/-- The keys that begin with a text, in ascending order. -/
def scan : Store → String → List String
  | memory m, start => m.scan start
  | file f, start => f.scan start

/-- How many keys begin with a text. -/
def count : Store → String → Nat
  | memory m, start => m.count start
  | file f, start => f.count start

end Store

/-- Actions on behalf of a framework that reach a store. -/
class Access (m : Type → Type) [Monad m] where
  /-- The name under which the framework keeps its records. -/
  framework : m String
  /-- The value under a key. -/
  getValue : String → m (Option String)
  /-- Put a value under a key. -/
  setValue : String → String → m Unit
  /-- Remove a key, and say whether it was there. -/
  deleteKey : String → m Bool
  /-- The keys that begin with a text, in ascending order. -/
  scanKeys : String → m (List String)
  /-- Stop because the value under a key is not what belongs there. -/
  corrupt {α : Type} : String → m α

/-- An action on a store, on behalf of a framework of a given name. -/
def Ledger (α : Type) : Type := String → Store → Except Store.Fault α × Store

namespace Ledger

variable {α β : Type}

/-- Do nothing. -/
protected def pure (x : α) : Ledger α := fun _ s => (.ok x, s)

/-- Do one thing and then another, unless the first stops with a fault. -/
protected def bind (a : Ledger α) (f : α → Ledger β) : Ledger β := fun name s =>
  match a name s with
  | (.ok x, s) => f x name s
  | (.error e, s) => (.error e, s)

instance : Monad Ledger where
  pure := Ledger.pure
  bind := Ledger.bind

instance : Access Ledger where
  framework := fun name s => (.ok name, s)
  getValue key := fun _ s => (.ok (s.get key), s)
  setValue key value := fun _ s => s.set key value
  deleteKey key := fun _ s => s.delete key
  scanKeys start := fun _ s => (.ok (s.scan start), s)
  corrupt key := fun _ s => (.error (.corrupt key), s)

end Ledger

end Stevedore
