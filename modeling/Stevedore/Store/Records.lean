import Stevedore.Cluster.Identity
import Stevedore.Cluster.TaskRecord
import Stevedore.Json.Printer
import Stevedore.Json.Reader
import Stevedore.Store.Access

/-!
# Records in a store

Task records, the framework's identity and its settings, each stored as JSON under its own key.
Listings go through the roles in order and give the records of each role oldest first; an entry
that holds no record is skipped there, while a look-up by id stops at it.
-/

namespace Stevedore.Records

open Json (Coded)
open Access

variable {m : Type → Type} [Monad m] [Access m]

/-- The value that a stored text holds. -/
def ofStored? {α : Type} [Coded α] (text : String) : Option α :=
  (Json.parse? text).bind Json.decode?

/-- The value that is stored under a key. -/
def loadAs {α : Type} [Coded α] (key : String) : m (Option α) := do
  match ← getValue key with
  | none => pure none
  | some text =>
    match ofStored? text with
    | some x => pure (some x)
    | none => corrupt key

/-- Store a value under a key. -/
def saveAs {α : Type} [Coded α] (key : String) (x : α) : m Unit :=
  setValue key (Json.encode x).render

/-- The record of a task in a role. -/
def load (role : Role) (id : String) : m (Option TaskRecord) := do
  loadAs (Key.task (← framework) role id)

/-- The record of a task in the first of some roles that has one. -/
def findIn (id : String) : List Role → m (Option TaskRecord)
  | [] => pure none
  | role :: roles => do
    match ← load role id with
    | some r => pure (some r)
    | none => findIn id roles

/-- The record of a task in any role. -/
def find (id : String) : m (Option TaskRecord) :=
  findIn id Role.all

/-- Store a record. -/
def save (r : TaskRecord) : m Unit :=
  saveAs r.storeKey r

/-- Remove the record of a task, and say whether there was one. -/
def remove (role : Role) (id : String) : m Bool := do
  deleteKey (Key.task (← framework) role id)

/-- The records under some keys. Keys that hold none are skipped. -/
def loadEach : List String → m (List TaskRecord)
  | [] => pure []
  | key :: keys => do
    let stored ← getValue key
    let rest ← loadEach keys
    return (stored.bind ofStored?).toList ++ rest

/-- The records of a role, oldest first. -/
def listRole (role : Role) : m (List TaskRecord) := do
  let keys ← scanKeys (Key.tasks (← framework) role)
  return (← loadEach keys).mergeSort TaskRecord.isBefore

/-- The records of some roles, role by role. -/
def listRoles : List Role → m (List TaskRecord)
  | [] => pure []
  | role :: roles => do
    let first ← listRole role
    return first ++ (← listRoles roles)

/-- All records, role by role. -/
def listAll : m (List TaskRecord) :=
  listRoles Role.all

/-- The framework's identity. -/
def identity : m Identity := do
  return (← loadAs (Key.identity (← framework))).getD .fresh

/-- Store the framework's identity. -/
def saveIdentity (identity : Identity) : m Unit := do
  saveAs (Key.identity (← framework)) identity

/-- The settings that outlive a restart. -/
def settings : m Settings := do
  return (← loadAs (Key.settings (← framework))).getD .unset

/-- Store the settings that outlive a restart. -/
def saveSettings (settings : Settings) : m Unit := do
  saveAs (Key.settings (← framework)) settings

end Stevedore.Records
