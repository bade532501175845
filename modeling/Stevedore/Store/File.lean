import Stevedore.Store.Document
import Stevedore.Store.Fault
import Stevedore.Store.Memory

/-!
# A store in a file

The whole map is written at every change: first to a file of its own beside the store's file, which
then takes the place of the store's file in one step. Whatever goes wrong on the way, the store's
file holds either the text before the change or the text after it. The map is kept in memory to
serve reads, and changes there only when the file has been replaced.
-/

namespace Stevedore.Store

/-- What can go wrong while a file is being replaced. -/
inductive Mishap where
  /-- The directory of the file cannot be made. -/
  | directory
  /-- The new text cannot be written beside the file; this is what is left of the attempt. -/
  | staging (left : Option String)
  /-- The new file cannot take the place of the old one. -/
  | replacing
  deriving DecidableEq, Repr

/-- What is reported of a mishap. -/
def Mishap.message : Mishap → String
  | directory => "the directory cannot be made"
  | staging _ => "the file cannot be written"
  | replacing => "the file cannot be replaced"

/-- The part of a disk that a store uses. -/
structure Disk where
  /-- Where the store's file lies. -/
  path : String
  /-- The text of the store's file, if there is one. -/
  file : Option String
  /-- The text of the file beside it, if there is one. -/
  staged : Option String
  /-- What goes wrong with every change, if anything does. -/
  mishap : Option Mishap
  deriving DecidableEq, Repr

namespace Disk

/-- Write a text beside the store's file. -/
def stage (d : Disk) (text : String) : Disk :=
  { d with staged := some text }

/-- The file beside the store's file takes its place. -/
def rename (d : Disk) : Disk :=
  { d with file := d.staged, staged := none }

/-- Replace the store's file by a new text. -/
def replace (d : Disk) (text : String) : Except Mishap Unit × Disk :=
  match d.mishap with
  | none => (.ok (), (d.stage text).rename)
  | some .directory => (.error .directory, d)
  | some (.staging left) => (.error (.staging left), { d with staged := left })
  | some .replacing => (.error .replacing, d.stage text)

end Disk

/-- A store in a file. -/
structure FileStore where
  /-- The disk that the file is on. -/
  disk : Disk
  /-- What the file holds. -/
  map : Memory
  deriving DecidableEq

namespace FileStore

/-- Open the store on a disk; without a file it is empty. -/
def ofDisk (d : Disk) : Except Fault FileStore :=
  match d.file with
  | none => .ok ⟨d, ∅⟩
  | some text =>
    match ofDocument? text with
    | some map => .ok ⟨d, map⟩
    | none => .error (.corrupt d.path)

/-- Replace what the store holds. -/
def write (f : FileStore) (map : Memory) : Except Fault Unit × FileStore :=
  match f.disk.replace (document map) with
  | (.ok (), disk) => (.ok (), ⟨disk, map⟩)
  | (.error e, disk) => (.error (.unavailable e.message), { f with disk := disk })

/-- The value under a key. -/
def get (f : FileStore) (key : String) : Option String :=
  f.map.get? key

/-- Put a value under a key. -/
def set (f : FileStore) (key value : String) : Except Fault Unit × FileStore :=
  f.write (f.map.insert key value)

/-- Remove a key, and say whether it was there. If it was not, nothing is written. -/
def delete (f : FileStore) (key : String) : Except Fault Bool × FileStore :=
  if f.map.contains key then
    match f.write (f.map.erase key) with
    | (.ok (), f) => (.ok true, f)
    | (.error e, f) => (.error e, f)
  else (.ok false, f)

/-- The keys that begin with a text, in ascending order. -/
def scan (f : FileStore) (start : String) : List String :=
  f.map.keys.filter fun key => Text.beginsWith key start

/-- How many keys begin with a text. -/
def count (f : FileStore) (start : String) : Nat :=
  (f.scan start).length

end FileStore

end Stevedore.Store
