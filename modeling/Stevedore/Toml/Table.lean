import Stevedore.Toml.Basic

/-!
# Putting tables together

A document names the parts of its tables in any order, but no part twice. While a table is put
together, each table remembers how it came about: one that was only named on the way to another may
still be opened once by a header of its own, unless dotted keys made it; and dotted keys only add
to tables that dotted keys have made.
-/

namespace Stevedore.Toml

mutual

/-- What stands under a key while a document is read. -/
inductive Entry where
  /-- A finished value. -/
  | value (v : Value)
  /-- A table that may still grow. -/
  | table (t : Table)
  /-- A list of tables, last one first; the last may still grow. -/
  | tables (ts : List Table)

/-- A table while a document is read: whether it was only named on the way to another, whether a
dotted key made it, and what stands in it. -/
inductive Table where
  /-- A table with its entries. -/
  | mk (implicit dotted : Bool) (entries : List (String × Entry))

end

namespace Table

/-- A table that was opened by a header, or the document itself. -/
def fresh : Table := mk false false []

/-- Whether a table was only named on the way to another. -/
def isImplicit : Table → Bool
  | mk implicit _ _ => implicit

/-- Whether a dotted key made a table. -/
def isDotted : Table → Bool
  | mk _ dotted _ => dotted

/-- What stands in a table. -/
def entries : Table → List (String × Entry)
  | mk _ _ es => es

/-- The entries with one put in its place. -/
def putEntry (key : String) (x : Entry) : List (String × Entry) → List (String × Entry)
  | [] => [(key, x)]
  | e :: es => if e.1 == key then (key, x) :: es else e :: putEntry key x es

/-- The table with something put under a key. -/
def put (t : Table) (key : String) (x : Entry) : Table :=
  mk t.isImplicit t.isDotted (putEntry key x t.entries)

/-- The table with a table changed that lies on a path from it. Tables that are missing on the way
are made; if the path is part of a dotted key it does not lead into a table with a header. -/
def within? (dotted : Bool) (f : Table → Option Table) : List String → Table → Option Table
  | [], t => f t
  | key :: path, t =>
    match t.entries.lookup key with
    | none => (within? dotted f path (mk true dotted [])).map fun u => t.put key (.table u)
    | some (.table u) =>
      if dotted && !u.isImplicit then none
      else (within? dotted f path u).map fun u => t.put key (.table u)
    | some (.tables (last :: before)) =>
      (within? dotted f path last).map fun u => t.put key (.tables (u :: before))
    | some (.tables []) => none
    | some (.value _) => none

/-- The table with a value under a key, which is the last part of a dotted key if `path` has
parts. -/
def assign? (path : List String) (key : String) (v : Value) (t : Table) : Option Table :=
  t |> within? true (fun u =>
    if u.isDotted == path.isEmpty then none
    else if (u.entries.lookup key).isSome then none
    else some (u.put key (.value v))) path

/-- The table with a table opened by a header. -/
def open? (path : List String) (key : String) (t : Table) : Option Table :=
  t |> within? false (fun u =>
    match u.entries.lookup key with
    | none => some (u.put key (.table fresh))
    | some (.table (mk true false es)) => some (u.put key (.table (mk false false es)))
    | some _ => none) path

/-- The table with one more table in a list of tables. -/
def append? (path : List String) (key : String) (t : Table) : Option Table :=
  t |> within? false (fun u =>
    match u.entries.lookup key with
    | none => some (u.put key (.tables [fresh]))
    | some (.tables ts) => some (u.put key (.tables (fresh :: ts)))
    | some _ => none) path

end Table

mutual

/-- The value of an entry. -/
def Entry.toValue : Entry → Value
  | .value v => v
  | .table t => .table t.members
  | .tables ts => .list (tableValues ts).reverse

/-- The members of a finished table. -/
def Table.members : Table → List (String × Value)
  | .mk _ _ es => entryMembers es

/-- The values of some tables. -/
def tableValues : List Table → List Value
  | [] => []
  | t :: ts => .table t.members :: tableValues ts

/-- The members that some entries make. -/
def entryMembers : List (String × Entry) → List (String × Value)
  | [] => []
  | e :: es => entryMember e :: entryMembers es

/-- The member that an entry makes. -/
def entryMember : String × Entry → String × Value
  | (key, x) => (key, x.toValue)

end

end Stevedore.Toml
