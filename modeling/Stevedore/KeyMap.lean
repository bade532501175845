/-!
# Maps from text keys

A finite map whose entries are kept in ascending order of their keys, so that two maps with the
same entries are the same value and a listing needs no sorting. Keys are ordered by code points,
which is also the order of their UTF-8 bytes.
-/

namespace Stevedore

/-- A map from text to values of one type. -/
structure KeyMap (α : Type) where
  /-- The entries, in ascending order of their keys. -/
  entries : List (String × α)
  /-- No key stands twice, and every key is above the ones before it. -/
  ascending : entries.Pairwise fun a b => a.1 < b.1
  deriving DecidableEq

namespace KeyMap

variable {α β : Type}

/-- The map without entries. -/
def empty : KeyMap α := ⟨[], .nil⟩

instance : EmptyCollection (KeyMap α) := ⟨empty⟩
instance : Inhabited (KeyMap α) := ⟨empty⟩

/-- The value under a key. -/
def get? (m : KeyMap α) (key : String) : Option α :=
  m.entries.lookup key

/-- Whether there is an entry under a key. -/
def contains (m : KeyMap α) (key : String) : Bool :=
  (m.get? key).isSome

/-- The keys in ascending order. -/
def keys (m : KeyMap α) : List String :=
  m.entries.map (·.1)

/-- How many entries there are. -/
def size (m : KeyMap α) : Nat :=
  m.entries.length

/-- Whether there is no entry. -/
def isEmpty (m : KeyMap α) : Bool :=
  m.entries.isEmpty

/-- The entries with one put in its place, or replaced. -/
def place (key : String) (value : α) : List (String × α) → List (String × α)
  | [] => [(key, value)]
  | e :: rest =>
    if key < e.1 then (key, value) :: e :: rest
    else if key = e.1 then (key, value) :: rest
    else e :: place key value rest

theorem mem_place {key : String} {value : α} {es : List (String × α)} {e : String × α}
    (h : e ∈ place key value es) : e = (key, value) ∨ e ∈ es := by
  induction es with
  | nil => simpa [place] using h
  | cons d rest ih => grind [place]

theorem place_ascending (key : String) (value : α) {es : List (String × α)}
    (h : es.Pairwise fun a b => a.1 < b.1) :
    (place key value es).Pairwise fun a b => a.1 < b.1 := by
  induction es with
  | nil => simp [place]
  | cons d rest ih =>
    have hd := (List.pairwise_cons.1 h).1
    have hr := (List.pairwise_cons.1 h).2
    unfold place
    split
    · next hlt =>
      refine List.pairwise_cons.2 ⟨fun e he => ?_, h⟩
      rcases List.mem_cons.1 he with rfl | he
      · exact hlt
      · exact String.lt_trans hlt (hd e he)
    · split
      · next heq => exact List.pairwise_cons.2 ⟨fun e he => heq ▸ hd e he, hr⟩
      · next hlt hne =>
        refine List.pairwise_cons.2 ⟨fun e he => ?_, ih hr⟩
        rcases mem_place he with rfl | he
        · rcases Std.lt_trichotomy d.1 key with hlt' | heq | hgt
          · exact hlt'
          · exact absurd heq.symm hne
          · exact absurd hgt hlt
        · exact hd e he

/-- The map with a value put under a key. -/
def insert (m : KeyMap α) (key : String) (value : α) : KeyMap α :=
  ⟨place key value m.entries, place_ascending key value m.ascending⟩

/-- The entries that satisfy a condition. -/
def filter (m : KeyMap α) (keep : String → α → Bool) : KeyMap α :=
  ⟨m.entries.filter fun e => keep e.1 e.2, m.ascending.filter _⟩

/-- The map without the entry under a key. -/
def erase (m : KeyMap α) (key : String) : KeyMap α :=
  m.filter fun k _ => k != key

/-- The map of a list of entries; of entries with one key the last counts. -/
def ofList (es : List (String × α)) : KeyMap α :=
  es.foldl (fun m e => m.insert e.1 e.2) empty

end KeyMap

end Stevedore
