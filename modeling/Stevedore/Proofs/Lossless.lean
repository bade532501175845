import Stevedore.Json.Fields
import Stevedore.Proofs.JsonText

/-!
# Types that survive their text

Most types are read back from a document as they were written (`Lossless`). Doubles are if they are
finite (`readBack_double`), since a document has no form for the others, and so a single value of a
type that has doubles in it may survive (`Survives`). For a record it is enough to look at its
fields one by one: each is found under its name if it was written, and absent otherwise
(`bind_fields?`).
-/

namespace Stevedore.Json

/-- What is read back of a value from its text. -/
def readBack {α : Type} [Coded α] (x : α) : Option α := decode? (encode x).settled

/-- A type whose values are read back as they were written, none of them from `null`. -/
class Lossless (α : Type) [Coded α] : Prop where
  readBack_eq (x : α) : readBack x = some x
  settled_ne_null (x : α) : (encode x).settled ≠ .null

export Lossless (readBack_eq settled_ne_null)

/-- A value that is read back as it was written, and not from `null`. -/
structure Survives {α : Type} [Coded α] (x : α) : Prop where
  readBack_eq : readBack x = some x
  settled_ne_null : (encode x).settled ≠ .null

theorem survives {α : Type} [Coded α] [Lossless α] (x : α) : Survives x :=
  ⟨readBack_eq x, settled_ne_null x⟩

/-! ### Plain values -/

instance : Lossless String where
  readBack_eq _ := rfl
  settled_ne_null s := by
    show Json.text s ≠ .null
    simp

instance : Lossless Bool where
  readBack_eq _ := rfl
  settled_ne_null b := by
    show Json.bool b ≠ .null
    simp

theorem rereadInt_of_lt {n bits : Nat} (h : n < wordLimit bits) (hbits : bits ≤ 64) :
    rereadInt n = .int n := by
  have hle : wordLimit bits ≤ wordLimit 64 := Nat.pow_le_pow_right (by decide) hbits
  exact rereadInt_of_fits (by omega) (by omega)

theorem count?_int {n limit : Nat} (h : n < limit) : count? limit (.int n) = some n := by
  show (if 0 ≤ (n : Int) ∧ (n : Int) < limit then some (n : Int).toNat else none) = some n
  rw [if_pos (by omega), Int.toNat_natCast]

instance : Lossless UInt32 where
  readBack_eq n := by
    have hn : n.toNat < wordLimit 32 := n.toNat_lt
    show (count? (wordLimit 32) (rereadInt n.toNat)).map UInt32.ofNat = some n
    rw [rereadInt_of_lt hn (by decide), count?_int hn, Option.map_some, UInt32.ofNat_toNat]
  settled_ne_null n := by
    have hn : n.toNat < wordLimit 32 := n.toNat_lt
    show rereadInt n.toNat ≠ .null
    rw [rereadInt_of_lt hn (by decide)]
    simp

instance : Lossless UInt64 where
  readBack_eq n := by
    have hn : n.toNat < wordLimit 64 := n.toNat_lt
    show (count? (wordLimit 64) (rereadInt n.toNat)).map UInt64.ofNat = some n
    rw [rereadInt_of_lt hn le_rfl, count?_int hn, Option.map_some, UInt64.ofNat_toNat]
  settled_ne_null n := by
    have hn : n.toNat < wordLimit 64 := n.toNat_lt
    show rereadInt n.toNat ≠ .null
    rw [rereadInt_of_lt hn le_rfl]
    simp

/-- **A double is read back exactly, unless it is not finite.** -/
theorem readBack_double (x : Binary64) : readBack x = if x.isFinite then some x else none := by
  cases x <;> rfl

/-- A finite double survives. -/
theorem survives_double {x : Binary64} (h : x.isFinite = true) : Survives x := by
  have hback : readBack x = some x := by rw [readBack_double, if_pos h]
  refine ⟨hback, fun hnull => ?_⟩
  rw [readBack, hnull] at hback
  cases hback

theorem survives_list {α : Type} [Coded α] {xs : List α} (h : ∀ x ∈ xs, Survives x) :
    Survives xs := by
  constructor
  · show (settledItems (xs.map encode)).mapM decode? = some xs
    rw [settledItems_eq_map, List.map_map]
    induction xs with
    | nil => rfl
    | cons x xs ih =>
      rw [List.forall_mem_cons] at h
      have hx : decode? (encode x).settled = some x := h.1.readBack_eq
      rw [List.map_cons, List.mapM_cons, ih h.2]
      show (decode? (encode x).settled >>= _) = _
      rw [hx]
      rfl
  · show Json.list _ ≠ .null
    simp

instance {α : Type} [Coded α] [Lossless α] : Lossless (List α) where
  readBack_eq _ := (survives_list fun x _ => survives x).readBack_eq
  settled_ne_null _ := (survives_list fun x _ => survives x).settled_ne_null

/-- A choice is found by its name if no two choices share one. -/
theorem choice?_name {α : Type} {all : List α} {name : α → String} {x : α} (hmem : x ∈ all)
    (hname : (all.map name).Nodup) : choice? all name (.text (name x)) = some x := by
  show all.find? (fun y => name y == name x) = some x
  cases hfind : all.find? (fun y => name y == name x) with
  | none =>
    have hno := List.find?_eq_none.1 hfind x hmem
    simp at hno
  | some y =>
    have heq : name y = name x := by simpa using List.find?_some hfind
    rw [List.inj_on_of_nodup_map hname (List.mem_of_find?_eq_some hfind) hmem heq]

/-! ### Records -/

/-- `Named name m`: the member of a record, if it is written, has this name. -/
def Named (name : String) (m : Option (String × Json)) : Prop :=
  ∀ key j, m = some (key, j) → key = name

section Named

variable {α : Type} [Coded α] {name : String}

theorem named_field {x : α} : Named name (field name x) := by
  rintro key j h
  cases h
  rfl

theorem named_fieldIfAny {x : Option α} : Named name (fieldIfAny name x) := by
  rintro key j h
  cases x with
  | none => cases h
  | some x =>
    cases h
    rfl

theorem named_boxIfAny {inner : String} {x : Option α} : Named name (boxIfAny name inner x) := by
  rintro key j h
  cases x with
  | none => cases h
  | some x =>
    cases h
    rfl

theorem named_fieldUnlessEmpty {xs : List α} : Named name (fieldUnlessEmpty name xs) := by
  rintro key j h
  cases xs with
  | nil => cases h
  | cons x xs =>
    cases h
    rfl

end Named

theorem filterMap_id_some {α : Type} (x : α) (xs : List (Option α)) :
    (some x :: xs).filterMap id = x :: xs.filterMap id := rfl

theorem keys_sublist {names : List String} {members : List (Option (String × Json))}
    (h : List.Forall₂ Named names members) :
    ((members.filterMap id).map (·.1)).Sublist names := by
  induction h with
  | nil => exact List.Sublist.slnil
  | @cons name m names members hm _ ih =>
    cases m with
    | none => exact ih.cons name
    | some m =>
      rw [filterMap_id_some, List.map_cons, hm m.1 m.2 rfl]
      exact ih.cons_cons name

theorem lookup_members {names : List String} {members : List (Option (String × Json))}
    (h : List.Forall₂ Named names members) (hnodup : names.Nodup) (name : String) :
    (members.filterMap id).lookup name = ((names.zip members).lookup name).join.map (·.2) := by
  induction h with
  | nil => rfl
  | @cons key m names members hm hrest ih =>
    rw [List.nodup_cons] at hnodup
    rw [List.zip_cons_cons, List.lookup_cons]
    cases hkey : name == key with
    | true =>
      obtain rfl : name = key := by simpa using hkey
      cases m with
      | none =>
        show (members.filterMap id).lookup name = none
        rw [List.lookup_eq_none_iff]
        intro q hq
        have hmem := (keys_sublist hrest).subset (List.mem_map_of_mem hq)
        rw [bne_iff_ne]
        rintro rfl
        exact hnodup.1 hmem
      | some m =>
        rw [filterMap_id_some, List.lookup_cons, hm m.1 m.2 rfl, beq_self_eq_true]
        rfl
    | false =>
      cases m with
      | none => exact ih hnodup.2
      | some m =>
        rw [filterMap_id_some, List.lookup_cons, hm m.1 m.2 rfl, hkey]
        exact ih hnodup.2

theorem lookup_settledMembers (members : List (String × Json)) (name : String) :
    (settledMembers members).lookup name = (members.lookup name).map settled := by
  induction members with
  | nil => rfl
  | cons m ms ih =>
    rw [settledMembers, settledMember_eq, List.lookup_cons, List.lookup_cons, ih]
    cases name == m.1 <;> rfl

/-- What a member of a record is read back as, if it is written. -/
def settledValue (m : Option (String × Json)) : Option Json := m.map (·.2.settled)

/-- **Reading back a record**: it is read field by field, each of them under its name. -/
theorem bind_fields? {α : Type} {names : List String} {members : List (Option (String × Json))}
    {read : Fields → Option α} {out : Option α} (hnames : List.Forall₂ Named names members)
    (hnodup : names.Nodup)
    (h : ∀ f : Fields, f.byPlace = false →
      (∀ name, f.get? name = settledValue ((names.zip members).lookup name).join) → read f = out) :
    (fields? names (record members).settled >>= read) = out := by
  set kept := settledMembers (members.filterMap id)
  have hkeys : kept.map (·.1) = (members.filterMap id).map (·.1) := by
    show (settledMembers _).map (·.1) = _
    rw [settledMembers_eq_map, List.map_map]
    rfl
  have hsub : (kept.map (·.1)).Sublist names := hkeys ▸ keys_sublist hnames
  have hknown : kept.filter (fun m => names.contains m.1) = kept := by
    rw [List.filter_eq_self]
    intro m hm
    rw [List.contains_iff_mem]
    exact hsub.subset (List.mem_map_of_mem hm)
  have hfields : fields? names (record members).settled = some ⟨kept, false⟩ := by
    show (if ((kept.filter fun m => names.contains m.1).map (·.1)).Nodup then _ else _) = _
    rw [hknown, if_pos (hnodup.sublist hsub)]
  rw [hfields]
  refine h _ rfl fun name => ?_
  show kept.lookup name = _
  rw [lookup_settledMembers, lookup_members hnames hnodup]
  cases ((names.zip members).lookup name).join <;> rfl

/-- A name that no member of an object carries is absent when the object is read as a record. -/
theorem get?_eq_none_of_object {names : List String} {members : List (String × Json)} {f : Fields}
    (hf : fields? names (.object members) = some f) {name : String}
    (h : ∀ m ∈ members, m.1 ≠ name) :
    f.get? name = none := by
  have hpresent : f.present = members.filter fun m => names.contains m.1 := by
    simp only [fields?] at hf
    split at hf
    · rw [← Option.some.inj hf]
    · cases hf
  unfold Fields.get?
  rw [List.lookup_eq_none_iff, hpresent]
  intro m hm
  rw [bne_iff_ne]
  exact (h m (List.mem_filter.1 hm).1).symm

theorem settled_record_ne_null (members : List (Option (String × Json))) :
    (record members).settled ≠ .null := by
  unfold record
  rw [settled]
  simp

namespace Fields

variable {α : Type} [Coded α] {f : Fields} {name key : String}

theorem required_of {x : α} (h : f.get? name = settledValue (field key x)) :
    f.required name = readBack x := by
  unfold required
  rw [h]
  rfl

theorem orDefault_of {x default : α} (h : f.get? name = settledValue (field key x)) :
    f.orDefault name default = readBack x := by
  unfold orDefault
  rw [h]
  rfl

theorem decode?_of_ne_null {j : Json} (h : j ≠ .null) :
    (decode? j : Option (Option α)) = (decode? j).map some := by
  cases j <;> first | rfl | exact absurd rfl h

/-- What is read back of a field that may be absent. -/
def readBackAny : Option α → Option (Option α)
  | none => some none
  | some x => (readBack x).map some

theorem optional_eq_readBackAny (hne : ∀ x : α, (encode x).settled ≠ .null)
    (hplace : f.byPlace = false) {x : Option α}
    (h : f.get? name = settledValue (fieldIfAny key x)) :
    f.optional name = readBackAny x := by
  unfold optional
  rw [h, hplace]
  cases x with
  | none => rfl
  | some x => exact decode?_of_ne_null (hne x)

section Survives

variable {x : Option α}

theorem optional_of_survives (hx : ∀ v ∈ x, Survives v) (hplace : f.byPlace = false)
    (h : f.get? name = settledValue (fieldIfAny key x)) : f.optional name = some x := by
  unfold optional
  rw [h, hplace]
  cases x with
  | none => rfl
  | some x =>
    have hread : decode? (encode x).settled = some x := (hx x rfl).readBack_eq
    exact (decode?_of_ne_null (hx x rfl).settled_ne_null).trans (congrArg _ hread)

theorem orDefault_none_of_survives (hx : ∀ v ∈ x, Survives v)
    (h : f.get? name = settledValue (fieldIfAny key x)) : f.orDefault name none = some x := by
  unfold orDefault
  rw [h]
  cases x with
  | none => rfl
  | some x =>
    have hread : decode? (encode x).settled = some x := (hx x rfl).readBack_eq
    exact (decode?_of_ne_null (hx x rfl).settled_ne_null).trans (congrArg _ hread)

theorem orDefault_nil_of_survives {xs : List α} (hxs : Survives xs)
    (h : f.get? name = settledValue (fieldUnlessEmpty key xs)) : f.orDefault name [] = some xs := by
  unfold orDefault
  rw [h]
  cases xs with
  | nil => rfl
  | cons x xs => exact hxs.readBack_eq

theorem optional_of [Lossless α] (hplace : f.byPlace = false)
    (h : f.get? name = settledValue (fieldIfAny key x)) : f.optional name = some x :=
  optional_of_survives (fun v _ => survives v) hplace h

theorem orDefault_none_of [Lossless α] (h : f.get? name = settledValue (fieldIfAny key x)) :
    f.orDefault name none = some x :=
  orDefault_none_of_survives (fun v _ => survives v) h

theorem orDefault_nil_of [Lossless α] {xs : List α}
    (h : f.get? name = settledValue (fieldUnlessEmpty key xs)) : f.orDefault name [] = some xs :=
  orDefault_nil_of_survives (survives xs) h

end Survives

end Fields

/-! ### Boxes -/

section Boxes

variable {α : Type} [Coded α] {name key inner : String}

/-- What stands in the one field of a record. -/
theorem unbox?_settled {x : α} (h : Survives x) :
    unbox? inner (Json.object [(inner, encode x)]).settled = some x := by
  have hnamed : List.Forall₂ Named [inner] [field inner x] := .cons named_field .nil
  refine bind_fields? hnamed (List.nodup_singleton inner) fun f _ hget => ?_
  have hfield := hget inner
  simp only [List.zip_cons_cons, List.lookup_cons, beq_self_eq_true] at hfield
  rw [Fields.required_of hfield, h.readBack_eq]

theorem unboxOr?_settled {x default : α} (h : Survives x) :
    unboxOr? inner default (Json.object [(inner, encode x)]).settled = some x := by
  have hnamed : List.Forall₂ Named [inner] [field inner x] := .cons named_field .nil
  refine bind_fields? hnamed (List.nodup_singleton inner) fun f _ hget => ?_
  have hfield := hget inner
  simp only [List.zip_cons_cons, List.lookup_cons, beq_self_eq_true] at hfield
  rw [Fields.orDefault_of hfield, h.readBack_eq]

theorem orNull?_settled {read? : Json → Option α} {x : α}
    (h : read? (Json.object [(inner, encode x)]).settled = some x) :
    orNull? read? (Json.object [(inner, encode x)]).settled = some (some x) := by
  rw [settled] at h ⊢
  simp [orNull?, h]

variable {f : Fields} {x : Option α} {read? : Json → Option α}

/-- A box that may be absent is read by whatever reads the box. -/
theorem Fields.optionalBy_of
    (hread : ∀ v ∈ x, read? (Json.object [(inner, encode v)]).settled = some v)
    (hplace : f.byPlace = false) (h : f.get? name = settledValue (boxIfAny key inner x)) :
    f.optionalBy name read? = some x := by
  unfold optionalBy
  rw [h, hplace]
  cases x with
  | none => rfl
  | some x => exact orNull?_settled (hread x rfl)

theorem Fields.orDefaultBy_none_of
    (hread : ∀ v ∈ x, read? (Json.object [(inner, encode v)]).settled = some v)
    (h : f.get? name = settledValue (boxIfAny key inner x)) :
    f.orDefaultBy name none (orNull? read?) = some x := by
  unfold orDefaultBy
  rw [h]
  cases x with
  | none => rfl
  | some x => exact orNull?_settled (hread x rfl)

end Boxes

end Stevedore.Json
