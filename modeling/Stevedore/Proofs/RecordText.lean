import Stevedore.Proofs.Lossless
import Stevedore.Store.Records

/-!
# Stored records read back

Every part of a task record but its amounts of resources survives its text, and so do the identity
and the settings of a framework; the amounts survive if they are finite. A record whose amounts are
finite is therefore read back as it was written, and no other record is read back at all
(`readBack_taskRecord`).
-/

namespace Stevedore

open Json
open Json.Fields (readBackAny required_of optional_of orDefault_of orDefault_none_of
  orDefault_nil_of optional_eq_readBackAny)

/-! ### Names -/

instance : Lossless TaskState where
  readBack_eq s := choice?_name (by cases s <;> decide) (by decide)
  settled_ne_null s := by
    show Json.text s.name ≠ .null
    simp

instance : Lossless NetworkMode where
  readBack_eq m := choice?_name (by cases m <;> decide) (by decide)
  settled_ne_null m := by
    show Json.text m.name ≠ .null
    simp

instance : Lossless VolumeMode where
  readBack_eq m := choice?_name (by cases m <;> decide) (by decide)
  settled_ne_null m := by
    show Json.text m.name ≠ .null
    simp

instance : Lossless Visibility where
  readBack_eq v := choice?_name (by cases v <;> decide) (by decide)
  settled_ne_null v := by
    show Json.text v.name ≠ .null
    simp

/-! ### Parts of a record -/

instance : Lossless KeyValue where
  readBack_eq kv := by
    show (fields? _ (record _).settled >>= _) = _
    refine bind_fields? (.cons named_field (.cons named_field .nil)) (by decide) fun f _ hget => ?_
    simp only [required_of (hget "key"), required_of (hget "value"), readBack_eq]
    rfl
  settled_ne_null _ := settled_record_ne_null _

instance : Lossless PortMapping where
  readBack_eq p := by
    show (fields? _ (record _).settled >>= _) = _
    refine bind_fields? (.cons named_field (.cons named_field (.cons named_field .nil))) (by decide)
      fun f _ hget => ?_
    simp only [required_of (hget "hostPort"), required_of (hget "containerPort"),
      required_of (hget "protocol"), readBack_eq]
    rfl
  settled_ne_null _ := settled_record_ne_null _

instance : Lossless Parameter where
  readBack_eq p := by
    show (fields? _ (record _).settled >>= _) = _
    refine bind_fields? (.cons named_field (.cons named_field .nil)) (by decide) fun f _ hget => ?_
    simp only [required_of (hget "key"), required_of (hget "value"), readBack_eq]
    rfl
  settled_ne_null _ := settled_record_ne_null _

instance : Lossless Volume where
  readBack_eq v := by
    show (fields? _ (record _).settled >>= _) = _
    refine bind_fields?
      (.cons named_field (.cons named_field (.cons named_field (.cons named_field .nil))))
      (by decide) fun f _ hget => ?_
    simp only [required_of (hget "containerPath"), orDefault_of (hget "mode"),
      required_of (hget "driver"), required_of (hget "name"), readBack_eq]
    rfl
  settled_ne_null _ := settled_record_ne_null _

instance : Lossless Artifact where
  readBack_eq a := by
    show (fields? _ (record _).settled >>= _) = _
    refine bind_fields?
      (.cons named_field (.cons named_field (.cons named_field (.cons named_field
        (.cons named_fieldIfAny .nil)))))
      (by decide) fun f hplace hget => ?_
    simp only [required_of (hget "value"), orDefault_of (hget "extract"),
      orDefault_of (hget "executable"), orDefault_of (hget "cache"),
      optional_of hplace (hget "outputFile"), readBack_eq]
    rfl
  settled_ne_null _ := settled_record_ne_null _

instance : Lossless ContainerSpec where
  readBack_eq c := by
    show (fields? _ (record _).settled >>= _) = _
    refine bind_fields?
      (.cons named_field (.cons named_fieldIfAny (.cons named_field (.cons named_fieldUnlessEmpty
        (.cons named_field (.cons named_field (.cons named_field (.cons named_fieldIfAny
          (.cons named_fieldUnlessEmpty (.cons named_fieldUnlessEmpty (.cons named_fieldUnlessEmpty
            (.cons named_fieldUnlessEmpty (.cons named_fieldUnlessEmpty
              (.cons named_field .nil))))))))))))))
      (by decide) fun f hplace hget => ?_
    simp only [required_of (hget "image"), optional_of hplace (hget "command"),
      orDefault_of (hget "shell"), orDefault_nil_of (hget "arguments"),
      orDefault_of (hget "privileged"), orDefault_of (hget "hostname"),
      orDefault_of (hget "network"), optional_of hplace (hget "networkName"),
      orDefault_nil_of (hget "ports"), orDefault_nil_of (hget "parameters"),
      orDefault_nil_of (hget "volumes"), orDefault_nil_of (hget "env"),
      orDefault_nil_of (hget "uris"), orDefault_of (hget "forcePull"), readBack_eq]
    rfl
  settled_ne_null _ := settled_record_ne_null _

instance : Lossless DiscoveryPort where
  readBack_eq p := by
    show (fields? _ (record _).settled >>= _) = _
    refine bind_fields? (.cons named_field (.cons named_field (.cons named_field .nil))) (by decide)
      fun f _ hget => ?_
    simp only [required_of (hget "number"), required_of (hget "name"),
      required_of (hget "protocol"), readBack_eq]
    rfl
  settled_ne_null _ := settled_record_ne_null _

instance : Lossless Discovery where
  readBack_eq d := by
    show (fields? _ (record _).settled >>= _) = _
    refine bind_fields? (.cons named_field (.cons named_field (.cons named_fieldUnlessEmpty .nil)))
      (by decide) fun f _ hget => ?_
    simp only [required_of (hget "name"), orDefault_of (hget "visibility"),
      orDefault_nil_of (hget "ports"), readBack_eq]
    rfl
  settled_ne_null _ := settled_record_ne_null _

instance : Lossless Workload where
  readBack_eq w := by
    rcases w with ⟨_ | _⟩ | _ | _ <;> rfl
  settled_ne_null w := by
    cases w <;> exact Json.noConfusion

instance : Lossless Identity where
  readBack_eq i := by
    show (fields? _ (record _).settled >>= _) = _
    refine bind_fields? (.cons named_fieldIfAny (.cons named_fieldIfAny .nil)) (by decide)
      fun f hplace hget => ?_
    simp only [optional_of hplace (hget "frameworkId"), orDefault_none_of (hget "mesosCni")]
    rfl
  settled_ne_null _ := settled_record_ne_null _

instance : Lossless Settings where
  readBack_eq s := by
    show (fields? _ (record _).settled >>= _) = _
    refine bind_fields? (.cons named_fieldIfAny (.cons named_fieldIfAny .nil)) (by decide)
      fun f hplace hget => ?_
    simp only [optional_of hplace (hget "serverUrl"), optional_of hplace (hget "serverPort")]
    rfl
  settled_ne_null _ := settled_record_ne_null _

/-! ### Amounts -/

theorem readBack_resources {r x : Resources} :
    readBack r = some x ↔
      (r.cpus.isFinite = true ∧ r.mem.isFinite = true ∧ r.disk.isFinite = true) ∧ r = x := by
  have hfields : readBack r = (do
      let cpus ← readBack r.cpus
      let mem ← readBack r.mem
      let disk ← readBack r.disk
      return { cpus, mem, disk }) := by
    show (fields? _ (record _).settled >>= _) = _
    refine bind_fields? (.cons named_field (.cons named_field (.cons named_field .nil))) (by decide)
      fun f _ hget => ?_
    simp only [required_of (hget "cpus"), required_of (hget "mem"), required_of (hget "disk")]
  rw [hfields, readBack_double, readBack_double, readBack_double]
  by_cases hcpus : r.cpus.isFinite <;> by_cases hmem : r.mem.isFinite <;>
    by_cases hdisk : r.disk.isFinite <;> simp [hcpus, hmem, hdisk]

theorem readBack_limits {l x : Limits} :
    readBack l = some x ↔ (l.cpus.isFinite = true ∧ l.mem.isFinite = true) ∧ l = x := by
  have hfields : readBack l = (do
      let cpus ← readBack l.cpus
      let mem ← readBack l.mem
      return { cpus, mem }) := by
    show (fields? _ (record _).settled >>= _) = _
    refine bind_fields? (.cons named_field (.cons named_field .nil)) (by decide) fun f _ hget => ?_
    simp only [required_of (hget "cpus"), required_of (hget "mem")]
  rw [hfields, readBack_double, readBack_double]
  by_cases hcpus : l.cpus.isFinite <;> by_cases hmem : l.mem.isFinite <;> simp [hcpus, hmem]

theorem settled_limits_ne_null (l : Limits) : (encode l).settled ≠ .null :=
  settled_record_ne_null _

theorem readBackAny_limits {l x : Option Limits} :
    readBackAny l = some x ↔
      (∀ v, l = some v → v.cpus.isFinite = true ∧ v.mem.isFinite = true) ∧ l = x := by
  cases l with
  | none => simp [readBackAny]
  | some v =>
    rw [readBackAny, Option.map_eq_some_iff]
    simp [readBack_limits, and_assoc]

/-! ### Records -/

/-- A record that asks for finite amounts of everything. -/
structure TaskRecord.Finite (r : TaskRecord) : Prop where
  cpus : r.resources.cpus.isFinite = true
  mem : r.resources.mem.isFinite = true
  disk : r.resources.disk.isFinite = true
  limits : ∀ l, r.limits = some l → l.cpus.isFinite = true ∧ l.mem.isFinite = true

/-- **What is read back of a stored record** is the record, and only if its amounts are finite. -/
theorem readBack_taskRecord {r x : TaskRecord} : readBack r = some x ↔ r.Finite ∧ r = x := by
  have hfields : readBack r = (do
      let resources ← readBack r.resources
      let limits ← readBackAny r.limits
      return { r with resources, limits }) := by
    show (fields? _ (record _).settled >>= _) = _
    refine bind_fields?
      (.cons named_field (.cons named_field (.cons named_field (.cons named_field
        (.cons named_field (.cons named_fieldIfAny (.cons named_field (.cons named_field
          (.cons named_fieldUnlessEmpty (.cons named_field (.cons named_field
            (.cons named_fieldIfAny (.cons named_fieldIfAny (.cons named_fieldIfAny
              (.cons named_field (.cons named_field .nil))))))))))))))))
      (by decide) fun f hplace hget => ?_
    simp only [required_of (hget "id"), required_of (hget "name"), required_of (hget "framework"),
      required_of (hget "workload"), required_of (hget "resources"),
      optional_eq_readBackAny settled_limits_ne_null hplace (hget "limits"),
      required_of (hget "container"), required_of (hget "discovery"),
      orDefault_nil_of (hget "labels"), required_of (hget "instances"),
      orDefault_of (hget "state"), optional_of hplace (hget "agentId"),
      optional_of hplace (hget "agentHostname"), optional_of hplace (hget "address"),
      required_of (hget "createdAt"), required_of (hget "updatedAt"), readBack_eq]
    rfl
  constructor
  · intro h
    rw [hfields] at h
    obtain ⟨resources, hresources, h⟩ := Option.bind_eq_some_iff.1 h
    obtain ⟨limits, hlimits, h⟩ := Option.bind_eq_some_iff.1 h
    obtain ⟨⟨hcpus, hmem, hdisk⟩, rfl⟩ := readBack_resources.1 hresources
    obtain ⟨hbounds, rfl⟩ := readBackAny_limits.1 hlimits
    exact ⟨⟨hcpus, hmem, hdisk, hbounds⟩, Option.some.inj h⟩
  · rintro ⟨h, rfl⟩
    rw [hfields, readBack_resources.2 ⟨⟨h.cpus, h.mem, h.disk⟩, rfl⟩,
      readBackAny_limits.2 ⟨h.limits, rfl⟩]
    rfl

namespace Records

theorem ofStored?_render {α : Type} [Coded α] (x : α) :
    ofStored? (encode x).render = readBack x := by
  unfold ofStored?
  rw [parse?_render]
  rfl

/-- A record with finite amounts is read back as it was written. -/
theorem ofStored?_render_of_finite {r : TaskRecord} (h : r.Finite) :
    ofStored? (encode r).render = some r := by
  rw [ofStored?_render, readBack_taskRecord]
  exact ⟨h, rfl⟩

/-- What is read back of a record is this record. -/
theorem eq_of_ofStored?_render {r x : TaskRecord} (h : ofStored? (encode r).render = some x) :
    r = x := by
  rw [ofStored?_render, readBack_taskRecord] at h
  exact h.2

/-- Only a record with finite amounts is read back. -/
theorem finite_of_ofStored?_render {r x : TaskRecord}
    (h : ofStored? (encode r).render = some x) : r.Finite := by
  rw [ofStored?_render, readBack_taskRecord] at h
  exact h.1

/-! ### Texts that are no records -/

/-- An object without an id is no record. -/
theorem ofJson?_object_eq_none {members : List (String × Json)} (h : ∀ m ∈ members, m.1 ≠ "id") :
    TaskRecord.ofJson? (.object members) = none := by
  show (fields? _ (.object members) >>= _) = none
  cases hf : fields? _ (.object members) with
  | none => rfl
  | some f =>
    have hid : f.required "id" = (none : Option String) := by
      unfold Fields.required
      rw [get?_eq_none_of_object hf h]
      rfl
    show (f.required "id" >>= _) = none
    rw [hid]
    rfl

/-- A value that is written as an object without an id leaves no record behind. -/
theorem ofStored?_eq_none {α : Type} [Coded α] {x : α} {members : List (Option (String × Json))}
    {names : List String} (hx : encode x = record members)
    (hnames : List.Forall₂ Named names members) (hid : "id" ∉ names) :
    (ofStored? (encode x).render : Option TaskRecord) = none := by
  have hparse : (ofStored? (encode x).render : Option TaskRecord) =
      TaskRecord.ofJson? (.object (settledMembers (members.filterMap id))) := by
    unfold ofStored?
    rw [parse?_render, hx, record, settled]
    rfl
  rw [hparse]
  refine ofJson?_object_eq_none fun m hm heq => hid ?_
  have hkey : m.1 ∈ (members.filterMap id).map (·.1) := by
    rw [settledMembers_eq_map] at hm
    obtain ⟨n, hn, rfl⟩ := List.mem_map.1 hm
    exact List.mem_map.2 ⟨n, hn, rfl⟩
  exact heq ▸ (keys_sublist hnames).subset hkey

theorem ofStored?_settings (s : Settings) :
    (ofStored? (encode s).render : Option TaskRecord) = none :=
  ofStored?_eq_none rfl (.cons named_fieldIfAny (.cons named_fieldIfAny .nil)) (by decide)

theorem ofStored?_identity (i : Identity) :
    (ofStored? (encode i).render : Option TaskRecord) = none :=
  ofStored?_eq_none rfl (.cons named_fieldIfAny (.cons named_fieldIfAny .nil)) (by decide)

end Records

end Stevedore
