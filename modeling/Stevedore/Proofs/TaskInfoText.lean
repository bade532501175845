import Stevedore.Manager.Launch
import Stevedore.Proofs.MapText
import Stevedore.Proofs.RecordText

/-!
# Task descriptions read back

Every part of a task description but its amounts of resources survives its text: an absent part is
told apart from a part without content, and a list without items is left out and read back as one.
A description therefore survives if its amounts do (`TaskInfo.survives`).
-/

namespace Stevedore.Manager

open Json
open Json.Fields (required_of optional_of orDefault_of orDefault_none_of orDefault_nil_of
  optional_of_survives orDefault_nil_of_survives optionalBy_of)

/-! ### Names -/

instance : Lossless ResourceKind where
  readBack_eq k := choice?_name (by cases k <;> decide) (by decide)
  settled_ne_null k := by
    show Json.text k.name ≠ .null
    simp

instance : Lossless ContainerKind where
  readBack_eq k := choice?_name (by cases k <;> decide) (by decide)
  settled_ne_null k := by
    show Json.text k.name ≠ .null
    simp

instance : Lossless MountMode where
  readBack_eq m := choice?_name (by cases m <;> decide) (by decide)
  settled_ne_null m := by
    show Json.text m.name ≠ .null
    simp

instance : Lossless NetworkKind where
  readBack_eq k := choice?_name (by cases k <;> decide) (by decide)
  settled_ne_null k := by
    show Json.text k.name ≠ .null
    simp

instance : Lossless DiscoveryScope where
  readBack_eq s := choice?_name (by cases s <;> decide) (by decide)
  settled_ne_null s := by
    show Json.text s.name ≠ .null
    simp

/-! ### Common parts -/

instance : Lossless Id where
  readBack_eq id := by
    have hvalue : unbox? "value" (encode id).settled = some id.value :=
      unbox?_settled (survives id.value)
    exact congrArg (Option.map Id.mk) hvalue
  settled_ne_null _ := settled_record_ne_null _

instance : Lossless Range where
  readBack_eq r := by
    show (fields? _ (record _).settled >>= _) = _
    refine bind_fields? (.cons named_field (.cons named_field .nil)) (by decide) fun f _ hget => ?_
    simp only [required_of (hget "begin"), required_of (hget "end"), readBack_eq]
    rfl
  settled_ne_null _ := settled_record_ne_null _

instance : Lossless Label where
  readBack_eq l := by
    show (fields? _ (record _).settled >>= _) = _
    refine bind_fields? (.cons named_field (.cons named_fieldIfAny .nil)) (by decide)
      fun f hplace hget => ?_
    simp only [required_of (hget "key"), optional_of hplace (hget "value"), readBack_eq]
    rfl
  settled_ne_null _ := settled_record_ne_null _

instance : Lossless Address where
  readBack_eq a := by
    show (fields? _ (record _).settled >>= _) = _
    refine bind_fields? (.cons named_fieldIfAny .nil) (by decide) fun f hplace hget => ?_
    simp only [optional_of hplace (hget "ip_address")]
    rfl
  settled_ne_null _ := settled_record_ne_null _

instance : Lossless Network where
  readBack_eq n := by
    show (fields? _ (record _).settled >>= _) = _
    refine bind_fields? (.cons named_fieldIfAny (.cons named_fieldUnlessEmpty .nil)) (by decide)
      fun f hplace hget => ?_
    simp only [optional_of hplace (hget "name"), orDefault_nil_of (hget "ip_addresses")]
    rfl
  settled_ne_null _ := settled_record_ne_null _

/-! ### Parts of a description -/

instance : Lossless CommandUri where
  readBack_eq u := by
    show (fields? _ (record _).settled >>= _) = _
    refine bind_fields?
      (.cons named_field (.cons named_field (.cons named_field (.cons named_field
        (.cons named_fieldIfAny .nil)))))
      (by decide) fun f hplace hget => ?_
    simp only [required_of (hget "value"), required_of (hget "extract"),
      required_of (hget "executable"), required_of (hget "cache"),
      optional_of hplace (hget "output_file"), readBack_eq]
    rfl
  settled_ne_null _ := settled_record_ne_null _

instance : Lossless Variable where
  readBack_eq v := by
    show (fields? _ (record _).settled >>= _) = _
    refine bind_fields? (.cons named_field (.cons named_field .nil)) (by decide) fun f _ hget => ?_
    simp only [required_of (hget "name"), required_of (hget "value"), readBack_eq]
    rfl
  settled_ne_null _ := settled_record_ne_null _

instance : Lossless CommandInfo where
  readBack_eq c := by
    show (fields? _ (record _).settled >>= _) = _
    refine bind_fields?
      (.cons named_field (.cons named_fieldIfAny (.cons named_fieldUnlessEmpty
        (.cons named_fieldUnlessEmpty (.cons named_boxIfAny .nil)))))
      (by decide) fun f hplace hget => ?_
    simp only [required_of (hget "shell"), optional_of hplace (hget "value"),
      orDefault_nil_of (hget "arguments"), orDefault_nil_of (hget "uris"),
      optionalBy_of (fun v _ => unboxOr?_settled (survives v)) hplace (hget "environment"),
      readBack_eq]
    rfl
  settled_ne_null _ := settled_record_ne_null _

instance : Lossless NamedVolume where
  readBack_eq v := by
    show (fields? _ (record _).settled >>= _) = _
    refine bind_fields? (.cons named_fieldIfAny (.cons named_field .nil)) (by decide)
      fun f hplace hget => ?_
    simp only [optional_of hplace (hget "driver"), required_of (hget "name"), readBack_eq]
    rfl
  settled_ne_null _ := settled_record_ne_null _

instance : Lossless MountSource where
  readBack_eq s := by
    show (fields? _ (record _).settled >>= _) = _
    refine bind_fields? (.cons named_field (.cons named_fieldIfAny .nil)) (by decide)
      fun f hplace hget => ?_
    rw [hget "type", optional_of hplace (hget "docker_volume")]
    rfl
  settled_ne_null _ := settled_record_ne_null _

instance : Lossless Mount where
  readBack_eq m := by
    show (fields? _ (record _).settled >>= _) = _
    refine bind_fields? (.cons named_field (.cons named_field (.cons named_fieldIfAny .nil)))
      (by decide) fun f hplace hget => ?_
    simp only [required_of (hget "container_path"), required_of (hget "mode"),
      optional_of hplace (hget "source"), readBack_eq]
    rfl
  settled_ne_null _ := settled_record_ne_null _

instance : Lossless PublishedPort where
  readBack_eq p := by
    show (fields? _ (record _).settled >>= _) = _
    refine bind_fields? (.cons named_field (.cons named_field (.cons named_fieldIfAny .nil)))
      (by decide) fun f hplace hget => ?_
    simp only [required_of (hget "host_port"), required_of (hget "container_port"),
      optional_of hplace (hget "protocol"), readBack_eq]
    rfl
  settled_ne_null _ := settled_record_ne_null _

instance : Lossless DockerInfo where
  readBack_eq d := by
    show (fields? _ (record _).settled >>= _) = _
    refine bind_fields?
      (.cons named_field (.cons named_field (.cons named_fieldUnlessEmpty (.cons named_field
        (.cons named_fieldUnlessEmpty (.cons named_field .nil))))))
      (by decide) fun f _ hget => ?_
    simp only [required_of (hget "image"), required_of (hget "network"),
      orDefault_nil_of (hget "port_mappings"), orDefault_of (hget "privileged"),
      orDefault_nil_of (hget "parameters"), orDefault_of (hget "force_pull_image"), readBack_eq]
    rfl
  settled_ne_null _ := settled_record_ne_null _

instance : Lossless ContainerInfo where
  readBack_eq c := by
    show (fields? _ (record _).settled >>= _) = _
    refine bind_fields?
      (.cons named_field (.cons named_fieldUnlessEmpty (.cons named_fieldIfAny
        (.cons named_fieldIfAny (.cons named_fieldUnlessEmpty .nil)))))
      (by decide) fun f hplace hget => ?_
    simp only [required_of (hget "type"), orDefault_nil_of (hget "volumes"),
      optional_of hplace (hget "hostname"), optional_of hplace (hget "docker"),
      orDefault_nil_of (hget "network_infos"), readBack_eq]
    rfl
  settled_ne_null _ := settled_record_ne_null _

instance : Lossless ServicePort where
  readBack_eq p := by
    show (fields? _ (record _).settled >>= _) = _
    refine bind_fields? (.cons named_field (.cons named_fieldIfAny (.cons named_fieldIfAny .nil)))
      (by decide) fun f hplace hget => ?_
    simp only [required_of (hget "number"), optional_of hplace (hget "name"),
      optional_of hplace (hget "protocol"), readBack_eq]
    rfl
  settled_ne_null _ := settled_record_ne_null _

instance : Lossless DiscoveryInfo where
  readBack_eq d := by
    show (fields? _ (record _).settled >>= _) = _
    refine bind_fields? (.cons named_field (.cons named_fieldIfAny (.cons named_boxIfAny .nil)))
      (by decide) fun f hplace hget => ?_
    simp only [required_of (hget "visibility"), optional_of hplace (hget "name"),
      optionalBy_of (fun v _ => unboxOr?_settled (survives v)) hplace (hget "ports"), readBack_eq]
    rfl
  settled_ne_null _ := settled_record_ne_null _

/-! ### Amounts -/

/-- The doubles in a resource. -/
def Resource.amounts (r : Resource) : List Binary64 := r.scalar.toList

/-- The doubles in a description. -/
def TaskInfo.amounts (t : TaskInfo) : List Binary64 :=
  t.resources.flatMap Resource.amounts ++ t.limits.entries.map (·.2.value)

theorem Resource.survives {r : Resource} (h : ∀ x ∈ r.amounts, Survives x) : Survives r := by
  refine ⟨?_, settled_record_ne_null _⟩
  show (fields? _ (record _).settled >>= _) = _
  refine bind_fields?
    (.cons named_field (.cons named_field (.cons named_boxIfAny (.cons named_boxIfAny .nil))))
    (by decide) fun f hplace hget => ?_
  have hscalar : ∀ v ∈ r.scalar, Survives v := fun v hv => h v (by simpa [amounts] using hv)
  simp only [required_of (hget "name"), required_of (hget "type"),
    optionalBy_of (fun v hv => unbox?_settled (hscalar v hv)) hplace (hget "scalar"),
    optionalBy_of (fun v _ => unboxOr?_settled (Json.survives v)) hplace (hget "ranges"),
    readBack_eq]
  rfl

theorem Limit.survives {l : Limit} (h : Survives l.value) : Survives l := by
  have hvalue : unbox? "value" (encode l).settled = some l.value := unbox?_settled h
  exact ⟨congrArg (Option.map Limit.mk) hvalue, settled_record_ne_null _⟩

/-- The limits of a description are left out if there are none. -/
theorem orDefault_limits {f : Fields} {limits : KeyMap Limit} (h : Survives limits)
    (hget : f.get? "limits" = settledValue
      (if limits.isEmpty then none else field "limits" limits)) :
    f.orDefault "limits" ∅ = some limits := by
  by_cases hempty : limits.isEmpty
  · have hnone : limits = ∅ := by
      obtain ⟨entries, hascending⟩ := limits
      obtain rfl : entries = [] := by simpa [KeyMap.isEmpty] using hempty
      rfl
    rw [if_pos hempty] at hget
    simp [Fields.orDefault, hget, settledValue, hnone]
  · rw [if_neg hempty] at hget
    rw [orDefault_of hget, h.readBack_eq]

/-- **A description survives if its amounts do.** -/
theorem TaskInfo.survives {t : TaskInfo} (h : ∀ x ∈ t.amounts, Survives x) : Survives t := by
  refine ⟨?_, settled_record_ne_null _⟩
  have hresources : Survives t.resources := survives_list fun r hr => Resource.survives fun x hx =>
    h x (by simpa [amounts] using .inl ⟨r, hr, hx⟩)
  have hlimits : Survives t.limits := survives_keyMap fun e he => Limit.survives (h _ (by
    simpa [amounts] using .inr ⟨_, _, he, rfl⟩))
  have hnamed : Named "limits" (if t.limits.isEmpty then none else field "limits" t.limits) := by
    split
    · simp [Named]
    · exact named_field
  show (fields? _ (record _).settled >>= _) = _
  refine bind_fields?
    (.cons named_field (.cons named_field (.cons named_field (.cons named_field
      (.cons named_fieldIfAny (.cons named_fieldIfAny (.cons named_fieldIfAny
        (.cons named_boxIfAny (.cons hnamed .nil)))))))))
    (by decide) fun f hplace hget => ?_
  simp only [required_of (hget "name"), required_of (hget "task_id"), required_of (hget "agent_id"),
    orDefault_of (hget "resources"), hresources.readBack_eq, optional_of hplace (hget "command"),
    optional_of hplace (hget "container"), optional_of hplace (hget "discovery"),
    optionalBy_of (fun v _ => unboxOr?_settled (Json.survives v)) hplace (hget "labels"),
    orDefault_limits hlimits (hget "limits"), readBack_eq]
  rfl

end Stevedore.Manager
