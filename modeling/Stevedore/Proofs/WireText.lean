import Stevedore.Manager.Call
import Stevedore.Manager.Event
import Stevedore.Proofs.SavedRecords
import Stevedore.Proofs.TaskInfoText
import Stevedore.Proofs.Utf8Text

/-!
# Calls and messages read back

What goes over the wire says all there is to say: from the bytes of a call or a message the same
call or message is read, whatever parts it has and leaves out, and so is the description of every
stored task (`wire_text_read_back`), if the doubles in them are finite.
-/

namespace Stevedore

namespace Json

/-- The bytes of a value's text. -/
def bytes {α : Type} [Coded α] (x : α) : List UInt8 := Text.encode (encode x).render

/-- A value that is read from the bytes of its text. -/
def IsReadBack {α : Type} [Coded α] (x : α) : Prop := (parseBytes? (bytes x)).bind decode? = some x

theorem bind_parseBytes?_bytes {α : Type} [Coded α] (x : α) :
    (parseBytes? (bytes x)).bind decode? = readBack x := by
  have hparse : parseBytes? (bytes x) = parse? (encode x).render := by
    rw [parseBytes?, bytes, Text.symbols_encode, parse?]
  rw [hparse, parse?_render]
  rfl

theorem Survives.isReadBack {α : Type} [Coded α] {x : α} (h : Survives x) : IsReadBack x :=
  (bind_parseBytes?_bytes x).trans h.readBack_eq

end Json

namespace Manager

open Json
open Json.Fields (required_of optional_of orDefault_of orDefault_none_of orDefault_nil_of
  optional_of_survives orDefault_none_of_survives orDefault_nil_of_survives optionalBy_of
  orDefaultBy_none_of)

/-! ### Messages -/

/-- Every name of a kind stands for it, that of the unknown kind included. -/
theorem EventKind.ofName_name (kind : EventKind) : ofName kind.name = kind := by
  cases kind <;> decide

instance : Lossless EventKind where
  readBack_eq kind := congrArg some (EventKind.ofName_name kind)
  settled_ne_null k := by
    show Json.text k.name ≠ .null
    simp

instance : Lossless TaskStatus where
  readBack_eq s := by
    show (fields? _ (record _).settled >>= _) = _
    refine bind_fields?
      (.cons named_field (.cons named_field (.cons named_fieldIfAny (.cons named_fieldIfAny
        (.cons named_fieldIfAny (.cons named_fieldIfAny (.cons named_fieldIfAny
          (.cons named_boxIfAny .nil))))))))
      (by decide) fun f _ hget => ?_
    simp only [required_of (hget "task_id"), required_of (hget "state"),
      orDefault_none_of (hget "agent_id"), orDefault_none_of (hget "uuid"),
      orDefault_none_of (hget "message"), orDefault_none_of (hget "reason"),
      orDefault_none_of (hget "source"),
      orDefaultBy_none_of (fun v _ => unboxOr?_settled (survives v)) (hget "container_status"),
      readBack_eq]
    rfl
  settled_ne_null _ := settled_record_ne_null _

/-- The doubles in a subscription. -/
def Subscribed.amounts (s : Subscribed) : List Binary64 := s.heartbeatIntervalSeconds.toList

/-- The doubles in an offer. -/
def Offer.amounts (o : Offer) : List Binary64 := o.resources.flatMap Resource.amounts

/-- The doubles in a message. -/
def Message.amounts (m : Message) : List Binary64 :=
  m.subscribed.toList.flatMap Subscribed.amounts ++ (m.offers.getD []).flatMap Offer.amounts

theorem Subscribed.survives {s : Subscribed} (h : ∀ x ∈ s.amounts, Survives x) : Survives s := by
  refine ⟨?_, settled_record_ne_null _⟩
  show (fields? _ (record _).settled >>= _) = _
  refine bind_fields? (.cons named_field (.cons named_fieldIfAny .nil)) (by decide)
    fun f _ hget => ?_
  have hinterval : ∀ v ∈ s.heartbeatIntervalSeconds, Survives v := fun v hv =>
    h v (by simpa [amounts] using hv)
  simp only [required_of (hget "framework_id"),
    orDefault_none_of_survives hinterval (hget "heartbeat_interval_seconds"), readBack_eq]
  rfl

theorem survives_resources {resources : List Resource}
    (h : ∀ x ∈ resources.flatMap Resource.amounts, Survives x) : Survives resources :=
  survives_list fun _ hr => Resource.survives fun _ hx => h _ (List.mem_flatMap_of_mem hr hx)

theorem Offer.survives {o : Offer} (h : ∀ x ∈ o.amounts, Survives x) : Survives o := by
  refine ⟨?_, settled_record_ne_null _⟩
  show (fields? _ (record _).settled >>= _) = _
  refine bind_fields?
    (.cons named_field (.cons named_field (.cons named_field (.cons named_field
      (.cons named_field .nil)))))
    (by decide) fun f _ hget => ?_
  simp only [required_of (hget "id"), required_of (hget "framework_id"),
    required_of (hget "agent_id"), required_of (hget "hostname"), orDefault_of (hget "resources"),
    (survives_resources h).readBack_eq, readBack_eq]
  rfl

/-- **A message survives if its amounts do.** -/
theorem Message.survives {m : Message} (h : ∀ x ∈ m.amounts, Survives x) : Survives m := by
  refine ⟨?_, settled_record_ne_null _⟩
  have hsubscribed : ∀ s ∈ m.subscribed, Survives s := fun s hs => Subscribed.survives fun x hx =>
    h x (List.mem_append_left _ (List.mem_flatMap_of_mem (by simpa using hs) hx))
  have hoffers : ∀ os ∈ m.offers, Survives os := fun os hos => survives_list fun o ho =>
    Offer.survives fun x hx => h x (List.mem_append_right _ (List.mem_flatMap_of_mem
      (by simpa [Option.mem_def.1 hos] using ho) hx))
  show (fields? _ (record _).settled >>= _) = _
  refine bind_fields?
    (.cons named_field (.cons named_fieldIfAny (.cons named_boxIfAny (.cons named_boxIfAny
      (.cons named_boxIfAny (.cons named_boxIfAny .nil))))))
    (by decide) fun f _ hget => ?_
  simp only [required_of (hget "type"), orDefault_none_of_survives hsubscribed (hget "subscribed"),
    orDefaultBy_none_of (fun v hv => unboxOr?_settled (hoffers v hv)) (hget "offers"),
    orDefaultBy_none_of (fun v _ => unbox?_settled (Json.survives v)) (hget "update"),
    orDefaultBy_none_of (fun v _ => unbox?_settled (Json.survives v)) (hget "rescind"),
    orDefaultBy_none_of (fun v _ => unbox?_settled (Json.survives v)) (hget "error"), readBack_eq]
  rfl

/-! ### Calls -/

instance : Lossless CallKind where
  readBack_eq k := choice?_name (by cases k <;> decide) (by decide)
  settled_ne_null k := by
    show Json.text k.name ≠ .null
    simp

instance : Lossless Capability where
  readBack_eq c := by
    have hname : unbox? "type" (encode c).settled = some c.name := unbox?_settled (survives c.name)
    exact congrArg (Option.map Capability.mk) hname
  settled_ne_null _ := settled_record_ne_null _

instance : Lossless TaskAt where
  readBack_eq t := by
    show (fields? _ (record _).settled >>= _) = _
    refine bind_fields? (.cons named_field (.cons named_fieldIfAny .nil)) (by decide)
      fun f hplace hget => ?_
    simp only [required_of (hget "task_id"), optional_of hplace (hget "agent_id"), readBack_eq]
    rfl
  settled_ne_null _ := settled_record_ne_null _

instance : Lossless Acknowledge where
  readBack_eq a := by
    show (fields? _ (record _).settled >>= _) = _
    refine bind_fields? (.cons named_field (.cons named_field (.cons named_field .nil))) (by decide)
      fun f _ hget => ?_
    simp only [required_of (hget "agent_id"), required_of (hget "task_id"),
      required_of (hget "uuid"), readBack_eq]
    rfl
  settled_ne_null _ := settled_record_ne_null _

/-- The doubles in an introduction. -/
def FrameworkInfo.amounts (i : FrameworkInfo) : List Binary64 := i.failoverTimeout.toList

/-- The doubles in what is done with an offer. -/
def Operation.amounts (o : Operation) : List Binary64 := (o.launch.getD []).flatMap TaskInfo.amounts

/-- The doubles in a filter. -/
def Filters.amounts (f : Filters) : List Binary64 := f.refuseSeconds.toList

/-- The doubles in the use of offers. -/
def Accept.amounts (a : Accept) : List Binary64 :=
  a.operations.flatMap Operation.amounts ++ a.filters.toList.flatMap Filters.amounts

/-- The doubles in the return of offers. -/
def Decline.amounts (d : Decline) : List Binary64 := d.filters.toList.flatMap Filters.amounts

/-- The doubles in a call. -/
def Call.amounts (c : Call) : List Binary64 :=
  c.subscribe.toList.flatMap FrameworkInfo.amounts ++ c.accept.toList.flatMap Accept.amounts ++
    c.decline.toList.flatMap Decline.amounts

theorem FrameworkInfo.survives {i : FrameworkInfo} (h : ∀ x ∈ i.amounts, Survives x) :
    Survives i := by
  refine ⟨?_, settled_record_ne_null _⟩
  have htimeout : ∀ v ∈ i.failoverTimeout, Survives v := fun v hv =>
    h v (by simpa [amounts] using hv)
  show (fields? _ (record _).settled >>= _) = _
  refine bind_fields?
    (.cons named_field (.cons named_field (.cons named_fieldIfAny (.cons named_fieldIfAny
      (.cons named_fieldIfAny (.cons named_fieldIfAny (.cons named_fieldIfAny
        (.cons named_fieldIfAny (.cons named_fieldIfAny (.cons named_fieldUnlessEmpty .nil))))))))))
    (by decide) fun f hplace hget => ?_
  simp only [required_of (hget "user"), required_of (hget "name"), optional_of hplace (hget "id"),
    optional_of_survives htimeout hplace (hget "failover_timeout"),
    optional_of hplace (hget "checkpoint"), optional_of hplace (hget "role"),
    optional_of hplace (hget "hostname"), optional_of hplace (hget "principal"),
    optional_of hplace (hget "webui_url"), orDefault_nil_of (hget "capabilities"), readBack_eq]
  rfl

theorem Operation.survives {o : Operation} (h : ∀ x ∈ o.amounts, Survives x) : Survives o := by
  refine ⟨?_, settled_record_ne_null _⟩
  have hlaunch : ∀ ts ∈ o.launch, Survives ts := fun ts hts => survives_list fun t ht =>
    TaskInfo.survives fun x hx => h x (List.mem_flatMap_of_mem
      (by simpa [Option.mem_def.1 hts] using ht) hx)
  show (fields? _ (record _).settled >>= _) = _
  refine bind_fields? (.cons named_field (.cons named_boxIfAny .nil)) (by decide)
    fun f hplace hget => ?_
  rw [hget "type", optionalBy_of (fun v hv => unbox?_settled (hlaunch v hv)) hplace (hget "launch")]
  rfl

theorem Filters.survives {filters : Filters} (h : ∀ x ∈ filters.amounts, Survives x) :
    Survives filters := by
  refine ⟨?_, settled_record_ne_null _⟩
  have hseconds : ∀ v ∈ filters.refuseSeconds, Survives v := fun v hv =>
    h v (by simpa [amounts] using hv)
  show (fields? _ (record _).settled >>= _) = _
  refine bind_fields? (.cons named_fieldIfAny .nil) (by decide) fun f hplace hget => ?_
  simp only [optional_of_survives hseconds hplace (hget "refuse_seconds")]
  rfl

/-- A part that may be absent survives if its amounts do. -/
theorem survives_of_mem {α β : Type} [Coded β] {amounts : β → List α} {P : α → Prop}
    {part : Option β} (hpart : ∀ v : β, (∀ x ∈ amounts v, P x) → Survives v)
    (h : ∀ x ∈ part.toList.flatMap amounts, P x) : ∀ v ∈ part, Survives v := fun v hv =>
  hpart v fun x hx => h x (List.mem_flatMap_of_mem (by simpa using hv) hx)

theorem Accept.survives {a : Accept} (h : ∀ x ∈ a.amounts, Survives x) : Survives a := by
  refine ⟨?_, settled_record_ne_null _⟩
  obtain ⟨hoperations, hfilters⟩ := List.forall_mem_append.1 h
  have hoperations : Survives a.operations := survives_list fun o ho =>
    Operation.survives fun x hx => hoperations x (List.mem_flatMap_of_mem ho hx)
  have hfilters := survives_of_mem (fun _ => Filters.survives) hfilters
  show (fields? _ (record _).settled >>= _) = _
  refine bind_fields? (.cons named_field (.cons named_field (.cons named_fieldIfAny .nil)))
    (by decide) fun f hplace hget => ?_
  simp only [required_of (hget "offer_ids"), required_of (hget "operations"),
    hoperations.readBack_eq, optional_of_survives hfilters hplace (hget "filters"), readBack_eq]
  rfl

theorem Decline.survives {d : Decline} (h : ∀ x ∈ d.amounts, Survives x) : Survives d := by
  refine ⟨?_, settled_record_ne_null _⟩
  have hfilters := survives_of_mem (fun _ => Filters.survives) h
  show (fields? _ (record _).settled >>= _) = _
  refine bind_fields? (.cons named_field (.cons named_fieldIfAny .nil)) (by decide)
    fun f hplace hget => ?_
  simp only [required_of (hget "offer_ids"),
    optional_of_survives hfilters hplace (hget "filters"), readBack_eq]
  rfl

/-- **A call survives if its amounts do.** -/
theorem Call.survives {c : Call} (h : ∀ x ∈ c.amounts, Survives x) : Survives c := by
  refine ⟨?_, settled_record_ne_null _⟩
  obtain ⟨h, hdecline⟩ := List.forall_mem_append.1 h
  obtain ⟨hsubscribe, haccept⟩ := List.forall_mem_append.1 h
  have hsubscribe := survives_of_mem (fun _ => FrameworkInfo.survives) hsubscribe
  have haccept := survives_of_mem (fun _ => Accept.survives) haccept
  have hdecline := survives_of_mem (fun _ => Decline.survives) hdecline
  show (fields? _ (record _).settled >>= _) = _
  refine bind_fields?
    (.cons named_fieldIfAny (.cons named_field (.cons named_boxIfAny (.cons named_fieldIfAny
      (.cons named_fieldIfAny (.cons named_fieldIfAny (.cons named_fieldIfAny
        (.cons named_boxIfAny .nil))))))))
    (by decide) fun f hplace hget => ?_
  simp only [optional_of hplace (hget "framework_id"), required_of (hget "type"),
    optionalBy_of (fun v hv => unbox?_settled (hsubscribe v hv)) hplace (hget "subscribe"),
    optional_of_survives haccept hplace (hget "accept"),
    optional_of_survives hdecline hplace (hget "decline"), optional_of hplace (hget "kill"),
    optional_of hplace (hget "acknowledge"),
    optionalBy_of (fun v _ => unboxOr?_settled (Json.survives v)) hplace (hget "reconcile"),
    readBack_eq]
  rfl

/-! ### Stored tasks -/

theorem entries_limitsOf (l : Limits) :
    (limitsOf (some l)).entries = [("cpus", ⟨l.cpus⟩), ("mem", ⟨l.mem⟩)] := by
  have horder : "cpus" < "mem" := by decide
  exact KeyMap.entries_ofList (List.pairwise_pair.2 horder)

/-- The description of a stored task has no doubles but the amounts of its record. -/
theorem amounts_ofRecord_subset (r : TaskRecord) (agent : Id) :
    (TaskInfo.ofRecord r agent).amounts ⊆ r.amounts := by
  have hresources : (resourcesOf r).flatMap Resource.amounts ⊆
      [r.resources.cpus, r.resources.mem, r.resources.disk] := by
    by_cases hdisk : r.resources.disk.isPositive <;>
      by_cases hports : (portRangesOf r.container).isEmpty <;>
        simp [resourcesOf, hdisk, hports, Resource.amounts, Resource.ofScalar, Resource.ofRanges]
  have hlimits : (limitsOf r.limits).entries.map (·.2.value) ⊆
      r.limits.toList.flatMap fun l => [l.cpus, l.mem] := by
    cases r.limits with
    | none => exact List.nil_subset _
    | some l => simp [entries_limitsOf]
  exact List.append_subset.2 ⟨fun x hx => List.mem_append_left _ (hresources hx),
    fun x hx => List.mem_append_right _ (hlimits hx)⟩

end Manager

open Json (IsReadBack bytes survives_double)
open Manager (Call Id Message TaskInfo)

/-- **What goes over the wire is read back**: every message, every call, and the description of
every stored task, if the doubles in it are finite. -/
theorem wire_text_read_back :
    (∀ m : Message, (∀ x ∈ m.amounts, x.isFinite = true) → Message.decode? (bytes m) = some m) ∧
    (∀ c : Call, (∀ x ∈ c.amounts, x.isFinite = true) → IsReadBack c) ∧
    ∀ (r : TaskRecord) (agent : Id), (∀ x ∈ r.amounts, x.isFinite = true) →
      IsReadBack (TaskInfo.ofRecord r agent) := by
  refine ⟨fun m h => ?_, fun c h => ?_, fun r agent h => ?_⟩
  · exact (Message.survives fun x hx => survives_double (h x hx)).isReadBack
  · exact (Call.survives fun x hx => survives_double (h x hx)).isReadBack
  · refine (TaskInfo.survives fun x hx => survives_double ?_).isReadBack
    exact h x (Manager.amounts_ofRecord_subset r agent hx)

/-- An agent with limits and half a processor is launched on an offer with two and a half. -/
theorem wire_text_read_back_launch :
    let r : TaskRecord :=
      { id := "a-1", name := "keel:agent", framework := "keel", workload := .agent
        resources := ⟨.ofDecimal false 5 (-1), 512, 0⟩
        limits := some ⟨.ofDecimal false 15 (-1), 1024⟩
        container :=
          { image := "rancher/k3s", command := none, shell := false, arguments := ["agent"]
            privileged := true, hostname := "", network := .bridge, networkName := none
            ports := [⟨31000, 10250, "tcp"⟩], parameters := []
            volumes := [⟨"/data", .readOnly, "", "k3s"⟩], env := [], uris := []
            forcePull := false }
        discovery := ⟨"", .external, []⟩
        labels := [⟨"zone", ""⟩], instances := 1, state := .new, agentId := none
        agentHostname := none, address := none, createdAt := 1, updatedAt := 2 }
    let t := TaskInfo.ofRecord r ⟨"agent-1"⟩
    let c := Call.launching ⟨"o-1"⟩ [t] (some 5)
    let m : Message :=
      { kind := .unknown, subscribed := some ⟨⟨"f-1"⟩, some 15⟩
        offers := some [⟨⟨"o-1"⟩, ⟨"f-1"⟩, ⟨"agent-1"⟩, "node-1",
          [.ofScalar "cpus" (.ofDecimal false 25 (-1)), .ofRanges "ports" []]⟩]
        update := none, rescind := some ⟨"o-1"⟩, error := some "" }
    Message.decode? (bytes m) = some m ∧ IsReadBack c ∧ IsReadBack t := by
  intro r t c m
  have hm : ∀ x ∈ m.amounts, x.isFinite = true := by decide +kernel
  have hc : ∀ x ∈ c.amounts, x.isFinite = true := by decide +kernel
  have hr : ∀ x ∈ r.amounts, x.isFinite = true := by decide +kernel
  exact ⟨wire_text_read_back.1 m hm, wire_text_read_back.2.1 c hc,
    wire_text_read_back.2.2 r _ hr⟩

end Stevedore
