import Stevedore.Proofs.Provision

/-!
# How many tasks of a role are stored

A tick stores at most one record of a role, and only if the role is short of records by the
configuration that it works on; nothing else that the scheduler does stores a new record. So the
number of records of a role is bounded by what ticks were asked for.
-/

namespace Stevedore

namespace Store.Memory

variable {m : Memory} {framework : String} {role : Role}

/-- The keys of a role's tasks that hold records. -/
def recordKeys (m : Memory) (framework : String) (role : Role) : List String :=
  (m.scan (Key.tasks framework role)).filter fun key => (m.record? key).isSome

theorem task_mem_recordKeys_iff {id : String} :
    Key.task framework role id ∈ m.recordKeys framework role ↔
      (m.record? (Key.task framework role id)).isSome := by
  unfold recordKeys
  rw [List.mem_filter, mem_scan_iff]
  refine ⟨And.right, fun h => ⟨⟨?_, Key.beginsWith_task_iff.2 ⟨id, rfl⟩⟩, h⟩⟩
  unfold record? at h
  cases hget : m.get? (Key.task framework role id) with
  | none => simp [hget] at h
  | some text => rfl

theorem length_roleRecords (m : Memory) (framework : String) (role : Role) :
    (m.roleRecords framework role).length = (m.recordKeys framework role).length := by
  rw [roleRecords, List.length_mergeSort, List.length_filterMap_eq_countP, recordKeys,
    List.countP_eq_length_filter]

/-- A role has no more records than there are keys in a list with all the keys that hold them. -/
theorem length_roleRecords_le {keys : List String}
    (h : ∀ id, (m.record? (Key.task framework role id)).isSome →
      Key.task framework role id ∈ keys) :
    (m.roleRecords framework role).length ≤ keys.length := by
  rw [length_roleRecords]
  refine (List.subperm_of_subset ((nodup_scan m _).filter _) fun key hkey => ?_).length_le
  obtain ⟨hscan, hrecord⟩ := List.mem_filter.1 hkey
  obtain ⟨id, rfl⟩ := Key.beginsWith_task_iff.1 (mem_scan_iff.1 hscan).2
  exact h id hrecord

end Store.Memory

namespace Scheduling

open Store (Memory)

variable {name : String} {store store' : Memory}

theorem Legible.count_eq (h : Legible name store) (role : Role) :
    store.count (Key.tasks name role) = (store.roleRecords name role).length := by
  have hall : store.recordKeys name role = store.scan (Key.tasks name role) := by
    unfold Memory.recordKeys
    rw [List.filter_eq_self]
    intro key hkey
    obtain ⟨hpresent, hbegins⟩ := Memory.mem_scan_iff.1 hkey
    obtain ⟨id, rfl⟩ := Key.beginsWith_task_iff.1 hbegins
    exact h hpresent
  rw [Memory.length_roleRecords, hall, Memory.length_scan]

/-- Where records are kept, all that are listed are counted, each for the role of its key. -/
theorem Kept.activeCount_eq (h : Kept name store) (role : Role) :
    activeCount (store.records name) role = (store.roleRecords name role).length := by
  have hfilter : ∀ other, (store.roleRecords name other).filter
      (fun r => r.role = role && !r.state.isTerminal) =
        if other = role then store.roleRecords name other else [] := by
    intro other
    have hmem : ∀ r ∈ store.roleRecords name other,
        r.role = other ∧ r.state.isTerminal = false := by
      intro r hr
      obtain ⟨id, hr⟩ := Memory.mem_roleRecords_iff.1 hr
      exact ⟨(h.own hr).2.1, h.alive hr⟩
    split
    · next heq =>
      rw [List.filter_eq_self]
      intro r hr
      simp [(hmem r hr).1, (hmem r hr).2, heq]
    · next hne =>
      rw [List.filter_eq_nil_iff]
      intro r hr
      simp [(hmem r hr).1, hne]
  unfold activeCount Memory.records
  rw [List.filter_flatMap]
  simp only [hfilter]
  cases role <;> simp [Role.all]

theorem Upkeep.length_roleRecords_le (h : Upkeep name store store') (role : Role) :
    (store'.roleRecords name role).length ≤ (store.roleRecords name role).length := by
  rw [store.length_roleRecords]
  refine Memory.length_roleRecords_le fun id hid => Memory.task_mem_recordKeys_iff.2 ?_
  obtain ⟨r', hr'⟩ := Option.isSome_iff_exists.1 hid
  obtain ⟨r, hr, -⟩ := h.follows hr'
  rw [hr]
  rfl

/-! ### Ticks -/

section Adds

variable {w w' : World} {records : List TaskRecord}

theorem Adds.length_roleRecords_le (h : Adds w records w')
    (hnew : ∀ r ∈ records, r.framework = w.framework) (role : Role) :
    (w'.store.roleRecords w'.framework role).length ≤
      (w.store.roleRecords w.framework role).length +
        (records.filter fun r => r.role = role).length := by
  have hkeys : (w'.store.roleRecords w'.framework role).length ≤
      (w.store.recordKeys w.framework role ++
        (records.filter fun r => r.role = role).map (·.storeKey)).length := by
    rw [h.framework]
    refine Memory.length_roleRecords_le fun id hid => List.mem_append.2 ?_
    obtain ⟨x, hx⟩ := Option.isSome_iff_exists.1 hid
    rcases h.record?_cases hx with hx | ⟨hr, hkey⟩
    · exact Or.inl (Memory.task_mem_recordKeys_iff.2 (by rw [hx]; rfl))
    · have hrole := hkey
      rw [TaskRecord.storeKey, hnew x hr] at hrole
      refine Or.inr (List.mem_map.2 ⟨x, List.mem_filter.2 ⟨hr, ?_⟩, hkey.symm⟩)
      exact decide_eq_true (Key.task_inj hrole).1.symm
  rwa [List.length_append, List.length_map, ← Memory.length_roleRecords] at hkeys

end Adds

section Ticks

variable {base : Config} {s : Surroundings} {w : World} {settings : Settings} {identity : Identity}

/-- A tick stores at most one record of a role. -/
theorem length_filter_newRecords_le (role : Role) :
    ((newRecords base s w settings identity).filter fun r => r.role = role).length ≤ 1 := by
  have hfilter : ∀ other, ((Maker.ofTick base s w settings identity).record?
      (.of w settings (Ports.used (w.store.records w.framework))) other Role.all).filter
        (fun r => r.role = role) =
      if other = role then (Maker.ofTick base s w settings identity).record?
        (.of w settings (Ports.used (w.store.records w.framework))) other Role.all else none := by
    intro other
    cases hmade : (Maker.ofTick base s w settings identity).record?
        (.of w settings (Ports.used (w.store.records w.framework))) other Role.all with
    | none => simp
    | some r => simp [Option.filter, Maker.role_of_made hmade]
  unfold newRecords
  rw [List.filter_filterMap]
  simp only [hfilter]
  cases role <;> simp [Role.all, List.filterMap_cons] <;> split <;> simp

/-- What a tick does to the number of tasks. -/
structure Ticked (base : Config) (w w' : World) : Prop where
  framework : w'.framework = w.framework
  kept : Kept w'.framework w'.store
  legible : base.Finite → Legible w.framework w.store → Legible w'.framework w'.store
  readable : Readable w.framework w.store → Readable w'.framework w'.store
  grows : ∀ role,
    (w'.store.roleRecords w'.framework role).length ≤
        (w.store.roleRecords w.framework role).length ∨
      (w.store.roleRecords w.framework role).length < (base.desired role).toNat ∧
        (w'.store.roleRecords w'.framework role).length ≤
          (w.store.roleRecords w.framework role).length + 1

/-- **A tick stores at most one record of a role, and none if enough are stored.** -/
theorem ticked_tick (hname : base.framework.name = w.framework) (hkept : Kept w.framework w.store)
    (s : Surroundings) : Ticked base w (Run.tick base s w).2 := by
  rcases tick_cases (s := s) (apart_of_name hname) with
    ⟨e, n, hrun, -⟩ | ⟨settings, identity, report, w', hrun, -, hadds, -⟩
  · rw [hrun]
    exact ⟨rfl, hkept, fun _ hlegible => hlegible, id, fun _ => Or.inl le_rfl⟩
  rw [hrun]
  have hnew : ∀ r ∈ newRecords base s w settings identity, Provided base w r :=
    fun r hr => provided_of_mem hr
  have hframework : ∀ r ∈ newRecords base s w settings identity, r.framework = w.framework :=
    fun r hr => (hnew r hr).framework.trans hname
  have halive : ∀ r ∈ newRecords base s w settings identity, r.state.isTerminal = false := by
    intro r hr
    rw [(hnew r hr).state]
    rfl
  refine ⟨hadds.framework, hadds.kept (fun r hr => ⟨hframework r hr, halive r hr⟩) hkept,
    fun hfinite => hadds.legible fun r hr => (hnew r hr).finite hfinite, hadds.readable hframework,
    fun role => ?_⟩
  have hle := hadds.length_roleRecords_le hframework role
  cases hmade : (newRecords base s w settings identity).filter fun r => r.role = role with
  | nil =>
    rw [hmade] at hle
    exact Or.inl hle
  | cons r rest =>
    have hmem : r ∈ (newRecords base s w settings identity).filter fun r => r.role = role := by
      rw [hmade]
      exact List.mem_cons_self
    obtain ⟨hr, hrole⟩ := List.mem_filter.1 hmem
    have hshort := (hnew r hr).short
    rw [of_decide_eq_true hrole, hkept.activeCount_eq] at hshort
    exact Or.inr ⟨hshort, hle.trans (Nat.add_le_add_left (length_filter_newRecords_le role) _)⟩

end Ticks

end Scheduling

end Stevedore
