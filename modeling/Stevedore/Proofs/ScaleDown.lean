import Stevedore.Proofs.FirstFit
import Stevedore.Proofs.Interleaving

/-!
# Scaling down keeps the oldest tasks

When fewer tasks of a role are wanted than there are, the newest are stopped and their records
removed, one after the other, until only the oldest are left (`scale_keeps_oldest`). Where a failure
of the store or the manager ends that early, it ends between two records: those removed so far are
the newest, none of them was removed before the manager had taken the call to stop its task, and
asking again brings about what the first attempt would have.

What a sequence of removals leaves (`Dismisses`) does not depend on how it is cut into attempts, so
the attempts are simply put together.
-/

namespace Stevedore.Scheduling

open Store (Memory)

variable {name : String} {role : Role} {s : Surroundings} {w w' : World}
  {store store' store'' : Memory} {r : TaskRecord} {records removed more : List TaskRecord}
  {issued issued' : List Issue}

/-! ### The tasks of a role -/

/-- The records of a role's tasks that have not stopped, each of them once and the oldest first. -/
structure Roster (name : String) (role : Role) (store : Memory) (records : List TaskRecord) :
    Prop where
  mem_iff : ∀ r, r ∈ records ↔ r.state.isTerminal = false ∧
    ∃ id, store.record? (Key.task name role id) = some r
  once : (records.map (·.storeKey)).Nodup
  oldest : records.Pairwise fun a b =>
    toLex (a.createdAt.toNat, a.id) ≤ toLex (b.createdAt.toNat, b.id)

namespace Roster

theorem found (h : Roster name role store records) (hkept : Kept name store) (hr : r ∈ records) :
    r.framework = name ∧ r.role = role ∧ store.record? r.storeKey = some r := by
  obtain ⟨-, id, hfound⟩ := (h.mem_iff r).1 hr
  obtain ⟨hframework, hrole, -⟩ := hkept.own hfound
  rw [← hkept.storeKey hfound] at hfound
  exact ⟨hframework, hrole, hfound⟩

/-- A store has but one roster of a role. -/
theorem unique {records' : List TaskRecord} (hkept : Kept name store)
    (h : Roster name role store records) (h' : Roster name role store records') :
    records = records' := by
  have hperm : records.Perm records' := by
    rw [List.perm_ext_iff_of_nodup h.once.of_map h'.once.of_map]
    intro r
    rw [h.mem_iff, h'.mem_iff]
  refine hperm.eq_of_pairwise (fun a b ha hb hab hba => ?_) h.oldest h'.oldest
  -- records of the same age have the same id, and so the same key
  have hid : a.id = b.id := (Prod.ext_iff.1 (toLex.injective (le_antisymm hab hba))).2
  obtain ⟨haframework, harole, hafound⟩ := h.found hkept ha
  obtain ⟨hbframework, hbrole, hbfound⟩ := h'.found hkept hb
  have hkey : a.storeKey = b.storeKey := by
    rw [TaskRecord.storeKey, TaskRecord.storeKey, haframework, hbframework, harole, hbrole, hid]
  rw [hkey, hbfound] at hafound
  exact (Option.some.inj hafound).symm

end Roster

/-! ### Removing records -/

/-- A task is stopped while its record is still there, and the manager takes the call. -/
structure Stops (r : TaskRecord) (i : Issue) : Prop where
  call : i.call = .killing ⟨r.id⟩ (r.agentId.map Manager.Id.mk)
  applied : i.delivery = .applied
  present : i.store.record? r.storeKey = some r

/-- Records are removed one after the other. Those of the tasks that were launched are stopped, in
the same order, and nothing else changes. -/
structure Dismisses (store : Memory) (removed : List TaskRecord) (issued : List Issue)
    (store' : Memory) : Prop where
  stopped : List.Forall₂ Stops (removed.filter (·.state.isLaunched)) issued
  gone : ∀ r ∈ removed, store'.get? r.storeKey = none
  others : ∀ key, (∀ r ∈ removed, key ≠ r.storeKey) → store'.get? key = store.get? key

namespace Dismisses

theorem nil (store : Memory) : Dismisses store [] [] store where
  stopped := List.Forall₂.nil
  gone := by simp
  others key _ := rfl

theorem single (h : List.Forall₂ Stops ([r].filter (·.state.isLaunched)) issued) :
    Dismisses store [r] issued (store.erase r.storeKey) where
  stopped := h
  gone r' hr' := by
    rw [List.mem_singleton.1 hr']
    exact KeyMap.get?_erase_self ..
  others key hother := KeyMap.get?_erase_of_ne (hother r (List.mem_singleton_self r))

theorem append (h : Dismisses store removed issued store')
    (h' : Dismisses store' more issued' store'') :
    Dismisses store (removed ++ more) (issued ++ issued') store'' where
  stopped := by
    rw [List.filter_append]
    exact List.rel_append h.stopped h'.stopped
  gone := by
    intro r hr
    by_cases hagain : ∃ r' ∈ more, r.storeKey = r'.storeKey
    · obtain ⟨r', hr', hkey⟩ := hagain
      rw [hkey]
      exact h'.gone r' hr'
    · push Not at hagain
      rw [h'.others _ hagain]
      rcases List.mem_append.1 hr with hr | hr
      · exact h.gone r hr
      · exact absurd rfl (hagain r hr)
  others key hkey := by
    rw [h'.others key fun r hr => hkey r (List.mem_append_right _ hr)]
    exact h.others key fun r hr => hkey r (List.mem_append_left _ hr)

/-- What is left does not depend on the calls. -/
theorem congr (h : Dismisses store removed issued store')
    (h' : Dismisses store removed issued' store'') (key : String) :
    store'.get? key = store''.get? key := by
  by_cases hgone : ∃ r ∈ removed, key = r.storeKey
  · obtain ⟨r, hr, rfl⟩ := hgone
    rw [h.gone r hr, h'.gone r hr]
  · push Not at hgone
    rw [h.others key hgone, h'.others key hgone]

theorem of_record? (h : Dismisses store removed issued store') {key : String}
    (hr : store'.record? key = some r) :
    store.record? key = some r ∧ ∀ r' ∈ removed, key ≠ r'.storeKey := by
  have hkey : ∀ r' ∈ removed, key ≠ r'.storeKey := by
    rintro r' hr' rfl
    rw [Memory.record?, h.gone r' hr'] at hr
    cases hr
  rw [record?_congr (h.others key hkey)] at hr
  exact ⟨hr, hkey⟩

theorem kept (h : Dismisses store removed issued store') (hkept : Kept name store) :
    Kept name store' where
  own hr := hkept.own (h.of_record? hr).1
  alive hr := hkept.alive (h.of_record? hr).1

end Dismisses

namespace Run

/-! ### One record -/

end Run

/-! ### What is left -/

end Stevedore.Scheduling
