import Stevedore.Proofs.Conduct
import Stevedore.Proofs.FiniteAmounts

/-!
# What tending leaves of the records

Unless an operation creates records, every key of a task is left as it was, is removed, or holds a
record that follows the one that it held (`Upkeep`). This needs nothing but that every record lies
under its own key and is alive (`Kept`), and it keeps that true.
-/

namespace Stevedore.Scheduling

open Manager (Offer TaskStatus)
open Store (Memory)

variable {name : String} {store store' store'' : Memory}

/-! ### Kept records -/

/-- Every record of a framework lies under its own key and is alive. -/
structure Kept (name : String) (store : Memory) : Prop where
  own : ∀ {role id r}, store.record? (Key.task name role id) = some r →
    r.framework = name ∧ r.role = role ∧ r.id = id
  alive : ∀ {role id r}, store.record? (Key.task name role id) = some r →
    r.state.isTerminal = false

theorem Kept.storeKey (h : Kept name store) {role : Role} {id : String} {r : TaskRecord}
    (hr : store.record? (Key.task name role id) = some r) :
    r.storeKey = Key.task name role id := by
  obtain ⟨hname, hrole, hid⟩ := h.own hr
  rw [TaskRecord.storeKey, hname, hrole, hid]

theorem kept_of_no_records (h : ∀ role id, store.record? (Key.task name role id) = none) :
    Kept name store where
  own hr := by simp [h] at hr
  alive hr := by simp [h] at hr

theorem record?_congr {key : String} (h : store'.get? key = store.get? key) :
    store'.record? key = store.record? key := by
  unfold Memory.record?
  rw [h]

/-! ### Changes -/

/-- From one store to another, every key of a task is left as it was, is removed, or holds a record
that follows the one that it held. -/
structure Upkeep (name : String) (store store' : Memory) : Prop where
  present : ∀ {role id}, (store'.get? (Key.task name role id)).isSome →
    (store.get? (Key.task name role id)).isSome
  legible : ∀ {role id}, (store.record? (Key.task name role id)).isSome →
    (store'.get? (Key.task name role id)).isSome → (store'.record? (Key.task name role id)).isSome
  follows : ∀ {role id r'}, store'.record? (Key.task name role id) = some r' →
    ∃ r, store.record? (Key.task name role id) = some r ∧ Follows r r'

namespace Upkeep

theorem of_same
    (h : ∀ role id, store'.get? (Key.task name role id) = store.get? (Key.task name role id)) :
    Upkeep name store store' where
  present hpresent := by rwa [h] at hpresent
  legible hlegible _ := by rwa [record?_congr (h _ _)]
  follows {_ _ r'} hr' := by
    rw [record?_congr (h _ _)] at hr'
    exact ⟨r', hr', Follows.refl r'⟩

theorem refl (name : String) (store : Memory) : Upkeep name store store :=
  of_same fun _ _ => rfl

theorem trans (h : Upkeep name store store') (h' : Upkeep name store' store'') :
    Upkeep name store store'' where
  present hpresent := h.present (h'.present hpresent)
  legible hlegible hpresent := h'.legible (h.legible hlegible (h'.present hpresent)) hpresent
  follows hr'' := by
    obtain ⟨r', hr', hfollows'⟩ := h'.follows hr''
    obtain ⟨r, hr, hfollows⟩ := h.follows hr'
    exact ⟨r, hr, hfollows.trans hfollows'⟩

/-- A change of a single key. -/
theorem of_change (key : String)
    (hothers : ∀ other, other ≠ key → store'.get? other = store.get? other)
    (hkey : store'.get? key = none ∨
      ∃ r r', store.record? key = some r ∧ store'.record? key = some r' ∧ Follows r r') :
    Upkeep name store store' := by
  have hpresent : (store.record? key).isSome → (store.get? key).isSome := by
    unfold Memory.record?
    cases store.get? key <;> simp
  refine ⟨fun {role id} h => ?_, fun {role id} hlegible h => ?_, fun {role id x} hx => ?_⟩
  · by_cases heq : Key.task name role id = key
    · rw [heq] at h ⊢
      rcases hkey with hgone | ⟨r, r', hr, -⟩
      · rw [hgone] at h
        cases h
      · exact hpresent (by rw [hr]; rfl)
    · rwa [hothers _ heq] at h
  · by_cases heq : Key.task name role id = key
    · rw [heq] at h ⊢
      rcases hkey with hgone | ⟨r, r', -, hr', -⟩
      · rw [hgone] at h
        cases h
      · rw [hr']
        rfl
    · rwa [record?_congr (hothers _ heq)]
  · by_cases heq : Key.task name role id = key
    · rw [heq] at hx ⊢
      rcases hkey with hgone | ⟨r, r', hr, hr', hfollows⟩
      · unfold Memory.record? at hx
        rw [hgone] at hx
        cases hx
      · rw [hr'] at hx
        cases hx
        exact ⟨r, hr, hfollows⟩
    · rw [record?_congr (hothers _ heq)] at hx
      exact ⟨x, hx, Follows.refl x⟩

theorem erase (name : String) (store : Memory) (key : String) :
    Upkeep name store (store.erase key) :=
  of_change key (fun _ hother => KeyMap.get?_erase_of_ne hother)
    (Or.inl (KeyMap.get?_erase_self ..))

/-- A record is saved in place of one that it follows, perhaps after another one was. -/
theorem put {between : Memory} {key : String} {r r' : TaskRecord}
    (hbetween : ∀ other, other ≠ key → between.get? other = store.get? other)
    (hfound : store.record? key = some r) (hkey : r.storeKey = key) (hfollows : Follows r r')
    (hresources : r'.resources = r.resources) (hlimits : r'.limits = r.limits) :
    Upkeep name store (between.put r') := by
  have hkey' : r'.storeKey = key := hfollows.storeKey.trans hkey
  refine of_change key (fun other hother => ?_) (Or.inr ⟨r, r', hfound, ?_, hfollows⟩)
  · exact (KeyMap.get?_insert_of_ne (hkey'.symm ▸ hother)).trans (hbetween other hother)
  · rw [← hkey']
    exact Memory.record?_put_of_found hfound between r' hresources hlimits

theorem kept (h : Upkeep name store store') (hkept : Kept name store) : Kept name store' where
  own hr' := by
    obtain ⟨r, hr, hfollows⟩ := h.follows hr'
    obtain ⟨hname, hrole, hid⟩ := hkept.own hr
    exact ⟨hfollows.framework.trans hname, hfollows.role.trans hrole, hfollows.id.trans hid⟩
  alive hr' := by
    obtain ⟨r, hr, hfollows⟩ := h.follows hr'
    exact hfollows.alive (hkept.alive hr)

end Upkeep

/-! ### Sections -/

theorem Promotion.upkeep {candidate : TaskRecord} {result : Except Fault Bool} {issued : List Issue}
    (h : Promotion candidate name store result store' issued) (hkept : Kept name store) :
    Upkeep name store store' := by
  cases h with
  | idle => exact .refl name store
  | done found wanted =>
    exact .put (fun _ _ => rfl) found (hkept.storeKey found) (follows_promoted wanted _) rfl rfl

theorem Launching.upkeep {offer : Offer} {candidate : TaskRecord} {result : Except Fault Bool}
    {issued : List Issue} (h : Launching offer candidate name store result store' issued)
    (hkept : Kept name store) : Upkeep name store store' := by
  have hstaged : ∀ {r ports now}, Launchable offer candidate name store r ports →
      Upkeep name store (store.put (r.staged offer ports now)) := fun h =>
    .put (fun _ _ => rfl) h.found (hkept.storeKey h.found) (follows_staged h.eligible _ _ _) rfl rfl
  cases h with
  | idle => exact .refl name store
  | launched h => exact hstaged h
  | @reverted r ports now _ _ h =>
    have hkey := hkept.storeKey h.found
    refine .put (fun other hother => ?_) h.found hkey (follows_unstaged h.eligible _) rfl rfl
    exact KeyMap.get?_insert_of_ne fun heq => hother (heq.trans hkey)
  | stuck h => exact hstaged h

theorem Updating.upkeep {status : TaskStatus} {result : Except Fault Unit} {issued : List Issue}
    (h : Updating status name store result store' issued) (hkept : Kept name store) :
    Upkeep name store store' := by
  cases h with
  | idle => exact .refl name store
  | advanced found legal launched =>
    exact .put (fun _ _ => rfl) found (hkept.storeKey found)
      (follows_advanced legal (TaskState.not_isTerminal launched) _ _) rfl rfl
  | removed => exact .erase name store _

theorem Retirement.upkeep {candidate : TaskRecord} {result : Except Fault Bool}
    {issued : List Issue} (h : Retirement candidate name store result store' issued) :
    Upkeep name store store' := by
  cases h with
  | idle => exact .refl name store
  | removed => exact .erase name store _

namespace Run

variable {may : Liberty → Prop} {offers : List Offer}

theorem Tended.upkeep {issued : List Issue} (h : Tended may offers name store store' issued)
    (hkept : Kept name store) : Upkeep name store store' := by
  cases h with
  | told => exact .refl name store
  | settings _ x => exact .of_same fun _ _ => KeyMap.get?_insert_of_ne Key.task_ne_settings
  | identity x => exact .of_same fun _ _ => KeyMap.get?_insert_of_ne Key.task_ne_identity
  | forgotten node => exact .erase name store _
  | promoted h => exact h.upkeep hkept
  | launched _ h => exact h.upkeep hkept
  | updated _ h => exact h.upkeep hkept
  | retired h => exact h.upkeep

/-! ### Whole operations -/

/-- Operations that create no records keep what is there. -/
theorem Built.upkeep (hcreate : ¬ may .create) {α : Type} {m : Run α}
    (h : Built may offers m) (s : Surroundings) {w : World} (hkept : Kept w.framework w.store) :
    Upkeep w.framework w.store (m s w).2.store :=
  h.relates_stores (P := fun name store store' => Kept name store → Upkeep name store store')
    hcreate (fun name store _ => .refl name store)
    (fun h h' hkept => (h hkept).trans (h' ((h hkept).kept hkept)))
    (fun h hkept => h.upkeep hkept) s w hkept

end Run

end Stevedore.Scheduling
