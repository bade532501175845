import Stevedore.Proofs.ExactCreation
import Stevedore.Proofs.Upkeep

/-!
# What a tick leaves behind

A tick keeps the records that are kept and adds new ones to them. What it starts from, the settings
and the identity, stays readable, whatever the scheduler does; so where the store never fails no
tick fails.
-/

namespace Stevedore.Scheduling

open Store (Memory)

variable {name : String} {store store' : Memory}

/-- The text under every key of a task is a record. -/
def Legible (name : String) (store : Memory) : Prop :=
  ∀ ⦃role id⦄, (store.get? (Key.task name role id)).isSome →
    (store.record? (Key.task name role id)).isSome

theorem Upkeep.keeps_legible (h : Upkeep name store store') (hlegible : Legible name store) :
    Legible name store' :=
  fun _ _ hpresent => h.legible (hlegible (h.present hpresent)) hpresent

/-! ### What can be read -/

theorem Readable.of_settings (h : Readable name store) {x : Settings}
    (hsettings : store'.get? (Key.settings name) = some (Json.encode x).render)
    (hidentity : store'.get? (Key.identity name) = store.get? (Key.identity name)) :
    Readable name store' where
  settings := ⟨_, storedAs_of_render hsettings⟩
  identity := by
    rw [storedAs_congr hidentity]
    exact h.identity

theorem Readable.of_same (h : Readable name store)
    (hsettings : store'.get? (Key.settings name) = store.get? (Key.settings name))
    (hidentity : store'.get? (Key.identity name) = store.get? (Key.identity name)) :
    Readable name store' where
  settings := by
    rw [storedAs_congr hsettings]
    exact h.settings
  identity := by
    rw [storedAs_congr hidentity]
    exact h.identity

theorem readable_of_absent (hsettings : store.get? (Key.settings name) = none)
    (hidentity : store.get? (Key.identity name) = none) : Readable name store where
  settings := ⟨none, by rw [storedAs, hsettings]⟩
  identity := ⟨none, by rw [storedAs, hidentity]⟩

/-- The keys of tasks may change. -/
theorem Readable.of_task (h : Readable name store) {role : Role} {id : String}
    (hothers : ∀ other, other ≠ Key.task name role id → store'.get? other = store.get? other) :
    Readable name store' :=
  h.of_same (hothers _ Key.task_ne_settings.symm) (hothers _ Key.task_ne_identity.symm)

/-- A record is saved in place of one that is kept. -/
theorem Readable.put (h : Readable name store') (hkept : Kept name store) {role : Role}
    {id : String} {r r' : TaskRecord} (hfound : store.record? (Key.task name role id) = some r)
    (hkey : r'.storeKey = r.storeKey) : Readable name (store'.put r') := by
  have hkey' : r'.storeKey = Key.task name role id := hkey.trans (hkept.storeKey hfound)
  exact h.of_task fun _ hother => KeyMap.get?_insert_of_ne (hkey'.symm ▸ hother)

theorem Readable.erase (h : Readable name store) (role : Role) (id : String) :
    Readable name (store.erase (Key.task name role id)) :=
  h.of_task fun _ hother => KeyMap.get?_erase_of_ne hother

/-- Whoever tends to records leaves the settings and the identity readable. -/
theorem Run.Tended.readable {may : Liberty → Prop} {offers : List Manager.Offer}
    {issued : List Issue} (h : Run.Tended may offers name store store' issued)
    (hkept : Kept name store)
    (hreadable : Readable name store) : Readable name store' := by
  cases h with
  | told => exact hreadable
  | settings _ x =>
    exact hreadable.of_settings (KeyMap.get?_insert_self ..)
      (KeyMap.get?_insert_of_ne Key.settings_ne_identity.symm)
  | identity x =>
    have hsettings : (store.set (Key.identity name) (Json.encode x).render).get?
        (Key.settings name) = store.get? (Key.settings name) :=
      KeyMap.get?_insert_of_ne Key.settings_ne_identity
    refine ⟨?_, ⟨_, storedAs_of_render (KeyMap.get?_insert_self ..)⟩⟩
    rw [storedAs_congr hsettings]
    exact hreadable.settings
  | forgotten node =>
    exact hreadable.of_same (KeyMap.get?_erase_of_ne Key.settings_ne_node)
      (KeyMap.get?_erase_of_ne Key.identity_ne_node)
  | promoted h =>
    cases h with
    | idle => exact hreadable
    | done found => exact hreadable.put hkept found rfl
  | @launched offer _ _ _ _ _ h =>
    cases h with
    | idle => exact hreadable
    | launched h => exact hreadable.put hkept h.found rfl
    | @reverted r ports now _ _ h =>
      have hstaged : Readable name (store.put (r.staged offer ports now)) :=
        hreadable.put hkept h.found rfl
      exact hstaged.put hkept h.found rfl
    | stuck h => exact hreadable.put hkept h.found rfl
  | updated _ h =>
    cases h with
    | idle => exact hreadable
    | advanced found => exact hreadable.put hkept found rfl
    | removed => exact hreadable.erase _ _
  | retired h =>
    cases h with
    | idle => exact hreadable
    | removed => exact hreadable.erase _ _

theorem Run.Built.readable {offers : List Manager.Offer} {may : Liberty → Prop}
    (hcreate : ¬ may .create) {α : Type} {m : Run α} (h : Run.Built may offers m)
    (s : Surroundings) {w : World} (hkept : Kept w.framework w.store)
    (hreadable : Readable w.framework w.store) : Readable w.framework (m s w).2.store := by
  refine (h.relates_stores (P := fun name store store' => Kept name store →
    Upkeep name store store' ∧ (Readable name store → Readable name store'))
    hcreate (fun name store _ => ⟨.refl name store, id⟩) ?_
    (fun h hkept => ⟨h.upkeep hkept, h.readable hkept⟩) s w hkept).2 hreadable
  intro name store store' store'' h h' hkept
  obtain ⟨hupkeep, hreadable⟩ := h hkept
  obtain ⟨hupkeep', hreadable'⟩ := h' (hupkeep.kept hkept)
  exact ⟨hupkeep.trans hupkeep', hreadable' ∘ hreadable⟩

/-! ### What is added -/

section Adds

variable {w w' : World} {records : List TaskRecord}

/-- Under the key of a task there is what was there, or the text of a record that was added. -/
theorem Adds.get?_cases (h : Adds w records w') (role : Role) (id : String) :
    w'.store.get? (Key.task w.framework role id) = w.store.get? (Key.task w.framework role id) ∨
      ∃ r ∈ records, Key.task w.framework role id = r.storeKey ∧
        w'.store.get? (Key.task w.framework role id) = some (Json.encode r).render := by
  by_cases hnew : ∃ r ∈ records, Key.task w.framework role id = r.storeKey
  · obtain ⟨r, hr, hkey⟩ := hnew
    refine Or.inr ⟨r, hr, hkey, ?_⟩
    rw [hkey]
    exact h.saved r hr
  · exact Or.inl (h.others _ not_reserved_task fun r hr hkey => hnew ⟨r, hr, hkey⟩)

theorem Adds.get?_eq_of_nil (h : Adds w [] w') (role : Role) (id : String) :
    w'.store.get? (Key.task w.framework role id) = w.store.get? (Key.task w.framework role id) :=
  (h.get?_cases role id).resolve_right fun ⟨_, hr, _⟩ => absurd hr List.not_mem_nil

theorem Adds.present (h : Adds w records w') {role : Role} {id : String}
    (hpresent : (w.store.get? (Key.task w.framework role id)).isSome) :
    (w'.store.get? (Key.task w.framework role id)).isSome := by
  rcases h.get?_cases role id with hsame | ⟨r, -, -, htext⟩
  · rwa [hsame]
  · rw [htext]
    rfl

theorem Adds.record?_cases (h : Adds w records w') {role : Role} {id : String} {x : TaskRecord}
    (hx : w'.store.record? (Key.task w.framework role id) = some x) :
    w.store.record? (Key.task w.framework role id) = some x ∨
      x ∈ records ∧ Key.task w.framework role id = x.storeKey := by
  rcases h.get?_cases role id with hsame | ⟨r, hr, hkey, htext⟩
  · rw [record?_congr hsame] at hx
    exact Or.inl hx
  · rw [Memory.record?, htext, Option.bind_some] at hx
    obtain rfl := Records.eq_of_ofStored?_render hx
    exact Or.inr ⟨hr, hkey⟩

theorem Adds.kept (h : Adds w records w')
    (hnew : ∀ r ∈ records, r.framework = w.framework ∧ r.state.isTerminal = false)
    (hkept : Kept w.framework w.store) : Kept w'.framework w'.store := by
  rw [h.framework]
  refine ⟨fun {role id x} hx => ?_, fun {role id x} hx => ?_⟩
  · rcases h.record?_cases hx with hx | ⟨hadded, hkey⟩
    · exact hkept.own hx
    · rw [TaskRecord.storeKey, (hnew x hadded).1] at hkey
      obtain ⟨hrole, hid⟩ := Key.task_inj hkey
      exact ⟨(hnew x hadded).1, hrole.symm, hid.symm⟩
  · rcases h.record?_cases hx with hx | ⟨hadded, -⟩
    · exact hkept.alive hx
    · exact (hnew x hadded).2

theorem Adds.legible (h : Adds w records w') (hnew : ∀ r ∈ records, r.Finite)
    (hlegible : Legible w.framework w.store) : Legible w'.framework w'.store := by
  rw [h.framework]
  intro role id hpresent
  rcases h.get?_cases role id with hsame | ⟨r, hr, -, htext⟩
  · rw [hsame] at hpresent
    rw [record?_congr hsame]
    exact hlegible hpresent
  · rw [Memory.record?, htext, Option.bind_some, Records.ofStored?_render_of_finite (hnew r hr)]
    rfl

theorem Adds.readable (h : Adds w records w') (hnew : ∀ r ∈ records, r.framework = w.framework)
    (hreadable : Readable w.framework w.store) : Readable w'.framework w'.store := by
  rw [h.framework]
  have hidentity : w'.store.get? (Key.identity w.framework) =
      w.store.get? (Key.identity w.framework) := by
    refine h.others _ ?_ fun r hr heq => ?_
    · rintro (hsettings | ⟨node, hnode⟩)
      · exact Key.settings_ne_identity hsettings.symm
      · exact Key.identity_ne_node hnode
    · rw [TaskRecord.storeKey, hnew r hr] at heq
      exact Key.task_ne_identity heq.symm
  rcases h.settings with hsame | ⟨x, hx⟩
  · exact hreadable.of_same hsame hidentity
  · exact hreadable.of_settings hx hidentity

end Adds

/-! ### New records -/

section Ticks

variable {base : Config} {s : Surroundings} {w : World} {settings : Settings} {identity : Identity}

/-- What is known of a record that a tick stores. -/
structure Provided (base : Config) (w : World) (r : TaskRecord) : Prop where
  framework : r.framework = base.framework.name
  state : r.state = .unset
  short : activeCount (w.store.records w.framework) r.role < (base.desired r.role).toNat
  resources : r.resources = base.resources r.role
  finite : base.Finite → r.Finite

theorem provided_of_mem {r : TaskRecord} (h : r ∈ newRecords base s w settings identity) :
    Provided base w r := by
  obtain ⟨role, -, hmade⟩ := List.mem_filterMap.1 h
  have hstarted := Maker.started_of_made hmade
  refine ⟨hstarted.framework, hstarted.state, ?_,
    hstarted.resources.trans (Config.resources_withSettings base settings _), fun hfinite =>
      hstarted.finite (hfinite.withSettings settings)⟩
  have hwants : (Maker.ofTick base s w settings identity).wants role = true :=
    Maker.wants_of_made hmade
  rw [Maker.role_of_made hmade]
  exact of_decide_eq_true (Bool.and_eq_true_iff.1 hwants).1

/-- A tick stores a new datastore if one is missing and its record can be built and written. -/
theorem mem_newRecords_of_newRecord? {r : TaskRecord}
    (hshort : activeCount (w.store.records w.framework) .datastore <
      (base.desired .datastore).toNat)
    (hwrite : s.writeFault w.tally.writes = none)
    (hr : newRecord? (base.withSettings settings) identity
      (Ports.used (w.store.records w.framework)) .datastore (s.taskId w.tally.ids)
        (s.clock w.tally.times) = some r) :
    r ∈ newRecords base s w settings identity ∧ r.role = .datastore := by
  have hwants : (Maker.ofTick base s w settings identity).wants .datastore = true :=
    Bool.and_eq_true_iff.2 ⟨decide_eq_true hshort, rfl⟩
  have hmade : (Maker.ofTick base s w settings identity).record?
      (.of w settings (Ports.used (w.store.records w.framework))) .datastore Role.all =
        some r := by
    rw [Role.all, Maker.record?_cons_self, Maker.made, if_pos ⟨hwants, hwrite⟩]
    exact hr
  exact ⟨List.mem_filterMap.2 ⟨.datastore, by decide, hmade⟩, Maker.role_of_made hmade⟩

/-- Its record can be built if its port is a port number and a host port is left for it. -/
theorem exists_datastore_mem_newRecords
    (hshort : activeCount (w.store.records w.framework) .datastore <
      (base.desired .datastore).toNat)
    (hport : base.datastorePort?.isSome)
    (hfree : base.scheduler.portRangeStart.toNat +
      (Ports.used (w.store.records w.framework)).length < base.scheduler.portRangeEnd.toNat)
    (hwrite : s.writeFault w.tally.writes = none) :
    ∃ r ∈ newRecords base s w settings identity,
      r.role = .datastore ∧ r.id = s.taskId w.tally.ids := by
  obtain ⟨r, hr⟩ := exists_newRecord?_datastore (base.withSettings settings) identity
    hport hfree (s.taskId w.tally.ids) (s.clock w.tally.times)
  obtain ⟨hmem, hrole⟩ := mem_newRecords_of_newRecord? hshort hwrite hr
  exact ⟨r, hmem, hrole, (started_of_newRecord? hr).id⟩

/-- **Where the store never fails, a tick does not fail** if what it starts from can be read. -/
theorem tick_of_readable (hname : base.framework.name = w.framework)
    (hreads : ∀ k, s.readFault k = none) (hreadable : Readable w.framework w.store) :
    ∃ settings identity report w', Run.tick base s w = (.ok report, w') ∧
      report.created = (newRecords base s w settings identity).map (·.id) ∧
      Adds w (newRecords base s w settings identity) w' ∧
      Run.Drawn s w w' (newRecords base s w settings identity) := by
  refine (tick_cases (apart_of_name hname)).resolve_left ?_
  rintro ⟨e, n, -, ⟨k, reason, hk⟩ | hunreadable⟩
  · rw [hreads k] at hk
    cases hk
  · exact hunreadable hreadable

end Ticks

end Stevedore.Scheduling
