import Stevedore.Proofs.Keys
import Stevedore.Proofs.RecordText
import Stevedore.Proofs.Running

/-!
# Records in the world's store

What the functions on records yield in terms of what the store holds. A key holds a record if the
text under it is read as one (`Memory.record?`); a look-up stops at a text that is not, and a
listing skips it.
-/

namespace Stevedore

open Json (Coded encode)

namespace Store.Memory

/-- The record under a key, if the text there is one. -/
def record? (m : Memory) (key : String) : Option TaskRecord :=
  (m.get? key).bind Records.ofStored?

/-- The store after a record has been saved. -/
def put (m : Memory) (r : TaskRecord) : Memory :=
  m.set r.storeKey (encode r).render

/-- The records of a role, oldest first. -/
def roleRecords (m : Memory) (framework : String) (role : Role) : List TaskRecord :=
  ((m.scan (Key.tasks framework role)).filterMap m.record?).mergeSort TaskRecord.isBefore

/-- All records, role by role. -/
def records (m : Memory) (framework : String) : List TaskRecord :=
  Role.all.flatMap (m.roleRecords framework)

theorem record?_set_self (m : Memory) (key text : String) :
    (m.set key text).record? key = Records.ofStored? text := by
  unfold record? set
  rw [KeyMap.get?_insert_self, Option.bind_some]

theorem record?_set_of_ne {m : Memory} {key other text : String} (h : other ≠ key) :
    (m.set key text).record? other = m.record? other := by
  unfold record? set
  rw [KeyMap.get?_insert_of_ne h]

theorem record?_put_self (m : Memory) (r : TaskRecord) :
    (m.put r).record? r.storeKey = Records.ofStored? (encode r).render :=
  record?_set_self m _ _

/-- A record with finite amounts is found where it was put. -/
theorem record?_put_of_finite (m : Memory) {r : TaskRecord} (h : r.Finite) :
    (m.put r).record? r.storeKey = some r :=
  (record?_put_self m r).trans (Records.ofStored?_render_of_finite h)

theorem record?_put_of_ne {m : Memory} {r : TaskRecord} {key : String} (h : key ≠ r.storeKey) :
    (m.put r).record? key = m.record? key :=
  record?_set_of_ne h

/-- What is found after a record was put is this record, or what lay under another key. -/
theorem record?_put_cases {m : Memory} {r x : TaskRecord} {key : String}
    (h : (m.put r).record? key = some x) :
    (r.storeKey = key ∧ r = x) ∨ (key ≠ r.storeKey ∧ m.record? key = some x) := by
  by_cases hkey : key = r.storeKey
  · rw [hkey, record?_put_self] at h
    exact Or.inl ⟨hkey.symm, Records.eq_of_ofStored?_render h⟩
  · rw [record?_put_of_ne hkey] at h
    exact Or.inr ⟨hkey, h⟩

theorem record?_erase_self (m : Memory) (key : String) :
    record? (KeyMap.erase m key) key = none := by
  unfold record?
  rw [KeyMap.get?_erase_self, Option.bind_none]

theorem record?_erase_of_ne {m : Memory} {key other : String} (h : other ≠ key) :
    record? (KeyMap.erase m key) other = m.record? other := by
  unfold record?
  rw [KeyMap.get?_erase_of_ne h]

theorem mem_roleRecords_iff {m : Memory} {framework : String} {role : Role} {r : TaskRecord} :
    r ∈ m.roleRecords framework role ↔ ∃ id, m.record? (Key.task framework role id) = some r := by
  unfold roleRecords
  rw [List.mem_mergeSort, List.mem_filterMap]
  constructor
  · rintro ⟨key, hkey, hr⟩
    obtain ⟨id, rfl⟩ := Key.beginsWith_task_iff.1 (mem_scan_iff.1 hkey).2
    exact ⟨id, hr⟩
  · rintro ⟨id, hr⟩
    refine ⟨_, mem_scan_iff.2 ⟨?_, Key.beginsWith_task_iff.2 ⟨id, rfl⟩⟩, hr⟩
    unfold record? at hr
    obtain ⟨text, htext, -⟩ := Option.bind_eq_some_iff.1 hr
    rw [htext]
    rfl

theorem mem_records_iff {m : Memory} {framework : String} {r : TaskRecord} :
    r ∈ m.records framework ↔ ∃ role id, m.record? (Key.task framework role id) = some r := by
  unfold records
  rw [List.mem_flatMap]
  simp only [mem_roleRecords_iff]
  constructor
  · rintro ⟨role, -, id, hr⟩
    exact ⟨role, id, hr⟩
  · rintro ⟨role, id, hr⟩
    exact ⟨role, by cases role <;> decide, id, hr⟩

/-- What holds of any two records under different keys holds of any two that are listed. -/
theorem pairwise_records {m : Memory} {framework : String} {P : TaskRecord → TaskRecord → Prop}
    (hsymm : ∀ {r r'}, P r r' → P r' r)
    (h : ∀ {role role' id id' r r'}, m.record? (Key.task framework role id) = some r →
      m.record? (Key.task framework role' id') = some r' →
      Key.task framework role id ≠ Key.task framework role' id' → P r r') :
    (m.records framework).Pairwise P := by
  unfold records
  rw [List.pairwise_flatMap]
  constructor
  · intro role _
    unfold roleRecords
    rw [(List.mergeSort_perm _ _).pairwise_iff hsymm, List.pairwise_filterMap]
    refine (nodup_scan m _).imp_of_mem fun {key key'} hkey hkey' hne r hr r' hr' => ?_
    obtain ⟨id, rfl⟩ := Key.beginsWith_task_iff.1 (mem_scan_iff.1 hkey).2
    obtain ⟨id', rfl⟩ := Key.beginsWith_task_iff.1 (mem_scan_iff.1 hkey').2
    exact h hr hr' hne
  · have hroles : Role.all.Pairwise (· ≠ ·) := by decide
    refine hroles.imp fun {role role'} hne r hr r' hr' => ?_
    obtain ⟨id, hr⟩ := mem_roleRecords_iff.1 hr
    obtain ⟨id', hr'⟩ := mem_roleRecords_iff.1 hr'
    exact h hr hr' fun heq => hne (Key.task_inj heq).1

end Store.Memory

namespace Scheduling

open Store (Memory)

/-- The value under a key, or a fault if the text there is none. -/
def storedAs {α : Type} [Coded α] (store : Memory) (key : String) : Except Fault (Option α) :=
  match store.get? key with
  | none => .ok none
  | some text =>
    match Records.ofStored? text with
    | some x => .ok (some x)
    | none => .error (.store (.corrupt key))

theorem storedAs_eq_some_iff {store : Memory} {key : String} {r : TaskRecord} :
    storedAs store key = .ok (some r) ↔ store.record? key = some r := by
  unfold storedAs Memory.record?
  cases store.get? key with
  | none => simp
  | some text => cases h : (Records.ofStored? text : Option TaskRecord) <;> simp [h]

theorem storedAs_congr {α : Type} [Coded α] {store store' : Memory} {key : String}
    (h : store'.get? key = store.get? key) :
    (storedAs store' key : Except Fault (Option α)) = storedAs store key := by
  unfold storedAs
  rw [h]

theorem storedAs_of_render {α : Type} [Coded α] [Json.Lossless α] {store : Memory} {key : String}
    {x : α} (h : store.get? key = some (encode x).render) : storedAs store key = .ok (some x) := by
  unfold storedAs
  rw [h]
  simp only [Records.ofStored?_render, Json.readBack_eq]

/-- The record of a task in the first of some roles that has one. -/
def findStored (name id : String) (store : Memory) : List Role → Except Fault (Option TaskRecord)
  | [] => .ok none
  | role :: roles =>
    match storedAs store (Key.task name role id) with
    | .error e => .error e
    | .ok (some r) => .ok (some r)
    | .ok none => findStored name id store roles

/-- If a single one of some roles may have something under the key of a task, it is what is
found. -/
theorem findStored_eq_storedAs {name id : String} {store : Memory} {roles : List Role} {role : Role}
    (hrole : role ∈ roles)
    (hothers : ∀ other, other ≠ role → store.get? (Key.task name other id) = none) :
    findStored name id store roles = storedAs store (Key.task name role id) := by
  -- where nothing is stored under any of the keys, nothing is found
  have hnone : ∀ roles : List Role,
      (∀ other ∈ roles, storedAs store (Key.task name other id) =
        (.ok none : Except Fault (Option TaskRecord))) →
      findStored name id store roles = .ok none := by
    intro roles hall
    induction roles with
    | nil => rfl
    | cons other rest ih =>
      rw [findStored, hall other List.mem_cons_self]
      exact ih fun other hother => hall other (List.mem_cons_of_mem _ hother)
  have habsent : ∀ other, other ≠ role → storedAs store (Key.task name other id) =
      (.ok none : Except Fault (Option TaskRecord)) := by
    intro other hne
    rw [storedAs, hothers other hne]
  induction roles with
  | nil => cases hrole
  | cons other rest ih =>
    by_cases heq : other = role
    · subst heq
      rw [findStored]
      cases hstored : (storedAs store (Key.task name other id) :
        Except Fault (Option TaskRecord)) with
      | error e => rfl
      | ok x =>
        cases x with
        | some r => rfl
        | none =>
          refine hnone rest fun role _ => ?_
          by_cases hrole : role = other
          · rw [hrole]
            exact hstored
          · exact habsent role hrole
    · rw [findStored, habsent other heq]
      exact ih (List.mem_of_ne_of_mem (Ne.symm heq) hrole)

theorem exists_of_findStored {name id : String} {store : Memory} {roles : List Role}
    {r : TaskRecord} (h : findStored name id store roles = .ok (some r)) :
    ∃ role ∈ roles, store.record? (Key.task name role id) = some r := by
  induction roles with
  | nil => cases h
  | cons role roles ih =>
    unfold findStored at h
    split at h
    · cases h
    · next hr =>
      cases h
      exact ⟨role, List.mem_cons_self, storedAs_eq_some_iff.1 hr⟩
    · obtain ⟨role', hmem, hr⟩ := ih h
      exact ⟨role', List.mem_cons_of_mem role hmem, hr⟩

namespace Run

variable {s : Surroundings} {w : World}

/-! ### Reading records -/

theorem looks_loadAs {α : Type} [Coded α] (key : String) :
    Looks (Records.loadAs key : Run (Option α)) fun _ store => storedAs store key := by
  refine (Looks.bind (looks_read fun store => store.get? key)
    (h := fun x _ _ => match x with
      | none => .ok none
      | some text =>
        match Records.ofStored? text with
        | some x => .ok (some x)
        | none => .error (.store (.corrupt key))) fun x => ?_).congr fun _ store => rfl
  cases x with
  | none => exact looks_pure none
  | some text =>
    cases h : (Records.ofStored? text : Option α) with
    | some x =>
      simp only [h]
      exact looks_pure (some x)
    | none =>
      simp only [h]
      exact looks_fail _

theorem looks_load (role : Role) (id : String) :
    Looks (Records.load role id) fun name store => storedAs store (Key.task name role id) :=
  Looks.bind looks_framework fun name => looks_loadAs (Key.task name role id)

theorem looks_findIn (id : String) (roles : List Role) :
    Looks (Records.findIn id roles) fun name store => findStored name id store roles := by
  induction roles with
  | nil => exact looks_pure none
  | cons role roles ih =>
    refine (Looks.bind (looks_load role id)
      (h := fun x name store => x.elim (findStored name id store roles) fun r => .ok (some r))
      fun x => ?_).congr fun name store => ?_
    · cases x with
      | none => exact ih
      | some r => exact looks_pure (some r)
    · rw [findStored]
      cases (storedAs store (Key.task name role id) : Except Fault (Option TaskRecord)) with
      | error e => rfl
      | ok x => cases x <;> rfl

theorem looks_find (id : String) :
    Looks (Records.find id) fun name store => findStored name id store Role.all :=
  looks_findIn id Role.all

theorem looks_loadEach (keys : List String) :
    Looks (Records.loadEach keys) fun _ store => .ok (keys.filterMap store.record?) := by
  induction keys with
  | nil => exact looks_pure []
  | cons key keys ih =>
    refine (Looks.bind (looks_read fun store => store.get? key) fun stored =>
      Looks.bind ih fun rest => looks_pure _).congr fun name store => ?_
    show Except.ok (((store.get? key).bind Records.ofStored? : Option TaskRecord).toList ++ _) = _
    have hrecord : store.record? key = (store.get? key).bind Records.ofStored? := rfl
    rw [List.filterMap_cons, hrecord]
    cases ((store.get? key).bind Records.ofStored? : Option TaskRecord) <;> rfl

theorem looks_listRole (role : Role) :
    Looks (Records.listRole role) fun name store => .ok (store.roleRecords name role) :=
  Looks.bind looks_framework fun name =>
    Looks.bind (looks_read fun store => store.scan (Key.tasks name role)) fun keys =>
      Looks.bind (looks_loadEach keys) fun _ => looks_pure _

theorem looks_listRoles (roles : List Role) :
    Looks (Records.listRoles roles) fun name store =>
      .ok (roles.flatMap (store.roleRecords name)) := by
  induction roles with
  | nil => exact looks_pure []
  | cons role roles ih =>
    exact (looks_listRole role).bind fun first => ih.bind fun rest => looks_pure (first ++ rest)

theorem looks_listAll : Looks Records.listAll fun name store => .ok (store.records name) :=
  looks_listRoles Role.all

theorem looks_identity :
    Looks Records.identity fun name store =>
      (storedAs store (Key.identity name)).map (·.getD .fresh) := by
  refine (looks_framework.bind fun name =>
    (looks_loadAs (Key.identity name)).bind fun x => looks_pure (x.getD Identity.fresh)).congr
      fun name store => ?_
  show (storedAs store (Key.identity name) >>= fun x => .ok (x.getD Identity.fresh)) = _
  cases (storedAs store (Key.identity name) : Except Fault (Option Identity)) <;> rfl

theorem looks_settings :
    Looks Records.settings fun name store =>
      (storedAs store (Key.settings name)).map (·.getD .unset) := by
  refine (looks_framework.bind fun name =>
    (looks_loadAs (Key.settings name)).bind fun x => looks_pure (x.getD Settings.unset)).congr
      fun name store => ?_
  show (storedAs store (Key.settings name) >>= fun x => .ok (x.getD Settings.unset)) = _
  cases (storedAs store (Key.settings name) : Except Fault (Option Settings)) <;> rfl

/-- A look-up by role and id fails, finds nothing, or finds the record under the key. -/
theorem load_cases (role : Role) (id : String) (s : Surroundings) (w : World) :
    ∃ w', Moves w w.store [] w' ∧
      ((∃ e, (Records.load role id : Run _) s w = (.error e, w')) ∨
        (Records.load role id : Run _) s w = (.ok none, w') ∨
        ∃ r, (Records.load role id : Run _) s w = (.ok (some r), w') ∧
          w.store.record? (Key.task w.framework role id) = some r) := by
  obtain ⟨n, hload | ⟨-, reason, -, hload⟩⟩ := looks_load role id s w
  · refine ⟨_, moves_afterReads w n, ?_⟩
    cases hstored : (storedAs w.store (Key.task w.framework role id) :
      Except Fault (Option TaskRecord)) with
    | error e => exact Or.inl ⟨e, hload.trans (congrArg (·, _) hstored)⟩
    | ok x =>
      cases x with
      | none => exact Or.inr (Or.inl (hload.trans (congrArg (·, _) hstored)))
      | some r =>
        exact Or.inr (Or.inr
          ⟨r, hload.trans (congrArg (·, _) hstored), storedAs_eq_some_iff.1 hstored⟩)
  · exact ⟨_, moves_afterReads w n, Or.inl ⟨_, hload⟩⟩

/-- A look-up by id fails, finds nothing, or finds a record under one of the task's keys. -/
theorem find_cases (id : String) (s : Surroundings) (w : World) :
    ∃ w', Moves w w.store [] w' ∧
      ((∃ e, (Records.find id : Run _) s w = (.error e, w')) ∨
        (Records.find id : Run _) s w = (.ok none, w') ∨
        ∃ r role, (Records.find id : Run _) s w = (.ok (some r), w') ∧
          w.store.record? (Key.task w.framework role id) = some r) := by
  obtain ⟨n, hfind | ⟨-, reason, -, hfind⟩⟩ := looks_find id s w
  · refine ⟨_, moves_afterReads w n, ?_⟩
    cases hstored : findStored w.framework id w.store Role.all with
    | error e => exact Or.inl ⟨e, hfind.trans (congrArg (·, _) hstored)⟩
    | ok x =>
      cases x with
      | none => exact Or.inr (Or.inl (hfind.trans (congrArg (·, _) hstored)))
      | some r =>
        obtain ⟨role, -, hr⟩ := exists_of_findStored hstored
        exact Or.inr (Or.inr ⟨r, role, hfind.trans (congrArg (·, _) hstored), hr⟩)
  · exact ⟨_, moves_afterReads w n, Or.inl ⟨_, hfind⟩⟩

/-- A listing fails or gives the records that are there. -/
theorem listAll_cases (s : Surroundings) (w : World) :
    ∃ w', Moves w w.store [] w' ∧
      ((∃ e, (Records.listAll : Run _) s w = (.error e, w')) ∨
        (Records.listAll : Run _) s w = (.ok (w.store.records w.framework), w')) := by
  obtain ⟨n, hlist | ⟨-, reason, -, hlist⟩⟩ := looks_listAll s w
  · exact ⟨_, moves_afterReads w n, Or.inr hlist⟩
  · exact ⟨_, moves_afterReads w n, Or.inl ⟨_, hlist⟩⟩

/-! ### Writing records -/

variable {store : Memory}

theorem save_cases (r : TaskRecord) (s : Surroundings) (hstore : w.store = store) :
    ∃ w', (Records.save r : Run _) s w = (.ok (), w') ∧ Moves w (store.put r) [] w' ∨
      ∃ e, (Records.save r : Run _) s w = (.error e, w') ∧ Moves w store [] w' := by
  subst hstore
  obtain ⟨w', hok | ⟨reason, hfault⟩⟩ := write_cases (fun store => ((), store.put r)) s w
  · exact ⟨w', Or.inl hok⟩
  · exact ⟨w', Or.inr ⟨_, hfault⟩⟩

theorem remove_cases (role : Role) (id : String) (s : Surroundings) (hstore : w.store = store) :
    ∃ w', (∃ there, (Records.remove role id : Run _) s w = (.ok there, w')) ∧
        Moves w (store.erase (Key.task w.framework role id)) [] w' ∨
      ∃ e, (Records.remove role id : Run _) s w = (.error e, w') ∧ Moves w store [] w' := by
  subst hstore
  obtain ⟨w', ⟨hok, hmoves⟩ | ⟨reason, hfault⟩⟩ :=
    write_cases (fun store => store.delete (Key.task w.framework role id)) s w
  · exact ⟨w', Or.inl ⟨⟨_, hok⟩, hmoves⟩⟩
  · exact ⟨w', Or.inr ⟨_, hfault⟩⟩

end Run

end Scheduling

end Stevedore
