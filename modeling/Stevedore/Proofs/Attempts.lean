import Stevedore.Proofs.Creation

/-!
# Attempts to create records

A tick makes one attempt for every role that is short of tasks and may start. What an attempt draws
on, and what it leaves to the attempts of later roles, is its `Stock`; whether it stores a record is
decided by the stock alone (`Maker.made`). Attempts store these records and touch no other.
-/

namespace Stevedore.Scheduling

open Store (Memory)

/-! ### Attempts -/

/-- What an attempt to create a record draws on. -/
structure Stock where
  /-- How many ids have been drawn. -/
  ids : Nat
  /-- How often the clock was read. -/
  times : Nat
  /-- How often the store was written to. -/
  writes : Nat
  /-- The host ports that are taken. -/
  used : List UInt32
  /-- Whether the address of the control plane is still open. -/
  unfixed : Bool

/-- What there is to draw on in a world. -/
def Stock.of (w : World) (settings : Settings) (used : List UInt32) : Stock :=
  ⟨w.tally.ids, w.tally.times, w.tally.writes, used, settings.serverUrl.isNone⟩

/-- What decides about all attempts of a tick. -/
structure Maker where
  /-- The surroundings. -/
  surroundings : Surroundings
  /-- The configuration with the stored settings laid over it. -/
  cfg : Config
  /-- The framework's identity. -/
  identity : Identity
  /-- The roles for which an attempt is made. -/
  wants : Role → Bool

namespace Maker

variable (m : Maker) (k : Stock) (role : Role)

/-- The record that an attempt builds, if it can. -/
def built : Option TaskRecord :=
  newRecord? m.cfg m.identity k.used role (m.surroundings.taskId k.ids)
    (m.surroundings.clock k.times)

/-- The record that an attempt stores: one that is wanted, can be built and is written. -/
def made : Option TaskRecord :=
  if m.wants role = true ∧ m.surroundings.writeFault k.writes = none then m.built k role else none

/-- Whether the address of the control plane is fixed after an attempt. -/
def fixes : Bool :=
  (m.made k role).isSome && role == .server && k.unfixed

/-- What an attempt leaves to later ones. -/
def after : Stock :=
  if m.wants role then
    { ids := k.ids + 1
      times := k.times + 1
      writes := k.writes + (m.built k role).toList.length + (m.fixes k role).toNat
      used := k.used ++ Ports.used (m.made k role).toList
      unfixed := k.unfixed && !m.fixes k role }
  else k

/-- What is left for a role when attempts are made for some roles in order. -/
def stockFor (roles : List Role) : Stock :=
  (roles.takeWhile (· ≠ role)).foldl m.after k

/-- The record that is stored for a role when attempts are made for some roles in order. -/
def record? (roles : List Role) : Option TaskRecord :=
  m.made (m.stockFor k role roles) role

variable {m k role}

theorem after_of_none (hwants : m.wants role = true) (hmade : m.made k role = none) :
    m.after k role =
      { k with
        ids := k.ids + 1
        times := k.times + 1
        writes := k.writes + (m.built k role).toList.length } := by
  have hfixes : m.fixes k role = false := by simp [fixes, hmade]
  have hused : Ports.used (Option.toList (none : Option TaskRecord)) = [] := rfl
  rw [after, if_pos hwants, hfixes, hmade, hused]
  simp

theorem after_of_some {r : TaskRecord} (hwants : m.wants role = true)
    (hmade : m.made k role = some r) :
    m.after k role =
      { ids := k.ids + 1
        times := k.times + 1
        writes := k.writes + (m.built k role).toList.length + (role == .server && k.unfixed).toNat
        used := k.used ++ Ports.used [r]
        unfixed := k.unfixed && !(role == .server && k.unfixed) } := by
  have hfixes : m.fixes k role = (role == .server && k.unfixed) := by
    rw [fixes, hmade]
    rfl
  rw [after, if_pos hwants, hfixes, hmade]
  rfl

theorem record?_cons_self (roles : List Role) :
    m.record? k role (role :: roles) = m.made k role := by
  simp [record?, stockFor]

theorem record?_cons_of_ne {other : Role} (h : other ≠ role) (roles : List Role) :
    m.record? k other (role :: roles) = m.record? (m.after k role) other roles := by
  simp [record?, stockFor, h.symm]

theorem filterMap_record?_cons {roles : List Role} (h : role ∉ roles) :
    (role :: roles).filterMap (m.record? k · (role :: roles)) =
      (m.made k role).toList ++ roles.filterMap (m.record? (m.after k role) · roles) := by
  have hrest : roles.filterMap (m.record? k · (role :: roles)) =
      roles.filterMap (m.record? (m.after k role) · roles) :=
    List.filterMap_congr fun other hother =>
      record?_cons_of_ne (by
        rintro rfl
        exact h hother) roles
  rw [List.filterMap_cons, record?_cons_self, hrest]
  cases m.made k role <;> rfl

theorem ids_le_after : k.ids ≤ (m.after k role).ids := by
  unfold after
  split
  · exact Nat.le_succ k.ids
  · exact le_rfl

theorem ids_le_foldl_after (roles : List Role) : k.ids ≤ (roles.foldl m.after k).ids := by
  induction roles generalizing k with
  | nil => exact le_rfl
  | cons role roles ih => exact ids_le_after.trans ih

theorem wants_of_made {r : TaskRecord} (h : m.made k role = some r) : m.wants role = true := by
  unfold made at h
  split at h
  · next hwants => exact hwants.1
  · cases h

theorem built_of_made {r : TaskRecord} (h : m.made k role = some r) : m.built k role = some r := by
  unfold made at h
  split at h
  · exact h
  · cases h

theorem started_of_made {r : TaskRecord} (h : m.made k role = some r) :
    Build.Started ⟨m.cfg, m.identity, k.used, m.surroundings.clock k.times⟩ (m.cfg.workload role)
      (m.surroundings.taskId k.ids) r :=
  started_of_newRecord? (built_of_made h)

theorem id_of_made {r : TaskRecord} (h : m.made k role = some r) :
    r.id = m.surroundings.taskId k.ids :=
  (started_of_made h).id

theorem role_of_made {r : TaskRecord} (h : m.made k role = some r) : r.role = role := by
  rw [(started_of_made h).role, Config.workload_role]

theorem storeKey_of_made {r : TaskRecord} (h : m.made k role = some r) :
    r.storeKey = Key.task m.cfg.framework.name role (m.surroundings.taskId k.ids) := by
  have hkey := (started_of_made h).storeKey
  rw [Config.workload_role] at hkey
  exact hkey

theorem id_of_record? {roles : List Role} {r : TaskRecord} (h : m.record? k role roles = some r) :
    ∃ n, k.ids ≤ n ∧ r.id = m.surroundings.taskId n :=
  ⟨_, ids_le_foldl_after _, id_of_made h⟩

/-- The tasks whose records are stored have different ids, if none is drawn twice. -/
theorem nodup_ids (hfresh : Function.Injective m.surroundings.taskId) {roles : List Role}
    (hnodup : roles.Nodup) : ((roles.filterMap (m.record? k · roles)).map (·.id)).Nodup := by
  induction roles generalizing k with
  | nil => exact List.nodup_nil
  | cons role roles ih =>
    obtain ⟨hnotMem, hnodup⟩ := List.nodup_cons.1 hnodup
    have hrest := ih (k := m.after k role) hnodup
    rw [filterMap_record?_cons hnotMem, List.map_append]
    cases hmade : m.made k role with
    | none => exact hrest
    | some r =>
      refine List.nodup_cons.2 ⟨fun hmem => ?_, hrest⟩
      obtain ⟨r', hr', heq⟩ := List.mem_map.1 hmem
      obtain ⟨other, -, hr'⟩ := List.mem_filterMap.1 hr'
      obtain ⟨n, hn, hid⟩ := id_of_record? hr'
      rw [after_of_some (wants_of_made hmade) hmade] at hn
      have hsame : n = k.ids := hfresh (hid.symm.trans (heq.trans (id_of_made hmade)))
      exact absurd (hsame ▸ hn) (Nat.not_succ_le_self k.ids)

end Maker

/-! ### What is added to a store -/

/-- A key under which the framework keeps its settings or a node. -/
def Reserved (framework key : String) : Prop :=
  key = Key.settings framework ∨ ∃ name, key = Key.node framework name

theorem not_reserved_task {framework : String} {role : Role} {id : String} :
    ¬ Reserved framework (Key.task framework role id) := by
  rintro (hsettings | ⟨name, hnode⟩)
  · exact Key.task_ne_settings hsettings
  · exact Key.task_ne_node hnode

/-- From one world to another some records are stored, and under all other keys that are not
reserved the store holds what it held. The settings are what they were, or other ones were saved. -/
structure Adds (w : World) (records : List TaskRecord) (w' : World) : Prop where
  framework : w'.framework = w.framework
  apart : ∀ r ∈ records, ¬ Reserved w.framework r.storeKey
  saved : ∀ r ∈ records, w'.store.get? r.storeKey = some (Json.encode r).render
  others : ∀ key, ¬ Reserved w.framework key → (∀ r ∈ records, key ≠ r.storeKey) →
    w'.store.get? key = w.store.get? key
  settings : w'.store.get? (Key.settings w.framework) = w.store.get? (Key.settings w.framework) ∨
    ∃ x : Settings, w'.store.get? (Key.settings w.framework) = some (Json.encode x).render

namespace Adds

variable {w w' w'' : World} {records records' : List TaskRecord} {r : TaskRecord}

theorem record?_of_mem (h : Adds w records w') (hr : r ∈ records) (hfinite : r.Finite) :
    w'.store.record? r.storeKey = some r := by
  rw [Memory.record?, h.saved r hr, Option.bind_some]
  exact Records.ofStored?_render_of_finite hfinite

/-- A change of a single reserved key. -/
theorem of_reserved (hframework : w'.framework = w.framework)
    (hstore : ∀ key, ¬ Reserved w.framework key → w'.store.get? key = w.store.get? key)
    (hsettings : w'.store.get? (Key.settings w.framework) =
        w.store.get? (Key.settings w.framework) ∨
      ∃ x : Settings, w'.store.get? (Key.settings w.framework) = some (Json.encode x).render) :
    Adds w [] w' where
  framework := hframework
  apart _ hr := absurd hr List.not_mem_nil
  saved _ hr := absurd hr List.not_mem_nil
  others key hkey _ := hstore key hkey
  settings := hsettings

theorem of_same (hframework : w'.framework = w.framework) (hstore : w'.store = w.store) :
    Adds w [] w' :=
  of_reserved hframework (fun _ _ => by rw [hstore]) (Or.inl (by rw [hstore]))

theorem refl (w : World) : Adds w [] w :=
  of_same rfl rfl

theorem saveSettings (hframework : w'.framework = w.framework) (x : Settings)
    (hstore : w'.store = w.store.set (Key.settings w.framework) (Json.encode x).render) :
    Adds w [] w' := by
  refine of_reserved hframework (fun key hkey => ?_) (Or.inr ⟨x, ?_⟩)
  · rw [hstore]
    refine KeyMap.get?_insert_of_ne ?_
    rintro rfl
    exact hkey (Or.inl rfl)
  · rw [hstore]
    exact KeyMap.get?_insert_self ..

theorem forgetNode (hframework : w'.framework = w.framework) (name : String)
    (hstore : w'.store = w.store.erase (Key.node w.framework name)) : Adds w [] w' := by
  refine of_reserved hframework (fun key hkey => ?_) (Or.inl ?_)
  · rw [hstore]
    refine KeyMap.get?_erase_of_ne ?_
    rintro rfl
    exact hkey (Or.inr ⟨name, rfl⟩)
  · rw [hstore]
    exact KeyMap.get?_erase_of_ne Key.settings_ne_node

theorem put (hframework : w'.framework = w.framework) (hstore : w'.store = w.store.put r)
    (hapart : ¬ Reserved w.framework r.storeKey) : Adds w [r] w' where
  framework := hframework
  apart r' hr' := by
    rw [List.mem_singleton.1 hr']
    exact hapart
  saved r' hr' := by
    rw [List.mem_singleton.1 hr', hstore]
    exact KeyMap.get?_insert_self ..
  others key _ hnew := by
    rw [hstore]
    exact KeyMap.get?_insert_of_ne (hnew r (List.mem_singleton_self r))
  settings := by
    left
    rw [hstore]
    exact KeyMap.get?_insert_of_ne fun heq => hapart (Or.inl heq.symm)

theorem trans (h : Adds w records w') (h' : Adds w' records' w'')
    (hkeys : ∀ r ∈ records, ∀ r' ∈ records', r.storeKey ≠ r'.storeKey) :
    Adds w (records ++ records') w'' where
  framework := h'.framework.trans h.framework
  apart r hr := by
    rcases List.mem_append.1 hr with hr | hr
    · exact h.apart r hr
    · exact h.framework ▸ h'.apart r hr
  saved r hr := by
    rcases List.mem_append.1 hr with hr | hr
    · rw [h'.others _ (h.framework ▸ h.apart r hr) (hkeys r hr)]
      exact h.saved r hr
    · exact h'.saved r hr
  others key hkey hnew := by
    rw [h'.others key (h.framework ▸ hkey) fun r hr => hnew r (List.mem_append_right _ hr)]
    exact h.others key hkey fun r hr => hnew r (List.mem_append_left _ hr)
  settings := by
    have hsettings' := h'.settings
    rw [h.framework] at hsettings'
    rcases hsettings' with hsame | hsaved
    · rw [hsame]
      exact h.settings
    · exact Or.inr hsaved

theorem andSame (h : Adds w records w') (h' : Adds w' [] w'') : Adds w records w'' := by
  have hall := h.trans h' fun _ _ _ hr' => absurd hr' List.not_mem_nil
  rwa [List.append_nil] at hall

end Adds

namespace Run

/-! ### One attempt -/

section Attempt

variable {m : Maker} {role : Role} {w : World}

/-- The key of the record that the next attempt for a role builds. -/
def nextKey (m : Maker) (role : Role) (w : World) : String :=
  Key.task m.cfg.framework.name role (m.surroundings.taskId w.tally.ids)

theorem createRecord_made (settings : Settings) (used : List UInt32) (hwants : m.wants role = true)
    (hapart : ¬ Reserved w.framework (nextKey m role w)) :
    ∃ w', createRecord role m.cfg m.identity used m.surroundings w =
        (.ok (m.made (.of w settings used) role), w') ∧
      Adds w (m.made (.of w settings used) role).toList w' ∧
      w'.tally.ids = w.tally.ids + 1 ∧ w'.tally.times = w.tally.times + 1 ∧
      w'.tally.writes = w.tally.writes + (m.built (.of w settings used) role).toList.length := by
  rw [createRecord_run]
  have hbuilt : newRecord? m.cfg m.identity used role (m.surroundings.taskId w.tally.ids)
      (m.surroundings.clock w.tally.times) = m.built (.of w settings used) role := rfl
  rw [hbuilt]
  have hmade : m.made (.of w settings used) role =
      if m.surroundings.writeFault w.tally.writes = none then m.built (.of w settings used) role
      else none := by
    simp only [Maker.made, hwants, true_and, Stock.of]
  rw [hmade]
  cases hr : m.built (.of w settings used) role with
  | none =>
    rw [ite_self]
    exact ⟨w.afterDraw, rfl, Adds.of_same rfl rfl, rfl, rfl, rfl⟩
  | some r =>
    cases m.surroundings.writeFault w.tally.writes with
    | some reason => exact ⟨_, rfl, Adds.of_same rfl rfl, rfl, rfl, rfl⟩
    | none =>
      refine ⟨_, rfl, Adds.put rfl rfl ?_, rfl, rfl, rfl⟩
      have hkey := (started_of_newRecord? hr).storeKey
      rw [Config.workload_role] at hkey
      rw [hkey]
      exact hapart

theorem saveSettings_run (settings : Settings) (s : Surroundings) (w : World) :
    ∃ result w', (Records.saveSettings settings : Run _) s w = (result, w') ∧ Adds w [] w' ∧
      w'.tally.ids = w.tally.ids ∧ w'.tally.times = w.tally.times ∧
      w'.tally.writes = w.tally.writes + 1 := by
  have hsame : Adds w [] (w.afterWrite w.store) := Adds.of_same rfl rfl
  have hset : Adds w [] (w.afterWrite
      (w.store.set (Key.settings w.framework) (Json.encode settings).render)) :=
    Adds.saveSettings rfl settings rfl
  have hrun : (Records.saveSettings settings : Run _) s w = _ := write_run
    (fun store => ((), store.set (Key.settings w.framework) (Json.encode settings).render)) s w
  rw [hrun]
  cases s.writeFault w.tally.writes with
  | some reason => exact ⟨_, _, rfl, hsame, rfl, rfl, rfl⟩
  | none => exact ⟨_, _, rfl, hset, rfl, rfl, rfl⟩

/-- Fixing the address of the control plane takes one write, and it counts as fixed even if the
write fails. -/
theorem fixServer_run (role : Role) (cfg : Config) (settings : Settings) (s : Surroundings)
    (w : World) :
    ∃ settings' w', fixServer role cfg settings s w = (.ok settings', w') ∧ Adds w [] w' ∧
      w'.tally.ids = w.tally.ids ∧ w'.tally.times = w.tally.times ∧
      w'.tally.writes = w.tally.writes + (role == .server && settings.serverUrl.isNone).toNat ∧
      settings'.serverUrl.isNone =
        (settings.serverUrl.isNone && !(role == .server && settings.serverUrl.isNone)) := by
  unfold fixServer
  by_cases hopen : role = .server ∧ settings.serverUrl = none
  · obtain ⟨rfl, hurl⟩ := hopen
    obtain ⟨result, w', hsave, hadds, hids, htimes, hwrites⟩ :=
      saveSettings_run ⟨some cfg.serverUrl, some cfg.server.hostPort⟩ s w
    refine ⟨⟨some cfg.serverUrl, some cfg.server.hostPort⟩, w', ?_, hadds, hids, htimes, ?_, ?_⟩
    · simp only [hurl, and_self, if_true]
      exact bind_of_ok (attempt_of hsave) _
    · rw [hurl]
      exact hwrites
    · rw [hurl]
      rfl
  · have hclosed : (role == .server && settings.serverUrl.isNone) = false := by
      rw [Bool.eq_false_iff]
      intro h
      rw [Bool.and_eq_true, beq_iff_eq, Option.isNone_iff_eq_none] at h
      exact hopen h
    rw [if_neg hopen, hclosed]
    exact ⟨settings, w, rfl, Adds.refl w, rfl, rfl, rfl, (Bool.and_true _).symm⟩

/-- One attempt stores what is to be made, and leaves what is to be left to the others. -/
theorem createMissing_cons {records : List TaskRecord} {health : Health} (roles : List Role)
    (settings : Settings) (used : List UInt32)
    (hwants : m.wants role = (isShort m.cfg records role && health.admits role))
    (hapart : ¬ Reserved w.framework (nextKey m role w)) :
    ∃ settings' used' w', Adds w (m.made (.of w settings used) role).toList w' ∧
      w.tally.ids ≤ w'.tally.ids ∧
      Stock.of w' settings' used' = m.after (.of w settings used) role ∧
      ∀ rest w'',
        createMissing m.cfg m.identity records health roles settings' used' m.surroundings w' =
            (.ok rest, w'') →
          createMissing m.cfg m.identity records health (role :: roles) settings used m.surroundings
              w =
            (.ok ((m.made (.of w settings used) role).toList.map (·.id) ++ rest), w'') := by
  cases h : m.wants role with
  | false =>
    have hmade : m.made (.of w settings used) role = none := by simp [Maker.made, h]
    rw [hmade]
    refine ⟨settings, used, w, Adds.refl w, le_rfl, by simp [Maker.after, h],
      fun rest w'' hrest => ?_⟩
    rw [createMissing, ← hwants, h]
    exact hrest
  | true =>
    obtain ⟨w₁, hcreate, hadds, hids, htimes, hwrites⟩ := createRecord_made settings used h hapart
    cases hmade : m.made (.of w settings used) role with
    | none =>
      rw [hmade] at hcreate hadds
      refine ⟨settings, used, w₁, hadds, by omega, ?_, fun rest w'' hrest => ?_⟩
      · rw [Maker.after_of_none h hmade, Stock.of, hids, htimes, hwrites]
        rfl
      · rw [createMissing, ← hwants, h, if_pos rfl, bind_of_ok hcreate]
        exact hrest
    | some r =>
      rw [hmade] at hcreate hadds
      obtain ⟨settings', w₂, hfix, hsame, hids', htimes', hwrites', hfixed⟩ :=
        fixServer_run role m.cfg settings m.surroundings w₁
      refine ⟨settings', used ++ Ports.used [r], w₂, hadds.andSame hsame, by omega, ?_,
        fun rest w'' hrest => ?_⟩
      · rw [Maker.after_of_some h hmade, Stock.of, hids', hids, htimes', htimes, hwrites', hwrites,
          hfixed]
        rfl
      · rw [createMissing, ← hwants, h, if_pos rfl, bind_of_ok hcreate]
        dsimp only
        rw [bind_of_ok hfix, bind_of_ok hrest]
        rfl

end Attempt

/-! ### All attempts -/

/-- The id of every one of some records was drawn from one world to another. -/
def Drawn (s : Surroundings) (w w' : World) (records : List TaskRecord) : Prop :=
  ∀ r ∈ records, ∃ n, w.tally.ids ≤ n ∧ n < w'.tally.ids ∧ r.id = s.taskId n

theorem Drawn.mono {s : Surroundings} {w₀ w w' w₁ : World} {records : List TaskRecord}
    (h : Drawn s w w' records) (hle : w₀.tally.ids ≤ w.tally.ids)
    (hle' : w'.tally.ids ≤ w₁.tally.ids) : Drawn s w₀ w₁ records := by
  intro r hr
  obtain ⟨n, hn, hn', hid⟩ := h r hr
  exact ⟨n, hle.trans hn, hn'.trans_le hle', hid⟩

theorem drawn_made {m : Maker} {role : Role} {settings settings' : Settings}
    {used used' : List UInt32} {w w' : World}
    (hafter : Stock.of w' settings' used' = m.after (.of w settings used) role) :
    Drawn m.surroundings w w' (m.made (.of w settings used) role).toList := by
  intro r hr
  rw [Option.mem_toList] at hr
  have hwants : m.wants role = true := Maker.wants_of_made hr
  have hids : w'.tally.ids = w.tally.ids + 1 := by
    have h := congrArg Stock.ids hafter
    rw [Maker.after, if_pos hwants] at h
    exact h
  exact ⟨w.tally.ids, le_rfl, by omega, Maker.id_of_made hr⟩

/-- Attempts for several roles store what is to be made for each of them. -/
theorem createMissing_run {m : Maker} {records : List TaskRecord} {health : Health}
    (hwants : ∀ role, m.wants role = (isShort m.cfg records role && health.admits role))
    {roles : List Role} (hnodup : roles.Nodup) (settings : Settings) (used : List UInt32)
    {w : World}
    (hapart : ∀ n, w.tally.ids ≤ n → ∀ role,
      ¬ Reserved w.framework (Key.task m.cfg.framework.name role (m.surroundings.taskId n))) :
    ∃ w', createMissing m.cfg m.identity records health roles settings used m.surroundings w =
        (.ok ((roles.filterMap (m.record? (.of w settings used) · roles)).map (·.id)), w') ∧
      Adds w (roles.filterMap (m.record? (.of w settings used) · roles)) w' ∧
      Drawn m.surroundings w w' (roles.filterMap (m.record? (.of w settings used) · roles)) ∧
      w.tally.ids ≤ w'.tally.ids := by
  induction roles generalizing settings used w with
  | nil => exact ⟨w, rfl, Adds.refl w, fun r hr => absurd hr List.not_mem_nil, le_rfl⟩
  | cons role roles ih =>
    obtain ⟨hnotMem, hnodup⟩ := List.nodup_cons.1 hnodup
    obtain ⟨settings', used', w₁, hadds, hids, hafter, hcons⟩ :=
      createMissing_cons roles settings used (hwants role) (hapart w.tally.ids le_rfl role)
    have hapart' : ∀ n, w₁.tally.ids ≤ n → ∀ role,
        ¬ Reserved w₁.framework (Key.task m.cfg.framework.name role (m.surroundings.taskId n)) := by
      intro n hn
      rw [hadds.framework]
      exact hapart n (hids.trans hn)
    obtain ⟨w₂, hrun, hadds', hdrawn', hids'⟩ := ih hnodup settings' used' hapart'
    have hdrawn := (drawn_made hafter).mono le_rfl hids'
    rw [hafter] at hrun hadds' hdrawn'
    rw [Maker.filterMap_record?_cons hnotMem, List.map_append]
    refine ⟨w₂, hcons _ w₂ hrun, hadds.trans hadds' fun r hr r' hr' heq => ?_, fun r hr => ?_,
      hids.trans hids'⟩
    · obtain ⟨other, hother, hmade'⟩ := List.mem_filterMap.1 hr'
      rw [Option.mem_toList] at hr
      rw [Maker.storeKey_of_made hr, Maker.storeKey_of_made hmade'] at heq
      rw [(Key.task_inj heq).1] at hnotMem
      exact hnotMem hother
    · rcases List.mem_append.1 hr with hr | hr
      · exact hdrawn r hr
      · exact hdrawn'.mono hids le_rfl r hr

end Run

end Stevedore.Scheduling
