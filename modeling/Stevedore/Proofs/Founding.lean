import Stevedore.Proofs.SharedStore

/-!
# What ticks found

Servers and agents are told the address of the control plane when they are created. The first server
fixes it: after its record, the settings are saved with the address, and they are laid over every
later configuration. So a framework has no servers and no settings yet (`Unfounded`), or all its
servers and agents are told one address (`Founded`); and a tick keeps that.
-/

namespace Stevedore

/-- What a task is told about where the control plane is. -/
def TaskRecord.serverUrl? (r : TaskRecord) : Option String :=
  (r.container.env.find? fun kv => kv.key = "K3S_URL").map (·.value)

namespace Config

theorem serverUrl_setDesired (cfg : Config) (role : Role) (n : UInt32) :
    (cfg.setDesired role n).serverUrl = cfg.serverUrl := by
  cases role <;> rfl

theorem serverUrl_withSettings (cfg : Config) (settings : Settings) :
    (cfg.withSettings settings).serverUrl = settings.serverUrl.getD cfg.serverUrl := by
  cases hurl : settings.serverUrl <;> simp [serverUrl, withSettings, hurl, hostnameOf]

end Config

namespace Build

/-- Servers and agents are told the address of their configuration. -/
theorem serverUrl?_of_build {ctx : Context} {role : Role} {id : String} {r : TaskRecord}
    (h : build Builder.all (ctx.cfg.workload role) id ctx = .ok r) (hrole : role ≠ .datastore) :
    r.serverUrl? = some ctx.cfg.serverUrl := by
  cases role with
  | datastore => exact absurd rfl hrole
  | server =>
    change server id ctx = .ok r at h
    unfold server at h
    cases hport : ctx.datastorePort with
    | error e =>
      rw [hport] at h
      cases h
    | ok port =>
      rw [hport] at h
      cases h
      rfl
  | agent =>
    change agent id ctx = .ok r at h
    unfold agent at h
    by_cases hlimit : ctx.cfg.agent.restrictDisk && ctx.cfg.agent.diskLimit.le 0
    · simp only [hlimit, if_true] at h
      cases h
    · simp only [hlimit] at h
      cases h
      rfl

end Build

namespace Scheduling

open Store (Memory)

/-! ### Stored settings -/

/-- The settings in the store, which leave everything open if there are none. -/
def World.storedSettings (w : World) : Except Fault Settings :=
  (storedAs w.store (Key.settings w.framework)).map (·.getD .unset)

/-- The stored settings are laid over the configuration in force, unless they cannot be read. -/
theorem restore_cases (s : Surroundings) (w : World) :
    ∃ n, (Run.restore s w).2 = w.afterReads n ∨ ∃ x, w.storedSettings = .ok x ∧
      (Run.restore s w).2 =
        { w.afterReads n with config := w.config.update fun cfg => cfg.withSettings x } := by
  unfold Run.restore
  obtain ⟨e, i, hrun, -⟩ | ⟨x, i, hrun, hx⟩ := Run.looks_settings.bind_cases _ s w
  · exact ⟨i, Or.inl (congrArg Prod.snd hrun)⟩
  rw [hrun]
  obtain ⟨e, j, hrun, -⟩ | ⟨identity, j, hrun, -⟩ :=
    Run.looks_identity.bind_cases _ s (w.afterReads i)
  · exact ⟨i + j, Or.inl ((congrArg Prod.snd hrun).trans (w.afterReads_add i j))⟩
  · refine ⟨i + j, Or.inr ⟨x, hx, ?_⟩⟩
    rw [hrun, World.afterReads_add]
    rfl

/-! ### What a tick founds -/

/-- A record that is created by a configuration, and one of an agent only if agents may start. -/
structure Enlisted (cfg : Config) (agents : Prop) (r : TaskRecord) : Prop where
  framework : r.framework = cfg.framework.name
  serverUrl? : r.role ≠ .datastore → r.serverUrl? = some cfg.serverUrl
  agents : r.role = .agent → agents

/-- The settings that fix the address of the control plane. -/
def fixedSettings (cfg : Config) : Settings :=
  ⟨some cfg.serverUrl, some cfg.server.hostPort⟩

/-- From one world to another records are created by a configuration, and the settings are fixed at
most, if there is a server. -/
structure Founding (cfg : Config) (agents : Prop) (w w' : World) : Prop where
  framework : w'.framework = w.framework
  texts : ∀ {key text}, w'.store.get? key = some text → w.store.get? key = some text ∨
    (∃ r, Enlisted cfg agents r ∧ key = r.storeKey ∧ text = (Json.encode r).render) ∨
    (key = Key.settings w.framework ∧ text = (Json.encode (fixedSettings cfg)).render ∧
      ∃ id, (w'.store.get? (Key.task cfg.framework.name .server id)).isSome)
  stays : ∀ {key}, (w.store.get? key).isSome → (w'.store.get? key).isSome

variable {cfg : Config} {agents : Prop} {s : Surroundings} {w w' w'' : World}

namespace Founding

theorem of_same (hframework : w'.framework = w.framework) (hstore : w'.store = w.store) :
    Founding cfg agents w w' :=
  ⟨hframework, fun h => Or.inl (hstore ▸ h), fun h => hstore ▸ h⟩

theorem trans (h : Founding cfg agents w w') (h' : Founding cfg agents w' w'') :
    Founding cfg agents w w'' where
  framework := h'.framework.trans h.framework
  texts htext := by
    obtain htext | hcreated | ⟨hkey, hfixed, hserver⟩ := h'.texts htext
    · obtain hsame | hcreated | ⟨hkey, hfixed, id, hserver⟩ := h.texts htext
      · exact Or.inl hsame
      · exact Or.inr (Or.inl hcreated)
      · exact Or.inr (Or.inr ⟨hkey, hfixed, id, h'.stays hserver⟩)
    · exact Or.inr (Or.inl hcreated)
    · exact Or.inr (Or.inr ⟨h.framework ▸ hkey, hfixed, hserver⟩)
  stays hpresent := h'.stays (h.stays hpresent)

/-- A change of a single key to a text that may be founded. -/
theorem of_set {key text : String} (hframework : w'.framework = w.framework)
    (hstore : w'.store = w.store.set key text)
    (htext : (∃ r, Enlisted cfg agents r ∧ key = r.storeKey ∧ text = (Json.encode r).render) ∨
      (key = Key.settings w.framework ∧ text = (Json.encode (fixedSettings cfg)).render ∧
        ∃ id, (w'.store.get? (Key.task cfg.framework.name .server id)).isSome)) :
    Founding cfg agents w w' := by
  have hself : w'.store.get? key = some text := by
    rw [hstore]
    exact KeyMap.get?_insert_self ..
  have hother : ∀ {other}, other ≠ key → w'.store.get? other = w.store.get? other := by
    intro other hne
    rw [hstore]
    exact KeyMap.get?_insert_of_ne hne
  refine ⟨hframework, fun {other text'} htext' => ?_, fun {other} hpresent => ?_⟩
  · by_cases hkey : other = key
    · subst hkey
      rw [hself] at htext'
      cases htext'
      exact Or.inr htext
    · exact Or.inl (hother hkey ▸ htext')
  · by_cases hkey : other = key
    · rw [hkey, hself]
      rfl
    · rwa [hother hkey]

end Founding

theorem enlisted_of_newRecord? {identity : Identity} {used : List UInt32} {role : Role}
    {id : String} {now : UInt64} {r : TaskRecord}
    (h : newRecord? cfg identity used role id now = some r) (hagents : role = .agent → agents) :
    Enlisted cfg agents r ∧ r.role = role := by
  have hstarted := started_of_newRecord? h
  have hrole : r.role = role := hstarted.role.trans (Config.workload_role cfg role)
  refine ⟨⟨hstarted.framework, fun hne => ?_, fun heq => hagents (hrole ▸ heq)⟩, hrole⟩
  let ctx : Build.Context := ⟨cfg, identity, used, now⟩
  have hbuilt : Build.build Build.Builder.all (ctx.cfg.workload role) id ctx = .ok r :=
    build_of_newRecord? h
  exact Build.serverUrl?_of_build hbuilt (hrole ▸ hne)

/-- The settings are only fixed when there is a server. -/
theorem founding_fixServer (role : Role) (settings : Settings)
    (hserver : role = .server →
      ∃ id, (w.store.get? (Key.task cfg.framework.name .server id)).isSome) :
    Founding cfg agents w (Run.fixServer role cfg settings s w).2 := by
  unfold Run.fixServer
  split
  · next h =>
    have hrun : (Records.saveSettings (fixedSettings cfg) : Run _) s w = _ := Run.write_run
      (fun store => ((), store.set (Key.settings w.framework)
        (Json.encode (fixedSettings cfg)).render)) s w
    show Founding cfg agents w ((Records.saveSettings (fixedSettings cfg) : Run _) s w).2
    rw [hrun]
    cases s.writeFault w.tally.writes with
    | some reason => exact .of_same rfl rfl
    | none =>
      refine .of_set rfl rfl (Or.inr ⟨rfl, rfl, ?_⟩)
      obtain ⟨id, hid⟩ := hserver h.1
      refine ⟨id, ?_⟩
      by_cases hkey : Key.task cfg.framework.name .server id = Key.settings w.framework
      · show (KeyMap.get? (w.store.set _ _) _).isSome
        rw [hkey]
        simp [Memory.set]
      · show (KeyMap.get? (w.store.set _ _) _).isSome
        rw [Memory.set, KeyMap.get?_insert_of_ne hkey]
        exact hid
  · exact .of_same rfl rfl

/-- **What is founded when records are created.** -/
theorem founding_createMissing (identity : Identity) (records : List TaskRecord) (health : Health)
    (hagents : health.admits .agent = true → agents) (roles : List Role) (settings : Settings)
    (used : List UInt32) (w : World) :
    Founding cfg agents w
      (Run.createMissing cfg identity records health roles settings used s w).2 := by
  induction roles generalizing settings used w with
  | nil => exact .of_same rfl rfl
  | cons role roles ih =>
    unfold Run.createMissing
    split
    swap
    · exact ih settings used w
    next hwants =>
    have hadmits : role = .agent → agents := by
      rintro rfl
      exact hagents (Bool.and_eq_true_iff.1 hwants).2
    have hrun := Run.createRecord_run role cfg identity used s w
    cases hnew : newRecord? cfg identity used role (s.taskId w.tally.ids)
        (s.clock w.tally.times) with
    | none =>
      simp only [hnew] at hrun
      rw [Run.bind_of_ok hrun]
      have hdrawn : Founding cfg agents w w.afterDraw := .of_same rfl rfl
      exact hdrawn.trans (ih settings used _)
    | some r =>
      cases hfault : s.writeFault w.tally.writes with
      | some reason =>
        simp only [hnew, hfault] at hrun
        rw [Run.bind_of_ok hrun]
        have hfailed : Founding cfg agents w (w.afterDraw.afterWrite w.store) := .of_same rfl rfl
        exact hfailed.trans (ih settings used _)
      | none =>
        simp only [hnew, hfault] at hrun
        rw [Run.bind_of_ok hrun]
        obtain ⟨henlisted, hrole⟩ := enlisted_of_newRecord? hnew hadmits
        have hput : Founding cfg agents w (w.afterDraw.afterWrite (w.store.put r)) :=
          .of_set rfl rfl (Or.inl ⟨r, henlisted, rfl, rfl⟩)
        refine hput.trans (Run.bind_relates (R := Founding cfg agents) .trans ?_ fun settings w₂ =>
          Run.bind_relates (R := Founding cfg agents) .trans (ih settings _ w₂)
            fun _ _ => .of_same rfl rfl)
        refine founding_fixServer role settings fun hserver => ⟨r.id, ?_⟩
        show (KeyMap.get? (w.store.put r) _).isSome
        rw [← henlisted.framework, ← hserver, ← hrole]
        show (KeyMap.get? (w.store.put r) r.storeKey).isSome
        simp [Memory.put, Memory.set]

theorem Founding.placed (h : Founding cfg agents w w') (hplaced : Placed w.store) :
    Placed w'.store := by
  intro key x hx
  obtain ⟨text, htext, hread⟩ := Option.bind_eq_some_iff.1 hx
  obtain hsame | ⟨r, -, rfl, rfl⟩ | ⟨-, rfl, -⟩ := h.texts htext
  · exact hplaced (Option.bind_eq_some_iff.2 ⟨text, hsame, hread⟩)
  · rw [Records.eq_of_ofStored?_render hread]
  · rw [Records.ofStored?_settings] at hread
    cases hread

/-- Two stores that hold the same settings and the same tasks of all frameworks. -/
structure Alike (store store' : Memory) : Prop where
  settings : ∀ {name}, ':' ∉ name.toList →
    store'.get? (Key.settings name) = store.get? (Key.settings name)
  tasks : ∀ {name role id}, ':' ∉ name.toList →
    store'.get? (Key.task name role id) = store.get? (Key.task name role id)

/-- What is done about nodes touches neither settings nor tasks. -/
theorem alike_nodePass (records : List TaskRecord) (report : TickReport) (s : Surroundings)
    {w : World} (hplaced : Placed w.store) (hplain : ':' ∉ w.framework.toList) :
    Alike w.store (Run.nodePass records report s w).2.store where
  settings hplain' := by
    have hnodes : Run.Built (fun _ => False) [] (Run.nodePass records report) :=
      Run.built_nodePass _ _
    exact (hnodes.maintained not_false s hplaced hplain).settings hplain'
  tasks {name role id} hplain' := by
    obtain ⟨report', w', hrun, -, hadds⟩ := Run.yields_nodePass records report rfl s w
    rw [hrun]
    exact hadds.others _ (not_reserved_of_plain hplain hplain') fun _ hr =>
      absurd hr List.not_mem_nil

/-- What a tick does: it stops because it cannot read what it starts from, or it adds new records to
what is there, of which no others can be read, and goes on to the nodes. -/
theorem tick_phases {base : Config} (hapart : Apart base s w) :
    (∃ n, (Run.tick base s w).2 = w.afterReads n ∧
        ((∃ k reason, s.readFault k = some reason) ∨ ¬ Readable w.framework w.store)) ∨
      ∃ settings identity w₁ records report, w.storedSettings = .ok settings ∧
        Founding (base.withSettings settings) (running (w.store.records w.framework) .server ≠ [])
          w w₁ ∧
        Adds w (newRecords base s w settings identity) (Run.tick base s w).2 ∧
        (Run.tick base s w).2 = (Run.nodePass records report s w₁).2 := by
  obtain ⟨e, n, h, hwhy⟩ | ⟨settings, identity, n, hsettings, h⟩ := tick_starts base s w
  · exact Or.inl ⟨n, congrArg Prod.snd h, hwhy⟩
  obtain ⟨health, w₀, created, w₁, report, w₂, hprobe, hcreate, hnodes, -, hadds, -⟩ :=
    adds_after_reads hapart settings identity n
  obtain ⟨health', w₀', hprobe', hstore, hframework, -, hadmits⟩ :=
    Run.probe_run (base.withSettings settings) (w.store.records w.framework) s (w.afterReads n)
  cases hprobe.symm.trans hprobe'
  have hagents : health.admits .agent = true →
      running (w.store.records w.framework) .server ≠ [] := by
    rw [hadmits, mayStart]
    intro hmay hnil
    rw [hnil] at hmay
    cases hmay
  have hprobed : Founding (base.withSettings settings)
    (running (w.store.records w.framework) .server ≠ []) w w₀ := .of_same hframework hstore
  have hcreated : Founding (base.withSettings settings)
      (running (w.store.records w.framework) .server ≠ []) w₀
      (Run.createMissing (base.withSettings settings) identity (w.store.records w.framework) health
        Role.all settings (Ports.used (w.store.records w.framework)) s w₀).2 :=
    founding_createMissing identity _ health hagents Role.all settings _ w₀
  rw [hcreate] at hcreated
  have hrun : Run.tick base s w = (.ok report, w₂) :=
    h.trans ((Run.bind_of_ok hprobe _).trans ((Run.bind_of_ok hcreate _).trans hnodes))
  rw [hrun]
  refine Or.inr ⟨settings, identity, w₁, w.store.records w.framework, ⟨created, [], []⟩, hsettings,
    hprobed.trans hcreated, hadds, ?_⟩
  rw [hnodes]

/-- **What a tick does to a store**: it stops before it has written anything, or founds something by
its configuration with the stored settings laid over it, and goes on to the nodes. -/
theorem founding_tick {base : Config} (hapart : Apart base s w) (hplaced : Placed w.store)
    (hplain : ':' ∉ w.framework.toList) :
    (∃ n, (Run.tick base s w).2 = w.afterReads n) ∨ ∃ x w₁,
      w.storedSettings = .ok x ∧
      Founding (base.withSettings x) (running (w.store.records w.framework) .server ≠ []) w w₁ ∧
      Alike w₁.store (Run.tick base s w).2.store := by
  obtain ⟨n, hrun, -⟩ | ⟨x, identity, w₁, records, report, hx, hfounding, -, hrun⟩ :=
    tick_phases hapart
  · exact Or.inl ⟨n, hrun⟩
  · rw [hrun]
    refine Or.inr ⟨x, w₁, hx, hfounding, ?_⟩
    exact alike_nodePass records report s (hfounding.placed hplaced) (hfounding.framework ▸ hplain)

/-! ### Frameworks with and without servers -/

/-- A world whose process keeps its records under its own framework's name. -/
structure WellNamed (w : World) : Prop where
  name : w.config.current.framework.name = w.framework
  plain : ':' ∉ w.framework.toList
  placed : Placed w.store

theorem WellNamed.built {may : Liberty → Prop} {offers : List Manager.Offer} {α : Type} {m : Run α}
    (h : WellNamed w) (hbuilt : Run.Built may offers m) (s : Surroundings) :
    WellNamed (m s w).2 := by
  have hconfined := hbuilt.confined s w
  have hthroughout : Throughout (fun _ => True) w.store := ⟨h.placed, fun _ _ _ => trivial⟩
  refine ⟨?_, ?_, ?_⟩
  · rw [hconfined.framework, ← h.name]
    exact hconfined.needs.name
  · rw [hconfined.framework]
    exact h.plain
  · exact (hbuilt.throughout (lasting_true fun _ => True) (fun _ _ => trivial) s hthroughout).placed

theorem WellNamed.plain_withSettings (h : WellNamed w) (x : Settings) :
    ':' ∉ (w.config.current.withSettings x).framework.name.toList := by
  show ':' ∉ w.config.current.framework.name.toList
  rw [h.name]
  exact h.plain

theorem WellNamed.tick (h : WellNamed w) (s : Surroundings) :
    WellNamed (Run.tick w.config.current s w).2 := by
  have hbuilt : Run.Built (fun _ => True) [] (Run.tick w.config.current) :=
    Run.built_tick trivial _
  exact h.built hbuilt s

/-- A framework that has no tasks but datastores, and no settings. -/
structure Unfounded (name : String) (store : Memory) : Prop where
  manned : Manned name (fun role r => role = .datastore ∧ r.role = .datastore) store
  settings : store.get? (Key.settings name) = none

/-- The settings of a framework fix an address of the control plane. -/
def Fixed (name url : String) (store : Memory) : Prop :=
  ∃ port, store.get? (Key.settings name) = some (Json.encode (⟨some url, port⟩ : Settings)).render

/-- A framework all of whose servers and agents are told one address. It is fixed by the settings;
if there are none, a process that acts for the framework is configured with it. -/
structure Founded (name url : String) (w : World) : Prop where
  manned : Manned name (fun role r => role ≠ .datastore → r.serverUrl? = some url) w.store
  settings : Fixed name url w.store ∨ w.store.get? (Key.settings name) = none ∧
    (w.framework = name → w.config.current.serverUrl = url)

variable {name url : String}

/-- As long as there are no settings, a process of the framework is configured with the address. -/
theorem Founded.url_of_none (h : Founded name url w)
    (hnone : w.store.get? (Key.settings name) = none) (hname : w.framework = name) :
    w.config.current.serverUrl = url := by
  rcases h.settings with ⟨port, hfixed⟩ | ⟨-, hconfig⟩
  · rw [hnone] at hfixed
    cases hfixed
  · exact hconfig hname

theorem stable_datastore (role : Role) :
    Stable (fun _ => True) fun r => role = .datastore ∧ r.role = .datastore where
  edited h hedit := by cases hedit <;> exact h

theorem stable_serverUrl? (role : Role) :
    Stable (fun _ => True) fun r => role ≠ .datastore → r.serverUrl? = some url where
  edited h hedit := by cases hedit <;> exact h

theorem Unfounded.founded (h : Unfounded name w.store) :
    Founded name w.config.current.serverUrl w where
  manned role id text htext := by
    obtain ⟨r, hr, hrole, -⟩ := h.manned htext
    exact ⟨r, hr, fun hne => absurd hrole hne⟩
  settings := Or.inr ⟨h.settings, fun _ => rfl⟩

/-- A framework without servers has none that run. -/
theorem Unfounded.running_eq_nil (h : Unfounded name w.store) :
    running (w.store.records name) .server = [] := by
  rw [running, List.filter_eq_nil_iff]
  intro r hr
  obtain ⟨role, id, hr⟩ := Memory.mem_records_iff.1 hr
  obtain ⟨text, htext, hread⟩ := Option.bind_eq_some_iff.1 hr
  have hrole := ((h.manned htext).of_read hread).2
  rw [hrole]
  simp

theorem Unfounded.maintained {store store' : Memory} (h : Unfounded name store)
    (hplain : ':' ∉ name.toList) (hmaintained : Maintained store store') :
    Unfounded name store' where
  manned := hmaintained.manned hplain stable_datastore h.manned
  settings := (hmaintained.settings hplain).trans h.settings

theorem Fixed.of_eq {store store' : Memory} (h : Fixed name url store)
    (hsettings : store'.get? (Key.settings name) = store.get? (Key.settings name)) :
    Fixed name url store' := by
  obtain ⟨port, h⟩ := h
  exact ⟨port, hsettings.trans h⟩

/-- A process may be configured with another address once the settings have fixed one. -/
theorem Founded.maintained (h : Founded name url w) (hplain : ':' ∉ name.toList)
    (hmaintained : Maintained w.store w'.store) (hframework : w'.framework = w.framework)
    (hurl : w.store.get? (Key.settings w.framework) = none →
      w'.config.current.serverUrl = w.config.current.serverUrl) : Founded name url w' where
  manned := hmaintained.manned hplain stable_serverUrl? h.manned
  settings := by
    rcases h.settings with hfixed | ⟨hnone, hconfig⟩
    · exact Or.inl (hfixed.of_eq (hmaintained.settings hplain))
    · refine Or.inr ⟨(hmaintained.settings hplain).trans hnone, fun hname => ?_⟩
      rw [hframework] at hname
      rw [hurl (hname ▸ hnone)]
      exact hconfig hname

/-- The stored settings make a configuration name the address that a framework was founded with. -/
theorem Founded.serverUrl_withSettings (h : Founded name url w) (hname : w.framework = name)
    {x : Settings} (hx : w.storedSettings = .ok x) :
    (w.config.current.withSettings x).serverUrl = url := by
  rw [Config.serverUrl_withSettings]
  unfold World.storedSettings at hx
  rw [hname] at hx
  rcases h.settings with ⟨port, hfixed⟩ | ⟨hnone, hconfig⟩
  · rw [storedAs_of_render hfixed] at hx
    cases hx
    rfl
  · unfold storedAs at hx
    rw [hnone] at hx
    cases hx
    exact hconfig hname

/-! ### Ticks -/

theorem Enlisted.of_key {role : Role} {id : String} {r : TaskRecord} (h : Enlisted cfg agents r)
    (hplain : ':' ∉ name.toList) (hplain' : ':' ∉ cfg.framework.name.toList)
    (hkey : Key.task name role id = r.storeKey) : name = cfg.framework.name ∧ role = r.role := by
  rw [TaskRecord.storeKey, h.framework] at hkey
  have hunder : Key.Under name (Key.task cfg.framework.name r.role r.id) := hkey ▸ Key.under_task
  obtain rfl := hunder.unique Key.under_task hplain hplain'
  exact ⟨rfl, (Key.task_inj hkey).1⟩

theorem settings_ne_storeKey {r : TaskRecord} (hplain : ':' ∉ name.toList)
    (hplain' : ':' ∉ r.framework.toList) : Key.settings name ≠ r.storeKey := by
  intro hkey
  have hunder : Key.Under name r.storeKey := hkey ▸ Key.under_settings
  obtain rfl := hunder.unique Key.under_task hplain hplain'
  exact Key.task_ne_settings hkey.symm

theorem task_ne_settings_of_plain {name' : String} {role : Role} {id : String}
    (hplain : ':' ∉ name.toList) (hplain' : ':' ∉ name'.toList) :
    Key.task name role id ≠ Key.settings name' := by
  intro hkey
  have hunder : Key.Under name (Key.settings name') := hkey ▸ Key.under_task
  obtain rfl := hunder.unique Key.under_settings hplain hplain'
  exact Key.task_ne_settings hkey

/-- What a tick makes of the settings of a framework that is founded. -/
theorem Founding.fixed_or_none (hfounding : Founding cfg agents w w') (h : Founded name url w)
    (hplain : ':' ∉ name.toList) (hcfg : ':' ∉ cfg.framework.name.toList)
    (hname : ':' ∉ w.framework.toList) (hurl : w.framework = name → cfg.serverUrl = url) :
    Fixed name url w'.store ∨
      w.store.get? (Key.settings name) = none ∧ w'.store.get? (Key.settings name) = none := by
  cases hget : w'.store.get? (Key.settings name) with
  | none =>
    refine Or.inr ⟨?_, rfl⟩
    rw [← Option.not_isSome_iff_eq_none]
    intro hpresent
    have hstays := hfounding.stays hpresent
    rw [hget] at hstays
    cases hstays
  | some text =>
    refine Or.inl ?_
    obtain hsame | ⟨r, hr, hkey, -⟩ | ⟨hkey, rfl, -⟩ := hfounding.texts hget
    · rcases h.settings with hfixed | ⟨hnone, -⟩
      · exact hfixed.of_eq (hget.trans hsame.symm)
      · rw [hnone] at hsame
        cases hsame
    · exact absurd hkey (settings_ne_storeKey hplain (hr.framework.symm ▸ hcfg))
    · have hunder : Key.Under name (Key.settings w.framework) := hkey ▸ Key.under_settings
      have hself := hunder.unique Key.under_settings hplain hname
      refine ⟨some cfg.server.hostPort, ?_⟩
      rw [hget, fixedSettings, hurl hself.symm]

theorem Founding.manned (hfounding : Founding cfg agents w w') {P : Role → TaskRecord → Prop}
    (hmanned : Manned name P w.store) (hplain : ':' ∉ name.toList)
    (hcfg : ':' ∉ cfg.framework.name.toList) (hname : ':' ∉ w.framework.toList)
    (hnew : ∀ {r}, Enlisted cfg agents r → name = cfg.framework.name →
      (∃ id, (w'.store.get? (Key.task name r.role id)).isSome) → P r.role r) :
    Manned name P w'.store := by
  intro role id text htext
  obtain hsame | ⟨r, hr, hkey, rfl⟩ | ⟨hkey, -⟩ := hfounding.texts htext
  · exact hmanned hsame
  · obtain ⟨hself, rfl⟩ := hr.of_key hplain hcfg hkey
    exact ⟨r, rfl, hnew hr hself ⟨id, by rw [htext]; rfl⟩⟩
  · exact absurd hkey (task_ne_settings_of_plain hplain hname)

theorem confined_tick (base : Config) (s : Surroundings) (w : World) :
    Run.Confined (fun x => x = .create) w (Run.tick base s w).2 := by
  have hbuilt : Run.Built (fun x => x = .create) [] (Run.tick base) := by
    refine Run.built_tick ?_ base
    rfl
  exact hbuilt.confined s w

/-- A tick tells the new servers and agents of a framework what the others were told. -/
theorem Founded.tick (h : Founded name url w) (hnamed : WellNamed w) (hplain : ':' ∉ name.toList)
    (s : Surroundings) : Founded name url (Run.tick w.config.current s w).2 := by
  have hconfined := confined_tick w.config.current s w
  obtain ⟨n, hrun⟩ | ⟨x, w₁, hx, hfounding, halike⟩ :=
    founding_tick (apart_of_name hnamed.name) hnamed.placed hnamed.plain
  · rw [hrun]
    exact ⟨h.manned, h.settings⟩
  have hcfg := hnamed.plain_withSettings x
  have hurl : w.framework = name → (w.config.current.withSettings x).serverUrl = url :=
    fun hname => h.serverUrl_withSettings hname hx
  refine ⟨fun role id text htext => ?_, ?_⟩
  · rw [halike.tasks hplain] at htext
    refine hfounding.manned h.manned hplain hcfg hnamed.plain (fun {r} hr hself _ hrole => ?_) htext
    rw [hr.serverUrl? hrole, hurl (hnamed.name.symm.trans hself.symm)]
  · rcases hfounding.fixed_or_none h hplain hcfg hnamed.plain hurl with hafter | ⟨hnone, hnone'⟩
    · exact Or.inl (hafter.of_eq (halike.settings hplain))
    · refine Or.inr ⟨(halike.settings hplain).trans hnone', fun hname => ?_⟩
      rw [hconfined.config nofun]
      exact h.url_of_none hnone (hconfined.framework ▸ hname)

/-- A framework without servers stays one if a tick stores none. -/
theorem Unfounded.tick (h : Unfounded name w.store) (hnamed : WellNamed w)
    (hplain : ':' ∉ name.toList) (s : Surroundings)
    (hnone : ∀ id, (Run.tick w.config.current s w).2.store.get? (Key.task name .server id) = none) :
    Unfounded name (Run.tick w.config.current s w).2.store := by
  obtain ⟨n, hrun⟩ | ⟨x, w₁, hx, hfounding, halike⟩ :=
    founding_tick (apart_of_name hnamed.name) hnamed.placed hnamed.plain
  · rw [hrun]
    exact h
  have hcfg := hnamed.plain_withSettings x
  have hnone₁ : ∀ id, w₁.store.get? (Key.task name .server id) = none := fun id =>
    (halike.tasks hplain).symm.trans (hnone id)
  refine ⟨fun role id text htext => ?_, (halike.settings hplain).trans ?_⟩
  · rw [halike.tasks hplain] at htext
    refine hfounding.manned h.manned hplain hcfg hnamed.plain (fun {r} hr hself hstored => ?_)
      htext
    obtain ⟨id, hstored⟩ := hstored
    have hrole : r.role = .datastore := by
      cases hrole : r.role with
      | datastore => rfl
      | server =>
        rw [hrole, hnone₁] at hstored
        cases hstored
      | agent =>
        have hframework : w.framework = name := hnamed.name.symm.trans hself.symm
        exact absurd (hframework ▸ h.running_eq_nil) (hr.agents hrole)
    exact ⟨hrole, hrole⟩
  · cases hget : w₁.store.get? (Key.settings name) with
    | none => rfl
    | some text =>
      obtain hsame | ⟨r, hr, hkey, -⟩ | ⟨hkey, -, id, hserver⟩ := hfounding.texts hget
      · rw [h.settings] at hsame
        cases hsame
      · exact absurd hkey (settings_ne_storeKey hplain (hr.framework.symm ▸ hcfg))
      · have hunder : Key.Under name (Key.settings w.framework) := hkey ▸ Key.under_settings
        have hself := hunder.unique Key.under_settings hplain hnamed.plain
        have hframework : (w.config.current.withSettings x).framework.name = name :=
          hnamed.name.trans hself.symm
        rw [hframework, hnone₁] at hserver
        cases hserver

end Scheduling

end Stevedore
