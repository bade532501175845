import Stevedore.Proofs.RecordAccess
import Stevedore.Scheduling.Tick

/-!
# New records

What is known of a record that has just been built, and what the section that creates it does.
-/

namespace Stevedore

namespace Config

/-- What new tasks of a role need. -/
def resources (cfg : Config) : Role → Resources
  | .datastore => ⟨cfg.datastore.cpus, cfg.datastore.mem, cfg.datastore.disk⟩
  | .server => ⟨cfg.server.cpus, cfg.server.mem, cfg.server.disk⟩
  | .agent => ⟨cfg.agent.cpus, cfg.agent.mem, cfg.agent.disk⟩

/-- A configuration by which new tasks need finite amounts of everything. -/
structure Finite (cfg : Config) : Prop where
  cpus : ∀ role, (cfg.resources role).cpus.isFinite = true
  mem : ∀ role, (cfg.resources role).mem.isFinite = true
  disk : ∀ role, (cfg.resources role).disk.isFinite = true
  cpuLimit : cfg.agent.cpuLimit.isFinite = true
  memLimit : cfg.agent.memLimit.isFinite = true

theorem workload_role (cfg : Config) (role : Role) : (cfg.workload role).role = role := by
  cases role <;> rfl

theorem resources_withSettings (cfg : Config) (settings : Settings) (role : Role) :
    (cfg.withSettings settings).resources role = cfg.resources role := by
  cases role <;> rfl

theorem Finite.withSettings {cfg : Config} (h : cfg.Finite) (settings : Settings) :
    (cfg.withSettings settings).Finite where
  cpus role := by
    rw [resources_withSettings]
    exact h.cpus role
  mem role := by
    rw [resources_withSettings]
    exact h.mem role
  disk role := by
    rw [resources_withSettings]
    exact h.disk role
  cpuLimit := h.cpuLimit
  memLimit := h.memLimit

theorem finite_default : ({} : Config).Finite where
  cpus role := by cases role <;> decide +kernel
  mem role := by cases role <;> decide +kernel
  disk role := by cases role <;> decide +kernel
  cpuLimit := by decide +kernel
  memLimit := by decide +kernel

end Config

namespace Build

variable {ctx : Context} {workload : Workload} {id : String} {r : TaskRecord}

/-- What is known of a new record. -/
structure Started (ctx : Context) (workload : Workload) (id : String) (r : TaskRecord) : Prop where
  id : r.id = id
  framework : r.framework = ctx.cfg.framework.name
  workload : r.workload = workload
  state : r.state = .unset
  agentId : r.agentId = none
  agentHostname : r.agentHostname = none
  resources : r.resources = ctx.cfg.resources r.role
  limits : ∀ l, r.limits = some l → l = ⟨ctx.cfg.agent.cpuLimit, ctx.cfg.agent.memLimit⟩

theorem Started.finite (h : Started ctx workload id r) (hfinite : ctx.cfg.Finite) : r.Finite where
  cpus := by
    rw [h.resources]
    exact hfinite.cpus _
  mem := by
    rw [h.resources]
    exact hfinite.mem _
  disk := by
    rw [h.resources]
    exact hfinite.disk _
  limits l hl := by
    rw [h.limits l hl]
    exact ⟨hfinite.cpuLimit, hfinite.memLimit⟩

theorem Started.role (h : Started ctx workload id r) : r.role = workload.role := by
  rw [TaskRecord.role, h.workload]

theorem Started.storeKey (h : Started ctx workload id r) :
    r.storeKey = Key.task ctx.cfg.framework.name workload.role id := by
  rw [TaskRecord.storeKey, h.framework, h.role, h.id]

theorem started_datastore {backend : Backend} (h : datastore backend id ctx = .ok r) :
    Started ctx (.datastore backend) id r := by
  unfold datastore at h
  cases hport : ctx.datastorePort with
  | error e =>
    rw [hport] at h
    cases h
  | ok port =>
    cases hhost : datastoreHostPort ctx with
    | error e =>
      rw [hport, hhost] at h
      cases h
    | ok hostPort =>
      rw [hport, hhost] at h
      cases h
      exact ⟨rfl, rfl, rfl, rfl, rfl, rfl, rfl, nofun⟩

theorem started_server (h : server id ctx = .ok r) : Started ctx .server id r := by
  unfold server at h
  cases hport : ctx.datastorePort with
  | error e =>
    rw [hport] at h
    cases h
  | ok port =>
    rw [hport] at h
    cases h
    exact ⟨rfl, rfl, rfl, rfl, rfl, rfl, rfl, nofun⟩

theorem started_agent (h : agent id ctx = .ok r) : Started ctx .agent id r := by
  unfold agent at h
  by_cases hlimit : ctx.cfg.agent.restrictDisk && ctx.cfg.agent.diskLimit.le 0
  · simp only [hlimit, if_true] at h
    cases h
  · simp only [hlimit] at h
    cases h
    refine ⟨rfl, rfl, rfl, rfl, rfl, rfl, rfl, fun l hl => ?_⟩
    by_cases henforce : ctx.cfg.framework.enforceLimits
    · simp only [henforce, if_true] at hl
      exact (Option.some.inj hl).symm
    · simp only [henforce] at hl
      cases hl

/-- **A new record is a record of what was asked for**, wanted and not yet considered. -/
theorem started_build (h : build Builder.all workload id ctx = .ok r) :
    Started ctx workload id r := by
  cases workload with
  | datastore backend =>
    cases backend with
    | embedded => exact started_datastore h
    | relational => exact started_datastore h
  | server => exact started_server h
  | agent => exact started_agent h

end Build

/-! ### Ports of datastores -/

namespace Ports

theorem mem_of_lowestFree?_eq_none {taken : List UInt32} {low count : Nat}
    (h : lowestFree? taken low count = none) {i : Nat} (hi : i < count) :
    UInt32.ofNat (low + i) ∈ taken := by
  induction count generalizing low i with
  | zero => omega
  | succ count ih =>
    unfold lowestFree? at h
    split at h
    · next htaken =>
      cases i with
      | zero => exact htaken
      | succ i =>
        have hrest := ih h (Nat.lt_of_succ_lt_succ hi)
        rwa [Nat.add_assoc, Nat.add_comm 1 i] at hrest
    · cases h

/-- **A free port is found** as long as fewer are taken than there are. -/
theorem exists_allocate? {taken : List UInt32} {first last : UInt32}
    (h : first.toNat + taken.length ≤ last.toNat) :
    ∃ port, allocate? taken first last = some port := by
  rw [← Option.isSome_iff_exists, Option.isSome_iff_ne_none]
  intro hnone
  have hlast := last.toNat_lt
  have hsubset : (List.range (last.toNat + 1 - first.toNat)).map
      (fun i => UInt32.ofNat (first.toNat + i)) ⊆ taken := by
    intro port hport
    obtain ⟨i, hi, rfl⟩ := List.mem_map.1 hport
    exact mem_of_lowestFree?_eq_none hnone (List.mem_range.1 hi)
  have hnodup : ((List.range (last.toNat + 1 - first.toNat)).map
      fun i => UInt32.ofNat (first.toNat + i)).Nodup := by
    refine List.Nodup.map_on (fun i hi j hj heq => ?_) List.nodup_range
    rw [List.mem_range] at hi hj
    have hnat := congrArg UInt32.toNat heq
    have hword : ∀ {k}, k < last.toNat + 1 - first.toNat → first.toNat + k < UInt32.size := by
      intro k hk
      show first.toNat + k < 2 ^ 32
      omega
    rw [UInt32.toNat_ofNat_of_lt' (hword hi), UInt32.toNat_ofNat_of_lt' (hword hj)] at hnat
    omega
  have hlength := (List.subperm_of_subset hnodup hsubset).length_le
  rw [List.length_map, List.length_range] at hlength
  omega

end Ports

namespace Scheduling

open Store (Memory)

/-- The record that is built for a role when some ports are taken, if one can be. -/
def newRecord? (cfg : Config) (identity : Identity) (used : List UInt32) (role : Role) (id : String)
    (now : UInt64) : Option TaskRecord :=
  (Build.build Build.Builder.all (cfg.workload role) id ⟨cfg, identity, used, now⟩).toOption

theorem build_of_newRecord? {cfg : Config} {identity : Identity} {used : List UInt32}
    {role : Role} {id : String} {now : UInt64} {r : TaskRecord}
    (h : newRecord? cfg identity used role id now = some r) :
    Build.build Build.Builder.all (cfg.workload role) id ⟨cfg, identity, used, now⟩ = .ok r := by
  unfold newRecord? at h
  cases hbuild :
      Build.build Build.Builder.all (cfg.workload role) id ⟨cfg, identity, used, now⟩ with
  | error e =>
    rw [hbuild] at h
    cases h
  | ok r' =>
    rw [hbuild] at h
    cases h
    rfl

theorem started_of_newRecord? {cfg : Config} {identity : Identity} {used : List UInt32}
    {role : Role} {id : String} {now : UInt64} {r : TaskRecord}
    (h : newRecord? cfg identity used role id now = some r) :
    Build.Started ⟨cfg, identity, used, now⟩ (cfg.workload role) id r :=
  Build.started_build (build_of_newRecord? h)

/-- A datastore can be created if its port is a port number and a host port is left for it. -/
theorem exists_newRecord?_datastore (cfg : Config) (identity : Identity) {used : List UInt32}
    (hport : cfg.datastorePort?.isSome)
    (hfree : cfg.scheduler.portRangeStart.toNat + used.length < cfg.scheduler.portRangeEnd.toNat)
    (id : String) (now : UInt64) :
    ∃ r, newRecord? cfg identity used .datastore id now = some r := by
  obtain ⟨port, hport⟩ := Option.isSome_iff_exists.1 hport
  have hroom : cfg.scheduler.portRangeStart.toNat + (cfg.server.hostPort :: used).length ≤
      cfg.scheduler.portRangeEnd.toNat := by
    rw [List.length_cons]
    omega
  obtain ⟨hostPort, hhost⟩ := Ports.exists_allocate? hroom
  have hbuild : Build.build Build.Builder.all (cfg.workload .datastore) id
      ⟨cfg, identity, used, now⟩ = Build.datastore cfg.datastore.backend id
        ⟨cfg, identity, used, now⟩ := by
    show Build.build Build.Builder.all (.datastore cfg.datastore.backend) id _ = _
    cases cfg.datastore.backend <;> rfl
  have hport' : Build.Context.datastorePort ⟨cfg, identity, used, now⟩ = .ok port := by
    rw [Build.Context.datastorePort, hport]
  have hhost' : Build.datastoreHostPort ⟨cfg, identity, used, now⟩ = .ok hostPort := by
    rw [Build.datastoreHostPort, hhost]
  unfold newRecord?
  rw [hbuild, Build.datastore, hport', hhost']
  exact ⟨_, rfl⟩

/-- The world after an id was drawn and the clock was read. -/
def World.afterDraw (w : World) : World :=
  { w with tally.ids := w.tally.ids + 1, tally.times := w.tally.times + 1 }

/-- The world after a write that made the store what it is now. -/
def World.afterWrite (w : World) (store : Memory) : World :=
  { w with store := store, tally.writes := w.tally.writes + 1 }

namespace Run

theorem write_run {α : Type} (f : Memory → α × Memory) (s : Surroundings) (w : World) :
    write f s w =
      match s.writeFault w.tally.writes with
      | some reason => (.error (.store (.unavailable reason)), w.afterWrite w.store)
      | none => (.ok (f w.store).1, w.afterWrite (f w.store).2) := by
  simp only [write]
  cases s.writeFault w.tally.writes <;> rfl

theorem save_run (r : TaskRecord) (s : Surroundings) (w : World) :
    (Records.save r : Run _) s w =
      match s.writeFault w.tally.writes with
      | some reason => (.error (.store (.unavailable reason)), w.afterWrite w.store)
      | none => (.ok (), w.afterWrite (w.store.put r)) :=
  write_run (fun store => ((), store.put r)) s w

/-- A creation draws an id, builds the record, and saves it if both go well. -/
theorem createRecord_run (role : Role) (cfg : Config) (identity : Identity) (used : List UInt32)
    (s : Surroundings) (w : World) :
    createRecord role cfg identity used s w =
      match newRecord? cfg identity used role (s.taskId w.tally.ids) (s.clock w.tally.times) with
      | none => (.ok none, w.afterDraw)
      | some r =>
        match s.writeFault w.tally.writes with
        | some _ => (.ok none, w.afterDraw.afterWrite w.store)
        | none => (.ok (some r), w.afterDraw.afterWrite (w.store.put r)) := by
  have hid : drawId s w =
      (.ok (s.taskId w.tally.ids), { w with tally.ids := w.tally.ids + 1 }) := rfl
  unfold createRecord newRecord?
  rw [bind_of_ok hid, bind_of_ok now_run]
  dsimp only
  cases Build.build Build.Builder.all (cfg.workload role) (s.taskId w.tally.ids)
    ⟨cfg, identity, used, s.clock w.tally.times⟩ with
  | error e => rfl
  | ok r =>
    dsimp only [Except.toOption]
    have hsave := save_run r s w.afterDraw
    cases hfault : s.writeFault w.tally.writes with
    | some reason =>
      have hfault' : s.writeFault w.afterDraw.tally.writes = some reason := hfault
      rw [hfault'] at hsave
      exact bind_of_ok (attempt_of hsave) _
    | none =>
      have hfault' : s.writeFault w.afterDraw.tally.writes = none := hfault
      rw [hfault'] at hsave
      exact bind_of_ok (attempt_of hsave) _

theorem store_createRecord {role : Role} {cfg : Config} {identity : Identity} {used : List UInt32}
    {s : Surroundings} {w : World} {r : TaskRecord}
    (hnew : newRecord? cfg identity used role (s.taskId w.tally.ids) (s.clock w.tally.times) =
      some r)
    (hwrite : s.writeFault w.tally.writes = none) :
    (createRecord role cfg identity used s w).2.store = w.store.put r := by
  rw [createRecord_run, hnew, hwrite]
  rfl

end Run

/-! ### Where nothing fails -/

/-- Surroundings in which nothing fails. The ids grow letter by letter. -/
def Surroundings.calm : Surroundings where
  readFault _ := none
  writeFault _ := none
  delivery _ _ := .applied
  clock n := UInt64.ofNat n
  taskId n := String.ofList (List.replicate n 'a')
  datastoreAnswers _ _ := true
  serverAnswers _ _ := true
  nodeListFault _ := none
  nodeForgetFault _ := none
  machine := none

theorem Surroundings.calm_taskId_injective : Function.Injective Surroundings.calm.taskId := by
  intro m n h
  have hlength := congrArg (fun id => id.toList.length) h
  simpa [Surroundings.calm] using hlength

/-- Where nothing fails, an agent of the default configuration is created. -/
theorem createRecord_calm (w : World) :
    ∃ r : TaskRecord,
      Build.Started ⟨{}, .fresh, [], Surroundings.calm.clock w.tally.times⟩ .agent
        (Surroundings.calm.taskId w.tally.ids) r ∧
      r.createdAt = Surroundings.calm.clock w.tally.times ∧
      r.Finite ∧
      Run.createRecord .agent {} .fresh [] .calm w =
        (.ok (some r), w.afterDraw.afterWrite (w.store.put r)) := by
  obtain ⟨r, hr, hcreated⟩ : ∃ r, newRecord? {} .fresh [] .agent
      (Surroundings.calm.taskId w.tally.ids) (Surroundings.calm.clock w.tally.times) = some r ∧
        r.createdAt = Surroundings.calm.clock w.tally.times :=
    ⟨_, rfl, rfl⟩
  have hstarted := started_of_newRecord? hr
  refine ⟨r, hstarted, hcreated, hstarted.finite Config.finite_default, ?_⟩
  rw [Run.createRecord_run, hr]
  rfl

end Scheduling

end Stevedore
