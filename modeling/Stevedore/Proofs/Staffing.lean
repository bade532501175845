import Stevedore.Proofs.Completion
import Stevedore.Proofs.Headcount
import Stevedore.Proofs.OfferSignal

/-!
# No more tasks than are wanted

Where new tasks need finite amounts, cycles and events never store more records of a role than are
wanted, because every record that a tick stores is counted by the next tick. A record that needs an
infinite amount is written but cannot be read again, so that every tick stores another one
(`le_count_of_insatiable`).
-/

namespace Stevedore.Scheduling

open Store (Memory)

variable {cfg : Config} {s : Surroundings} {w : World}

/-! ### Finite needs -/

/-- What cycles and events keep: the configuration, and records that can all be read and are no more
than are wanted. -/
structure Staffed (cfg : Config) (w : World) : Prop where
  framework : w.framework = cfg.framework.name
  config : w.config.current = cfg
  kept : Kept w.framework w.store
  legible : Legible w.framework w.store
  within : ∀ role, (w.store.roleRecords w.framework role).length ≤ (cfg.desired role).toNat

theorem Staffed.count_le (h : Staffed cfg w) (role : Role) :
    w.store.count (Key.tasks cfg.framework.name role) ≤ (cfg.desired role).toNat := by
  rw [← h.framework, h.legible.count_eq]
  exact h.within role

/-- What neither creates records nor changes the configuration leaves no more tasks than before. -/
theorem staffed_of_built {may : Liberty → Prop} (hcreate : ¬ may .create)
    (hconfigure : ¬ may .configure) {offers : List Manager.Offer} {α : Type} {m : Run α}
    (h : Run.Built may offers m) (s : Surroundings) (hw : Staffed cfg w) :
    Staffed cfg (m s w).2 := by
  have hconfined := h.confined s w
  have hupkeep := h.upkeep hcreate s hw.kept
  refine ⟨hconfined.framework.trans hw.framework, ?_, ?_, ?_, fun role => ?_⟩
  · rw [hconfined.config hconfigure, hw.config]
  · rw [hconfined.framework]
    exact hupkeep.kept hw.kept
  · rw [hconfined.framework]
    exact hupkeep.keeps_legible hw.legible
  · rw [hconfined.framework]
    exact (hupkeep.length_roleRecords_le role).trans (hw.within role)

theorem staffed_tick (hfinite : cfg.Finite) (s : Surroundings) (hw : Staffed cfg w) :
    Staffed cfg (Run.tick cfg s w).2 := by
  have hticked := ticked_tick hw.framework.symm hw.kept s
  have hbuilt : Run.Built (.create = ·) [] (Run.tick cfg) := Run.built_tick rfl cfg
  have hconfined := hbuilt.confined s w
  refine ⟨hconfined.framework.trans hw.framework, ?_, hticked.kept,
    hticked.legible hfinite hw.legible, fun role => ?_⟩
  · rw [hconfined.config nofun, hw.config]
  · rcases hticked.grows role with hle | ⟨hshort, hle⟩
    · exact hle.trans (hw.within role)
    · omega

/-- **One cycle or event stores no more tasks than are wanted.** -/
theorem staffed_action (hfinite : cfg.Finite) (s : Surroundings) {action : Action}
    (haction : action = .cycle ∨ ∃ event, action = .event event) (hw : Staffed cfg w) :
    Staffed cfg (action.run s w) := by
  let may (x : Liberty) : Prop := x = .signal ∨ x = .reset ∨ ∃ status, x = .report status
  rcases haction with rfl | ⟨event, rfl⟩
  · show Staffed cfg (Run.cycle s w).2
    rw [Run.cycle_run, hw.config]
    refine Run.bind_keeps (staffed_tick hfinite s hw) fun report w₁ hw₁ => ?_
    have hbuilt : Run.Built may [] (Run.followUp report) := Run.built_followUp (Or.inl rfl) report
    exact staffed_of_built (by simp [may]) (by simp [may]) hbuilt s hw₁
  · have hbuilt : Run.Built may (Run.offersOf event) (Run.handleEvent event) :=
      Run.built_handleEvent (Or.inl rfl) (Or.inr (Or.inl rfl))
        fun status _ => Or.inr (Or.inr ⟨status, rfl⟩)
    exact staffed_of_built (by simp [may]) (by simp [may]) hbuilt s hw

theorem staffed_runActions (hfinite : cfg.Finite) (s : Surroundings) {actions : List Action}
    (hactions : ∀ action ∈ actions, action = .cycle ∨ ∃ event, action = .event event)
    (hw : Staffed cfg w) : Staffed cfg (runActions s w actions) := by
  induction actions generalizing w with
  | nil => exact hw
  | cons action rest ih =>
    refine ih (fun a ha => hactions a (List.mem_cons_of_mem action ha)) ?_
    exact staffed_action hfinite s (hactions action List.mem_cons_self) hw

theorem staffed_start (cfg : Config) {store : Memory} (nodes : NodeSource)
    (hempty : ∀ role id, store.get? (Key.task cfg.framework.name role id) = none) :
    Staffed cfg (.start cfg store nodes) where
  framework := rfl
  config := rfl
  kept := kept_of_no_records fun role id => by
    show (store.get? (Key.task cfg.framework.name role id)).bind _ = none
    rw [hempty, Option.bind_none]
  legible role id hpresent := by
    have habsent : (World.start cfg store nodes).store.get?
      (Key.task (World.start cfg store nodes).framework role id) = none := hempty role id
    rw [habsent] at hpresent
    cases hpresent
  within role := by
    have hnone : ∀ id, (store.record? (Key.task cfg.framework.name role id)).isSome →
        Key.task cfg.framework.name role id ∈ [] := by
      intro id hid
      rw [Memory.record?, hempty] at hid
      cases hid
    exact (Memory.length_roleRecords_le hnone).trans (Nat.zero_le _)

/-- **There are never more tasks than are wanted.** Where new tasks need finite amounts, any run of
cycles and events that begins without tasks leaves at most as many keys of a role's tasks as tasks
of the role are wanted, whatever the probes answer and whatever fails. -/
theorem never_more_than_wanted (hfinite : cfg.Finite) (s : Surroundings) {store : Memory}
    (nodes : NodeSource)
    (hempty : ∀ role id, store.get? (Key.task cfg.framework.name role id) = none)
    {actions : List Action}
    (hactions : ∀ action ∈ actions, action = .cycle ∨ ∃ event, action = .event event)
    (role : Role) :
    (runActions s (.start cfg store nodes) actions).store.count
      (Key.tasks cfg.framework.name role) ≤ (cfg.desired role).toNat :=
  (staffed_runActions hfinite s hactions (staffed_start cfg nodes hempty)).count_le role

/-- One datastore is wanted, and two cycles leave at most one. -/
theorem never_more_than_one_datastore :
    ({} : Config).Finite ∧
      (∀ role id, (∅ : Memory).get? (Key.task ({} : Config).framework.name role id) = none) ∧
      (∀ action ∈ [Action.cycle, .event .heartbeat, .cycle],
        action = .cycle ∨ ∃ event, action = .event event) ∧
      (runActions .calm (.start {} ∅ .stored) [.cycle, .event .heartbeat, .cycle]).store.count
        (Key.tasks "keel" .datastore) ≤ 1 := by
  have hempty : ∀ role id,
      (∅ : Memory).get? (Key.task ({} : Config).framework.name role id) = none := fun _ _ => rfl
  have hactions : ∀ action ∈ [Action.cycle, .event .heartbeat, .cycle],
      action = .cycle ∨ ∃ event, action = .event event := by
    simp
  refine ⟨Config.finite_default, hempty, hactions, ?_⟩
  exact never_more_than_wanted Config.finite_default .calm .stored hempty hactions .datastore

/-! ### Infinite needs -/

/-- A configuration that wants datastores only, each of which needs infinitely many processors. -/
structure Insatiable (cfg : Config) : Prop where
  infinite : cfg.datastore.cpus.isFinite = false
  wanted : 0 < (cfg.desired .datastore).toNat
  server : cfg.desired .server = 0
  agent : cfg.desired .agent = 0
  port : cfg.datastorePort?.isSome
  ports : cfg.scheduler.portRangeStart.toNat < cfg.scheduler.portRangeEnd.toNat

/-- What cycles keep then: no record can be read, and there are at least so many keys of datastores,
each with an id that was drawn. -/
structure Starving (cfg : Config) (s : Surroundings) (n : Nat) (w : World) : Prop where
  framework : w.framework = cfg.framework.name
  config : w.config.current = cfg
  blank : ∀ role id, w.store.record? (Key.task w.framework role id) = none
  readable : Readable w.framework w.store
  drawn : ∀ id, (w.store.get? (Key.task w.framework .datastore id)).isSome →
    ∃ k < w.tally.ids, s.taskId k = id
  many : n ≤ w.store.count (Key.tasks w.framework .datastore)

theorem Starving.records_eq_nil {n : Nat} (h : Starving cfg s n w) :
    w.store.records w.framework = [] := by
  rw [List.eq_nil_iff_forall_not_mem]
  intro r hr
  obtain ⟨role, id, hr⟩ := Memory.mem_records_iff.1 hr
  rw [h.blank] at hr
  cases hr

/-- Where no record can be read, a cycle does nothing to the store after its tick. -/
theorem store_followUp (hreads : ∀ k, s.readFault k = none)
    (hnone : w.store.records w.framework = []) (report : TickReport) :
    (Run.followUp report s w).2.store = w.store := by
  obtain ⟨n, hpromote⟩ : ∃ n, Run.promoteUnset s w = (.ok 0, w.afterReads n) := by
    refine Run.promoteUnset_of_settled hreads fun r hr => ?_
    rw [hnone] at hr
    cases hr
  have hevaluation := evaluation_evaluate (!report.created.isEmpty) s (w.afterReads n)
  have hstore : (Run.evaluate (!report.created.isEmpty) s (w.afterReads n)).2.store = w.store :=
    hevaluation.store
  unfold Run.followUp
  rw [Run.bind_of_ok hpromote]
  cases hrun : Run.evaluate (!report.created.isEmpty) s (w.afterReads n) with
  | mk result w' =>
    rw [hrun] at hstore
    cases result with
    | error e =>
      rw [Run.bind_of_error hrun]
      exact hstore
    | ok b =>
      rw [Run.bind_of_ok hrun]
      exact hstore

/-- No record that is stored then can be read again. -/
theorem unreadable_of_mem (hcfg : Insatiable cfg)
    {settings : Settings} {identity : Identity} {r : TaskRecord}
    (hr : r ∈ newRecords cfg s w settings identity) :
    (Records.ofStored? (Json.encode r).render : Option TaskRecord) = none := by
  have hnew := provided_of_mem hr
  have hshort := hnew.short
  rw [Option.eq_none_iff_forall_not_mem]
  intro x hx
  have hcpus := (Records.finite_of_ofStored?_render hx).cpus
  rw [hnew.resources] at hcpus
  cases hrole : r.role with
  | datastore =>
    rw [hrole] at hcpus
    exact absurd (hcfg.infinite.symm.trans hcpus) (by decide)
  | server =>
    rw [hrole, hcfg.server] at hshort
    exact absurd hshort (Nat.not_lt_zero _)
  | agent =>
    rw [hrole, hcfg.agent] at hshort
    exact absurd hshort (Nat.not_lt_zero _)

section Runaway

variable (hcfg : Insatiable cfg) (hreads : ∀ k, s.readFault k = none)
  (hwrites : ∀ k, s.writeFault k = none) (hfresh : Function.Injective s.taskId)
include hcfg hreads hwrites hfresh

theorem starving_tick {n : Nat} (h : Starving cfg s n w) :
    ∃ report w', Run.tick cfg s w = (.ok report, w') ∧ Starving cfg s (n + 1) w' := by
  have hname : cfg.framework.name = w.framework := h.framework.symm
  obtain ⟨settings, identity, report, w', htick, -, hadds, hdrawn⟩ :=
    tick_of_readable hname hreads h.readable
  have hframework := hadds.framework
  have hbuilt : Run.Built (.create = ·) [] (Run.tick cfg) := Run.built_tick rfl cfg
  have hconfined := hbuilt.confined s w
  rw [htick] at hconfined
  have hown : ∀ r ∈ newRecords cfg s w settings identity, r.framework = w.framework :=
    fun r hr => (provided_of_mem hr).framework.trans h.framework.symm
  refine ⟨report, w', htick, hframework.trans h.framework, ?_, fun role id => ?_,
    hadds.readable hown h.readable, fun id hid => ?_, ?_⟩
  · rw [hconfined.config nofun, h.config]
  · rw [hframework]
    rcases hadds.get?_cases role id with hsame | ⟨r, hr, -, htext⟩
    · rw [record?_congr hsame]
      exact h.blank role id
    · rw [Memory.record?, htext, Option.bind_some, unreadable_of_mem hcfg hr]
  · rw [hframework] at hid
    rcases hadds.get?_cases .datastore id with hsame | ⟨r, hr, hkey, -⟩
    · rw [hsame] at hid
      obtain ⟨k, hk, hdrawn⟩ := h.drawn id hid
      exact ⟨k, hk.trans_le hconfined.ids, hdrawn⟩
    · obtain ⟨k, -, hk, hrid⟩ := hdrawn r hr
      rw [TaskRecord.storeKey, hown r hr] at hkey
      exact ⟨k, hk, hrid.symm.trans (Key.task_inj hkey).2.symm⟩
  · -- the key of the new datastore joins the keys that were there
    have hactive : activeCount (w.store.records w.framework) .datastore = 0 := by
      rw [h.records_eq_nil]
      rfl
    obtain ⟨r, hr, hrole, hrid⟩ : ∃ r ∈ newRecords cfg s w settings identity,
        r.role = .datastore ∧ r.id = s.taskId w.tally.ids := by
      refine exists_datastore_mem_newRecords ?_ hcfg.port ?_ (hwrites _)
      · rw [hactive]
        exact hcfg.wanted
      · rw [h.records_eq_nil]
        exact hcfg.ports
    have hkey : r.storeKey = Key.task w.framework .datastore (s.taskId w.tally.ids) := by
      rw [TaskRecord.storeKey, hown r hr, hrole, hrid]
    have habsent : r.storeKey ∉ w.store.scan (Key.tasks w.framework .datastore) := by
      rw [Memory.mem_scan_iff, hkey]
      rintro ⟨hpresent, -⟩
      obtain ⟨k, hk, hdrawn⟩ := h.drawn _ hpresent
      exact hk.ne (hfresh hdrawn)
    have hsubset : r.storeKey :: w.store.scan (Key.tasks w.framework .datastore) ⊆
        w'.store.scan (Key.tasks w.framework .datastore) := by
      intro key hmem
      rcases List.mem_cons.1 hmem with rfl | hmem
      · rw [Memory.mem_scan_iff, hadds.saved r hr, hkey]
        exact ⟨rfl, Key.beginsWith_task_iff.2 ⟨_, rfl⟩⟩
      · obtain ⟨hpresent, hbegins⟩ := Memory.mem_scan_iff.1 hmem
        obtain ⟨id, rfl⟩ := Key.beginsWith_task_iff.1 hbegins
        exact Memory.mem_scan_iff.2 ⟨hadds.present hpresent, hbegins⟩
    have hnodup := List.nodup_cons.2
      ⟨habsent, w.store.nodup_scan (Key.tasks w.framework .datastore)⟩
    have hlength := (List.subperm_of_subset hnodup hsubset).length_le
    rw [List.length_cons, Memory.length_scan, Memory.length_scan] at hlength
    rw [hframework]
    exact (Nat.succ_le_succ h.many).trans hlength

/-- **Every cycle stores one more datastore.** -/
theorem starving_cycle {n : Nat} (h : Starving cfg s n w) :
    Starving cfg s (n + 1) (Run.cycle s w).2 := by
  obtain ⟨report, w₁, htick, h₁⟩ := starving_tick hcfg hreads hwrites hfresh h
  rw [Run.cycle_run, h.config, Run.bind_of_ok htick]
  have hstore := store_followUp hreads h₁.records_eq_nil report
  have hbuilt : Run.Built (.signal = ·) [] (Run.followUp report) := Run.built_followUp rfl report
  have hconfined := hbuilt.confined s w₁
  refine ⟨hconfined.framework.trans h₁.framework, ?_, ?_, ?_, ?_, ?_⟩
  · rw [hconfined.config nofun, h₁.config]
  · rw [hstore, hconfined.framework]
    exact h₁.blank
  · rw [hstore, hconfined.framework]
    exact h₁.readable
  · rw [hstore, hconfined.framework]
    intro id hid
    obtain ⟨k, hk, hdrawn⟩ := h₁.drawn id hid
    exact ⟨k, hk.trans_le hconfined.ids, hdrawn⟩
  · rw [hstore, hconfined.framework]
    exact h₁.many

/-- **Where datastores need infinitely many processors, cycles never stop storing new ones**, if the
store does not fail. -/
theorem le_count_of_insatiable (nodes : NodeSource) (n : Nat) :
    n ≤ (runActions s (.start cfg ∅ nodes) (List.replicate n .cycle)).store.count
      (Key.tasks cfg.framework.name .datastore) := by
  have hrun : ∀ n m w, Starving cfg s m w →
      Starving cfg s (m + n) (runActions s w (List.replicate n .cycle)) := by
    intro n
    induction n with
    | zero => exact fun m w h => h
    | succ n ih =>
      intro m w h
      rw [← Nat.succ_add_eq_add_succ]
      exact ih (m + 1) _ (starving_cycle hcfg hreads hwrites hfresh h)
  have hstart : Starving cfg s 0 (.start cfg ∅ nodes) :=
    ⟨rfl, rfl, fun _ _ => rfl, readable_of_absent rfl rfl, nofun, Nat.zero_le _⟩
  have h := hrun n 0 _ hstart
  rw [Nat.zero_add] at h
  rw [← h.framework]
  exact h.many

end Runaway

/-- Valid settings by which a datastore needs infinitely many processors. -/
def infiniteProcessors : Config where
  datastore := { cpus := .infinite false }
  server := { instances := 0 }
  agent := { instances := 0 }

/-- A valid configuration by which one datastore is wanted and two cycles store two. -/
theorem two_datastores_for_one :
    infiniteProcessors.validate = .ok () ∧ (infiniteProcessors.desired .datastore).toNat = 1 ∧
      2 ≤ (runActions .calm (.start infiniteProcessors ∅ .stored) [.cycle, .cycle]).store.count
        (Key.tasks infiniteProcessors.framework.name .datastore) := by
  have hcfg : Insatiable infiniteProcessors :=
    ⟨rfl, by decide, rfl, rfl, by decide +kernel, by decide⟩
  refine ⟨by decide +kernel, rfl, ?_⟩
  exact le_count_of_insatiable hcfg (fun _ => rfl) (fun _ => rfl)
    Surroundings.calm_taskId_injective .stored 2

end Stevedore.Scheduling
