import Stevedore.Proofs.Founding

/-!
# A tick that creates a server

Where only servers are wanted and there are too few, and neither settings nor an identity are stored
yet, a tick creates a server and saves the settings (`tick_awaited`). If the settings cannot be
saved, the next process finds the world as this one found it, but for one more server
(`AwaitsServer.again`).
-/

namespace Stevedore.Scheduling

open Store (Memory)

variable {cfg base : Config} {s : Surroundings} {w : World}

/-- A server can be created if the port of the datastores is a port number. -/
theorem exists_newRecord?_server (hport : cfg.datastorePort?.isSome) (identity : Identity)
    (used : List UInt32) (id : String) (now : UInt64) :
    ∃ r, newRecord? cfg identity used .server id now = some r := by
  obtain ⟨port, hport⟩ := Option.isSome_iff_exists.1 hport
  have hport' : Build.Context.datastorePort ⟨cfg, identity, used, now⟩ = .ok port := by
    rw [Build.Context.datastorePort, hport]
  unfold newRecord?
  show ∃ r, (Build.server id ⟨cfg, identity, used, now⟩).toOption = some r
  rw [Build.server, hport']
  exact ⟨_, rfl⟩

/-- A world in which a tick creates a server and nothing else. -/
structure AwaitsServer (base : Config) (s : Surroundings) (w : World) : Prop where
  reads : ∀ k, s.readFault k = none
  nodes : w.nodes = .listed []
  settings : w.store.get? (Key.settings w.framework) = none
  identity : w.store.get? (Key.identity w.framework) = none
  datastores : base.desired .datastore = 0
  agents : base.desired .agent = 0
  short : activeCount (w.store.records w.framework) .server < (base.desired .server).toNat
  answers : ∀ n records, s.datastoreAnswers n records = true
  port : base.datastorePort?.isSome
  write : s.writeFault w.tally.writes = none

theorem nodes_probe (cfg : Config) (records : List TaskRecord) (s : Surroundings) (w : World) :
    (Run.probe cfg records s w).2.nodes = w.nodes := by
  unfold Run.probe
  have hdatastore : Run.askDatastore (running records .datastore) s w =
      (.ok (s.datastoreAnswers w.tally.questions (running records .datastore)), _) := rfl
  rw [Run.bind_of_ok hdatastore]
  by_cases hserver : (running records .server).isEmpty
  · simp only [hserver, if_true]
    rfl
  · simp only [hserver]
    rfl

theorem consultList_nil (s : Surroundings) (w : World) :
    Run.consultList (·.nodeListFault) (fun w => ([], w)) s w =
      (match s.nodeListFault w.tally.nodes with
        | some reason => .error (.store (.unavailable reason))
        | none => .ok ([] : List Node), { w with tally.nodes := w.tally.nodes + 1 }) := by
  simp only [Run.consultList]
  cases s.nodeListFault w.tally.nodes <;> rfl

theorem nodePass_nil (records : List TaskRecord) (report : TickReport) (s : Surroundings)
    (hnodes : w.nodes = .listed []) :
    (Run.nodePass records report s w).2 = { w with tally.nodes := w.tally.nodes + 1 } := by
  have hlist : Run.nodes s w = Run.consultList (·.nodeListFault) (fun w => ([], w)) s w := by
    unfold Run.nodes
    rw [Run.bind_of_ok (Run.look_run _), hnodes]
  unfold Run.nodePass
  rw [Run.bind_of_ok (Run.attempt_of (hlist.trans (consultList_nil s w)))]
  cases s.nodeListFault w.tally.nodes <;> rfl

/-- What is left when the settings have been saved, or could not be. -/
def afterSettings (s : Surroundings) (w : World) (x : Settings) : World :=
  w.afterWrite <| match s.writeFault w.tally.writes with
    | some _ => w.store
    | none => w.store.set (Key.settings w.framework) (Json.encode x).render

theorem fixServer_open (cfg : Config) (s : Surroundings) (w : World) :
    Run.fixServer .server cfg .unset s w =
      (.ok (fixedSettings cfg), afterSettings s w (fixedSettings cfg)) := by
  have hsave : (Records.saveSettings (fixedSettings cfg) : Run _) s w = _ := Run.write_run
    (fun store => ((), store.set (Key.settings w.framework)
      (Json.encode (fixedSettings cfg)).render)) s w
  have hopen : Role.server = .server ∧ Settings.unset.serverUrl = none := ⟨rfl, rfl⟩
  rw [Run.fixServer, if_pos hopen]
  unfold afterSettings
  cases hfault : s.writeFault w.tally.writes with
  | some reason =>
    rw [hfault] at hsave
    exact Run.bind_of_ok (Run.attempt_of hsave) _
  | none =>
    rw [hfault] at hsave
    exact Run.bind_of_ok (Run.attempt_of hsave) _

/-- Only the servers are short of tasks. -/
theorem createMissing_awaited (h : AwaitsServer base s w) {identity : Identity}
    {health : Health} (hadmits : health.admits .server = true) (used : List UInt32) {w₁ : World}
    (hwrite : s.writeFault w₁.tally.writes = none) {r : TaskRecord}
    (hnew : newRecord? base identity used .server (s.taskId w₁.tally.ids)
      (s.clock w₁.tally.times) = some r) :
    Run.createMissing base identity (w.store.records w.framework) health Role.all .unset used s w₁ =
      (.ok [r.id], afterSettings s (w₁.afterDraw.afterWrite (w₁.store.put r))
        (fixedSettings base)) := by
  have hdatastores : isShort base (w.store.records w.framework) .datastore = false := by
    simp [isShort, h.datastores]
  have hagents : isShort base (w.store.records w.framework) .agent = false := by
    simp [isShort, h.agents]
  have hservers : isShort base (w.store.records w.framework) .server = true :=
    decide_eq_true h.short
  have hcreate := Run.createRecord_run .server base identity used s w₁
  rw [hnew, hwrite] at hcreate
  unfold Role.all
  simp only [Run.createMissing, hdatastores, hagents, hservers, hadmits, Bool.false_and,
    Bool.and_self, Bool.false_eq_true, if_true, if_false]
  rw [Run.bind_of_ok hcreate]
  exact Run.bind_of_ok (fixServer_open base s _) _

/-- What such a tick does before it creates anything. -/
theorem tick_opening (h : AwaitsServer base s w) :
    ∃ (health : Health) (w₁ : World), health.admits .server = true ∧ w₁.store = w.store ∧
      w₁.framework = w.framework ∧ w₁.nodes = .listed [] ∧
      Stock.of w₁ .unset [] = Stock.of w .unset [] ∧
      Run.tick base s w = (Run.createMissing base .fresh (w.store.records w.framework) health
        Role.all .unset (Ports.used (w.store.records w.framework)) >>= fun created =>
          Run.nodePass (w.store.records w.framework) ⟨created, [], []⟩) s w₁ := by
  have hsettings : w.storedSettings = .ok Settings.unset := by
    unfold World.storedSettings storedAs
    rw [h.settings]
    rfl
  have hidentity : (storedAs w.store (Key.identity w.framework)).map (·.getD .fresh) =
      .ok Identity.fresh := by
    unfold storedAs
    rw [h.identity]
    rfl
  obtain ⟨i, hread⟩ := Run.looks_settings.run h.reads w
  have hreadSettings : (Records.settings : Run _) s w = (.ok .unset, w.afterReads i) :=
    hread.trans (congrArg (·, _) hsettings)
  obtain ⟨j, hreadIdentity⟩ := Run.looks_identity.run h.reads (w.afterReads i)
  have hreadIdentity' : (Records.identity : Run _) s (w.afterReads i) =
      (.ok .fresh, (w.afterReads i).afterReads j) :=
    hreadIdentity.trans (congrArg (·, _) hidentity)
  obtain ⟨k, hlist⟩ := Run.looks_listAll.run h.reads ((w.afterReads i).afterReads j)
  obtain ⟨health, w₁, hprobe, hstore, hframework, hstock, hadmits⟩ :=
    Run.probe_run base (w.store.records w.framework) s
      (((w.afterReads i).afterReads j).afterReads k)
  have hnodes : w₁.nodes = .listed [] := by
    have hprobed := nodes_probe base (w.store.records w.framework) s
      (((w.afterReads i).afterReads j).afterReads k)
    rw [hprobe] at hprobed
    exact hprobed.trans h.nodes
  have hadmits' : health.admits .server = true := (hadmits .server).trans (h.answers _ _)
  refine ⟨health, w₁, hadmits', hstore, hframework, hnodes, hstock .unset [], ?_⟩
  exact (Run.bind_of_ok hreadSettings _).trans ((Run.bind_of_ok hreadIdentity' _).trans
    ((Run.bind_of_ok hlist _).trans (Run.bind_of_ok hprobe _)))

/-- **The tick creates the server** and saves the settings, or tries to. -/
theorem tick_awaited (h : AwaitsServer base s w) :
    ∃ r w', newRecord? base .fresh (Ports.used (w.store.records w.framework)) .server
        (s.taskId w.tally.ids) (s.clock w.tally.times) = some r ∧
      (Run.tick base s w).2 = w' ∧ w'.nodes = .listed [] ∧
      w'.tally.writes = w.tally.writes + 2 ∧
      w'.store = match s.writeFault (w.tally.writes + 1) with
        | some _ => w.store.put r
        | none => (w.store.put r).set (Key.settings w.framework)
            (Json.encode (fixedSettings base)).render := by
  obtain ⟨r, hnew⟩ := exists_newRecord?_server h.port .fresh
    (Ports.used (w.store.records w.framework)) (s.taskId w.tally.ids) (s.clock w.tally.times)
  refine ⟨r, _, hnew, rfl, ?_⟩
  obtain ⟨health, w₁, hadmits, hstore, hframework, hnodes, hstock, htick⟩ := tick_opening h
  have hids : w₁.tally.ids = w.tally.ids := congrArg Stock.ids hstock
  have htimes : w₁.tally.times = w.tally.times := congrArg Stock.times hstock
  have hwrites : w₁.tally.writes = w.tally.writes := congrArg Stock.writes hstock
  rw [← hids, ← htimes] at hnew
  have hcreate := createMissing_awaited h hadmits _ (hwrites.symm ▸ h.write) hnew
  have hnodes' : (afterSettings s (w₁.afterDraw.afterWrite (w₁.store.put r))
      (fixedSettings base)).nodes = .listed [] := hnodes
  rw [htick, Run.bind_of_ok hcreate, nodePass_nil _ _ s hnodes']
  refine ⟨hnodes, congrArg (· + 2) hwrites, ?_⟩
  show (match s.writeFault (w₁.tally.writes + 1) with
    | some _ => w₁.store.put r
    | none => (w₁.store.put r).set (Key.settings w₁.framework)
        (Json.encode (fixedSettings base)).render) = _
  rw [hwrites, hstore, hframework]

/-- Its record is there, and it has been told the address of the configuration. -/
theorem AwaitsServer.creates (h : AwaitsServer base s w)
    (hname : base.framework.name = w.framework) :
    ∃ id, ∃ r : TaskRecord, (Run.tick base s w).2.store.get? (Key.task w.framework .server id) =
      some (Json.encode r).render ∧ r.serverUrl? = some base.serverUrl := by
  obtain ⟨r, w', hnew, rfl, -, -, hstore⟩ := tick_awaited h
  have hkey : r.storeKey = Key.task w.framework .server (s.taskId w.tally.ids) := by
    rw [← hname]
    exact (started_of_newRecord? hnew).storeKey
  have hagents : Role.server = .agent → True := fun _ => trivial
  obtain ⟨henlisted, hrole⟩ := enlisted_of_newRecord? hnew hagents
  have hserver : r.role ≠ .datastore := by
    rw [hrole]
    nofun
  refine ⟨s.taskId w.tally.ids, r, ?_, henlisted.serverUrl? hserver⟩
  rw [hstore, ← hkey]
  cases s.writeFault (w.tally.writes + 1) with
  | some reason => exact KeyMap.get?_insert_self ..
  | none =>
    refine (KeyMap.get?_insert_of_ne ?_).trans (KeyMap.get?_insert_self ..)
    rw [hkey]
    exact Key.task_ne_settings

/-- The settings are there unless they could not be saved. -/
theorem AwaitsServer.saves (h : AwaitsServer base s w)
    (hwrite : s.writeFault (w.tally.writes + 1) = none) :
    ((Run.tick base s w).2.store.get? (Key.settings w.framework)).isSome := by
  obtain ⟨r, w', -, rfl, -, -, hstore⟩ := tick_awaited h
  rw [hstore, hwrite]
  show (KeyMap.get? ((w.store.put r).set _ _) _).isSome
  rw [Memory.set, KeyMap.get?_insert_self]
  rfl

/-- If they could not be saved, another process that wants more servers creates the next one. -/
theorem AwaitsServer.again (h : AwaitsServer base s w) (hname : base.framework.name = w.framework)
    (hkept : Kept w.framework w.store) {reason : String}
    (hfault : s.writeFault (w.tally.writes + 1) = some reason)
    (hwrite : s.writeFault (w.tally.writes + 2) = none) {other : Config}
    (hother : other.framework.name = w.framework) (hdatastores : other.desired .datastore = 0)
    (hagents : other.desired .agent = 0) (hport : other.datastorePort?.isSome)
    (hshort : activeCount (w.store.records w.framework) .server + 1 <
      (other.desired .server).toNat) :
    AwaitsServer other s ((Run.tick base s w).2.restart other) := by
  have hticked := ticked_tick hname hkept s
  obtain ⟨r, w', hnew, rfl, hnodes, hwrites, hstore⟩ := tick_awaited h
  rw [hfault] at hstore
  have hkey : r.storeKey = Key.task w.framework .server (s.taskId w.tally.ids) := by
    rw [← hname]
    exact (started_of_newRecord? hnew).storeKey
  have hsame : ∀ {key}, key ≠ Key.task w.framework .server (s.taskId w.tally.ids) →
      (Run.tick base s w).2.store.get? key = w.store.get? key := by
    intro key hne
    rw [hstore]
    exact KeyMap.get?_insert_of_ne (hkey ▸ hne)
  have hcount : activeCount ((Run.tick base s w).2.store.records w.framework) .server ≤
      activeCount (w.store.records w.framework) .server + 1 := by
    have hgrows := hticked.grows .server
    rw [← hticked.framework, hticked.kept.activeCount_eq, hticked.framework, hkept.activeCount_eq]
    rw [hticked.framework] at hgrows
    omega
  refine ⟨h.reads, hnodes, ?_, ?_, hdatastores, hagents, ?_, h.answers, hport, ?_⟩
  · show (Run.tick base s w).2.store.get? (Key.settings other.framework.name) = none
    rw [hother, hsame Key.task_ne_settings.symm]
    exact h.settings
  · show (Run.tick base s w).2.store.get? (Key.identity other.framework.name) = none
    rw [hother, hsame Key.task_ne_identity.symm]
    exact h.identity
  · show activeCount ((Run.tick base s w).2.store.records other.framework.name) .server < _
    rw [hother]
    exact Nat.lt_of_le_of_lt hcount hshort
  · show s.writeFault (Run.tick base s w).2.tally.writes = none
    rw [hwrites]
    exact hwrite

end Stevedore.Scheduling
