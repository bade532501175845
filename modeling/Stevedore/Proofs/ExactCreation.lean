import Stevedore.Proofs.Attempts
import Stevedore.Proofs.Composition

/-!
# What a tick creates

A tick stores one new record for every role that is short of tasks, may start, and whose attempt
succeeds, and touches no other record. It fails only if it could not read what it starts from, and
then it has written nothing.
-/

namespace Stevedore.Scheduling

open Store (Memory)

/-! ### Who may start -/

/-- Whether tasks of a role may start: servers need a datastore that answers, and agents a running
server and a control plane that answers. -/
def mayStart (s : Surroundings) (cfg : Config) (w : World) (records : List TaskRecord) : Role → Bool
  | .datastore => true
  | .server => s.datastoreAnswers w.tally.questions (running records .datastore)
  | .agent => !(running records .server).isEmpty && s.serverAnswers (w.tally.questions + 1) cfg

/-- What decides about the attempts of a tick that has read some settings and an identity. A role is
wanted if fewer of its tasks are stored and have not stopped than the configuration asks for, and
its tasks may start. -/
def Maker.ofTick (base : Config) (s : Surroundings) (w : World) (settings : Settings)
    (identity : Identity) : Maker where
  surroundings := s
  cfg := base.withSettings settings
  identity := identity
  wants role :=
    decide (activeCount (w.store.records w.framework) role < (base.desired role).toNat) &&
      mayStart s (base.withSettings settings) w (w.store.records w.framework) role

namespace Run

variable {α β : Type} {s : Surroundings} {w : World}

/-- What the probes answer. They change nothing that attempts draw on. -/
theorem probe_run (cfg : Config) (records : List TaskRecord) (s : Surroundings) (w : World) :
    ∃ health w', probe cfg records s w = (.ok health, w') ∧ w'.store = w.store ∧
      w'.framework = w.framework ∧
      (∀ settings used, Stock.of w' settings used = Stock.of w settings used) ∧
      ∀ role, health.admits role = mayStart s cfg w records role := by
  have hdatastore : askDatastore (running records .datastore) s w =
      (.ok (s.datastoreAnswers w.tally.questions (running records .datastore)), _) := rfl
  unfold probe
  rw [bind_of_ok hdatastore]
  by_cases hserver : (running records .server).isEmpty
  · simp only [hserver, if_true]
    refine ⟨_, _, rfl, rfl, rfl, fun _ _ => rfl, fun role => ?_⟩
    cases role <;> simp [Health.admits, Role.dependsOn, Health.of, mayStart, hserver]
  · simp only [hserver]
    refine ⟨_, _, rfl, rfl, rfl, fun _ _ => rfl, fun role => ?_⟩
    cases role <;> simp [Health.admits, Role.dependsOn, Health.of, mayStart, hserver]

/-! ### What is done about nodes -/

/-- A run that leaves the values under all keys alone that are not reserved. -/
def Spares (m : Run α) : Prop :=
  ∀ s w, Adds w [] (m s w).2

/-- A run that does so, never fails, and whose result is as it should be. -/
def Yields (P : α → Prop) (m : Run α) : Prop :=
  ∀ s w, ∃ x w', m s w = (.ok x, w') ∧ P x ∧ Adds w [] w'

theorem spares_of_moves {m : Run α} (h : ∀ s w, ∃ issued, Moves w w.store issued (m s w).2) :
    Spares m := by
  intro s w
  obtain ⟨issued, hmoves⟩ := h s w
  exact Adds.of_same hmoves.framework hmoves.store

theorem spares_nodes : Spares nodes :=
  spares_of_moves fun s w => ⟨_, moves_nodes s w⟩

/-- Only the key of a node is removed. -/
theorem spares_forgetNode (name : String) : Spares (forgetNode name) := by
  intro s w
  obtain ⟨store, hmoves, hstore⟩ := forgetNode_moves name s w
  rcases hstore with rfl | rfl
  · exact Adds.of_same hmoves.framework hmoves.store
  · exact Adds.forgetNode hmoves.framework name hmoves.store

theorem spares_killTask (r : TaskRecord) : Spares (killTask r) := by
  refine spares_of_moves fun s w => ?_
  obtain ⟨issued, w', -, hmoves, hkill | ⟨e, hkill⟩⟩ := killTask_cases r s (w := w) rfl
  · rw [hkill]
    exact ⟨issued, hmoves⟩
  · rw [hkill]
    exact ⟨issued, hmoves⟩

theorem yields_pure {P : α → Prop} {x : α} (h : P x) : Yields P (pure x) :=
  fun _ w => ⟨x, w, rfl, h, Adds.refl w⟩

theorem Yields.bind {P : α → Prop} {Q : β → Prop} {m : Run α} {f : α → Run β} (hm : Yields P m)
    (hf : ∀ x, P x → Yields Q (f x)) : Yields Q (m >>= f) := by
  intro s w
  obtain ⟨x, w', hrun, hx, hsame⟩ := hm s w
  obtain ⟨y, w'', hrun', hy, hsame'⟩ := hf x hx s w'
  exact ⟨y, w'', (bind_of_ok hrun f).trans hrun', hy, hsame.andSame hsame'⟩

theorem yields_attempt {m : Run α} (h : Spares m) : Yields (fun _ => True) (attempt m) :=
  fun s w => ⟨_, _, attempt_run m, trivial, h s w⟩

variable {created : List String} {report : TickReport}

theorem yields_tendNode (records : List TaskRecord) (node : Node) (h : report.created = created) :
    Yields (fun report' => report'.created = created) (tendNode records node report) := by
  unfold tendNode
  cases node.taskId with
  | none => exact yields_pure h
  | some id =>
    dsimp only
    cases records.find? fun r => r.id == id with
    | none =>
      refine (yields_attempt (spares_forgetNode node.name)).bind fun result _ => ?_
      cases result <;> exact yields_pure h
    | some r =>
      by_cases hlost : node.ready ≠ .ready ∧ r.state = .running
      · dsimp only
        rw [if_pos hlost]
        refine (yields_attempt (spares_killTask r)).bind fun result _ => ?_
        cases result <;> exact yields_pure h
      · dsimp only
        rw [if_neg hlost]
        exact yields_pure h

theorem yields_tendNodes (records : List TaskRecord) (nodes : List Node)
    (h : report.created = created) :
    Yields (fun report' => report'.created = created) (tendNodes records nodes report) := by
  induction nodes generalizing report with
  | nil => exact yields_pure h
  | cons node rest ih => exact (yields_tendNode records node h).bind fun _ h' => ih h'

/-- Whatever is done about nodes, a tick ends well and has created what it had created. -/
theorem yields_nodePass (records : List TaskRecord) (report : TickReport)
    (h : report.created = created) :
    Yields (fun report' => report'.created = created) (nodePass records report) := by
  refine (yields_attempt spares_nodes).bind fun result _ => ?_
  cases result with
  | error e => exact yields_pure h
  | ok nodes => exact yields_tendNodes records nodes h

theorem ids_le_nodePass (records : List TaskRecord) (report : TickReport) (s : Surroundings)
    (w : World) : w.tally.ids ≤ (nodePass records report s w).2.tally.ids := by
  have hbuilt : Built (fun _ => False) [] (nodePass records report) := built_nodePass records report
  exact (hbuilt.confined s w).ids

end Run

/-! ### A whole tick -/

/-- Something that a tick starts from cannot be read. -/
inductive Unreadable (s : Surroundings) (w : World) (e : Fault) : Prop where
  | settings (n : Nat) (h : ((Records.settings : Run _) s (w.afterReads n)).1 = .error e)
  | identity (n : Nat) (h : ((Records.identity : Run _) s (w.afterReads n)).1 = .error e)
  | records (n : Nat) (h : ((Records.listAll : Run _) s (w.afterReads n)).1 = .error e)

/-- A key under which nothing is kept and that the framework needs for nothing else. The keys of its
own tasks are never needed for anything else (`not_reserved_task`). -/
structure Unclaimed (w : World) (key : String) : Prop where
  absent : w.store.get? key = none
  apart : ¬ Reserved w.framework key

/-- What a tick does to the store, given what decides about its attempts and what the first of them
can draw on: it stores what is made for each role, which is new, and touches no other record. -/
structure Fills (m : Maker) (k : Stock) (w : World) (created : List String) (w' : World) :
    Prop where
  created : created = (Role.all.filterMap (m.record? k · Role.all)).map (·.id)
  new : ∀ {role r}, m.record? k role Role.all = some r →
    r.role = role ∧ r.state = .unset ∧ (∃ n, w.tally.ids ≤ n ∧ r.id = m.surroundings.taskId n) ∧
      w.store.get? r.storeKey = none
  stored : ∀ {role r}, m.record? k role Role.all = some r →
    w'.store.get? r.storeKey = some (Json.encode r).render
  readable : ∀ {role r}, m.record? k role Role.all = some r →
    w'.store.record? r.storeKey = some r
  nothingElse : ∀ {key}, ¬ Reserved w.framework key →
    (∀ role r, m.record? k role Role.all = some r → key ≠ r.storeKey) →
      w'.store.get? key = w.store.get? key
  unchanged : ∀ {role id text}, w.store.get? (Key.task w.framework role id) = some text →
    w'.store.get? (Key.task w.framework role id) = some text

/-- What is made for some roles and added to a store fills it. -/
theorem fills_of_adds {m : Maker} {k : Stock} {w w' : World} (hfinite : m.cfg.Finite)
    (hids : k.ids = w.tally.ids)
    (hfresh : ∀ n, w.tally.ids ≤ n → ∀ role,
      Unclaimed w (Key.task m.cfg.framework.name role (m.surroundings.taskId n)))
    (hadds : Adds w (Role.all.filterMap (m.record? k · Role.all)) w') :
    Fills m k w ((Role.all.filterMap (m.record? k · Role.all)).map (·.id)) w' := by
  have hmem : ∀ {role r}, m.record? k role Role.all = some r →
      r ∈ Role.all.filterMap (m.record? k · Role.all) := fun {role r} h =>
    List.mem_filterMap.2 ⟨role, by cases role <;> decide, h⟩
  have hdrawn : ∀ {role}, w.tally.ids ≤ (m.stockFor k role Role.all).ids := fun {role} =>
    hids ▸ Maker.ids_le_foldl_after _
  have habsent : ∀ {role r}, m.record? k role Role.all = some r →
      w.store.get? r.storeKey = none := by
    intro role r h
    rw [Maker.storeKey_of_made h]
    exact (hfresh _ hdrawn role).absent
  have hother : ∀ {key}, ¬ Reserved w.framework key →
      (∀ role r, m.record? k role Role.all = some r → key ≠ r.storeKey) →
        w'.store.get? key = w.store.get? key := by
    intro key hkey hnew
    refine hadds.others key hkey fun r hr => ?_
    obtain ⟨role, -, hrole⟩ := List.mem_filterMap.1 hr
    exact hnew role r hrole
  refine ⟨rfl, fun {role r} h => ?_, fun h => hadds.saved _ (hmem h), fun {role r} h => ?_, hother,
    fun {role id text} htext => ?_⟩
  · exact ⟨Maker.role_of_made h, (Maker.started_of_made h).state, ⟨_, hdrawn, Maker.id_of_made h⟩,
      habsent h⟩
  · exact hadds.record?_of_mem (hmem h) ((Maker.started_of_made h).finite hfinite)
  · rw [hother not_reserved_task fun other r h heq => ?_]
    · exact htext
    · rw [heq, habsent h] at htext
      cases htext

/-- A tick only ever stores tasks of the framework that the configuration names. -/
def Apart (base : Config) (s : Surroundings) (w : World) : Prop :=
  ∀ n, w.tally.ids ≤ n → ∀ role,
    ¬ Reserved w.framework (Key.task base.framework.name role (s.taskId n))

/-- The keys of the framework's own tasks stand apart. -/
theorem apart_of_name {base : Config} {s : Surroundings} {w : World}
    (h : base.framework.name = w.framework) : Apart base s w := by
  intro n _ role
  rw [h]
  exact not_reserved_task

/-- The records that a tick stores, role by role, once it has read some settings and an identity. -/
def newRecords (base : Config) (s : Surroundings) (w : World) (settings : Settings)
    (identity : Identity) : List TaskRecord :=
  Role.all.filterMap ((Maker.ofTick base s w settings identity).record?
    (.of w settings (Ports.used (w.store.records w.framework))) · Role.all)

/-- What a tick does once it has read what it starts from: it stores what is made for each role. -/
theorem adds_after_reads {base : Config} {s : Surroundings} {w : World} (hapart : Apart base s w)
    (settings : Settings) (identity : Identity) (n : Nat) :
    ∃ health w₁ created w₂ report w₃,
      Run.probe (base.withSettings settings) (w.store.records w.framework) s (w.afterReads n) =
        (.ok health, w₁) ∧
      Run.createMissing (base.withSettings settings) identity (w.store.records w.framework) health
        Role.all settings (Ports.used (w.store.records w.framework)) s w₁ = (.ok created, w₂) ∧
      Run.nodePass (w.store.records w.framework) ⟨created, [], []⟩ s w₂ = (.ok report, w₃) ∧
      report.created = (newRecords base s w settings identity).map (·.id) ∧
      Adds w (newRecords base s w settings identity) w₃ ∧
      Run.Drawn s w w₃ (newRecords base s w settings identity) := by
  obtain ⟨health, w₁, hprobe, hstore, hframework, hstock, hadmits⟩ :=
    Run.probe_run (base.withSettings settings) (w.store.records w.framework) s (w.afterReads n)
  have hwants : ∀ role, (Maker.ofTick base s w settings identity).wants role =
      (isShort (base.withSettings settings) (w.store.records w.framework) role &&
        health.admits role) := by
    intro role
    rw [hadmits]
    cases role <;> rfl
  have hids : w₁.tally.ids = w.tally.ids := congrArg Stock.ids (hstock settings [])
  have hapart₁ : Apart base s w₁ := by
    intro n hn role
    rw [hframework]
    exact hapart n (hids ▸ hn) role
  obtain ⟨w₂, hcreate, hadds, hdrawn, -⟩ := Run.createMissing_run hwants
    (by decide : Role.all.Nodup) settings (Ports.used (w.store.records w.framework)) hapart₁
  rw [hstock] at hcreate hadds hdrawn
  obtain ⟨report, w₃, hnodes, hreport, hsame⟩ :=
    Run.yields_nodePass (w.store.records w.framework) ⟨_, [], []⟩ rfl s w₂
  have hids₃ : w₂.tally.ids ≤ w₃.tally.ids :=
    (congrArg (fun x => w₂.tally.ids ≤ x.2.tally.ids) hnodes).mp (Run.ids_le_nodePass _ _ s w₂)
  have hsame₁ : Adds w [] w₁ := Adds.of_same hframework hstore
  have hall := (hsame₁.trans hadds fun _ hr => absurd hr List.not_mem_nil).andSame hsame
  exact ⟨health, w₁, _, w₂, report, w₃, hprobe, hcreate, hnodes, hreport, hall,
    hdrawn.mono hids.ge hids₃⟩

theorem fills_after_reads {base : Config} (hfinite : base.Finite) {s : Surroundings} {w : World}
    (hfresh : ∀ n, w.tally.ids ≤ n → ∀ role,
      Unclaimed w (Key.task base.framework.name role (s.taskId n)))
    (settings : Settings) (identity : Identity) (n : Nat) :
    ∃ health w₁ created w₂ report w₃,
      Run.probe (base.withSettings settings) (w.store.records w.framework) s (w.afterReads n) =
        (.ok health, w₁) ∧
      Run.createMissing (base.withSettings settings) identity (w.store.records w.framework) health
        Role.all settings (Ports.used (w.store.records w.framework)) s w₁ = (.ok created, w₂) ∧
      Run.nodePass (w.store.records w.framework) ⟨created, [], []⟩ s w₂ = (.ok report, w₃) ∧
      Fills (.ofTick base s w settings identity)
        (.of w settings (Ports.used (w.store.records w.framework))) w report.created w₃ := by
  obtain ⟨health, w₁, created, w₂, report, w₃, hprobe, hcreate, hnodes, hreport, hadds, -⟩ :=
    adds_after_reads (fun n hn role => (hfresh n hn role).apart) settings identity n
  refine ⟨health, w₁, created, w₂, report, w₃, hprobe, hcreate, hnodes, ?_⟩
  rw [hreport]
  exact fills_of_adds (hfinite.withSettings settings) rfl hfresh hadds

/-- The settings and the identity of a framework can be read. -/
structure Readable (name : String) (store : Memory) : Prop where
  settings : ∃ x : Option Settings, storedAs store (Key.settings name) = .ok x
  identity : ∃ x : Option Identity, storedAs store (Key.identity name) = .ok x

/-- A tick that starts from some settings and an identity, and from the framework's records. -/
def Run.tickFrom (cfg : Config) (settings : Settings) (identity : Identity)
    (records : List TaskRecord) : Run TickReport := do
  let health ← probe cfg records
  let created ←
    createMissing cfg identity records health Role.all settings (Ports.used records)
  nodePass records ⟨created, [], []⟩

/-- A tick stops because it cannot read what it starts from, or starts. -/
theorem tick_starts (base : Config) (s : Surroundings) (w : World) :
    (∃ e n, Run.tick base s w = (.error e, w.afterReads n) ∧
        ((∃ k reason, s.readFault k = some reason) ∨ ¬ Readable w.framework w.store)) ∨
      ∃ settings identity n,
        (storedAs w.store (Key.settings w.framework)).map (·.getD .unset) = .ok settings ∧
        Run.tick base s w = Run.tickFrom (base.withSettings settings) settings identity
          (w.store.records w.framework) s (w.afterReads n) := by
  unfold Run.tick
  rcases Run.looks_settings.bind_cases _ s w with ⟨e, i, h, hwhy⟩ | ⟨settings, i, h, hsettings⟩
  · refine Or.inl ⟨e, i, h, hwhy.imp_right fun herror hreadable => ?_⟩
    obtain ⟨x, hx⟩ := hreadable.settings
    rw [hx] at herror
    cases herror
  rw [h]
  rcases Run.looks_identity.bind_cases _ s (w.afterReads i) with
    ⟨e, j, h, hwhy⟩ | ⟨identity, j, h, -⟩
  · refine Or.inl ⟨e, i + j, by rw [h, World.afterReads_add],
      hwhy.imp_right fun herror hreadable => ?_⟩
    obtain ⟨x, hx⟩ := hreadable.identity
    change Except.map _ (storedAs w.store (Key.identity w.framework)) = _ at herror
    rw [hx] at herror
    cases herror
  rw [h, World.afterReads_add]
  rcases Run.looks_listAll.bind_cases _ s (w.afterReads (i + j)) with
    ⟨e, l, h, hwhy⟩ | ⟨_, l, h, heq⟩
  · refine Or.inl ⟨e, i + j + l, h.trans (by rw [World.afterReads_add]), Or.inl ?_⟩
    exact hwhy.resolve_right nofun
  cases heq
  rw [World.afterReads_add] at h
  exact Or.inr ⟨settings, identity, i + j + l, hsettings, h⟩

/-- A tick stops because it cannot read what it starts from, or stores what is made for each role
and says which tasks those are. -/
theorem tick_cases {base : Config} {s : Surroundings} {w : World} (hapart : Apart base s w) :
    (∃ e n, Run.tick base s w = (.error e, w.afterReads n) ∧
        ((∃ k reason, s.readFault k = some reason) ∨ ¬ Readable w.framework w.store)) ∨
      ∃ settings identity report w', Run.tick base s w = (.ok report, w') ∧
        report.created = (newRecords base s w settings identity).map (·.id) ∧
        Adds w (newRecords base s w settings identity) w' ∧
        Run.Drawn s w w' (newRecords base s w settings identity) := by
  refine (tick_starts base s w).imp_right ?_
  rintro ⟨settings, identity, n, -, h⟩
  obtain ⟨health, w₁, created, w₂, report, w₃, hprobe, hcreate, hnodes, h'⟩ :=
    adds_after_reads hapart settings identity n
  refine ⟨settings, identity, report, w₃, ?_, h'⟩
  exact h.trans ((Run.bind_of_ok hprobe _).trans ((Run.bind_of_ok hcreate _).trans hnodes))

/-- **A tick creates exactly what is missing.** It stores one new record for every role that is
wanted and whose attempt succeeds, and says which; every other record stays as it is. Or it stops
because it cannot read what it starts from, and then it has written nothing. -/
theorem tick_creates_exactly {base : Config} (hfinite : base.Finite) {s : Surroundings} {w : World}
    (hfresh : ∀ n, w.tally.ids ≤ n → ∀ role,
      Unclaimed w (Key.task base.framework.name role (s.taskId n))) :
    (∃ e n, Run.tick base s w = (.error e, w.afterReads n) ∧ Unreadable s w e) ∨
      ∃ settings identity report w', Run.tick base s w = (.ok report, w') ∧
        (storedAs w.store (Key.settings w.framework)).map (·.getD .unset) = .ok settings ∧
        (storedAs w.store (Key.identity w.framework)).map (·.getD .fresh) = .ok identity ∧
        Fills (.ofTick base s w settings identity)
          (.of w settings (Ports.used (w.store.records w.framework))) w report.created w' := by
  obtain ⟨i, ⟨e, hsettings⟩ | ⟨settings, hsettings, hsettings'⟩⟩ := Run.looks_settings.cases s w
  · exact Or.inl ⟨e, i, Run.bind_of_error hsettings _, .settings 0 (congrArg Prod.fst hsettings)⟩
  obtain ⟨j, ⟨e, hidentity⟩ | ⟨identity, hidentity, hidentity'⟩⟩ :=
    Run.looks_identity.cases s (w.afterReads i)
  · rw [World.afterReads_add] at hidentity
    refine Or.inl ⟨e, i + j, ?_, .identity i (congrArg Prod.fst hidentity)⟩
    exact (Run.bind_of_ok hsettings _).trans (Run.bind_of_error hidentity _)
  rw [World.afterReads_add] at hidentity
  obtain ⟨l, ⟨e, hlist⟩ | ⟨records, hlist, hlist'⟩⟩ :=
    Run.looks_listAll.cases s (w.afterReads (i + j))
  · rw [World.afterReads_add] at hlist
    refine Or.inl ⟨e, i + j + l, ?_, .records (i + j) (congrArg Prod.fst hlist)⟩
    exact (Run.bind_of_ok hsettings _).trans
      ((Run.bind_of_ok hidentity _).trans (Run.bind_of_error hlist _))
  rw [World.afterReads_add] at hlist
  cases hlist'
  obtain ⟨health, w₁, created, w₂, report, w₃, hprobe, hcreate, hnodes, hfills⟩ :=
    fills_after_reads hfinite hfresh settings identity (i + j + l)
  refine Or.inr ⟨settings, identity, report, w₃, ?_, hsettings', hidentity', hfills⟩
  exact (Run.bind_of_ok hsettings _).trans ((Run.bind_of_ok hidentity _).trans
    ((Run.bind_of_ok hlist _).trans ((Run.bind_of_ok hprobe _).trans
      ((Run.bind_of_ok hcreate _).trans hnodes))))

/-- Where every question is answered with yes, the first tick creates a datastore and a server. No
server is running yet, so that there is no agent. -/
theorem tick_creates_exactly_at_first :
    let w : World := .start {} {} .stored
    ({} : Config).Finite ∧
      (∀ n, w.tally.ids ≤ n → ∀ role,
        Unclaimed w (Key.task ({} : Config).framework.name role (Surroundings.calm.taskId n))) ∧
      ∃ report w', Run.tick {} .calm w = (.ok report, w') ∧ report.created = ["", "a"] ∧
        Fills (.ofTick {} .calm w .unset .fresh) (.of w .unset []) w report.created w' := by
  intro w
  have hfresh : ∀ n, w.tally.ids ≤ n → ∀ role,
      Unclaimed w (Key.task ({} : Config).framework.name role (Surroundings.calm.taskId n)) :=
    fun _ _ _ => ⟨rfl, not_reserved_task⟩
  refine ⟨Config.finite_default, hfresh, ?_⟩
  rcases tick_creates_exactly Config.finite_default hfresh with
    ⟨e, n, -, hunreadable⟩ | ⟨settings, identity, report, w', hrun, hsettings, hidentity, hfills⟩
  · cases hunreadable with
    | settings i h =>
      obtain ⟨j, hread⟩ := Run.looks_settings.run (s := .calm) (fun _ => rfl) (w.afterReads i)
      rw [hread] at h
      cases h
    | identity i h =>
      obtain ⟨j, hread⟩ := Run.looks_identity.run (s := .calm) (fun _ => rfl) (w.afterReads i)
      rw [hread] at h
      cases h
    | records i h =>
      obtain ⟨j, hread⟩ := Run.looks_listAll.run (s := .calm) (fun _ => rfl) (w.afterReads i)
      rw [hread] at h
      cases h
  · cases hsettings
    cases hidentity
    have hused : Ports.used (w.store.records w.framework) = [] := by decide +kernel
    rw [hused] at hfills
    refine ⟨report, w', hrun, ?_, hfills⟩
    rw [hfills.created]
    decide +kernel

end Stevedore.Scheduling
