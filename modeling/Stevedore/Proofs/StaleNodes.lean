import Stevedore.Proofs.ExactCreation
import Stevedore.Proofs.Unhindered

/-!
# Stale nodes

The object of a node is found under its key, the node is reported under the name that its object
gives, or else under the rest of its key, and it is removed under the name that it was reported
under. A tick in which nothing fails removes the objects under whose names stale nodes are reported,
and nothing else (`tick_sweeps_nodes`). These are the objects of the stale nodes themselves if every
stale node is reported under the rest of its key. Otherwise the object of another node may be
removed, and the stale one stays (`wrong_node_removed`).
-/

namespace Stevedore

/-! ### Labels -/

namespace Node

/-- Whether a node is labelled with a task that is not among some records. -/
def isStale (records : List TaskRecord) (node : Node) : Bool :=
  node.taskId.any fun id => records.all fun r => r.id != id

/-- The running task that a node is labelled with, if the node is not ready. -/
def lost? (records : List TaskRecord) (node : Node) : Option TaskRecord :=
  (node.taskId.bind fun id => records.find? fun r => r.id == id).filter fun r =>
    node.ready ≠ .ready ∧ r.state = .running

variable {records : List TaskRecord} {node : Node} {id : String}

theorem isStale_of_taskId (h : node.taskId = some id) :
    node.isStale records = (records.find? fun r => r.id == id).isNone := by
  rw [isStale, h, Option.any_some, Bool.eq_iff_iff, List.all_eq_true, Option.isNone_iff_eq_none,
    List.find?_eq_none]
  simp

theorem lost?_of_taskId (h : node.taskId = some id) :
    node.lost? records = (records.find? fun r => r.id == id).filter fun r =>
      node.ready ≠ .ready ∧ r.state = .running := by
  rw [lost?, h, Option.bind_some]

end Node

namespace Scheduling

open Store (Memory)

variable {s : Surroundings} {w w' w'' : World} {name : String}

/-! ### Up to the nodes -/

/-- From one world to another no call was made, and the nodes stayed what they were. -/
structure KeepsNodes (w w' : World) : Prop where
  source : w'.nodes = w.nodes
  framework : w'.framework = w.framework
  issued : w'.issued = w.issued
  contacts : w'.contacts = w.contacts
  node : ∀ x, w'.store.get? (Key.node w.framework x) = w.store.get? (Key.node w.framework x)

theorem KeepsNodes.refl (w : World) : KeepsNodes w w :=
  ⟨rfl, rfl, rfl, rfl, fun _ => rfl⟩

theorem KeepsNodes.trans (h : KeepsNodes w w') (h' : KeepsNodes w' w'') : KeepsNodes w w'' where
  source := h'.source.trans h.source
  framework := h'.framework.trans h.framework
  issued := h'.issued.trans h.issued
  contacts := h'.contacts.trans h.contacts
  node x := by rw [← h.node x, ← h.framework, h'.node x]

namespace Run

variable {α β : Type}

/-- A run of a framework that makes no call and leaves the nodes alone. -/
def SparesNodes (name : String) (m : Run α) : Prop :=
  ∀ s w, w.framework = name → KeepsNodes w (m s w).2

theorem sparesNodes_pure (x : α) : SparesNodes name (pure x : Run α) :=
  fun _ w _ => KeepsNodes.refl w

theorem SparesNodes.bind {m : Run α} {f : α → Run β} (hm : SparesNodes name m)
    (hf : ∀ x, SparesNodes name (f x)) : SparesNodes name (m >>= f) := by
  intro s w hw
  have hfirst := hm s w hw
  refine bind_keeps (P := fun w' => w'.framework = name ∧ KeepsNodes w w') ?_ ?_ |>.2
  · exact ⟨hfirst.framework.trans hw, hfirst⟩
  · rintro x w' ⟨hw', hkept⟩
    have hrest := hf x s w' hw'
    exact ⟨hrest.framework.trans hw', hkept.trans hrest⟩

theorem SparesNodes.attempt {m : Run α} (hm : SparesNodes name m) : SparesNodes name (attempt m) :=
  hm

theorem Looks.sparesNodes {m : Run α} {f : String → Memory → Except Fault α} (h : Looks m f) :
    SparesNodes name m := by
  intro s w _
  obtain ⟨n, hrun | ⟨-, reason, -, hrun⟩⟩ := h s w <;> rw [hrun]
  · exact ⟨rfl, rfl, rfl, rfl, fun _ => rfl⟩
  · exact ⟨rfl, rfl, rfl, rfl, fun _ => rfl⟩

theorem sparesNodes_probe (cfg : Config) (records : List TaskRecord) :
    SparesNodes name (probe cfg records) := by
  have hdatastore : SparesNodes name (askDatastore (running records .datastore)) :=
    fun _ _ _ => ⟨rfl, rfl, rfl, rfl, fun _ => rfl⟩
  have hserver : SparesNodes name (askServer cfg) := fun _ _ _ => ⟨rfl, rfl, rfl, rfl, fun _ => rfl⟩
  refine hdatastore.bind fun datastore => ?_
  dsimp only
  split
  · exact (sparesNodes_pure false).bind fun _ => sparesNodes_pure _
  · exact hserver.bind fun _ => sparesNodes_pure _

theorem sparesNodes_createRecord (role : Role) {cfg : Config} (identity : Identity)
    (used : List UInt32) (hname : cfg.framework.name = name) :
    SparesNodes name (createRecord role cfg identity used) := by
  intro s w hw
  rw [createRecord_run]
  cases hr : newRecord? cfg identity used role (s.taskId w.tally.ids) (s.clock w.tally.times) with
  | none => exact ⟨rfl, rfl, rfl, rfl, fun _ => rfl⟩
  | some r =>
    cases s.writeFault w.tally.writes with
    | some reason => exact ⟨rfl, rfl, rfl, rfl, fun _ => rfl⟩
    | none =>
      refine ⟨rfl, rfl, rfl, rfl, fun x => KeyMap.get?_insert_of_ne ?_⟩
      rw [(started_of_newRecord? hr).storeKey, hname, hw]
      exact Key.task_ne_node.symm

theorem sparesNodes_saveSettings (settings : Settings) :
    SparesNodes name (Records.saveSettings settings : Run Unit) := by
  intro s w _
  have hrun : (Records.saveSettings settings : Run _) s w = _ := write_run
    (fun store => ((), store.set (Key.settings w.framework) (Json.encode settings).render)) s w
  rw [hrun]
  cases s.writeFault w.tally.writes with
  | some reason => exact ⟨rfl, rfl, rfl, rfl, fun _ => rfl⟩
  | none =>
    exact ⟨rfl, rfl, rfl, rfl, fun x => KeyMap.get?_insert_of_ne Key.settings_ne_node.symm⟩

theorem sparesNodes_fixServer (role : Role) (cfg : Config) (settings : Settings) :
    SparesNodes name (fixServer role cfg settings) := by
  unfold fixServer
  split
  · exact (sparesNodes_saveSettings _).attempt.bind fun _ => sparesNodes_pure _
  · exact sparesNodes_pure settings

theorem sparesNodes_createMissing {cfg : Config} (hname : cfg.framework.name = name)
    (identity : Identity) (records : List TaskRecord) (health : Health) (roles : List Role)
    (settings : Settings) (used : List UInt32) :
    SparesNodes name (createMissing cfg identity records health roles settings used) := by
  induction roles generalizing settings used with
  | nil => exact sparesNodes_pure []
  | cons role roles ih =>
    unfold createMissing
    split
    · refine (sparesNodes_createRecord role identity used hname).bind fun created => ?_
      cases created with
      | none => exact ih settings used
      | some r =>
        exact (sparesNodes_fixServer role cfg settings).bind fun settings =>
          (ih settings _).bind fun _ => sparesNodes_pure _
    · exact ih settings used

/-- A tick up to what it does about nodes, with the records it has read and the tasks whose records
it has created. -/
def beforeNodes (base : Config) : Run (List TaskRecord × List String) := do
  let settings ← Records.settings
  let identity ← Records.identity
  let cfg := base.withSettings settings
  let records ← Records.listAll
  let health ← probe cfg records
  let created ←
    createMissing cfg identity records health Role.all settings (Ports.used records)
  return (records, created)

theorem tick_eq (base : Config) :
    tick base = beforeNodes base >>= fun x => nodePass x.1 ⟨x.2, [], []⟩ := by
  simp only [tick, beforeNodes, bind_assoc]
  rfl

theorem sparesNodes_beforeNodes {base : Config} (hname : base.framework.name = name) :
    SparesNodes name (beforeNodes base) := by
  refine looks_settings.sparesNodes.bind fun settings =>
    looks_identity.sparesNodes.bind fun identity => looks_listAll.sparesNodes.bind fun records =>
      (sparesNodes_probe _ _).bind fun health => ?_
  have hlaid : (base.withSettings settings).framework.name = name := hname
  exact SparesNodes.bind (sparesNodes_createMissing hlaid _ _ _ _ _ _) fun _ => sparesNodes_pure _

theorem beforeNodes_clear {delivery : Delivery} (hclear : s.Clear delivery) {base : Config}
    (hname : base.framework.name = w.framework) (hreadable : Readable w.framework w.store) :
    ∃ created w₁, beforeNodes base s w = (.ok (w.store.records w.framework, created), w₁) ∧
      KeepsNodes w w₁ := by
  have hkept : KeepsNodes w (beforeNodes base s w).2 := sparesNodes_beforeNodes hname s w rfl
  obtain ⟨settings, hsettings⟩ := hreadable.settings
  obtain ⟨identity, hidentity⟩ := hreadable.identity
  obtain ⟨i, hfirst⟩ := looks_settings.run hclear.reads w
  rw [hsettings] at hfirst
  obtain ⟨j, hsecond⟩ := looks_identity.run hclear.reads (w.afterReads i)
  change _ = (Except.map _ (storedAs w.store (Key.identity w.framework)), _) at hsecond
  rw [hidentity, World.afterReads_add] at hsecond
  obtain ⟨l, hthird⟩ := listAll_clear hclear (w.afterReads (i + j))
  rw [World.afterReads_add] at hthird
  obtain ⟨health, w₁, created, w₂, -, -, hprobe, hcreate, -⟩ :=
    adds_after_reads (s := s) (apart_of_name hname) (settings.getD .unset)
      (identity.getD .fresh) (i + j + l)
  have hrun : beforeNodes base s w = (.ok (w.store.records w.framework, created), w₂) :=
    (bind_of_ok hfirst _).trans ((bind_of_ok hsecond _).trans ((bind_of_ok hthird _).trans
      ((bind_of_ok hprobe _).trans (bind_of_ok hcreate _))))
  rw [hrun] at hkept
  exact ⟨created, w₂, hrun, hkept⟩

end Run

/-! ### The nodes -/

/-- The call that stops a task. -/
def killing (r : TaskRecord) : Manager.Call :=
  .killing ⟨r.id⟩ (r.agentId.map Manager.Id.mk)

/-- What a tick says it has changed once it has tended to some nodes, too. -/
def TickReport.after (report : TickReport) (records : List TaskRecord) (nodes : List Node) :
    TickReport :=
  { report with
    killed := report.killed ++ (nodes.filterMap (·.lost? records)).map (·.id)
    forgotten := report.forgotten ++ (nodes.filter (·.isStale records)).map (·.name) }

theorem TickReport.after_append (report : TickReport) (records : List TaskRecord)
    (nodes rest : List Node) :
    (report.after records nodes).after records rest = report.after records (nodes ++ rest) := by
  simp [TickReport.after]

/-- From one world to another some nodes were tended to in order, without a failure. -/
structure Visited (records : List TaskRecord) (nodes : List Node) (w w' : World) : Prop where
  source : w'.nodes = w.nodes
  framework : w'.framework = w.framework
  gone : ∀ node ∈ nodes, node.isStale records →
    w'.store.get? (Key.node w.framework node.name) = none
  kept : ∀ key, (∀ node ∈ nodes, node.isStale records → key ≠ Key.node w.framework node.name) →
    w'.store.get? key = w.store.get? key
  issued : w'.issued.map (·.call) =
    w.issued.map (·.call) ++ (nodes.filterMap (·.lost? records)).map killing
  calls : w'.calls = w.calls ++ (nodes.filterMap (·.lost? records)).map killing

namespace Visited

variable {records : List TaskRecord} {nodes rest : List Node}

theorem idle {nodes : List Node} (hstale : ∀ node ∈ nodes, node.isStale records = false)
    (hlost : nodes.filterMap (·.lost? records) = []) (w : World) : Visited records nodes w w := by
  refine ⟨rfl, rfl, fun node hnode h => ?_, fun _ _ => rfl, ?_, ?_⟩
  · rw [hstale node hnode] at h
    cases h
  · rw [hlost]
    exact (List.append_nil _).symm
  · rw [hlost]
    exact (List.append_nil _).symm

theorem trans (h : Visited records nodes w w') (h' : Visited records rest w' w'') :
    Visited records (nodes ++ rest) w w'' where
  source := h'.source.trans h.source
  framework := h'.framework.trans h.framework
  gone node hnode hstale := by
    by_cases hagain : ∃ later ∈ rest, later.isStale records ∧ later.name = node.name
    · obtain ⟨later, hlater, hstale', hsame⟩ := hagain
      rw [← hsame, ← h.framework]
      exact h'.gone later hlater hstale'
    · have hfirst : node ∈ nodes :=
        (List.mem_append.1 hnode).resolve_right fun hrest => hagain ⟨node, hrest, hstale, rfl⟩
      rw [h'.kept _ fun later hlater hstale' heq => hagain ⟨later, hlater, hstale', ?_⟩]
      · exact h.gone node hfirst hstale
      · rw [h.framework] at heq
        exact (Key.node_injective _ heq).symm
  kept key hkey := by
    rw [h'.kept key fun node hnode => h.framework ▸ hkey node (List.mem_append_right _ hnode)]
    exact h.kept key fun node hnode => hkey node (List.mem_append_left _ hnode)
  issued := by
    rw [h'.issued, h.issued, List.filterMap_append, List.map_append, List.append_assoc]
  calls := by
    rw [h'.calls, h.calls, List.filterMap_append, List.map_append, List.append_assoc]

end Visited

namespace Run

variable {records : List TaskRecord}

theorem forgetNode_clear {delivery : Delivery} (hclear : s.Clear delivery)
    (hstored : w.nodes = .stored) (x : String) :
    forgetNode x s w = (.ok (), w.afterWrite (w.store.erase (Key.node w.framework x))) := by
  have hwrite : write (fun store => store.delete (Key.node w.framework x)) s w =
      (.ok (w.store.delete (Key.node w.framework x)).1,
        w.afterWrite (w.store.erase (Key.node w.framework x))) := by
    rw [write_run, hclear.writes]
    rfl
  rw [forgetNode_run hstored]
  exact bind_of_ok hwrite _

theorem killTask_clear (hclear : s.Clear .applied) (r : TaskRecord) :
    ∃ w', killTask r s w = (.ok (), w') ∧ w'.nodes = w.nodes ∧
      Moves w w.store [⟨killing r, .applied, w.store⟩] w' := by
  simp only [killTask, call, hclear.calls]
  exact ⟨_, rfl, rfl, rfl, rfl, rfl, rfl, rfl, rfl, rfl⟩

theorem visited_stale {node : Node} (hstale : node.isStale records = true)
    (hlost : node.lost? records = none) (w : World) :
    Visited records [node] w (w.afterWrite (w.store.erase (Key.node w.framework node.name))) := by
  refine ⟨rfl, rfl, List.forall_mem_singleton.2 fun _ => KeyMap.get?_erase_self .., ?_, ?_, ?_⟩
  · intro key hkey
    exact KeyMap.get?_erase_of_ne (hkey node (List.mem_singleton_self node) hstale)
  · simp [hlost, World.afterWrite]
  · simp [hlost, World.afterWrite, World.calls]

theorem visited_lost {node : Node} {r : TaskRecord} (hstale : node.isStale records = false)
    (hlost : node.lost? records = some r) (hsource : w'.nodes = w.nodes)
    (hmoves : Moves w w.store [⟨killing r, .applied, w.store⟩] w') :
    Visited records [node] w w' := by
  refine ⟨hsource, hmoves.framework, ?_, fun key _ => by rw [hmoves.store], ?_, ?_⟩
  · refine List.forall_mem_singleton.2 fun h => ?_
    rw [hstale] at h
    cases h
  · simp [hlost, hmoves.issued]
  · simp [hlost, World.calls, hmoves.contacts, heard]

/-- One node is tended to: it is removed, its task is stopped, or nothing is done. -/
theorem tendNode_clear (hclear : s.Clear .applied) (hstored : w.nodes = .stored)
    (records : List TaskRecord) (node : Node) (report : TickReport) :
    ∃ w', tendNode records node report s w = (.ok (report.after records [node]), w') ∧
      Visited records [node] w w' := by
  have hidle : node.isStale records = false → node.lost? records = none →
      report.after records [node] = report ∧ Visited records [node] w w := by
    intro hstale hlost
    exact ⟨by simp [TickReport.after, hstale, hlost],
      .idle (List.forall_mem_singleton.2 hstale) (by simp [hlost]) w⟩
  unfold tendNode
  cases htask : node.taskId with
  | none =>
    have hstale : node.isStale records = false := by rw [Node.isStale, htask, Option.any_none]
    have hlost : node.lost? records = none := by rw [Node.lost?, htask]; rfl
    obtain ⟨hreport, hvisited⟩ := hidle hstale hlost
    rw [hreport]
    exact ⟨w, rfl, hvisited⟩
  | some id =>
    have hstale : node.isStale records = _ := Node.isStale_of_taskId htask
    have hlost : node.lost? records = _ := Node.lost?_of_taskId htask
    dsimp only
    cases hfind : records.find? fun r => r.id == id with
    | none =>
      rw [hfind] at hstale hlost
      refine ⟨_, (bind_of_ok (attempt_of (forgetNode_clear hclear hstored node.name)) _).trans ?_,
        visited_stale hstale hlost w⟩
      have hreport : report.after records [node] =
          { report with forgotten := report.forgotten ++ [node.name] } := by
        simp [TickReport.after, hstale, hlost]
      rw [hreport]
      rfl
    | some r =>
      rw [hfind] at hstale hlost
      by_cases hkill : node.ready ≠ .ready ∧ r.state = .running
      · dsimp only
        rw [if_pos hkill]
        rw [Option.filter_some, if_pos (decide_eq_true hkill)] at hlost
        obtain ⟨w', hrun, hsource, hmoves⟩ := killTask_clear hclear r
        refine ⟨w', (bind_of_ok (attempt_of hrun) _).trans ?_,
          visited_lost hstale hlost hsource hmoves⟩
        have hreport : report.after records [node] =
            { report with killed := report.killed ++ [r.id] } := by
          simp [TickReport.after, hstale, hlost]
        rw [hreport]
        rfl
      · dsimp only
        rw [if_neg hkill]
        rw [Option.filter_some, if_neg (by simpa using hkill)] at hlost
        obtain ⟨hreport, hvisited⟩ := hidle hstale hlost
        rw [hreport]
        exact ⟨w, rfl, hvisited⟩

theorem tendNodes_clear (hclear : s.Clear .applied) (hstored : w.nodes = .stored)
    (records : List TaskRecord) (nodes : List Node) (report : TickReport) :
    ∃ w', tendNodes records nodes report s w = (.ok (report.after records nodes), w') ∧
      Visited records nodes w w' := by
  induction nodes generalizing report w with
  | nil =>
    have hreport : report.after records [] = report := by simp [TickReport.after]
    rw [hreport]
    exact ⟨w, rfl, .idle (fun _ h => absurd h List.not_mem_nil) rfl w⟩
  | cons node rest ih =>
    obtain ⟨w₁, hrun, hvisited⟩ := tendNode_clear hclear hstored records node report
    obtain ⟨w', hrest, hvisited'⟩ :=
      ih (hvisited.source.trans hstored) (report.after records [node])
    rw [TickReport.after_append] at hrest
    exact ⟨w', (bind_of_ok hrun _).trans hrest, hvisited.trans hvisited'⟩

/-- Where nothing fails, the pass over the nodes tends to all nodes that are stored. -/
theorem nodePass_clear (hclear : s.Clear .applied) (hstored : w.nodes = .stored)
    (records : List TaskRecord) (report : TickReport) :
    ∃ w', nodePass records report s w =
        (.ok (report.after records (w.store.nodes w.framework)), w') ∧
      Visited records (w.store.nodes w.framework) w w' := by
  obtain ⟨n, hlist⟩ := looks_listNodes.run hclear.reads w
  have hnodes : nodes s w = (.ok (w.store.nodes w.framework), w.afterReads n) :=
    (nodes_run hstored).trans hlist
  have hvisited₀ : Visited records [] w (w.afterReads n) :=
    ⟨rfl, rfl, nofun, fun _ _ => rfl, (List.append_nil _).symm, (List.append_nil _).symm⟩
  obtain ⟨w', hrun, hvisited⟩ :=
    tendNodes_clear (w := w.afterReads n) hclear hstored records (w.store.nodes w.framework) report
  exact ⟨w', (bind_of_ok (attempt_of hnodes) _).trans hrun, hvisited₀.trans hvisited⟩

end Run

/-- What a tick does about the nodes in a store if nothing fails. It comes to them in `w₁`. -/
structure SweepsNodes (w w₁ w' : World) : Prop where
  /-- An object is removed if a stale node is reported under the rest of its key. -/
  objects : ∀ x, w'.store.get? (Key.node w.framework x) =
    if ∃ node ∈ w.store.nodes w.framework,
      node.isStale (w.store.records w.framework) ∧ node.name = x then none
    else w.store.get? (Key.node w.framework x)
  /-- These are the objects of stale nodes if stale nodes are reported under the rest of their
  keys. -/
  stale : (∀ x node, w.store.node? w.framework x = some node →
      node.isStale (w.store.records w.framework) → node.name = x) →
    ∀ x, w'.store.get? (Key.node w.framework x) =
      if (w.store.node? w.framework x).any (·.isStale (w.store.records w.framework)) then none
      else w.store.get? (Key.node w.framework x)
  /-- Nothing else changes from there on. -/
  others : ∀ key, (∀ x, key ≠ Key.node w.framework x) → w'.store.get? key = w₁.store.get? key
  /-- Every running task whose node is not ready is stopped, once for each of its nodes. -/
  issued : w'.issued.map (·.call) = w.issued.map (·.call) ++
    ((w.store.nodes w.framework).filterMap (·.lost? (w.store.records w.framework))).map killing
  calls : w'.calls = w.calls ++
    ((w.store.nodes w.framework).filterMap (·.lost? (w.store.records w.framework))).map killing

/-- What tending to all nodes does, if they are still those of the world in which the tick began. -/
theorem Visited.sweeps {w₁ : World} (hkept : KeepsNodes w w₁)
    (h : Visited (w.store.records w.framework) (w.store.nodes w.framework) w₁ w') :
    SweepsNodes w w₁ w' := by
  have hobjects : ∀ x, w'.store.get? (Key.node w.framework x) =
      if ∃ node ∈ w.store.nodes w.framework,
        node.isStale (w.store.records w.framework) ∧ node.name = x then none
      else w.store.get? (Key.node w.framework x) := by
    intro x
    split
    · next hnamed =>
      obtain ⟨node, hnode, hstale, rfl⟩ := hnamed
      exact hkept.framework ▸ h.gone node hnode hstale
    · next hnamed =>
      rw [h.kept _ fun node hnode hstale heq => hnamed ⟨node, hnode, hstale, ?_⟩, hkept.node x]
      rw [hkept.framework] at heq
      exact (Key.node_injective _ heq).symm
  refine ⟨hobjects, fun hown x => ?_, fun key hkey => ?_, ?_, ?_⟩
  · have hnamed : (∃ node ∈ w.store.nodes w.framework,
        node.isStale (w.store.records w.framework) ∧ node.name = x) ↔
        (w.store.node? w.framework x).any (·.isStale (w.store.records w.framework)) := by
      constructor
      · rintro ⟨node, hnode, hstale, hname⟩
        obtain ⟨y, hy⟩ := Memory.mem_nodes_iff.1 hnode
        rw [← hname, hown y node hy hstale, hy]
        exact hstale
      · intro hany
        cases hx : w.store.node? w.framework x with
        | none =>
          rw [hx] at hany
          cases hany
        | some node =>
          rw [hx] at hany
          exact ⟨node, Memory.mem_nodes_iff.2 ⟨x, hx⟩, hany, hown x node hx hany⟩
    rw [hobjects x, if_congr hnamed rfl rfl]
  · exact h.kept key fun node _ _ => hkept.framework ▸ hkey node.name
  · rw [h.issued, hkept.issued]
  · rw [h.calls, World.calls, hkept.contacts]
    rfl

/-- **A tick removes the objects under whose names stale nodes are reported.** Where nothing fails
and the nodes are in the store, a tick reads the records, creates what is missing, and then removes
and stops what it should, whatever is stored. -/
theorem tick_sweeps_nodes {base : Config} (hclear : s.Clear .applied)
    (hname : base.framework.name = w.framework) (hstored : w.nodes = .stored)
    (hreadable : Readable w.framework w.store) :
    ∃ created w₁ report w', Run.beforeNodes base s w =
        (.ok (w.store.records w.framework, created), w₁) ∧
      Run.nodePass (w.store.records w.framework) ⟨created, [], []⟩ s w₁ = (.ok report, w') ∧
      Run.tick base s w = (.ok report, w') ∧
      report = TickReport.after ⟨created, [], []⟩ (w.store.records w.framework)
        (w.store.nodes w.framework) ∧
      SweepsNodes w w₁ w' := by
  obtain ⟨created, w₁, hbefore, hkept⟩ := Run.beforeNodes_clear hclear hname hreadable
  obtain ⟨w', hpass, hvisited⟩ := Run.nodePass_clear hclear (hkept.source.trans hstored)
    (w.store.records w.framework) ⟨created, [], []⟩
  have hnodes : w₁.store.nodes w₁.framework = w.store.nodes w.framework := by
    rw [hkept.framework]
    exact Memory.nodes_congr hkept.node
  rw [hnodes] at hpass hvisited
  refine ⟨created, w₁, _, w', hbefore, hpass, ?_, rfl, hvisited.sweeps hkept⟩
  rw [Run.tick_eq]
  exact (Run.bind_of_ok hbefore _).trans hpass

/-- Of two nodes in a store, the tick removes the one of a task that is not there. -/
theorem tick_sweeps_one_of_two :
    let store : Memory := ((∅ : Memory).set (Key.node "keel" "a")
      "\x7b\"metadata\":\x7b\"labels\":\x7b\"keel.dev/taskid\":\"gone\"\x7d\x7d\x7d").set
        (Key.node "keel" "b") "\x7b\x7d"
    let w := World.start {} store .stored
    Surroundings.calm.Clear .applied ∧ ({} : Config).framework.name = w.framework ∧
      w.nodes = .stored ∧ Readable w.framework w.store ∧
      ∃ w₁ report w', Run.tick {} .calm w = (.ok report, w') ∧ SweepsNodes w w₁ w' ∧
        w'.store.get? (Key.node "keel" "a") = none ∧
        w'.store.get? (Key.node "keel" "b") = some "\x7b\x7d" := by
  intro store w
  have hname : ({} : Config).framework.name = w.framework := rfl
  have hreadable : Readable w.framework w.store := ⟨⟨none, rfl⟩, ⟨none, rfl⟩⟩
  obtain ⟨created, w₁, report, w', -, -, htick, -, hsweeps⟩ :=
    tick_sweeps_nodes Surroundings.clear_calm hname rfl hreadable
  refine ⟨Surroundings.clear_calm, rfl, rfl, hreadable, w₁, report, w', htick, hsweeps, ?_, ?_⟩
  · exact (hsweeps.objects "a").trans (by decide +kernel)
  · exact (hsweeps.objects "b").trans (by decide +kernel)

/-- A stale node that is reported under the name of another: the tick removes the object of the
other node, which no task is named for, and the stale one stays. -/
theorem wrong_node_removed :
    let cfg : Config :=
      { datastore := { instances := 0 }, server := { instances := 0 }, agent := { instances := 0 } }
    let store : Memory := ((∅ : Memory).set (Key.node "keel" "a")
      ("\x7b\"metadata\":\x7b\"name\":\"b\"," ++
        "\"labels\":\x7b\"keel.dev/taskid\":\"gone\"\x7d\x7d\x7d")).set
          (Key.node "keel" "b") "\x7b\"metadata\":\x7b\"name\":\"b\"\x7d\x7d"
    let w := World.start cfg store .stored
    let w' := (Run.tick cfg .calm w).2
    w.store.node? "keel" "a" = some ⟨"b", some "gone", .unknown⟩ ∧
      w.store.node? "keel" "b" = some ⟨"b", none, .unknown⟩ ∧ w.store.records "keel" = [] ∧
      w'.store.get? (Key.node "keel" "a") = w.store.get? (Key.node "keel" "a") ∧
      w'.store.get? (Key.node "keel" "b") = none := by
  decide +kernel

end Scheduling

end Stevedore
