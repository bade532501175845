import Stevedore.Proofs.OwnKeys
import Stevedore.Proofs.SharedStore

/-!
# Frameworks that share a store

Every operation of a framework is domestic: it is put together from reads, scans and writes of own
keys, whatever the ids of tasks and the names of nodes are, and from steps that do not reach the
store. Since names have no colons, no key is an own key of two frameworks, and so no operation
touches what another framework keeps, nor does it do anything else because of it
(`other_keys_inert`).

The one thing that all of this needs of the store is that the records found under own keys name own
keys. That holds of every store that frameworks share from the start (`Shared.housed`).
-/

namespace Stevedore.Scheduling

open Manager (Event FrameworkInfo Offer TaskStatus)
open Store (Memory)

namespace Run

variable {α : Type} {name : String} {s : Surroundings}

/-! ### Cycles -/

theorem homely_probe (cfg : Config) (records : List TaskRecord) :
    Homely name s (probe cfg records) := by
  refine (homely_askDatastore _).bind fun datastore _ => ?_
  dsimp only
  split
  · exact .pure trivial
  · exact (homely_askServer cfg).result _

theorem homely_createRecord (role : Role) {cfg : Config} (hname : cfg.framework.name = name)
    (identity : Identity) (used : List UInt32) :
    Homely name s (createRecord role cfg identity used) := by
  refine homely_drawId.bind fun id _ => homely_now.bind fun now _ => ?_
  cases hbuild :
    Build.build Build.Builder.all (cfg.workload role) id ⟨cfg, identity, used, now⟩ with
  | error e => exact .pure trivial
  | ok r =>
    have hown : Key.Under name r.storeKey := by
      rw [(Build.started_build hbuild).storeKey, ← hname]
      exact Key.under_task
    refine (homely_save hown).attempt.bind fun saved _ => ?_
    cases saved <;> exact .pure trivial

theorem homely_fixServer (role : Role) (cfg : Config) (settings : Settings) :
    Homely name s (fixServer role cfg settings) := by
  unfold fixServer
  split
  · exact (homely_saveSettings _).attempt.result _
  · exact .pure trivial

theorem homely_createMissing {cfg : Config} (hname : cfg.framework.name = name)
    (identity : Identity) (records : List TaskRecord) (health : Health) (roles : List Role)
    (settings : Settings) (used : List UInt32) :
    Homely name s (createMissing cfg identity records health roles settings used) := by
  induction roles generalizing settings used with
  | nil => exact .pure trivial
  | cons role roles ih =>
    unfold createMissing
    split
    · refine (homely_createRecord role hname identity used).bind fun created _ => ?_
      cases created with
      | none => exact ih settings used
      | some r =>
        exact (homely_fixServer role cfg settings).bind fun settings _ =>
          (ih settings _).result _
    · exact ih settings used

theorem homely_nodes : Homely name s nodes := by
  refine (homely_look fun _ _ _ => rfl).bind fun source _ => ?_
  cases source with
  | stored => exact homely_list
  | listed nodes => exact homely_consultList _ (fun _ _ _ => rfl) (fun _ => rfl) fun _ => rfl

theorem homely_forgetNode (node : String) : Homely name s (forgetNode node) := by
  refine (homely_look fun _ _ _ => rfl).bind fun source _ => ?_
  cases source with
  | stored => exact homely_forget node
  | listed nodes => exact homely_consultList _ (fun _ _ _ => rfl) (fun _ => rfl) fun _ => rfl

theorem homely_tendNode (records : List TaskRecord) (node : Node) (report : TickReport) :
    Homely name s (tendNode records node report) := by
  unfold tendNode
  split
  · exact .pure trivial
  · split
    · refine (homely_forgetNode node.name).attempt.bind fun result _ => ?_
      cases result <;> exact .pure trivial
    · split
      · refine (homely_call _).attempt.bind fun result _ => ?_
        cases result <;> exact .pure trivial
      · exact .pure trivial

theorem homely_tendNodes (records : List TaskRecord) (nodes : List Node) (report : TickReport) :
    Homely name s (tendNodes records nodes report) := by
  induction nodes generalizing report with
  | nil => exact .pure trivial
  | cons node rest ih => exact (homely_tendNode records node report).bind fun _ _ => ih _

theorem homely_nodePass (records : List TaskRecord) (report : TickReport) :
    Homely name s (nodePass records report) := by
  refine homely_nodes.attempt.bind fun result _ => ?_
  cases result with
  | error e => exact .pure trivial
  | ok nodes => exact homely_tendNodes records nodes report

theorem homely_tick {base : Config} (hname : base.framework.name = name) :
    Homely name s (tick base) :=
  homely_settings.bind fun settings _ => homely_identity.bind fun identity _ =>
    homely_listAll.bind fun records _ => (homely_probe _ records).bind fun health _ =>
      (homely_createMissing ((Config.SameNeeds.withSettings base settings).name.trans hname)
        identity records health _ settings _).bind fun _ _ => homely_nodePass records _

theorem homely_say (c : Manager.Call) (suppressed : Bool) : Homely name s (say c suppressed) :=
  (homely_call c).bind fun _ _ => (homely_rememberSuppressed suppressed)

theorem homely_evaluate (created : Bool) : Homely name s (evaluate created) := by
  rw [evaluate_eq]
  refine homely_listAll.bind fun records _ =>
    (homely_look fun _ _ _ => rfl).bind fun suppressed _ => ?_
  refine Domestic.bind (P := fun _ => True) ?_ fun _ _ => (homely_look fun _ _ _ => rfl)
  split
  · exact homely_say .reviving false
  · split
    · exact homely_say .suppressing true
    · exact .pure trivial

theorem homely_promoteOne (candidate : TaskRecord) : Homely name s (promoteOne candidate) := by
  refine .withLock candidate.id ((domestic_load _ _).bind fun found hfound => ?_)
  cases found with
  | none => exact .pure trivial
  | some r =>
    have hown := hfound r rfl
    dsimp only
    split
    · refine homely_now.bind fun now _ => ?_
      have hsave : Homely name s (Records.save (promoted r now) : Run Unit) := homely_save hown
      exact hsave.result _
    · exact .pure trivial

theorem homely_promoteEach (records : List TaskRecord) :
    Homely name s (promoteEach records) := by
  induction records with
  | nil => exact .pure trivial
  | cons r rest ih =>
    exact (homely_promoteOne r).bind fun _ _ => ih.result _

theorem homely_promoteUnset : Homely name s promoteUnset := by
  refine homely_listAll.bind fun records _ => (homely_promoteEach _).bind fun promoted _ => ?_
  dsimp only
  split
  · exact (homely_say .reviving false).result _
  · exact .pure trivial

theorem homely_cycle : Homely name s cycle :=
  domestic_snapshot.bind fun _ hname => (homely_tick hname).bind fun _ _ =>
    homely_promoteUnset.bind fun _ _ => (homely_evaluate _).result _

/-! ### Events -/

theorem homely_revertLaunch {r : TaskRecord} (hown : Key.Under name r.storeKey) (offer : Offer) :
    Homely name s (revertLaunch r offer) := by
  refine homely_now.bind fun now _ => ?_
  have hsave : Homely name s (Records.save (r.unstaged now) : Run Unit) := homely_save hown
  refine hsave.attempt.bind fun saved _ => ?_
  cases saved with
  | ok => exact .pure trivial
  | error e => exact (homely_call _).attempt.bind fun _ _ => .fail e

theorem homely_launch (offer : Offer) (candidate : TaskRecord) :
    Homely name s (launch offer candidate) := by
  refine .withLock candidate.id ((domestic_load _ _).bind fun found hfound => ?_)
  cases found with
  | none => exact .pure trivial
  | some r =>
    have hown := hfound r rfl
    dsimp only
    split
    · cases fit offer r with
      | error e => exact .pure trivial
      | ok ports =>
        refine homely_now.bind fun now _ => ?_
        have hsave : Homely name s (Records.save (r.staged offer ports now) : Run Unit) :=
          homely_save hown
        refine hsave.attempt.bind fun saved _ => ?_
        cases saved with
        | error e => exact .pure trivial
        | ok =>
          refine (homely_call _).attempt.bind fun accepted _ => ?_
          cases accepted with
          | ok => exact .pure trivial
          | error e => exact (homely_revertLaunch hown offer).result _
    · exact .pure trivial

theorem homely_matchOffers (eligible : List TaskRecord) (offers : List Offer) :
    Homely name s (matchOffers eligible offers) := by
  induction offers generalizing eligible with
  | nil => exact .pure trivial
  | cons offer rest ih =>
    unfold matchOffers
    split
    · exact (ih _).result _
    · refine (homely_launch offer _).attempt.bind fun launched _ => ?_
      split
      · exact (ih _).result _
      · exact (ih _).result _
      · exact .pure trivial

theorem homely_passOffers (offers : List Offer) : Homely name s (passOffers offers) := by
  refine homely_listAll.attempt.bind fun listed _ => ?_
  cases listed with
  | error e => exact .pure trivial
  | ok records => exact homely_matchOffers _ offers

theorem homely_declineOffers (offers : List Manager.Id) (refuseSeconds : Option Binary64) :
    Homely name s (declineOffers offers refuseSeconds) := by
  unfold declineOffers
  split
  · exact .pure trivial
  · exact homely_call _

theorem homely_handleOffers (offers : List Offer) : Homely name s (handleOffers offers) := by
  refine domestic_snapshot.bind fun cfg _ => (homely_passOffers offers).bind fun pass _ => ?_
  refine (homely_declineOffers _ _).attempt.bind fun given _ => ?_
  refine (Domestic.ofExcept _).bind fun launched _ => (Domestic.ofExcept _).bind fun _ _ => ?_
  split
  · exact (homely_evaluate false).result _
  · exact .pure trivial

theorem homely_applyStatus (status : TaskStatus) : Homely name s (applyStatus status) := by
  refine (domestic_findIn status.taskId.value Role.all).bind fun found hfound => ?_
  cases found with
  | none => exact .pure trivial
  | some r =>
    have hown := hfound r rfl
    cases TaskState.ofStatus? status.state with
    | none => exact .pure trivial
    | some next =>
      dsimp only
      split
      · exact .pure trivial
      · split
        · exact (homely_remove _ _).result _
        · exact homely_now.bind fun now _ => homely_save hown

theorem homely_acknowledge (status : TaskStatus) : Homely name s (acknowledge status) := by
  unfold acknowledge
  split
  · exact homely_call _
  · exact .pure trivial

theorem homely_handleUpdate (status : TaskStatus) : Homely name s (handleUpdate status) :=
  .withLock _ ((homely_applyStatus status).bind fun _ _ => homely_acknowledge status)

theorem homely_rememberIdentity (frameworkId : String) :
    Homely name s (rememberIdentity frameworkId) := by
  refine homely_identity.bind fun known _ => ?_
  split
  · exact .pure trivial
  · exact homely_saveIdentity _

theorem homely_handleSubscribed (subscription : Manager.Subscribed) :
    Homely name s (handleSubscribed subscription) := by
  refine (homely_rememberIdentity _).bind fun _ _ =>
    (homely_rememberSuppressed false).bind fun _ _ => homely_listAll.bind fun records _ => ?_
  dsimp only
  split
  · exact .pure trivial
  · exact homely_call _

theorem homely_handleEvent (event : Event) : Homely name s (handleEvent event) := by
  cases event with
  | subscribed subscription => exact homely_handleSubscribed subscription
  | offers offers => exact homely_handleOffers offers
  | update status =>
    exact (homely_handleUpdate status).bind fun _ _ =>
      (homely_evaluate false).result _
  | rescind => exact .pure trivial
  | heartbeat => exact .pure trivial
  | error => exact .pure trivial
  | other => exact .pure trivial

/-! ### Operators -/

theorem homely_retire (candidate : TaskRecord) : Homely name s (retire candidate) := by
  refine .withLock candidate.id ((domestic_load _ _).bind fun found _ => ?_)
  cases found with
  | none => exact .pure trivial
  | some r =>
    dsimp only
    split
    · exact (homely_call _).bind fun _ _ => homely_remove _ _
    · exact homely_remove _ _

theorem homely_retireEach (records : List TaskRecord) : Homely name s (retireEach records) := by
  induction records with
  | nil => exact .pure trivial
  | cons r rest ih => exact (homely_retire r).bind fun _ _ => ih.result _

theorem homely_scale (role : Role) (n : UInt32) : Homely name s (scale role n) := by
  refine (homely_configure (sameNeeds_scale role n)).bind fun _ _ =>
    (homely_look fun _ _ _ => rfl).bind fun isShutDown _ => ?_
  split
  · exact .pure trivial
  · exact (homely_listRole role).bind fun records _ => homely_retireEach _

theorem homely_shutdown : Homely name s shutdown :=
  (homely_configure sameNeeds_shutdown).bind fun _ _ =>
    homely_listAll.bind fun records _ => homely_retireEach records

theorem homely_start : Homely name s start :=
  (homely_configure sameNeeds_start)

theorem homely_restart : Homely name s restart :=
  homely_shutdown.bind fun _ _ => homely_start.result _

theorem homely_restore : Homely name s restore :=
  homely_settings.bind fun settings _ => homely_identity.bind fun _ _ =>
    (homely_configure fun handle => .withSettings handle.current settings)

theorem homely_introduction : Homely name s introduction := by
  have hmachine : Homely name s (fun s w => (.ok s.machine, w) : Run (Option String)) :=
    Aloof.homely ⟨fun _ _ _ => rfl, fun _ => rfl, fun _ => rfl⟩
  exact domestic_snapshot.bind fun _ _ => homely_identity.bind fun _ _ => hmachine.result _

end Run

/-! ### Operations on a shared store -/

/-- What the process of a framework can be asked to do, and what it yields: an operation as a whole,
or one of the critical sections that operations are made of and between which others may come. -/
inductive Operation : Type → Type
  /-- One cycle. -/
  | cycle : Operation TickReport
  /-- Take an event. -/
  | event (event : Event) : Operation Unit
  /-- Set how many tasks of a role are wanted. -/
  | scale (role : Role) (n : UInt32) : Operation Nat
  /-- Shut the cluster down. -/
  | shutdown : Operation Nat
  /-- Start the cluster again. -/
  | start : Operation Unit
  /-- Shut the cluster down and start it again. -/
  | restart : Operation Nat
  /-- Lay the stored settings over the configuration. -/
  | restore : Operation Unit
  /-- Say how the framework introduces itself. -/
  | introduce : Operation FrameworkInfo
  /-- List the nodes that are kept in the store. -/
  | listNodes : Operation (List Node)
  /-- Remove a node that is kept in the store. -/
  | forgetNode (node : String) : Operation Unit
  /-- Create the record of a new task. -/
  | create (role : Role) (settings : Settings) (identity : Identity) (used : List UInt32) :
    Operation (Option TaskRecord)
  /-- Make a wanted task eligible. -/
  | promote (candidate : TaskRecord) : Operation Bool
  /-- Launch a task on an offer. -/
  | launch (offer : Offer) (candidate : TaskRecord) : Operation Bool
  /-- Take a report on a task. -/
  | update (status : TaskStatus) : Operation Unit
  /-- Stop a task and remove its record. -/
  | retire (candidate : TaskRecord) : Operation Bool

namespace Operation

/-- Do what is asked. -/
def run {α : Type} : Operation α → Run α
  | cycle => Run.cycle
  | event e => Run.handleEvent e
  | scale role n => Run.scale role n
  | shutdown => Run.shutdown
  | start => Run.start
  | restart => Run.restart
  | restore => Run.restore
  | introduce => Run.introduction
  | listNodes => Nodes.list
  | forgetNode node => Nodes.forget node
  | create role settings identity used => do
    let cfg ← Run.snapshot
    Run.createRecord role (cfg.withSettings settings) identity used
  | promote candidate => Run.promoteOne candidate
  | launch offer candidate => Run.launch offer candidate
  | update status => Run.handleUpdate status
  | retire candidate => Run.retire candidate

/-- **Every operation is domestic.** -/
theorem homely {α : Type} (op : Operation α) {name : String} {s : Surroundings} :
    Run.Homely name s op.run := by
  cases op with
  | cycle => exact Run.homely_cycle
  | event e => exact Run.homely_handleEvent e
  | scale role n => exact Run.homely_scale role n
  | shutdown => exact Run.homely_shutdown
  | start => exact Run.homely_start
  | restart => exact Run.homely_restart
  | restore => exact Run.homely_restore
  | introduce => exact Run.homely_introduction
  | listNodes => exact Run.homely_list
  | forgetNode node => exact Run.homely_forget node
  | create role settings identity used =>
    refine Run.domestic_snapshot.bind fun cfg hname => ?_
    exact Run.homely_createRecord role
      ((Config.SameNeeds.withSettings cfg settings).name.trans hname) identity used
  | promote candidate => exact Run.homely_promoteOne candidate
  | launch offer candidate => exact Run.homely_launch offer candidate
  | update status => exact Run.homely_handleUpdate status
  | retire candidate => exact Run.homely_retire candidate

end Operation

/-- The process of a world acts for the framework that a configuration names, whatever else is now
configured. -/
structure ActsFor (cfg : Config) (w : World) : Prop where
  framework : w.framework = cfg.framework.name
  current : w.config.current.framework.name = cfg.framework.name

/-- The stores that frameworks can come to share, if each has a configuration that may be used.
Processes of any of them do something, in any order and whatever fails on the way, and the control
plane of any of them puts texts under the framework's keys of nodes or removes them. -/
inductive Shared : Memory → Prop
  | fresh : Shared ∅
  | acted {cfg : Config} {w : World} {α : Type} (valid : cfg.validate = .ok ())
      (acts : ActsFor cfg w) (shared : Shared w.store) (op : Operation α) (s : Surroundings) :
      Shared (op.run s w).2.store
  | nodePut {cfg : Config} {store : Memory} (valid : cfg.validate = .ok ()) (shared : Shared store)
      (node text : String) : Shared (store.set (Key.node cfg.framework.name node) text)
  | nodeRemoved {cfg : Config} {store : Memory} (valid : cfg.validate = .ok ())
      (shared : Shared store) (node : String) :
      Shared (KeyMap.erase store (Key.node cfg.framework.name node))

theorem actsFor_start (cfg : Config) (store : Memory) (nodes : NodeSource) :
    ActsFor cfg (.start cfg store nodes) :=
  ⟨rfl, rfl⟩

/-- What a process makes of a shared store that it has just been started on. -/
theorem Shared.started {cfg : Config} (hvalid : cfg.validate = .ok ()) {store : Memory}
    (h : Shared store) (nodes : NodeSource) {α : Type} (op : Operation α) (s : Surroundings) :
    Shared (op.run s (.start cfg store nodes)).2.store :=
  .acted hvalid (actsFor_start cfg store nodes) h op s

/-- **In a store that frameworks share, the records under a framework's own keys name own keys.** -/
theorem Shared.housed {store : Memory} (h : Shared store) {name : String}
    (hplain : ':' ∉ name.toList) : Housed name store := by
  induction h generalizing name with
  | fresh => exact fun _ _ _ hr => nomatch hr
  | @acted cfg w α valid acts _ op s ih =>
    have hown : ':' ∉ cfg.framework.name.toList := Config.not_mem_name_of_validate valid
    have hhome : Home cfg.framework.name w := ⟨acts.framework, acts.current, ih hown⟩
    obtain ⟨hleaves, -⟩ := op.homely hhome
    by_cases heq : name = cfg.framework.name
    · rw [heq]
      exact hleaves.home.housed
    · refine (ih hplain).congr fun key hkey => hleaves.others fun hother => heq ?_
      exact hkey.unique hother hplain hown
  | nodePut valid _ node text ih =>
    refine (ih hplain).set fun role id r hkey hread => ?_
    have hunder : Key.Under name (Key.node _ node) := hkey ▸ Key.under_task
    obtain rfl := hunder.unique Key.under_node hplain (Config.not_mem_name_of_validate valid)
    exact fitting_node hkey hread
  | nodeRemoved _ _ _ ih => exact (ih hplain).erase _

/-- **Frameworks that share a store do not interfere.** Of two frameworks with different names that
may be used, whatever the process of one does leaves every key of the other as it is. If the store
held anything else under the keys of the other, the same would come of it, and the worlds after it
would be the same but for what the store holds there: the same calls, made when the store held the
same under all other keys, and the same said, asked and written. -/
theorem other_keys_inert {cfg other : Config} (hvalid : cfg.validate = .ok ())
    (hother : other.validate = .ok ()) (hne : cfg.framework.name ≠ other.framework.name) {w : World}
    (hacts : ActsFor cfg w) (hshared : Shared w.store) {α : Type} (op : Operation α)
    (s : Surroundings) :
    (∀ key, Key.Under other.framework.name key →
      (op.run s w).2.store.get? key = w.store.get? key) ∧
    ∀ store, w.store.SameOn (fun key => ¬ Key.Under other.framework.name key) store →
      (op.run s { w with store := store }).1 = (op.run s w).1 ∧
        World.SameOn (fun key => ¬ Key.Under other.framework.name key) (op.run s w).2
          (op.run s { w with store := store }).2 := by
  have hplain : ':' ∉ cfg.framework.name.toList := Config.not_mem_name_of_validate hvalid
  have hplain' : ':' ∉ other.framework.name.toList := Config.not_mem_name_of_validate hother
  have hcover : Key.Cover cfg.framework.name fun key => ¬ Key.Under other.framework.name key :=
    fun key hown hforeign => hne (hown.unique hforeign hplain hplain')
  have hhome : Home cfg.framework.name w :=
    ⟨hacts.framework, hacts.current, hshared.housed hplain⟩
  obtain ⟨hleaves, hsame⟩ := op.homely (s := s) hhome
  constructor
  · intro key hforeign
    exact hleaves.others fun hown => hcover hown hforeign
  · intro store hstore
    exact hsame hcover (World.sameOn_of_store hstore)

/-- Two frameworks, of which one's name begins with the other's, have created records in one store,
and each has a node there with a colon in its name. -/
theorem other_keys_inert_forgetNode :
    let cfg : Config := {}
    let other : Config := { framework := { name := "keel-2" } }
    let first := (Operation.cycle.run .calm (World.start cfg ∅ .stored)).2.store
    let both := (Operation.cycle.run .calm (World.start other first .stored)).2.store
    let w := World.start cfg ((both.set (Key.node cfg.framework.name "n:1") "\x7b\x7d").set
      (Key.node other.framework.name "n:1") "\x7b\x7d") .stored
    cfg.validate = .ok () ∧ other.validate = .ok () ∧
      cfg.framework.name ≠ other.framework.name ∧ ActsFor cfg w ∧ Shared w.store ∧
      (∀ key, Key.Under other.framework.name key →
        ((Operation.forgetNode "n:1").run .calm w).2.store.get? key = w.store.get? key) ∧
      ∀ store, w.store.SameOn (fun key => ¬ Key.Under other.framework.name key) store →
        ((Operation.forgetNode "n:1").run .calm { w with store := store }).1 =
          ((Operation.forgetNode "n:1").run .calm w).1 ∧
        World.SameOn (fun key => ¬ Key.Under other.framework.name key)
          ((Operation.forgetNode "n:1").run .calm w).2
          ((Operation.forgetNode "n:1").run .calm { w with store := store }).2 := by
  intro cfg other first both w
  have hvalid : cfg.validate = .ok () := by decide +kernel
  have hother : other.validate = .ok () := by decide +kernel
  have hne : cfg.framework.name ≠ other.framework.name := by decide
  have hfirst : Shared first := Shared.fresh.started hvalid .stored .cycle .calm
  have hboth : Shared both := hfirst.started hother .stored .cycle .calm
  have hshared : Shared w.store := .nodePut hother (.nodePut hvalid hboth _ _) _ _
  have hacts : ActsFor cfg w := actsFor_start cfg _ .stored
  exact ⟨hvalid, hother, hne, hacts, hshared,
    other_keys_inert hvalid hother hne hacts hshared (.forgetNode "n:1") .calm⟩

end Stevedore.Scheduling
