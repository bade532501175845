import Stevedore.Proofs.Creation
import Stevedore.Proofs.NodeAccess
import Stevedore.Proofs.Sections
import Stevedore.Scheduling.Cycle

/-!
# What operations are put together from

Cycles, events and operations are put together from a few pieces: the critical sections, reads,
writes of what is no record, and calls (`Piece`). What holds from before to after every piece, and
can be chained, holds from before to after every operation (`Built.relates`); so a statement about
all operations needs one case for each piece, and the operations are gone through here once.
-/

namespace Stevedore

/-- Configurations by which tasks carry the same framework's name, need the same amounts and find
the same ports. -/
structure Config.SameNeeds (cfg cfg' : Config) : Prop where
  name : cfg'.framework.name = cfg.framework.name
  scheduler : cfg'.scheduler = cfg.scheduler
  datastorePort : cfg'.datastore.port = cfg.datastore.port
  resources : ∀ role, cfg'.resources role = cfg.resources role
  cpuLimit : cfg'.agent.cpuLimit = cfg.agent.cpuLimit
  memLimit : cfg'.agent.memLimit = cfg.agent.memLimit

namespace Config.SameNeeds

variable {cfg cfg' cfg'' : Config}

theorem refl (cfg : Config) : cfg.SameNeeds cfg :=
  ⟨rfl, rfl, rfl, fun _ => rfl, rfl, rfl⟩

theorem trans (h : cfg.SameNeeds cfg') (h' : cfg'.SameNeeds cfg'') : cfg.SameNeeds cfg'' where
  name := h'.name.trans h.name
  scheduler := h'.scheduler.trans h.scheduler
  datastorePort := h'.datastorePort.trans h.datastorePort
  resources role := (h'.resources role).trans (h.resources role)
  cpuLimit := h'.cpuLimit.trans h.cpuLimit
  memLimit := h'.memLimit.trans h.memLimit

theorem finite (h : cfg.SameNeeds cfg') (hfinite : cfg.Finite) : cfg'.Finite where
  cpus role := by
    rw [h.resources]
    exact hfinite.cpus role
  mem role := by
    rw [h.resources]
    exact hfinite.mem role
  disk role := by
    rw [h.resources]
    exact hfinite.disk role
  cpuLimit := by
    rw [h.cpuLimit]
    exact hfinite.cpuLimit
  memLimit := by
    rw [h.memLimit]
    exact hfinite.memLimit

theorem setDesired (cfg : Config) (role : Role) (n : UInt32) :
    cfg.SameNeeds (cfg.setDesired role n) := by
  cases role <;> exact ⟨rfl, rfl, rfl, fun role => by cases role <;> rfl, rfl, rfl⟩

theorem withSettings (cfg : Config) (settings : Settings) :
    cfg.SameNeeds (cfg.withSettings settings) :=
  ⟨rfl, rfl, rfl, resources_withSettings cfg settings, rfl, rfl⟩

theorem apply (p : Publication) (cfg : Config) : cfg.SameNeeds (p.apply cfg) := by
  cases p with
  | one role n => exact setDesired cfg role n
  | all counts =>
    have hdatastore := setDesired cfg .datastore counts.datastore
    exact (hdatastore.trans (setDesired _ .server counts.server)).trans
      (setDesired _ .agent counts.agent)

end Config.SameNeeds

namespace Scheduling

open Manager (Call CallKind Event Offer TaskStatus)
open Store (Memory)

/-- What an operation may do besides tending to the records that are there. -/
inductive Liberty where
  /-- Create records, and fix the settings that go with the first of them. -/
  | create
  /-- Ask for offers, or hold them back. -/
  | signal
  /-- Take offers to be flowing. -/
  | reset
  /-- Change the configuration in force. -/
  | configure
  /-- Take a report on a task. -/
  | report (status : TaskStatus)

/-- Every liberty, but only reports that are accepted are taken. -/
def Liberty.taking (accepted : TaskStatus → Prop) : Liberty → Prop
  | report status => accepted status
  | _ => True

/-- The offers that an event brings. -/
def Run.offersOf : Event → List Offer
  | .offers offers => offers
  | _ => []

namespace Run

variable {α β γ : Type}

/-! ### Pieces -/

/-- Make a call, and then remember whether offers are held back. -/
def say (c : Call) (suppressed : Bool) : Run Unit := do
  call c
  rememberSuppressed suppressed

/-- Hold offers back. -/
def hold : Run Unit :=
  say .suppressing true

/-- What was said is remembered only if the call took effect and was answered. -/
theorem say_cases (c : Call) (suppressed : Bool) (s : Surroundings) (w : World) :
    ∃ delivery w', delivery = s.delivery w.tally.calls c ∧
      Moves w w.store [⟨c, delivery, w.store⟩] w' ∧
      (delivery = .applied ∧ say c suppressed s w = (.ok (), { w' with suppressed := suppressed }) ∨
        delivery ≠ .applied ∧ ∃ e, say c suppressed s w = (.error e, w')) := by
  obtain ⟨delivery, w', hdelivery, hmoves, ⟨happlied, hcall⟩ | ⟨hfailed, fault, hcall⟩⟩ :=
    call_cases c s (w := w) rfl
  · exact ⟨delivery, w', hdelivery, hmoves, Or.inl ⟨happlied, bind_of_ok hcall _⟩⟩
  · exact ⟨delivery, w', hdelivery, hmoves, Or.inr ⟨hfailed, _, bind_of_error hcall _⟩⟩

/-- Calls that neither use offers nor ask for any nor hold them back. -/
def plainKinds : List CallKind := [.decline, .kill, .acknowledge, .reconcile]

/-- What is done about records that are there, and what does not concern records at all. -/
inductive Tending (may : Liberty → Prop) (offers : List Offer) : {α : Type} → Run α → Prop
  | idle {α : Type} {m : Run α} (h : ∀ s w, Moves w w.store [] (m s w).2) : Tending may offers m
  | tell {c : Call} (h : c.kind ∈ plainKinds) : Tending may offers (call c)
  | saveSettings (h : may .create) (settings : Settings) :
      Tending may offers (Records.saveSettings settings)
  | saveIdentity (identity : Identity) : Tending may offers (Records.saveIdentity identity)
  | forgetNode (name : String) : Tending may offers (forgetNode name)
  | promote (candidate : TaskRecord) : Tending may offers (promoteOne candidate)
  | launch {offer : Offer} (h : offer ∈ offers) (candidate : TaskRecord) :
      Tending may offers (launch offer candidate)
  | update {status : TaskStatus} (h : may (.report status)) :
      Tending may offers (handleUpdate status)
  | retire (candidate : TaskRecord) : Tending may offers (retire candidate)

/-- What becomes of the store, and which calls are made, when records are tended to. -/
inductive Tended (may : Liberty → Prop) (offers : List Offer) (name : String) (store : Memory) :
    Memory → List Issue → Prop
  | told {issued} (h : ∀ i ∈ issued, i.call.kind ∈ plainKinds) :
      Tended may offers name store store issued
  | settings (h : may .create) (x : Settings) :
      Tended may offers name store (store.set (Key.settings name) (Json.encode x).render) []
  | identity (x : Identity) :
      Tended may offers name store (store.set (Key.identity name) (Json.encode x).render) []
  | forgotten (node : String) : Tended may offers name store (store.erase (Key.node name node)) []
  | promoted {candidate result store' issued}
      (h : Promotion candidate name store result store' issued) :
      Tended may offers name store store' issued
  | launched {offer candidate result store' issued} (hoffer : offer ∈ offers)
      (h : Launching offer candidate name store result store' issued) :
      Tended may offers name store store' issued
  | updated {status result store' issued} (hreport : may (.report status))
      (h : Updating status name store result store' issued) :
      Tended may offers name store store' issued
  | retired {candidate result store' issued}
      (h : Retirement candidate name store result store' issued) :
      Tended may offers name store store' issued

theorem Tended.none {may : Liberty → Prop} {offers : List Offer} {name : String} {store : Memory} :
    Tended may offers name store store [] :=
  .told fun _ hi => absurd hi List.not_mem_nil

/-- A run that tends to records at most. -/
def Tends (may : Liberty → Prop) (offers : List Offer) (m : Run α) : Prop :=
  ∀ s w, ∃ store issued, Moves w store issued (m s w).2 ∧
    Tended may offers w.framework w.store store issued

variable {may : Liberty → Prop} {offers : List Offer}

theorem tends_call {c : Call} (h : c.kind ∈ plainKinds) : Tends may offers (call c) := by
  intro s w
  obtain ⟨delivery, w', -, hmoves, hcall⟩ := call_cases c s (w := w) rfl
  have hplain : ∀ i ∈ [(⟨c, delivery, w.store⟩ : Issue)], i.call.kind ∈ plainKinds := by
    intro i hi
    rw [List.mem_singleton.1 hi]
    exact h
  refine ⟨_, _, ?_, .told hplain⟩
  rcases hcall with ⟨-, hcall⟩ | ⟨-, fault, hcall⟩
  · rw [hcall]
    exact hmoves
  · rw [hcall]
    exact hmoves

theorem tends_saveAs {β : Type} [Json.Coded β] (key : String → String) {x : β}
    (h : ∀ name store,
      Tended may offers name store (store.set (key name) (Json.encode x).render) []) :
    Tends may offers (Access.framework >>= fun name => Records.saveAs (key name) x : Run Unit) := by
  intro s w
  have hrun : (Access.framework >>= fun name => Records.saveAs (key name) x : Run Unit) s w =
    write (fun store => ((), store.set (key w.framework) (Json.encode x).render)) s w := rfl
  rw [hrun]
  obtain ⟨w', ⟨hwrite, hmoves⟩ | ⟨reason, hwrite, hmoves⟩⟩ :=
    write_cases (fun store => ((), store.set (key w.framework) (Json.encode x).render)) s w
  · rw [hwrite]
    exact ⟨_, _, hmoves, h _ _⟩
  · rw [hwrite]
    exact ⟨_, _, hmoves, .none⟩

theorem moves_consultList (reason? : Surroundings → Nat → Option String) {f : World → α × World}
    (h : ∀ w, Moves w w.store [] (f w).2) (s : Surroundings) (w : World) :
    Moves w w.store [] (consultList reason? f s w).2 := by
  have hcounted : Moves w w.store [] { w with tally.nodes := w.tally.nodes + 1 } :=
    ⟨rfl, (List.append_nil _).symm, (List.append_nil _).symm, rfl, rfl, rfl, rfl⟩
  simp only [consultList]
  cases reason? s w.tally.nodes with
  | some reason => exact hcounted
  | none => exact hcounted.andThen (h { w with tally.nodes := w.tally.nodes + 1 })

/-- Where the nodes are in the store, removing one removes its key, unless it fails. -/
theorem forgetNode_moves (name : String) (s : Surroundings) (w : World) :
    ∃ store, Moves w store [] (forgetNode name s w).2 ∧
      (store = w.store ∨ store = w.store.erase (Key.node w.framework name)) := by
  cases hnodes : w.nodes with
  | listed nodes =>
    have hrun : forgetNode name s w = consultList (·.nodeForgetFault) (fun w =>
        ((), { w with nodes := .listed (nodes.filter fun node => node.name != name) })) s w := by
      unfold forgetNode
      rw [bind_of_ok (look_run _), hnodes]
    rw [hrun]
    refine ⟨_, moves_consultList _ (fun w => ?_) s w, Or.inl rfl⟩
    exact ⟨rfl, (List.append_nil _).symm, (List.append_nil _).symm, rfl, rfl, rfl, rfl⟩
  | stored =>
    rw [forgetNode_run hnodes]
    obtain ⟨w', ⟨hwrite, hmoves⟩ | ⟨reason, hwrite, hmoves⟩⟩ :=
      write_cases (fun store => store.delete (Key.node w.framework name)) s w
    · rw [bind_of_ok hwrite]
      exact ⟨_, hmoves, Or.inr rfl⟩
    · rw [bind_of_error hwrite]
      exact ⟨_, hmoves, Or.inl rfl⟩

theorem tends_forgetNode (name : String) : Tends may offers (forgetNode name) := by
  intro s w
  obtain ⟨store, hmoves, rfl | rfl⟩ := forgetNode_moves name s w
  · exact ⟨_, _, hmoves, .none⟩
  · exact ⟨_, _, hmoves, .forgotten name⟩

theorem Does.tends {m : Run α}
    {spec : String → Memory → Except Fault α → Memory → List Issue → Prop} (h : Does m spec)
    (hspec : ∀ {name store result store' issued}, spec name store result store' issued →
      Tended may offers name store store' issued) : Tends may offers m := by
  intro s w
  obtain ⟨result, store, issued, w', hrun, hmoves, hdone⟩ := h s w
  rw [hrun]
  exact ⟨store, issued, hmoves, hspec hdone⟩

/-- **What tending to records does.** -/
theorem Tending.tends {m : Run α} (h : Tending may offers m) : Tends may offers m := by
  cases h with
  | idle h => exact fun s w => ⟨_, _, h s w, .none⟩
  | tell h => exact tends_call h
  | saveSettings h settings => exact tends_saveAs Key.settings fun _ _ => .settings h settings
  | saveIdentity identity => exact tends_saveAs Key.identity fun _ _ => .identity identity
  | forgetNode name => exact tends_forgetNode name
  | promote candidate => exact (does_promoteOne candidate).tends .promoted
  | launch hoffer candidate => exact (does_launch _ candidate).tends (.launched hoffer)
  | update h => exact (does_handleUpdate _).tends (.updated h)
  | retire candidate => exact (does_retire candidate).tends .retired

/-- A piece of an operation that takes certain liberties and has some offers at hand. -/
inductive Piece (may : Liberty → Prop) (offers : List Offer) : {α : Type} → Run α → Prop
  | tend {α : Type} {m : Run α} (h : Tending may offers m) : Piece may offers m
  | create (h : may .create) (role : Role) (cfg : Config) (identity : Identity)
      (used : List UInt32) : Piece may offers (createRecord role cfg identity used)
  | revive (h : may .signal) : Piece may offers revive
  | hold (h : may .signal) : Piece may offers hold
  | reset (h : may .reset) : Piece may offers (rememberSuppressed false)
  | configure (h : may .configure) {f : ConfigHandle → ConfigHandle}
      (hf : ∀ handle : ConfigHandle, handle.current.SameNeeds (f handle).current) :
      Piece may offers (configure f)

/-- An operation that is put together from pieces. -/
inductive Built (may : Liberty → Prop) (offers : List Offer) : {α : Type} → Run α → Prop
  | piece {α : Type} {m : Run α} (h : Piece may offers m) : Built may offers m
  | pure {α : Type} (x : α) : Built may offers (Pure.pure x : Run α)
  | fail {α : Type} (e : Fault) : Built may offers (fail e : Run α)
  | bind {α β : Type} {m : Run α} {f : α → Run β} (hm : Built may offers m)
      (hf : ∀ x, Built may offers (f x)) : Built may offers (m >>= f)
  | attempt {α : Type} {m : Run α} (hm : Built may offers m) : Built may offers (attempt m)

/-- **What relates the worlds before and after every piece relates those before and after every
operation**, if it can be chained. -/
theorem Built.relates {s : Surroundings} {R : World → World → Prop} (hrefl : ∀ w, R w w)
    (htrans : ∀ {w₁ w₂ w₃}, R w₁ w₂ → R w₂ w₃ → R w₁ w₃)
    (hpiece : ∀ {α : Type} {m : Run α}, Piece may offers m → ∀ w, R w (m s w).2)
    {m : Run α} (h : Built may offers m) (w : World) : R w (m s w).2 := by
  induction h generalizing w with
  | piece h => exact hpiece h w
  | pure x => exact hrefl w
  | fail e => exact hrefl w
  | bind _ _ ihm ihf => exact bind_relates (R := R) htrans (ihm w) fun x w' => ihf x w'
  | attempt _ ih => exact ih w

/-- **What relates the stores before and after records are tended to relates those before and after
every operation** that creates no records, if it can be chained. -/
theorem Built.relates_stores {P : String → Memory → Memory → Prop} (hcreate : ¬ may .create)
    (hrefl : ∀ name store, P name store store)
    (htrans : ∀ {name store store' store''}, P name store store' → P name store' store'' →
      P name store store'')
    (htended : ∀ {name store store' issued}, Tended may offers name store store' issued →
      P name store store')
    {m : Run α} (h : Built may offers m) (s : Surroundings) (w : World) :
    P w.framework w.store (m s w).2.store := by
  let R (w w' : World) : Prop := w'.framework = w.framework ∧ P w.framework w.store w'.store
  have hsame : ∀ {w w' : World}, w'.framework = w.framework → w'.store = w.store → R w w' := by
    intro w w' hname hstore
    refine ⟨hname, ?_⟩
    rw [hstore]
    exact hrefl _ _
  have hsay : ∀ c suppressed w, R w (say c suppressed s w).2 := by
    intro c suppressed w
    obtain ⟨delivery, w', -, hmoves, ⟨-, hsay⟩ | ⟨-, e, hsay⟩⟩ := say_cases c suppressed s w
    · rw [hsay]
      exact hsame hmoves.framework hmoves.store
    · rw [hsay]
      exact hsame hmoves.framework hmoves.store
  refine (h.relates (R := R) (fun _ => hsame rfl rfl) ?_ (fun h w => ?_) w).2
  · rintro w₁ w₂ w₃ ⟨hname, h⟩ ⟨hname', h'⟩
    rw [hname] at hname' h'
    exact ⟨hname', htrans h h'⟩
  cases h with
  | tend h =>
    obtain ⟨store, issued, hmoves, hdone⟩ := h.tends s w
    refine ⟨hmoves.framework, ?_⟩
    rw [hmoves.store]
    exact htended hdone
  | create h => exact absurd h hcreate
  | revive => exact hsay .reviving false w
  | hold => exact hsay .suppressing true w
  | reset => exact hsame rfl rfl
  | configure => exact hsame rfl rfl

theorem Tending.built {m : Run α} (h : Tending may offers m) : Built may offers m :=
  .piece (.tend h)

theorem Looks.built {m : Run α} {f : String → Memory → Except Fault α} (h : Looks m f) :
    Built may offers m :=
  Tending.built (.idle h.moves)

theorem built_look (f : World → α) : Built may offers (look f) :=
  Tending.built (.idle fun _ w => Moves.refl w)

theorem built_ofExcept (x : Except Fault α) : Built may offers (ofExcept x) := by
  cases x with
  | error e => exact .fail e
  | ok x => exact .pure x

theorem built_call {c : Call} (h : c.kind ∈ plainKinds) : Built may offers (call c) :=
  Tending.built (.tell h)

/-! ### Liberties -/

/-- From one world to another only what an operation may change has changed, apart from the store
and what was said and asked. -/
structure Confined (may : Liberty → Prop) (w w' : World) : Prop where
  framework : w'.framework = w.framework
  needs : w.config.current.SameNeeds w'.config.current
  config : ¬ may .configure → w'.config = w.config
  suppressed : ¬ may .signal → ¬ may .reset → w'.suppressed = w.suppressed
  ids : w.tally.ids ≤ w'.tally.ids

theorem confined_of_same {w w' : World} (hframework : w'.framework = w.framework)
    (hconfig : w'.config = w.config) (hids : w.tally.ids ≤ w'.tally.ids)
    (hsuppressed : ¬ may .signal → ¬ may .reset → w'.suppressed = w.suppressed) :
    Confined may w w' where
  framework := hframework
  needs := by
    rw [hconfig]
    exact .refl _
  config _ := hconfig
  suppressed := hsuppressed
  ids := hids

theorem Confined.trans {w w' w'' : World} (h : Confined may w w') (h' : Confined may w' w'') :
    Confined may w w'' where
  framework := h'.framework.trans h.framework
  needs := h.needs.trans h'.needs
  config hmay := (h'.config hmay).trans (h.config hmay)
  suppressed hsignal hreset := (h'.suppressed hsignal hreset).trans (h.suppressed hsignal hreset)
  ids := h.ids.trans h'.ids

theorem Moves.confined {w w' : World} {store : Memory} {issued : List Issue}
    (h : Moves w store issued w') : Confined may w w' :=
  confined_of_same h.framework h.config h.ids.ge fun _ _ => h.suppressed

theorem confined_say (h : may .signal) (c : Call) (suppressed : Bool) (s : Surroundings)
    (w : World) : Confined may w (say c suppressed s w).2 := by
  obtain ⟨delivery, w', -, hmoves, ⟨-, hsay⟩ | ⟨-, e, hsay⟩⟩ := say_cases c suppressed s w
  · rw [hsay]
    exact confined_of_same hmoves.framework hmoves.config hmoves.ids.ge
      fun hsignal => absurd h hsignal
  · rw [hsay]
    exact hmoves.confined

/-- **An operation changes no more than the liberties it takes.** -/
theorem Built.confined {m : Run α} (h : Built may offers m) (s : Surroundings) (w : World) :
    Confined may w (m s w).2 := by
  refine h.relates (R := Confined may) (fun w => confined_of_same rfl rfl le_rfl fun _ _ => rfl)
    Confined.trans (fun h w => ?_) w
  cases h with
  | tend h =>
    obtain ⟨store, issued, hmoves, -⟩ := h.tends s w
    exact hmoves.confined
  | create _ role cfg identity used =>
    rw [createRecord_run]
    cases newRecord? cfg identity used role (s.taskId w.tally.ids) (s.clock w.tally.times) with
    | none => exact confined_of_same rfl rfl (Nat.le_succ _) fun _ _ => rfl
    | some r =>
      cases s.writeFault w.tally.writes <;>
        exact confined_of_same rfl rfl (Nat.le_succ _) fun _ _ => rfl
  | revive h => exact confined_say h .reviving false s w
  | hold h => exact confined_say h .suppressing true s w
  | reset h => exact confined_of_same rfl rfl le_rfl fun _ hreset => absurd h hreset
  | configure h hf =>
    exact ⟨rfl, hf w.config, fun hconfigure => absurd h hconfigure, fun _ _ => rfl, le_rfl⟩

/-! ### Asking for offers -/

theorem bind_assoc (m : Run α) (f : α → Run β) (g : β → Run γ) :
    m >>= f >>= g = m >>= fun x => f x >>= g := by
  funext s w
  cases hm : m s w with
  | mk result w' =>
    cases result with
    | error e => rw [bind_of_error hm, bind_of_error (bind_of_error hm f)]
    | ok x =>
      rw [bind_of_ok hm]
      show Run.bind (m >>= f) g s w = Run.bind (f x) g s w'
      unfold Run.bind
      rw [bind_of_ok hm]

/-- What an evaluation does once it has looked. -/
theorem evaluate_eq (created : Bool) :
    evaluate created = Records.listAll >>= fun records => look (·.suppressed) >>= fun suppressed =>
      (if records.any (·.state.isPending) && suppressed then revive
      else if !records.any (·.state.isPending) && !created && !suppressed then hold
      else pure ()) >>= fun _ => look (·.suppressed) := by
  unfold evaluate hold say
  refine congrArg (Records.listAll >>= ·) (funext fun records => ?_)
  refine congrArg (look (·.suppressed) >>= ·) (funext fun suppressed => ?_)
  dsimp only
  split
  · rfl
  · split
    · rw [bind_assoc]
    · rfl

theorem built_evaluate (h : may .signal) (created : Bool) :
    Built may offers (evaluate created) := by
  rw [evaluate_eq]
  refine looks_listAll.built.bind fun records => (built_look _).bind fun suppressed => ?_
  refine Built.bind ?_ fun _ => built_look _
  split
  · exact .piece (.revive h)
  · split
    · exact .piece (.hold h)
    · exact .pure ()

/-! ### Cycles -/

theorem built_promoteEach (records : List TaskRecord) : Built may offers (promoteEach records) := by
  induction records with
  | nil => exact .pure 0
  | cons r rest ih =>
    exact (Tending.promote r).built.bind fun _ => ih.bind fun _ => .pure _

theorem built_promoteUnset (h : may .signal) : Built may offers promoteUnset := by
  refine looks_listAll.built.bind fun records => (built_promoteEach _).bind fun promoted => ?_
  dsimp only
  split
  · exact (Built.piece (.revive h)).bind fun _ => .pure promoted
  · exact .pure promoted

theorem moves_asked (w : World) (questions : Nat) (asked : List Question) :
    Moves w w.store [] { w with tally.questions := questions, asked := asked } :=
  ⟨rfl, (List.append_nil _).symm, (List.append_nil _).symm, rfl, rfl, rfl, rfl⟩

theorem built_probe (cfg : Config) (records : List TaskRecord) :
    Built may offers (probe cfg records) := by
  have hdatastore : Built may offers (askDatastore (running records .datastore)) :=
    Tending.built (.idle fun _ w => moves_asked w _ _)
  have hserver : Built may offers (askServer cfg) :=
    Tending.built (.idle fun _ w => moves_asked w _ _)
  refine hdatastore.bind fun datastore => ?_
  dsimp only
  split
  · exact (Built.pure false).bind fun _ => .pure _
  · exact hserver.bind fun _ => .pure _

theorem built_fixServer (h : may .create) (role : Role) (cfg : Config) (settings : Settings) :
    Built may offers (fixServer role cfg settings) := by
  unfold fixServer
  split
  · exact (Tending.saveSettings h _).built.attempt.bind fun _ => .pure _
  · exact .pure settings

theorem built_createMissing (h : may .create) (cfg : Config) (identity : Identity)
    (records : List TaskRecord) (health : Health) (roles : List Role) (settings : Settings)
    (used : List UInt32) :
    Built may offers (createMissing cfg identity records health roles settings used) := by
  induction roles generalizing settings used with
  | nil => exact .pure []
  | cons role roles ih =>
    unfold createMissing
    split
    · refine (Built.piece (.create h role cfg identity used)).bind fun created => ?_
      cases created with
      | none => exact ih settings used
      | some r =>
        exact (built_fixServer h role cfg settings).bind fun settings =>
          (ih settings _).bind fun _ => .pure _
    · exact ih settings used

/-- Listing the nodes changes nothing. -/
theorem moves_nodes (s : Surroundings) (w : World) : Moves w w.store [] (nodes s w).2 := by
  cases hnodes : w.nodes with
  | listed nodes =>
    have hrun : Run.nodes s w = consultList (·.nodeListFault) (fun w => (nodes, w)) s w := by
      unfold Run.nodes
      rw [bind_of_ok (look_run _), hnodes]
    rw [hrun]
    exact moves_consultList _ (fun w => Moves.refl w) s w
  | stored =>
    rw [nodes_run hnodes]
    exact looks_listNodes.moves s w

theorem built_nodes : Built may offers nodes :=
  Tending.built (.idle moves_nodes)

theorem built_killTask (r : TaskRecord) : Built may offers (killTask r) :=
  built_call (by simp [plainKinds, Call.killing, Call.bare])

theorem built_tendNode (records : List TaskRecord) (node : Node) (report : TickReport) :
    Built may offers (tendNode records node report) := by
  unfold tendNode
  split
  · exact .pure report
  · split
    · refine (Tending.forgetNode node.name).built.attempt.bind fun result => ?_
      cases result <;> exact .pure _
    · split
      · refine (built_killTask _).attempt.bind fun result => ?_
        cases result <;> exact .pure _
      · exact .pure report

theorem built_tendNodes (records : List TaskRecord) (nodes : List Node) (report : TickReport) :
    Built may offers (tendNodes records nodes report) := by
  induction nodes generalizing report with
  | nil => exact .pure report
  | cons node rest ih => exact (built_tendNode records node report).bind fun _ => ih _

theorem built_nodePass (records : List TaskRecord) (report : TickReport) :
    Built may offers (nodePass records report) := by
  refine built_nodes.attempt.bind fun result => ?_
  cases result with
  | error e => exact .pure report
  | ok nodes => exact built_tendNodes records nodes report

theorem built_tick (h : may .create) (base : Config) : Built may offers (tick base) :=
  looks_settings.built.bind fun settings => looks_identity.built.bind fun identity =>
    looks_listAll.built.bind fun records => (built_probe _ records).bind fun health =>
      (built_createMissing h _ identity records health _ settings _).bind fun _ =>
        built_nodePass records _

/-- What a cycle does after its tick. -/
def followUp (report : TickReport) : Run TickReport := do
  let _ ← promoteUnset
  let _ ← evaluate (!report.created.isEmpty)
  return report

theorem built_followUp (h : may .signal) (report : TickReport) :
    Built may offers (followUp report) :=
  (built_promoteUnset h).bind fun _ => (built_evaluate h _).bind fun _ => .pure report

/-- A cycle is a tick on the configuration in force and what follows it. -/
theorem cycle_run (s : Surroundings) (w : World) :
    cycle s w = (tick w.config.current >>= followUp) s w :=
  bind_of_ok (look_run _) _

theorem built_cycle (hcreate : may .create) (hsignal : may .signal) : Built may offers cycle :=
  (built_look _).bind fun cfg => (built_tick hcreate cfg).bind (built_followUp hsignal)

/-! ### Events -/

theorem built_matchOffers {some : List Offer} (hsome : some ⊆ offers) (eligible : List TaskRecord) :
    Built may offers (matchOffers eligible some) := by
  induction some generalizing eligible with
  | nil => exact .pure _
  | cons offer rest ih =>
    have hrest : ∀ eligible, Built may offers (matchOffers eligible rest) :=
      ih (List.Subset.trans (List.subset_cons_self offer rest) hsome)
    unfold matchOffers
    split
    · exact (hrest eligible).bind fun _ => .pure _
    · next r others _ =>
      refine (Tending.launch (hsome List.mem_cons_self) r).built.attempt.bind fun result => ?_
      split
      · exact (hrest others).bind fun _ => .pure _
      · exact (hrest others).bind fun _ => .pure _
      · exact .pure _

theorem built_passOffers (offers : List Offer) : Built may offers (passOffers offers) := by
  refine looks_listAll.built.attempt.bind fun result => ?_
  cases result with
  | error e => exact .pure _
  | ok records => exact built_matchOffers (List.Subset.refl offers) _

theorem built_declineOffers (ids : List Manager.Id) (refuseSeconds : Option Binary64) :
    Built may offers (declineOffers ids refuseSeconds) := by
  unfold declineOffers
  split
  · exact .pure ()
  · exact built_call (by simp [plainKinds, Call.declining, Call.bare])

theorem built_handleOffers (h : may .signal) (offers : List Offer) :
    Built may offers (handleOffers offers) := by
  refine (built_look _).bind fun cfg => (built_passOffers offers).bind fun pass => ?_
  refine (built_declineOffers _ _).attempt.bind fun given => ?_
  refine (built_ofExcept _).bind fun launched => (built_ofExcept _).bind fun _ => ?_
  split
  · exact (built_evaluate h false).bind fun _ => .pure ()
  · exact .pure ()

theorem built_rememberIdentity (frameworkId : String) :
    Built may offers (rememberIdentity frameworkId) := by
  refine looks_identity.built.bind fun known => ?_
  split
  · exact .pure ()
  · exact (Tending.saveIdentity _).built

theorem built_reconcile : Built may offers (do
    let tasks := launchedTasks (← Records.listAll)
    if tasks.isEmpty then pure () else call (.reconciling tasks)) := by
  refine looks_listAll.built.bind fun records => ?_
  dsimp only
  split
  · exact .pure ()
  · exact built_call (by simp [plainKinds, Call.reconciling, Call.bare])

theorem built_handleSubscribed (h : may .reset) (subscription : Manager.Subscribed) :
    Built may offers (handleSubscribed subscription) :=
  (built_rememberIdentity _).bind fun _ => (Built.piece (.reset h)).bind fun _ => built_reconcile

/-- Only the event of a new subscription makes the process take offers to be flowing. -/
theorem built_handleEvent_of_ne (hsignal : may .signal) {event : Event}
    (hreport : ∀ status, event = .update status → may (.report status))
    (h : ∀ subscription, event ≠ .subscribed subscription) :
    Built may (offersOf event) (handleEvent event) := by
  cases event with
  | subscribed subscription => exact absurd rfl (h subscription)
  | offers offers => exact built_handleOffers hsignal offers
  | update status =>
    exact (Tending.update (hreport status rfl)).built.bind fun _ =>
      (built_evaluate hsignal false).bind fun _ => .pure ()
  | rescind => exact .pure ()
  | heartbeat => exact .pure ()
  | error => exact .pure ()
  | other => exact .pure ()

theorem built_handleEvent (hsignal : may .signal) (hreset : may .reset) {event : Event}
    (hreport : ∀ status, event = .update status → may (.report status)) :
    Built may (offersOf event) (handleEvent event) := by
  by_cases h : ∃ subscription, event = .subscribed subscription
  · obtain ⟨subscription, rfl⟩ := h
    exact built_handleSubscribed hreset subscription
  · exact built_handleEvent_of_ne hsignal hreport fun subscription heq => h ⟨subscription, heq⟩

/-! ### Operations -/

theorem built_retireEach (records : List TaskRecord) : Built may offers (retireEach records) := by
  induction records with
  | nil => exact .pure 0
  | cons r rest ih =>
    exact (Tending.retire r).built.bind fun _ => ih.bind fun _ => .pure _

theorem sameNeeds_publish (handle : ConfigHandle) (change : Option Publication) :
    handle.current.SameNeeds (handle.publish change).current := by
  cases change with
  | none => exact .refl _
  | some p => exact .apply p _

theorem sameNeeds_scale (role : Role) (n : UInt32) (handle : ConfigHandle) :
    handle.current.SameNeeds (handle.scale role n).current := by
  have h := sameNeeds_publish (handle.beginScale role n).1 (handle.beginScale role n).2
  have hcurrent : (handle.beginScale role n).1.current = handle.current := by
    unfold ConfigHandle.beginScale
    cases handle.parked <;> rfl
  rwa [hcurrent] at h

theorem sameNeeds_shutdown (handle : ConfigHandle) :
    handle.current.SameNeeds handle.shutdown.current := by
  have h := sameNeeds_publish handle.beginShutdown.1 handle.beginShutdown.2
  have hcurrent : handle.beginShutdown.1.current = handle.current := by
    unfold ConfigHandle.beginShutdown
    cases handle.parked <;> rfl
  rwa [hcurrent] at h

theorem sameNeeds_start (handle : ConfigHandle) :
    handle.current.SameNeeds handle.start.current := by
  have h := sameNeeds_publish handle.beginStart.1 handle.beginStart.2
  have hcurrent : handle.beginStart.1.current = handle.current := by
    unfold ConfigHandle.beginStart
    cases handle.parked <;> rfl
  rwa [hcurrent] at h

theorem built_scale (h : may .configure) (role : Role) (n : UInt32) :
    Built may offers (scale role n) := by
  refine (Built.piece (.configure h (sameNeeds_scale role n))).bind fun _ =>
    (built_look _).bind fun isShutDown => ?_
  split
  · exact .pure 0
  · exact (looks_listRole role).built.bind fun records => built_retireEach _

theorem built_shutdown (h : may .configure) : Built may offers shutdown :=
  (Built.piece (.configure h sameNeeds_shutdown)).bind fun _ =>
    looks_listAll.built.bind fun records => built_retireEach records

theorem built_start (h : may .configure) : Built may offers start :=
  .piece (.configure h sameNeeds_start)

theorem built_restart (h : may .configure) : Built may offers restart :=
  (built_shutdown h).bind fun _ => (built_start h).bind fun _ => .pure _

theorem built_restore (h : may .configure) : Built may offers restore :=
  looks_settings.built.bind fun settings => looks_identity.built.bind fun _ =>
    .piece (.configure h fun handle => .withSettings handle.current settings)

/-! ### What operators change of the configuration -/

section Config

variable (s : Surroundings) (w : World)

/-- Whatever becomes of the surplus tasks, the wanted number is set. -/
theorem config_scale (role : Role) (n : UInt32) :
    (scale role n s w).2.config = w.config.scale role n := by
  have hrest : Built (fun _ => False) [] (look (·.config.isShutDown) >>= fun isShutDown =>
      if isShutDown then pure 0 else Records.listRole role >>= fun records =>
        retireEach (surplus (records.filter fun r => !r.state.isTerminal) n)) := by
    refine (built_look _).bind fun isShutDown => ?_
    split
    · exact .pure 0
    · exact (looks_listRole role).built.bind fun records => built_retireEach _
  exact bind_keeps (P := fun w' => w'.config = w.config.scale role n) rfl fun _ w₁ h =>
    ((hrest.confined s w₁).config not_false).trans h

/-- Whatever becomes of the tasks, the wanted numbers are set aside. -/
theorem config_shutdown : (shutdown s w).2.config = w.config.shutdown := by
  have hrest : Built (fun _ => False) [] (Records.listAll >>= retireEach) :=
    looks_listAll.built.bind fun records => built_retireEach records
  exact bind_keeps (P := fun w' => w'.config = w.config.shutdown) rfl fun _ w₁ h =>
    ((hrest.confined s w₁).config not_false).trans h

theorem start_run : start s w = (.ok (), { w with config := w.config.start }) := rfl

/-- A restart whose shutdown fails does not go on to the start. -/
theorem config_restart : (restart s w).2.config = w.config.shutdown ∨
    (restart s w).2.config = w.config.shutdown.start := by
  have hconfig := config_shutdown s w
  cases hrun : shutdown s w with
  | mk result w₁ =>
    rw [hrun] at hconfig
    cases result with
    | error e =>
      left
      rw [restart, bind_of_error hrun]
      exact hconfig
    | ok removed =>
      right
      rw [restart, bind_of_ok hrun, bind_of_ok (start_run s w₁)]
      exact congrArg ConfigHandle.start hconfig

end Config

end Run

end Scheduling

end Stevedore
