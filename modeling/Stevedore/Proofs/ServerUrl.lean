import Stevedore.Proofs.FirstServer

/-!
# One address for the whole cluster

All servers and agents of a framework are told the address of its first server
(`one_url_in_a_cluster`), unless two things come together: the settings could not be saved after the
record of that server, which is not tried again before the next server is created, and a process
with another address in its configuration is started in between. Then later servers and agents are
told that other address (`two_urls_in_one_cluster`).
-/

namespace Stevedore

namespace ConfigHandle

theorem serverUrl_publish (handle : ConfigHandle) (change : Option Publication) :
    (handle.publish change).current.serverUrl = handle.current.serverUrl := by
  cases change with
  | none => rfl
  | some p =>
    cases p with
    | one role n => exact Config.serverUrl_setDesired _ role n
    | all counts =>
      show (Config.setCounts _ _).serverUrl = _
      simp only [Config.setCounts, Config.serverUrl_setDesired]

/-- What operators change does not move the control plane. -/
theorem serverUrl_scale (handle : ConfigHandle) (role : Role) (n : UInt32) :
    (handle.scale role n).current.serverUrl = handle.current.serverUrl := by
  refine (serverUrl_publish (handle.beginScale role n).1 (handle.beginScale role n).2).trans ?_
  unfold beginScale
  cases handle.parked <;> rfl

theorem serverUrl_shutdown (handle : ConfigHandle) :
    handle.shutdown.current.serverUrl = handle.current.serverUrl := by
  refine (serverUrl_publish handle.beginShutdown.1 handle.beginShutdown.2).trans ?_
  unfold beginShutdown
  cases handle.parked <;> rfl

theorem serverUrl_start (handle : ConfigHandle) :
    handle.start.current.serverUrl = handle.current.serverUrl := by
  refine (serverUrl_publish handle.beginStart.1 handle.beginStart.2).trans ?_
  unfold beginStart
  cases handle.parked <;> rfl

end ConfigHandle

namespace Scheduling

open Store (Memory)

variable {s : Surroundings} {w w' w'' : World} {name url : String}

/-! ### Phases -/

/-- A tick on the configuration in force, or an action. -/
inductive Phase where
  /-- A tick. -/
  | tick
  /-- An action. -/
  | action (action : Action)

namespace Phase

/-- What a phase makes of the world. -/
def run (s : Surroundings) (w : World) : Phase → World
  | tick => (Run.tick w.config.current s w).2
  | action a => a.run s w

/-- Every process is started with a configuration that may be used. -/
def Valid (phases : List Phase) : Prop :=
  ∀ cfg, action (.process cfg) ∈ phases → cfg.validate = .ok ()

end Phase

/-- What phases make of the world, one after the other. -/
def runPhases (s : Surroundings) (w : World) (phases : List Phase) : World :=
  phases.foldl (Phase.run s) w

/-- Every process that acts for a framework finds settings stored, or is configured with a given
address. -/
def Heedful (s : Surroundings) (name url : String) (w : World) (phases : List Phase) : Prop :=
  ∀ ⦃before cfg after⦄, phases = before ++ .action (.process cfg) :: after →
    cfg.framework.name = name →
      ((runPhases s w before).store.get? (Key.settings name)).isSome ∨ cfg.serverUrl = url

/-- An action is a cycle, ends the process, or creates nothing. -/
theorem Action.creates_cases (action : Action) (s : Surroundings) (w : World) :
    action = .cycle ∨ (∃ cfg, action = .process cfg) ∨
      (∀ cfg, action ≠ .process cfg) ∧ ∃ (α : Type) (m : Run α),
        Run.Built (fun x => x ≠ .create) action.offers m ∧ action.run s w = (m s w).2 := by
  cases action with
  | cycle => exact Or.inl rfl
  | process cfg => exact Or.inr (Or.inl ⟨cfg, rfl⟩)
  | event e =>
    exact Or.inr (Or.inr ⟨by simp, _, _, Run.built_handleEvent nofun nofun fun _ _ => nofun, rfl⟩)
  | scale role n => exact Or.inr (Or.inr ⟨by simp, _, _, Run.built_scale nofun role n, rfl⟩)
  | shutdown => exact Or.inr (Or.inr ⟨by simp, _, _, Run.built_shutdown nofun, rfl⟩)
  | start => exact Or.inr (Or.inr ⟨by simp, _, _, Run.built_start nofun, rfl⟩)
  | restart => exact Or.inr (Or.inr ⟨by simp, _, _, Run.built_restart nofun, rfl⟩)
  | restore => exact Or.inr (Or.inr ⟨by simp, _, _, Run.built_restore nofun, rfl⟩)

/-- A cycle is a tick and what follows it. -/
theorem cycle_cases (s : Surroundings) (w : World) :
    ∃ w₁, w₁ = (Run.tick w.config.current s w).2 ∧
      ((Run.cycle s w).2 = w₁ ∨ ∃ report, (Run.cycle s w).2 = (Run.followUp report s w₁).2) := by
  refine ⟨_, rfl, ?_⟩
  rw [Run.cycle_run]
  generalize htick : Run.tick w.config.current s w = ticked
  obtain ⟨result, w₁⟩ := ticked
  cases result with
  | error e =>
    rw [Run.bind_of_error htick]
    exact Or.inl rfl
  | ok report =>
    rw [Run.bind_of_ok htick]
    exact Or.inr ⟨report, rfl⟩

/-! ### What phases keep -/

theorem WellNamed.phase (h : WellNamed w) (s : Surroundings) {phase : Phase}
    (hvalid : ∀ cfg, phase = .action (.process cfg) → cfg.validate = .ok ()) :
    WellNamed (phase.run s w) := by
  cases phase with
  | tick => exact h.tick s
  | action a =>
    obtain ⟨α, m, hbuilt, hrun⟩ | ⟨cfg, rfl⟩ :=
      a.run_cases (fun _ => True) (fun _ _ => trivial) s w
    · show WellNamed (a.run s w)
      rw [hrun]
      exact h.built hbuilt s
    · exact ⟨rfl, Config.not_mem_name_of_validate (hvalid cfg rfl), h.placed⟩

/-- Two worlds whose configurations name the same address of the control plane. -/
def SameUrl (w w' : World) : Prop :=
  w'.config.current.serverUrl = w.config.current.serverUrl

theorem sameUrl_of_built {may : Liberty → Prop} {offers : List Manager.Offer} {α : Type}
    {m : Run α} (h : Run.Built may offers m) (hconfigure : ¬ may .configure) (s : Surroundings)
    (w : World) : SameUrl w (m s w).2 := by
  unfold SameUrl
  rw [(h.confined s w).config hconfigure]

theorem sameUrl_scale (role : Role) (n : UInt32) (s : Surroundings) (w : World) :
    SameUrl w (Run.scale role n s w).2 := by
  unfold SameUrl
  rw [Run.config_scale]
  exact w.config.serverUrl_scale role n

theorem sameUrl_shutdown (s : Surroundings) (w : World) : SameUrl w (Run.shutdown s w).2 := by
  unfold SameUrl
  rw [Run.config_shutdown]
  exact w.config.serverUrl_shutdown

theorem sameUrl_start (s : Surroundings) (w : World) : SameUrl w (Run.start s w).2 :=
  w.config.serverUrl_start

theorem sameUrl_restart (s : Surroundings) (w : World) : SameUrl w (Run.restart s w).2 := by
  unfold SameUrl
  rcases Run.config_restart s w with hconfig | hconfig
  · rw [hconfig]
    exact w.config.serverUrl_shutdown
  · rw [hconfig, ConfigHandle.serverUrl_start]
    exact w.config.serverUrl_shutdown

/-- Where no settings are stored there is nothing to lay over a configuration. -/
theorem sameUrl_restore (s : Surroundings)
    (h : w.store.get? (Key.settings w.framework) = none) : SameUrl w (Run.restore s w).2 := by
  obtain ⟨n, hrun | ⟨x, hx, hrun⟩⟩ := restore_cases s w
  · rw [hrun]
    rfl
  · unfold World.storedSettings storedAs at hx
    rw [h] at hx
    cases hx
    rw [hrun]
    exact Config.serverUrl_withSettings _ _

/-- Unless settings are stored, the address of the control plane only changes when a process is
started. -/
theorem sameUrl_action {action : Action} (hprocess : ∀ cfg, action ≠ .process cfg)
    (s : Surroundings) (h : w.store.get? (Key.settings w.framework) = none) :
    SameUrl w (action.run s w) := by
  cases action with
  | cycle =>
    have hbuilt : Run.Built (fun x => x ≠ .configure) [] Run.cycle := Run.built_cycle nofun nofun
    exact sameUrl_of_built hbuilt (fun h => h rfl) s w
  | event e =>
    have hbuilt : Run.Built (fun x => x ≠ .configure) (Run.offersOf e) (Run.handleEvent e) :=
      Run.built_handleEvent nofun nofun fun _ _ => nofun
    exact sameUrl_of_built hbuilt (fun h => h rfl) s w
  | scale role n => exact sameUrl_scale role n s w
  | shutdown => exact sameUrl_shutdown s w
  | start => exact sameUrl_start s w
  | restart => exact sameUrl_restart s w
  | restore => exact sameUrl_restore s h
  | process cfg => exact absurd rfl (hprocess cfg)

/-- From one world to another no key is removed. -/
def Keeps (w w' : World) : Prop :=
  ∀ key, (w.store.get? key).isSome → (w'.store.get? key).isSome

theorem Keeps.trans (h : Keeps w w') (h' : Keeps w' w'') : Keeps w w'' :=
  fun key hpresent => h' key (h key hpresent)

theorem keeps_of_same (hstore : w'.store = w.store) : Keeps w w' := by
  intro key hpresent
  rwa [hstore]

theorem keeps_promoteOne (candidate : TaskRecord) (s : Surroundings) (w : World) :
    Keeps w (Run.promoteOne candidate s w).2 := by
  obtain ⟨result, store, issued, w', hrun, hmoves, hpromotion⟩ :=
    Run.does_promoteOne candidate s w
  rw [hrun]
  cases hpromotion with
  | idle => exact keeps_of_same hmoves.store
  | @done r now =>
    intro key hpresent
    rw [hmoves.store]
    show (KeyMap.get? (w.store.put (promoted r now)) key).isSome
    by_cases hkey : key = (promoted r now).storeKey
    · rw [hkey, Memory.put, Memory.set, KeyMap.get?_insert_self]
      rfl
    · rwa [Memory.put, Memory.set, KeyMap.get?_insert_of_ne hkey]

theorem keeps_promoteEach (records : List TaskRecord) (s : Surroundings) (w : World) :
    Keeps w (Run.promoteEach records s w).2 := by
  induction records generalizing w with
  | nil => exact keeps_of_same rfl
  | cons r rest ih =>
    exact Run.bind_relates (R := Keeps) .trans (keeps_promoteOne r s w) fun _ w₁ =>
      Run.bind_relates (R := Keeps) .trans (ih w₁) fun _ _ => keeps_of_same rfl

theorem keeps_say (c : Manager.Call) (suppressed : Bool) (s : Surroundings) (w : World) :
    Keeps w (Run.say c suppressed s w).2 := by
  obtain ⟨delivery, w', -, hmoves, ⟨-, hsay⟩ | ⟨-, e, hsay⟩⟩ := Run.say_cases c suppressed s w
  · rw [hsay]
    exact keeps_of_same hmoves.store
  · rw [hsay]
    exact keeps_of_same hmoves.store

theorem keeps_look {α : Type} {m : Run α} {f : String → Memory → Except Fault α}
    (h : Run.Looks m f) (s : Surroundings) (w : World) : Keeps w (m s w).2 :=
  keeps_of_same (h.moves s w).store

/-- What follows a tick in a cycle removes nothing. -/
theorem keeps_followUp (report : TickReport) (s : Surroundings) (w : World) :
    Keeps w (Run.followUp report s w).2 := by
  have hpromote : Keeps w (Run.promoteUnset s w).2 := by
    refine Run.bind_relates (R := Keeps) .trans (keeps_look Run.looks_listAll s w) fun records w₁ =>
      Run.bind_relates (R := Keeps) .trans (keeps_promoteEach _ s w₁) fun count w₂ => ?_
    dsimp only
    split
    · exact Run.bind_relates (R := Keeps) .trans (keeps_say .reviving false s w₂)
        fun _ _ => keeps_of_same rfl
    · exact keeps_of_same rfl
  have hevaluate : ∀ w₁, Keeps w₁ (Run.evaluate (!report.created.isEmpty) s w₁).2 := by
    intro w₁
    rw [Run.evaluate_eq]
    refine Run.bind_relates (R := Keeps) .trans (keeps_look Run.looks_listAll s w₁)
      fun records w₂ => Run.bind_relates (R := Keeps) .trans (keeps_of_same rfl)
        fun suppressed w₃ => Run.bind_relates (R := Keeps) .trans ?_ fun _ _ => keeps_of_same rfl
    split
    · exact keeps_say .reviving false s w₃
    · split
      · exact keeps_say .suppressing true s w₃
      · exact keeps_of_same rfl
  exact Run.bind_relates (R := Keeps) .trans hpromote fun _ w₁ =>
    Run.bind_relates (R := Keeps) .trans (hevaluate w₁) fun _ _ => keeps_of_same rfl

theorem built_followUp_signal (report : TickReport) :
    Run.Built (fun x => x = .signal) [] (Run.followUp report) := by
  refine Run.built_followUp ?_ report
  rfl

theorem Founded.built {may : Liberty → Prop} {offers : List Manager.Offer} {α : Type} {m : Run α}
    (h : Founded name url w) (hnamed : WellNamed w) (hplain : ':' ∉ name.toList)
    (hbuilt : Run.Built may offers m) (hcreate : ¬ may .create) (s : Surroundings)
    (hurl : w.store.get? (Key.settings w.framework) = none → SameUrl w (m s w).2) :
    Founded name url (m s w).2 :=
  h.maintained hplain (hbuilt.maintained hcreate s hnamed.placed hnamed.plain)
    (hbuilt.confined s w).framework hurl

/-- Another process acts on the same store. It may be configured with another address if the
settings fix one. -/
theorem Founded.restart (h : Founded name url w) {cfg : Config}
    (hprocess : cfg.framework.name = name →
      (w.store.get? (Key.settings name)).isSome ∨ cfg.serverUrl = url) :
    Founded name url (w.restart cfg) where
  manned := h.manned
  settings := by
    refine h.settings.imp_right fun hopen => ⟨hopen.1, fun hname => ?_⟩
    refine (hprocess hname).resolve_left fun hpresent => ?_
    rw [hopen.1] at hpresent
    cases hpresent

/-- **What one phase tells new servers and agents**: the address that the others were told. -/
theorem Founded.phase (h : Founded name url w) (hnamed : WellNamed w) (hplain : ':' ∉ name.toList)
    (s : Surroundings) {phase : Phase}
    (hprocess : ∀ cfg, phase = .action (.process cfg) → cfg.framework.name = name →
      (w.store.get? (Key.settings name)).isSome ∨ cfg.serverUrl = url) :
    Founded name url (phase.run s w) := by
  cases phase with
  | tick => exact h.tick hnamed hplain s
  | action a =>
    show Founded name url (a.run s w)
    obtain rfl | ⟨cfg, rfl⟩ | ⟨hnot, α, m, hbuilt, hrun⟩ := a.creates_cases s w
    · have h₁ := h.tick hnamed hplain s
      obtain ⟨w₁, rfl, hrun | ⟨report, hrun⟩⟩ := cycle_cases s w
      · show Founded name url (Run.cycle s w).2
        rw [hrun]
        exact h₁
      · show Founded name url (Run.cycle s w).2
        rw [hrun]
        have hnamed₁ := hnamed.tick s
        have hbuilt := built_followUp_signal report
        exact h₁.built hnamed₁ hplain hbuilt nofun s fun _ => sameUrl_of_built hbuilt nofun s _
    · exact h.restart (hprocess cfg rfl)
    · rw [hrun]
      exact h.built hnamed hplain hbuilt (fun hne => hne rfl) s fun hnone =>
        hrun ▸ sameUrl_action hnot s hnone

/-- A framework without servers stays one if a phase stores none. -/
theorem Unfounded.phase (h : Unfounded name w.store) (hnamed : WellNamed w)
    (hplain : ':' ∉ name.toList) (s : Surroundings) (phase : Phase)
    (hnone : ∀ id, (phase.run s w).store.get? (Key.task name .server id) = none) :
    Unfounded name (phase.run s w).store := by
  cases phase with
  | tick => exact h.tick hnamed hplain s hnone
  | action a =>
    show Unfounded name (a.run s w).store
    obtain rfl | ⟨cfg, rfl⟩ | ⟨-, α, m, hbuilt, hrun⟩ := a.creates_cases s w
    · obtain ⟨w₁, rfl, hrun | ⟨report, hrun⟩⟩ := cycle_cases s w
      · show Unfounded name (Run.cycle s w).2.store
        change ∀ id, (Run.cycle s w).2.store.get? _ = none at hnone
        rw [hrun] at hnone ⊢
        exact h.tick hnamed hplain s hnone
      · show Unfounded name (Run.cycle s w).2.store
        change ∀ id, (Run.cycle s w).2.store.get? _ = none at hnone
        rw [hrun] at hnone ⊢
        have hnone₁ : ∀ id,
            (Run.tick w.config.current s w).2.store.get? (Key.task name .server id) = none := by
          intro id
          rw [← Option.not_isSome_iff_eq_none]
          intro hpresent
          have hkept := keeps_followUp report s _ _ hpresent
          rw [hnone] at hkept
          cases hkept
        have hnamed₁ := hnamed.tick s
        exact (h.tick hnamed hplain s hnone₁).maintained hplain
          ((built_followUp_signal report).maintained nofun s hnamed₁.placed hnamed₁.plain)
    · exact h
    · rw [hrun]
      exact h.maintained hplain
        (hbuilt.maintained (fun hne => hne rfl) s hnamed.placed hnamed.plain)

/-! ### Whole runs -/

theorem wellNamed_runPhases (h : WellNamed w) (s : Surroundings) {phases : List Phase}
    (hvalid : Phase.Valid phases) : WellNamed (runPhases s w phases) := by
  induction phases generalizing w with
  | nil => exact h
  | cons phase rest ih =>
    have hfirst : WellNamed (phase.run s w) :=
      h.phase s fun cfg heq => hvalid cfg (heq ▸ List.mem_cons_self)
    exact ih hfirst fun cfg hmem => hvalid cfg (List.mem_cons_of_mem _ hmem)

/-- A framework stays without servers as long as no phase stores one. -/
theorem unfounded_runPhases (h : Unfounded name w.store) (hnamed : WellNamed w)
    (hplain : ':' ∉ name.toList) (s : Surroundings) {phases : List Phase}
    (hvalid : Phase.Valid phases)
    (hnone : ∀ earlier, earlier <+: phases →
      ∀ id, (runPhases s w earlier).store.get? (Key.task name .server id) = none) :
    Unfounded name (runPhases s w phases).store := by
  induction phases generalizing w with
  | nil => exact h
  | cons phase rest ih =>
    have hfirst : Unfounded name (phase.run s w).store :=
      h.phase hnamed hplain s phase (hnone [phase] ⟨rest, rfl⟩)
    have hnamed' : WellNamed (phase.run s w) :=
      hnamed.phase s fun cfg heq => hvalid cfg (heq ▸ List.mem_cons_self)
    exact ih hfirst hnamed' (fun cfg hmem => hvalid cfg (List.mem_cons_of_mem _ hmem))
      fun earlier hearlier =>
        hnone (phase :: earlier) ((List.prefix_cons_inj phase).2 hearlier)

/-- All that is told in a run to new servers and agents is what the others were told. -/
theorem founded_runPhases (h : Founded name url w) (hnamed : WellNamed w)
    (hplain : ':' ∉ name.toList) {phases : List Phase} (hvalid : Phase.Valid phases)
    (hheedful : Heedful s name url w phases) : Founded name url (runPhases s w phases) := by
  induction phases generalizing w with
  | nil => exact h
  | cons phase rest ih =>
    have hfirst : Founded name url (phase.run s w) := by
      refine h.phase hnamed hplain s fun cfg heq => ?_
      have hsplit : phase :: rest = [] ++ .action (.process cfg) :: rest :=
        congrArg (· :: rest) heq
      exact hheedful hsplit
    have hnamed' : WellNamed (phase.run s w) :=
      hnamed.phase s fun cfg heq => hvalid cfg (heq ▸ List.mem_cons_self)
    refine ih hfirst hnamed' (fun cfg hmem => hvalid cfg (List.mem_cons_of_mem _ hmem)) ?_
    intro before cfg after heq
    have hsplit : phase :: rest = (phase :: before) ++ .action (.process cfg) :: after :=
      congrArg (phase :: ·) heq
    exact hheedful hsplit

/-- **All servers and agents of a cluster are told the address of the first server.** Take any
phases that follow an empty store, whatever fails and with whatever configurations processes are
started, and the first phase after which the framework in question has a server. From then on
servers and agents are told the address that was configured when that phase began, provided that
every later process of the framework is configured with that address, too, or finds the settings
saved. -/
theorem one_url_in_a_cluster (s : Surroundings) {cfg : Config} (nodes : NodeSource)
    (hcfg : cfg.validate = .ok ()) {before after : List Phase} {phase : Phase}
    (hvalid : Phase.Valid (before ++ phase :: after)) {w w' : World}
    (hw : w = runPhases s (.start cfg ∅ nodes) before) (hw' : w' = phase.run s w)
    (hfirst : ∀ earlier, earlier <+: before →
      ∀ id, (runPhases s (.start cfg ∅ nodes) earlier).store.get?
        (Key.task w.framework .server id) = none)
    (hserver : ∃ id, (w'.store.get? (Key.task w.framework .server id)).isSome)
    (hheedful : Heedful s w.framework w.config.current.serverUrl w' after)
    {later : List Phase} (hlater : later <+: after) {role : Role} (hrole : role ≠ .datastore)
    {id text : String}
    (htext : (runPhases s w' later).store.get? (Key.task w.framework role id) = some text) :
    ∃ r : TaskRecord, text = (Json.encode r).render ∧
      r.serverUrl? = some w.config.current.serverUrl := by
  have hstart : WellNamed (.start cfg ∅ nodes) :=
    ⟨rfl, Config.not_mem_name_of_validate hcfg, fun _ _ h => by cases h⟩
  have hbefore : Phase.Valid before := fun cfg hmem => hvalid cfg (List.mem_append_left _ hmem)
  have hnamed : WellNamed w := hw ▸ wellNamed_runPhases hstart s hbefore
  have hunfounded : Unfounded w.framework w.store := by
    have hempty : Unfounded w.framework (World.start cfg ∅ nodes).store :=
      ⟨(fun _ _ _ htext => nomatch htext), rfl⟩
    have h := unfounded_runPhases hempty hstart hnamed.plain s hbefore hfirst
    rwa [← hw] at h
  -- a phase that starts a process stores nothing
  have hactive : ∀ cfg, phase ≠ .action (.process cfg) := by
    rintro cfg rfl
    obtain ⟨id, hpresent⟩ := hserver
    have hnone := hfirst before (List.prefix_refl before) id
    rw [← hw] at hnone
    rw [hw'] at hpresent
    change (w.store.get? _).isSome at hpresent
    rw [hnone] at hpresent
    cases hpresent
  have hfounded : Founded w.framework w.config.current.serverUrl w' :=
    hw' ▸ hunfounded.founded.phase hnamed hnamed.plain s fun cfg heq => absurd heq (hactive cfg)
  have hnamed' : WellNamed w' := hw' ▸ hnamed.phase s fun cfg heq => absurd heq (hactive cfg)
  obtain ⟨rest, rfl⟩ := hlater
  have hvalid' : Phase.Valid later := fun cfg hmem =>
    hvalid cfg (List.mem_append_right _ (List.mem_cons_of_mem _ (List.mem_append_left _ hmem)))
  have hheedful' : Heedful s w.framework w.config.current.serverUrl w' later := by
    rintro before cfg after rfl
    exact hheedful (List.append_assoc ..)
  have hend := founded_runPhases hfounded hnamed' hnamed.plain hvalid' hheedful'
  obtain ⟨r, hr, hurl⟩ := hend.manned htext
  exact ⟨r, hr, hurl hrole⟩

/-- A process is configured with another address after the first server was created. -/
theorem one_url_after_restart :
    let cfg : Config :=
      { datastore := { instances := 0 }, server := { instances := 1 }, agent := { instances := 0 } }
    let other : Config := { cfg with server.url := some "https://elsewhere:6443" }
    let w : World := .start cfg ∅ (.listed [])
    let after : List Phase := [.action (.process other), .tick]
    cfg.validate = .ok () ∧ Phase.Valid (.tick :: after) ∧
      (∃ id, ((Phase.tick.run .calm w).store.get? (Key.task w.framework .server id)).isSome) ∧
      Heedful .calm w.framework cfg.serverUrl (Phase.tick.run .calm w) after ∧
      ∀ role id text, role ≠ .datastore →
        (runPhases .calm (Phase.tick.run .calm w) after).store.get?
          (Key.task w.framework role id) = some text →
        ∃ r : TaskRecord, text = (Json.encode r).render ∧
          r.serverUrl? = some "https://keelserver:6443" := by
  intro cfg other w after
  have hcfg : cfg.validate = .ok () := by decide +kernel
  have hother : other.validate = .ok () := by decide +kernel
  have hurl : cfg.serverUrl = "https://keelserver:6443" := by decide +kernel
  have hvalid : Phase.Valid ([] ++ .tick :: after) := by
    intro cfg' hmem
    simp only [after, List.mem_cons, reduceCtorEq, Phase.action.injEq, Action.process.injEq,
      List.not_mem_nil, List.nil_append, or_false, false_or] at hmem
    rw [hmem]
    exact hother
  have hshort : activeCount ((∅ : Memory).records "keel") .server <
      (cfg.desired .server).toNat := by
    decide +kernel
  have hport : cfg.datastorePort?.isSome := by decide +kernel
  have hawaits : AwaitsServer cfg .calm w :=
    ⟨fun _ => rfl, rfl, rfl, rfl, rfl, rfl, hshort, fun _ _ => rfl, hport, rfl⟩
  have hsettings := hawaits.saves rfl
  obtain ⟨id, r, hcreated, -⟩ := hawaits.creates rfl
  have htick : Phase.tick.run .calm w = (Run.tick cfg .calm w).2 := rfl
  have hserver : ∃ id, ((Run.tick cfg .calm w).2.store.get?
      (Key.task w.framework .server id)).isSome := ⟨id, by rw [hcreated]; rfl⟩
  have hfirst : ∀ earlier, earlier <+: ([] : List Phase) → ∀ id,
      (runPhases .calm w earlier).store.get? (Key.task w.framework .server id) = none := by
    intro earlier hearlier id
    rw [List.prefix_nil.1 hearlier]
    rfl
  rw [htick]
  generalize (Run.tick cfg .calm w).2 = w' at htick hsettings hserver
  have hheedful : Heedful .calm w.framework cfg.serverUrl w' after := by
    intro before cfg' rest heq _
    cases before with
    | nil => exact Or.inl hsettings
    | cons phase before => cases before <;> simp [after] at heq
  refine ⟨hcfg, hvalid, hserver, hheedful, fun role id text hrole htext => ?_⟩
  rw [← hurl]
  exact one_url_in_a_cluster .calm (.listed []) hcfg hvalid rfl htick.symm hfirst hserver
    hheedful (List.prefix_refl after) hrole htext

/-- **Two servers are told different addresses** if the settings could not be saved when the first
of them was created, and the second is created by a process with another configuration. -/
theorem two_urls_in_one_cluster :
    let s : Surroundings :=
      { Surroundings.calm with writeFault := fun n => if n = 1 then some "full" else none }
    let cfg : Config :=
      { datastore := { instances := 0 }, server := { instances := 2 }, agent := { instances := 0 } }
    let other : Config := { cfg with server.url := some "https://elsewhere:6443" }
    let w : World := .start cfg ∅ (.listed [])
    cfg.validate = .ok () ∧ other.validate = .ok () ∧
      ∃ id₁ id₂, ∃ r₁ r₂ : TaskRecord,
        (runPhases s w [.tick]).store.get? (Key.task "keel" .server id₁) =
          some (Json.encode r₁).render ∧
        (runPhases s w [.tick, .action (.process other), .tick]).store.get?
          (Key.task "keel" .server id₂) = some (Json.encode r₂).render ∧
        r₁.serverUrl? = some "https://keelserver:6443" ∧
        r₂.serverUrl? = some "https://elsewhere:6443" := by
  intro s cfg other w
  have hcfg : cfg.validate = .ok () := by decide +kernel
  have hother : other.validate = .ok () := by decide +kernel
  have hurl : cfg.serverUrl = "https://keelserver:6443" := by decide +kernel
  have hurl' : other.serverUrl = "https://elsewhere:6443" := by decide +kernel
  have hshort : activeCount ((∅ : Memory).records "keel") .server + 1 <
      (cfg.desired .server).toNat := by
    decide +kernel
  have hport : cfg.datastorePort?.isSome := by decide +kernel
  have hport' : other.datastorePort?.isSome := by decide +kernel
  have hkept : Kept w.framework w.store := kept_of_no_records fun _ _ => rfl
  have hawaits : AwaitsServer cfg s w :=
    ⟨fun _ => rfl, rfl, rfl, rfl, rfl, rfl, Nat.lt_of_succ_lt hshort, fun _ _ => rfl, hport, rfl⟩
  have hawaits' : AwaitsServer other s ((Run.tick cfg s w).2.restart other) :=
    hawaits.again rfl hkept rfl rfl rfl rfl rfl hport' hshort
  obtain ⟨id₁, r₁, hcreated₁, hurl₁⟩ := hawaits.creates rfl
  obtain ⟨id₂, r₂, hcreated₂, hurl₂⟩ := hawaits'.creates rfl
  have htick : Phase.tick.run s w = (Run.tick cfg s w).2 := rfl
  have hphases : ∀ (s : Surroundings) (w : World) (other : Config),
      runPhases s w [.tick, .action (.process other), .tick] =
        (Run.tick other s ((Phase.tick.run s w).restart other)).2 := fun _ _ _ => rfl
  have hphase : ∀ (s : Surroundings) (w : World), runPhases s w [.tick] = Phase.tick.run s w :=
    fun _ _ => rfl
  refine ⟨hcfg, hother, id₁, id₂, r₁, r₂, ?_, ?_, hurl ▸ hurl₁, hurl' ▸ hurl₂⟩
  · rw [hphase, htick]
    exact hcreated₁
  · rw [hphases, htick]
    exact hcreated₂

end Scheduling

end Stevedore
