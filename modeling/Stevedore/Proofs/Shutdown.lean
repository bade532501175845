import Stevedore.Proofs.Interleaving
import Stevedore.Proofs.Registration

/-!
# Shut down until the next start

The wanted numbers of tasks lie in two places: the configuration in force and, while the cluster is
shut down, the numbers set aside. What is `intended` is read from the one or the other. Scaling
changes it for its role and nothing else does, so that a start brings back what was last asked for,
whenever that was. In between nothing is wanted; and once a shutdown has gone well there are no
records, so that whatever tends to records finds none (`idles_of_built`), and no tick creates one.
-/

namespace Stevedore

theorem Counts.get_set (c : Counts) (role other : Role) (n : UInt32) :
    (c.set role n).get other = if other = role then n else c.get other := by
  cases role <;> cases other <;> rfl

theorem Config.get_counts (cfg : Config) (role : Role) :
    cfg.counts.get role = cfg.desired role := by
  cases role <;> rfl

theorem Config.desired_withSettings (cfg : Config) (settings : Settings) (role : Role) :
    (cfg.withSettings settings).desired role = cfg.desired role := by
  cases role <;> rfl

namespace ConfigHandle

/-! ### Intended numbers -/

/-- How many tasks of a role are wanted, or will be when the cluster is started again. -/
def intended (h : ConfigHandle) (role : Role) : UInt32 :=
  match h.parked with
  | some counts => counts.get role
  | none => h.current.desired role

/-- While the cluster is shut down no tasks are wanted. -/
def Consistent (h : ConfigHandle) : Prop :=
  h.isShutDown = true → ∀ role, h.current.desired role = 0

variable (h : ConfigHandle) (role other : Role)

theorem intended_scale (n : UInt32) :
    (h.scale role n).intended other = if other = role then n else h.intended other := by
  obtain ⟨current, parked, published⟩ := h
  cases parked with
  | some counts => exact counts.get_set role other n
  | none => exact current.desired_setDesired role other n

theorem intended_shutdown : h.shutdown.intended role = h.intended role := by
  obtain ⟨current, parked, published⟩ := h
  cases parked with
  | some counts => rfl
  | none => exact current.get_counts role

theorem intended_start : h.start.intended role = h.intended role := by
  obtain ⟨current, parked, published⟩ := h
  cases parked with
  | some counts => exact current.desired_setCounts counts role
  | none => rfl

theorem intended_withSettings (x : Settings) :
    (h.update fun cfg => cfg.withSettings x).intended role = h.intended role := by
  obtain ⟨current, parked, published⟩ := h
  cases parked with
  | some counts => rfl
  | none => exact current.desired_withSettings x role

/-- After a start the intended numbers are wanted. -/
theorem desired_start : h.start.current.desired role = h.intended role := by
  rw [← h.intended_start role]
  unfold intended
  cases hparked : h.start.parked with
  | some counts =>
    have hrunning := h.isShutDown_start
    rw [isShutDown, hparked] at hrunning
    cases hrunning
  | none => rfl

theorem isShutDown_shutdown : h.shutdown.isShutDown = true := by
  obtain ⟨current, parked, published⟩ := h
  cases parked <;> rfl

variable {h}

theorem Consistent.scale (hzero : h.Consistent) (n : UInt32) : (h.scale role n).Consistent := by
  intro hshut other
  rw [isShutDown_scale] at hshut
  rw [desired_scale, hshut]
  exact hzero hshut other

theorem Consistent.shutdown (hzero : h.Consistent) : h.shutdown.Consistent := by
  intro _ role
  rw [desired_shutdown]
  split
  · next hshut => exact hzero hshut role
  · rfl

theorem consistent_start (h : ConfigHandle) : h.start.Consistent := by
  intro hshut
  rw [isShutDown_start] at hshut
  cases hshut

theorem Consistent.withSettings (hzero : h.Consistent) (x : Settings) :
    (h.update fun cfg => cfg.withSettings x).Consistent := by
  intro hshut role
  exact (h.current.desired_withSettings x role).trans (hzero hshut role)

end ConfigHandle

namespace Scheduling

open Store (Memory)

variable {s : Surroundings} {w w' w'' : World}

/-! ### What was asked for -/

/-- The number of tasks of a role that an action asks for. -/
def Action.scaled? (role : Role) : Action → Option UInt32
  | scale other n => if other = role then some n else none
  | _ => none

/-- The number of tasks of a role that the last of some actions to do so asks for. -/
def lastScaled? (role : Role) (actions : List Action) : Option UInt32 :=
  (actions.filterMap (Action.scaled? role)).getLast?

theorem lastScaled?_append (role : Role) (before during : List Action) :
    lastScaled? role (before ++ during) =
      (lastScaled? role during).or (lastScaled? role before) := by
  unfold lastScaled?
  rw [List.filterMap_append, List.getLast?_append]

theorem lastScaled?_cons (role : Role) (action : Action) (rest : List Action) :
    lastScaled? role (action :: rest) = (lastScaled? role rest).or (action.scaled? role) := by
  have hsingle : lastScaled? role [action] = action.scaled? role := by
    unfold lastScaled?
    rw [List.filterMap_cons]
    cases action.scaled? role <;> rfl
  rw [← hsingle]
  exact lastScaled?_append role [action] rest

/-- What an action makes of the configuration in force. A restart whose shutdown fails does not go
on to the start, and stored settings are only laid over the configuration if they can be read. -/
inductive Reconfigured (handle : ConfigHandle) : Action → ConfigHandle → Prop
  | cycle : Reconfigured handle .cycle handle
  | event {e} : Reconfigured handle (.event e) handle
  | scale {role n} : Reconfigured handle (.scale role n) (handle.scale role n)
  | shutdown : Reconfigured handle .shutdown handle.shutdown
  | start : Reconfigured handle .start handle.start
  | restart : Reconfigured handle .restart handle.shutdown.start
  | aborted : Reconfigured handle .restart handle.shutdown
  | restore {x} : Reconfigured handle .restore (handle.update fun cfg => cfg.withSettings x)
  | unread : Reconfigured handle .restore handle

theorem reconfigured_action {action : Action} (hprocess : ∀ cfg, action ≠ .process cfg)
    (s : Surroundings) (w : World) : Reconfigured w.config action (action.run s w).config := by
  cases action with
  | cycle =>
    have hbuilt : Run.Built (fun x => x ≠ .configure) [] Run.cycle := Run.built_cycle nofun nofun
    have hconfig : (Action.run s w .cycle).config = w.config :=
      (hbuilt.confined s w).config fun h => h rfl
    rw [hconfig]
    exact .cycle
  | event e =>
    have hbuilt : Run.Built (fun x => x ≠ .configure) (Run.offersOf e) (Run.handleEvent e) :=
      Run.built_handleEvent nofun nofun fun _ _ => nofun
    have hconfig : (Action.run s w (.event e)).config = w.config :=
      (hbuilt.confined s w).config fun h => h rfl
    rw [hconfig]
    exact .event
  | scale role n =>
    have hconfig : (Action.run s w (.scale role n)).config = _ := Run.config_scale s w role n
    rw [hconfig]
    exact .scale
  | shutdown =>
    have hconfig : (Action.run s w .shutdown).config = _ := Run.config_shutdown s w
    rw [hconfig]
    exact .shutdown
  | start => exact .start
  | restart =>
    obtain hconfig | hconfig : (Action.run s w .restart).config = w.config.shutdown ∨
        (Action.run s w .restart).config = w.config.shutdown.start := Run.config_restart s w
    · rw [hconfig]
      exact .aborted
    · rw [hconfig]
      exact .restart
  | restore =>
    have hrestore : Action.run s w .restore = (Run.restore s w).2 := rfl
    obtain ⟨n, hrun | ⟨x, -, hrun⟩⟩ := restore_cases s w
    · rw [hrestore, hrun]
      exact .unread
    · rw [hrestore, hrun]
      exact .restore
  | process cfg => exact absurd rfl (hprocess cfg)

namespace Reconfigured

variable {handle handle' : ConfigHandle} {action : Action}

theorem consistent (h : Reconfigured handle action handle') (hzero : handle.Consistent) :
    handle'.Consistent := by
  cases h with
  | cycle => exact hzero
  | event => exact hzero
  | scale => exact hzero.scale _ _
  | shutdown => exact hzero.shutdown
  | start => exact handle.consistent_start
  | restart => exact handle.shutdown.consistent_start
  | aborted => exact hzero.shutdown
  | restore => exact hzero.withSettings _
  | unread => exact hzero

/-- **Only scaling changes what is intended.** -/
theorem intended (h : Reconfigured handle action handle') (role : Role) :
    handle'.intended role = (action.scaled? role).getD (handle.intended role) := by
  cases h with
  | cycle => rfl
  | event => rfl
  | @scale other n =>
    rw [ConfigHandle.intended_scale]
    by_cases hrole : role = other
    · simp [Action.scaled?, hrole]
    · simp [Action.scaled?, hrole, Ne.symm hrole]
  | shutdown => exact handle.intended_shutdown role
  | start => exact handle.intended_start role
  | restart => exact (handle.shutdown.intended_start role).trans (handle.intended_shutdown role)
  | aborted => exact handle.intended_shutdown role
  | restore => exact handle.intended_withSettings role _
  | unread => rfl

/-- Only a start ends a shutdown. -/
theorem isShutDown (h : Reconfigured handle action handle') (hstart : action ≠ .start)
    (hrestart : action ≠ .restart) (hshut : handle.isShutDown = true) :
    handle'.isShutDown = true := by
  cases h with
  | cycle => exact hshut
  | event => exact hshut
  | scale => exact (handle.isShutDown_scale _ _).trans hshut
  | shutdown => exact handle.isShutDown_shutdown
  | start => exact absurd rfl hstart
  | restart => exact absurd rfl hrestart
  | aborted => exact absurd rfl hrestart
  | restore => exact hshut
  | unread => exact hshut

/-- Only a shutdown begins one. -/
theorem isRunning (h : Reconfigured handle action handle') (hshutdown : action ≠ .shutdown)
    (hrestart : action ≠ .restart) (hrunning : handle.isShutDown = false) :
    handle'.isShutDown = false := by
  cases h with
  | cycle => exact hrunning
  | event => exact hrunning
  | scale => exact (handle.isShutDown_scale _ _).trans hrunning
  | shutdown => exact absurd rfl hshutdown
  | start => exact handle.isShutDown_start
  | restart => exact absurd rfl hrestart
  | aborted => exact absurd rfl hrestart
  | restore => exact hrunning
  | unread => exact hrunning

end Reconfigured

/-- **What actions do to the configuration**: the last number asked for of a role is intended. -/
theorem config_runActions {actions : List Action} (hprocess : ∀ cfg, .process cfg ∉ actions)
    (s : Surroundings) (hzero : w.config.Consistent) :
    (runActions s w actions).config.Consistent ∧ ∀ role,
      (runActions s w actions).config.intended role =
        (lastScaled? role actions).getD (w.config.intended role) := by
  induction actions generalizing w with
  | nil => exact ⟨hzero, fun _ => rfl⟩
  | cons action rest ih =>
    have hfirst : Reconfigured w.config action (action.run s w).config :=
      reconfigured_action (fun cfg heq => hprocess cfg (heq ▸ List.mem_cons_self)) s w
    obtain ⟨hzero', hrest⟩ := ih (fun cfg hmem => hprocess cfg (List.mem_cons_of_mem _ hmem))
      (hfirst.consistent hzero)
    refine ⟨hzero', fun role => (hrest role).trans ?_⟩
    rw [hfirst.intended, lastScaled?_cons]
    cases lastScaled? role rest <;> rfl

/-- Unless a shutdown is among some actions, the cluster is running after them if it was before. -/
theorem isRunning_runActions {actions : List Action} (hprocess : ∀ cfg, .process cfg ∉ actions)
    (hshutdown : .shutdown ∉ actions) (hrestart : .restart ∉ actions) (s : Surroundings)
    (hrunning : w.config.isShutDown = false) :
    (runActions s w actions).config.isShutDown = false := by
  induction actions generalizing w with
  | nil => exact hrunning
  | cons action rest ih =>
    have hfirst : Reconfigured w.config action (action.run s w).config :=
      reconfigured_action (fun cfg heq => hprocess cfg (heq ▸ List.mem_cons_self)) s w
    have hrunning' := hfirst.isRunning (fun heq => hshutdown (heq ▸ List.mem_cons_self))
      (fun heq => hrestart (heq ▸ List.mem_cons_self)) hrunning
    exact ih (fun cfg hmem => hprocess cfg (List.mem_cons_of_mem _ hmem))
      (fun hmem => hshutdown (List.mem_cons_of_mem _ hmem))
      (fun hmem => hrestart (List.mem_cons_of_mem _ hmem)) hrunning'

/-! ### Without records -/

/-- No text under the key of a task of a framework can be read as a record. -/
def Barren (name : String) (store : Memory) : Prop :=
  ∀ role id, store.record? (Key.task name role id) = none

/-- From one world to another nothing under the keys of tasks has changed, no id was drawn, and no
offer was accepted. -/
structure Idles (w w' : World) : Prop where
  framework : w'.framework = w.framework
  texts : ∀ role id, w'.store.get? (Key.task w.framework role id) =
    w.store.get? (Key.task w.framework role id)
  ids : w'.tally.ids = w.tally.ids
  issued : ∃ issued, w'.issued = w.issued ++ issued ∧ ∀ i ∈ issued, i.call.kind ≠ .accept

namespace Idles

theorem of_same (hframework : w'.framework = w.framework) (hstore : w'.store = w.store)
    (hids : w'.tally.ids = w.tally.ids) (hissued : w'.issued = w.issued) : Idles w w' where
  framework := hframework
  texts _ _ := by rw [hstore]
  ids := hids
  issued := ⟨[], by rw [hissued, List.append_nil], fun _ hi => absurd hi List.not_mem_nil⟩

theorem trans (h : Idles w w') (h' : Idles w' w'') : Idles w w'' where
  framework := h'.framework.trans h.framework
  texts role id := by
    have htexts' := h'.texts role id
    rw [h.framework] at htexts'
    exact htexts'.trans (h.texts role id)
  ids := h'.ids.trans h.ids
  issued := by
    obtain ⟨issued, hissued, hother⟩ := h.issued
    obtain ⟨issued', hissued', hother'⟩ := h'.issued
    refine ⟨issued ++ issued', ?_, fun i hi => ?_⟩
    · rw [hissued', hissued, List.append_assoc]
    · rcases List.mem_append.1 hi with hi | hi
      · exact hother i hi
      · exact hother' i hi

theorem barren (h : Idles w w') (hbarren : Barren w.framework w.store) :
    Barren w'.framework w'.store := by
  intro role id
  rw [h.framework, record?_congr (h.texts role id)]
  exact hbarren role id

end Idles

/-- Where there are no records, tending to them changes none and accepts no offer. -/
theorem Run.Tended.of_barren {may : Liberty → Prop} {offers : List Manager.Offer} {name : String}
    {store store' : Memory} {issued : List Issue}
    (h : Run.Tended may offers name store store' issued) (hbarren : Barren name store) :
    (∀ role id, store'.get? (Key.task name role id) = store.get? (Key.task name role id)) ∧
      ∀ i ∈ issued, i.call.kind ≠ .accept := by
  have hnone : ∀ {role id r}, store.record? (Key.task name role id) = some r → False := by
    intro role id r hr
    rw [hbarren] at hr
    cases hr
  have hquiet : ∀ {issued : List Issue}, AboutTasks issued → ∀ i ∈ issued, i.call.kind ≠ .accept :=
    fun habout i hi => habout.ne hi (by decide)
  cases h with
  | told hplain =>
    refine ⟨fun _ _ => rfl, fun i hi haccept => ?_⟩
    have hkind := hplain i hi
    rw [haccept] at hkind
    exact absurd hkind (by decide)
  | settings =>
    exact ⟨fun _ _ => KeyMap.get?_insert_of_ne Key.task_ne_settings, hquiet aboutTasks_nil⟩
  | identity =>
    exact ⟨fun _ _ => KeyMap.get?_insert_of_ne Key.task_ne_identity, hquiet aboutTasks_nil⟩
  | forgotten =>
    exact ⟨fun _ _ => KeyMap.get?_erase_of_ne Key.task_ne_node, hquiet aboutTasks_nil⟩
  | promoted h =>
    cases h with
    | idle => exact ⟨fun _ _ => rfl, hquiet aboutTasks_nil⟩
    | done found => exact (hnone found).elim
  | launched _ h =>
    cases h with
    | idle => exact ⟨fun _ _ => rfl, hquiet aboutTasks_nil⟩
    | launched h => exact (hnone h.found).elim
    | reverted h => exact (hnone h.found).elim
    | stuck h => exact (hnone h.found).elim
  | updated _ h =>
    cases h with
    | idle about => exact ⟨fun _ _ => rfl, hquiet about⟩
    | advanced found => exact (hnone found).elim
    | removed found => exact (hnone found).elim
  | retired h =>
    cases h with
    | idle about => exact ⟨fun _ _ => rfl, hquiet about⟩
    | removed found => exact (hnone found).elim

/-- **Where there are no records, whatever creates none leaves it at that** and accepts no offer. -/
theorem idles_of_built {may : Liberty → Prop} {offers : List Manager.Offer} {α : Type} {m : Run α}
    (hbuilt : Run.Built may offers m) (hcreate : ¬ may .create)
    (hbarren : Barren w.framework w.store) : Idles w (m s w).2 := by
  have hsay : ∀ {c : Manager.Call} (suppressed : Bool) (w : World), c.kind ≠ .accept →
      Idles w (Run.say c suppressed s w).2 := by
    intro c suppressed w hkind
    obtain ⟨delivery, w', -, hmoves, hsay⟩ := Run.say_cases c suppressed s w
    have hother : ∀ i ∈ [(⟨c, delivery, w.store⟩ : Issue)], i.call.kind ≠ .accept := by
      intro i hi
      rw [List.mem_singleton.1 hi]
      exact hkind
    have hidles : Idles w w' :=
      ⟨hmoves.framework, fun _ _ => by rw [hmoves.store], hmoves.ids, _, hmoves.issued, hother⟩
    rcases hsay with ⟨-, hsay⟩ | ⟨-, e, hsay⟩
    · rw [hsay]
      exact ⟨hidles.framework, hidles.texts, hidles.ids, hidles.issued⟩
    · rw [hsay]
      exact hidles
  refine hbuilt.relates (R := fun w w' => Barren w.framework w.store → Idles w w')
    (fun w _ => .of_same rfl rfl rfl rfl)
    (fun h h' hbarren => (h hbarren).trans (h' ((h hbarren).barren hbarren)))
    (fun hpiece w hbarren => ?_) w hbarren
  cases hpiece with
  | tend htending =>
    obtain ⟨store, issued, hmoves, htended⟩ := htending.tends s w
    obtain ⟨hstore, hother⟩ := htended.of_barren hbarren
    refine ⟨hmoves.framework, fun role id => ?_, hmoves.ids, issued, hmoves.issued, hother⟩
    rw [hmoves.store]
    exact hstore role id
  | create h => exact absurd h hcreate
  | revive => exact hsay false w (by decide)
  | hold => exact hsay true w (by decide)
  | reset => exact .of_same rfl rfl rfl rfl
  | configure => exact .of_same rfl rfl rfl rfl

/-! ### While nothing is wanted -/

namespace Run

/-- Where no tasks are wanted, no role is short of them. -/
theorem createMissing_of_zero {cfg : Config} (hzero : ∀ role, cfg.desired role = 0)
    (identity : Identity) (records : List TaskRecord) (health : Health) (roles : List Role)
    (settings : Settings) (used : List UInt32) :
    createMissing cfg identity records health roles settings used = pure [] := by
  induction roles with
  | nil => rfl
  | cons role rest ih =>
    have hshort : isShort cfg records role = false := by
      simp [isShort, hzero]
    rw [createMissing, hshort, Bool.false_and, if_neg Bool.false_ne_true]
    exact ih

variable {may : Liberty → Prop} {offers : List Manager.Offer}

/-- Where no tasks are wanted, a tick takes no liberties. -/
theorem built_tick_of_zero {base : Config} (hzero : ∀ role, base.desired role = 0) :
    Built may offers (tick base) := by
  refine looks_settings.built.bind fun settings => looks_identity.built.bind fun identity =>
    looks_listAll.built.bind fun records => (built_probe _ records).bind fun health => ?_
  rw [createMissing_of_zero fun role =>
    (base.desired_withSettings settings role).trans (hzero role)]
  exact (Built.pure []).bind fun _ => built_nodePass records _

end Run

/-- A world that has been shut down: nothing is wanted, and there are no records. -/
structure Dormant (w : World) : Prop where
  shut : w.config.isShutDown = true
  consistent : w.config.Consistent
  barren : Barren w.framework w.store

/-- What does not start the cluster creates nothing while it is dormant. -/
theorem Dormant.action_cases (h : Dormant w) {action : Action}
    (hprocess : ∀ cfg, action ≠ .process cfg) (s : Surroundings) :
    ∃ (offers : List Manager.Offer) (α : Type) (m : Run α),
      Run.Built (fun x => x ≠ .create) offers m ∧ action.run s w = (m s w).2 := by
  obtain rfl | ⟨cfg, rfl⟩ | ⟨-, α, m, hbuilt, hrun⟩ := action.creates_cases s w
  · have htick : Run.Built (fun x => x ≠ .create) [] (Run.tick w.config.current) :=
      Run.built_tick_of_zero (h.consistent h.shut)
    refine ⟨[], _, _, htick.bind (Run.built_followUp nofun), ?_⟩
    exact congrArg Prod.snd (Run.cycle_run s w)
  · exact absurd rfl (hprocess cfg)
  · exact ⟨_, α, m, hbuilt, hrun⟩

/-- Actions that neither start the cluster nor end the process. -/
def Resting (actions : List Action) : Prop :=
  ∀ action ∈ actions, action ≠ .start ∧ action ≠ .restart ∧ ∀ cfg, action ≠ .process cfg

/-- **What an action does to a dormant cluster** unless it starts it: nothing. -/
theorem Dormant.action (h : Dormant w) {action : Action} (hstart : action ≠ .start)
    (hrestart : action ≠ .restart) (hprocess : ∀ cfg, action ≠ .process cfg) (s : Surroundings) :
    Dormant (action.run s w) ∧ Idles w (action.run s w) := by
  obtain ⟨offers, α, m, hbuilt, hrun⟩ := h.action_cases hprocess s
  have hconfig : Reconfigured w.config action (action.run s w).config :=
    reconfigured_action hprocess s w
  have hidles : Idles w (action.run s w) := by
    rw [hrun]
    exact idles_of_built hbuilt (fun hne => hne rfl) h.barren
  exact ⟨⟨hconfig.isShutDown hstart hrestart h.shut, hconfig.consistent h.consistent,
    hidles.barren h.barren⟩, hidles⟩

/-- **What actions do to a dormant cluster** until it is started: nothing. -/
theorem Dormant.runActions (h : Dormant w) {actions : List Action} (hresting : Resting actions)
    (s : Surroundings) :
    Dormant (runActions s w actions) ∧ Idles w (runActions s w actions) := by
  induction actions generalizing w with
  | nil => exact ⟨h, .of_same rfl rfl rfl rfl⟩
  | cons action rest ih =>
    obtain ⟨hstart, hrestart, hprocess⟩ := hresting action List.mem_cons_self
    obtain ⟨hdormant, hidles⟩ := h.action hstart hrestart hprocess s
    obtain ⟨hdormant', hidles'⟩ :=
      ih hdormant fun other hother => hresting other (List.mem_cons_of_mem _ hother)
    exact ⟨hdormant', hidles.trans hidles'⟩

/-! ### Shutting down -/

namespace Run

/-- A task that was retired without a fault has left nothing under its key. -/
theorem absent_of_retire (hkept : Kept w.framework w.store) {candidate : TaskRecord} {b : Bool}
    (hrun : retire candidate s w = (.ok b, w')) : Absent w.framework w'.store candidate := by
  have hbody : ∃ result store issued w', retire candidate s w = (result, w') ∧
      Moves w store issued w' ∧ ∀ b, result = .ok b → Absent w.framework store candidate := by
    refine withLock_of candidate.id fun w₀ hlock => ?_
    obtain ⟨n, ⟨e, hload⟩ | ⟨r?, hload, hstored⟩⟩ :=
      (looks_load candidate.role candidate.id).cases s w₀
    · exact ⟨_, _, _, _, bind_of_error hload _, moves_afterReads w₀ n, fun _ h => by cases h⟩
    have hread := moves_afterReads w₀ n
    rw [bind_of_ok hload]
    rw [hlock.framework, hlock.store] at hstored
    cases r? with
    | none =>
      refine ⟨_, _, _, _, rfl, hread, fun _ _ => ?_⟩
      rw [hlock.store]
      unfold storedAs at hstored
      split at hstored
      · assumption
      · split at hstored <;> cases hstored
    | some r =>
      obtain ⟨-, hrole, hid⟩ := hkept.own (storedAs_eq_some_iff.1 hstored)
      -- whether or not the manager was told first, the key of the candidate is removed
      have hremove : ∀ {issued w₁}, Moves w₀ w₀.store issued w₁ →
          ∃ result store issued w₂, (Records.remove r.role r.id : Run _) s w₁ = (result, w₂) ∧
            Moves w₀ store issued w₂ ∧
              ∀ b, result = .ok b → Absent w.framework store candidate := by
        intro issued w₁ hmoves
        obtain ⟨w₂, ⟨⟨there, hremove⟩, hmoves'⟩ | ⟨e, hremove, hmoves'⟩⟩ :=
          remove_cases r.role r.id s hmoves.store
        · refine ⟨_, _, _, w₂, hremove, hmoves.trans hmoves', fun _ _ => ?_⟩
          rw [Absent, hmoves.framework, hlock.framework, hrole, hid]
          exact KeyMap.get?_erase_self ..
        · exact ⟨_, _, _, w₂, hremove, hmoves.trans hmoves', fun _ h => by cases h⟩
      by_cases hlaunched : r.state.isLaunched
      · simp only [hlaunched, if_true]
        obtain ⟨delivery, w₁, -, hkilled, ⟨-, hkill⟩ | ⟨-, fault, hkill⟩⟩ :=
          call_cases (.killing ⟨r.id⟩ (r.agentId.map Manager.Id.mk)) s hread.store
        · rw [bind_of_ok (m := killTask r) hkill]
          exact hremove (hread.andThen hkilled)
        · exact ⟨_, _, _, w₁, bind_of_error (m := killTask r) hkill _, hread.andThen hkilled,
            fun _ h => by cases h⟩
      · simp only [hlaunched]
        exact hremove hread
  obtain ⟨result, store, issued, w₁, hrun', hmoves, habsent⟩ := hbody
  rw [hrun] at hrun'
  cases hrun'
  rw [hmoves.store]
  exact habsent b rfl

/-- Nothing is left under the keys of tasks that were all retired without a fault. -/
theorem absent_of_retireEach (hkept : Kept w.framework w.store) {candidates : List TaskRecord}
    {n : Nat} (hrun : retireEach candidates s w = (.ok n, w')) :
    Upkeep w.framework w.store w'.store ∧
      ∀ r ∈ candidates, Absent w.framework w'.store r := by
  induction candidates generalizing w n with
  | nil =>
    cases hrun
    exact ⟨.refl _ _, fun _ hr => absurd hr List.not_mem_nil⟩
  | cons candidate rest ih =>
    obtain ⟨removed, w₁, hfirst, hrun⟩ := exists_of_bind_eq_ok hrun
    obtain ⟨more, w₂, hrest, hrun⟩ := exists_of_bind_eq_ok hrun
    cases hrun
    have hbuilt : Built (fun _ => False) [] (retire candidate) := (Tending.retire candidate).built
    have hupkeep : Upkeep w.framework w.store w₁.store := by
      have h := hbuilt.upkeep not_false s hkept
      rwa [hfirst] at h
    have hframework : w₁.framework = w.framework := by
      have h := (hbuilt.confined s w).framework
      rwa [hfirst] at h
    have hkept₁ : Kept w₁.framework w₁.store := hframework ▸ hupkeep.kept hkept
    obtain ⟨hupkeep', habsent⟩ := ih hkept₁ hrest
    rw [hframework] at hupkeep' habsent
    refine ⟨hupkeep.trans hupkeep', fun r hr => ?_⟩
    rcases List.mem_cons.1 hr with rfl | hr
    · exact hupkeep'.absent (absent_of_retire hkept hfirst)
    · exact habsent r hr

/-- **No record is left by a shutdown that goes well**, even if others did not before. -/
theorem barren_of_shutdown (hkept : Kept w.framework w.store) {n : Nat}
    (hrun : shutdown s w = (.ok n, w')) : Barren w'.framework w'.store := by
  have hbuilt : Built (fun x => x = .configure) [] shutdown := built_shutdown rfl
  have hframework : w'.framework = w.framework := by
    have h := (hbuilt.confined s w).framework
    rwa [hrun] at h
  have hshutdown : shutdown s w =
      (Records.listAll >>= retireEach) s (w.reconfigured (·.shutdown)) := bind_of_ok rfl _
  rw [hshutdown] at hrun
  obtain ⟨records, w₂, hlist, hrun⟩ := exists_of_bind_eq_ok hrun
  obtain ⟨k, ⟨e, hlist'⟩ | ⟨x, hlist', hx⟩⟩ :=
    looks_listAll.cases s (w.reconfigured (·.shutdown))
  · rw [hlist] at hlist'
    cases hlist'
  rw [hlist] at hlist'
  cases hlist'
  cases hx
  obtain ⟨hupkeep, habsent⟩ :=
    absent_of_retireEach (w := (w.reconfigured (·.shutdown)).afterReads k) hkept hrun
  intro role id
  rw [hframework]
  cases hfound : w'.store.record? (Key.task w.framework role id) with
  | none => rfl
  | some r' =>
    obtain ⟨r, hr, -⟩ := hupkeep.follows hfound
    obtain ⟨-, hrole, hid⟩ := hkept.own hr
    have hgone := habsent r (Memory.mem_records_iff.2 ⟨role, id, hr⟩)
    unfold Absent at hgone
    rw [hrole, hid] at hgone
    have hgone' : w'.store.get? (Key.task w.framework role id) = none := hgone
    rw [Memory.record?, hgone'] at hfound
    cases hfound

end Run

/-! ### From a shutdown to the next start -/

/-- A shutdown that goes well leaves a dormant cluster. -/
theorem dormant_of_shutdown (hordered : Ordered s w) (hzero : w.config.Consistent) {n : Nat}
    (hshutdown : Run.shutdown s w = (.ok n, w')) :
    Dormant w' ∧ w'.config = w.config.shutdown := by
  have hconfig : w'.config = w.config.shutdown := by
    have h := Run.config_shutdown s w
    rwa [hshutdown] at h
  refine ⟨⟨?_, ?_, Run.barren_of_shutdown hordered.own.kept hshutdown⟩, hconfig⟩
  · rw [hconfig]
    exact w.config.isShutDown_shutdown
  · rw [hconfig]
    exact hzero.shutdown

/-- A cluster is running that was started, or whose process was, and has not been shut down
since. -/
theorem isRunning_of_calm (hrunning : w.config.isShutDown = false) {earlier calm : List Action}
    (hprocess : ∀ cfg, .process cfg ∉ earlier ++ calm)
    (hstarted : earlier = [] ∨ earlier.getLast? = some .start) (hshutdown : .shutdown ∉ calm)
    (hrestart : .restart ∉ calm) (s : Surroundings) :
    (runActions s w (earlier ++ calm)).config.isShutDown = false := by
  have hearlier : (runActions s w earlier).config.isShutDown = false := by
    rcases hstarted with rfl | hlast
    · exact hrunning
    · obtain ⟨rest, rfl⟩ := List.getLast?_eq_some_iff.1 hlast
      rw [runActions, List.foldl_append]
      exact ConfigHandle.isShutDown_start _
  have hcalm : ∀ cfg, .process cfg ∉ calm :=
    fun cfg hmem => hprocess cfg (List.mem_append_right _ hmem)
  have hrun : runActions s w (earlier ++ calm) = runActions s (runActions s w earlier) calm := by
    rw [runActions, List.foldl_append]
    rfl
  rw [hrun]
  exact isRunning_runActions hcalm hshutdown hrestart s hearlier

/-- **From a shutdown that goes well until the next start nothing is wanted, stored or launched, and
the start brings back what was last asked for.** Take any steps that follow a store without tasks,
with valid configurations, then a process that starts on the store, and anything that it does.
Whatever fails, and even if shutdowns failed before: once a shutdown goes well, and until the
cluster is started, no tasks are wanted, no record can be read under the key of a task, nothing
changes under these keys, no id is drawn and no offer is accepted. The start then asks for as many
tasks of each role as were last asked for by scaling it, before or after the shutdown, or else for
as many as were configured. Where no shutdown came since the process or the cluster was started, a
start changes nothing. -/
theorem quiescent_until_start (s : Surroundings) {cfg₀ : Config} (hcfg₀ : cfg₀.validate = .ok ())
    {store : Memory} (nodes : NodeSource) (hplaced : Placed store)
    (hempty : ∀ name role id, store.get? (Key.task name role id) = none) {steps : List Step}
    (hvalid : Step.Valid steps) {cfg : Config} (hcfg : cfg.validate = .ok ()) {w₀ w₁ : World}
    (hw₀ : w₀ = (runSteps s (.start cfg₀ store nodes) steps).restart cfg) {before : List Action}
    (hbefore : ∀ cfg, .process cfg ∉ before) (hw₁ : w₁ = runActions s w₀ before) :
    (∀ n w₂, Run.shutdown s w₁ = (.ok n, w₂) → ∀ during, Resting during →
      ∀ w₃, w₃ = runActions s w₂ during →
        (∀ role, w₃.config.current.desired role = 0) ∧ Barren w₃.framework w₃.store ∧
          Idles w₂ w₃ ∧ ∃ w₄, Run.start s w₃ = (.ok (), w₄) ∧ ∀ role,
            w₄.config.current.desired role =
              (lastScaled? role (before ++ during)).getD (cfg.desired role)) ∧
    ∀ earlier calm, before = earlier ++ calm → (earlier = [] ∨ earlier.getLast? = some .start) →
      .shutdown ∉ calm → .restart ∉ calm → Run.start s w₁ = (.ok (), w₁) := by
  have hordered₀ : Ordered s w₀ := by
    rw [hw₀]
    exact ((Ordered.start hcfg₀ nodes hplaced hempty).runSteps hvalid).restart hcfg
  have hordered : Ordered s w₁ := by
    rw [hw₁]
    exact hordered₀.runActions hbefore
  have hconfig₀ : w₀.config = .ofConfig cfg := by rw [hw₀]; rfl
  have hzero₀ : w₀.config.Consistent := by
    rw [hconfig₀]
    intro hshut
    cases hshut
  have hintended₀ : ∀ role, w₀.config.intended role = cfg.desired role := by
    rw [hconfig₀]
    exact fun _ => rfl
  refine ⟨fun n w₂ hshutdown during hresting w₃ hw₃ => ?_,
    fun earlier calm hsplit hstarted hshutdown hrestart => ?_⟩
  · have hconfig₁ := config_runActions hbefore s hzero₀
    rw [← hw₁] at hconfig₁
    obtain ⟨hdormant, hconfig₂⟩ := dormant_of_shutdown hordered hconfig₁.1 hshutdown
    obtain ⟨hdormant₃, hidles⟩ := hdormant.runActions hresting s
    have hresting' : ∀ cfg, .process cfg ∉ during :=
      fun cfg hmem => (hresting _ hmem).2.2 cfg rfl
    have hconfig₃ := config_runActions hresting' s hdormant.consistent
    rw [← hw₃] at hdormant₃ hidles hconfig₃
    refine ⟨hconfig₃.1 hdormant₃.shut, hdormant₃.barren, hidles, _, Run.start_run s w₃,
      fun role => ?_⟩
    have hstart : w₃.config.start.current.desired role = w₃.config.intended role :=
      w₃.config.desired_start role
    refine hstart.trans ?_
    rw [hconfig₃.2, hconfig₂, ConfigHandle.intended_shutdown, hconfig₁.2, hintended₀,
      lastScaled?_append]
    cases lastScaled? role during <;> rfl
  · have hrunning₀ : w₀.config.isShutDown = false := by
      rw [hconfig₀]
      rfl
    have hrunning : w₁.config.isShutDown = false := by
      rw [hw₁, hsplit]
      exact isRunning_of_calm hrunning₀ (hsplit ▸ hbefore) hstarted hshutdown hrestart s
    rw [Run.start_run, ConfigHandle.start_eq_self _ hrunning]

/-- A cluster is scaled, shut down, scaled while it is shut down, and started again. -/
theorem counts_after_start :
    let w₀ : World := (World.start {} ∅ .stored).restart {}
    let w₁ := runActions .calm w₀ [.cycle, .scale .datastore 2]
    ∃ n w₂, Run.shutdown .calm w₁ = (.ok n, w₂) ∧ Run.start .calm w₁ = (.ok (), w₁) ∧
      let w₃ := runActions .calm w₂ [.cycle, .scale .agent 3, .shutdown]
      Barren w₃.framework w₃.store ∧ ∃ w₄, Run.start .calm w₃ = (.ok (), w₄) ∧
        w₄.config.current.desired .datastore = 2 ∧ w₄.config.current.desired .agent = 3 ∧
        w₄.config.current.desired .server = ({} : Config).desired .server := by
  intro w₀ w₁
  have hcfg : ({} : Config).validate = .ok () := by decide +kernel
  have hempty : ∀ name role id, (∅ : Memory).get? (Key.task name role id) = none :=
    fun _ _ _ => rfl
  have hvalid : Step.Valid [] := fun _ hstep => absurd hstep List.not_mem_nil
  have hbefore : ∀ cfg, Action.process cfg ∉ [Action.cycle, .scale .datastore 2] := by
    intro cfg
    simp
  have hordered : Ordered .calm w₁ :=
    ((Ordered.start hcfg .stored placed_empty hempty).restart hcfg).runActions hbefore
  obtain ⟨n, issued, w₂, hshutdown, -⟩ :=
    shutdown_clear Surroundings.clear_calm hordered.own.kept
  have hw₀ : w₀ = (runSteps .calm (.start {} ∅ .stored) []).restart {} := rfl
  have hw₁ : w₁ = runActions .calm w₀ [.cycle, .scale .datastore 2] := rfl
  obtain ⟨hquiet, hstart⟩ :=
    quiescent_until_start .calm hcfg .stored placed_empty hempty hvalid hcfg hw₀ hbefore hw₁
  have hresting : Resting [.cycle, .scale .agent 3, .shutdown] := by
    intro action hmem
    simp only [List.mem_cons, List.not_mem_nil, or_false] at hmem
    rcases hmem with rfl | rfl | rfl <;> simp
  obtain ⟨-, hbarren, -, w₄, hstart', hdesired⟩ := hquiet n w₂ hshutdown _ hresting _ rfl
  have hunstarted : Run.start .calm w₁ = (.ok (), w₁) :=
    hstart [] [.cycle, .scale .datastore 2] rfl (Or.inl rfl) (by simp) (by simp)
  exact ⟨n, w₂, hshutdown, hunstarted, hbarren, w₄, hstart', hdesired .datastore, hdesired .agent,
    hdesired .server⟩

end Scheduling

end Stevedore
