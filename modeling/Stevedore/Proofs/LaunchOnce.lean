import Stevedore.Proofs.Conduct

/-!
# Every task is launched at most once

Over any run of cycles, events, operations and restarts no task id is launched twice, and every call
that launches a task is made after the record of the launch was saved.
-/

namespace Stevedore.Scheduling

open Manager (Call Event Offer TaskStatus)
open Store (Memory)

variable {s : Surroundings}

/-- Something that the scheduler, an operator or the machine does. -/
inductive Action where
  /-- One cycle. -/
  | cycle
  /-- Take an event. -/
  | event (event : Event)
  /-- Set how many tasks of a role are wanted. -/
  | scale (role : Role) (n : UInt32)
  /-- Shut the cluster down. -/
  | shutdown
  /-- Start the cluster again. -/
  | start
  /-- Shut the cluster down and start it again. -/
  | restart
  /-- Lay the stored settings over the configuration. -/
  | restore
  /-- End the process and start another one on the same store. -/
  | process (cfg : Config)

namespace Action

/-- The offers that an action brings. -/
def offers : Action → List Offer
  | event e => Run.offersOf e
  | _ => []

/-- The reports on tasks that an action takes. -/
def reports : Action → List TaskStatus
  | event (.update status) => [status]
  | _ => []

/-- What an action makes of the world. -/
def run (s : Surroundings) (w : World) : Action → World
  | cycle => (Run.cycle s w).2
  | event e => (Run.handleEvent e s w).2
  | scale role n => (Run.scale role n s w).2
  | shutdown => (Run.shutdown s w).2
  | start => (Run.start s w).2
  | restart => (Run.restart s w).2
  | restore => (Run.restore s w).2
  | process cfg => w.restart cfg

/-- An action is an operation, or ends the process. -/
theorem run_cases (action : Action) (accepted : TaskStatus → Prop)
    (hreports : ∀ status ∈ action.reports, accepted status) (s : Surroundings) (w : World) :
    (∃ (α : Type) (m : Run α), Run.Built (Liberty.taking accepted) action.offers m ∧
        action.run s w = (m s w).2) ∨
      ∃ cfg, action = .process cfg := by
  cases action with
  | cycle => exact Or.inl ⟨_, _, Run.built_cycle trivial trivial, rfl⟩
  | event e =>
    refine Or.inl ⟨_, _, Run.built_handleEvent trivial trivial fun status he => ?_, rfl⟩
    subst he
    exact hreports status (List.mem_singleton_self status)
  | scale role n => exact Or.inl ⟨_, _, Run.built_scale trivial role n, rfl⟩
  | shutdown => exact Or.inl ⟨_, _, Run.built_shutdown trivial, rfl⟩
  | start => exact Or.inl ⟨_, _, Run.built_start trivial, rfl⟩
  | restart => exact Or.inl ⟨_, _, Run.built_restart trivial, rfl⟩
  | restore => exact Or.inl ⟨_, _, Run.built_restore trivial, rfl⟩
  | process cfg => exact Or.inr ⟨cfg, rfl⟩

end Action

/-- What actions make of the world, one after the other. -/
def runActions (s : Surroundings) (w : World) (actions : List Action) : World :=
  actions.foldl (Action.run s) w

/-- **What one action does.** -/
theorem conducts_action (hfresh : Function.Injective s.taskId) (w : World) (action : Action) :
    Conducts s action.offers w (action.run s w) := by
  obtain ⟨α, m, hbuilt, hrun⟩ | ⟨cfg, rfl⟩ :=
    action.run_cases (fun _ => True) (fun _ _ => trivial) s w
  · rw [hrun]
    exact conducts_of_built hfresh hbuilt w
  · exact conducts_of_same rfl rfl rfl

/-- What a run of actions keeps. -/
theorem launched_runActions (hfresh : Function.Injective s.taskId) {w : World}
    (hsound : Sound s w.store w.tally.ids) (hlaunched : Launched s w) (actions : List Action) :
    Launched s (runActions s w actions) := by
  induction actions generalizing w with
  | nil => exact hlaunched
  | cons action rest ih =>
    have h := conducts_action hfresh w action
    exact ih (h.evolves.sound hsound) (h.launched hsound hlaunched)

theorem launched_start (cfg : Config) {store : Memory} (nodes : NodeSource)
    (hempty : ∀ key, store.record? key = none) : Launched s (.start cfg store nodes) where
  once := List.nodup_nil
  drawn id hid := by cases hid
  spent hr := by
    rw [show (World.start cfg store nodes).store = store from rfl, hempty] at hr
    cases hr

/-- **Every task is launched at most once, and its launch is recorded first.** In any run that
begins with a store without records, no id is launched by two calls that succeed; and whatever is
done next, every call that accepts an offer is made when the store holds the text of the record that
the call describes, staged on the machine of the offer. -/
theorem launches_once_after_recording (hfresh : Function.Injective s.taskId) (cfg : Config)
    {store : Memory} (nodes : NodeSource) (hempty : ∀ key, store.record? key = none)
    (actions : List Action) (next : Action) {w w' : World}
    (hw : w = runActions s (.start cfg store nodes) actions) (hw' : w' = next.run s w) :
    (launchedIds w'.issued).Nodup ∧
      ∃ issued, w'.issued = w.issued ++ issued ∧
        ∀ i ∈ issued, i.call.kind = .accept → Recorded next.offers i := by
  have hlaunched : Launched s (runActions s (.start cfg store nodes) (actions ++ [next])) :=
    launched_runActions hfresh (sound_of_empty hempty) (launched_start cfg nodes hempty) _
  have hrun : w' = runActions s (.start cfg store nodes) (actions ++ [next]) := by
    rw [hw', hw, runActions, runActions, List.foldl_append]
    rfl
  refine ⟨?_, ?_⟩
  · rw [hrun]
    exact hlaunched.once
  · rw [hw']
    exact (conducts_action hfresh w next).issued

/-- A machine is offered again after the process that used it has ended. -/
theorem launches_once_after_restart :
    let offer : Offer := ⟨⟨"offer"⟩, ⟨"framework"⟩, ⟨"machine"⟩, "host",
      [.ofScalar "cpus" 8, .ofScalar "mem" 4096, .ofScalar "disk" 4096,
        .ofRanges "ports" [⟨31000, 32000⟩]]⟩
    let w := runActions .calm (.start {} {} .stored) [.cycle, .event (.offers [offer]), .process {}]
    let w' := Action.run .calm w (.event (.offers [offer]))
    Function.Injective Surroundings.calm.taskId ∧
      (∀ key, (World.start {} {} .stored).store.record? key = none) ∧
      (launchedIds w'.issued).Nodup ∧ ∃ issued, w'.issued = w.issued ++ issued ∧
        ∀ i ∈ issued, i.call.kind = .accept → Recorded [offer] i := by
  intro offer w w'
  have hempty : ∀ key, (World.start {} {} .stored).store.record? key = none := fun _ => rfl
  refine ⟨Surroundings.calm_taskId_injective, hempty, ?_⟩
  exact launches_once_after_recording Surroundings.calm_taskId_injective {} .stored hempty
    [.cycle, .event (.offers [offer]), .process {}] (.event (.offers [offer])) rfl rfl

end Stevedore.Scheduling
