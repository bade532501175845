import Stevedore.Proofs.Completion
import Stevedore.Proofs.Headcount
import Stevedore.Proofs.OfferSignal

/-!
# Operators and cycles at the same time

A cycle takes the configuration in force when it begins, and its tick keeps to it while an operator
may change the wanted numbers. So a tick may still store a record of which an operator has just
removed the surplus. That is one record at most (`at_most_one_more_than_wanted`), since the next
cycle takes the new numbers, and it can be a record that outlives a shutdown
(`datastore_after_shutdown`).
-/

namespace Stevedore

/-! ### Wanted numbers -/

theorem Config.desired_setDesired (cfg : Config) (role other : Role) (n : UInt32) :
    (cfg.setDesired role n).desired other = if other = role then n else cfg.desired other := by
  cases role <;> cases other <;> rfl

theorem Config.desired_setCounts (cfg : Config) (counts : Counts) (role : Role) :
    (cfg.setCounts counts).desired role = counts.get role := by
  cases role <;> rfl

namespace ConfigHandle

variable (h : ConfigHandle)

theorem isShutDown_scale (role : Role) (n : UInt32) :
    (h.scale role n).isShutDown = h.isShutDown := by
  obtain ⟨current, parked, published⟩ := h
  cases parked <;> rfl

theorem desired_scale (role other : Role) (n : UInt32) :
    (h.scale role n).current.desired other =
      if h.isShutDown = false ∧ other = role then n else h.current.desired other := by
  obtain ⟨current, parked, published⟩ := h
  cases parked with
  | some counts => rfl
  | none =>
    show (current.setDesired role n).desired other = _
    rw [Config.desired_setDesired]
    simp [isShutDown]

theorem desired_shutdown (role : Role) :
    h.shutdown.current.desired role = if h.isShutDown then h.current.desired role else 0 := by
  obtain ⟨current, parked, published⟩ := h
  cases parked with
  | some counts => rfl
  | none =>
    show (current.setCounts ⟨0, 0, 0⟩).desired role = 0
    rw [Config.desired_setCounts]
    cases role <;> rfl

theorem isShutDown_start : h.start.isShutDown = false := by
  obtain ⟨current, parked, published⟩ := h
  cases parked <;> rfl

theorem start_eq_self (hrunning : h.isShutDown = false) : h.start = h := by
  obtain ⟨current, parked, published⟩ := h
  cases parked with
  | some counts => cases hrunning
  | none => rfl

end ConfigHandle

namespace Scheduling

open Store (Memory)

variable {s : Surroundings}

namespace World

/-- How many tasks of a role are wanted. -/
def wanted (w : World) (role : Role) : Nat :=
  (w.config.current.desired role).toNat

/-- How many tasks of a role have a record. -/
def staff (w : World) (role : Role) : Nat :=
  (w.store.roleRecords w.framework role).length

end World

/-! ### Removing surplus tasks -/

/-- Of a role's records those are left at most that were not to be removed. -/
theorem length_roleRecords_le_of_absent {name : String} {store store' : Memory} {role : Role}
    {gone rest : List TaskRecord} (hkept : Kept name store) (hupkeep : Upkeep name store store')
    (hall : ∀ r ∈ store.roleRecords name role, r ∈ gone ∨ r ∈ rest)
    (hgone : ∀ r ∈ gone, Absent name store' r) :
    (store'.roleRecords name role).length ≤ rest.length := by
  have hkeys : ∀ id, (store'.record? (Key.task name role id)).isSome →
      Key.task name role id ∈ rest.map (·.storeKey) := by
    intro id hid
    obtain ⟨r', hr'⟩ := Option.isSome_iff_exists.1 hid
    obtain ⟨r, hr, -⟩ := hupkeep.follows hr'
    obtain ⟨-, hrole, hrid⟩ := hkept.own hr
    rcases hall r (Memory.mem_roleRecords_iff.2 ⟨id, hr⟩) with hmem | hmem
    · have habsent := hgone r hmem
      rw [Absent, hrole, hrid] at habsent
      rw [Memory.record?, habsent] at hr'
      cases hr'
    · exact List.mem_map.2 ⟨r, hmem, hkept.storeKey hr⟩
  have hle := Memory.length_roleRecords_le hkeys
  rwa [List.length_map] at hle

/-- The world under another configuration. -/
def World.reconfigured (w : World) (f : ConfigHandle → ConfigHandle) : World :=
  { w with config := f w.config }

variable {w : World}

theorem scale_clear (hclear : s.Clear .applied) (hkept : Kept w.framework w.store) (role : Role)
    (n : UInt32) :
    ∃ removed issued w', Run.scale role n s w = (.ok removed, w') ∧
      Run.Moves (w.reconfigured (·.scale role n)) w'.store issued w' ∧
      Upkeep w.framework w.store w'.store ∧
      (w.config.isShutDown = false → w'.staff role ≤ n.toNat) := by
  let w₁ := w.reconfigured (·.scale role n)
  have hshut : w₁.config.isShutDown = w.config.isShutDown := ConfigHandle.isShutDown_scale _ _ _
  have hrun : Run.scale role n s w = (if w₁.config.isShutDown then pure 0 else
      Records.listRole role >>= fun records => Run.retireEach
        (Run.surplus (records.filter fun r => !r.state.isTerminal) n)) s w₁ :=
    (Run.bind_of_ok rfl _).trans (Run.bind_of_ok rfl _)
  rw [hrun, hshut]
  cases w.config.isShutDown with
  | true => exact ⟨0, [], w₁, rfl, .refl w₁, .refl _ _, nofun⟩
  | false =>
    obtain ⟨k, hlist⟩ := (Run.looks_listRole role).run hclear.reads w₁
    let records := w.store.roleRecords w.framework role
    have hactive : records.filter (fun r => !r.state.isTerminal) = records := by
      rw [List.filter_eq_self]
      intro r hr
      obtain ⟨id, hr⟩ := Memory.mem_roleRecords_iff.1 hr
      rw [hkept.alive hr]
      rfl
    have hlegible : ∀ r ∈ Run.surplus records n, LegibleAt w.framework w.store r := by
      intro r hr
      have hmem : r ∈ records := List.mem_reverse.1 (List.mem_of_mem_take hr)
      obtain ⟨id, hr⟩ := Memory.mem_roleRecords_iff.1 hmem
      exact legibleAt_of_mem hkept (Memory.mem_records_iff.2 ⟨role, id, hr⟩)
    obtain ⟨removed, issued, w', hretire, hmoves, hupkeep, habsent⟩ :=
      Run.retireEach_clear (w := w₁.afterReads k) hclear hkept hlegible
    refine ⟨removed, issued, w', (Run.bind_of_ok hlist _).trans ?_,
      (Run.moves_afterReads _ k).andThen hmoves, hupkeep, fun _ => ?_⟩
    · show Run.retireEach (Run.surplus (records.filter _) n) s _ = _
      rw [hactive]
      exact hretire
    · -- what is left is what the surplus leaves of the reversed list
      have hall : ∀ r ∈ records, r ∈ Run.surplus records n ∨
          r ∈ records.reverse.drop (records.length - n.toNat) := by
        intro r hr
        rw [← List.mem_append, Run.surplus, List.take_append_drop, List.mem_reverse]
        exact hr
      have hle := length_roleRecords_le_of_absent hkept hupkeep hall habsent
      rw [List.length_drop, List.length_reverse] at hle
      rw [World.staff, hmoves.framework]
      exact hle.trans (by omega)

theorem shutdown_clear (hclear : s.Clear .applied) (hkept : Kept w.framework w.store) :
    ∃ removed issued w', Run.shutdown s w = (.ok removed, w') ∧
      Run.Moves (w.reconfigured (·.shutdown)) w'.store issued w' ∧
      Upkeep w.framework w.store w'.store ∧ ∀ role, w'.staff role = 0 := by
  have hlegible : ∀ r ∈ w.store.records w.framework, LegibleAt w.framework w.store r :=
    fun r hr => legibleAt_of_mem hkept hr
  let w₁ := w.reconfigured (·.shutdown)
  obtain ⟨k, hlist⟩ := Run.looks_listAll.run hclear.reads w₁
  obtain ⟨removed, issued, w', hrun, hmoves, hupkeep, habsent⟩ :=
    Run.retireEach_clear (w := w₁.afterReads k) hclear hkept hlegible
  refine ⟨removed, issued, w', (Run.bind_of_ok rfl _).trans ((Run.bind_of_ok hlist _).trans hrun),
    (Run.moves_afterReads _ k).andThen hmoves, hupkeep, fun role => ?_⟩
  have hall : ∀ r ∈ w.store.roleRecords w.framework role,
      r ∈ w.store.records w.framework ∨ r ∈ [] := by
    intro r hr
    obtain ⟨id, hr⟩ := Memory.mem_roleRecords_iff.1 hr
    exact Or.inl (Memory.mem_records_iff.2 ⟨role, id, hr⟩)
  have hle := length_roleRecords_le_of_absent hkept hupkeep hall habsent
  rw [World.staff, hmoves.framework]
  exact Nat.eq_zero_of_le_zero hle

/-! ### Cycles and operators -/

/-- How far the cycle under way has come. -/
inductive Stage where
  /-- No cycle is under way. -/
  | idle
  /-- The cycle has taken a configuration. -/
  | planned (cfg : Config)
  /-- It has compared what the configuration wants with what is there. -/
  | compared (report : TickReport)
  /-- It has made the wanted tasks eligible. -/
  | promoted (report : TickReport)

/-- What happens next. -/
inductive Move where
  /-- The cycle under way takes its next step, or a cycle begins. -/
  | advance
  /-- An operator sets how many tasks of a role are wanted. -/
  | scale (role : Role) (n : UInt32)
  /-- An operator shuts the cluster down. -/
  | shutdown
  /-- An operator starts the cluster again. -/
  | start

/-- A process in which an operator acts between the steps of cycles. -/
structure Process where
  /-- The world. -/
  world : World
  /-- How far the cycle under way has come. -/
  stage : Stage
  /-- Whether a tick has worked on a configuration that wanted more tasks of a role than the one in
  force, since surplus tasks of the role were last removed. -/
  late : Role → Bool

namespace Process

/-- A process that has just started on a store. -/
def start (cfg : Config) (store : Memory) (nodes : NodeSource) : Process :=
  ⟨.start cfg store nodes, .idle, fun _ => false⟩

/-- Take a step of the cycle under way, which ends if the step fails. -/
def take {α : Type} (s : Surroundings) (p : Process) (m : Run α) (next : α → Stage) : Process :=
  let (result, w) := m s p.world
  { p with
    world := w
    stage := match result with
      | .ok x => next x
      | .error _ => .idle }

/-- Whether the cycle under way is about to compare with a configuration that wants more tasks of a
role than the one in force. -/
def overtaken (p : Process) (role : Role) : Bool :=
  match p.stage with
  | .planned cfg => p.world.config.current.desired role < cfg.desired role
  | _ => false

/-- The next step of a cycle. -/
def advance (s : Surroundings) (p : Process) : Process :=
  match p.stage with
  | .idle => p.take s Run.snapshot .planned
  | .planned cfg =>
    { p.take s (Run.tick cfg) .compared with late := fun role => p.late role || p.overtaken role }
  | .compared report => p.take s Run.promoteUnset fun _ => .promoted report
  | .promoted report => p.take s (Run.evaluate (!report.created.isEmpty)) fun _ => .idle

/-- What a move makes of a process. -/
def step (s : Surroundings) (p : Process) : Move → Process
  | .advance => p.advance s
  | .scale role n =>
    { p with
      world := (Run.scale role n s p.world).2
      late := fun other =>
        p.late other && (p.world.config.isShutDown || other ≠ role) }
  | .shutdown => { p with world := (Run.shutdown s p.world).2, late := fun _ => false }
  | .start => { p with world := (Run.start s p.world).2 }

/-- What moves make of a process, one after the other. -/
def run (s : Surroundings) (p : Process) (moves : List Move) : Process :=
  moves.foldl (step s) p

end Process

namespace Process

variable {p : Process} {α : Type} {m : Run α} {w' : World}

theorem take_of_ok (p : Process) {x : α} (h : m s p.world = (.ok x, w')) (next : α → Stage) :
    p.take s m next = { p with world := w', stage := next x } := by
  unfold take
  rw [h]

theorem take_of_error (p : Process) {e : Fault} (h : m s p.world = (.error e, w'))
    (next : α → Stage) :
    p.take s m next = { p with world := w', stage := .idle } := by
  unfold take
  rw [h]

theorem world_take (next : α → Stage) : (p.take s m next).world = (m s p.world).2 := rfl

theorem stage_take (s : Surroundings) (p : Process) (m : Run α) (next : α → Stage) :
    (p.take s m next).stage = .idle ∨ ∃ x, (p.take s m next).stage = next x := by
  cases hrun : m s p.world with
  | mk result w' =>
    cases result with
    | error e => exact Or.inl (by rw [take_of_error p hrun])
    | ok x => exact Or.inr ⟨x, by rw [take_of_ok p hrun]⟩

theorem overtaken_eq_true_iff {role : Role} :
    p.overtaken role = true ↔
      ∃ cfg, p.stage = .planned cfg ∧ p.world.wanted role < (cfg.desired role).toNat := by
  unfold overtaken
  cases p.stage with
  | planned cfg => simp [World.wanted, UInt32.lt_iff_toNat_lt]
  | idle => simp
  | compared => simp
  | promoted => simp

/-- The steps of a cycle after the first one, if its tick and its promotions go well. -/
theorem run_advance_of_ok {cfg : Config} {w w₁ w₂ : World} {report : TickReport} {n : Nat}
    (htick : Run.tick cfg s w = (.ok report, w₁))
    (hpromote : Run.promoteUnset s w₁ = (.ok n, w₂)) (late : Role → Bool) :
    ∃ late', run s ⟨w, .planned cfg, late⟩ [.advance, .advance, .advance] =
      ⟨(Run.evaluate (!report.created.isEmpty) s w₂).2, .idle, late'⟩ := by
  let planned : Process := ⟨w, .planned cfg, late⟩
  let late' := fun role => late role || planned.overtaken role
  let compared : Process := ⟨w₁, .compared report, late'⟩
  let promoted : Process := ⟨w₂, .promoted report, late'⟩
  have hcompared : planned.advance s = compared := by
    show { planned.take s (Run.tick cfg) .compared with late := late' } = _
    rw [take_of_ok planned htick]
  have hpromoted : compared.advance s = promoted := take_of_ok compared hpromote _
  have hidle : promoted.advance s =
      ⟨(Run.evaluate (!report.created.isEmpty) s w₂).2, .idle, late'⟩ := by
    cases hevaluate : Run.evaluate (!report.created.isEmpty) s w₂ with
    | mk result w₃ =>
      cases result with
      | error e => exact take_of_error promoted hevaluate _
      | ok b => exact take_of_ok promoted hevaluate _
  refine ⟨late', ?_⟩
  show ((planned.advance s).advance s).advance s = _
  rw [hcompared, hpromoted, hidle]

/-- The steps of a cycle that nobody interrupts make of the world what a cycle makes of it. -/
theorem exists_run_advance_eq_cycle (s : Surroundings) (w : World) (late : Role → Bool) :
    ∃ n late', run s ⟨w, .idle, late⟩ (List.replicate n .advance) =
      ⟨(Run.cycle s w).2, .idle, late'⟩ := by
  let planned : Process := ⟨w, .planned w.config.current, late⟩
  let late' := fun role => late role || planned.overtaken role
  rw [Run.cycle_run]
  cases htick : Run.tick w.config.current s w with
  | mk result w₁ =>
  cases result with
  | error e =>
    refine ⟨2, late', ?_⟩
    show { planned.take s (Run.tick w.config.current) .compared with late := late' } = _
    rw [take_of_error planned htick, Run.bind_of_error htick]
  | ok report =>
  rw [Run.bind_of_ok htick, Run.followUp]
  cases hpromote : Run.promoteUnset s w₁ with
  | mk result w₂ =>
  cases result with
  | error e =>
    let compared : Process := ⟨w₁, .compared report, late'⟩
    have hcompared : planned.advance s = compared := by
      show { planned.take s (Run.tick _) .compared with late := late' } = _
      rw [take_of_ok planned htick]
    refine ⟨3, late', ?_⟩
    show (planned.advance s).advance s = _
    rw [hcompared, Run.bind_of_error hpromote]
    exact take_of_error compared hpromote _
  | ok promoted =>
    obtain ⟨late'', hrun⟩ := run_advance_of_ok htick hpromote late
    refine ⟨4, late'', hrun.trans ?_⟩
    rw [Run.bind_of_ok hpromote]
    cases hevaluate : Run.evaluate (!report.created.isEmpty) s w₂ with
    | mk result w₃ =>
    cases result with
    | error e => rw [Run.bind_of_error hevaluate]
    | ok b => exact congrArg (Process.mk · .idle late'') (by rw [Run.bind_of_ok hevaluate]; rfl)

end Process

/-- What an orderly process keeps. -/
structure Orderly (p : Process) : Prop where
  named : p.world.config.current.framework.name = p.world.framework
  planned : ∀ cfg, p.stage = .planned cfg → cfg.framework.name = p.world.framework
  kept : Kept p.world.framework p.world.store
  parked : p.world.config.isShutDown = true → ∀ role, p.world.wanted role = 0
  nearly : ∀ role, p.world.staff role ≤ p.world.wanted role + 1
  within : ∀ role, p.late role = false → p.world.staff role ≤ p.world.wanted role
  fresh : ∀ role, p.overtaken role = true → p.world.staff role ≤ p.world.wanted role

namespace Orderly

variable {p : Process}

/-- A step that creates no records and changes no configuration. -/
theorem take (h : Orderly p) {α : Type} {m : Run α} (hbuilt : Run.Built (.signal = ·) [] m)
    (s : Surroundings) (next : α → Stage)
    (hnext : ∀ cfg, (p.take s m next).stage = .planned cfg → cfg = p.world.config.current) :
    Orderly (p.take s m next) := by
  have hconfined := hbuilt.confined s p.world
  have hconfig := hconfined.config nofun
  have hframework := hconfined.framework
  have hupkeep := hbuilt.upkeep nofun s h.kept
  have hwanted : ∀ role, (p.take s m next).world.wanted role = p.world.wanted role := by
    intro role
    rw [World.wanted, World.wanted, Process.world_take, hconfig]
  have hstaff : ∀ role, (p.take s m next).world.staff role ≤ p.world.staff role := by
    intro role
    rw [World.staff, World.staff, Process.world_take, hframework]
    exact hupkeep.length_roleRecords_le role
  refine ⟨?_, fun cfg hcfg => ?_, ?_, fun hshut role => ?_, fun role => ?_, fun role hlate => ?_,
    fun role hovertaken => ?_⟩
  · rw [Process.world_take, hconfig, hframework]
    exact h.named
  · rw [hnext cfg hcfg, Process.world_take, hframework]
    exact h.named
  · rw [Process.world_take, hframework]
    exact hupkeep.kept h.kept
  · rw [Process.world_take, hconfig] at hshut
    rw [hwanted]
    exact h.parked hshut role
  · rw [hwanted]
    exact (hstaff role).trans (h.nearly role)
  · rw [hwanted]
    exact (hstaff role).trans (h.within role hlate)
  · obtain ⟨cfg, hcfg, hlt⟩ := Process.overtaken_eq_true_iff.1 hovertaken
    rw [hwanted, hnext cfg hcfg] at hlt
    exact absurd hlt (Nat.lt_irrefl _)

/-- A tick. -/
theorem tick (h : Orderly p) {cfg : Config} (hstage : p.stage = .planned cfg) (s : Surroundings) :
    Orderly { p.take s (Run.tick cfg) .compared with
      late := fun role => p.late role || p.overtaken role } := by
  have hticked := ticked_tick (h.planned cfg hstage) h.kept s
  have hbuilt : Run.Built (.create = ·) [] (Run.tick cfg) := Run.built_tick rfl cfg
  have hconfig := (hbuilt.confined s p.world).config nofun
  have hframework := hticked.framework
  let p' : Process := { p.take s (Run.tick cfg) .compared with
    late := fun role => p.late role || p.overtaken role }
  have hworld : p'.world = (Run.tick cfg s p.world).2 := rfl
  have hwanted : ∀ role, p'.world.wanted role = p.world.wanted role := by
    intro role
    rw [World.wanted, World.wanted, hworld, hconfig]
  have hgrows : ∀ role, p'.world.staff role ≤ p.world.staff role ∨
      p.world.staff role < (cfg.desired role).toNat ∧
        p'.world.staff role ≤ p.world.staff role + 1 := by
    intro role
    rw [World.staff, World.staff, hworld]
    exact hticked.grows role
  have hstages : ∀ other, p'.stage ≠ .planned other := by
    intro other
    have hstage' : p'.stage = .idle ∨ ∃ report, p'.stage = .compared report :=
      Process.stage_take s p (Run.tick cfg) .compared
    rcases hstage' with hstage' | ⟨report, hstage'⟩
    · simp [hstage']
    · simp [hstage']
  show Orderly p'
  refine ⟨?_, fun other hother => absurd hother (hstages other), ?_, fun hshut role => ?_,
    fun role => ?_, fun role hlate => ?_, fun role hovertaken => ?_⟩
  · rw [hworld, hconfig, hframework]
    exact h.named
  · exact hticked.kept
  · rw [hworld, hconfig] at hshut
    rw [hwanted]
    exact h.parked hshut role
  · rw [hwanted]
    rcases hgrows role with hle | ⟨hshort, hle⟩
    · exact hle.trans (h.nearly role)
    · by_cases hlt : p.world.wanted role < (cfg.desired role).toNat
      · have hfresh := h.fresh role (Process.overtaken_eq_true_iff.2 ⟨cfg, hstage, hlt⟩)
        omega
      · omega
  · rw [hwanted]
    obtain ⟨hlate, hovertaken⟩ := Bool.or_eq_false_iff.1 hlate
    have hwithin := h.within role hlate
    rcases hgrows role with hle | ⟨hshort, hle⟩
    · exact hle.trans hwithin
    · have hlt : ¬ p.world.wanted role < (cfg.desired role).toNat := fun hlt => by
        rw [Process.overtaken_eq_true_iff.2 ⟨cfg, hstage, hlt⟩] at hovertaken
        cases hovertaken
      omega
  · obtain ⟨other, hother, -⟩ := Process.overtaken_eq_true_iff.1 hovertaken
    exact absurd hother (hstages other)

theorem advance (h : Orderly p) (s : Surroundings) : Orderly (p.advance s) := by
  unfold Process.advance
  cases hstage : p.stage with
  | idle =>
    have hbuilt : Run.Built (.signal = ·) [] Run.snapshot := Run.built_look _
    exact h.take hbuilt s _ fun cfg hcfg => (Stage.planned.inj hcfg).symm
  | planned cfg => exact h.tick hstage s
  | compared report =>
    have hbuilt : Run.Built (.signal = ·) [] Run.promoteUnset := Run.built_promoteUnset rfl
    refine h.take hbuilt s _ fun cfg hcfg => ?_
    rcases Process.stage_take s p Run.promoteUnset fun _ => .promoted report with hnext | ⟨-, hnext⟩
    · cases hnext.symm.trans hcfg
    · cases hnext.symm.trans hcfg
  | promoted report =>
    have hbuilt : Run.Built (.signal = ·) [] (Run.evaluate (!report.created.isEmpty)) :=
      Run.built_evaluate rfl _
    refine h.take hbuilt s _ fun cfg hcfg => ?_
    rcases Process.stage_take s p (Run.evaluate (!report.created.isEmpty)) fun _ => .idle with
      hnext | ⟨-, hnext⟩
    · cases hnext.symm.trans hcfg
    · cases hnext.symm.trans hcfg

/-- An operator's call keeps a process orderly if of every role it leaves no more records than are
wanted then, or wants no fewer than before. -/
theorem operate (h : Orderly p) {f : ConfigHandle → ConfigHandle} {w' : World} {issued : List Issue}
    {late : Role → Bool} (hneeds : p.world.config.current.SameNeeds (f p.world.config).current)
    (hmoves : Run.Moves (p.world.reconfigured f) w'.store issued w')
    (hupkeep : Upkeep p.world.framework p.world.store w'.store)
    (hparked : (f p.world.config).isShutDown = true → ∀ role, w'.wanted role = 0)
    (hroles : ∀ role, w'.staff role ≤ w'.wanted role ∨
      p.world.wanted role ≤ w'.wanted role ∧ late role = p.late role) :
    Orderly { p with world := w', late := late } := by
  have hframework : w'.framework = p.world.framework := hmoves.framework
  have hconfig : w'.config = f p.world.config := hmoves.config
  have hfewer : ∀ role, w'.staff role ≤ p.world.staff role := by
    intro role
    rw [World.staff, World.staff, hframework]
    exact hupkeep.length_roleRecords_le role
  refine ⟨?_, fun cfg hcfg => ?_, ?_, fun hshut => ?_, fun role => ?_, fun role hlate => ?_,
    fun role hovertaken => ?_⟩
  · rw [hconfig, hframework, hneeds.name]
    exact h.named
  · exact (h.planned cfg hcfg).trans hframework.symm
  · rw [hframework]
    exact hupkeep.kept h.kept
  · exact hparked (by rwa [hconfig] at hshut)
  · rcases hroles role with hle | ⟨hwanted, -⟩
    · exact hle.trans (Nat.le_succ _)
    · exact (hfewer role).trans ((h.nearly role).trans (Nat.succ_le_succ hwanted))
  · rcases hroles role with hle | ⟨hwanted, hsame⟩
    · exact hle
    · have hwithin := h.within role (hsame.symm.trans hlate)
      exact (hfewer role).trans (hwithin.trans hwanted)
  · rcases hroles role with hle | ⟨hwanted, -⟩
    · exact hle
    · obtain ⟨cfg, hcfg, hlt⟩ := Process.overtaken_eq_true_iff.1 hovertaken
      have hbefore : p.overtaken role = true :=
        Process.overtaken_eq_true_iff.2 ⟨cfg, hcfg, hwanted.trans_lt hlt⟩
      exact (hfewer role).trans ((h.fresh role hbefore).trans hwanted)

theorem scale (h : Orderly p) (hclear : s.Clear .applied) (role : Role) (n : UInt32) :
    Orderly (p.step s (.scale role n)) := by
  obtain ⟨removed, issued, w', hrun, hmoves, hupkeep, hle⟩ := scale_clear hclear h.kept role n
  have hconfig : w'.config = p.world.config.scale role n := hmoves.config
  have hwanted : ∀ other, w'.wanted other =
      if p.world.config.isShutDown = false ∧ other = role then n.toNat
        else p.world.wanted other := by
    intro other
    rw [World.wanted, hconfig, ConfigHandle.desired_scale]
    split <;> rfl
  rw [Process.step, hrun]
  refine h.operate (Run.sameNeeds_scale role n _) hmoves hupkeep (fun hshut other => ?_)
    fun other => ?_
  · rw [ConfigHandle.isShutDown_scale] at hshut
    rw [hwanted, hshut]
    exact h.parked hshut other
  · by_cases hchanged : p.world.config.isShutDown = false ∧ other = role
    · left
      rw [hwanted, if_pos hchanged, hchanged.2]
      exact hle hchanged.1
    · right
      rw [hwanted, if_neg hchanged]
      refine ⟨le_rfl, ?_⟩
      have hkeeps : (p.world.config.isShutDown || decide (other ≠ role)) = true := by
        by_contra hfalse
        simp at hfalse
        exact hchanged hfalse
      rw [hkeeps, Bool.and_true]

theorem shutdown (h : Orderly p) (hclear : s.Clear .applied) :
    Orderly (p.step s .shutdown) := by
  obtain ⟨removed, issued, w', hrun, hmoves, hupkeep, hnone⟩ := shutdown_clear hclear h.kept
  have hconfig : w'.config = p.world.config.shutdown := hmoves.config
  rw [Process.step, hrun]
  refine h.operate (Run.sameNeeds_shutdown _) hmoves hupkeep (fun _ role => ?_) fun role => ?_
  · rw [World.wanted, hconfig, ConfigHandle.desired_shutdown]
    split
    · next hshut => exact h.parked hshut role
    · rfl
  · exact Or.inl (by rw [hnone role]; exact Nat.zero_le _)

theorem start (h : Orderly p) : Orderly (p.step s .start) := by
  refine h.operate (Run.sameNeeds_start _) (.refl (p.world.reconfigured (·.start))) (.refl _ _)
    (fun hshut => ?_) fun role => Or.inr ⟨?_, rfl⟩
  · rw [ConfigHandle.isShutDown_start] at hshut
    cases hshut
  · cases hshut : p.world.config.isShutDown with
    | true =>
      rw [h.parked hshut role]
      exact Nat.zero_le _
    | false =>
      show p.world.wanted role ≤ (p.world.config.start.current.desired role).toNat
      rw [ConfigHandle.start_eq_self _ hshut]
      exact le_rfl

end Orderly

theorem orderly_start (cfg : Config) {store : Memory} (nodes : NodeSource)
    (hempty : ∀ role id, store.get? (Key.task cfg.framework.name role id) = none) :
    Orderly (.start cfg store nodes) := by
  have hnone : ∀ role id, store.record? (Key.task cfg.framework.name role id) = none := by
    intro role id
    rw [Memory.record?, hempty, Option.bind_none]
  have hstaff : ∀ role, (World.start cfg store nodes).staff role = 0 := by
    intro role
    have hkeys : ∀ id, (store.record? (Key.task cfg.framework.name role id)).isSome →
        Key.task cfg.framework.name role id ∈ [] := by
      intro id hid
      rw [hnone] at hid
      cases hid
    exact Nat.eq_zero_of_le_zero (Memory.length_roleRecords_le hkeys)
  have hle : ∀ role, (World.start cfg store nodes).staff role ≤
      (World.start cfg store nodes).wanted role := by
    intro role
    rw [hstaff]
    exact Nat.zero_le _
  refine ⟨rfl, fun cfg hcfg => ?_, kept_of_no_records hnone, fun hshut => ?_,
    fun role => (hle role).trans (Nat.le_succ _), fun role _ => hle role, fun role _ => hle role⟩
  · exact absurd hcfg Stage.noConfusion
  · exact absurd hshut Bool.false_ne_true

theorem orderly_run {p : Process} (h : Orderly p) (hclear : s.Clear .applied) (moves : List Move) :
    Orderly (p.run s moves) := by
  induction moves generalizing p with
  | nil => exact h
  | cons move rest ih =>
    refine ih (p := p.step s move) ?_
    cases move with
    | advance => exact h.advance s
    | scale role n => exact h.scale hclear role n
    | shutdown => exact h.shutdown hclear
    | start => exact h.start

/-- **A role has at most one task more than are wanted**, and only after a tick that was overtaken.
In any run of cycles that begins without tasks, in which nothing fails and between whose steps an
operator changes the wanted numbers, there are never more records of tasks of a role that have not
stopped than are wanted, unless a tick since the last removal of surplus tasks of the role worked on
a configuration that wanted more of them than the one in force; and then there is one more at
most. -/
theorem at_most_one_more_than_wanted (hclear : s.Clear .applied) (cfg : Config) {store : Memory}
    (nodes : NodeSource)
    (hempty : ∀ role id, store.get? (Key.task cfg.framework.name role id) = none)
    (moves : List Move) (role : Role) {p : Process}
    (hp : p = Process.run s (.start cfg store nodes) moves) :
    let active := activeCount (p.world.store.records p.world.framework) role
    let wanted := (p.world.config.current.desired role).toNat
    (p.late role = false → active ≤ wanted) ∧ active ≤ wanted + 1 := by
  have h : Orderly p := hp ▸ orderly_run (orderly_start cfg nodes hempty) hclear moves
  intro active wanted
  have hactive : active = p.world.staff role := h.kept.activeCount_eq role
  rw [hactive]
  exact ⟨h.within role, h.nearly role⟩

/-- The cluster is shut down when the first cycle has taken its configuration. -/
theorem at_most_one_more_after_shutdown :
    let moves := [.advance, .shutdown, .advance, .advance, .advance]
    let p := Process.run .calm (.start {} ∅ .stored) moves
    Surroundings.calm.Clear .applied ∧
      (∀ role id, (∅ : Memory).get? (Key.task ({} : Config).framework.name role id) = none) ∧
      let active := activeCount (p.world.store.records p.world.framework) .datastore
      let wanted := (p.world.config.current.desired .datastore).toNat
      (p.late .datastore = false → active ≤ wanted) ∧ active ≤ wanted + 1 := by
  intro moves p
  have hempty : ∀ role id,
      (∅ : Memory).get? (Key.task ({} : Config).framework.name role id) = none := fun _ _ => rfl
  exact ⟨Surroundings.clear_calm, hempty,
    at_most_one_more_than_wanted Surroundings.clear_calm {} .stored hempty moves .datastore rfl⟩

/-! ### A shutdown during a cycle -/

theorem promoteUnset_clear (hclear : s.Clear .applied) (hkept : Kept w.framework w.store) :
    ∃ n w', Run.promoteUnset s w = (.ok n, w') := by
  obtain ⟨n, w₁, -, -, -, ⟨-, -, hrun⟩ | ⟨-, hrun⟩⟩ :=
    Run.promoteUnset_steady hclear.steady hkept
  · exact ⟨0, w₁, hrun⟩
  · obtain ⟨delivery, w₂, hdelivery, -, hsay⟩ := Run.say_cases .reviving false s w₁
    rw [hclear.calls] at hdelivery
    subst hdelivery
    obtain ⟨-, hrevive⟩ := hsay.resolve_right fun hfailed => hfailed.1 rfl
    exact ⟨n, _, hrun.trans (Run.bind_of_ok (m := Run.revive) hrevive _)⟩

/-- **A shutdown between the first two steps of a cycle leaves a datastore.** -/
theorem staff_after_shutdown (hclear : s.Clear .applied) {cfg : Config} (hcfg : Feasible cfg)
    (nodes : NodeSource) :
    let p := Process.run s (.start cfg ∅ nodes) [.advance, .shutdown, .advance, .advance, .advance]
    p.stage = .idle ∧ p.world.wanted .datastore = 0 ∧ 0 < p.world.staff .datastore := by
  intro p
  let w₀ := World.start cfg ∅ nodes
  have hkept : Kept w₀.framework w₀.store := kept_of_no_records fun _ _ => rfl
  have hreadable : Readable w₀.framework w₀.store := readable_of_absent rfl rfl
  obtain ⟨removed, issued, w₁, hshutdown, hmoves, hupkeep, hnone⟩ := shutdown_clear hclear hkept
  have hframework : w₁.framework = w₀.framework := hmoves.framework
  have hname : cfg.framework.name = w₁.framework := hframework.symm
  -- the tick finds no record, and stores one
  have hrecords : w₁.store.records w₁.framework = [] := by
    rw [Memory.records, List.flatMap_eq_nil_iff]
    exact fun role _ => List.eq_nil_of_length_eq_zero (hnone role)
  have hbuilt : Run.Built (.configure = ·) [] Run.shutdown := Run.built_shutdown rfl
  have hreadable₁ := hbuilt.readable nofun s hkept hreadable
  rw [hshutdown, ← hframework] at hreadable₁
  obtain ⟨-, -, report, w₂, id, htick, -, hpending⟩ :=
    tick_of_no_records hcfg hname hclear.reads hclear.writes hreadable₁ hrecords
  -- the record is still there when the cycle ends
  have hkept₁ : Kept w₁.framework w₁.store := hframework ▸ hupkeep.kept hkept
  have hticked := ticked_tick hname hkept₁ s
  rw [htick] at hticked
  obtain ⟨n, w₃, hpromote⟩ := promoteUnset_clear hclear hticked.kept
  have hpending₃ := pendingAt_promoteUnset s w₂ hpending
  have hevaluation := evaluation_evaluate (!report.created.isEmpty) s w₃
  obtain ⟨late, hrun⟩ := Process.run_advance_of_ok htick hpromote fun _ => false
  have hp : p = ⟨(Run.evaluate (!report.created.isEmpty) s w₃).2, .idle, late⟩ := by
    show Process.run s ⟨(Run.shutdown s w₀).2, .planned cfg, fun _ => false⟩
      [.advance, .advance, .advance] = _
    rw [hshutdown]
    exact hrun
  -- neither the name nor the configuration has changed since the shutdown
  let may (x : Liberty) : Prop := x = .create ∨ x = .signal
  have htick' : Run.Built may [] (Run.tick cfg) := Run.built_tick (Or.inl rfl) cfg
  have hpromote' : Run.Built may [] Run.promoteUnset := Run.built_promoteUnset (Or.inr rfl)
  have hevaluate' : Run.Built may [] (Run.evaluate (!report.created.isEmpty)) :=
    Run.built_evaluate (Or.inr rfl) _
  have hconfined := htick'.confined s w₁
  rw [htick] at hconfined
  have hconfined₃ := hpromote'.confined s w₂
  rw [hpromote] at hconfined₃ hpending₃
  have hall := (hconfined.trans hconfined₃).trans (hevaluate'.confined s w₃)
  rw [hp]
  refine ⟨rfl, ?_, ?_⟩
  · have hconfig : w₁.config = (ConfigHandle.ofConfig cfg).shutdown := hmoves.config
    rw [World.wanted, hall.config (by simp [may]), hconfig, ConfigHandle.desired_shutdown]
    rfl
  · rw [← hevaluation.store, ← hall.framework] at hpending₃
    exact hpending₃.length_pos

/-- One datastore is left when the cluster was shut down during the first cycle. -/
theorem datastore_after_shutdown :
    let p := Process.run .calm (.start {} ∅ .stored)
      [.advance, .shutdown, .advance, .advance, .advance]
    p.stage = .idle ∧ (p.world.config.current.desired .datastore).toNat = 0 ∧
      0 < activeCount (p.world.store.records p.world.framework) .datastore := by
  intro p
  have hclear := Surroundings.clear_calm
  have hfeasible : Feasible {} :=
    ⟨Config.finite_default, by decide, by decide +kernel, by decide⟩
  obtain ⟨hidle, hwanted, hstaff⟩ := staff_after_shutdown hclear hfeasible .stored
  have hempty : ∀ role id,
      (∅ : Memory).get? (Key.task ({} : Config).framework.name role id) = none := fun _ _ => rfl
  have horderly : Orderly p := orderly_run (orderly_start {} .stored hempty) hclear _
  refine ⟨hidle, hwanted, ?_⟩
  rw [horderly.kept.activeCount_eq]
  exact hstaff

end Scheduling

end Stevedore
