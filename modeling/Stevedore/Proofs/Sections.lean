import Stevedore.Proofs.RecordAccess
import Stevedore.Scheduling.Operator
import Stevedore.Scheduling.Tick

/-!
# Critical sections

Everything that can happen to a record happens in one of five sections: it is created, promoted,
launched, updated, or retired. For each of them an inductive relation lists what it can do, and a
theorem says that it does no more. All later statements about the scheduler go through these.
-/

namespace Stevedore

namespace TaskState

variable {state : TaskState}

theorem not_isTerminal (h : state.isLaunched = true) : state.isTerminal = false := by
  cases state <;> first | rfl | cases h

/-- A report of a task that has not stopped is one of a task in the hands of the manager. -/
theorem isLaunched_of_ofStatus? {status : String} (h : ofStatus? status = some state)
    (halive : state.isTerminal = false) : state.isLaunched = true := by
  unfold ofStatus? at h
  split at h <;> cases h <;> first | rfl | cases halive

end TaskState

namespace Scheduling

open Manager (Offer Call TaskInfo TaskStatus)
open Store (Memory)

/-- Calls that neither use offers nor give any back. -/
def Quiet (issued : List Issue) : Prop :=
  ∀ i ∈ issued, i.call.kind ≠ .accept ∧ i.call.kind ≠ .decline

theorem quiet_nil : Quiet [] := by
  intro i hi
  cases hi

theorem quiet_singleton {i : Issue} (haccept : i.call.kind ≠ .accept)
    (hdecline : i.call.kind ≠ .decline) : Quiet [i] := by
  intro j hj
  rw [List.mem_singleton.1 hj]
  exact ⟨haccept, hdecline⟩

theorem Quiet.append {issued issued' : List Issue} (h : Quiet issued) (h' : Quiet issued') :
    Quiet (issued ++ issued') := by
  intro i hi
  rcases List.mem_append.1 hi with hi | hi
  · exact h i hi
  · exact h' i hi

/-- Calls about tasks: to stop one, to confirm a report on one, or to ask for reports. -/
def AboutTasks (issued : List Issue) : Prop :=
  ∀ i ∈ issued, i.call.kind ∈ [.kill, .acknowledge, .reconcile]

theorem aboutTasks_nil : AboutTasks [] := by
  intro i hi
  cases hi

theorem aboutTasks_singleton {i : Issue} (kind : Manager.CallKind) (h : i.call.kind = kind)
    (hkind : kind ∈ [.kill, .acknowledge, .reconcile]) : AboutTasks [i] := by
  intro j hj
  rw [List.mem_singleton.1 hj, h]
  exact hkind

theorem AboutTasks.append {issued issued' : List Issue} (h : AboutTasks issued)
    (h' : AboutTasks issued') : AboutTasks (issued ++ issued') := by
  intro i hi
  rcases List.mem_append.1 hi with hi | hi
  · exact h i hi
  · exact h' i hi

theorem AboutTasks.ne {issued : List Issue} (h : AboutTasks issued) {i : Issue} (hi : i ∈ issued)
    {kind : Manager.CallKind} (hkind : kind ∉ [.kill, .acknowledge, .reconcile]) :
    i.call.kind ≠ kind := by
  rintro rfl
  exact hkind (h i hi)

theorem AboutTasks.quiet {issued : List Issue} (h : AboutTasks issued) : Quiet issued :=
  fun _ hi => ⟨h.ne hi (by decide), h.ne hi (by decide)⟩

/-- The record of a task that has become eligible. -/
def promoted (r : TaskRecord) (now : UInt64) : TaskRecord :=
  { r with state := .new, updatedAt := now }

/-- The call that launches a task on an offer. -/
def launching (offer : Offer) (r : TaskRecord) : Call :=
  .launching offer.id [TaskInfo.ofRecord r offer.agentId] none

/-- The call that launches a task on an offer, made after the task's record was saved as staged. -/
def launchIssue (offer : Offer) (staged : TaskRecord) (delivery : Delivery) (store : Memory) :
    Issue :=
  ⟨launching offer staged, delivery, store.put staged⟩

/-- The tasks that a call launches. -/
def launchedBy (c : Call) : List TaskInfo :=
  match c.kind, c.accept with
  | .accept, some accept => accept.operations.flatMap fun o => o.launch.getD []
  | _, _ => []

theorem launchedBy_eq_nil {c : Call} (h : c.kind ≠ .accept) : launchedBy c = [] := by
  unfold launchedBy
  split
  · next hkind _ => exact absurd hkind h
  · rfl

/-! ### What each section does -/

/-- A promotion does nothing, or makes a wanted record eligible. -/
inductive Promotion (candidate : TaskRecord) (name : String) (store : Memory) :
    Except Fault Bool → Memory → List Issue → Prop
  | idle {result} (h : result ≠ .ok true) : Promotion candidate name store result store []
  | done {r : TaskRecord} {now : UInt64}
      (found : store.record? (Key.task name candidate.role candidate.id) = some r)
      (wanted : r.state = .unset) :
      Promotion candidate name store (.ok true) (store.put (promoted r now)) []

/-- A record that is found under a candidate's key, is eligible and fits an offer. -/
structure Launchable (offer : Offer) (candidate : TaskRecord) (name : String) (store : Memory)
    (r : TaskRecord) (ports : List PortMapping) : Prop where
  found : store.record? (Key.task name candidate.role candidate.id) = some r
  eligible : r.state = .new
  fits : fit offer r = .ok ports

/-- A launch does nothing, or saves the record as staged and then makes one call to accept the
offer. If that call fails, it puts the record back, or asks about the task if it cannot. -/
inductive Launching (offer : Offer) (candidate : TaskRecord) (name : String) (store : Memory) :
    Except Fault Bool → Memory → List Issue → Prop
  | idle {result} (h : result ≠ .ok true) : Launching offer candidate name store result store []
  | launched {r ports now} (h : Launchable offer candidate name store r ports) :
      Launching offer candidate name store (.ok true) (store.put (r.staged offer ports now))
        [launchIssue offer (r.staged offer ports now) .applied store]
  | reverted {r ports now now' delivery} (h : Launchable offer candidate name store r ports)
      (failed : delivery ≠ .applied) :
      Launching offer candidate name store (.ok false)
        ((store.put (r.staged offer ports now)).put (r.unstaged now'))
        [launchIssue offer (r.staged offer ports now) delivery store]
  | stuck {r ports now delivery e asked} (h : Launchable offer candidate name store r ports)
      (failed : delivery ≠ .applied) (about : AboutTasks asked) :
      Launching offer candidate name store (.error e) (store.put (r.staged offer ports now))
        (launchIssue offer (r.staged offer ports now) delivery store :: asked)

/-- A report does nothing, moves a record forward, or removes one that has stopped. -/
inductive Updating (status : TaskStatus) (name : String) (store : Memory) :
    Except Fault Unit → Memory → List Issue → Prop
  | idle {result issued} (about : AboutTasks issued) :
      Updating status name store result store issued
  | advanced {r role next now result issued}
      (found : store.record? (Key.task name role status.taskId.value) = some r)
      (legal : r.state.canBecome next = true) (launched : next.isLaunched = true)
      (about : AboutTasks issued) :
      Updating status name store result (store.put (r.advanced next status now)) issued
  | removed {r role result issued}
      (found : store.record? (Key.task name role status.taskId.value) = some r)
      (about : AboutTasks issued) :
      Updating status name store result (store.erase (Key.task name r.role r.id)) issued

theorem Updating.andAbout {status : TaskStatus} {name : String} {store store' : Memory}
    {result result' : Except Fault Unit} {issued issued' : List Issue}
    (h : Updating status name store result store' issued) (habout : AboutTasks issued') :
    Updating status name store result' store' (issued ++ issued') := by
  cases h with
  | idle about => exact .idle (about.append habout)
  | advanced found legal launched about =>
    exact .advanced found legal launched (about.append habout)
  | removed found about => exact .removed found (about.append habout)

/-- A retirement does nothing, or removes the record of a task. -/
inductive Retirement (candidate : TaskRecord) (name : String) (store : Memory) :
    Except Fault Bool → Memory → List Issue → Prop
  | idle {result issued} (about : AboutTasks issued) :
      Retirement candidate name store result store issued
  | removed {r result issued}
      (found : store.record? (Key.task name candidate.role candidate.id) = some r)
      (about : AboutTasks issued) :
      Retirement candidate name store result (store.erase (Key.task name r.role r.id)) issued

theorem Promotion.about {candidate : TaskRecord} {name : String} {store store' : Memory}
    {result : Except Fault Bool} {issued : List Issue}
    (h : Promotion candidate name store result store' issued) : AboutTasks issued := by
  cases h with
  | idle => exact aboutTasks_nil
  | done => exact aboutTasks_nil

theorem Updating.about {status : TaskStatus} {name : String} {store store' : Memory}
    {result : Except Fault Unit} {issued : List Issue}
    (h : Updating status name store result store' issued) : AboutTasks issued := by
  cases h with
  | idle about => exact about
  | advanced _ _ _ about => exact about
  | removed _ about => exact about

theorem Retirement.about {candidate : TaskRecord} {name : String} {store store' : Memory}
    {result : Except Fault Bool} {issued : List Issue}
    (h : Retirement candidate name store result store' issued) : AboutTasks issued := by
  cases h with
  | idle about => exact about
  | removed _ about => exact about

namespace Run

variable {α : Type}

/-- `Does m spec`: the run `m` ends with a result, a store and further calls that `spec` allows for
the framework's name and the store that it began with. -/
def Does (m : Run α) (spec : String → Memory → Except Fault α → Memory → List Issue → Prop) :
    Prop :=
  ∀ s w, ∃ result store issued w', m s w = (result, w') ∧ Moves w store issued w' ∧
    spec w.framework w.store result store issued

/-- A lock changes nothing of what is said about a run. -/
theorem withLock_of {body : Run α} {s : Surroundings} {w : World}
    {P : Except Fault α → Memory → List Issue → Prop} (id : String)
    (h : ∀ w₀, Moves w w.store [] w₀ → ∃ result store issued w₁, body s w₀ = (result, w₁) ∧
      Moves w₀ store issued w₁ ∧ P result store issued) :
    ∃ result store issued w', withLock id body s w = (result, w') ∧ Moves w store issued w' ∧
      P result store issued := by
  obtain ⟨w₀, w', hlock, hrun, hunlock⟩ := withLock_cases id body s w
  obtain ⟨result, store, issued, w₁, hbody, hmoves, hP⟩ := h w₀ hlock
  rw [hbody] at hrun hunlock
  have hall := (hlock.andThen hmoves).trans hunlock
  rw [List.append_nil, hmoves.store] at hall
  exact ⟨result, store, issued, w', hrun, hall, hP⟩

theorem Does.withLock {m : Run α}
    {spec : String → Memory → Except Fault α → Memory → List Issue → Prop}
    (h : Does m spec) (id : String) : Does (withLock id m) spec := by
  refine fun s w => withLock_of id fun w₀ hlock => ?_
  obtain ⟨result, store, issued, w₁, hm, hmoves, hspec⟩ := h s w₀
  rw [hlock.framework, hlock.store] at hspec
  exact ⟨result, store, issued, w₁, hm, hmoves, hspec⟩

theorem does_promoteOne (candidate : TaskRecord) :
    Does (promoteOne candidate) (Promotion candidate) := by
  refine Does.withLock (fun s w => ?_) candidate.id
  obtain ⟨w₁, hmoves, ⟨e, hload⟩ | hload | ⟨r, hload, hr⟩⟩ :=
    load_cases candidate.role candidate.id s w
  · exact ⟨.error e, _, _, w₁, bind_of_error hload _, hmoves, .idle (by simp)⟩
  · exact ⟨.ok false, _, _, w₁, bind_of_ok hload _, hmoves, .idle (by simp)⟩
  · rw [bind_of_ok hload]
    by_cases hstate : r.state = .unset
    · simp only [hstate, if_true]
      rw [bind_of_ok now_run]
      have hnow := hmoves.andThen (moves_now hmoves.store)
      obtain ⟨w₂, ⟨hsave, hmoves'⟩ | ⟨e, hsave, hmoves'⟩⟩ :=
        save_cases (promoted r (s.clock w₁.tally.times)) s hnow.store
      · exact ⟨.ok true, _, _, w₂, bind_of_ok hsave _, hnow.andThen hmoves', .done hr hstate⟩
      · exact ⟨.error e, _, _, w₂, bind_of_error hsave _, hnow.andThen hmoves', .idle (by simp)⟩
    · simp only [hstate, if_false]
      exact ⟨.ok false, _, _, w₁, rfl, hmoves, .idle (by simp)⟩

/-- What becomes of a record whose offer could not be accepted. -/
theorem revertLaunch_cases (r : TaskRecord) (offer : Offer) (s : Surroundings) {w : World}
    {store : Memory} (hstore : w.store = store) :
    ∃ w', (revertLaunch r offer s w = (.ok (), w') ∧
        ∃ now, Moves w (store.put (r.unstaged now)) [] w') ∨
      ∃ e asked, revertLaunch r offer s w = (.error e, w') ∧ AboutTasks asked ∧
        Moves w store asked w' := by
  have hnow := moves_now hstore
  unfold revertLaunch
  rw [bind_of_ok now_run]
  obtain ⟨w₁, ⟨hsave, hmoves⟩ | ⟨e, hsave, hmoves⟩⟩ :=
    save_cases (r.unstaged (s.clock w.tally.times)) s hnow.store
  · rw [bind_of_ok (attempt_of hsave)]
    exact ⟨w₁, Or.inl ⟨rfl, _, hnow.andThen hmoves⟩⟩
  · rw [bind_of_ok (attempt_of hsave)]
    obtain ⟨delivery, w₂, -, hmoves', hcall⟩ :=
      call_cases (.reconciling [⟨⟨r.id⟩, some offer.agentId⟩]) s hmoves.store
    have habout : AboutTasks [⟨.reconciling [⟨⟨r.id⟩, some offer.agentId⟩], delivery, store⟩] :=
      aboutTasks_singleton .reconcile rfl (by decide)
    refine ⟨w₂, Or.inr ⟨e, _, ?_, habout, (hnow.andThen hmoves).andThen hmoves'⟩⟩
    rcases hcall with ⟨-, hcall⟩ | ⟨-, fault, hcall⟩
    · exact bind_of_ok (attempt_of hcall) _
    · exact bind_of_ok (attempt_of hcall) _

theorem does_launch (offer : Offer) (candidate : TaskRecord) :
    Does (launch offer candidate) (Launching offer candidate) := by
  refine Does.withLock (fun s w => ?_) candidate.id
  obtain ⟨w₁, hmoves, ⟨e, hload⟩ | hload | ⟨r, hload, hr⟩⟩ :=
    load_cases candidate.role candidate.id s w
  · exact ⟨.error e, _, _, w₁, bind_of_error hload _, hmoves, .idle (by simp)⟩
  · exact ⟨.ok false, _, _, w₁, bind_of_ok hload _, hmoves, .idle (by simp)⟩
  rw [bind_of_ok hload]
  by_cases hstate : r.state = .new
  swap
  · simp only [hstate, if_false]
    exact ⟨.ok false, _, _, w₁, rfl, hmoves, .idle (by simp)⟩
  simp only [hstate, if_true]
  cases hfit : fit offer r with
  | error mismatch => exact ⟨.ok false, _, _, w₁, rfl, hmoves, .idle (by simp)⟩
  | ok ports =>
    have hlaunchable : Launchable offer candidate w.framework w.store r ports := ⟨hr, hstate, hfit⟩
    have hnow := hmoves.andThen (moves_now hmoves.store)
    dsimp only
    rw [bind_of_ok now_run]
    obtain ⟨w₂, ⟨hsave, hstaged⟩ | ⟨e, hsave, hmoves'⟩⟩ :=
      save_cases (r.staged offer ports (s.clock w₁.tally.times)) s hnow.store
    swap
    · rw [bind_of_ok (attempt_of hsave)]
      exact ⟨.ok false, _, _, w₂, rfl, hnow.andThen hmoves', .idle (by simp)⟩
    rw [bind_of_ok (attempt_of hsave)]
    dsimp only
    obtain ⟨delivery, w₃, -, hcalled, ⟨rfl, hcall⟩ | ⟨hfailed, fault, hcall⟩⟩ :=
      call_cases (launching offer (r.staged offer ports (s.clock w₁.tally.times))) s hstaged.store
    · exact ⟨.ok true, _, _, w₃, bind_of_ok (attempt_of hcall) _,
        (hnow.andThen hstaged).andThen hcalled, .launched hlaunchable⟩
    · have hissued := (hnow.andThen hstaged).andThen hcalled
      obtain ⟨w₄, ⟨hrevert, now', hreverted⟩ | ⟨e, asked, hrevert, habout, hasked⟩⟩ :=
        revertLaunch_cases r offer s hissued.store
      · refine ⟨.ok false, _, _, w₄, ?_, hissued.trans hreverted, .reverted hlaunchable hfailed⟩
        exact (bind_of_ok (attempt_of hcall) _).trans (bind_of_ok hrevert _)
      · refine ⟨.error e, _, _, w₄, ?_, hissued.trans hasked, .stuck hlaunchable hfailed habout⟩
        exact (bind_of_ok (attempt_of hcall) _).trans (bind_of_error hrevert _)

/-! ### Reports -/

theorem killTask_cases (r : TaskRecord) (s : Surroundings) {w : World} {store : Memory}
    (hstore : w.store = store) :
    ∃ issued w', AboutTasks issued ∧ Moves w store issued w' ∧
      (killTask r s w = (.ok (), w') ∨ ∃ e, killTask r s w = (.error e, w')) := by
  obtain ⟨delivery, w', -, hmoves, ⟨-, hcall⟩ | ⟨-, fault, hcall⟩⟩ :=
    call_cases (.killing ⟨r.id⟩ (r.agentId.map Manager.Id.mk)) s hstore
  · refine ⟨_, w', ?_, hmoves, Or.inl hcall⟩
    exact aboutTasks_singleton .kill rfl (by decide)
  · refine ⟨_, w', ?_, hmoves, Or.inr ⟨_, hcall⟩⟩
    exact aboutTasks_singleton .kill rfl (by decide)

theorem does_applyStatus (status : TaskStatus) :
    Does (applyStatus status) (Updating status) := by
  intro s w
  obtain ⟨w₁, hmoves, ⟨e, hfind⟩ | hfind | ⟨r, role, hfind, hr⟩⟩ :=
    find_cases status.taskId.value s w
  · exact ⟨.error e, _, _, w₁, bind_of_error hfind _, hmoves, .idle aboutTasks_nil⟩
  · exact ⟨.ok (), _, _, w₁, bind_of_ok hfind _, hmoves, .idle aboutTasks_nil⟩
  unfold applyStatus
  rw [bind_of_ok hfind]
  cases hnext : TaskState.ofStatus? status.state with
  | none => exact ⟨.ok (), _, _, w₁, rfl, hmoves, .idle aboutTasks_nil⟩
  | some next =>
    cases hlegal : r.state.canBecome next with
    | false =>
      simp only [hlegal]
      exact ⟨.ok (), _, _, w₁, rfl, hmoves, .idle aboutTasks_nil⟩
    | true =>
      cases halive : next.isTerminal with
      | true =>
        simp only [hlegal, halive, Bool.not_true, Bool.false_eq_true, if_false, if_true]
        obtain ⟨w₂, ⟨⟨there, hremove⟩, hmoves'⟩ | ⟨e, hremove, hmoves'⟩⟩ :=
          remove_cases r.role r.id s hmoves.store
        · rw [hmoves.framework] at hmoves'
          exact ⟨.ok (), _, _, w₂, bind_of_ok hremove _, hmoves.andThen hmoves',
            .removed hr aboutTasks_nil⟩
        · exact ⟨.error e, _, _, w₂, bind_of_error hremove _, hmoves.andThen hmoves',
            .idle aboutTasks_nil⟩
      | false =>
        simp only [hlegal, halive, Bool.not_true, Bool.false_eq_true, if_false]
        have hnow := hmoves.andThen (moves_now hmoves.store)
        rw [bind_of_ok now_run]
        obtain ⟨w₂, ⟨hsave, hmoves'⟩ | ⟨e, hsave, hmoves'⟩⟩ :=
          save_cases (r.advanced next status (s.clock w₁.tally.times)) s hnow.store
        · exact ⟨.ok (), _, _, w₂, hsave, hnow.andThen hmoves',
            .advanced hr hlegal (TaskState.isLaunched_of_ofStatus? hnext halive) aboutTasks_nil⟩
        · exact ⟨.error e, _, _, w₂, hsave, hnow.andThen hmoves', .idle aboutTasks_nil⟩

theorem acknowledge_cases (status : TaskStatus) (s : Surroundings) {w : World} {store : Memory}
    (hstore : w.store = store) :
    ∃ result issued w', AboutTasks issued ∧ Moves w store issued w' ∧
      acknowledge status s w = (result, w') := by
  have hnothing : Moves w store [] w := by
    subst hstore
    exact Moves.refl w
  unfold acknowledge
  cases status.agentId with
  | none => exact ⟨_, _, w, aboutTasks_nil, hnothing, rfl⟩
  | some agent =>
    cases status.uuid with
    | none => exact ⟨_, _, w, aboutTasks_nil, hnothing, rfl⟩
    | some uuid =>
      obtain ⟨delivery, w', -, hmoves, hcall⟩ :=
        call_cases (.acknowledging agent status.taskId uuid) s hstore
      have habout : AboutTasks [⟨.acknowledging agent status.taskId uuid, delivery, store⟩] :=
        aboutTasks_singleton .acknowledge rfl (by decide)
      rcases hcall with ⟨-, hcall⟩ | ⟨-, fault, hcall⟩
      · exact ⟨_, _, w', habout, hmoves, hcall⟩
      · exact ⟨_, _, w', habout, hmoves, hcall⟩

theorem does_handleUpdate (status : TaskStatus) :
    Does (handleUpdate status) (Updating status) := by
  refine Does.withLock (fun s w => ?_) status.taskId.value
  obtain ⟨result, store, issued, w₁, hrun, hmoves, hupdate⟩ := does_applyStatus status s w
  cases result with
  | error e => exact ⟨_, _, _, w₁, bind_of_error hrun _, hmoves, hupdate⟩
  | ok =>
    obtain ⟨result, issued', w₂, habout, hmoves', hack⟩ := acknowledge_cases status s hmoves.store
    exact ⟨result, _, _, w₂, (bind_of_ok hrun _).trans hack, hmoves.trans hmoves',
      hupdate.andAbout habout⟩

/-! ### Retirement -/

theorem does_retire (candidate : TaskRecord) :
    Does (retire candidate) (Retirement candidate) := by
  refine Does.withLock (fun s w => ?_) candidate.id
  obtain ⟨w₁, hmoves, ⟨e, hload⟩ | hload | ⟨r, hload, hr⟩⟩ :=
    load_cases candidate.role candidate.id s w
  · exact ⟨.error e, _, _, w₁, bind_of_error hload _, hmoves, .idle aboutTasks_nil⟩
  · exact ⟨.ok false, _, _, w₁, bind_of_ok hload _, hmoves, .idle aboutTasks_nil⟩
  have hremoved : ∀ {issued w₂}, AboutTasks issued → Moves w w.store issued w₂ →
      ∃ result store w₃, (Records.remove r.role r.id : Run _) s w₂ = (result, w₃) ∧
        Moves w store issued w₃ ∧
        Retirement candidate w.framework w.store result store issued := by
    intro issued w₂ habout hkilled
    obtain ⟨w₃, ⟨⟨there, hremove⟩, hmoves'⟩ | ⟨e, hremove, hmoves'⟩⟩ :=
      remove_cases r.role r.id s hkilled.store
    · rw [hkilled.framework] at hmoves'
      have hall := hkilled.trans hmoves'
      rw [List.append_nil] at hall
      exact ⟨_, _, w₃, hremove, hall, .removed hr habout⟩
    · have hall := hkilled.trans hmoves'
      rw [List.append_nil] at hall
      exact ⟨_, _, w₃, hremove, hall, .idle habout⟩
  rw [bind_of_ok hload]
  dsimp only
  by_cases hlaunched : r.state.isLaunched
  · simp only [hlaunched, if_true]
    obtain ⟨issued, w₂, habout, hkilled, hkill | ⟨e, hkill⟩⟩ := killTask_cases r s hmoves.store
    · obtain ⟨result, store, w₃, hremove, hall, hspec⟩ := hremoved habout (hmoves.andThen hkilled)
      exact ⟨result, store, issued, w₃, (bind_of_ok hkill _).trans hremove, hall, hspec⟩
    · exact ⟨.error e, _, issued, w₂, bind_of_error hkill _, hmoves.andThen hkilled, .idle habout⟩
  · simp only [hlaunched]
    obtain ⟨result, store, w₃, hremove, hall, hspec⟩ := hremoved aboutTasks_nil hmoves
    exact ⟨result, store, [], w₃, hremove, hall, hspec⟩

end Run

end Scheduling

end Stevedore
