import Stevedore.Proofs.Completion
import Stevedore.Proofs.Registration

/-!
# Reports on a task converge

The manager repeats reports that were not confirmed, and what it answers when it is asked about
tasks mixes with them. What becomes of a record does not depend on that: whatever the order of
reports and however often each is repeated, it is removed if any of them says that the task has
stopped, and otherwise ends in the furthest state that it was in or was reported to be in
(`status_updates_converge`).

A run of reports on the store (`handleUpdates_cases`) is projected to a run on states, where the
states that are not final are ordered by rank (`TaskState.rank_inj`).
-/

namespace Stevedore

namespace TaskState

/-! ### Reports and states -/

/-- Where a report leaves a task, if there is a record of it: in some state, or without a record. -/
def after? (state? : Option TaskState) (report : String) : Option TaskState :=
  match state?, ofStatus? report with
  | none, _ => none
  | some state, none => some state
  | some state, some next =>
    if !state.canBecome next then some state
    else if next.isTerminal then none
    else some next

/-- Where reports leave a task, one after the other. -/
def afterAll? (state? : Option TaskState) (reports : List String) : Option TaskState :=
  reports.foldl after? state?

/-- The states that reports stand for. -/
def reported (reports : List String) : List TaskState :=
  reports.filterMap ofStatus?

/-- A state is one of some states, and none of them is further. -/
structure Furthest (state : TaskState) (states : List TaskState) : Prop where
  mem : state ∈ states
  rank_le : ∀ other ∈ states, other.rank ≤ state.rank

variable {state next : TaskState} {reports reports' : List String}

theorem rank_inj (h : state.isTerminal = false) (h' : next.isTerminal = false)
    (hrank : state.rank = next.rank) : state = next := by
  cases state <;> cases next <;> simp [isTerminal, rank] at h h' hrank ⊢

/-- A task that has not stopped may stop at any time. -/
theorem canBecome_of_isTerminal (h : state.isTerminal = false) (h' : next.isTerminal = true) :
    state.canBecome next = true := by
  cases state <;> cases next <;> simp [isTerminal, canBecome, rank] at h h' ⊢

/-- The furthest of some states and of what comes after them is the furthest of all. -/
theorem Furthest.join {last : TaskState} {first rest : List TaskState} (h : Furthest state first)
    (h' : Furthest last (state :: rest)) : Furthest last (first ++ rest) where
  mem := by
    rcases List.mem_cons.1 h'.mem with rfl | hmem
    · exact List.mem_append_left _ h.mem
    · exact List.mem_append_right _ hmem
  rank_le other hother := by
    rcases List.mem_append.1 hother with hother | hother
    · exact (h.rank_le other hother).trans (h'.rank_le state List.mem_cons_self)
    · exact h'.rank_le other (List.mem_cons_of_mem _ hother)

/-- What a report does to a task that has not stopped: nothing if it stands for no state, and
otherwise the task stops or is in the further of two states. -/
theorem after?_cases (h : state.isTerminal = false) (report : String) :
    (ofStatus? report = none ∧ after? (some state) report = some state) ∨
    ∃ next, ofStatus? report = some next ∧
      (next.isTerminal = true ∧ after? (some state) report = none ∨
        next.isTerminal = false ∧ ∃ further, further.isTerminal = false ∧
          after? (some state) report = some further ∧ Furthest further [state, next]) := by
  cases hnext : ofStatus? report with
  | none => exact Or.inl ⟨rfl, by simp [after?, hnext]⟩
  | some next =>
    refine Or.inr ⟨next, rfl, ?_⟩
    cases hterminal : next.isTerminal with
    | true =>
      have hcan := canBecome_of_isTerminal h hterminal
      exact Or.inl ⟨rfl, by simp [after?, hnext, hcan, hterminal]⟩
    | false =>
      right
      by_cases hrank : state.rank ≤ next.rank
      · have hcan : state.canBecome next = true := by simp [canBecome, h, hrank]
        refine ⟨rfl, next, hterminal, by simp [after?, hnext, hcan, hterminal], ?_⟩
        constructor
        · simp
        · simpa using hrank
      · have hcan : state.canBecome next = false := by simp [canBecome, hrank]
        refine ⟨rfl, state, h, by simp [after?, hnext, hcan], ?_⟩
        constructor
        · simp
        · simp
          omega

theorem afterAll?_none (reports : List String) : afterAll? none reports = none := by
  induction reports with
  | nil => rfl
  | cons report rest ih =>
    show afterAll? (after? none report) rest = none
    exact ih

/-- **Where reports leave a task that has not stopped**: without a record if any stands for a final
state, and else in the furthest of its first state and those that they stand for. -/
theorem afterAll?_cases (h : state.isTerminal = false) (reports : List String) :
    ((∃ x ∈ reported reports, x.isTerminal = true) ∧ afterAll? (some state) reports = none) ∨
    (∀ x ∈ reported reports, x.isTerminal = false) ∧ ∃ last, last.isTerminal = false ∧
      afterAll? (some state) reports = some last ∧ Furthest last (state :: reported reports) := by
  induction reports generalizing state with
  | nil =>
    refine Or.inr ⟨fun x hx => absurd hx List.not_mem_nil, state, h, rfl, ?_⟩
    refine ⟨List.mem_cons_self, fun other hother => ?_⟩
    rw [List.mem_singleton.1 hother]
  | cons report rest ih =>
    have hrun : afterAll? (some state) (report :: rest) =
        afterAll? (after? (some state) report) rest := rfl
    rw [hrun]
    obtain ⟨hnone, hafter⟩ | ⟨next, hnext, hafter⟩ := after?_cases h report
    · have hreported : reported (report :: rest) = reported rest := by
        simp [reported, hnone]
      rw [hafter, hreported]
      exact ih h
    have hreported : reported (report :: rest) = next :: reported rest := by
      simp [reported, hnext]
    rw [hreported]
    obtain ⟨hterminal, hafter⟩ | ⟨halive, further, hfurther, hafter, hfirst⟩ := hafter
    · rw [hafter, afterAll?_none]
      exact Or.inl ⟨⟨next, List.mem_cons_self, hterminal⟩, rfl⟩
    · rw [hafter]
      obtain ⟨⟨x, hx, hterminal⟩, hgone⟩ | ⟨hall, last, hlast, hrun, hfurthest⟩ := ih hfurther
      · exact Or.inl ⟨⟨x, List.mem_cons_of_mem _ hx, hterminal⟩, hgone⟩
      · refine Or.inr ⟨?_, last, hlast, hrun, hfirst.join hfurthest⟩
        rw [List.forall_mem_cons]
        exact ⟨halive, hall⟩

/-- The furthest of some states that are not final is the only one, and depends on nothing but which
states there are. -/
theorem Furthest.unique {last last' : TaskState} {states states' : List TaskState}
    (h : Furthest last states) (h' : Furthest last' states') (hlast : last.isTerminal = false)
    (hlast' : last'.isTerminal = false) (hsame : ∀ x, x ∈ states ↔ x ∈ states') :
    last = last' := by
  have hle : last.rank ≤ last'.rank := h'.rank_le last ((hsame last).1 h.mem)
  have hge : last'.rank ≤ last.rank := h.rank_le last' ((hsame last').2 h'.mem)
  exact rank_inj hlast hlast' (Nat.le_antisymm hle hge)

theorem mem_reported_iff {reports : List String} {x : TaskState} :
    x ∈ reported reports ↔ ∃ report ∈ reports, ofStatus? report = some x :=
  List.mem_filterMap

theorem reported_congr (hsame : ∀ report, report ∈ reports ↔ report ∈ reports') (x : TaskState) :
    x ∈ reported reports ↔ x ∈ reported reports' := by
  simp only [mem_reported_iff, hsame]

/-- **Neither the order of reports nor their number matters.** -/
theorem afterAll?_congr (h : state.isTerminal = false)
    (hsame : ∀ report, report ∈ reports ↔ report ∈ reports') :
    afterAll? (some state) reports = afterAll? (some state) reports' := by
  have hreported := reported_congr hsame
  obtain ⟨⟨x, hx, hterminal⟩, hgone⟩ | ⟨hall, last, hlast, hrun, hfurthest⟩ :=
    afterAll?_cases h reports
  · obtain ⟨-, hgone'⟩ | ⟨hall', -⟩ := afterAll?_cases h reports'
    · rw [hgone, hgone']
    · rw [hall' x ((hreported x).1 hx)] at hterminal
      cases hterminal
  · obtain ⟨⟨x, hx, hterminal⟩, -⟩ | ⟨-, last', hlast', hrun', hfurthest'⟩ :=
      afterAll?_cases h reports'
    · rw [hall x ((hreported x).2 hx)] at hterminal
      cases hterminal
    · have hsame' : ∀ x, x ∈ state :: reported reports ↔ x ∈ state :: reported reports' := by
        intro x
        rw [List.mem_cons, List.mem_cons, hreported]
      rw [hrun, hrun', hfurthest.unique hfurthest' hlast hlast' hsame']

end TaskState

namespace Scheduling

open Manager (TaskStatus)
open Store (Memory)

/-! ### Reports and records -/

/-- What lies under the keys of a task: nothing but a record of one role in a given state, or
nothing at all. -/
structure Stands (name : String) (role : Role) (id : String) (state? : Option TaskState)
    (store : Memory) : Prop where
  others : ∀ other, other ≠ role → store.get? (Key.task name other id) = none
  absent : state? = none → store.get? (Key.task name role id) = none
  present : ∀ state, state? = some state → ∃ r,
    store.record? (Key.task name role id) = some r ∧ OfTask name role id r ∧ r.state = state

/-- What reports on a task do to a world. -/
structure Settles (role : Role) (id : String) (state? : Option TaskState) (w w' : World) :
    Prop where
  framework : w'.framework = w.framework
  stands : Stands w.framework role id state? w'.store
  others : ∀ key, key ≠ Key.task w.framework role id → w'.store.get? key = w.store.get? key

variable {s s' : Surroundings} {w w' w'' : World} {name : String} {role : Role} {id : String}
  {state? : Option TaskState} {store : Memory}

theorem Stands.found (h : Stands name role id state? store) :
    ∃ r?, findStored name id store Role.all = .ok r? ∧ r?.map (·.state) = state? ∧
      ∀ r, r? = some r →
        store.record? (Key.task name role id) = some r ∧ OfTask name role id r := by
  have hrole : role ∈ Role.all := by cases role <;> decide
  rw [findStored_eq_storedAs hrole h.others]
  cases state? with
  | none =>
    refine ⟨none, ?_, rfl, fun r hr => ?_⟩
    · rw [storedAs, h.absent rfl]
    · cases hr
  | some state =>
    obtain ⟨r, hr, hof, hstate⟩ := h.present state rfl
    refine ⟨some r, storedAs_eq_some_iff.2 hr, congrArg some hstate, fun x hx => ?_⟩
    cases hx
    exact ⟨hr, hof⟩

theorem Stands.erase (h : Stands name role id state? store) :
    Stands name role id none (store.erase (Key.task name role id)) where
  others other hother := by
    rw [KeyMap.get?_erase_of_ne fun heq => hother (Key.task_inj heq).1]
    exact h.others other hother
  absent _ := KeyMap.get?_erase_self ..
  present _ hstate := nomatch hstate

/-- A record is saved in place of one of the same task. -/
theorem Stands.put (h : Stands name role id state? store) {r r' : TaskRecord}
    (hfound : store.record? (Key.task name role id) = some r) (hof : OfTask name role id r')
    (hresources : r'.resources = r.resources) (hlimits : r'.limits = r.limits) :
    Stands name role id (some r'.state) (store.put r') where
  others other hother := by
    rw [Memory.put, hof.storeKey]
    refine (KeyMap.get?_insert_of_ne fun heq => hother (Key.task_inj heq).1).trans ?_
    exact h.others other hother
  absent hnone := nomatch hnone
  present state hstate := by
    cases hstate
    refine ⟨r', ?_, hof, rfl⟩
    rw [← hof.storeKey]
    exact Memory.record?_put_of_found hfound store r' hresources hlimits

namespace Settles

theorem of_same (h : Stands w.framework role id state? w.store)
    (hframework : w'.framework = w.framework) (hstore : w'.store = w.store) :
    Settles role id state? w w' where
  framework := hframework
  stands := hstore ▸ h
  others _ _ := by rw [hstore]

theorem stands_after (h : Settles role id state? w w') :
    Stands w'.framework role id state? w'.store := by
  rw [h.framework]
  exact h.stands

theorem trans {next? : Option TaskState} (h : Settles role id state? w w')
    (h' : Settles role id next? w' w'') : Settles role id next? w w'' where
  framework := h'.framework.trans h.framework
  stands := h.framework ▸ h'.stands
  others key hkey := (h'.others key (h.framework.symm ▸ hkey)).trans (h.others key hkey)

end Settles

namespace Run

/-- Take reports one after the other. -/
def handleUpdates : List TaskStatus → Run Unit
  | [] => pure ()
  | status :: rest => do
    handleUpdate status
    handleUpdates rest

/-- The record of a task is removed unless the store fails. -/
theorem remove_settles (h : Stands w.framework role id state? w.store) {r : TaskRecord}
    (hof : OfTask w.framework role id r) (s : Surroundings) :
    ∃ w', Moves w w'.store [] w' ∧
      ((∃ there, (Records.remove r.role r.id : Run _) s w = (.ok there, w')) ∧
          Settles role id none w w' ∨
        (∃ e, (Records.remove r.role r.id : Run _) s w = (.error e, w')) ∧ ¬ s.Steady) := by
  obtain ⟨w', ⟨hremove, hmoves⟩ | ⟨e, hremove, hmoves⟩⟩ := remove_cases r.role r.id s (w := w) rfl
  · rw [hof.role, hof.id] at hmoves
    have hsettles : Settles role id none w w' := by
      refine ⟨hmoves.framework, ?_, fun key hkey => ?_⟩
      · rw [hmoves.store]
        exact h.erase
      · rw [hmoves.store]
        exact KeyMap.get?_erase_of_ne hkey
    rw [← hmoves.store] at hmoves
    exact ⟨w', hmoves, Or.inl ⟨hremove, hsettles⟩⟩
  · rw [← hmoves.store] at hmoves
    refine ⟨w', hmoves, Or.inr ⟨⟨e, hremove⟩, fun hsteady => ?_⟩⟩
    obtain ⟨there, w₂, hremove', -⟩ := remove_steady hsteady r.role r.id w
    rw [hremove] at hremove'
    cases hremove'

/-- A record is saved in place of one of the same task unless the store fails. -/
theorem save_settles (h : Stands w.framework role id state? w.store) {r r' : TaskRecord}
    (hfound : w.store.record? (Key.task w.framework role id) = some r)
    (hof : OfTask w.framework role id r') (hresources : r'.resources = r.resources)
    (hlimits : r'.limits = r.limits) (s : Surroundings) :
    ∃ w', Moves w w'.store [] w' ∧
      ((Records.save r' : Run _) s w = (.ok (), w') ∧ Settles role id (some r'.state) w w' ∨
        (∃ e, (Records.save r' : Run _) s w = (.error e, w')) ∧ ¬ s.Steady) := by
  obtain ⟨w', ⟨hsave, hmoves⟩ | ⟨e, hsave, hmoves⟩⟩ := save_cases r' s (w := w) rfl
  · have hsettles : Settles role id (some r'.state) w w' := by
      refine ⟨hmoves.framework, ?_, fun key hkey => ?_⟩
      · rw [hmoves.store]
        exact h.put hfound hof hresources hlimits
      · rw [hmoves.store]
        exact KeyMap.get?_insert_of_ne (hof.storeKey.symm ▸ hkey)
    rw [← hmoves.store] at hmoves
    exact ⟨w', hmoves, Or.inl ⟨hsave, hsettles⟩⟩
  · rw [← hmoves.store] at hmoves
    refine ⟨w', hmoves, Or.inr ⟨⟨e, hsave⟩, fun hsteady => ?_⟩⟩
    obtain ⟨w₂, hsave', -⟩ := save_steady hsteady r' (w := w) rfl
    rw [hsave] at hsave'
    cases hsave'

/-- The change that a report demands is made unless the store fails. -/
theorem applyStatus_settles (h : Stands w.framework role id state? w.store) {status : TaskStatus}
    (hid : status.taskId.value = id) (s : Surroundings) :
    ∃ w', Moves w w'.store [] w' ∧
      (applyStatus status s w = (.ok (), w') ∧
          Settles role id (TaskState.after? state? status.state) w w' ∨
        (∃ e, applyStatus status s w = (.error e, w')) ∧ ¬ s.Steady) := by
  subst hid
  obtain ⟨r?, hstored, rfl, hr⟩ := h.found
  obtain ⟨n, hfind | ⟨k, reason, hk, hfind⟩⟩ := looks_find status.taskId.value s w
  swap
  · refine ⟨_, moves_afterReads w n, Or.inr ⟨⟨_, bind_of_error hfind _⟩, fun hsteady => ?_⟩⟩
    rw [hsteady.reads] at hk
    cases hk
  dsimp only at hfind
  rw [hstored] at hfind
  have hread := moves_afterReads w n
  have hsame : Settles role status.taskId.value (r?.map (·.state)) w (w.afterReads n) :=
    .of_same h rfl rfl
  unfold applyStatus
  rw [bind_of_ok hfind]
  cases r? with
  | none => exact ⟨_, hread, Or.inl ⟨rfl, hsame⟩⟩
  | some r =>
  obtain ⟨hfound, hof⟩ := hr r rfl
  cases hnext : TaskState.ofStatus? status.state with
  | none =>
    simp only [TaskState.after?, hnext, Option.map_some]
    exact ⟨_, hread, Or.inl ⟨rfl, hsame⟩⟩
  | some next =>
  cases hlegal : r.state.canBecome next with
  | false =>
    simp only [TaskState.after?, hnext, hlegal, Option.map_some, Bool.not_false, if_true]
    exact ⟨_, hread, Or.inl ⟨rfl, hsame⟩⟩
  | true =>
  cases hterminal : next.isTerminal with
  | true =>
    simp only [TaskState.after?, hnext, hlegal, hterminal, Option.map_some, Bool.not_true,
      Bool.false_eq_true, if_false, if_true]
    obtain ⟨w₂, hmoves, ⟨⟨there, hremove⟩, hsettles⟩ | ⟨⟨e, hremove⟩, hunsteady⟩⟩ :=
      remove_settles (w := w.afterReads n) hsame.stands hof s
    · exact ⟨w₂, hread.andThen hmoves, Or.inl ⟨bind_of_ok hremove _, hsame.trans hsettles⟩⟩
    · exact ⟨w₂, hread.andThen hmoves, Or.inr ⟨⟨e, bind_of_error hremove _⟩, hunsteady⟩⟩
  | false =>
    simp only [TaskState.after?, hnext, hlegal, hterminal, Option.map_some, Bool.not_true,
      Bool.false_eq_true, if_false]
    have hnow := hread.andThen (moves_now hread.store)
    rw [bind_of_ok now_run]
    generalize hw₁ : { w.afterReads n with tally.times := (w.afterReads n).tally.times + 1 } = w₁
      at *
    have hsame₁ : Settles role status.taskId.value (some r.state) w w₁ :=
      .of_same h hnow.framework hnow.store
    have hfound₁ : w₁.store.record? (Key.task w₁.framework role status.taskId.value) = some r := by
      rw [hnow.framework, hnow.store]
      exact hfound
    let r' := r.advanced next status (s.clock (w.afterReads n).tally.times)
    have hof₁ : OfTask w₁.framework role status.taskId.value r' := by
      rw [hnow.framework]
      exact ⟨hof.framework, hof.role, hof.id, hterminal⟩
    obtain ⟨w₂, hmoves, ⟨hsave, hsettles⟩ | ⟨hsave, hunsteady⟩⟩ :=
      save_settles hsame₁.stands_after hfound₁ hof₁ rfl rfl s
    · exact ⟨w₂, hnow.andThen hmoves, Or.inl ⟨hsave, hsame₁.trans hsettles⟩⟩
    · exact ⟨w₂, hnow.andThen hmoves, Or.inr ⟨hsave, hunsteady⟩⟩

/-- A report is confirmed, if it can be, unless the manager does not take the confirmation. -/
theorem acknowledge_applied (status : TaskStatus) (s : Surroundings) {w : World} {store : Memory}
    (hstore : w.store = store) :
    ∃ issued w', Moves w store issued w' ∧ (acknowledge status s w = (.ok (), w') ∨
      (∃ e, acknowledge status s w = (.error e, w')) ∧ ∃ k c, s.delivery k c ≠ .applied) := by
  have hnothing : Moves w store [] w := by
    subst hstore
    exact Moves.refl w
  unfold acknowledge
  cases status.agentId with
  | none => exact ⟨[], w, hnothing, Or.inl rfl⟩
  | some agent =>
    cases status.uuid with
    | none => exact ⟨[], w, hnothing, Or.inl rfl⟩
    | some uuid =>
      obtain ⟨delivery, w', hdelivery, hmoves, ⟨-, hcall⟩ | ⟨hfailed, fault, hcall⟩⟩ :=
        call_cases (.acknowledging agent status.taskId uuid) s hstore
      · exact ⟨_, w', hmoves, Or.inl hcall⟩
      · subst hdelivery
        exact ⟨_, w', hmoves, Or.inr ⟨⟨_, hcall⟩, _, _, hfailed⟩⟩

/-- **What a report on a task does**, unless the store or the manager fails. -/
theorem handleUpdate_settles (h : Stands w.framework role id state? w.store) {status : TaskStatus}
    (hid : status.taskId.value = id) (s : Surroundings) :
    ∃ w', (handleUpdate status s w = (.ok (), w') ∧
          Settles role id (TaskState.after? state? status.state) w w') ∨
        (∃ e, handleUpdate status s w = (.error e, w')) ∧ ¬ s.Clear .applied := by
  obtain ⟨w₀, w', hlock, hrun, hunlock⟩ :=
    withLock_cases status.taskId.value (applyStatus status >>= fun _ => acknowledge status) s w
  have hbefore : Settles role id state? w w₀ := .of_same h hlock.framework hlock.store
  have hupdate : handleUpdate status s w =
      (((applyStatus status >>= fun _ => acknowledge status) s w₀).1, w') := hrun
  obtain ⟨w₁, hmoves, ⟨hok, hsettles⟩ | ⟨⟨e, hfail⟩, hunsteady⟩⟩ :=
    applyStatus_settles hbefore.stands_after hid s
  swap
  · rw [bind_of_error hfail] at hupdate
    exact ⟨w', Or.inr ⟨⟨e, hupdate⟩, fun hclear => hunsteady hclear.steady⟩⟩
  obtain ⟨issued, w₂, hmoves', hack | ⟨⟨e, hack⟩, k, c, hfailed⟩⟩ :=
    acknowledge_applied status s (w := w₁) rfl
  swap
  · rw [bind_of_ok hok, hack] at hupdate
    exact ⟨w', Or.inr ⟨⟨e, hupdate⟩, fun hclear => hfailed (hclear.calls k c)⟩⟩
  rw [bind_of_ok hok, hack] at hupdate hunlock
  have hafter : Settles role id (TaskState.after? state? status.state) w₁ w' := by
    have hstore : w'.store = w₁.store := hunlock.store.trans hmoves'.store
    have hframework : w'.framework = w₁.framework := hunlock.framework.trans hmoves'.framework
    exact .of_same hsettles.stands_after hframework hstore
  exact ⟨w', Or.inl ⟨hupdate, (hbefore.trans hsettles).trans hafter⟩⟩

/-- **What reports on a task do**, unless the store or the manager fails. -/
theorem handleUpdates_settles (h : Stands w.framework role id state? w.store)
    {reports : List TaskStatus} (hid : ∀ status ∈ reports, status.taskId.value = id)
    (s : Surroundings) :
    ∃ w', (handleUpdates reports s w = (.ok (), w') ∧
          Settles role id (TaskState.afterAll? state? (reports.map (·.state))) w w') ∨
        (∃ e, handleUpdates reports s w = (.error e, w')) ∧ ¬ s.Clear .applied := by
  induction reports generalizing state? w with
  | nil => exact ⟨w, Or.inl ⟨rfl, .of_same h rfl rfl⟩⟩
  | cons status rest ih =>
    obtain ⟨w₁, ⟨hfirst, hsettles⟩ | ⟨⟨e, hfail⟩, hclear⟩⟩ :=
      handleUpdate_settles h (hid status List.mem_cons_self) s
    swap
    · exact ⟨w₁, Or.inr ⟨⟨e, bind_of_error hfail _⟩, hclear⟩⟩
    have hrest : ∀ status ∈ rest, status.taskId.value = id :=
      fun status hstatus => hid status (List.mem_cons_of_mem _ hstatus)
    obtain ⟨w₂, ⟨hrun, hsettles'⟩ | ⟨⟨e, hfail⟩, hclear⟩⟩ :=
      ih hsettles.stands_after hrest
    · exact ⟨w₂, Or.inl ⟨(bind_of_ok hfirst _).trans hrun, hsettles.trans hsettles'⟩⟩
    · exact ⟨w₂, Or.inr ⟨⟨e, (bind_of_ok hfirst _).trans hfail⟩, hclear⟩⟩

end Run

/-! ### Convergence -/

/-- Nothing but its record lies under the keys of a task that has one. -/
theorem Ordered.stands (h : Ordered s w) (hfresh : Function.Injective s.taskId) {r : TaskRecord}
    (hr : r ∈ w.store.records w.framework) :
    OfTask w.framework r.role r.id r ∧
      Stands w.framework r.role r.id (some r.state) w.store := by
  obtain ⟨role, id, hfound⟩ := Memory.mem_records_iff.1 hr
  have hkept := h.own.kept
  obtain ⟨hframework, rfl, rfl⟩ := hkept.own hfound
  have hof : OfTask w.framework r.role r.id r := ⟨hframework, rfl, rfl, hkept.alive hfound⟩
  have hpresent : (w.store.get? (Key.task w.framework r.role r.id)).isSome := by
    obtain ⟨text, htext, -⟩ := Option.bind_eq_some_iff.1 hfound
    rw [htext]
    rfl
  refine ⟨hof, fun other hother => ?_, nofun, fun state hstate => ?_⟩
  · rw [← Option.not_isSome_iff_eq_none]
    intro hpresent'
    exact hother (h.own.single hfresh hpresent' hpresent)
  · cases hstate
    exact ⟨r, hfound, hof, rfl⟩

/-- **Reports on a task converge.** Take any steps that follow a store without tasks, whatever fails
and with whatever valid configurations processes are started, and any record of the framework that
the process acts for. Two sequences of reports on this task that name the same states leave the same
of it, whatever their order and however often they repeat one, if every report is handled without a
fault: no record under any role if one of the states is final, and else one that is in the furthest
of the state that it was in and the states that were reported. Nothing else in the store changes.
Where neither store nor manager fails, every report is handled without a fault. -/
theorem status_updates_converge {s₀ : Surroundings} (hfresh : Function.Injective s₀.taskId)
    {cfg : Config} (hcfg : cfg.validate = .ok ()) {store : Memory} (nodes : NodeSource)
    (hplaced : Placed store)
    (hempty : ∀ name role id, store.get? (Key.task name role id) = none) {steps : List Step}
    (hvalid : Step.Valid steps) {w : World} (hw : w = runSteps s₀ (.start cfg store nodes) steps)
    {r : TaskRecord} (hr : r ∈ w.store.records w.framework) {reports reports' : List TaskStatus}
    (hreports : ∀ status ∈ reports, status.taskId.value = r.id)
    (hreports' : ∀ status ∈ reports', status.taskId.value = r.id)
    (hsame : ∀ state, state ∈ reports.map (·.state) ↔ state ∈ reports'.map (·.state))
    (s s' : Surroundings) :
    let reported := TaskState.reported (reports.map (·.state))
    (s.Clear .applied → ∃ w₁, Run.handleUpdates reports s w = (.ok (), w₁)) ∧
    ∀ w₁ w₂, Run.handleUpdates reports s w = (.ok (), w₁) →
      Run.handleUpdates reports' s' w = (.ok (), w₂) →
      ((∃ state ∈ reported, state.isTerminal = true) ∧ (∀ role,
          w₁.store.get? (Key.task w.framework role r.id) = none ∧
            w₂.store.get? (Key.task w.framework role r.id) = none) ∨
        (∀ state ∈ reported, state.isTerminal = false) ∧ ∃ r₁ r₂,
          w₁.store.record? r.storeKey = some r₁ ∧ w₂.store.record? r.storeKey = some r₂ ∧
            r₁.state = r₂.state ∧ TaskState.Furthest r₁.state (r.state :: reported)) ∧
      ∀ key, key ≠ r.storeKey →
        w₁.store.get? key = w.store.get? key ∧ w₂.store.get? key = w.store.get? key := by
  intro reported
  have hordered : Ordered s₀ w := by
    rw [hw]
    exact (Ordered.start hcfg nodes hplaced hempty).runSteps hvalid
  obtain ⟨hof, hstands⟩ := hordered.stands hfresh hr
  refine ⟨fun hclear => ?_, fun w₁ w₂ hrun₁ hrun₂ => ?_⟩
  · obtain ⟨w₁, ⟨hrun, -⟩ | ⟨-, hunclear⟩⟩ := Run.handleUpdates_settles hstands hreports s
    · exact ⟨w₁, hrun⟩
    · exact absurd hclear hunclear
  have hsettles : ∀ {reports s w'}, (∀ status ∈ reports, status.taskId.value = r.id) →
      Run.handleUpdates reports s w = (.ok (), w') → Settles r.role r.id
        (TaskState.afterAll? (some r.state) (reports.map (·.state))) w w' := by
    intro reports s w' hreports hrun
    obtain ⟨w₁, ⟨hrun', hsettles⟩ | ⟨⟨e, hfail⟩, -⟩⟩ :=
      Run.handleUpdates_settles hstands hreports s
    · rw [hrun] at hrun'
      cases hrun'
      exact hsettles
    · rw [hrun] at hfail
      cases hfail
  have h₁ := hsettles hreports hrun₁
  have h₂ := hsettles hreports' hrun₂
  rw [← TaskState.afterAll?_congr hof.alive hsame] at h₂
  have hkey : r.storeKey = Key.task w.framework r.role r.id := hof.storeKey
  refine ⟨?_, fun key hne => ⟨h₁.others key (hkey ▸ hne), h₂.others key (hkey ▸ hne)⟩⟩
  obtain ⟨hterminal, hgone⟩ | ⟨halive, last, -, hlast, hfurthest⟩ :=
    TaskState.afterAll?_cases hof.alive (reports.map (·.state))
  · have habsent : ∀ {w' : World}, Settles r.role r.id none w w' → ∀ role,
        w'.store.get? (Key.task w.framework role r.id) = none := by
      intro w' hsettles role
      by_cases hrole : role = r.role
      · rw [hrole]
        exact hsettles.stands.absent rfl
      · exact hsettles.stands.others role hrole
    rw [hgone] at h₁ h₂
    exact Or.inl ⟨hterminal, fun role => ⟨habsent h₁ role, habsent h₂ role⟩⟩
  · rw [hlast] at h₁ h₂
    obtain ⟨r₁, hfound₁, -, hstate₁⟩ := h₁.stands.present last rfl
    obtain ⟨r₂, hfound₂, -, hstate₂⟩ := h₂.stands.present last rfl
    rw [hkey]
    refine Or.inr ⟨halive, r₁, r₂, hfound₁, hfound₂, hstate₁.trans hstate₂.symm, ?_⟩
    rw [hstate₁]
    exact hfurthest

/-- An agent is reported to be running before it is reported to be staged, and once more. -/
theorem repeated_reports_converge :
    let w := runSteps .calm (.start {} ∅ .stored) [.part (.create .agent {} .fresh [])]
    let running : TaskStatus := ⟨⟨""⟩, "TASK_RUNNING", none, none, none, none, none, none⟩
    let staging : TaskStatus := ⟨⟨""⟩, "TASK_STAGING", none, none, none, none, none, none⟩
    ∃ r ∈ w.store.records w.framework, ∃ w₁ w₂,
      Run.handleUpdates [running, staging, running] .calm w = (.ok (), w₁) ∧
      Run.handleUpdates [staging, running] .calm w = (.ok (), w₂) ∧
      ∃ r₁ r₂, w₁.store.record? r.storeKey = some r₁ ∧ w₂.store.record? r.storeKey = some r₂ ∧
        r₁.state = .running ∧ r₂.state = .running := by
  intro w running staging
  have hcfg : ({} : Config).validate = .ok () := by decide +kernel
  have hempty : ∀ name role id, (∅ : Memory).get? (Key.task name role id) = none :=
    fun _ _ _ => rfl
  have hvalid : Step.Valid [.part (.create .agent {} .fresh [])] := by
    intro step hstep cfg hmem
    rw [List.mem_singleton.1 hstep] at hmem
    rw [List.mem_singleton.1 hmem]
    exact hcfg
  -- the record of the agent
  obtain ⟨r, hr₀⟩ : ∃ r, newRecord? {} .fresh [] .agent (Surroundings.calm.taskId 0)
      (Surroundings.calm.clock 0) = some r := by
    apply Option.isSome_iff_exists.1
    decide +kernel
  have hstarted := started_of_newRecord? hr₀
  have hstore : w.store = (∅ : Memory).put r :=
    Run.store_createRecord (w := .start {} ∅ .stored) hr₀ rfl
  have hbuilt : Run.Built (fun _ => True) [] (Run.createRecord .agent {} .fresh []) :=
    .piece (.create trivial .agent {} .fresh [])
  have hframework : w.framework = ({} : Config).framework.name :=
    (hbuilt.confined .calm (.start {} ∅ .stored)).framework
  have hkey : r.storeKey = Key.task w.framework .agent "" := by
    rw [hframework]
    exact hstarted.storeKey
  have hfound : w.store.record? (Key.task w.framework .agent "") = some r := by
    rw [hstore, ← hkey]
    exact Memory.record?_put_of_finite _ (hstarted.finite Config.finite_default)
  have hr : r ∈ w.store.records w.framework :=
    Memory.mem_records_iff.2 ⟨.agent, "", hfound⟩
  obtain ⟨hid, hstate⟩ : r.id = "" ∧ r.state = .unset := ⟨hstarted.id, hstarted.state⟩
  have hreports : ∀ status ∈ [running, staging, running], status.taskId.value = r.id := by
    intro status hstatus
    rw [hid]
    simp only [List.mem_cons, List.not_mem_nil, or_false] at hstatus
    rcases hstatus with rfl | rfl | rfl <;> rfl
  have hreports' : ∀ status ∈ [staging, running], status.taskId.value = r.id :=
    fun status hstatus => hreports status (List.mem_cons_of_mem _ hstatus)
  have hsame : ∀ state, state ∈ [running, staging, running].map (·.state) ↔
      state ∈ [staging, running].map (·.state) := by
    intro state
    simp [or_comm]
  obtain ⟨hruns, hconverge⟩ := status_updates_converge Surroundings.calm_taskId_injective hcfg
    .stored placed_empty hempty hvalid rfl hr hreports hreports' hsame .calm .calm
  obtain ⟨hruns', -⟩ := status_updates_converge Surroundings.calm_taskId_injective hcfg
    .stored placed_empty hempty hvalid rfl hr hreports' hreports (fun state => (hsame state).symm)
    .calm .calm
  obtain ⟨w₁, hrun₁⟩ := hruns Surroundings.clear_calm
  obtain ⟨w₂, hrun₂⟩ := hruns' Surroundings.clear_calm
  refine ⟨r, hr, w₁, w₂, hrun₁, hrun₂, ?_⟩
  have hreported : TaskState.reported ([running, staging, running].map (·.state)) =
      [.running, .staging, .running] := by
    decide +kernel
  obtain ⟨⟨⟨x, hx, hterminal⟩, -⟩ | ⟨-, r₁, r₂, hfound₁, hfound₂, hsame, hfurthest⟩, -⟩ :=
    hconverge w₁ w₂ hrun₁ hrun₂
  · rw [hreported] at hx
    simp only [List.mem_cons, List.not_mem_nil, or_false] at hx
    rcases hx with rfl | rfl | rfl <;> cases hterminal
  · rw [hreported, hstate] at hfurthest
    have hrank := hfurthest.rank_le .running (by simp)
    have hmem := hfurthest.mem
    have hrunning : r₁.state = .running := by
      simp only [List.mem_cons, List.not_mem_nil, or_false] at hmem
      rcases hmem with h | h | h | h <;> simp [h, TaskState.rank] at hrank ⊢
    exact ⟨r₁, r₂, hfound₁, hfound₂, hrunning, hsame.symm.trans hrunning⟩

end Scheduling

end Stevedore
