import Stevedore.Proofs.Convergence

/-!
# Reports are confirmed once they are stored

The manager repeats a report until it is confirmed, so what a report says would be lost if it were
confirmed before the store had taken the change. This never happens: whatever fails, the report is
confirmed if and only if every access to the store succeeded, and by then the store holds what the
report demands (`reports_confirmed_once_stored`).

Which accesses were made is read off the counts of reads and writes (`Unfailing`), so a fault of the
store that falls on no access of the run does not count.
-/

namespace Stevedore.Scheduling

open Manager (Call TaskStatus)
open Store (Memory)

variable {s : Surroundings} {w w' : World} {status : TaskStatus} {store : Memory}

/-! ### Accesses -/

/-- No access to the store failed while the counts went from one to the other. -/
structure Unfailing (s : Surroundings) (t t' : Tally) : Prop where
  reads : ∀ k, t.reads ≤ k → k < t'.reads → s.readFault k = none
  writes : ∀ k, t.writes ≤ k → k < t'.writes → s.writeFault k = none

namespace Unfailing

variable {t t' t'' : Tally}

theorem of_same (hreads : t'.reads = t.reads) (hwrites : t'.writes = t.writes) :
    Unfailing s t t' := by
  constructor
  · intro k hle hlt
    omega
  · intro k hle hlt
    omega

theorem trans (h : Unfailing s t t') (h' : Unfailing s t' t'') : Unfailing s t t'' := by
  constructor
  · intro k hle hlt
    by_cases hk : k < t'.reads
    · exact h.reads k hle hk
    · exact h'.reads k (Nat.le_of_not_lt hk) hlt
  · intro k hle hlt
    by_cases hk : k < t'.writes
    · exact h.writes k hle hk
    · exact h'.writes k (Nat.le_of_not_lt hk) hlt

theorem one_read (h : s.readFault w.tally.reads = none) :
    Unfailing s w.tally (w.afterReads 1).tally := by
  constructor
  · intro k hle hlt
    have hk : k = w.tally.reads := Nat.le_antisymm (Nat.le_of_lt_succ hlt) hle
    rwa [hk]
  · intro k hle hlt
    exact absurd hle (Nat.not_le_of_lt hlt)

theorem one_write (h : s.writeFault w.tally.writes = none) (store : Memory) :
    Unfailing s w.tally (w.afterWrite store).tally := by
  constructor
  · intro k hle hlt
    exact absurd hle (Nat.not_le_of_lt hlt)
  · intro k hle hlt
    have hk : k = w.tally.writes := Nat.le_antisymm (Nat.le_of_lt_succ hlt) hle
    rwa [hk]

end Unfailing

/-- Whatever happens next, a read that failed has failed. -/
theorem not_unfailing_of_read {t t' : Tally} {k : Nat} {reason : String} (hle : t.reads ≤ k)
    (hlt : k < t'.reads) (h : s.readFault k = some reason) : ¬ Unfailing s t t' := by
  intro hunfailing
  simp [hunfailing.reads k hle hlt] at h

theorem not_unfailing_of_write {t t' : Tally} {k : Nat} {reason : String} (hle : t.writes ≤ k)
    (hlt : k < t'.writes) (h : s.writeFault k = some reason) : ¬ Unfailing s t t' := by
  intro hunfailing
  simp [hunfailing.writes k hle hlt] at h

/-- Every access to the store that a report on a task led to succeeded: none failed, and the texts
that were read in search of the task's record are records. -/
def Succeeds (id : String) (s : Surroundings) (w w' : World) : Prop :=
  Unfailing s w.tally w'.tally ∧ ∃ r?, findStored w.framework id w.store Role.all = .ok r?

/-! ### What a report demands -/

/-- A record moves to the state that a report stands for. -/
structure Advances (status : TaskStatus) (next : TaskState) (r r' : TaskRecord) : Prop where
  state : r'.state = next
  /-- The address is that of a report that the task runs, if the report has one. -/
  address : ∀ ip, next = .running → status.ipAddress? = some ip → r'.address = some ip
  /-- Otherwise it stays. -/
  keepsAddress : next ≠ .running ∨ status.ipAddress? = none → r'.address = r.address
  /-- The machine is that of the report if none was known. -/
  agentId : r.agentId = none → r'.agentId = status.agentId.map (·.value)
  /-- Otherwise it stays. -/
  keepsAgentId : r.agentId ≠ none → r'.agentId = r.agentId
  /-- Nothing else changes but the time of the last change. -/
  rest : ∃ now, r' = { r with
    state := r'.state, address := r'.address, agentId := r'.agentId, updatedAt := now }

/-- The store as a report demands it, where a record of the task was found before or was not. -/
inductive Demanded (status : TaskStatus) (store : Memory) : Option TaskRecord → Memory → Prop
  /-- The task is not known. -/
  | untracked : Demanded status store none store
  /-- The report stands for no state. -/
  | unmapped {r} (unmapped : TaskState.ofStatus? status.state = none) :
      Demanded status store (some r) store
  /-- The task is further than the report says. -/
  | late {r next} (mapped : TaskState.ofStatus? status.state = some next)
      (late : r.state.canBecome next = false) : Demanded status store (some r) store
  /-- The task has stopped. -/
  | ended {r next} (mapped : TaskState.ofStatus? status.state = some next)
      (legal : r.state.canBecome next = true) (terminal : next.isTerminal = true) :
      Demanded status store (some r) (store.erase r.storeKey)
  /-- The task goes on, and its new record can be read. -/
  | advanced {r next r'} (mapped : TaskState.ofStatus? status.state = some next)
      (legal : r.state.canBecome next = true) (alive : next.isTerminal = false)
      (advances : Advances status next r r')
      (legible : (store.put r').record? r.storeKey = some r') :
      Demanded status store (some r) (store.put r')

theorem advances_advanced (status : TaskStatus) (next : TaskState) (r : TaskRecord)
    (now : UInt64) : Advances status next r (r.advanced next status now) where
  state := rfl
  address ip hrunning hip := by simp [TaskRecord.advanced, hrunning, hip]
  keepsAddress h := by
    by_cases hrunning : next = .running
    · have hip : status.ipAddress? = none := h.resolve_left fun hne => hne hrunning
      simp [TaskRecord.advanced, hip]
    · simp [TaskRecord.advanced, hrunning]
  agentId hnone := by simp [TaskRecord.advanced, hnone]
  keepsAgentId h := by
    obtain ⟨agent, hagent⟩ := Option.ne_none_iff_exists'.1 h
    simp [TaskRecord.advanced, hagent]
  rest := ⟨now, rfl⟩

/-- No key is changed but that of the record that was found. -/
theorem Demanded.others {r? : Option TaskRecord} {store' : Memory}
    (h : Demanded status store r? store') {key : String}
    (hkey : ∀ r, r? = some r → key ≠ r.storeKey) : store'.get? key = store.get? key := by
  cases h with
  | untracked => rfl
  | unmapped => rfl
  | late => rfl
  | ended => exact KeyMap.get?_erase_of_ne (hkey _ rfl)
  | @advanced r next r' _ _ _ advances =>
    obtain ⟨now, hrest⟩ := advances.rest
    have hsame : r'.storeKey = r.storeKey := by
      rw [hrest]
      rfl
    exact KeyMap.get?_insert_of_ne (hsame ▸ hkey r rfl)

/-- A report that a task goes on, and that does not come too late, makes the record advance. -/
theorem Demanded.exists_advances {r : TaskRecord} {next : TaskState} {store' : Memory}
    (h : Demanded status store (some r) store')
    (hnext : TaskState.ofStatus? status.state = some next)
    (hlegal : r.state.canBecome next = true) (halive : next.isTerminal = false) :
    ∃ r', Advances status next r r' ∧ store'.record? r.storeKey = some r' := by
  cases h with
  | unmapped unmapped => simp [unmapped] at hnext
  | late mapped late =>
    cases hnext.symm.trans mapped
    simp [hlegal] at late
  | ended mapped _ terminal =>
    cases hnext.symm.trans mapped
    simp [halive] at terminal
  | advanced mapped _ _ advances legible =>
    cases hnext.symm.trans mapped
    exact ⟨_, advances, legible⟩

/-- The call that confirms a report, if it can be confirmed. -/
def confirmation? (status : TaskStatus) : Option Call :=
  match status.agentId, status.uuid with
  | some agent, some uuid => some (.acknowledging agent status.taskId uuid)
  | _, _ => none

theorem confirmation?_isSome_iff :
    (confirmation? status).isSome ↔ status.agentId.isSome ∧ status.uuid.isSome := by
  unfold confirmation?
  cases status.agentId <;> cases status.uuid <;> simp

theorem kind_of_confirmation? {c : Call} (h : confirmation? status = some c) :
    c.kind = .acknowledge := by
  unfold confirmation? at h
  split at h
  · cases h
    rfl
  · cases h

/-- The confirmation of a report as it is made, if it can be. -/
def confirmations (status : TaskStatus) (s : Surroundings) (t : Tally) (store : Memory) :
    List Issue :=
  (confirmation? status).toList.map fun c => ⟨c, s.delivery t.calls c, store⟩

theorem exists_acknowledge_iff {t : Tally} :
    (∃ i ∈ confirmations status s t store, i.call.kind = .acknowledge) ↔
      status.agentId.isSome ∧ status.uuid.isSome := by
  rw [← confirmation?_isSome_iff]
  unfold confirmations
  cases h : confirmation? status with
  | none => simp
  | some c => simp [kind_of_confirmation? h]

/-- How the change that a report demands is made: the store takes it, or an access fails and the
store stays as it was. -/
inductive Application (status : TaskStatus) (s : Surroundings) (w : World) :
    Except Fault Unit → World → Prop
  | stored {r? w'} (unfailing : Unfailing s w.tally w'.tally)
      (found : findStored w.framework status.taskId.value w.store Role.all = .ok r?)
      (demanded : Demanded status w.store r? w'.store) : Application status s w (.ok ()) w'
  | unstored {fault w'} (failed : ¬ Succeeds status.taskId.value s w w')
      (same : w'.store = w.store) : Application status s w (.error (.store fault)) w'

/-- **What becomes of a report.** -/
structure Handled (status : TaskStatus) (s : Surroundings) (w : World)
    (result : Except Fault Unit) (issued : List Issue) (w' : World) : Prop where
  /-- No key is changed but that of the task's record. -/
  others : ∀ key, (∀ r, findStored w.framework status.taskId.value w.store Role.all = .ok (some r) →
    key ≠ Key.task w.framework r.role status.taskId.value) → w'.store.get? key = w.store.get? key
  /-- The report is confirmed if and only if it can be and the store did not fail. -/
  confirmed_iff : (∃ i ∈ issued, i.call.kind = .acknowledge) ↔
    status.agentId.isSome ∧ status.uuid.isSome ∧ Succeeds status.taskId.value s w w'
  /-- If the store fails, the fault is reported and nothing happens. -/
  failed : ¬ Succeeds status.taskId.value s w w' →
    (∃ fault, result = .error (.store fault)) ∧ issued = [] ∧ w'.store = w.store
  /-- Otherwise the change has been stored when the report is confirmed. -/
  stored : Succeeds status.taskId.value s w w' → ∃ r?,
    findStored w.framework status.taskId.value w.store Role.all = .ok r? ∧
      Demanded status w.store r? w'.store ∧ issued = confirmations status s w.tally w'.store
  /-- Nothing but the confirmation can fail then. -/
  answered : Succeeds status.taskId.value s w w' → (∀ i ∈ issued, i.delivery = .applied) →
    result = .ok ()

namespace Run

/-! ### Looking for the record -/

theorem load_run (role : Role) (id : String) (s : Surroundings) (w : World) :
    (Records.load role id : Run _) s w =
      match s.readFault w.tally.reads with
      | some reason => (.error (.store (.unavailable reason)), w.afterReads 1)
      | none => (storedAs w.store (Key.task w.framework role id), w.afterReads 1) := by
  have hread : read (fun store => store.get? (Key.task w.framework role id)) s w =
      match s.readFault w.tally.reads with
      | some reason => (.error (.store (.unavailable reason)), w.afterReads 1)
      | none => (.ok (w.store.get? (Key.task w.framework role id)), w.afterReads 1) := by
    simp only [read]
    cases s.readFault w.tally.reads <;> rfl
  cases hfault : s.readFault w.tally.reads with
  | some reason =>
    rw [hfault] at hread
    exact bind_of_error hread _
  | none =>
    rw [hfault] at hread
    refine (bind_of_ok hread _).trans ?_
    dsimp only [storedAs]
    cases w.store.get? (Key.task w.framework role id) with
    | none => rfl
    | some text =>
      dsimp only
      cases (Records.ofStored? text : Option TaskRecord) <;> rfl

/-- A search makes its reads one after the other and ends with the first that fails. -/
theorem findIn_ends (id : String) (roles : List Role) (s : Surroundings) (w : World) :
    ∃ n, Unfailing s w.tally (w.afterReads n).tally ∧
        (Records.findIn id roles : Run _) s w =
          (findStored w.framework id w.store roles, w.afterReads n) ∨
      ¬ Unfailing s w.tally (w.afterReads n).tally ∧ ∃ reason,
        (Records.findIn id roles : Run _) s w =
          (.error (.store (.unavailable reason)), w.afterReads n) := by
  induction roles generalizing w with
  | nil => exact ⟨0, Or.inl ⟨.of_same rfl rfl, rfl⟩⟩
  | cons role roles ih =>
    have hload := load_run role id s w
    unfold Records.findIn findStored
    cases hfault : s.readFault w.tally.reads with
    | some reason =>
      rw [hfault] at hload
      have hfailed : ¬ Unfailing s w.tally (w.afterReads 1).tally :=
        not_unfailing_of_read le_rfl (Nat.lt_succ_self _) hfault
      exact ⟨1, Or.inr ⟨hfailed, reason, bind_of_error hload _⟩⟩
    | none =>
      rw [hfault] at hload
      have hfirst : Unfailing s w.tally (w.afterReads 1).tally := .one_read hfault
      cases hstored : (storedAs w.store (Key.task w.framework role id) :
        Except Fault (Option TaskRecord)) with
      | error e =>
        rw [hstored] at hload
        exact ⟨1, Or.inl ⟨hfirst, bind_of_error hload _⟩⟩
      | ok r? =>
        rw [hstored] at hload
        rw [bind_of_ok hload]
        cases r? with
        | some r => exact ⟨1, Or.inl ⟨hfirst, rfl⟩⟩
        | none =>
          obtain ⟨n, ⟨hrest, hrun⟩ | ⟨hrest, reason, hrun⟩⟩ := ih (w.afterReads 1)
          · rw [World.afterReads_add] at hrest hrun
            exact ⟨1 + n, Or.inl ⟨hfirst.trans hrest, hrun⟩⟩
          · rw [World.afterReads_add] at hrest hrun
            refine ⟨1 + n, Or.inr ⟨fun hall => hrest ?_, reason, hrun⟩⟩
            -- the reads after the first are among all of them
            constructor
            · intro k hle hlt
              exact hall.reads k (Nat.le_of_succ_le hle) hlt
            · exact hall.writes

end Run

/-- A search can only stop at a text that is no record. -/
theorem exists_of_findStored_eq_error {name id : String} {roles : List Role} {e : Fault}
    (h : findStored name id store roles = .error e) : ∃ fault, e = .store fault := by
  induction roles with
  | nil => cases h
  | cons role roles ih =>
    unfold findStored at h
    split at h
    · next he =>
      cases h
      unfold storedAs at he
      split at he
      · cases he
      · split at he
        · cases he
        · cases he
          exact ⟨_, rfl⟩
    · cases h
    · exact ih h

namespace Run

/-! ### Making the change -/

/-- Nothing has happened to the store yet but reads that went well. -/
structure OnlyRead (s : Surroundings) (w w' : World) : Prop where
  moves : Moves w w.store [] w'
  unfailing : Unfailing s w.tally w'.tally
  writes : w'.tally.writes = w.tally.writes
  calls : w'.tally.calls = w.tally.calls

/-- A write that makes the change makes it, or fails and changes nothing. -/
theorem write_applies {α : Type} {f : Memory → α × Memory} {w₁ : World} {r? : Option TaskRecord}
    (hread : OnlyRead s w w₁)
    (hfound : findStored w.framework status.taskId.value w.store Role.all = .ok r?)
    (hdemanded : Demanded status w.store r? (f w.store).2) :
    ∃ (result : Except Fault α) (w' : World), write f s w₁ = (result, w') ∧
      Moves w w'.store [] w' ∧ w'.tally.calls = w.tally.calls ∧
      Application status s w (result.map fun _ => ()) w' := by
  have hwrite := write_run f s w₁
  rw [hread.moves.store] at hwrite
  cases hfault : s.writeFault w₁.tally.writes with
  | some reason =>
    rw [hfault] at hwrite
    refine ⟨_, _, hwrite, hread.moves.andThen (moves_afterWrite ..), hread.calls,
      .unstored (fun h => ?_) rfl⟩
    exact not_unfailing_of_write hread.writes.ge (Nat.lt_succ_self _) hfault h.1
  | none =>
    rw [hfault] at hwrite
    refine ⟨_, _, hwrite, hread.moves.andThen (moves_afterWrite ..), hread.calls, ?_⟩
    exact .stored (hread.unfailing.trans (.one_write hfault _)) hfound hdemanded

/-- The record of a task that has stopped is removed. -/
theorem demanded_ended (hkept : Kept w.framework w.store) {r : TaskRecord} {next : TaskState}
    (hfound : findStored w.framework status.taskId.value w.store Role.all = .ok (some r))
    (hnext : TaskState.ofStatus? status.state = some next) (hlegal : r.state.canBecome next = true)
    (hterminal : next.isTerminal = true) :
    Demanded status w.store (some r) (w.store.erase (Key.task w.framework r.role r.id)) := by
  obtain ⟨role, -, hr⟩ := exists_of_findStored hfound
  obtain ⟨hframework, -, -⟩ := hkept.own hr
  have hkey : r.storeKey = Key.task w.framework r.role r.id := by
    rw [TaskRecord.storeKey, hframework]
  rw [← hkey]
  exact .ended hnext hlegal hterminal

/-- The record of a task that goes on is saved, and can be read again. -/
theorem demanded_advanced {r : TaskRecord} {next : TaskState}
    (hfound : findStored w.framework status.taskId.value w.store Role.all = .ok (some r))
    (hnext : TaskState.ofStatus? status.state = some next) (hlegal : r.state.canBecome next = true)
    (hterminal : next.isTerminal = false) (now : UInt64) :
    Demanded status w.store (some r) (w.store.put (r.advanced next status now)) := by
  obtain ⟨role, -, hr⟩ := exists_of_findStored hfound
  exact .advanced hnext hlegal hterminal (advances_advanced ..)
    (Memory.record?_put_of_found hr _ _ rfl rfl)

/-- **The change that a report demands is made, or an access to the store fails.** -/
theorem applyStatus_ends (hkept : Kept w.framework w.store) (status : TaskStatus)
    (s : Surroundings) :
    ∃ result w', applyStatus status s w = (result, w') ∧ Moves w w'.store [] w' ∧
      w'.tally.calls = w.tally.calls ∧ Application status s w result w' := by
  obtain ⟨n, ⟨hunfailing, hfind⟩ | ⟨hfailed, reason, hfind⟩⟩ :=
    findIn_ends status.taskId.value Role.all s w
  swap
  · refine ⟨_, _, bind_of_error hfind _, moves_afterReads w n, rfl, .unstored ?_ rfl⟩
    exact fun h => hfailed h.1
  have hread : OnlyRead s w (w.afterReads n) := ⟨moves_afterReads w n, hunfailing, rfl, rfl⟩
  cases hfound : findStored w.framework status.taskId.value w.store Role.all with
  | error e =>
    obtain ⟨fault, rfl⟩ := exists_of_findStored_eq_error hfound
    rw [hfound] at hfind
    refine ⟨_, _, bind_of_error hfind _, hread.moves, rfl, .unstored ?_ rfl⟩
    rintro ⟨-, r?, hr?⟩
    rw [hfound] at hr?
    cases hr?
  | ok r? =>
  rw [hfound] at hfind
  have hunchanged : Demanded status w.store r? w.store →
      Application status s w (.ok ()) (w.afterReads n) :=
    fun hdemanded => .stored hunfailing hfound hdemanded
  unfold applyStatus
  rw [bind_of_ok (m := Records.find status.taskId.value) hfind]
  cases r? with
  | none => exact ⟨_, _, rfl, hread.moves, rfl, hunchanged .untracked⟩
  | some r =>
  cases hnext : TaskState.ofStatus? status.state with
  | none => exact ⟨_, _, rfl, hread.moves, rfl, hunchanged (.unmapped hnext)⟩
  | some next =>
  cases hlegal : r.state.canBecome next with
  | false =>
    simp only [hlegal, Bool.not_false, if_true]
    exact ⟨_, _, rfl, hread.moves, rfl, hunchanged (.late hnext hlegal)⟩
  | true =>
  cases hterminal : next.isTerminal with
  | true =>
    simp only [hlegal, hterminal, Bool.not_true, Bool.false_eq_true, if_false, if_true]
    obtain ⟨result, w', hremove, hends⟩ := write_applies hread hfound
      (f := fun store => store.delete (Key.task w.framework r.role r.id))
      (demanded_ended hkept hfound hnext hlegal hterminal)
    refine ⟨_, w', ?_, hends⟩
    cases result with
    | error e => exact bind_of_error (m := Records.remove r.role r.id) hremove _
    | ok there => exact bind_of_ok (m := Records.remove r.role r.id) hremove _
  | false =>
    simp only [hlegal, hterminal, Bool.not_true, Bool.false_eq_true, if_false]
    rw [bind_of_ok now_run]
    have hnow : OnlyRead s w { w.afterReads n with
        tally.times := (w.afterReads n).tally.times + 1 } :=
      ⟨hread.moves.andThen (moves_now rfl), hunfailing.trans (.of_same rfl rfl), rfl, rfl⟩
    obtain ⟨result, w', hsave, hends⟩ := write_applies hnow hfound
      (f := fun store => ((), store.put (r.advanced next status (s.clock w.tally.times))))
      (demanded_advanced hfound hnext hlegal hterminal _)
    refine ⟨_, w', ?_, hends⟩
    cases result with
    | error e => exact hsave
    | ok => exact hsave

/-! ### Confirming the report -/

/-- A report is confirmed, if it can be, with the store as it is. -/
theorem acknowledge_ends (status : TaskStatus) (s : Surroundings) (w : World) :
    ∃ result w', acknowledge status s w = (result, w') ∧
      Moves w w.store (confirmations status s w.tally w.store) w' ∧
      w'.tally.reads = w.tally.reads ∧ w'.tally.writes = w.tally.writes ∧
      ((∀ i ∈ confirmations status s w.tally w.store, i.delivery = .applied) →
        result = .ok ()) := by
  unfold acknowledge confirmations confirmation?
  cases status.agentId with
  | none => exact ⟨_, w, rfl, .refl w, rfl, rfl, fun _ => rfl⟩
  | some agent =>
    cases status.uuid with
    | none => exact ⟨_, w, rfl, .refl w, rfl, rfl, fun _ => rfl⟩
    | some uuid =>
      obtain ⟨delivery, w', rfl, hmoves, hcall⟩ :=
        call_cases (.acknowledging agent status.taskId uuid) s (w := w) rfl
      have htally : ∀ {result}, call (.acknowledging agent status.taskId uuid) s w = (result, w') →
          w'.tally.reads = w.tally.reads ∧ w'.tally.writes = w.tally.writes := by
        intro result hrun
        rw [tally_of_call hrun]
        exact ⟨rfl, rfl⟩
      obtain ⟨-, hrun⟩ | ⟨hrefused, fault, hrun⟩ := hcall
      · exact ⟨_, w', hrun, hmoves, (htally hrun).1, (htally hrun).2, fun _ => rfl⟩
      · refine ⟨_, w', hrun, hmoves, (htally hrun).1, (htally hrun).2, fun happlied => ?_⟩
        exact absurd (happlied _ (List.mem_singleton_self _)) hrefused

/-- **What becomes of a report** in a world whose records lie under their own keys. -/
theorem handleUpdate_ends (hkept : Kept w.framework w.store) (status : TaskStatus)
    (s : Surroundings) :
    ∃ result issued w', handleUpdate status s w = (result, w') ∧
      w'.issued = w.issued ++ issued ∧ Handled status s w result issued w' := by
  -- the lock changes neither the store nor the counts
  let w₀ : World := { w with locks := (w.locks.request status.taskId.value).2 }
  have hrun : ∀ {result w₂},
      (applyStatus status >>= fun _ => acknowledge status) s w₀ = (result, w₂) →
        handleUpdate status s w = (result, { w₂ with
          locks := w₂.locks.release (w.locks.request status.taskId.value).1 }) := by
    intro result w₂ hbody
    have hlock := withLock_run (s := s) (w := w) status.taskId.value
      (applyStatus status >>= fun _ => acknowledge status)
    rw [hbody] at hlock
    exact hlock
  obtain ⟨result, w₁, happly, hmoves, hcalls, happlication⟩ :=
    applyStatus_ends (w := w₀) hkept status s
  cases happlication with
  | unstored failed same =>
    refine ⟨_, [], _, hrun (bind_of_error happly _), hmoves.issued, ?_⟩
    have hfailed : ¬ Succeeds status.taskId.value s w w₁ := failed
    exact {
      others := fun key _ => congrArg (KeyMap.get? · key) same
      confirmed_iff := by
        constructor
        · rintro ⟨i, hi, -⟩
          cases hi
        · rintro ⟨-, -, hsucceeds⟩
          exact absurd hsucceeds hfailed
      failed := fun _ => ⟨⟨_, rfl⟩, rfl, same⟩
      stored := fun hsucceeds => absurd hsucceeds hfailed
      answered := fun hsucceeds => absurd hsucceeds hfailed }
  | @stored r? _ unfailing found demanded =>
    obtain ⟨result, w₂, hack, hmoves', hreads, hwrites, hanswered⟩ := acknowledge_ends status s w₁
    have hsame : confirmations status s w₁.tally w₁.store =
        confirmations status s w.tally w₂.store := by
      unfold confirmations
      rw [hcalls, hmoves'.store]
    rw [hsame] at hmoves' hanswered
    have hissued : w₂.issued = w.issued ++ confirmations status s w.tally w₂.store := by
      rw [hmoves'.issued, hmoves.issued, List.append_nil]
    have hsucceeds : Succeeds status.taskId.value s w w₂ :=
      ⟨unfailing.trans (.of_same hreads hwrites), r?, found⟩
    have hdemanded : Demanded status w.store r? w₂.store := by
      rw [hmoves'.store]
      exact demanded
    refine ⟨_, _, _, hrun ((bind_of_ok happly _).trans hack), hissued, ?_⟩
    exact {
      others := by
        intro key hkey
        refine hdemanded.others fun r hr => ?_
        subst hr
        obtain ⟨role, -, hfound⟩ := exists_of_findStored found
        obtain ⟨-, rfl, -⟩ := hkept.own hfound
        rw [hkept.storeKey hfound]
        exact hkey r found
      confirmed_iff := by
        rw [exists_acknowledge_iff]
        constructor
        · rintro ⟨hagent, huuid⟩
          exact ⟨hagent, huuid, hsucceeds⟩
        · rintro ⟨hagent, huuid, -⟩
          exact ⟨hagent, huuid⟩
      failed := fun hfailed => absurd hsucceeds hfailed
      stored := fun _ => ⟨r?, found, hdemanded, rfl⟩
      answered := fun _ => hanswered }

end Run

/-- **Reports are confirmed once they are stored.** Take any steps that follow a store without
tasks, whatever fails and with whatever valid configurations processes are started, and then any
report, whatever fails while it is taken. No key is changed but that of the task's record. The
report is confirmed if and only if it names both a machine and its own id and every access to the
store succeeded, where a text under the task's key that is no record counts as a failure. If an
access failed, the fault is reported, nothing is confirmed, and the store is as it was. Otherwise
the store holds what the report demands when the report is confirmed: the record is removed, or has
advanced, or is as it was because the task is not known, the report stands for no state, or the task
is further than it says. -/
theorem reports_confirmed_once_stored {s₀ : Surroundings} {cfg : Config}
    (hcfg : cfg.validate = .ok ()) {store : Memory} (nodes : NodeSource) (hplaced : Placed store)
    (hempty : ∀ name role id, store.get? (Key.task name role id) = none) {steps : List Step}
    (hvalid : Step.Valid steps) {w : World} (hw : w = runSteps s₀ (.start cfg store nodes) steps)
    (status : TaskStatus) (s : Surroundings) :
    ∃ result issued w', Run.handleUpdate status s w = (result, w') ∧
      w'.issued = w.issued ++ issued ∧ Handled status s w result issued w' := by
  have hordered : Ordered s₀ w := by
    rw [hw]
    exact (Ordered.start hcfg nodes hplaced hempty).runSteps hvalid
  exact Run.handleUpdate_ends hordered.own.kept status s

/-- A new agent is reported to be running: when this is confirmed, the store knows its address and
its machine. -/
theorem running_agent_confirmed :
    let w := runSteps .calm (.start {} ∅ .stored) [.part (.create .agent {} .fresh [])]
    let status : TaskStatus := ⟨⟨""⟩, "TASK_RUNNING", some ⟨"machine-1"⟩, some "report-1", none,
      none, none, some [⟨none, [⟨some "10.0.0.7"⟩]⟩]⟩
    ∃ w' r, Run.handleUpdate status .calm w = (.ok (), w') ∧
      w'.issued = [⟨.acknowledging ⟨"machine-1"⟩ ⟨""⟩ "report-1", .applied, w'.store⟩] ∧
      w'.store.record? (Key.task w.framework .agent "") = some r ∧ r.state = .running ∧
      r.address = some "10.0.0.7" ∧ r.agentId = some "machine-1" := by
  have hcfg : ({} : Config).validate = .ok () := by decide +kernel
  have hvalid : Step.Valid [.part (.create .agent {} .fresh [])] := by
    intro step hstep cfg hmem
    rw [List.mem_singleton.1 hstep] at hmem
    rw [List.mem_singleton.1 hmem]
    exact hcfg
  -- the record of the agent is the only one
  obtain ⟨r, hstarted, -, hfinite, hcreate⟩ := createRecord_calm (.start {} ∅ .stored)
  obtain ⟨w, hw⟩ : ∃ w, runSteps .calm (.start {} ∅ .stored)
      [.part (.create .agent {} .fresh [])] = w := ⟨_, rfl⟩
  have hw₀ : w = ((World.start {} ∅ .stored).afterDraw).afterWrite ((∅ : Memory).put r) :=
    hw.symm.trans (congrArg Prod.snd hcreate)
  have hstore : w.store = (∅ : Memory).put r := by rw [hw₀]; rfl
  have hissued : w.issued = [] := by rw [hw₀]; rfl
  have hkey : r.storeKey = Key.task w.framework .agent "" := by
    rw [hw₀]
    exact hstarted.storeKey
  have hrecord : w.store.record? (Key.task w.framework .agent "") = some r := by
    rw [← hkey, hstore]
    exact Memory.record?_put_of_finite _ hfinite
  have hothers : ∀ other, other ≠ Role.agent →
      w.store.get? (Key.task w.framework other "") = none := by
    intro other hother
    rw [hstore, Memory.put, hkey]
    exact KeyMap.get?_insert_of_ne fun heq => hother (Key.task_inj heq).1
  have hfound : findStored w.framework "" w.store Role.all = .ok (some r) := by
    rw [findStored_eq_storedAs (by decide) hothers]
    exact storedAs_eq_some_iff.2 hrecord
  rw [hw]
  intro _ status
  obtain ⟨result, issued, w', hrun, hmade, hhandled⟩ :=
    reports_confirmed_once_stored hcfg .stored placed_empty (fun _ _ _ => rfl) hvalid hw.symm status
      .calm
  have hsucceeds : Succeeds "" .calm w w' :=
    ⟨⟨fun _ _ _ => rfl, fun _ _ _ => rfl⟩, _, hfound⟩
  obtain ⟨r?, hr?, hdemanded, rfl⟩ := hhandled.stored hsucceeds
  obtain rfl : some r = r? := Except.ok.inj (hfound.symm.trans hr?)
  have hok : result = .ok () := by
    apply hhandled.answered hsucceeds
    intro i hi
    rw [List.mem_singleton.1 hi]
    rfl
  have hlegal : r.state.canBecome .running = true := by
    rw [hstarted.state]
    rfl
  obtain ⟨r', hadvances, hfinal⟩ := hdemanded.exists_advances (by decide +kernel) hlegal rfl
  rw [hkey] at hfinal
  refine ⟨w', _, ?_, ?_, hfinal, hadvances.state, ?_, ?_⟩
  · rw [hrun, hok]
  · rw [hmade, hissued]
    rfl
  · exact hadvances.address _ rfl rfl
  · exact hadvances.agentId hstarted.agentId

end Stevedore.Scheduling
