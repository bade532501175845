import Stevedore.Proofs.Unhindered
import Stevedore.Proofs.Upkeep

/-!
# What is carried through where the store never fails

Where the store never fails, no listed task is left unset when tasks have been made eligible, and no
record is left of a task that was retired.
-/

namespace Stevedore.Scheduling

open Store (Memory)

variable {name : String} {store store' : Memory} {s : Surroundings} {w : World}

/-- Surroundings in which the store never fails. -/
structure Surroundings.Steady (s : Surroundings) : Prop where
  reads : ∀ k, s.readFault k = none
  writes : ∀ k, s.writeFault k = none

theorem Surroundings.Clear.steady {delivery : Delivery} (h : s.Clear delivery) : s.Steady :=
  ⟨h.reads, h.writes⟩

/-! ### Candidates -/

/-- If there is a text under a candidate's key, it is a record. -/
def LegibleAt (name : String) (store : Memory) (candidate : TaskRecord) : Prop :=
  (store.get? (Key.task name candidate.role candidate.id)).isSome →
    (store.record? (Key.task name candidate.role candidate.id)).isSome

/-- No record of an unset task lies under a candidate's key. -/
def Settled (name : String) (store : Memory) (candidate : TaskRecord) : Prop :=
  ∀ r, store.record? (Key.task name candidate.role candidate.id) = some r → r.state ≠ .unset

/-- Nothing lies under a candidate's key. -/
def Absent (name : String) (store : Memory) (candidate : TaskRecord) : Prop :=
  store.get? (Key.task name candidate.role candidate.id) = none

theorem legibleAt_of_mem (hkept : Kept name store) {r : TaskRecord}
    (h : r ∈ store.records name) : LegibleAt name store r := by
  obtain ⟨role, id, hr⟩ := Memory.mem_records_iff.1 h
  obtain ⟨-, hrole, hid⟩ := hkept.own hr
  intro _
  rw [hrole, hid, hr]
  rfl

namespace Upkeep

variable {candidate : TaskRecord}

theorem legibleAt (h : Upkeep name store store') (hlegible : LegibleAt name store candidate) :
    LegibleAt name store' candidate :=
  fun hpresent => h.legible (hlegible (h.present hpresent)) hpresent

theorem settled (h : Upkeep name store store') (hsettled : Settled name store candidate) :
    Settled name store' candidate := by
  intro r' hr' hunset
  obtain ⟨r, hr, hfollows⟩ := h.follows hr'
  have hrank := hfollows.rank
  rw [hunset] at hrank
  have hstate : r.state = .unset := by
    cases hstate : r.state <;> simp [hstate, TaskState.rank] at hrank ⊢
  exact hsettled r hr hstate

theorem absent (h : Upkeep name store store') (habsent : Absent name store candidate) :
    Absent name store' candidate := by
  unfold Absent at habsent ⊢
  rw [← Option.not_isSome_iff_eq_none] at habsent ⊢
  exact fun hpresent => habsent (h.present hpresent)

end Upkeep

namespace Run

theorem load_steady (hsteady : s.Steady) {candidate : TaskRecord}
    (hlegible : LegibleAt w.framework w.store candidate) :
    ∃ n, (Records.load candidate.role candidate.id : Run _) s w =
      (.ok (w.store.record? (Key.task w.framework candidate.role candidate.id)),
        w.afterReads n) := by
  obtain ⟨n, hload⟩ := (looks_load candidate.role candidate.id).run hsteady.reads w
  refine ⟨n, hload.trans (congrArg (·, _) ?_)⟩
  unfold LegibleAt Memory.record? at hlegible
  unfold storedAs Memory.record?
  cases hget : w.store.get? (Key.task w.framework candidate.role candidate.id) with
  | none => rfl
  | some text =>
    rw [hget, Option.bind_some] at hlegible
    obtain ⟨r, hr⟩ := Option.isSome_iff_exists.1 (hlegible rfl)
    simp only [Option.bind_some, hr]

theorem write_steady (hsteady : s.Steady) {α : Type} (f : Memory → α × Memory) (w : World) :
    ∃ w', write f s w = (.ok (f w.store).1, w') ∧ Moves w (f w.store).2 [] w' := by
  obtain ⟨w', hok | ⟨reason, hfault, -⟩⟩ := write_cases f s w
  · exact ⟨w', hok⟩
  · have hwrite := write_run f s w
    rw [hsteady.writes, hfault] at hwrite
    cases hwrite

theorem save_steady (hsteady : s.Steady) (r : TaskRecord) (hstore : w.store = store) :
    ∃ w', (Records.save r : Run _) s w = (.ok (), w') ∧ Moves w (store.put r) [] w' := by
  subst hstore
  exact write_steady hsteady (fun store => ((), store.put r)) w

theorem remove_steady (hsteady : s.Steady) (role : Role) (id : String) (w : World) :
    ∃ b w', (Records.remove role id : Run _) s w = (.ok b, w') ∧
      Moves w (w.store.erase (Key.task w.framework role id)) [] w' := by
  obtain ⟨w', hwrite, hmoves⟩ :=
    write_steady hsteady (fun store => store.delete (Key.task w.framework role id)) w
  exact ⟨_, w', hwrite, hmoves⟩

/-! ### Making tasks eligible -/

/-- A candidate is left settled, and nothing changes if it was. -/
theorem promoteOne_steady (hsteady : s.Steady) (hkept : Kept w.framework w.store)
    {candidate : TaskRecord} (hlegible : LegibleAt w.framework w.store candidate) :
    ∃ promoted w', promoteOne candidate s w = (.ok promoted, w') ∧ Moves w w'.store [] w' ∧
      Upkeep w.framework w.store w'.store ∧ Settled w.framework w'.store candidate ∧
      (promoted = false → w'.store = w.store) := by
  have hbody : ∃ result store issued w', promoteOne candidate s w = (result, w') ∧
      Moves w store issued w' ∧ ∃ promoted, result = .ok promoted ∧ issued = [] ∧
        Upkeep w.framework w.store store ∧ Settled w.framework store candidate ∧
        (promoted = false → store = w.store) := by
    refine withLock_of candidate.id fun w₀ hlock => ?_
    rw [← hlock.framework, ← hlock.store] at hlegible
    obtain ⟨n, hload⟩ := load_steady hsteady hlegible
    rw [hlock.framework, hlock.store] at hload
    rw [bind_of_ok hload]
    have hread := moves_afterReads w₀ n
    cases hfound : w.store.record? (Key.task w.framework candidate.role candidate.id) with
    | none =>
      refine ⟨_, _, _, _, rfl, hread, false, rfl, rfl, ?_⟩
      rw [hlock.store]
      exact ⟨.refl _ _, fun r hr => absurd (hfound.symm.trans hr) (by simp), fun _ => rfl⟩
    | some r =>
      by_cases hunset : r.state = .unset
      · simp only [hunset, if_true]
        rw [bind_of_ok now_run]
        have hnow := hread.andThen (moves_now hread.store)
        obtain ⟨w₁, hsave, hsaved⟩ := save_steady hsteady
          (promoted r (s.clock (w₀.afterReads n).tally.times)) hnow.store
        refine ⟨_, _, _, w₁, bind_of_ok hsave _, hnow.andThen hsaved, true, rfl, rfl, ?_, ?_, nofun⟩
        · rw [hlock.store]
          exact .put (fun _ _ => rfl) hfound (hkept.storeKey hfound) (follows_promoted hunset _)
            rfl rfl
        · intro x hx
          have hkey : (promoted r (s.clock (w₀.afterReads n).tally.times)).storeKey = r.storeKey :=
            rfl
          rw [← hkept.storeKey hfound, ← hkey, Memory.record?_put_self] at hx
          obtain rfl := Records.eq_of_ofStored?_render hx
          exact fun hstate => TaskState.noConfusion hstate
      · simp only [hunset, if_false]
        refine ⟨_, _, _, _, rfl, hread, false, rfl, rfl, ?_⟩
        rw [hlock.store]
        refine ⟨.refl _ _, fun x hx => ?_, fun _ => rfl⟩
        rw [hfound] at hx
        cases hx
        exact hunset
  obtain ⟨_, store, _, w', hrun, hmoves, promoted, rfl, rfl, hdone⟩ := hbody
  rw [← hmoves.store] at hdone hmoves
  exact ⟨promoted, w', hrun, hmoves, hdone⟩

/-- **All candidates are left settled**, and nothing changes if no promotion is counted. -/
theorem promoteEach_steady (hsteady : s.Steady) {candidates : List TaskRecord}
    (hkept : Kept w.framework w.store)
    (hlegible : ∀ r ∈ candidates, LegibleAt w.framework w.store r) :
    ∃ n w', promoteEach candidates s w = (.ok n, w') ∧ Moves w w'.store [] w' ∧
      Upkeep w.framework w.store w'.store ∧
      (∀ r ∈ candidates, Settled w.framework w'.store r) ∧ (n = 0 → w'.store = w.store) := by
  induction candidates generalizing w with
  | nil => exact ⟨0, w, rfl, .refl w, .refl _ _, fun _ hr => absurd hr List.not_mem_nil,
      fun _ => rfl⟩
  | cons candidate rest ih =>
    obtain ⟨promoted, w₁, hrun, hmoves, hupkeep, hsettled, hsame⟩ :=
      promoteOne_steady hsteady hkept (hlegible candidate List.mem_cons_self)
    have hkept₁ := hupkeep.kept hkept
    have hlegible₁ : ∀ r ∈ rest, LegibleAt w.framework w₁.store r :=
      fun r hr => hupkeep.legibleAt (hlegible r (List.mem_cons_of_mem candidate hr))
    rw [← hmoves.framework] at hkept₁ hlegible₁
    obtain ⟨n, w₂, hrest, hmoves', hupkeep', hsettled', hsame'⟩ := ih hkept₁ hlegible₁
    rw [hmoves.framework] at hupkeep' hsettled'
    refine ⟨if promoted then n + 1 else n, w₂, ?_, hmoves.trans hmoves', hupkeep.trans hupkeep',
      fun r hr => ?_, fun hzero => ?_⟩
    · exact (bind_of_ok hrun _).trans (bind_of_ok hrest _)
    · rcases List.mem_cons.1 hr with rfl | hr
      · exact hupkeep'.settled hsettled
      · exact hsettled' r hr
    · cases promoted with
      | true => cases hzero
      | false => exact (hsame' hzero).trans (hsame rfl)

/-- **No listed task is left unset**, and nothing changes if no promotion is counted. If any is,
offers are asked for. -/
theorem promoteUnset_steady (hsteady : s.Steady) (hkept : Kept w.framework w.store) :
    ∃ n w', Moves w w'.store [] w' ∧ Upkeep w.framework w.store w'.store ∧
      (∀ r ∈ w'.store.records w.framework, r.state ≠ .unset) ∧
      (n = 0 ∧ w'.store = w.store ∧ promoteUnset s w = (.ok 0, w') ∨
        n ≠ 0 ∧ promoteUnset s w = (revive >>= fun _ => pure n) s w') := by
  obtain ⟨k, hlist⟩ := looks_listAll.run hsteady.reads w
  have hlegible : ∀ r ∈ (w.store.records w.framework).filter fun r => r.state = .unset,
      LegibleAt w.framework w.store r :=
    fun r hr => legibleAt_of_mem hkept (List.mem_of_mem_filter hr)
  obtain ⟨n, w', hrun, hmoves, hupkeep, hsettled, hsame⟩ :=
    promoteEach_steady (w := w.afterReads k) hsteady hkept hlegible
  have hpromote : promoteUnset s w = _ := (bind_of_ok hlist _).trans (bind_of_ok hrun _)
  refine ⟨n, w', (moves_afterReads w k).andThen hmoves, hupkeep, fun r' hr' => ?_, ?_⟩
  · obtain ⟨role, id, hr'⟩ := Memory.mem_records_iff.1 hr'
    obtain ⟨r, hr, -⟩ := hupkeep.follows hr'
    obtain ⟨-, hrole, hid⟩ := hkept.own hr
    have hdone : Settled w.framework w'.store r := by
      by_cases hunset : r.state = .unset
      · refine hsettled r (List.mem_filter.2 ⟨?_, decide_eq_true hunset⟩)
        exact Memory.mem_records_iff.2 ⟨role, id, hr⟩
      · refine hupkeep.settled fun x hx => ?_
        rw [hrole, hid] at hx
        rw [Option.some.inj (hx.symm.trans hr)]
        exact hunset
    exact hdone r' (by rw [hrole, hid]; exact hr')
  · cases n with
    | zero => exact Or.inl ⟨rfl, hsame rfl, hpromote⟩
    | succ n => exact Or.inr ⟨Nat.succ_ne_zero n, hpromote⟩

/-- Where no listed task is unset, nothing is done. -/
theorem promoteUnset_of_settled (hreads : ∀ k, s.readFault k = none)
    (hsettled : ∀ r ∈ w.store.records w.framework, r.state ≠ .unset) :
    ∃ n, promoteUnset s w = (.ok 0, w.afterReads n) := by
  obtain ⟨n, hlist⟩ := looks_listAll.run hreads w
  have hnone : (w.store.records w.framework).filter (fun r => r.state = .unset) = [] := by
    rw [List.filter_eq_nil_iff]
    intro r hr
    simpa using hsettled r hr
  refine ⟨n, (bind_of_ok hlist _).trans ?_⟩
  rw [hnone]
  rfl

/-! ### Retiring tasks -/

/-- Nothing is left under a candidate's key if the manager takes the call to stop the task. -/
theorem retire_clear (hclear : s.Clear .applied) (hkept : Kept w.framework w.store)
    {candidate : TaskRecord} (hlegible : LegibleAt w.framework w.store candidate) :
    ∃ b issued w', retire candidate s w = (.ok b, w') ∧ Moves w w'.store issued w' ∧
      Upkeep w.framework w.store w'.store ∧ Absent w.framework w'.store candidate := by
  have hbody : ∃ result store issued w', retire candidate s w = (result, w') ∧
      Moves w store issued w' ∧ (∃ b, result = .ok b) ∧
        Upkeep w.framework w.store store ∧ Absent w.framework store candidate := by
    refine withLock_of candidate.id fun w₀ hlock => ?_
    rw [← hlock.framework, ← hlock.store] at hlegible
    obtain ⟨n, hload⟩ := load_steady hclear.steady hlegible
    rw [hlock.framework, hlock.store] at hload hlegible
    rw [bind_of_ok hload]
    have hread := moves_afterReads w₀ n
    cases hfound : w.store.record? (Key.task w.framework candidate.role candidate.id) with
    | none =>
      refine ⟨_, _, _, _, rfl, hread, ⟨false, rfl⟩, ?_⟩
      rw [hlock.store]
      refine ⟨.refl _ _, ?_⟩
      unfold LegibleAt at hlegible
      rw [hfound] at hlegible
      exact Option.not_isSome_iff_eq_none.1 fun hpresent => absurd (hlegible hpresent) (by simp)
    | some r =>
      obtain ⟨-, hrole, hid⟩ := hkept.own hfound
      have hremove : ∀ {issued w₁}, Moves w₀ w₀.store issued w₁ →
          ∃ b w₂, (Records.remove r.role r.id : Run _) s w₁ = (.ok b, w₂) ∧
            Moves w₀ (w.store.erase (Key.task w.framework candidate.role candidate.id)) issued
              w₂ := by
        intro issued w₁ hmoves
        obtain ⟨b, w₂, hrun, hmoves'⟩ := remove_steady hclear.steady r.role r.id w₁
        rw [hrole, hid, hmoves.framework, hmoves.store, hlock.framework, hlock.store] at hmoves'
        have hall := hmoves.trans hmoves'
        rw [List.append_nil] at hall
        exact ⟨b, w₂, hrun, hall⟩
      have hgone : Upkeep w.framework w.store
            (w.store.erase (Key.task w.framework candidate.role candidate.id)) ∧
          Absent w.framework
            (w.store.erase (Key.task w.framework candidate.role candidate.id)) candidate :=
        ⟨.erase _ _ _, KeyMap.get?_erase_self ..⟩
      by_cases hlaunched : r.state.isLaunched
      · simp only [hlaunched, if_true]
        obtain ⟨delivery, w₁, hdelivery, hkilled, hcall⟩ :=
          call_cases (.killing ⟨r.id⟩ (r.agentId.map Manager.Id.mk)) s hread.store
        rw [hclear.calls] at hdelivery
        subst hdelivery
        obtain ⟨-, hkill⟩ := hcall.resolve_right fun hfailed => hfailed.1 rfl
        obtain ⟨b, w₂, hrun, hmoves⟩ := hremove (hread.andThen hkilled)
        exact ⟨_, _, _, w₂, (bind_of_ok (m := killTask r) hkill _).trans hrun, hmoves, ⟨b, rfl⟩,
          hgone⟩
      · simp only [hlaunched]
        obtain ⟨b, w₁, hrun, hmoves⟩ := hremove hread
        exact ⟨_, _, _, w₁, hrun, hmoves, ⟨b, rfl⟩, hgone⟩
  obtain ⟨_, store, issued, w', hrun, hmoves, ⟨b, rfl⟩, hdone⟩ := hbody
  rw [← hmoves.store] at hdone hmoves
  exact ⟨b, issued, w', hrun, hmoves, hdone⟩

/-- **Nothing is left of any candidate.** -/
theorem retireEach_clear (hclear : s.Clear .applied) {candidates : List TaskRecord}
    (hkept : Kept w.framework w.store)
    (hlegible : ∀ r ∈ candidates, LegibleAt w.framework w.store r) :
    ∃ n issued w', retireEach candidates s w = (.ok n, w') ∧ Moves w w'.store issued w' ∧
      Upkeep w.framework w.store w'.store ∧ ∀ r ∈ candidates, Absent w.framework w'.store r := by
  induction candidates generalizing w with
  | nil => exact ⟨0, [], w, rfl, .refl w, .refl _ _,
      fun _ hr => absurd hr List.not_mem_nil⟩
  | cons candidate rest ih =>
    obtain ⟨b, issued, w₁, hrun, hmoves, hupkeep, habsent⟩ :=
      retire_clear hclear hkept (hlegible candidate List.mem_cons_self)
    have hkept₁ := hupkeep.kept hkept
    have hlegible₁ : ∀ r ∈ rest, LegibleAt w.framework w₁.store r :=
      fun r hr => hupkeep.legibleAt (hlegible r (List.mem_cons_of_mem candidate hr))
    rw [← hmoves.framework] at hkept₁ hlegible₁
    obtain ⟨n, issued', w₂, hrest, hmoves', hupkeep', habsent'⟩ := ih hkept₁ hlegible₁
    rw [hmoves.framework] at hupkeep' habsent'
    refine ⟨_, _, w₂, (bind_of_ok hrun _).trans (bind_of_ok hrest _), hmoves.trans hmoves',
      hupkeep.trans hupkeep', fun r hr => ?_⟩
    rcases List.mem_cons.1 hr with rfl | hr
    · exact hupkeep'.absent habsent
    · exact habsent' r hr

end Run

end Stevedore.Scheduling
