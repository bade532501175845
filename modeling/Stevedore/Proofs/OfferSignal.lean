import Stevedore.Proofs.LaunchOnce
import Stevedore.Proofs.OfferAccounting
import Stevedore.Proofs.Provision

/-!
# The signal to hold offers back

The process remembers whether it has asked the manager to hold offers back. After every operation
that ends by looking at the records, this signal is set exactly when no task waits for an offer. A
cycle does not set it while records have just been created; that this makes no difference rests on
every created record being stored, read again, and made eligible without a loss.
-/

namespace Stevedore.Scheduling

open Manager (Call Event Id Offer TaskStatus)
open Store (Memory)

variable {s : Surroundings} {w w' : World}

/-! ### Evaluations -/

namespace World

/-- Whether a task waits for an offer. -/
def isPending (w : World) : Bool :=
  (w.store.records w.framework).any (·.state.isPending)

/-- Offers are held back exactly when no task waits for one. -/
def Tracks (w : World) : Prop :=
  w.suppressed = true ↔
    ∀ r ∈ w.store.records w.framework, r.state ≠ .unset ∧ r.state ≠ .new

theorem isPending_eq_false_iff :
    w.isPending = false ↔ ∀ r ∈ w.store.records w.framework, r.state ≠ .unset ∧ r.state ≠ .new := by
  have hstate : ∀ state : TaskState,
      state.isPending = true ↔ ¬ (state ≠ .unset ∧ state ≠ .new) := by
    intro state
    cases state <;> decide
  unfold isPending
  rw [List.any_eq_false]
  simp only [hstate, not_not]

theorem tracks_iff : w.Tracks ↔ w.suppressed = !w.isPending := by
  unfold Tracks
  rw [← isPending_eq_false_iff]
  cases w.suppressed <;> cases w.isPending <;> decide

/-- The call that changes the signal. -/
def turning (w : World) : Call :=
  if w.suppressed then .reviving else .suppressing

/-- Whether the signal has to change: offers are held back from a task that waits for one, or are
not held back although no task waits for one or is about to. -/
def IsDue (created : Bool) (w : World) : Prop :=
  w.isPending = w.suppressed ∧ (created = true → w.suppressed = true)

instance (created : Bool) (w : World) : Decidable (w.IsDue created) :=
  inferInstanceAs (Decidable (_ ∧ _))

end World

/-- An evaluation does not see the records because a read fails, leaves a signal that is right,
changes one that is not, or fails to. -/
inductive Evaluation (s : Surroundings) (created : Bool) (w : World) :
    Except Fault Bool → World → Prop
  | unseen {e} (n : Nat) (fault : ∃ k reason, s.readFault k = some reason) :
      Evaluation s created w (.error e) (w.afterReads n)
  | right (n : Nat) (h : ¬ w.IsDue created) :
      Evaluation s created w (.ok w.suppressed) (w.afterReads n)
  | turned {w₁} (due : w.IsDue created)
      (moves : Run.Moves w w.store [⟨w.turning, .applied, w.store⟩] w₁) :
      Evaluation s created w (.ok !w.suppressed) { w₁ with suppressed := !w.suppressed }
  | failed {e delivery w₁} (due : w.IsDue created) (failed : delivery ≠ .applied)
      (delivered : ∃ n, s.delivery n w.turning = delivery)
      (moves : Run.Moves w w.store [⟨w.turning, delivery, w.store⟩] w₁) :
      Evaluation s created w (.error e) w₁

/-- **What an evaluation does.** -/
theorem evaluation_evaluate (created : Bool) (s : Surroundings) (w : World) :
    Evaluation s created w (Run.evaluate created s w).1 (Run.evaluate created s w).2 := by
  rw [Run.evaluate_eq]
  rcases Run.looks_listAll.bind_cases _ s w with
    ⟨e, n, hrun, hfault⟩ | ⟨records, n, hrun, hrecords⟩
  · rw [hrun]
    exact .unseen n (hfault.resolve_right nofun)
  cases hrecords
  rw [hrun, Run.bind_of_ok (Run.look_run _)]
  have hpending : (w.store.records w.framework).any (·.state.isPending) = w.isPending := rfl
  have hsuppressed : (w.afterReads n).suppressed = w.suppressed := rfl
  rw [hpending, hsuppressed]
  by_cases hdue : w.IsDue created
  · have hsay : (if w.isPending && w.suppressed then Run.revive
        else if !w.isPending && !created && !w.suppressed then Run.hold else pure ()) =
          Run.say w.turning (!w.suppressed) := by
      obtain ⟨hpending, hcreated⟩ := hdue
      rw [hpending, World.turning]
      cases hsup : w.suppressed with
      | true => rfl
      | false =>
        rw [hsup] at hcreated
        cases created with
        | true => exact absurd (hcreated rfl) (by decide)
        | false => rfl
    rw [hsay]
    obtain ⟨delivery, w', hdelivery, hmoves, ⟨rfl, hrun⟩ | ⟨hfailed, e, hrun⟩⟩ :=
      Run.say_cases w.turning (!w.suppressed) s (w.afterReads n)
    · rw [Run.bind_of_ok hrun]
      exact .turned hdue ((Run.moves_afterReads w n).andThen hmoves)
    · rw [Run.bind_of_error hrun]
      exact .failed hdue hfailed ⟨_, hdelivery.symm⟩ ((Run.moves_afterReads w n).andThen hmoves)
  · have hnothing : (if w.isPending && w.suppressed then Run.revive
        else if !w.isPending && !created && !w.suppressed then Run.hold else pure ()) =
          pure () := by
      unfold World.IsDue at hdue
      cases hpen : w.isPending <;> cases hsup : w.suppressed <;> cases created <;>
        simp [hpen, hsup] at hdue ⊢
    rw [hnothing]
    exact .right n hdue

/-- Where the store can be read, an evaluation leaves a signal alone that has not to change. -/
theorem evaluate_of_not_isDue {created : Bool} (hreads : ∀ k, s.readFault k = none)
    (hdue : ¬ w.IsDue created) :
    ∃ n, Run.evaluate created s w = (.ok w.suppressed, w.afterReads n) := by
  have h := evaluation_evaluate created s w
  generalize Run.evaluate created s w = ended at h ⊢
  obtain ⟨result, w'⟩ := ended
  cases h with
  | unseen n fault =>
    obtain ⟨k, reason, hfault⟩ := fault
    rw [hreads k] at hfault
    cases hfault
  | right n => exact ⟨n, rfl⟩
  | turned due => exact absurd due hdue
  | failed due => exact absurd due hdue

namespace Evaluation

variable {created : Bool} {result : Except Fault Bool}

theorem store (h : Evaluation s created w result w') : w'.store = w.store := by
  cases h with
  | unseen => rfl
  | right => rfl
  | turned _ moves => exact moves.store
  | failed _ _ _ moves => exact moves.store

theorem framework (h : Evaluation s created w result w') : w'.framework = w.framework := by
  cases h with
  | unseen => rfl
  | right => rfl
  | turned _ moves => exact moves.framework
  | failed _ _ _ moves => exact moves.framework

theorem isPending (h : Evaluation s created w result w') : w'.isPending = w.isPending := by
  rw [World.isPending, h.store, h.framework, World.isPending]

/-- An evaluation that ends well leaves the signal right, unless tasks are about to wait. -/
theorem not_isDue {b : Bool} (h : Evaluation s created w (.ok b) w') : ¬ w'.IsDue created := by
  unfold World.IsDue
  rw [h.isPending]
  cases h with
  | right n h => exact h
  | turned due =>
    rintro ⟨hpending, -⟩
    rw [due.1] at hpending
    simp at hpending

/-- Where an evaluation ends well, the signal tracks the records if some task waits whenever records
have just been created. -/
theorem tracks {b : Bool} (h : Evaluation s created w (.ok b) w')
    (hcreated : created = true → w.isPending = true) : w'.Tracks := by
  rw [World.tracks_iff]
  by_contra hwrong
  rw [Bool.eq_not, not_not] at hwrong
  refine h.not_isDue ⟨hwrong.symm, fun htrue => ?_⟩
  rw [hwrong, h.isPending]
  exact hcreated htrue

/-- Where an evaluation ends well, offers are not held back from a task that waits for one. -/
theorem not_suppressed {b : Bool} (h : Evaluation s created w (.ok b) w')
    (hpending : w'.isPending = true) : w'.suppressed = false := by
  by_contra hsuppressed
  rw [Bool.not_eq_false] at hsuppressed
  exact h.not_isDue ⟨hpending.trans hsuppressed.symm, fun _ => hsuppressed⟩

end Evaluation

/-! ### Tasks that wait -/

/-- The record under a key waits for an offer. -/
def PendingAt (store : Memory) (key : String) : Prop :=
  ∃ r, store.record? key = some r ∧ r.state.isPending = true

theorem PendingAt.isPending {role : Role} {id : String}
    (h : PendingAt w.store (Key.task w.framework role id)) : w.isPending = true := by
  obtain ⟨r, hr, hpending⟩ := h
  exact List.any_eq_true.2 ⟨r, Memory.mem_records_iff.2 ⟨role, id, hr⟩, hpending⟩

theorem PendingAt.length_pos {name : String} {store : Memory} {role : Role} {id : String}
    (h : PendingAt store (Key.task name role id)) : 0 < (store.roleRecords name role).length := by
  obtain ⟨r, hr, -⟩ := h
  exact List.length_pos_of_mem (Memory.mem_roleRecords_iff.2 ⟨id, hr⟩)

/-- A task that waits for an offer still does when tasks are made eligible. -/
theorem Promotion.pendingAt {candidate : TaskRecord} {name : String} {store store' : Memory}
    {result : Except Fault Bool} {issued : List Issue}
    (h : Promotion candidate name store result store' issued) {key : String}
    (hkey : PendingAt store key) : PendingAt store' key := by
  cases h with
  | idle => exact hkey
  | @done r now found wanted =>
    by_cases heq : key = (promoted r now).storeKey
    · rw [heq]
      exact ⟨promoted r now, Memory.record?_put_of_found found store _ rfl rfl, rfl⟩
    · obtain ⟨x, hx, hpending⟩ := hkey
      refine ⟨x, ?_, hpending⟩
      rw [Memory.record?_put_of_ne heq]
      exact hx

theorem pendingAt_promoteEach {key : String} (records : List TaskRecord) (s : Surroundings)
    (w : World) (hkey : PendingAt w.store key) :
    PendingAt (Run.promoteEach records s w).2.store key := by
  induction records generalizing w with
  | nil => exact hkey
  | cons r rest ih =>
    refine Run.bind_keeps (P := fun w => PendingAt w.store key) ?_ fun promoted w' hkey => ?_
    · obtain ⟨result, store, issued, w', hrun, hmoves, hpromotion⟩ := Run.does_promoteOne r s w
      rw [hrun, hmoves.store]
      exact hpromotion.pendingAt hkey
    · exact Run.bind_keeps (P := fun w => PendingAt w.store key) (ih w' hkey) fun _ _ => id

theorem pendingAt_promoteUnset {key : String} (s : Surroundings) (w : World)
    (hkey : PendingAt w.store key) : PendingAt (Run.promoteUnset s w).2.store key := by
  refine Run.bind_keeps (P := fun w => PendingAt w.store key) ?_ fun records w₁ hkey => ?_
  · rw [(Run.looks_listAll.moves s w).store]
    exact hkey
  refine Run.bind_keeps (P := fun w => PendingAt w.store key) (pendingAt_promoteEach _ s w₁ hkey)
    fun promoted w₂ hkey => ?_
  dsimp only
  split
  · obtain ⟨delivery, w', -, hmoves, ⟨-, hrun⟩ | ⟨-, e, hrun⟩⟩ := Run.say_cases .reviving false s w₂
    · rw [Run.bind_of_ok (m := Run.revive) hrun]
      exact hmoves.store.symm ▸ hkey
    · rw [Run.bind_of_error (m := Run.revive) hrun]
      exact hmoves.store.symm ▸ hkey
  · exact hkey

/-- The record of a task that was added waits for an offer if its amounts are finite. -/
theorem Adds.pendingAt {records : List TaskRecord} (h : Adds w records w') {r : TaskRecord}
    (hr : r ∈ records) (hframework : r.framework = w.framework) (hfinite : r.Finite)
    (hpending : r.state.isPending = true) :
    PendingAt w'.store (Key.task w.framework r.role r.id) := by
  rw [← hframework]
  exact ⟨r, h.record?_of_mem hr hfinite, hpending⟩

/-- A configuration by which a datastore is wanted and can be stored. -/
structure Feasible (cfg : Config) : Prop where
  finite : cfg.Finite
  wanted : 0 < (cfg.desired .datastore).toNat
  port : cfg.datastorePort?.isSome
  ports : cfg.scheduler.portRangeStart.toNat < cfg.scheduler.portRangeEnd.toNat

/-- Where there are no records, a tick makes a datastore wait for an offer. -/
theorem tick_of_no_records {base : Config} (hbase : Feasible base)
    (hname : base.framework.name = w.framework) (hreads : ∀ k, s.readFault k = none)
    (hwrites : ∀ k, s.writeFault k = none) (hreadable : Readable w.framework w.store)
    (hnone : w.store.records w.framework = []) :
    ∃ settings identity report w' id, Run.tick base s w = (.ok report, w') ∧
      Adds w (newRecords base s w settings identity) w' ∧
      PendingAt w'.store (Key.task w.framework .datastore id) := by
  obtain ⟨settings, identity, report, w', htick, -, hadds, -⟩ :=
    tick_of_readable hname hreads hreadable
  obtain ⟨r, hr, hrole, -⟩ : ∃ r ∈ newRecords base s w settings identity,
      r.role = .datastore ∧ r.id = s.taskId w.tally.ids := by
    refine exists_datastore_mem_newRecords ?_ hbase.port ?_ (hwrites _)
    · rw [hnone]
      exact hbase.wanted
    · rw [hnone]
      exact hbase.ports
  have hnew := provided_of_mem hr
  have hpending := hadds.pendingAt hr (hnew.framework.trans hname) (hnew.finite hbase.finite)
    (by rw [hnew.state]; rfl)
  rw [hrole] at hpending
  exact ⟨settings, identity, report, w', r.id, htick, hadds, hpending⟩

/-- Some record waits for an offer after a tick that has created any. -/
theorem exists_pendingAt_of_tick (hname : w.config.current.framework.name = w.framework)
    (hfinite : w.config.current.Finite) {report : TickReport}
    (h : Run.tick w.config.current s w = (.ok report, w')) (hcreated : report.created ≠ []) :
    ∃ role id, PendingAt w'.store (Key.task w.framework role id) := by
  rcases tick_cases (s := s) (apart_of_name hname) with
    ⟨e, n, hrun, -⟩ | ⟨settings, identity, report', w'', hrun, hreport, hadds, -⟩
  · rw [hrun] at h
    cases h
  rw [hrun] at h
  cases h
  rw [hreport] at hcreated
  obtain ⟨r, hr⟩ := List.exists_mem_of_ne_nil (newRecords w.config.current s w settings identity)
    fun hnil => hcreated (by rw [hnil]; rfl)
  have hnew := provided_of_mem hr
  exact ⟨r.role, r.id, hadds.pendingAt hr (hnew.framework.trans hname) (hnew.finite hfinite)
    (by rw [hnew.state]; rfl)⟩

/-! ### Operations that look at the records -/

/-- **After a cycle the signal tracks the records.** -/
theorem tracks_of_cycle (hname : w.config.current.framework.name = w.framework)
    (hfinite : w.config.current.Finite) {report : TickReport}
    (h : Run.cycle s w = (.ok report, w')) : w'.Tracks := by
  rw [Run.cycle_run] at h
  obtain ⟨report₁, w₁, htick, h⟩ := Run.exists_of_bind_eq_ok h
  obtain ⟨promoted, w₂, hpromote, h⟩ := Run.exists_of_bind_eq_ok h
  obtain ⟨b, w₃, hevaluate, h⟩ := Run.exists_of_bind_eq_ok h
  cases h
  have hevaluation := evaluation_evaluate (!report.created.isEmpty) s w₂
  rw [hevaluate] at hevaluation
  refine hevaluation.tracks fun hcreated => ?_
  have hnonempty : report.created ≠ [] := by
    rintro hnil
    simp [hnil] at hcreated
  obtain ⟨role, id, hpending⟩ := exists_pendingAt_of_tick hname hfinite htick hnonempty
  have hkept := pendingAt_promoteUnset s w₁ hpending
  have hframework : w₂.framework = w.framework := by
    have hbuilt : Run.Built (fun _ => True) [] (Run.tick w.config.current) :=
      Run.built_tick trivial w.config.current
    have hbuilt' : Run.Built (fun _ => True) [] Run.promoteUnset := Run.built_promoteUnset trivial
    have htick' := hbuilt.confined s w
    have hpromote' := hbuilt'.confined s w₁
    rw [htick] at htick'
    rw [hpromote] at hpromote'
    exact hpromote'.framework.trans htick'.framework
  rw [hpromote, ← hframework] at hkept
  exact hkept.isPending

/-- After a report was dealt with the signal tracks the records. -/
theorem tracks_of_update {status : TaskStatus}
    (h : Run.handleEvent (.update status) s w = (.ok (), w')) : w'.Tracks := by
  obtain ⟨_, w₁, -, h⟩ := Run.exists_of_bind_eq_ok h
  obtain ⟨b, w₂, hevaluate, h⟩ := Run.exists_of_bind_eq_ok h
  cases h
  have hevaluation := evaluation_evaluate false s w₁
  rw [hevaluate] at hevaluation
  exact hevaluation.tracks nofun

/-- After a pass over offers that has launched a task the signal tracks the records. -/
theorem tracks_of_offers {offers : List Offer} {issued : List Issue}
    (h : Run.handleEvent (.offers offers) s w = (.ok (), w'))
    (hissued : w'.issued = w.issued ++ issued) (hlaunched : acceptedOffers issued ≠ []) :
    w'.Tracks := by
  obtain ⟨pass, store, issued₁, w₁, hpass, hmoves, hmatches, -⟩ := Run.passOffers_cases offers s w
  obtain ⟨result, declining, w₂, hdecline, hgaveBack, hother, -⟩ :=
    Run.declineOffers_cases pass.declined w.config.current.refuseSeconds? s w₁
  have hsnapshot : Run.snapshot s w = (.ok w.config.current, w) := rfl
  have hhandle : Run.handleEvent (.offers offers) s w = Run.handleOffers offers s w := rfl
  rw [hhandle, Run.handleOffers, Run.bind_of_ok hsnapshot, Run.bind_of_ok hpass,
    Run.bind_of_ok (Run.attempt_of hdecline)] at h
  obtain ⟨n, w₃, hcount, h⟩ := Run.exists_of_bind_eq_ok h
  obtain ⟨_, w₄, hgiven, h⟩ := Run.exists_of_bind_eq_ok h
  cases hn : pass.launched with
  | error e =>
    rw [hn] at hcount
    cases hcount
  | ok m =>
    rw [hn] at hcount
    cases hcount
    cases result with
    | error e => cases hgiven
    | ok =>
      cases hgiven
      by_cases hpositive : 0 < n
      · simp only [hpositive, if_true] at h
        obtain ⟨b, w₅, hevaluate, h⟩ := Run.exists_of_bind_eq_ok h
        cases h
        have hevaluation := evaluation_evaluate false s w₂
        rw [hevaluate] at hevaluation
        exact hevaluation.tracks nofun
      · simp only [hpositive, if_false] at h
        cases h
        -- no offer was accepted by the pass, and giving offers back accepts none
        rw [hgaveBack.issued, hmoves.issued, List.append_assoc, List.append_cancel_left_eq]
          at hissued
        refine absurd ?_ hlaunched
        rw [← hissued, acceptedOffers_append, acceptedOffers_eq_nil hother, List.append_nil]
        exact List.eq_nil_of_length_eq_zero ((hmatches.count n hn).trans (by omega))

/-! ### Runs -/

/-- The process keeps its records under the name that its configuration gives the framework, and
needs finite amounts. -/
structure World.Ready (w : World) : Prop where
  name : w.config.current.framework.name = w.framework
  finite : w.config.current.Finite

theorem ready_of_built {may : Liberty → Prop} {offers : List Offer} {α : Type} {m : Run α}
    (h : Run.Built may offers m) (s : Surroundings) (hready : w.Ready) : (m s w).2.Ready := by
  have hconfined := h.confined s w
  refine ⟨?_, hconfined.needs.finite hready.finite⟩
  rw [hconfined.needs.name, hready.name, hconfined.framework]

theorem ready_action (action : Action) (hfinite : ∀ cfg, action = .process cfg → cfg.Finite)
    (hready : w.Ready) : (action.run s w).Ready := by
  obtain ⟨α, m, hbuilt, hrun⟩ | ⟨cfg, rfl⟩ :=
    action.run_cases (fun _ => True) (fun _ _ => trivial) s w
  · rw [hrun]
    exact ready_of_built hbuilt s hready
  · exact ⟨rfl, hfinite cfg rfl⟩

theorem ready_runActions {actions : List Action}
    (hfinite : ∀ cfg, .process cfg ∈ actions → cfg.Finite) (hready : w.Ready) :
    (runActions s w actions).Ready := by
  induction actions generalizing w with
  | nil => exact hready
  | cons action rest ih =>
    refine ih (fun cfg hcfg => hfinite cfg (List.mem_cons_of_mem _ hcfg)) ?_
    refine ready_action action (fun cfg heq => hfinite cfg ?_) hready
    rw [heq]
    exact List.mem_cons_self

/-- What an evaluation may do to the signal and say to the manager. -/
structure Sparing (created : Bool) (w : World) (result : Except Fault Bool) (w' : World) :
    Prop where
  /-- At most one call is made, the one that changes the signal; if it succeeds the signal has
  changed, and otherwise it has not. -/
  calls : w'.issued = w.issued ∧ w'.suppressed = w.suppressed ∨
    ∃ delivery, w'.issued = w.issued ++ [⟨w.turning, delivery, w.store⟩] ∧
      (w'.suppressed = !w.suppressed ↔ delivery = .applied)
  /-- A failure leaves the signal as it was. -/
  failure : ∀ e, result = .error e → w'.suppressed = w.suppressed
  /-- With the same records and the same signal nothing is said again. -/
  again : ∀ b, result = .ok b → ∀ s₂ w₂ created₂, (created = true → created₂ = true) →
    w₂.store.records w₂.framework = w'.store.records w'.framework →
      w₂.suppressed = w'.suppressed → (Run.evaluate created₂ s₂ w₂).2.issued = w₂.issued

theorem sparing_evaluate (created : Bool) (s : Surroundings) (w : World) :
    Sparing created w (Run.evaluate created s w).1 (Run.evaluate created s w).2 := by
  have h := evaluation_evaluate created s w
  refine ⟨?_, fun e herror => ?_, fun b hok s₂ w₂ created₂ hle hrecords hsuppressed => ?_⟩
  · generalize (Run.evaluate created s w).1 = result, (Run.evaluate created s w).2 = w' at h
    cases h with
    | unseen => exact Or.inl ⟨rfl, rfl⟩
    | right => exact Or.inl ⟨rfl, rfl⟩
    | turned due moves => exact Or.inr ⟨.applied, moves.issued, by simp⟩
    | failed due failed _ moves =>
      refine Or.inr ⟨_, moves.issued, ?_⟩
      simp [moves.suppressed, failed]
  · rw [herror] at h
    generalize (Run.evaluate created s w).2 = w' at h
    cases h with
    | unseen => rfl
    | failed _ _ _ moves => exact moves.suppressed
  · rw [hok] at h
    have hdue : ¬ w₂.IsDue created₂ := by
      rintro ⟨hpending, hcreated⟩
      refine h.not_isDue ⟨?_, fun htrue => ?_⟩
      · rw [World.isPending, ← hrecords, ← hsuppressed]
        exact hpending
      · rw [← hsuppressed]
        exact hcreated (hle htrue)
    have h₂ := evaluation_evaluate created₂ s₂ w₂
    generalize (Run.evaluate created₂ s₂ w₂).1 = result, (Run.evaluate created₂ s₂ w₂).2 = w' at h₂
    cases h₂ with
    | unseen => rfl
    | right => rfl
    | turned due => exact absurd due hdue
    | failed due => exact absurd due hdue

theorem suppressed_of_revive_error {e : Fault} (h : Run.revive s w = (.error e, w')) :
    w'.suppressed = w.suppressed := by
  obtain ⟨delivery, w'', -, hmoves, ⟨-, hrun⟩ | ⟨-, e', hrun⟩⟩ := Run.say_cases .reviving false s w
  · have heq := h.symm.trans hrun
    cases heq
  · have heq := h.symm.trans hrun
    cases heq
    exact hmoves.suppressed

/-- What holds of the signal in a world. -/
structure Signals (s : Surroundings) (w : World) : Prop where
  cycle : ∀ report w', Run.cycle s w = (.ok report, w') → w'.Tracks
  update : ∀ status w', Run.handleEvent (.update status) s w = (.ok (), w') → w'.Tracks
  offers : ∀ offers issued w', Run.handleEvent (.offers offers) s w = (.ok (), w') →
    w'.issued = w.issued ++ issued → acceptedOffers issued ≠ [] → w'.Tracks
  evaluate : ∀ created, Sparing created w (Run.evaluate created s w).1 (Run.evaluate created s w).2
  revive : ∀ e w', Run.revive s w = (.error e, w') → w'.suppressed = w.suppressed

/-- **The signal tracks the tasks that wait.** Wherever a run of actions has led, from whatever
store and with whatever failures, the signal is set exactly when no stored record is unset or new
after every cycle, every report and every pass with a launch that ends well; an evaluation says only
what changes the signal; and failures leave the signal alone. -/
theorem signal_tracks_records {cfg : Config} (hfinite : cfg.Finite) (s : Surroundings)
    (store : Memory) (nodes : NodeSource) {actions : List Action}
    (hlater : ∀ cfg, .process cfg ∈ actions → cfg.Finite) :
    Signals s (runActions s (.start cfg store nodes) actions) := by
  have hready : (runActions s (.start cfg store nodes) actions).Ready :=
    ready_runActions hlater ⟨rfl, hfinite⟩
  exact ⟨fun _ _ h => tracks_of_cycle hready.name hready.finite h, fun _ _ h => tracks_of_update h,
    fun _ _ _ h => tracks_of_offers h, fun created => sparing_evaluate created s _,
    fun _ _ h => suppressed_of_revive_error h⟩

/-- A process that was started again and has made a cycle. -/
theorem signal_tracks_records_after_restart :
    ({} : Config).Finite ∧
      (∀ cfg : Config, Action.process cfg ∈ [.cycle, .shutdown, .process {}, .start, .cycle] →
        cfg.Finite) ∧
      Signals .calm (runActions .calm (.start {} {} .stored)
        [.cycle, .shutdown, .process {}, .start, .cycle]) := by
  have hlater : ∀ cfg : Config,
      Action.process cfg ∈ [.cycle, .shutdown, .process {}, .start, .cycle] → cfg.Finite := by
    intro cfg hcfg
    simp only [List.mem_cons, List.not_mem_nil, Action.process.injEq, reduceCtorEq, false_or,
      or_false] at hcfg
    rw [hcfg]
    exact Config.finite_default
  exact ⟨Config.finite_default, hlater,
    signal_tracks_records Config.finite_default .calm {} .stored hlater⟩

end Stevedore.Scheduling
