import Stevedore.Proofs.Creation
import Stevedore.Proofs.Sections

/-!
# How a launch ends

The launch of a record that is eligible and fits saves the record, makes the call that accepts the
offer, and saves the record again if that call fails. Where the store can be read, what becomes of
these three decides how the launch ends (`Run.launch_ends`).
-/

namespace Stevedore.Scheduling

open Manager (Call Offer)
open Store (Memory)

section Launch

variable (s : Surroundings) (w : World) (offer : Offer) (r : TaskRecord) (ports : List PortMapping)

/-- The record that is saved before the offer is accepted. -/
def stagedNow : TaskRecord :=
  r.staged offer ports (s.clock w.tally.times)

/-- The call that is to accept the offer, and what becomes of it. -/
def acceptIssue : Issue :=
  launchIssue offer (stagedNow s w offer r ports)
    (s.delivery w.tally.calls (launching offer (stagedNow s w offer r ports))) w.store

/-- The record is saved as staged, and the offer is not accepted. -/
structure NotAccepted : Prop where
  saved : s.writeFault w.tally.writes = none
  failed : (acceptIssue s w offer r ports).delivery ≠ .applied

/-- How the launch of a record ends, and what decides. -/
inductive LaunchEnd : Except Fault Bool → Memory → List Issue → Prop
  | unsaved {reason} (failed : s.writeFault w.tally.writes = some reason) :
      LaunchEnd (.ok false) w.store []
  | launched (saved : s.writeFault w.tally.writes = none)
      (accepted : (acceptIssue s w offer r ports).delivery = .applied) :
      LaunchEnd (.ok true) (w.store.put (stagedNow s w offer r ports))
        [acceptIssue s w offer r ports]
  | reverted (refused : NotAccepted s w offer r ports)
      (undone : s.writeFault (w.tally.writes + 1) = none) :
      LaunchEnd (.ok false)
        ((w.store.put (stagedNow s w offer r ports)).put
          (r.unstaged (s.clock (w.tally.times + 1))))
        [acceptIssue s w offer r ports]
  | stuck {reason} (asked : Delivery) (refused : NotAccepted s w offer r ports)
      (kept : s.writeFault (w.tally.writes + 1) = some reason) :
      LaunchEnd (.error (.store (.unavailable reason)))
        (w.store.put (stagedNow s w offer r ports))
        [acceptIssue s w offer r ports, ⟨.reconciling [⟨⟨r.id⟩, some offer.agentId⟩], asked,
          w.store.put (stagedNow s w offer r ports)⟩]

end Launch

namespace Run

variable {s : Surroundings} {w : World} {offer : Offer} {candidate r : TaskRecord}
  {ports : List PortMapping}

/-- What is done under a lock is done in a world that differs in nothing but its locks. -/
theorem withLock_of_locks {α : Type} {body : Run α}
    {P : Except Fault α → Memory → List Issue → Prop} (id : String)
    (h : ∀ locks, ∃ result store issued w₁, body s { w with locks := locks } = (result, w₁) ∧
      Moves w store issued w₁ ∧ P result store issued) :
    ∃ result store issued w', withLock id body s w = (result, w') ∧ Moves w store issued w' ∧
      P result store issued := by
  obtain ⟨result, store, issued, w₁, hbody, hmoves, hP⟩ := h (w.locks.request id).2
  have hrun := withLock_run id body (s := s) (w := w)
  rw [hbody] at hrun
  exact ⟨result, store, issued, _, hrun, ⟨hmoves.store, hmoves.contacts, hmoves.issued,
    hmoves.framework, hmoves.config, hmoves.suppressed, hmoves.ids⟩, hP⟩

theorem save_of_none (r : TaskRecord) (hfault : s.writeFault w.tally.writes = none) :
    (Records.save r : Run _) s w = (.ok (), w.afterWrite (w.store.put r)) := by
  rw [save_run, hfault]

theorem save_of_some (r : TaskRecord) {reason : String}
    (hfault : s.writeFault w.tally.writes = some reason) :
    (Records.save r : Run _) s w =
      (.error (.store (.unavailable reason)), w.afterWrite w.store) := by
  rw [save_run, hfault]

theorem moves_afterWrite (w : World) (store : Memory) : Moves w store [] (w.afterWrite store) :=
  ⟨rfl, (List.append_nil _).symm, (List.append_nil _).symm, rfl, rfl, rfl, rfl⟩

/-- Of the counts a call changes that of calls only. -/
theorem tally_of_call {c : Manager.Call} {result : Except Fault Unit} {w' : World}
    (h : call c s w = (result, w')) : w'.tally = { w.tally with calls := w.tally.calls + 1 } := by
  have hw' : (call c s w).2.tally = { w.tally with calls := w.tally.calls + 1 } := by
    simp only [call]
    cases s.delivery w.tally.calls c <;> rfl
  rw [← hw', h]

/-- A record is put back, or the manager is asked about its task. -/
theorem revertLaunch_ends (r : TaskRecord) (offer : Offer) (s : Surroundings) (w : World) :
    (s.writeFault w.tally.writes = none ∧ ∃ w', revertLaunch r offer s w = (.ok (), w') ∧
      Moves w (w.store.put (r.unstaged (s.clock w.tally.times))) [] w') ∨
    ∃ reason asked w', s.writeFault w.tally.writes = some reason ∧
      revertLaunch r offer s w = (.error (.store (.unavailable reason)), w') ∧
      Moves w w.store [⟨.reconciling [⟨⟨r.id⟩, some offer.agentId⟩], asked, w.store⟩] w' := by
  have hnow := moves_now (w := w) rfl
  unfold revertLaunch
  rw [bind_of_ok now_run]
  cases hfault : s.writeFault w.tally.writes with
  | none =>
    have hsave := save_of_none (w := { w with tally.times := w.tally.times + 1 })
      (r.unstaged (s.clock w.tally.times)) hfault
    exact Or.inl ⟨rfl, _, bind_of_ok (attempt_of hsave) _, hnow.andThen (moves_afterWrite ..)⟩
  | some reason =>
    have hsave := save_of_some (w := { w with tally.times := w.tally.times + 1 })
      (r.unstaged (s.clock w.tally.times)) hfault
    have hwrite := hnow.andThen (moves_afterWrite _ w.store)
    rw [bind_of_ok (attempt_of hsave)]
    obtain ⟨asked, w', -, hmoves, hcall⟩ :=
      call_cases (.reconciling [⟨⟨r.id⟩, some offer.agentId⟩]) s hwrite.store
    refine Or.inr ⟨reason, asked, w', rfl, ?_, hwrite.andThen hmoves⟩
    rcases hcall with ⟨-, hcall⟩ | ⟨-, fault, hcall⟩
    · exact bind_of_ok (attempt_of hcall) _
    · exact bind_of_ok (attempt_of hcall) _

/-- **The launch of a record that is found, is eligible and fits ends in one of these ways.** -/
theorem launch_ends (hreads : ∀ k, s.readFault k = none)
    (h : Launchable offer candidate w.framework w.store r ports) :
    ∃ result store issued w', launch offer candidate s w = (result, w') ∧
      Moves w store issued w' ∧ LaunchEnd s w offer r ports result store issued := by
  refine withLock_of_locks candidate.id fun locks => ?_
  have hfound : storedAs w.store (Key.task w.framework candidate.role candidate.id) =
      .ok (some r) :=
    storedAs_eq_some_iff.2 h.found
  obtain ⟨n, hload⟩ :=
    (looks_load candidate.role candidate.id).run hreads { w with locks := locks }
  rw [show storedAs ({ w with locks := locks } : World).store _ = _ from hfound] at hload
  rw [bind_of_ok hload]
  simp only [h.eligible, if_true, h.fits]
  rw [bind_of_ok now_run]
  -- the clock has been read once, and nothing has been written or called
  let w₁ : World := { World.afterReads { w with locks := locks } n with
    tally.times := w.tally.times + 1 }
  have hnow : Moves w w.store [] w₁ :=
    ((moves_locks locks).andThen (moves_afterReads _ n)).andThen (moves_now rfl)
  cases hfault : s.writeFault w.tally.writes with
  | some reason =>
    have hsave := save_of_some (w := w₁) (stagedNow s w offer r ports) hfault
    exact ⟨_, _, _, _, bind_of_ok (attempt_of hsave) _, hnow.andThen (moves_afterWrite ..),
      .unsaved hfault⟩
  | none =>
    have hsave := save_of_none (w := w₁) (stagedNow s w offer r ports) hfault
    have hsaved := hnow.andThen (moves_afterWrite w₁ (w.store.put (stagedNow s w offer r ports)))
    obtain ⟨delivery, w₂, hdelivery, hcalled, ⟨happlied, hcall⟩ | ⟨hfailed, fault, hcall⟩⟩ :=
      call_cases (launching offer (stagedNow s w offer r ports)) s hsaved.store
    · subst hdelivery
      refine ⟨_, _, _, w₂, ?_, hsaved.andThen hcalled, .launched hfault happlied⟩
      exact (bind_of_ok (attempt_of hsave) _).trans (bind_of_ok (attempt_of hcall) _)
    · subst hdelivery
      have hrefused : NotAccepted s w offer r ports := ⟨hfault, hfailed⟩
      have hissued := hsaved.andThen hcalled
      have htally := tally_of_call hcall
      have hwrites : w₂.tally.writes = w.tally.writes + 1 := by
        rw [htally]
        rfl
      have htimes : w₂.tally.times = w.tally.times + 1 := by
        rw [htally]
        rfl
      obtain ⟨hundone, w₃, hrevert, hreverted⟩ | ⟨reason, asked, w₃, hkept, hrevert, hasked⟩ :=
        revertLaunch_ends r offer s w₂
      · rw [hwrites] at hundone
        rw [htimes, hissued.store] at hreverted
        refine ⟨_, _, _, w₃, ?_, hissued.trans hreverted, .reverted hrefused hundone⟩
        exact (bind_of_ok (attempt_of hsave) _).trans
          ((bind_of_ok (attempt_of hcall) _).trans (bind_of_ok hrevert _))
      · rw [hwrites] at hkept
        rw [hissued.store] at hasked
        refine ⟨_, _, _, w₃, ?_, hissued.trans hasked, .stuck asked hrefused hkept⟩
        exact (bind_of_ok (attempt_of hsave) _).trans
          ((bind_of_ok (attempt_of hcall) _).trans (bind_of_error hrevert _))

end Run

end Stevedore.Scheduling
