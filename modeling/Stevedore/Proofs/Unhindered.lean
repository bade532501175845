import Stevedore.Proofs.LaunchEnd

/-!
# Runs that meet no fault of the store

Where the store never fails, look-ups find what is stored, and a record that can be launched is
launched unless the manager refuses.
-/

namespace Stevedore.Scheduling

open Manager (Call Offer)
open Store (Memory)

/-- Surroundings in which the store never fails, and the same becomes of every call. -/
structure Surroundings.Clear (s : Surroundings) (delivery : Delivery) : Prop where
  reads : ∀ k, s.readFault k = none
  writes : ∀ k, s.writeFault k = none
  calls : ∀ k c, s.delivery k c = delivery

theorem Surroundings.clear_calm : Surroundings.calm.Clear .applied :=
  ⟨fun _ => rfl, fun _ => rfl, fun _ _ => rfl⟩

namespace Run

variable {s : Surroundings} {delivery : Delivery} {w : World} {store : Memory}

theorem listAll_clear (hclear : s.Clear delivery) (w : World) :
    ∃ n, (Records.listAll : Run _) s w = (.ok (w.store.records w.framework), w.afterReads n) :=
  looks_listAll.run hclear.reads w

/-- What a launch leaves in the store. -/
def afterLaunch (store : Memory) (staged unstaged : TaskRecord) : Delivery → Memory
  | .applied => store.put staged
  | _ => (store.put staged).put unstaged

/-- Where the store never fails, a record that can be launched is launched if the manager takes the
call, and put back if it does not. -/
theorem launch_clear (hclear : s.Clear delivery) {offer : Offer} {candidate r : TaskRecord}
    {ports : List PortMapping} (h : Launchable offer candidate w.framework w.store r ports) :
    ∃ now now' w', launch offer candidate s w = (.ok (delivery = .applied), w') ∧
      Moves w (afterLaunch w.store (r.staged offer ports now) (r.unstaged now') delivery)
        [launchIssue offer (r.staged offer ports now) delivery w.store] w' := by
  obtain ⟨result, store, issued, w', hrun, hmoves, hend⟩ := launch_ends hclear.reads h
  have hissue : acceptIssue s w offer r ports =
      launchIssue offer (stagedNow s w offer r ports) delivery w.store := by
    rw [acceptIssue, hclear.calls]
  refine ⟨s.clock w.tally.times, s.clock (w.tally.times + 1), w', ?_⟩
  cases hend with
  | unsaved failed => simp [hclear.writes] at failed
  | launched _ accepted =>
    rw [hissue] at accepted hmoves
    obtain rfl : delivery = .applied := accepted
    exact ⟨hrun, hmoves⟩
  | reverted refused =>
    have hfailed := refused.failed
    rw [hissue] at hfailed hmoves
    cases delivery with
    | applied => exact absurd rfl hfailed
    | refused => exact ⟨hrun, hmoves⟩
    | unanswered => exact ⟨hrun, hmoves⟩
  | stuck _ _ kept => simp [hclear.writes] at kept

/-- The offer in hand is launched on, or given back, before the pass goes on with the other
records. -/
theorem matchOffers_clear (hclear : s.Clear delivery) {offer : Offer} (rest : List Offer)
    {eligible others : List TaskRecord} {candidate r : TaskRecord} {ports : List PortMapping}
    (htake : takeFitting? offer eligible = some (candidate, others))
    (h : Launchable offer candidate w.framework w.store r ports) :
    ∃ now now' w',
      Moves w (afterLaunch w.store (r.staged offer ports now) (r.unstaged now') delivery)
        [launchIssue offer (r.staged offer ports now) delivery w.store] w' ∧
      matchOffers eligible (offer :: rest) s w = (matchOffers others rest >>= fun pass =>
        pure (if delivery = .applied then pass.launch else pass.decline offer.id)) s w' := by
  obtain ⟨now, now', w', hlaunch, hmoves⟩ := launch_clear hclear h
  refine ⟨now, now', w', hmoves, ?_⟩
  rw [matchOffers]
  simp only [htake]
  rw [bind_of_ok (attempt_of hlaunch)]
  by_cases happlied : delivery = .applied
  · simp only [happlied, decide_true, if_true]
  · simp only [happlied, decide_false, if_false]

end Run

end Stevedore.Scheduling
