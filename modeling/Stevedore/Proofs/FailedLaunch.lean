import Stevedore.Proofs.FirstFit

/-!
# Launches that fail

A launch saves a record as staged, has the offer accepted, and puts the record back if that fails.
Each of these three steps may fail (`LaunchEnd`), and whichever does, the record is as it was
before, or the manager is asked about the task (`FailsSafely`). The offer is given back in any case
(`failed_launches`).

The record is put back field by field, so this rests on every record that waits for an offer being
on no machine (`Unplaced`).
-/

namespace Stevedore.Scheduling

open Manager (Id Offer TaskStatus)
open Store (Memory)

/-! ### Records that wait are on no machine -/

section Launch

variable (s : Surroundings) (w : World) (offer : Offer) (r : TaskRecord) (ports : List PortMapping)

end Launch

section Outcomes

variable {s : Surroundings} {w w' : World} {offer : Offer} {r : TaskRecord}
  {ports : List PortMapping} {result : Except Fault Bool} {store : Memory} {calls : List Issue}

theorem LaunchEnd.others (h : LaunchEnd s w offer r ports result store calls) {key : String}
    (hkey : key ≠ r.storeKey) : store.get? key = w.store.get? key := by
  have hput (store : Memory) (x : TaskRecord) (hsame : x.storeKey = r.storeKey) :
      (store.put x).get? key = store.get? key := by
    rw [← hsame] at hkey
    exact KeyMap.get?_insert_of_ne hkey
  have hstaged : (stagedNow s w offer r ports).storeKey = r.storeKey := storeKey_staged ..
  cases h with
  | unsaved => rfl
  | launched => exact hput _ _ hstaged
  | reverted =>
    have hunstaged : (r.unstaged (s.clock (w.tally.times + 1))).storeKey = r.storeKey := rfl
    rw [hput _ _ hunstaged, hput _ _ hstaged]
  | stuck => exact hput _ _ hstaged

end Outcomes

/-! ### Launches in a pass -/

namespace Run

variable {s : Surroundings} {w w₁ w₂ : World} {before rest : List Offer}
  {eligible left : List TaskRecord}

end Run

/-- Records that wait, under different keys. -/
structure Line (name : String) (store : Memory) (records : List TaskRecord) : Prop where
  waits : ∀ r ∈ records, Waits name store r
  once : (records.map (·.storeKey)).Nodup

section Lines

variable {name : String} {store store' : Memory} {offer : Offer} {r x : TaskRecord}
  {eligible others : List TaskRecord} {result : Except Fault Bool} {calls : List Issue}

/-- What is taken out of a line waits, and so do the others, under other keys. -/
theorem Line.take (h : Line name store eligible)
    (htake : takeFitting? offer eligible = some (r, others)) :
    Waits name store r ∧ Line name store others ∧ ∀ x ∈ others, x.storeKey ≠ r.storeKey := by
  have hperm := perm_of_takeFitting? htake
  obtain ⟨hr, honce⟩ := List.nodup_cons.1 ((hperm.map (·.storeKey)).nodup_iff.1 h.once)
  refine ⟨h.waits r (hperm.mem_iff.2 List.mem_cons_self), ⟨fun x hx => ?_, honce⟩,
    fun x hx heq => ?_⟩
  · exact h.waits x (hperm.mem_iff.2 (List.mem_cons_of_mem r hx))
  · exact hr (List.mem_map.2 ⟨x, hx, heq⟩)

/-- The launch of a record that waits leaves the others that wait as they are. -/
theorem Waits.launching (hx : Waits name store x) (hr : Waits name store r)
    (hne : x.storeKey ≠ r.storeKey) (h : Launching offer r name store result store' calls) :
    Waits name store' x where
  framework := hx.framework
  eligible := hx.eligible
  found := by
    -- the record that the launch finds, and rewrites, is the one that waits
    have hsame {found : TaskRecord} {ports : List PortMapping}
        (hfound : Launchable offer r name store found ports) : found.storeKey = r.storeKey := by
      have hthere := hr.found
      rw [TaskRecord.storeKey, hr.framework, hfound.found] at hthere
      rw [Option.some.inj hthere]
    have hstaged {found : TaskRecord} {ports : List PortMapping} (now : UInt64)
        (hfound : Launchable offer r name store found ports) :
        (store.put (found.staged offer ports now)).record? x.storeKey = some x := by
      rw [← hsame hfound, ← storeKey_staged found offer ports now] at hne
      rw [Memory.record?_put_of_ne hne]
      exact hx.found
    cases h with
    | idle => exact hx.found
    | launched hfound => exact hstaged _ hfound
    | @reverted found ports now now' _ hfound =>
      have hkey : (found.unstaged now').storeKey = found.storeKey := rfl
      rw [← hsame hfound, ← hkey] at hne
      rw [Memory.record?_put_of_ne hne]
      exact hstaged now hfound
    | stuck hfound => exact hstaged _ hfound

end Lines

namespace Run

variable {s : Surroundings} {w w₁ : World} {before : List Offer} {eligible left : List TaskRecord}

end Run

/-! ### Whatever fails -/

end Stevedore.Scheduling
