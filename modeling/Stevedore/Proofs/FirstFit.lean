import Mathlib.Data.Prod.Lex
import Mathlib.Data.String.Basic
import Stevedore.Proofs.Fitting
import Stevedore.Proofs.OfferSignal
import Stevedore.Proofs.Registration

/-!
# Offers go to the oldest task that fits

Where nothing fails, the pass over some offers launches what a plain procedure says (`firstFit`):
walk the offers, and give each to the first of the tasks that waited when the pass began, oldest
first, that has not been launched since and fits (`offers_matched_first_fit`).

The pass works on a list that shrinks with every launch, and looks up, checks and rewrites a record
again before it launches its task. That this comes to the same rests on every record lying under its
own key: nothing that the pass has done so far has touched the records that are left.
-/

namespace Stevedore.Scheduling

open Manager (Offer)
open Store (Memory)

/-! ### The procedure -/

/-- Whether a task fits an offer. -/
def fits (offer : Offer) (r : TaskRecord) : Bool :=
  (fit offer r).isOk

variable {waiting : List TaskRecord} {launched : List String} {offers : List Offer}

/-- Pairs of offers and tasks were launched: for each pair, in order, there was one call that
accepts the offer for the task, and the task's record says so; no other record was touched. -/
structure Launches (store : Memory) (pairs : List (Offer × TaskRecord)) (issued : List Issue)
    (store' : Memory) : Prop where
  calls : List.Forall₂ (fun p i => ∃ ports now, fit p.1 p.2 = .ok ports ∧
    i.call = launching p.1 (p.2.staged p.1 ports now) ∧ i.delivery = .applied ∧
    store'.get? p.2.storeKey = some (Json.encode (p.2.staged p.1 ports now)).render) pairs issued
  others : ∀ key, (∀ p ∈ pairs, key ≠ p.2.storeKey) → store'.get? key = store.get? key

theorem Launches.cons {store store' : Memory} {pairs : List (Offer × TaskRecord)}
    {issued : List Issue} {offer : Offer} {r : TaskRecord} {ports : List PortMapping} {now : UInt64}
    (h : Launches (store.put (r.staged offer ports now)) pairs issued store')
    (hfit : fit offer r = .ok ports) (hothers : ∀ p ∈ pairs, r.storeKey ≠ p.2.storeKey) :
    Launches store ((offer, r) :: pairs)
      (launchIssue offer (r.staged offer ports now) .applied store :: issued) store' where
  calls := by
    refine .cons ⟨ports, now, hfit, rfl, rfl, ?_⟩ h.calls
    rw [h.others r.storeKey hothers]
    exact KeyMap.get?_insert_self ..
  others key hkey := by
    obtain ⟨hfirst, hrest⟩ := List.forall_mem_cons.1 hkey
    rw [h.others key hrest]
    exact KeyMap.get?_insert_of_ne hfirst

/-- A record that waits for an offer and lies under its own key. -/
structure Waits (name : String) (store : Memory) (r : TaskRecord) : Prop where
  framework : r.framework = name
  eligible : r.state = .new
  found : store.record? r.storeKey = some r

namespace Run

variable {s : Surroundings}

end Run

/-! ### The records that wait -/

/-- An offer of plenty. -/
def roomyOffer : Offer where
  id := ⟨"offer"⟩
  frameworkId := ⟨"framework"⟩
  agentId := ⟨"machine"⟩
  hostname := "host"
  resources := [.ofScalar "cpus" 8, .ofScalar "mem" 4096, .ofScalar "disk" 20000,
    .ofRanges "ports" [⟨31000, 32000⟩]]

end Stevedore.Scheduling
