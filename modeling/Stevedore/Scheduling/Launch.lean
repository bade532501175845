import Stevedore.Manager.Launch
import Stevedore.Scheduling.OfferSignal
import Stevedore.Scheduling.Placement

/-!
# Launching tasks

Wanted tasks are made eligible, and when offers arrive each is given to the oldest eligible task
that it fits. A task is recorded as launched before its offer is accepted; if the offer cannot be
accepted after all, the record is put back. Every offer that launches nothing is given back, also
when the pass over the offers ends early.
-/

namespace Stevedore

namespace TaskRecord

/-- The record of a task that is being launched on an offer. -/
def staged (r : TaskRecord) (offer : Manager.Offer) (ports : List PortMapping) (now : UInt64) :
    TaskRecord :=
  { r with
    container.ports := ports
    state := .staging
    agentId := some offer.agentId.value
    agentHostname := some offer.hostname
    updatedAt := now }

/-- The record of a task whose launch has failed: as it was before, but for the time. -/
def unstaged (r : TaskRecord) (now : UInt64) : TaskRecord :=
  { r with state := .new, agentId := none, agentHostname := none, updatedAt := now }

end TaskRecord

namespace Scheduling

open Manager (Offer Id Call TaskAt TaskInfo)

/-- The first of some records that fits an offer, and the others in their order. -/
def takeFitting? (offer : Offer) : List TaskRecord → Option (TaskRecord × List TaskRecord)
  | [] => none
  | r :: rest =>
    match fit offer r with
    | .ok _ => some (r, rest)
    | .error _ => (takeFitting? offer rest).map fun (found, others) => (found, r :: others)

/-- How a pass over offers has ended: the offers to give back, and how many tasks were launched or
why the pass ended early. -/
structure OfferPass where
  /-- The offers to give back, in their order. -/
  declined : List Id
  /-- How many tasks were launched. -/
  launched : Except Fault Nat

namespace OfferPass

/-- The pass with one more offer to give back in front. -/
def decline (p : OfferPass) (offer : Id) : OfferPass :=
  { p with declined := offer :: p.declined }

/-- The pass with one more task launched. -/
def launch (p : OfferPass) : OfferPass :=
  { p with launched := p.launched.map (· + 1) }

end OfferPass

namespace Run

/-! ### Making tasks eligible -/

/-- Make one wanted task eligible if it still is wanted, and say whether it was. -/
def promoteOne (candidate : TaskRecord) : Run Bool :=
  withLock candidate.id do
    match ← Records.load candidate.role candidate.id with
    | none => pure false
    | some r =>
      if r.state = .unset then
        let now ← now
        Records.save { r with state := .new, updatedAt := now }
        pure true
      else pure false

/-- Make wanted tasks eligible one by one, and say how many there were. -/
def promoteEach : List TaskRecord → Run Nat
  | [] => pure 0
  | r :: rest => do
    let promoted ← promoteOne r
    let more ← promoteEach rest
    return if promoted then more + 1 else more

/-- Make all wanted tasks eligible and ask for offers if there were any. -/
def promoteUnset : Run Nat := do
  let records ← Records.listAll
  let promoted ← promoteEach (records.filter fun r => r.state = .unset)
  if 0 < promoted then revive
  return promoted

/-! ### Using offers -/

/-- Put back the record of a task whose offer could not be accepted. If that fails too, the manager
is asked about the task, so that the record is removed once the manager reports not to know it. -/
def revertLaunch (r : TaskRecord) (offer : Offer) : Run Unit := do
  let now ← now
  match ← attempt (Records.save (r.unstaged now)) with
  | .ok () => pure ()
  | .error e =>
    let _ ← attempt (call (.reconciling [⟨⟨r.id⟩, some offer.agentId⟩]))
    fail e

/-- Launch a task on an offer if it is still eligible and still fits, and say whether it was
launched. -/
def launch (offer : Offer) (candidate : TaskRecord) : Run Bool :=
  withLock candidate.id do
    match ← Records.load candidate.role candidate.id with
    | none => pure false
    | some r =>
      if r.state = .new then
        match fit offer r with
        | .error _ => pure false
        | .ok ports =>
          let now ← now
          let staged := r.staged offer ports now
          match ← attempt (Records.save staged) with
          | .error _ => pure false
          | .ok () =>
            let info := TaskInfo.ofRecord staged offer.agentId
            match ← attempt (call (.launching offer.id [info] none)) with
            | .ok () => pure true
            | .error _ =>
              revertLaunch r offer
              pure false
      else pure false

/-- Go through offers in order, each for the first of the eligible tasks that it fits. -/
def matchOffers (eligible : List TaskRecord) : List Offer → Run OfferPass
  | [] => pure ⟨[], .ok 0⟩
  | offer :: rest =>
    match takeFitting? offer eligible with
    | none => do return (← matchOffers eligible rest).decline offer.id
    | some (r, others) => do
      match ← attempt (launch offer r) with
      | .ok true => return (← matchOffers others rest).launch
      | .ok false => return (← matchOffers others rest).decline offer.id
      | .error e => return ⟨offer.id :: rest.map (·.id), .error e⟩

/-- Go through offers with the tasks that are eligible now, oldest first. -/
def passOffers (offers : List Offer) : Run OfferPass := do
  match ← attempt Records.listAll with
  | .error e => pure ⟨offers.map (·.id), .error e⟩
  | .ok records =>
    let eligible := (records.filter fun r => r.state = .new).mergeSort TaskRecord.isBefore
    matchOffers eligible offers

/-- Give offers back, if there are any. -/
def declineOffers (offers : List Id) (refuseSeconds : Option Binary64) : Run Unit :=
  if offers.isEmpty then pure () else call (.declining offers refuseSeconds)

/-- Use offers and give back what is not used. A fault of the pass is reported before a fault of
giving back. -/
def handleOffers (offers : List Offer) : Run Unit := do
  let cfg ← snapshot
  let pass ← passOffers offers
  let given ← attempt (declineOffers pass.declined cfg.refuseSeconds?)
  let launched ← ofExcept pass.launched
  ofExcept given
  if 0 < launched then
    let _ ← evaluate false

end Run

end Scheduling

end Stevedore
