import Stevedore.Cluster.TaskRecord

/-!
# Host ports

Which host ports are taken, and which one is taken next. A port that is left to an offer takes
none until the offer has supplied it.
-/

namespace Stevedore

namespace Ports

/-- The first of `count` ports from `low` upwards that is not taken. -/
def lowestFree? (taken : List UInt32) (low : Nat) : Nat → Option UInt32
  | 0 => none
  | count + 1 =>
    if UInt32.ofNat low ∈ taken then lowestFree? taken (low + 1) count
    else some (UInt32.ofNat low)

/-- The lowest port from `first` to `last` that is not taken. -/
def allocate? (taken : List UInt32) (first last : UInt32) : Option UInt32 :=
  lowestFree? taken first.toNat (last.toNat + 1 - first.toNat)

/-- The host ports that records take for themselves. A task that has stopped takes none. -/
def used (records : List TaskRecord) : List UInt32 :=
  (records.filter fun r => !r.state.isTerminal).flatMap fun r =>
    (r.container.ports.filter fun p => !p.isDynamic).map (·.hostPort)

/-- Ports in ascending order, each once. -/
def ascending (ports : List UInt32) : List UInt32 :=
  (ports.mergeSort fun a b => decide (a ≤ b)).eraseReps

end Ports

end Stevedore
