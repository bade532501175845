import Mathlib.Data.List.Dedup
import Mathlib.Logic.Relation
import Stevedore.Proofs.KeyMap
import Stevedore.Scheduling.LockTable

/-!
# Locks stay exclusive

However locks are asked for, granted, given back and given up, at most one guard of an id is alive
(`locks_stay_exclusive`), although a table that has grown large forgets locks and makes new ones for
the same ids later. What carries this is `Sound`: as long as a request for an id is open, the table
lists the lock that the request found, and no two ids share a lock. Pruning keeps it, because an
entry that nobody else refers to is one whose id has no open request (`inUse_iff`).
-/

namespace Stevedore.Scheduling

namespace LockTable

variable {t : LockTable} {k : Ticket} {id : String} {lock : Nat}

/-- The ids whose locks somebody holds or awaits, each once. -/
def idsInUse (t : LockTable) : List String := (t.tickets.map (·.id)).dedup

/-- How often a lock is referred to, by entries of the table and by open requests. -/
def references (t : LockTable) (lock : Nat) : Nat :=
  t.locks.entries.countP (fun e => e.2 == lock) + t.tickets.countP (fun k => k.lock == lock)

theorem mem_idsInUse : id ∈ t.idsInUse ↔ ∃ k ∈ t.tickets, k.id = id := by
  simp [idsInUse]

theorem inUse_iff_exists : t.inUse lock = true ↔ ∃ k ∈ t.tickets, k.lock = lock := by
  simp [inUse]

/-- The locks that the table lists and those of the open requests fit together. -/
structure Sound (t : LockTable) : Prop where
  /-- An open request awaits the lock that the table lists, or holds it. -/
  listed : ∀ k ∈ t.tickets, t.locks.get? k.id = some k.lock
  /-- No two ids have the same lock. -/
  unshared : ∀ {id id' lock}, t.locks.get? id = some lock → t.locks.get? id' = some lock → id = id'
  /-- The next lock is a new one. -/
  made : ∀ {id lock}, t.locks.get? id = some lock → lock < t.made

theorem sound_fresh : Sound fresh where
  listed _ h := by cases h
  unshared h := by cases h
  made h := by cases h

namespace Sound

theorem lock_eq_iff {k' : Ticket} (h : Sound t) (hk : k ∈ t.tickets) (hk' : k' ∈ t.tickets) :
    k.lock = k'.lock ↔ k.id = k'.id := by
  constructor
  · intro hlock
    exact h.unshared (h.listed k hk) (hlock ▸ h.listed k' hk')
  · intro hid
    have hfound := h.listed k hk
    rw [hid, h.listed k' hk'] at hfound
    exact (Option.some.inj hfound).symm

/-- A lock that is listed for an id is in use exactly if a request for the id is open. -/
theorem inUse_iff_open (h : Sound t) (hfound : t.locks.get? id = some lock) :
    t.inUse lock = true ↔ ∃ k ∈ t.tickets, k.id = id := by
  rw [inUse_iff_exists]
  constructor
  · rintro ⟨k, hk, rfl⟩
    exact ⟨k, hk, h.unshared (h.listed k hk) hfound⟩
  · rintro ⟨k, hk, rfl⟩
    refine ⟨k, hk, Option.some.inj ?_⟩
    rw [← h.listed k hk, hfound]

theorem prune (h : Sound t) : Sound t.prune := by
  unfold LockTable.prune
  split
  · refine ⟨fun k hk => ?_, fun hfound hfound' => ?_, fun hfound => ?_⟩
    · exact KeyMap.get?_filter_eq_some_iff.2 ⟨h.listed k hk, inUse_iff_exists.2 ⟨k, hk, rfl⟩⟩
    · exact h.unshared (KeyMap.get?_filter_eq_some_iff.1 hfound).1
        (KeyMap.get?_filter_eq_some_iff.1 hfound').1
    · exact h.made (KeyMap.get?_filter_eq_some_iff.1 hfound).1
  · exact h

theorem countP_entries (h : Sound t) (hfound : t.locks.get? id = some lock) :
    t.locks.entries.countP (fun e => e.2 == lock) = 1 := by
  refine Nat.le_antisymm ?_ (List.countP_pos_iff.2 ?_)
  · have hsubset : t.locks.entries.filter (fun e => e.2 == lock) ⊆ [(id, lock)] := by
      intro e he
      obtain ⟨hmem, hlock⟩ := List.mem_filter.1 he
      have hlock : e.2 = lock := beq_iff_eq.1 hlock
      have hid : e.1 = id := h.unshared (KeyMap.get?_eq_some_iff.2 hmem) (hlock ▸ hfound)
      rw [List.mem_singleton, ← hid, ← hlock]
    have hnodup : t.locks.entries.Nodup := List.Nodup.of_map _ t.locks.nodup_keys
    rw [List.countP_eq_length_filter]
    exact (List.subperm_of_subset (hnodup.filter _) hsubset).length_le
  · exact ⟨_, KeyMap.get?_eq_some_iff.1 hfound, beq_self_eq_true lock⟩

/-- A lock that the table lists is in use exactly if it is referred to more than once. -/
theorem inUse_iff (h : Sound t) (hfound : t.locks.get? id = some lock) :
    t.inUse lock = true ↔ 1 < t.references lock := by
  rw [references, h.countP_entries hfound, inUse_iff_exists, Nat.lt_add_right_iff_pos,
    List.countP_pos_iff]
  simp

/-- **What pruning drops are the entries whose locks nobody else refers to.** -/
theorem prune_eq (h : Sound t) :
    t.prune = if pruneAt ≤ t.size then
      { t with locks := t.locks.filter fun _ lock => 1 < t.references lock } else t := by
  have hfilter : (t.locks.filter fun _ lock => t.inUse lock) =
      t.locks.filter fun _ lock => 1 < t.references lock := by
    unfold KeyMap.filter
    congr 1
    refine List.filter_congr fun e he => ?_
    rw [Bool.eq_iff_iff, decide_eq_true_iff]
    exact h.inUse_iff (KeyMap.get?_eq_some_iff.2 he)
  rw [LockTable.prune, hfilter]

theorem release (h : Sound t) (k : Ticket) : Sound (t.release k) where
  listed k' hk' := h.listed k' (List.mem_filter.1 hk').1
  unshared := h.unshared
  made := h.made

end Sound

/-! ### Requests -/

theorem tickets_prune (t : LockTable) : t.prune.tickets = t.tickets := by
  unfold prune
  split <;> rfl

/-- What a look-up in the table yields: the lock that is listed for the id, or a new one. -/
inductive Supplied (t : LockTable) (id : String) : Nat × LockTable → Prop
  | listed {found : Nat} (h : t.locks.get? id = some found) : Supplied t id (found, t)
  | made (h : t.locks.get? id = none) :
      Supplied t id (t.made, { t with locks := t.locks.insert id t.made, made := t.made + 1 })

theorem supplied_entry (t : LockTable) (id : String) : Supplied t id (t.entry id) := by
  unfold entry
  cases h : t.locks.get? id with
  | some lock => exact .listed h
  | none => exact .made h

namespace Supplied

variable {out : Nat × LockTable}

theorem tickets (h : Supplied t id out) : out.2.tickets = t.tickets := by
  cases h <;> rfl

theorem get?_self (h : Supplied t id out) : out.2.locks.get? id = some out.1 := by
  cases h with
  | listed h => exact h
  | made => exact KeyMap.get?_insert_self

theorem get?_of_ne (h : Supplied t id out) {other : String} (hne : other ≠ id) :
    out.2.locks.get? other = t.locks.get? other := by
  cases h with
  | listed => rfl
  | made => exact KeyMap.get?_insert_of_ne hne

theorem size_le (h : Supplied t id out) : out.2.size ≤ t.size + 1 := by
  cases h with
  | listed => exact Nat.le_succ _
  | made => exact KeyMap.size_insert_le

theorem sound (h : Supplied t id out) (hsound : Sound t) : Sound out.2 := by
  cases h with
  | listed => exact hsound
  | made hnone =>
    have hold : ∀ {other found}, (t.locks.insert id t.made).get? other = some found →
        other = id ∧ found = t.made ∨ other ≠ id ∧ t.locks.get? other = some found := by
      intro other found hfound
      by_cases heq : other = id
      · subst heq
        rw [KeyMap.get?_insert_self] at hfound
        exact Or.inl ⟨rfl, (Option.some.inj hfound).symm⟩
      · rw [KeyMap.get?_insert_of_ne heq] at hfound
        exact Or.inr ⟨heq, hfound⟩
    refine ⟨fun k hk => ?_, fun {id₁ id₂ found} hfound hfound' => ?_,
      fun {other found} hfound => ?_⟩
    · have hfound := hsound.listed k hk
      have hne : k.id ≠ id := by
        intro heq
        rw [heq, hnone] at hfound
        cases hfound
      exact (KeyMap.get?_insert_of_ne hne).trans hfound
    · -- the new lock has a number that no listed one has
      obtain ⟨rfl, rfl⟩ | ⟨-, hlisted⟩ := hold hfound
      · obtain ⟨rfl, -⟩ | ⟨-, hlisted'⟩ := hold hfound'
        · rfl
        · exact absurd (hsound.made hlisted') (Nat.lt_irrefl _)
      · obtain ⟨-, rfl⟩ | ⟨-, hlisted'⟩ := hold hfound'
        · exact absurd (hsound.made hlisted) (Nat.lt_irrefl _)
        · exact hsound.unshared hlisted hlisted'
    · obtain ⟨-, rfl⟩ | ⟨-, hfound⟩ := hold hfound
      · exact Nat.lt_succ_self _
      · exact Nat.lt_succ_of_lt (hsound.made hfound)

/-- A lock that is supplied for an id without open requests is nobody's. -/
theorem ne_lock (h : Supplied t id out) (hsound : Sound t) (hclosed : ∀ k ∈ t.tickets, k.id ≠ id) :
    ∀ k ∈ t.tickets, k.lock ≠ out.1 := by
  intro k hk heq
  have hlisted := (h.sound hsound).listed k (h.tickets ▸ hk)
  exact hclosed k hk ((h.sound hsound).unshared hlisted (heq ▸ h.get?_self))

end Supplied

theorem tickets_request (t : LockTable) (id : String) :
    (t.request id).2.tickets = t.tickets ++ [(t.request id).1] := by
  have htickets : (t.prune.entry id).2.tickets = t.tickets :=
    (supplied_entry t.prune id).tickets.trans (tickets_prune t)
  unfold request
  dsimp only
  rw [htickets]

/-- **A request keeps the table sound.** -/
theorem Sound.request (h : Sound t) (id : String) : Sound (t.request id).2 := by
  have hsupplied := supplied_entry t.prune id
  have hsound := hsupplied.sound h.prune
  refine ⟨fun k hk => ?_, hsound.unshared, hsound.made⟩
  rw [tickets_request, List.mem_append, List.mem_singleton] at hk
  obtain hk | rfl := hk
  · refine hsound.listed k ?_
    rwa [hsupplied.tickets, tickets_prune]
  · exact hsupplied.get?_self

/-- A request for an id without open requests is granted at once. -/
theorem Sound.isGranted_request (h : Sound t) (hclosed : ∀ k ∈ t.tickets, k.id ≠ id) :
    (t.request id).2.isGranted (t.request id).1 = true := by
  have hfree : ∀ k ∈ t.tickets, ¬ (k.lock == (t.request id).1.lock) = true := by
    intro k hk
    rw [beq_iff_eq]
    exact (supplied_entry t.prune id).ne_lock h.prune (by rwa [tickets_prune]) k
      (by rwa [tickets_prune])
  rw [isGranted, tickets_request, List.find?_append, List.find?_eq_none.2 hfree]
  simp

/-- A table that is pruned lists no id whose lock is not in use. -/
theorem Sound.exists_open_of_prune (h : Sound t) (hlarge : pruneAt ≤ t.size)
    (hfound : t.prune.locks.get? id = some lock) : ∃ k ∈ t.tickets, k.id = id := by
  rw [LockTable.prune, if_pos hlarge] at hfound
  obtain ⟨hlisted, hused⟩ := KeyMap.get?_filter_eq_some_iff.1 hfound
  exact (h.inUse_iff_open hlisted).1 hused

/-- **After a request the table is small, or lists no id whose lock is not in use.** -/
theorem Sound.size_request_le (h : Sound t) (id : String) :
    (t.request id).2.size ≤ max pruneAt (t.request id).2.idsInUse.length := by
  have hsupplied := supplied_entry t.prune id
  by_cases hlarge : pruneAt ≤ t.size
  · refine le_max_of_le_right ?_
    have hsubset : (t.request id).2.locks.keys ⊆ (t.request id).2.idsInUse := by
      intro other hother
      rw [mem_idsInUse, tickets_request]
      by_cases heq : other = id
      · exact ⟨_, List.mem_append_right _ (List.mem_singleton_self _), heq.symm⟩
      · obtain ⟨found, hfound⟩ := Option.isSome_iff_exists.1 (KeyMap.mem_keys_iff.1 hother)
        obtain ⟨k, hk, hid⟩ :=
          h.exists_open_of_prune hlarge ((hsupplied.get?_of_ne heq).symm.trans hfound)
        exact ⟨k, List.mem_append_left _ hk, hid⟩
    have hlength := (List.subperm_of_subset (KeyMap.nodup_keys _) hsubset).length_le
    rwa [KeyMap.keys, List.length_map] at hlength
  · refine le_max_of_le_left ?_
    have hkept : t.prune = t := by rw [LockTable.prune, if_neg hlarge]
    have hsize : (t.request id).2.size ≤ t.prune.size + 1 := hsupplied.size_le
    rw [hkept] at hsize
    omega

end LockTable

/-! ### Guards -/

/-- A table of locks and the guards that are alive, by the requests that they were granted to. -/
structure Guarded where
  /-- The table. -/
  table : LockTable
  /-- The requests whose guards are alive. -/
  guards : List Ticket

namespace Guarded

/-- No locks, no requests, no guards. -/
def fresh : Guarded := ⟨.fresh, []⟩

/-- One thing that may happen. Of the requests that await a lock any may be granted next, as long as
no guard of that very lock is alive. -/
inductive Step : Guarded → Guarded → Prop
  /-- A lock is asked for. -/
  | request (g : Guarded) (id : String) : Step g { g with table := (g.table.request id).2 }
  /-- A request is granted. -/
  | grant {g : Guarded} {k : Ticket} (hopen : k ∈ g.table.tickets)
      (hfree : ∀ k' ∈ g.guards, k'.lock ≠ k.lock) : Step g { g with guards := k :: g.guards }
  /-- A guard is dropped. -/
  | drop {g : Guarded} {k : Ticket} (halive : k ∈ g.guards) :
      Step g ⟨g.table.release k, g.guards.erase k⟩
  /-- A request that has not been granted is given up. -/
  | cancel {g : Guarded} {k : Ticket} (hopen : k ∈ g.table.tickets) (hwaits : k ∉ g.guards) :
      Step g { g with table := g.table.release k }

/-- What may come about. -/
def Reachable (g : Guarded) : Prop := Relation.ReflTransGen Step fresh g

/-- The table is sound, and guards are alive for open requests only, of different locks. -/
structure Sound (g : Guarded) : Prop where
  table : g.table.Sound
  isOpen : g.guards ⊆ g.table.tickets
  apart : g.guards.Pairwise fun k k' => k.lock ≠ k'.lock

variable {g g' : Guarded}

theorem Sound.nodup (h : Sound g) : g.guards.Nodup :=
  h.apart.imp fun hlock heq => hlock (congrArg Ticket.lock heq)

theorem Sound.step (h : Sound g) (hstep : Step g g') : Sound g' := by
  cases hstep with
  | request id =>
    refine ⟨h.table.request id, fun k hk => ?_, h.apart⟩
    rw [LockTable.tickets_request]
    exact List.mem_append_left _ (h.isOpen hk)
  | grant hopen hfree =>
    refine ⟨h.table, List.cons_subset.2 ⟨hopen, h.isOpen⟩, List.pairwise_cons.2 ⟨?_, h.apart⟩⟩
    exact fun k' hk' => (hfree k' hk').symm
  | @drop k halive =>
    refine ⟨h.table.release k, fun k' hk' => ?_, h.apart.sublist List.erase_sublist⟩
    rw [h.nodup.mem_erase_iff] at hk'
    exact List.mem_filter.2 ⟨h.isOpen hk'.2, bne_iff_ne.2 hk'.1⟩
  | @cancel k hopen hwaits =>
    refine ⟨h.table.release k, fun k' hk' => ?_, h.apart⟩
    refine List.mem_filter.2 ⟨h.isOpen hk', bne_iff_ne.2 ?_⟩
    rintro rfl
    exact hwaits hk'

theorem Reachable.sound (h : Reachable g) : Sound g := by
  induction h with
  | refl => exact ⟨LockTable.sound_fresh, List.nil_subset _, .nil⟩
  | tail _ hstep ih => exact ih.step hstep

/-- Where no request for an id is open, a new one may be granted at once. -/
theorem Sound.step_grant (h : Sound g) {id : String} (hclosed : ∀ k ∈ g.table.tickets, k.id ≠ id) :
    Step { g with table := (g.table.request id).2 }
      ⟨(g.table.request id).2, (g.table.request id).1 :: g.guards⟩ := by
  refine .grant (by simp [LockTable.tickets_request]) fun k hk => ?_
  exact (LockTable.supplied_entry g.table.prune id).ne_lock h.table.prune
    (by rwa [LockTable.tickets_prune]) k (by
      rw [LockTable.tickets_prune]
      exact h.isOpen hk)

/-- **Locks stay exclusive.** Whatever has happened, no id has two guards that are alive. The open
requests for one id, granted or not, share one lock, and those for different ids do not; pruning
leaves the entries of all of them in the table. A request for an id without open requests is granted
at once; and after any request the table has no more entries than it may have without being pruned,
or than there are ids whose locks are held or awaited. -/
theorem locks_stay_exclusive (h : Reachable g) :
    (g.guards.map (·.id)).Nodup ∧ g.guards ⊆ g.table.tickets ∧
    (∀ k ∈ g.table.tickets, ∀ k' ∈ g.table.tickets, k.lock = k'.lock ↔ k.id = k'.id) ∧
    (∀ k ∈ g.table.tickets, g.table.prune.locks.get? k.id = some k.lock) ∧
    ∀ id, ((∀ k ∈ g.table.tickets, k.id ≠ id) →
        (g.table.request id).2.isGranted (g.table.request id).1 = true ∧
          Step { g with table := (g.table.request id).2 }
            ⟨(g.table.request id).2, (g.table.request id).1 :: g.guards⟩) ∧
      (g.table.request id).2.size ≤ max pruneAt (g.table.request id).2.idsInUse.length := by
  have hsound := h.sound
  refine ⟨?_, hsound.isOpen, fun k hk k' hk' => hsound.table.lock_eq_iff hk hk',
    fun k hk => ?_, fun id => ⟨fun hclosed => ⟨hsound.table.isGranted_request hclosed,
      hsound.step_grant hclosed⟩, hsound.table.size_request_le id⟩⟩
  · rw [List.Nodup, List.pairwise_map]
    refine List.Pairwise.imp_of_mem (fun {k k'} hk hk' hlock hid => hlock ?_) hsound.apart
    exact (hsound.table.lock_eq_iff (hsound.isOpen hk) (hsound.isOpen hk')).2 hid
  · refine hsound.table.prune.listed k ?_
    rwa [LockTable.tickets_prune]

/-- The lock of one more id may be asked for, granted and given back, before the table is pruned. -/
theorem Reachable.visit (h : Reachable g) {id : String} (hnew : g.table.locks.get? id = none)
    (hroom : g.table.size < pruneAt) :
    ∃ g', Reachable g' ∧ g'.guards = g.guards ∧ g'.table.tickets = g.table.tickets ∧
      g'.table.size = g.table.size + 1 ∧
      ∀ other, other ≠ id → g'.table.locks.get? other = g.table.locks.get? other := by
  have hclosed : ∀ k ∈ g.table.tickets, k.id ≠ id := by
    rintro k hk rfl
    rw [h.sound.table.listed k hk] at hnew
    cases hnew
  have hgranted := (h.tail (.request g id)).tail (h.sound.step_grant hclosed)
  have hdropped := hgranted.tail (.drop List.mem_cons_self)
  rw [List.erase_cons_head] at hdropped
  have hkept : g.table.prune = g.table := by rw [LockTable.prune, if_neg (Nat.not_le.2 hroom)]
  have hlocks : (g.table.request id).2.locks = g.table.locks.insert id g.table.made := by
    unfold LockTable.request LockTable.entry
    rw [hkept, hnew]
  refine ⟨_, hdropped, rfl, ?_, ?_, fun other hne => ?_⟩
  · have hother : ∀ k ∈ g.table.tickets, (k != (g.table.request id).1) = true := by
      intro k hk
      rw [bne_iff_ne]
      rintro rfl
      exact hclosed _ hk rfl
    show (g.table.request id).2.tickets.filter _ = _
    rw [LockTable.tickets_request, List.filter_append, List.filter_eq_self.2 hother]
    simp
  · show (g.table.request id).2.locks.size = _
    rw [hlocks]
    exact KeyMap.size_insert_of_none hnew
  · show (g.table.request id).2.locks.get? other = _
    rw [hlocks]
    exact KeyMap.get?_insert_of_ne hne

theorem Reachable.visits (h : Reachable g) {ids : List String} (hnodup : ids.Nodup)
    (hnew : ∀ id ∈ ids, g.table.locks.get? id = none)
    (hroom : g.table.size + ids.length ≤ pruneAt) :
    ∃ g', Reachable g' ∧ g'.guards = g.guards ∧ g'.table.tickets = g.table.tickets ∧
      g'.table.size = g.table.size + ids.length := by
  induction ids generalizing g with
  | nil => exact ⟨g, h, rfl, rfl, rfl⟩
  | cons id rest ih =>
    rw [List.forall_mem_cons] at hnew
    rw [List.nodup_cons] at hnodup
    rw [List.length_cons] at hroom
    obtain ⟨g₁, h₁, hguards₁, htickets₁, hsize₁, hothers₁⟩ := h.visit hnew.1 (by omega)
    obtain ⟨g₂, h₂, hguards₂, htickets₂, hsize₂⟩ := ih h₁ hnodup.2
      (fun other hother => by
        rw [hothers₁ other fun heq => hnodup.1 (heq ▸ hother)]
        exact hnew.2 other hother) (by omega)
    exact ⟨g₂, h₂, hguards₂.trans hguards₁, htickets₂.trans htickets₁, by
      rw [hsize₂, hsize₁, List.length_cons]
      omega⟩

/-- A table is about to be pruned while one of its many ids is held and awaited. That id keeps its
lock, and all others are forgotten. -/
theorem one_guard_in_a_crowd :
    let held : Ticket := ⟨0, "held", 0⟩
    let waiting : Ticket := ⟨1, "held", 0⟩
    ∃ g : Guarded, Reachable g ∧ g.table.size = pruneAt ∧ g.guards = [held] ∧
      g.table.tickets = [held, waiting] ∧ (g.guards.map (·.id)).Nodup ∧
      (∀ k ∈ g.table.tickets, g.table.prune.locks.get? k.id = some k.lock) ∧
      (∀ id lock, g.table.prune.locks.get? id = some lock → id = "held") ∧
      (g.table.request "new").2.isGranted (g.table.request "new").1 = true := by
  intro held waiting
  let g₀ : Guarded := ⟨((fresh.table.request "held").2.request "held").2, [held]⟩
  have h₀ : Reachable g₀ := by
    have hasked : Reachable { fresh with table := (fresh.table.request "held").2 } :=
      Relation.ReflTransGen.refl.tail (.request fresh "held")
    have hgranted := hasked.tail (.grant (k := held) (by decide +kernel) nofun)
    exact hgranted.tail (.request _ "held")
  have hnodup : ((List.range 255).map fun n => String.ofList (List.replicate n 'a')).Nodup := by
    refine List.Nodup.map (fun m n h => ?_) List.nodup_range
    have hlength := congrArg (fun id => id.toList.length) h
    simpa using hlength
  have hother : ∀ n, g₀.table.locks.get? (String.ofList (List.replicate n 'a')) = none := by
    intro n
    have hne : String.ofList (List.replicate n 'a') ≠ "held" := by
      intro heq
      have hmem : 'h' ∈ List.replicate n 'a' := by
        rw [← String.toList_ofList (l := List.replicate n 'a'), heq]
        decide
      exact absurd (List.eq_of_mem_replicate hmem) (by decide)
    have hlocks : g₀.table.locks = (∅ : KeyMap Nat).insert "held" 0 := by decide +kernel
    rw [hlocks, KeyMap.get?_insert_of_ne hne]
    rfl
  obtain ⟨g, hg, hguards, htickets, hsize⟩ := h₀.visits hnodup
    (fun id hid => by
      obtain ⟨n, -, rfl⟩ := List.mem_map.1 hid
      exact hother n) (by decide +kernel)
  have htickets : g.table.tickets = [held, waiting] := htickets.trans (by decide +kernel)
  have hsize : g.table.size = pruneAt := by
    rw [hsize, List.length_map, List.length_range]
    decide +kernel
  obtain ⟨honce, -, -, hkept, hrequest⟩ := locks_stay_exclusive hg
  refine ⟨g, hg, hsize, hguards, htickets, honce, hkept, fun id lock hfound => ?_,
    ((hrequest "new").1 ?_).1⟩
  · obtain ⟨k, hk, rfl⟩ := hg.sound.table.exists_open_of_prune hsize.ge hfound
    rw [htickets] at hk
    simp only [List.mem_cons, List.not_mem_nil, or_false] at hk
    obtain rfl | rfl := hk <;> rfl
  · rw [htickets]
    decide

end Guarded

end Stevedore.Scheduling
