import Stevedore.Proofs.Creation
import Stevedore.Proofs.Sections

/-!
# The life of a record over whole runs

Whatever the order in which critical sections run, and wherever processes end in between, the record
of a task only moves forward, never stops while it is stored, and does not come back once it is
gone.

The invariant is `Sound`: every record lies under its own key, is alive, shares its id with no other
record, and has an id that was drawn. What sections do to it is said once, by `Evolves`.
-/

namespace Stevedore.Scheduling

open Manager (Offer TaskStatus)
open Store (Memory)

variable {s : Surroundings} {store store' store'' : Memory} {ids ids' ids'' : Nat}

/-! ### Sound stores -/

/-- The records of a store after some ids have been drawn. -/
structure Sound (s : Surroundings) (store : Memory) (ids : Nat) : Prop where
  /-- Every record lies under its own key. -/
  placed : ∀ {key r}, store.record? key = some r → r.storeKey = key
  /-- No record is that of a task that has stopped. -/
  alive : ∀ {key r}, store.record? key = some r → r.state.isTerminal = false
  /-- No two records have the same id. -/
  single : ∀ {key key' r r'}, store.record? key = some r → store.record? key' = some r' →
    r.id = r'.id → key = key'
  /-- Every record has an id that was drawn. -/
  drawn : ∀ {key r}, store.record? key = some r → ∃ n < ids, s.taskId n = r.id

theorem sound_of_empty (h : ∀ key, store.record? key = none) : Sound s store ids where
  placed hr := by simp [h] at hr
  alive hr := by simp [h] at hr
  single hr := by simp [h] at hr
  drawn hr := by simp [h] at hr

/-- A record of the same task that is not behind. -/
structure Follows (r r' : TaskRecord) : Prop where
  id : r'.id = r.id
  framework : r'.framework = r.framework
  role : r'.role = r.role
  rank : r.state.rank ≤ r'.state.rank
  alive : r.state.isTerminal = false → r'.state.isTerminal = false

namespace Follows

theorem refl (r : TaskRecord) : Follows r r :=
  ⟨rfl, rfl, rfl, le_rfl, fun halive => halive⟩

theorem trans {r r' r'' : TaskRecord} (h : Follows r r') (h' : Follows r' r'') : Follows r r'' where
  id := h'.id.trans h.id
  framework := h'.framework.trans h.framework
  role := h'.role.trans h.role
  rank := h.rank.trans h'.rank
  alive halive := h'.alive (h.alive halive)

theorem storeKey {r r' : TaskRecord} (h : Follows r r') : r'.storeKey = r.storeKey := by
  rw [TaskRecord.storeKey, h.framework, h.role, h.id, TaskRecord.storeKey]

end Follows

/-- Where a record comes from: from a record under the same key that it follows, or from a creation
with an id that has been drawn since. -/
inductive Origin (s : Surroundings) (store : Memory) (ids ids' : Nat) (key : String)
    (r' : TaskRecord) : Prop
  | kept {r : TaskRecord} (found : store.record? key = some r) (follows : Follows r r')
  | created {n : Nat} (since : ids ≤ n) (drawn : n < ids') (id : s.taskId n = r'.id)

/-- From one store to another every record has an origin, and the invariant is kept. -/
structure Evolves (s : Surroundings) (store : Memory) (ids : Nat) (store' : Memory) (ids' : Nat) :
    Prop where
  ids_le : ids ≤ ids'
  sound : Sound s store ids → Sound s store' ids'
  origin : Sound s store ids → ∀ {key r'}, store'.record? key = some r' →
    Origin s store ids ids' key r'

namespace Evolves

theorem refl (s : Surroundings) (store : Memory) (ids : Nat) : Evolves s store ids store ids :=
  ⟨le_rfl, id, fun _ _ r hr => .kept hr (Follows.refl r)⟩

theorem trans (h : Evolves s store ids store' ids') (h' : Evolves s store' ids' store'' ids'') :
    Evolves s store ids store'' ids'' where
  ids_le := h.ids_le.trans h'.ids_le
  sound hsound := h'.sound (h.sound hsound)
  origin hsound key r'' hr'' := by
    cases h'.origin (h.sound hsound) hr'' with
    | created hsince hdrawn hid => exact .created (h.ids_le.trans hsince) hdrawn hid
    | kept hr' hfollows' =>
      cases h.origin hsound hr' with
      | created hsince hdrawn hid =>
        exact .created hsince (hdrawn.trans_le h'.ids_le) (hid.trans hfollows'.id.symm)
      | kept hr hfollows => exact .kept hr (hfollows.trans hfollows')

/-- Records that only follow those that were there keep the invariant. -/
theorem of_follows (hle : ids ≤ ids')
    (h : Sound s store ids → ∀ {key r'}, store'.record? key = some r' →
      ∃ r, store.record? key = some r ∧ Follows r r') :
    Evolves s store ids store' ids' where
  ids_le := hle
  sound hsound := by
    refine ⟨fun hr' => ?_, fun hr' => ?_, fun hr₁' hr₂' heq => ?_, fun hr' => ?_⟩
    · obtain ⟨r, hr, hfollows⟩ := h hsound hr'
      exact hfollows.storeKey.trans (hsound.placed hr)
    · obtain ⟨r, hr, hfollows⟩ := h hsound hr'
      exact hfollows.alive (hsound.alive hr)
    · obtain ⟨r₁, hr₁, hfollows₁⟩ := h hsound hr₁'
      obtain ⟨r₂, hr₂, hfollows₂⟩ := h hsound hr₂'
      exact hsound.single hr₁ hr₂ (hfollows₁.id.symm.trans (heq.trans hfollows₂.id))
    · obtain ⟨r, hr, hfollows⟩ := h hsound hr'
      obtain ⟨n, hn, hid⟩ := hsound.drawn hr
      exact ⟨n, hn.trans_le hle, hid.trans hfollows.id.symm⟩
  origin hsound key r' hr' := by
    obtain ⟨r, hr, hfollows⟩ := h hsound hr'
    exact .kept hr hfollows

end Evolves

/-! ### Changes of a single key -/

theorem exists_follows_put {key : String} {r r' : TaskRecord} (hsound : Sound s store ids)
    (hfound : store.record? key = some r) (hfollows : Follows r r') {other : String}
    {x : TaskRecord} (hx : (store.put r').record? other = some x) :
    ∃ r₀, store.record? other = some r₀ ∧ Follows r₀ x := by
  have hkey : r'.storeKey = key := hfollows.storeKey.trans (hsound.placed hfound)
  obtain ⟨rfl, rfl⟩ | ⟨-, hx⟩ := Memory.record?_put_cases hx
  · exact ⟨r, by rw [hkey]; exact hfound, hfollows⟩
  · exact ⟨x, hx, Follows.refl x⟩

theorem evolves_put {key : String} {r r' : TaskRecord} (hfound : store.record? key = some r)
    (hfollows : Follows r r') : Evolves s store ids (store.put r') ids :=
  .of_follows le_rfl fun hsound _ _ hx => exists_follows_put hsound hfound hfollows hx

/-- A record that replaces one that has just been saved. -/
theorem record?_put_put {r r' : TaskRecord} (h : r.storeKey = r'.storeKey) (key : String) :
    ((store.put r).put r').record? key = (store.put r').record? key := by
  by_cases hkey : key = r'.storeKey
  · subst hkey
    rw [Memory.record?_put_self, Memory.record?_put_self]
  · rw [Memory.record?_put_of_ne hkey, Memory.record?_put_of_ne hkey,
      Memory.record?_put_of_ne (h ▸ hkey)]

theorem evolves_put_put {key : String} {r r₁ r₂ : TaskRecord} (hfound : store.record? key = some r)
    (hkeys : r₁.storeKey = r₂.storeKey) (hfollows : Follows r r₂) :
    Evolves s store ids ((store.put r₁).put r₂) ids := by
  refine .of_follows le_rfl fun hsound key' x hx => ?_
  rw [record?_put_put hkeys] at hx
  exact exists_follows_put hsound hfound hfollows hx

theorem evolves_erase (key : String) : Evolves s store ids (store.erase key) ids := by
  refine .of_follows le_rfl fun _ other x hx => ?_
  by_cases hother : other = key
  · subst hother
    rw [Memory.record?_erase_self] at hx
    cases hx
  · rw [Memory.record?_erase_of_ne hother] at hx
    exact ⟨x, hx, Follows.refl x⟩

/-- A text that holds no record may replace anything. -/
theorem evolves_set {key text : String} (h : (Records.ofStored? text : Option TaskRecord) = none) :
    Evolves s store ids (store.set key text) ids := by
  refine .of_follows le_rfl fun _ other x hx => ?_
  by_cases hother : other = key
  · subst hother
    rw [Memory.record?_set_self, h] at hx
    cases hx
  · rw [Memory.record?_set_of_ne hother] at hx
    exact ⟨x, hx, Follows.refl x⟩

theorem evolves_ids (hle : ids ≤ ids') : Evolves s store ids store ids' :=
  .of_follows hle fun _ _ x hx => ⟨x, hx, Follows.refl x⟩

/-- The record of a task whose id has just been drawn may be added. -/
theorem evolves_create (hfresh : Function.Injective s.taskId) {r : TaskRecord}
    (hid : r.id = s.taskId ids) (halive : r.state.isTerminal = false) :
    Evolves s store ids (store.put r) (ids + 1) := by
  have hother : Sound s store ids → ∀ {key x}, store.record? key = some x → x.id ≠ r.id := by
    intro hsound key x hx heq
    obtain ⟨n, hn, hdrawn⟩ := hsound.drawn hx
    exact hn.ne (hfresh (hdrawn.trans (heq.trans hid)))
  refine ⟨Nat.le_succ ids, fun hsound => ⟨?_, ?_, ?_, ?_⟩, fun hsound key x hx => ?_⟩
  · intro key x hx
    obtain ⟨rfl, rfl⟩ | ⟨-, hx⟩ := Memory.record?_put_cases hx
    · rfl
    · exact hsound.placed hx
  · intro key x hx
    obtain ⟨-, rfl⟩ | ⟨-, hx⟩ := Memory.record?_put_cases hx
    · exact halive
    · exact hsound.alive hx
  · intro key key' x x' hx hx' heq
    obtain ⟨rfl, rfl⟩ | ⟨-, hx⟩ := Memory.record?_put_cases hx <;>
      obtain ⟨rfl, rfl⟩ | ⟨-, hx'⟩ := Memory.record?_put_cases hx'
    · rfl
    · exact absurd heq.symm (hother hsound hx')
    · exact absurd heq (hother hsound hx)
    · exact hsound.single hx hx' heq
  · intro key x hx
    obtain ⟨-, rfl⟩ | ⟨-, hx⟩ := Memory.record?_put_cases hx
    · exact ⟨ids, Nat.lt_succ_self ids, hid.symm⟩
    · obtain ⟨n, hn, hdrawn⟩ := hsound.drawn hx
      exact ⟨n, Nat.lt_succ_of_lt hn, hdrawn⟩
  · obtain ⟨-, rfl⟩ | ⟨-, hx⟩ := Memory.record?_put_cases hx
    · exact .created le_rfl (Nat.lt_succ_self ids) hid.symm
    · exact .kept hx (Follows.refl x)

/-! ### Sections -/

theorem follows_promoted {r : TaskRecord} (h : r.state = .unset) (now : UInt64) :
    Follows r (promoted r now) :=
  ⟨rfl, rfl, rfl, by rw [h]; exact Nat.zero_le _, fun _ => rfl⟩

theorem follows_staged {r : TaskRecord} (h : r.state = .new) (offer : Offer)
    (ports : List PortMapping) (now : UInt64) : Follows r (r.staged offer ports now) :=
  ⟨rfl, rfl, rfl, by rw [h]; exact Nat.le_succ 1, fun _ => rfl⟩

theorem follows_unstaged {r : TaskRecord} (h : r.state = .new) (now : UInt64) :
    Follows r (r.unstaged now) :=
  ⟨rfl, rfl, rfl, by rw [h]; exact le_rfl, fun _ => rfl⟩

theorem follows_advanced {r : TaskRecord} {next : TaskState}
    (hlegal : r.state.canBecome next = true) (halive : next.isTerminal = false)
    (status : TaskStatus) (now : UInt64) : Follows r (r.advanced next status now) := by
  refine ⟨rfl, rfl, rfl, ?_, fun _ => halive⟩
  simp only [TaskState.canBecome, Bool.and_eq_true, decide_eq_true_eq] at hlegal
  exact hlegal.2

theorem Promotion.evolves {candidate : TaskRecord} {name : String} {result : Except Fault Bool}
    {issued : List Issue} (h : Promotion candidate name store result store' issued) :
    Evolves s store ids store' ids := by
  cases h with
  | idle => exact .refl s store ids
  | done found wanted => exact evolves_put found (follows_promoted wanted _)

theorem Launching.evolves {offer : Offer} {candidate : TaskRecord} {name : String}
    {result : Except Fault Bool} {issued : List Issue}
    (h : Launching offer candidate name store result store' issued) :
    Evolves s store ids store' ids := by
  cases h with
  | idle => exact .refl s store ids
  | launched h => exact evolves_put h.found (follows_staged h.eligible _ _ _)
  | reverted h => exact evolves_put_put h.found rfl (follows_unstaged h.eligible _)
  | stuck h => exact evolves_put h.found (follows_staged h.eligible _ _ _)

theorem Updating.evolves {status : TaskStatus} {name : String} {result : Except Fault Unit}
    {issued : List Issue} (h : Updating status name store result store' issued) :
    Evolves s store ids store' ids := by
  cases h with
  | idle => exact .refl s store ids
  | advanced found legal launched =>
    exact evolves_put found (follows_advanced legal (TaskState.not_isTerminal launched) _ _)
  | removed => exact evolves_erase _

theorem Retirement.evolves {candidate : TaskRecord} {name : String} {result : Except Fault Bool}
    {issued : List Issue} (h : Retirement candidate name store result store' issued) :
    Evolves s store ids store' ids := by
  cases h with
  | idle => exact .refl s store ids
  | removed => exact evolves_erase _

/-- A critical section, or the end of a process and the start of the next one. -/
inductive Section where
  /-- Make a wanted task eligible. -/
  | promote (candidate : TaskRecord)
  /-- Launch a task on an offer. -/
  | launch (offer : Offer) (candidate : TaskRecord)
  /-- Take a report on a task. -/
  | update (status : TaskStatus)
  /-- Stop a task and remove its record. -/
  | retire (candidate : TaskRecord)
  /-- Create the record of a new task. -/
  | create (role : Role) (cfg : Config) (identity : Identity) (used : List UInt32)
  /-- End the process and start another one on the same store. -/
  | restart (cfg : Config)

/-- What a section makes of the world. -/
def Section.run (s : Surroundings) (w : World) : Section → World
  | promote candidate => (Run.promoteOne candidate s w).2
  | launch offer candidate => (Run.launch offer candidate s w).2
  | update status => (Run.handleUpdate status s w).2
  | retire candidate => (Run.retire candidate s w).2
  | create role cfg identity used => (Run.createRecord role cfg identity used s w).2
  | restart cfg => w.restart cfg

/-- What sections make of the world, one after the other. -/
def runSections (s : Surroundings) (w : World) (sections : List Section) : World :=
  sections.foldl (Section.run s) w

/-- How the records of a world's store evolve. -/
def World.Evolves (s : Surroundings) (w w' : World) : Prop :=
  Scheduling.Evolves s w.store w.tally.ids w'.store w'.tally.ids

theorem Run.Does.evolves {α : Type} {m : Run α}
    {spec : String → Memory → Except Fault α → Memory → List Issue → Prop} (h : Run.Does m spec)
    (hspec : ∀ {name store result store' issued ids}, spec name store result store' issued →
      Evolves s store ids store' ids) (w : World) : w.Evolves s (m s w).2 := by
  obtain ⟨result, store, issued, w', hrun, hmoves, hdone⟩ := h s w
  rw [hrun]
  unfold World.Evolves
  rw [hmoves.store, hmoves.ids]
  exact hspec hdone

theorem evolves_createRecord (hfresh : Function.Injective s.taskId) (role : Role) (cfg : Config)
    (identity : Identity) (used : List UInt32) (w : World) :
    w.Evolves s (Run.createRecord role cfg identity used s w).2 := by
  rw [Run.createRecord_run]
  cases hnew : newRecord? cfg identity used role (s.taskId w.tally.ids) (s.clock w.tally.times) with
  | none => exact evolves_ids (Nat.le_succ _)
  | some r =>
    cases hfault : s.writeFault w.tally.writes with
    | some reason => exact evolves_ids (Nat.le_succ _)
    | none =>
      have hstarted := started_of_newRecord? hnew
      exact evolves_create hfresh hstarted.id (by rw [hstarted.state]; rfl)

/-- **What one section does to the records.** -/
theorem evolves_section (hfresh : Function.Injective s.taskId) (w : World) (x : Section) :
    w.Evolves s (x.run s w) := by
  cases x with
  | promote candidate => exact (Run.does_promoteOne candidate).evolves Promotion.evolves w
  | launch offer candidate => exact (Run.does_launch offer candidate).evolves Launching.evolves w
  | update status => exact (Run.does_handleUpdate status).evolves Updating.evolves w
  | retire candidate => exact (Run.does_retire candidate).evolves Retirement.evolves w
  | create role cfg identity used => exact evolves_createRecord hfresh role cfg identity used w
  | restart cfg => exact .refl s w.store w.tally.ids

/-- **What a run of sections does to the records.** -/
theorem evolves_runSections (hfresh : Function.Injective s.taskId) (sections : List Section)
    (w : World) : w.Evolves s (runSections s w sections) := by
  induction sections generalizing w with
  | nil => exact .refl s w.store w.tally.ids
  | cons x rest ih => exact (evolves_section hfresh w x).trans (ih (x.run s w))

/-! ### Whole lives -/

/-- A record is stored under some key. -/
def World.Stores (w : World) (r : TaskRecord) : Prop :=
  ∃ key, w.store.record? key = some r

theorem rank_le_of_evolves {w w' : World} (hfresh : Function.Injective s.taskId)
    (hsound : Sound s w.store w.tally.ids) (h : w.Evolves s w') {r r' : TaskRecord}
    (hr : w.Stores r) (hr' : w'.Stores r') (hid : r'.id = r.id) : r.state.rank ≤ r'.state.rank := by
  obtain ⟨key, hkey⟩ := hr
  obtain ⟨key', hkey'⟩ := hr'
  obtain ⟨n, hn, hdrawn⟩ := hsound.drawn hkey
  cases h.origin hsound hkey' with
  | created hsince _ hcreated =>
    have heq : n = _ := hfresh (hdrawn.trans (hid.symm.trans hcreated.symm))
    omega
  | kept hold hfollows =>
    have hsame := hsound.single hkey hold (hid.symm.trans hfollows.id)
    subst hsame
    rw [hkey] at hold
    cases hold
    exact hfollows.rank

theorem not_stores_of_evolves {w w' : World} (hfresh : Function.Injective s.taskId)
    (hsound : Sound s w.store w.tally.ids) (h : w.Evolves s w') {n : Nat} (hn : n < w.tally.ids)
    (hgone : ∀ r, w.Stores r → r.id ≠ s.taskId n) {r' : TaskRecord} (hr' : w'.Stores r') :
    r'.id ≠ s.taskId n := by
  intro hid
  obtain ⟨key', hkey'⟩ := hr'
  cases h.origin hsound hkey' with
  | created hsince _ hcreated =>
    have heq := hfresh (hcreated.trans hid)
    omega
  | kept hold hfollows => exact hgone _ ⟨key', hold⟩ (hfollows.id.symm.trans hid)

/-- **Records only move forward, are never those of stopped tasks, and do not come back.** Take any
sections that follow a world without records, cut anywhere into three. A record that is stored at
the first cut is not that of a stopped task; what is stored at the second cut for the same task is
not behind it; and if nothing is, then nothing is at the end. -/
theorem records_move_forward (hfresh : Function.Injective s.taskId) {w : World}
    (hempty : ∀ key, w.store.record? key = none) (before between after : List Section)
    {w₁ w₂ w₃ : World} (h₁ : w₁ = runSections s w before) (h₂ : w₂ = runSections s w₁ between)
    (h₃ : w₃ = runSections s w₂ after) {r₁ : TaskRecord} (hr₁ : w₁.Stores r₁) :
    r₁.state.isTerminal = false ∧
      (∀ r₂, w₂.Stores r₂ → r₂.id = r₁.id → r₁.state.rank ≤ r₂.state.rank) ∧
      ((∀ r₂, w₂.Stores r₂ → r₂.id ≠ r₁.id) → ∀ r₃, w₃.Stores r₃ → r₃.id ≠ r₁.id) := by
  have hevolves₁ : w.Evolves s w₁ := h₁ ▸ evolves_runSections hfresh before w
  have hevolves₂ : w₁.Evolves s w₂ := h₂ ▸ evolves_runSections hfresh between w₁
  have hevolves₃ : w₂.Evolves s w₃ := h₃ ▸ evolves_runSections hfresh after w₂
  have hsound₁ := hevolves₁.sound (sound_of_empty hempty)
  have hsound₂ := hevolves₂.sound hsound₁
  obtain ⟨key, hkey⟩ := hr₁
  obtain ⟨n, hn, hid⟩ := hsound₁.drawn hkey
  refine ⟨hsound₁.alive hkey, fun r₂ hr₂ heq => ?_, fun hgone r₃ hr₃ => ?_⟩
  · exact rank_le_of_evolves hfresh hsound₁ hevolves₂ ⟨key, hkey⟩ hr₂ heq
  · rw [← hid] at hgone ⊢
    exact not_stores_of_evolves hfresh hsound₂ hevolves₃ (hn.trans_le hevolves₂.ids_le) hgone hr₃

/-- The life of the first agent: it is created, becomes eligible, and is retired. -/
theorem records_move_forward_agent :
    let w : World := .start {} {} .stored
    let w₁ := runSections .calm w [.create .agent {} .fresh []]
    Function.Injective Surroundings.calm.taskId ∧ (∀ key, w.store.record? key = none) ∧
      ∃ r₁, w₁.Stores r₁ ∧ r₁.state.isTerminal = false ∧
        (∀ r₂, (runSections .calm w₁ [.promote r₁]).Stores r₂ → r₂.id = r₁.id →
          r₁.state.rank ≤ r₂.state.rank) ∧
        ((∀ r₂, (runSections .calm w₁ [.retire r₁]).Stores r₂ → r₂.id ≠ r₁.id) →
          ∀ r₃, (runSections .calm (runSections .calm w₁ [.retire r₁])
            [.restart {}, .promote r₁]).Stores r₃ → r₃.id ≠ r₁.id) := by
  have hempty : ∀ key, (World.start {} {} .stored).store.record? key = none := fun _ => rfl
  refine ⟨Surroundings.calm_taskId_injective, hempty, ?_⟩
  obtain ⟨r, hr⟩ : ∃ r, newRecord? {} .fresh [] .agent (Surroundings.calm.taskId 0)
      (Surroundings.calm.clock 0) = some r := by
    apply Option.isSome_iff_exists.1
    decide +kernel
  have hstored :
      (runSections .calm (.start {} {} .stored) [.create .agent {} .fresh []]).Stores r := by
    refine ⟨r.storeKey, ?_⟩
    show (Run.createRecord _ _ _ _ _ _).2.store.record? _ = _
    rw [Run.store_createRecord hr rfl]
    exact Memory.record?_put_of_finite _ ((started_of_newRecord? hr).finite Config.finite_default)
  have hpromoted := records_move_forward Surroundings.calm_taskId_injective hempty
    [.create .agent {} .fresh []] [.promote r] [] rfl rfl rfl hstored
  have hretired := records_move_forward Surroundings.calm_taskId_injective hempty
    [.create .agent {} .fresh []] [.retire r] [.restart {}, .promote r] rfl rfl rfl hstored
  exact ⟨r, hstored, hpromoted.1, hpromoted.2.1, hretired.2.2⟩

end Stevedore.Scheduling
