import Stevedore.Proofs.Composition
import Stevedore.Proofs.Lifecycle

/-!
# What whole operations do

`Conducts` says what all pieces of an operation have in common: the records evolve, a task that has
been launched is neither launched again nor waiting for a launch, and every call that launches a
task follows the record of its launch (`Recorded`). It holds of whole operations, too
(`conducts_of_built`).
-/

namespace Stevedore.Scheduling

open Manager (Call Event Offer TaskInfo TaskStatus)
open Store (Memory)

/-! ### Launched tasks -/

/-- The ids of the tasks that a call has launched, if it has taken effect and was answered. -/
def Issue.launchedIds (i : Issue) : List String :=
  if i.delivery = .applied then (launchedBy i.call).map (·.taskId.value) else []

/-- The ids of the tasks that calls have launched. -/
def launchedIds (issued : List Issue) : List String :=
  issued.flatMap Issue.launchedIds

theorem launchedIds_append (issued issued' : List Issue) :
    launchedIds (issued ++ issued') = launchedIds issued ++ launchedIds issued' :=
  List.flatMap_append

theorem launchedIds_eq_nil {issued : List Issue} (h : ∀ i ∈ issued, i.call.kind ≠ .accept) :
    launchedIds issued = [] := by
  unfold launchedIds
  rw [List.flatMap_eq_nil_iff]
  intro i hi
  unfold Issue.launchedIds
  rw [launchedBy_eq_nil (h i hi)]
  simp

/-- A call that launches a task on one of some offers, made when the store held the text of the very
record that the call describes, staged on the machine of that offer. -/
def Recorded (offers : List Offer) (i : Issue) : Prop :=
  ∃ offer ∈ offers, ∃ r : TaskRecord, i.call = launching offer r ∧
    i.store.get? r.storeKey = some (Json.encode r).render ∧ r.state = .staging ∧
    r.agentId = some offer.agentId.value ∧ r.agentHostname = some offer.hostname

theorem Recorded.mono {offers offers' : List Offer} {i : Issue} (h : Recorded offers i)
    (hsubset : offers ⊆ offers') : Recorded offers' i := by
  obtain ⟨offer, hoffer, hr⟩ := h
  exact ⟨offer, hsubset hoffer, hr⟩

/-- No task was launched twice, and no record waits for the launch of a task that was launched. -/
structure Launched (s : Surroundings) (w : World) : Prop where
  once : (launchedIds w.issued).Nodup
  drawn : ∀ id ∈ launchedIds w.issued, ∃ n < w.tally.ids, s.taskId n = id
  spent : ∀ {key r}, w.store.record? key = some r → r.id ∈ launchedIds w.issued → 2 ≤ r.state.rank

/-- What happens from one world to another when some offers are at hand. -/
structure Conducts (s : Surroundings) (offers : List Offer) (w w' : World) : Prop where
  evolves : w.Evolves s w'
  launched : Sound s w.store w.tally.ids → Launched s w → Launched s w'
  issued : ∃ issued, w'.issued = w.issued ++ issued ∧
    ∀ i ∈ issued, i.call.kind = .accept → Recorded offers i

variable {s : Surroundings} {offers offers' : List Offer} {w w' w'' : World}

namespace Conducts

theorem trans (h : Conducts s offers w w') (h' : Conducts s offers w' w'') :
    Conducts s offers w w'' where
  evolves := Evolves.trans h.evolves h'.evolves
  launched hsound hlaunched := h'.launched (h.evolves.sound hsound) (h.launched hsound hlaunched)
  issued := by
    obtain ⟨issued, hissued, hrecorded⟩ := h.issued
    obtain ⟨issued', hissued', hrecorded'⟩ := h'.issued
    refine ⟨issued ++ issued', ?_, fun i hi hkind => ?_⟩
    · rw [hissued', hissued, List.append_assoc]
    · rcases List.mem_append.1 hi with hi | hi
      · exact hrecorded i hi hkind
      · exact hrecorded' i hi hkind

theorem mono (h : Conducts s offers w w') (hsubset : offers ⊆ offers') :
    Conducts s offers' w w' where
  evolves := h.evolves
  launched := h.launched
  issued := by
    obtain ⟨issued, hissued, hrecorded⟩ := h.issued
    exact ⟨issued, hissued, fun i hi hkind => (hrecorded i hi hkind).mono hsubset⟩

end Conducts

/-- A task that was launched stays beyond its launch. -/
theorem spent_of_evolves (hfresh : Function.Injective s.taskId)
    (hsound : Sound s w.store w.tally.ids) (hlaunched : Launched s w) (h : w.Evolves s w')
    {key : String} {r : TaskRecord} (hr : w'.store.record? key = some r)
    (hid : r.id ∈ launchedIds w.issued) : 2 ≤ r.state.rank := by
  cases h.origin hsound hr with
  | kept found follows =>
    rw [follows.id] at hid
    exact (hlaunched.spent found hid).trans follows.rank
  | created since _ id =>
    obtain ⟨n, hn, hdrawn⟩ := hlaunched.drawn _ hid
    have heq := hfresh (id.trans hdrawn.symm)
    omega

/-- Where no task is launched the records only have to evolve. -/
theorem conducts_of_unlaunched (hfresh : Function.Injective s.taskId) {issued : List Issue}
    (hevolves : w.Evolves s w') (hissued : w'.issued = w.issued ++ issued)
    (hids : launchedIds issued = [])
    (hrecorded : ∀ i ∈ issued, i.call.kind = .accept → Recorded offers i) :
    Conducts s offers w w' where
  evolves := hevolves
  launched hsound hlaunched := by
    have hsame : launchedIds w'.issued = launchedIds w.issued := by
      rw [hissued, launchedIds_append, hids, List.append_nil]
    refine ⟨?_, ?_, fun hr hid => ?_⟩
    · rw [hsame]
      exact hlaunched.once
    · intro id hid
      rw [hsame] at hid
      obtain ⟨n, hn, hdrawn⟩ := hlaunched.drawn id hid
      exact ⟨n, hn.trans_le hevolves.ids_le, hdrawn⟩
    · rw [hsame] at hid
      exact spent_of_evolves hfresh hsound hlaunched hevolves hr hid
  issued := ⟨issued, hissued, hrecorded⟩

theorem conducts_of_other (hfresh : Function.Injective s.taskId) {issued : List Issue}
    (hevolves : w.Evolves s w') (hissued : w'.issued = w.issued ++ issued)
    (hother : ∀ i ∈ issued, i.call.kind ≠ .accept) : Conducts s offers w w' :=
  conducts_of_unlaunched hfresh hevolves hissued (launchedIds_eq_nil hother)
    fun i hi hkind => absurd hkind (hother i hi)

/-! ### Launches -/

variable {offer : Offer} {r : TaskRecord} {ports : List PortMapping} {now : UInt64}
  {delivery : Delivery} {store : Memory}

theorem recorded_launchIssue :
    Recorded [offer] (launchIssue offer (r.staged offer ports now) delivery store) :=
  ⟨offer, List.mem_singleton_self offer, _, rfl, KeyMap.get?_insert_self .., rfl, rfl, rfl⟩

theorem launchedIds_launchIssue_failed (hfailed : delivery ≠ .applied) :
    (launchIssue offer r delivery store).launchedIds = [] := if_neg hfailed

theorem conducts_of_launched (hfresh : Function.Injective s.taskId) {candidate : TaskRecord}
    {name : String} (h : Launchable offer candidate name w.store r ports)
    (hstore : w'.store = w.store.put (r.staged offer ports now)) (hids : w'.tally.ids = w.tally.ids)
    (hissued : w'.issued =
      w.issued ++ [launchIssue offer (r.staged offer ports now) .applied w.store]) :
    Conducts s [offer] w w' := by
  have hfollows := follows_staged h.eligible offer ports now
  have hevolves : w.Evolves s w' := by
    unfold World.Evolves
    rw [hstore, hids]
    exact evolves_put h.found hfollows
  refine ⟨hevolves, fun hsound hlaunched => ?_, _, hissued, ?_⟩
  · have hall : launchedIds w'.issued = launchedIds w.issued ++ [r.id] := by
      rw [hissued, launchedIds_append]
      rfl
    refine ⟨?_, fun id hid => ?_, fun {key x} hx hid => ?_⟩
    · -- an eligible record is not one of a task that was launched
      rw [hall, List.nodup_append_comm, List.singleton_append, List.nodup_cons]
      refine ⟨fun hmem => ?_, hlaunched.once⟩
      have hrank := hlaunched.spent h.found hmem
      rw [h.eligible] at hrank
      exact absurd hrank (by decide)
    · rw [hids]
      rw [hall, List.mem_append, List.mem_singleton] at hid
      rcases hid with hid | rfl
      · exact hlaunched.drawn id hid
      · exact hsound.drawn h.found
    · rw [hall, List.mem_append, List.mem_singleton] at hid
      rcases hid with hid | hid
      · exact spent_of_evolves hfresh hsound hlaunched hevolves hx hid
      · rw [hstore] at hx
        obtain ⟨-, rfl⟩ | ⟨hkey, hx⟩ := Memory.record?_put_cases hx
        · exact le_rfl
        · have hplaced := hsound.placed h.found
          exact absurd ((hsound.single hx h.found hid).trans hplaced.symm) hkey
  · intro i hi _
    rw [List.mem_singleton.1 hi]
    exact recorded_launchIssue

theorem conducts_of_launching (hfresh : Function.Injective s.taskId) {candidate : TaskRecord}
    {result : Except Fault Bool} {store : Memory} {issued : List Issue}
    (h : Launching offer candidate w.framework w.store result store issued)
    (hmoves : Run.Moves w store issued w') : Conducts s [offer] w w' := by
  have hevolves : w.Evolves s w' := by
    unfold World.Evolves
    rw [hmoves.store, hmoves.ids]
    exact h.evolves
  have hissued := hmoves.issued
  cases h with
  | idle => exact conducts_of_other hfresh hevolves hissued fun i hi => (quiet_nil i hi).1
  | launched h => exact conducts_of_launched hfresh h hmoves.store hmoves.ids hissued
  | @reverted r ports now _ _ h failed =>
    refine conducts_of_unlaunched hfresh hevolves hissued ?_ fun i hi _ => ?_
    · exact (List.append_nil _).trans (launchedIds_launchIssue_failed failed)
    · rw [List.mem_singleton.1 hi]
      exact recorded_launchIssue
  | @stuck r ports now _ _ _ h failed about =>
    refine conducts_of_unlaunched hfresh hevolves hissued ?_ fun i hi hkind => ?_
    · exact congrArg₂ (· ++ ·) (launchedIds_launchIssue_failed failed)
        (launchedIds_eq_nil fun i hi => (about.quiet i hi).1)
    · rcases List.mem_cons.1 hi with rfl | hi
      · exact recorded_launchIssue
      · exact absurd hkind (about.quiet i hi).1

/-! ### Whole operations -/

theorem conducts_of_same (hstore : w'.store = w.store) (hissued : w'.issued = w.issued)
    (hids : w'.tally.ids = w.tally.ids) : Conducts s offers w w' where
  evolves := by
    unfold World.Evolves
    rw [hstore, hids]
    exact .refl s _ _
  launched _ hlaunched := by
    obtain ⟨once, drawn, spent⟩ := hlaunched
    refine ⟨?_, ?_, ?_⟩
    · rw [hissued]
      exact once
    · rw [hissued, hids]
      exact drawn
    · rw [hissued, hstore]
      exact spent
  issued := by
    refine ⟨[], by rw [hissued, List.append_nil], fun i hi => ?_⟩
    cases hi

theorem conducts_of_moves (hfresh : Function.Injective s.taskId) {store : Memory}
    {issued : List Issue} (hmoves : Run.Moves w store issued w')
    (hevolves : ∀ {ids}, Evolves s w.store ids store ids)
    (hother : ∀ i ∈ issued, i.call.kind ≠ .accept) : Conducts s offers w w' := by
  refine conducts_of_other hfresh ?_ hmoves.issued hother
  unfold World.Evolves
  rw [hmoves.store, hmoves.ids]
  exact hevolves

theorem conducts_of_tended (hfresh : Function.Injective s.taskId) {may : Liberty → Prop}
    {store : Memory} {issued : List Issue}
    (h : Run.Tended may offers w.framework w.store store issued)
    (hmoves : Run.Moves w store issued w') : Conducts s offers w w' := by
  have hnone : ∀ i ∈ ([] : List Issue), i.call.kind ≠ .accept := fun i hi => (quiet_nil i hi).1
  cases h with
  | told h =>
    refine conducts_of_moves hfresh hmoves (.refl s _ _) fun i hi hkind => ?_
    have hplain := h i hi
    rw [hkind] at hplain
    exact absurd hplain (by decide)
  | settings _ x =>
    exact conducts_of_moves hfresh hmoves (evolves_set (Records.ofStored?_settings x)) hnone
  | identity x =>
    exact conducts_of_moves hfresh hmoves (evolves_set (Records.ofStored?_identity x)) hnone
  | forgotten node => exact conducts_of_moves hfresh hmoves (evolves_erase _) hnone
  | promoted h => exact conducts_of_moves hfresh hmoves h.evolves fun i hi => (h.about.quiet i hi).1
  | launched hoffer h =>
    exact (conducts_of_launching hfresh h hmoves).mono (by simpa using hoffer)
  | updated _ h =>
    exact conducts_of_moves hfresh hmoves h.evolves fun i hi => (h.about.quiet i hi).1
  | retired h => exact conducts_of_moves hfresh hmoves h.evolves fun i hi => (h.about.quiet i hi).1

theorem conducts_createRecord (hfresh : Function.Injective s.taskId) (role : Role) (cfg : Config)
    (identity : Identity) (used : List UInt32) (w : World) :
    Conducts s offers w (Run.createRecord role cfg identity used s w).2 := by
  have hissued : (Run.createRecord role cfg identity used s w).2.issued = w.issued ++ [] := by
    rw [Run.createRecord_run, List.append_nil]
    cases newRecord? cfg identity used role (s.taskId w.tally.ids) (s.clock w.tally.times) with
    | none => rfl
    | some r => cases s.writeFault w.tally.writes <;> rfl
  exact conducts_of_other hfresh (evolves_createRecord hfresh role cfg identity used w) hissued
    fun i hi => absurd hi List.not_mem_nil

theorem conducts_say (hfresh : Function.Injective s.taskId) {c : Call} (hother : c.kind ≠ .accept)
    (suppressed : Bool) (w : World) : Conducts s offers w (Run.say c suppressed s w).2 := by
  obtain ⟨delivery, w', -, hmoves, hsay⟩ := Run.say_cases c suppressed s w
  have hconducts : Conducts s offers w w' := by
    refine conducts_of_moves hfresh hmoves (.refl s _ _) fun i hi => ?_
    rw [List.mem_singleton.1 hi]
    exact hother
  rcases hsay with ⟨-, hsay⟩ | ⟨-, e, hsay⟩
  · rw [hsay]
    exact hconducts.trans (conducts_of_same rfl rfl rfl)
  · rw [hsay]
    exact hconducts

/-- **What one piece of an operation does.** -/
theorem conducts_of_piece (hfresh : Function.Injective s.taskId) {may : Liberty → Prop} {α : Type}
    {m : Run α} (h : Run.Piece may offers m) (w : World) : Conducts s offers w (m s w).2 := by
  cases h with
  | tend h =>
    obtain ⟨store, issued, hmoves, htended⟩ := h.tends s w
    exact conducts_of_tended hfresh htended hmoves
  | create _ role cfg identity used => exact conducts_createRecord hfresh role cfg identity used w
  | revive => exact conducts_say (c := .reviving) hfresh nofun false w
  | hold => exact conducts_say (c := .suppressing) hfresh nofun true w
  | reset => exact conducts_of_same rfl rfl rfl
  | configure => exact conducts_of_same rfl rfl rfl

/-- **What a whole operation does.** -/
theorem conducts_of_built (hfresh : Function.Injective s.taskId) {may : Liberty → Prop} {α : Type}
    {m : Run α} (h : Run.Built may offers m) (w : World) : Conducts s offers w (m s w).2 :=
  h.relates (R := Conducts s offers) (fun _ => conducts_of_same rfl rfl rfl) Conducts.trans
    (fun h w => conducts_of_piece hfresh h w) w

end Stevedore.Scheduling
