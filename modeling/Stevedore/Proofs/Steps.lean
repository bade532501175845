import Stevedore.Proofs.LaunchOnce

/-!
# Runs of steps

A run may consist of whole actions and of single critical sections, in any order, so that it can be
cut wherever a section ends. What all pieces of operations keep, and the end of a process keeps,
such runs keep (`relates_runSteps`). Records are only ever edited in one of four ways (`Edit`), so a
property of single records is kept by such runs if new records have it and no edit loses it
(`Lasting`).
-/

namespace Stevedore.Scheduling

open Manager (Offer TaskStatus)
open Store (Memory)

/-- An action as a whole, or one of the critical sections that actions are made of. -/
inductive Step where
  /-- An action. -/
  | action (action : Action)
  /-- A critical section, or the end of a process. -/
  | part (part : Section)

namespace Step

/-- What a step makes of the world. -/
def run (s : Surroundings) (w : World) : Step → World
  | action a => a.run s w
  | part x => x.run s w

/-- The reports on tasks that a step takes. -/
def reports : Step → List TaskStatus
  | action a => a.reports
  | part (.update status) => [status]
  | part _ => []

end Step

/-- What steps make of the world, one after the other. -/
def runSteps (s : Surroundings) (w : World) (steps : List Step) : World :=
  steps.foldl (Step.run s) w

section Relates

variable {s : Surroundings} (accepted : TaskStatus → Prop) {R : World → World → Prop}
  (hrefl : ∀ w, R w w) (htrans : ∀ {w₁ w₂ w₃}, R w₁ w₂ → R w₂ w₃ → R w₁ w₃)
  (hpiece : ∀ {offers : List Offer} {α : Type} {m : Run α},
    Run.Piece (Liberty.taking accepted) offers m → ∀ w, R w (m s w).2)
  (hrestart : ∀ w cfg, R w (w.restart cfg))

include hrefl htrans hpiece hrestart

/-- **What relates the worlds before and after every piece of an operation, and those before and
after a process ends, relates those before and after every step**, if it can be chained. -/
theorem Step.relates (step : Step) (hreports : ∀ status ∈ step.reports, accepted status)
    (w : World) : R w (step.run s w) := by
  cases step with
  | action a =>
    show R w (a.run s w)
    obtain ⟨α, m, hbuilt, hrun⟩ | ⟨cfg, rfl⟩ := a.run_cases accepted hreports s w
    · rw [hrun]
      exact hbuilt.relates hrefl htrans hpiece w
    · exact hrestart w cfg
  | part x =>
    have hsection : ∀ {α : Type} {m : Run α}, Run.Piece (Liberty.taking accepted) [] m →
        R w (m s w).2 := fun h => hpiece h w
    cases x with
    | promote candidate => exact hsection (.tend (.promote candidate))
    | launch offer candidate =>
      exact hpiece (.tend (.launch (List.mem_singleton_self offer) candidate)) w
    | update status =>
      have haccepted : accepted status := hreports status (List.mem_singleton_self status)
      exact hsection (.tend (.update haccepted))
    | retire candidate => exact hsection (.tend (.retire candidate))
    | create role cfg identity used => exact hsection (.create trivial role cfg identity used)
    | restart cfg => exact hrestart w cfg

theorem relates_runSteps (steps : List Step)
    (hreports : ∀ step ∈ steps, ∀ status ∈ step.reports, accepted status) (w : World) :
    R w (runSteps s w steps) := by
  induction steps generalizing w with
  | nil => exact hrefl w
  | cons step rest ih =>
    have hfirst : R w (step.run s w) :=
      step.relates accepted hrefl htrans hpiece hrestart (hreports step List.mem_cons_self) w
    exact htrans hfirst (ih (fun other hother => hreports other (List.mem_cons_of_mem _ hother)) _)

end Relates

/-- What is done to a record that is tended to, if only some reports are accepted. -/
inductive Edit (accepted : TaskStatus → Prop) (r : TaskRecord) : TaskRecord → Prop
  | promoted (wanted : r.state = .unset) (now : UInt64) : Edit accepted r (promoted r now)
  | staged {offer : Offer} {ports : List PortMapping} (eligible : r.state = .new)
      (fits : fit offer r = .ok ports) (now : UInt64) : Edit accepted r (r.staged offer ports now)
  | unstaged (eligible : r.state = .new) (now : UInt64) : Edit accepted r (r.unstaged now)
  | advanced {next : TaskState} {status : TaskStatus} (haccepted : accepted status)
      (legal : r.state.canBecome next = true) (launched : next.isLaunched = true) (now : UInt64) :
      Edit accepted r (r.advanced next status now)

variable {accepted : TaskStatus → Prop} {P : TaskRecord → Prop} {store store' : Memory}

theorem Edit.storeKey {r r' : TaskRecord} (h : Edit accepted r r') : r'.storeKey = r.storeKey := by
  cases h <;> rfl

theorem Edit.id {r r' : TaskRecord} (h : Edit accepted r r') : r'.id = r.id := by
  cases h <;> rfl

/-- Every text of a store is one of another store, one of a framework's own, or that of a record
that was edited. -/
def Rewritten (accepted : TaskStatus → Prop) (own : String → String → Prop)
    (store store' : Memory) : Prop :=
  ∀ ⦃key text⦄, store'.get? key = some text → store.get? key = some text ∨ own key text ∨
    ∃ r r', store.record? key = some r ∧ Edit accepted r r' ∧ text = (Json.encode r').render

/-- Every record of a store is one of another store, or one that was edited. -/
def Edited (accepted : TaskStatus → Prop) (store store' : Memory) : Prop :=
  ∀ ⦃key x⦄, store'.record? key = some x → store.record? key = some x ∨
    ∃ r, store.record? key = some r ∧ Edit accepted r x

/-- Every record of a store lies under its own key. -/
def Placed (store : Memory) : Prop :=
  ∀ ⦃key r⦄, store.record? key = some r → r.storeKey = key

theorem placed_empty : Placed ∅ := by
  intro key r hr
  cases hr

section Rewritten

variable {own : String → String → Prop}

theorem rewritten_refl (accepted : TaskStatus → Prop) (own : String → String → Prop)
    (store : Memory) : Rewritten accepted own store store :=
  fun _ _ => Or.inl

theorem rewritten_put (own : String → String → Prop) (hplaced : Placed store) {key : String}
    {r r' : TaskRecord} (hfound : store.record? key = some r) (hedit : Edit accepted r r') :
    Rewritten accepted own store (store.put r') := by
  intro other text htext
  have hkey : r'.storeKey = key := hedit.storeKey.trans (hplaced hfound)
  by_cases hother : other = r'.storeKey
  · subst hother
    have hself : (store.put r').get? r'.storeKey = some (Json.encode r').render :=
      KeyMap.get?_insert_self ..
    exact Or.inr (Or.inr ⟨r, r', hkey ▸ hfound, hedit, Option.some.inj (htext.symm.trans hself)⟩)
  · exact Or.inl ((KeyMap.get?_insert_of_ne hother).symm.trans htext)

theorem rewritten_put_put (own : String → String → Prop) (hplaced : Placed store) {key : String}
    {r r₁ r₂ : TaskRecord} (hfound : store.record? key = some r)
    (hkeys : r₁.storeKey = r₂.storeKey) (hedit : Edit accepted r r₂) :
    Rewritten accepted own store ((store.put r₁).put r₂) := by
  intro other text htext
  have hsame : ((store.put r₁).put r₂).get? other = (store.put r₂).get? other := by
    by_cases hother : other = r₂.storeKey
    · rw [hother]
      exact (KeyMap.get?_insert_self ..).trans (KeyMap.get?_insert_self ..).symm
    · exact (KeyMap.get?_insert_of_ne hother).trans
        ((KeyMap.get?_insert_of_ne (hkeys ▸ hother)).trans (KeyMap.get?_insert_of_ne hother).symm)
  rw [hsame] at htext
  exact rewritten_put own hplaced hfound hedit htext

theorem rewritten_erase (own : String → String → Prop) (key : String) :
    Rewritten accepted own store (store.erase key) := by
  intro other text htext
  by_cases hother : other = key
  · rw [hother, KeyMap.get?_erase_self] at htext
    cases htext
  · rw [KeyMap.get?_erase_of_ne hother] at htext
    exact Or.inl htext

theorem rewritten_set {key text : String} (hown : own key text) :
    Rewritten accepted own store (store.set key text) := by
  intro other text' htext
  by_cases hother : other = key
  · subst hother
    have hself : (store.set other text).get? other = some text := KeyMap.get?_insert_self ..
    rw [← Option.some.inj (hself.symm.trans htext)]
    exact Or.inr (Or.inl hown)
  · exact Or.inl ((KeyMap.get?_insert_of_ne hother).symm.trans htext)

/-- What is not a record may replace anything. -/
theorem Rewritten.edited (h : Rewritten accepted own store store')
    (hown : ∀ key text, own key text → (Records.ofStored? text : Option TaskRecord) = none) :
    Edited accepted store store' := by
  intro key x hx
  obtain ⟨text, htext, hread⟩ := Option.bind_eq_some_iff.1 hx
  obtain hsame | htext | ⟨r, r', hr, hedit, rfl⟩ := h htext
  · exact Or.inl (Option.bind_eq_some_iff.2 ⟨text, hsame, hread⟩)
  · rw [hown key text htext] at hread
    cases hread
  · obtain rfl := Records.eq_of_ofStored?_render hread
    exact Or.inr ⟨r, hr, hedit⟩

end Rewritten

theorem edited_put (hplaced : Placed store) {key : String} {r r' : TaskRecord}
    (hfound : store.record? key = some r) (hedit : Edit accepted r r') :
    Edited accepted store (store.put r') :=
  (rewritten_put (fun _ _ => False) hplaced hfound hedit).edited fun _ _ => False.elim

/-- What a framework keeps besides its records and the nodes. -/
inductive Owned (may : Liberty → Prop) (name : String) : String → String → Prop
  | settings (h : may .create) (x : Settings) :
      Owned may name (Key.settings name) (Json.encode x).render
  | identity (x : Identity) : Owned may name (Key.identity name) (Json.encode x).render

theorem Owned.ofStored?_eq_none {may : Liberty → Prop} {name key text : String}
    (h : Owned may name key text) : (Records.ofStored? text : Option TaskRecord) = none := by
  cases h with
  | settings _ x => exact Records.ofStored?_settings x
  | identity x => exact Records.ofStored?_identity x

/-- **Whoever tends to records edits them**, if they lie under their own keys. -/
theorem Run.Tended.rewritten {may : Liberty → Prop} {offers : List Offer} {name : String}
    {issued : List Issue} (h : Run.Tended may offers name store store' issued)
    (hreport : ∀ status, may (.report status) → accepted status) (hplaced : Placed store) :
    Rewritten accepted (Owned may name) store store' := by
  cases h with
  | told => exact rewritten_refl accepted _ store
  | settings h x => exact rewritten_set (.settings h x)
  | identity x => exact rewritten_set (.identity x)
  | forgotten node => exact rewritten_erase _ _
  | promoted h =>
    cases h with
    | idle => exact rewritten_refl accepted _ store
    | done found wanted => exact rewritten_put _ hplaced found (.promoted wanted _)
  | launched _ h =>
    cases h with
    | idle => exact rewritten_refl accepted _ store
    | launched h => exact rewritten_put _ hplaced h.found (.staged h.eligible h.fits _)
    | reverted h => exact rewritten_put_put _ hplaced h.found rfl (.unstaged h.eligible _)
    | stuck h => exact rewritten_put _ hplaced h.found (.staged h.eligible h.fits _)
  | updated haccepted h =>
    cases h with
    | idle => exact rewritten_refl accepted _ store
    | advanced found legal launched =>
      exact rewritten_put _ hplaced found (.advanced (hreport _ haccepted) legal launched _)
    | removed => exact rewritten_erase _ _
  | retired h =>
    cases h with
    | idle => exact rewritten_refl accepted _ store
    | removed => exact rewritten_erase _ _

theorem Run.Tended.edited {may : Liberty → Prop} {offers : List Offer} {name : String}
    {issued : List Issue} (h : Run.Tended may offers name store store' issued)
    (hreport : ∀ status, may (.report status) → accepted status) (hplaced : Placed store) :
    Edited accepted store store' :=
  (h.rewritten hreport hplaced).edited fun _ _ => Owned.ofStored?_eq_none

/-! ### Properties of single records -/

/-- Every record of a store lies under its own key and has a property. -/
structure Throughout (P : TaskRecord → Prop) (store : Memory) : Prop where
  placed : Placed store
  holds : ∀ ⦃key r⦄, store.record? key = some r → P r

/-- A property that records do not lose when they are edited. -/
structure Stable (accepted : TaskStatus → Prop) (P : TaskRecord → Prop) : Prop where
  edited : ∀ {r r'}, P r → Edit accepted r r' → P r'

/-- A property that new records have, and that records do not lose. -/
structure Lasting (accepted : TaskStatus → Prop) (P : TaskRecord → Prop) : Prop
    extends Stable accepted P where
  started : ∀ {ctx workload id r}, Build.Started ctx workload id r → P r

/-- All records are records. -/
theorem lasting_true (accepted : TaskStatus → Prop) : Lasting accepted fun _ => True where
  edited _ _ := trivial
  started _ := trivial

theorem throughout_of_empty (h : ∀ key, store.record? key = none) : Throughout P store where
  placed _ _ hr := by simp [h] at hr
  holds _ _ hr := by simp [h] at hr

theorem Throughout.edited (h : Throughout P store) (hlasting : Lasting accepted P)
    (hedited : Edited accepted store store') : Throughout P store' := by
  have hall : ∀ {key x}, store'.record? key = some x → x.storeKey = key ∧ P x := by
    intro key x hx
    obtain hx | ⟨r, hr, hedit⟩ := hedited hx
    · exact ⟨h.placed hx, h.holds hx⟩
    · exact ⟨hedit.storeKey.trans (h.placed hr), hlasting.edited (h.holds hr) hedit⟩
  exact ⟨fun _ _ hx => (hall hx).1, fun _ _ hx => (hall hx).2⟩

/-- Records that are edited stay under their own keys. -/
theorem Edited.placed (h : Edited accepted store store') (hplaced : Placed store) :
    Placed store' := by
  have hthroughout : Throughout (fun _ => True) store := ⟨hplaced, fun _ _ _ => trivial⟩
  exact (hthroughout.edited (lasting_true accepted) h).placed

theorem Throughout.create (h : Throughout P store) {r : TaskRecord} (hr : P r) :
    Throughout P (store.put r) := by
  have hall : ∀ {key x}, (store.put r).record? key = some x → x.storeKey = key ∧ P x := by
    intro key x hx
    obtain ⟨hkey, rfl⟩ | ⟨-, hx⟩ := Memory.record?_put_cases hx
    · exact ⟨hkey, hr⟩
    · exact ⟨h.placed hx, h.holds hx⟩
  exact ⟨fun _ _ hx => (hall hx).1, fun _ _ hx => (hall hx).2⟩

theorem throughout_createRecord (hlasting : Lasting accepted P) (role : Role) (cfg : Config)
    (identity : Identity) (used : List UInt32) (s : Surroundings) {w : World}
    (h : Throughout P w.store) :
    Throughout P (Run.createRecord role cfg identity used s w).2.store := by
  rw [Run.createRecord_run]
  cases hnew : newRecord? cfg identity used role (s.taskId w.tally.ids) (s.clock w.tally.times) with
  | none => exact h
  | some r =>
    cases s.writeFault w.tally.writes with
    | some reason => exact h
    | none => exact h.create (hlasting.started (started_of_newRecord? hnew))

variable {may : Liberty → Prop} {offers : List Offer}

/-- **A property that lasts is kept by every piece of an operation.** -/
theorem Run.Piece.throughout (hlasting : Lasting accepted P)
    (hreport : ∀ status, may (.report status) → accepted status) {α : Type} {m : Run α}
    (hpiece : Run.Piece may offers m) (s : Surroundings) {w : World} (h : Throughout P w.store) :
    Throughout P (m s w).2.store := by
  have hsay : ∀ c suppressed, Throughout P (Run.say c suppressed s w).2.store := by
    intro c suppressed
    obtain ⟨delivery, w', -, hmoves, ⟨-, hsay⟩ | ⟨-, e, hsay⟩⟩ := Run.say_cases c suppressed s w
    · rw [hsay]
      exact hmoves.store ▸ h
    · rw [hsay]
      exact hmoves.store ▸ h
  cases hpiece with
  | tend htending =>
    obtain ⟨store, issued, hmoves, hdone⟩ := htending.tends s w
    rw [hmoves.store]
    exact h.edited hlasting (hdone.edited hreport h.placed)
  | create _ role cfg identity used =>
    exact throughout_createRecord hlasting role cfg identity used s h
  | revive => exact hsay .reviving false
  | hold => exact hsay .suppressing true
  | reset => exact h
  | configure => exact h

theorem Run.Built.throughout (hlasting : Lasting accepted P)
    (hreport : ∀ status, may (.report status) → accepted status) {α : Type} {m : Run α}
    (hbuilt : Run.Built may offers m) (s : Surroundings) {w : World} (h : Throughout P w.store) :
    Throughout P (m s w).2.store :=
  hbuilt.relates (R := fun w w' => Throughout P w.store → Throughout P w'.store) (fun _ h => h)
    (fun h h' hw => h' (h hw)) (fun hpiece _ h => hpiece.throughout hlasting hreport s h) w h

/-- **A property that lasts is kept by every run of steps.** -/
theorem throughout_runSteps (hlasting : Lasting accepted P) (s : Surroundings) {steps : List Step}
    (hreports : ∀ step ∈ steps, ∀ status ∈ step.reports, accepted status) {w : World}
    (h : Throughout P w.store) : Throughout P (runSteps s w steps).store :=
  relates_runSteps accepted (R := fun w w' => Throughout P w.store → Throughout P w'.store)
    (fun _ h => h) (fun h h' hw => h' (h hw))
    (fun hpiece _ h => hpiece.throughout hlasting (fun _ haccepted => haccepted) s h)
    (fun _ _ h => h) steps hreports w h

end Stevedore.Scheduling
