import Mathlib.Data.List.TakeWhile
import Stevedore.Proofs.Headcount
import Stevedore.Proofs.Steps

/-!
# Stores that several frameworks share

The names of frameworks have no colons, so that no two of them share a key. Whatever creates no
records leaves the settings of all frameworks alone, and the records of their tasks keep every
property that editing does not take (`Run.Built.maintained`).
-/

namespace Stevedore

namespace Text

theorem mem_dropWhile {p : Char → Bool} {c : Char} {cs : List Char} (hc : p c = false)
    (h : c ∈ cs) : c ∈ cs.dropWhile p := by
  rw [← List.takeWhile_append_dropWhile (p := p) (l := cs)] at h
  rcases List.mem_append.1 h with h | h
  · rw [List.mem_takeWhile_imp h] at hc
    cases hc
  · exact h

/-- Only blanks are taken off a text. -/
theorem mem_trim {c : Char} {s : String} (hc : isBlank c = false) (h : c ∈ s.toList) :
    c ∈ (trim s).toList := by
  rw [trim, String.toList_ofList, trimChars, List.mem_reverse]
  exact mem_dropWhile hc (List.mem_reverse.2 (mem_dropWhile hc h))

end Text

namespace Config

/-- The trimmed name of a framework that may be used is not empty and has characters of names
only. -/
theorem trim_name_of_validate {cfg : Config} (h : cfg.validate = .ok ()) :
    Text.trim cfg.framework.name ≠ "" ∧
      ∀ c ∈ (Text.trim cfg.framework.name).toList, isNameChar c = true := by
  unfold validate at h
  dsimp only at h
  by_cases hempty : (Text.trim cfg.framework.name).isEmpty = true
  · rw [if_pos hempty] at h
    cases h
  · rw [if_neg hempty] at h
    cases hall : (Text.trim cfg.framework.name).toList.all isNameChar with
    | false =>
      rw [hall] at h
      cases h
    | true => exact ⟨mt String.isEmpty_iff.2 hempty, List.all_eq_true.1 hall⟩

/-- The name itself may have blanks besides. -/
theorem notMem_name_of_validate {cfg : Config} (h : cfg.validate = .ok ()) {c : Char}
    (hblank : Text.isBlank c = false) (hc : isNameChar c = false) :
    c ∉ cfg.framework.name.toList := by
  intro hmem
  have hname := (trim_name_of_validate h).2 c (Text.mem_trim hblank hmem)
  rw [hc] at hname
  cases hname

/-- The name of a framework that may be used has no colons. -/
theorem not_mem_name_of_validate {cfg : Config} (h : cfg.validate = .ok ()) :
    ':' ∉ cfg.framework.name.toList :=
  notMem_name_of_validate h (by decide +kernel) (by decide +kernel)

end Config

namespace Scheduling

open Store (Memory)

/-- A framework keeps neither settings nor nodes under the keys of tasks, its own or others'. -/
theorem not_reserved_of_plain {acting name : String} {role : Role} {id : String}
    (hacting : ':' ∉ acting.toList) (hplain : ':' ∉ name.toList) :
    ¬ Reserved acting (Key.task name role id) := by
  intro hreserved
  have hunder : Key.Under acting (Key.task name role id) := by
    rcases hreserved with hkey | ⟨node, hkey⟩
    · exact hkey ▸ Key.under_settings
    · exact hkey ▸ Key.under_node
  obtain rfl := hunder.unique Key.under_task hacting hplain
  exact not_reserved_task hreserved

/-! ### What tending to records leaves as it is -/

/-- A text of a record with a property. -/
def IsText (P : TaskRecord → Prop) (text : String) : Prop :=
  ∃ r : TaskRecord, text = (Json.encode r).render ∧ P r

/-- Every text under the key of a task of a framework is that of a record with a property. -/
def Manned (name : String) (P : Role → TaskRecord → Prop) (store : Memory) : Prop :=
  ∀ ⦃role id text⦄, store.get? (Key.task name role id) = some text → IsText (P role) text

/-- From one store to another no framework's settings change, and the records of tasks do not lose
what cannot be edited. -/
structure Maintained (store store' : Memory) : Prop where
  settings : ∀ {name}, ':' ∉ name.toList →
    store'.get? (Key.settings name) = store.get? (Key.settings name)
  manned : ∀ {name P}, ':' ∉ name.toList → (∀ role, Stable (fun _ => True) (P role)) →
    Manned name P store → Manned name P store'

theorem IsText.of_read {P : TaskRecord → Prop} {text : String} (h : IsText P text)
    {r : TaskRecord} (hr : Records.ofStored? text = some r) : P r := by
  obtain ⟨r₀, rfl, hP⟩ := h
  exact Records.eq_of_ofStored?_render hr ▸ hP

namespace Maintained

variable {store store' store'' : Memory}

theorem refl (store : Memory) : Maintained store store :=
  ⟨fun _ => rfl, fun _ _ h => h⟩

theorem trans (h : Maintained store store') (h' : Maintained store' store'') :
    Maintained store store'' where
  settings hplain := (h'.settings hplain).trans (h.settings hplain)
  manned hplain hstable hmanned := h'.manned hplain hstable (h.manned hplain hstable hmanned)

end Maintained

section Tended

variable {may : Liberty → Prop} {offers : List Manager.Offer} {name : String}
  {store store' : Memory} {issued : List Issue}

/-- Unless settings are saved, whoever tends to a framework's records leaves all settings alone. -/
theorem Run.Tended.settings_eq (h : Run.Tended may offers name store store' issued)
    (hcreate : ¬ may .create) (hplaced : Placed store) (hplain : ':' ∉ name.toList)
    {name' : String} (hplain' : ':' ∉ name'.toList) :
    store'.get? (Key.settings name') = store.get? (Key.settings name') := by
  have hsame : ∀ {key}, Key.Under name key → Key.settings name' = key →
      Key.settings name = key := fun hkey heq =>
    (Key.under_settings.unique (heq ▸ hkey) hplain' hplain) ▸ heq
  have hput : ∀ {store' : Memory} {r r' : TaskRecord} {role id},
      store.record? (Key.task name role id) = some r → r'.storeKey = r.storeKey →
      (store'.put r').get? (Key.settings name') = store'.get? (Key.settings name') := by
    intro store' r r' role id hfound hkey
    refine KeyMap.get?_insert_of_ne fun heq => ?_
    rw [hkey, hplaced hfound] at heq
    exact Key.task_ne_settings (hsame Key.under_task heq).symm
  have herase : ∀ {role id}, KeyMap.get? (store.erase (Key.task name role id))
      (Key.settings name') = store.get? (Key.settings name') := fun {role id} =>
    KeyMap.get?_erase_of_ne fun heq => Key.task_ne_settings (hsame Key.under_task heq).symm
  cases h with
  | told => rfl
  | settings h => exact absurd h hcreate
  | identity =>
    exact KeyMap.get?_insert_of_ne fun heq =>
      Key.settings_ne_identity (hsame Key.under_identity heq)
  | forgotten =>
    exact KeyMap.get?_erase_of_ne fun heq => Key.settings_ne_node (hsame Key.under_node heq)
  | promoted h =>
    cases h with
    | idle => rfl
    | done found => exact hput found rfl
  | @launched offer _ _ _ _ _ h =>
    cases h with
    | idle => rfl
    | launched h => exact hput h.found rfl
    | @reverted r ports now _ _ h =>
      have hstaged : (store.put (r.staged offer ports now)).get? (Key.settings name') =
        store.get? (Key.settings name') := hput h.found rfl
      refine Eq.trans ?_ hstaged
      exact hput h.found rfl
    | stuck h => exact hput h.found rfl
  | updated _ h =>
    cases h with
    | idle => rfl
    | advanced found => exact hput found rfl
    | removed => exact herase
  | retired h =>
    cases h with
    | idle => rfl
    | removed => exact herase

/-- Unless records are created, the text under the key of a task is the one that was there, or that
of the record that was there and has been edited. -/
theorem Run.Tended.text_cases (h : Run.Tended may offers name store store' issued)
    (hcreate : ¬ may .create) (hplaced : Placed store) (hplain : ':' ∉ name.toList)
    {name' : String} (hplain' : ':' ∉ name'.toList) {role : Role} {id text : String}
    (htext : store'.get? (Key.task name' role id) = some text) :
    store.get? (Key.task name' role id) = some text ∨
      ∃ r r', store.record? (Key.task name' role id) = some r ∧ Edit (fun _ => True) r r' ∧
        text = (Json.encode r').render := by
  obtain hsame | hown | hedit := h.rewritten (fun _ _ => trivial) hplaced htext
  · exact Or.inl hsame
  · generalize hkey : Key.task name' role id = key at hown
    cases hown with
    | settings h => exact absurd h hcreate
    | identity =>
      have hunder : Key.Under name' (Key.identity name) := hkey ▸ Key.under_task
      obtain rfl := hunder.unique Key.under_identity hplain' hplain
      exact absurd hkey Key.task_ne_identity
  · exact Or.inr hedit

theorem Run.Tended.maintained (h : Run.Tended may offers name store store' issued)
    (hcreate : ¬ may .create) (hplaced : Placed store) (hplain : ':' ∉ name.toList) :
    Maintained store store' where
  settings := h.settings_eq hcreate hplaced hplain
  manned {name' P} hplain' hstable hmanned role id text htext := by
    obtain hsame | ⟨r, r', hr, hedit, rfl⟩ := h.text_cases hcreate hplaced hplain hplain' htext
    · exact hmanned hsame
    · obtain ⟨text, hfound, hread⟩ := Option.bind_eq_some_iff.1 hr
      exact ⟨r', rfl, (hstable role).edited ((hmanned hfound).of_read hread) hedit⟩

/-- **Whatever creates no records maintains the store.** -/
theorem Run.Built.maintained (hcreate : ¬ may .create) {α : Type} {m : Run α}
    (h : Run.Built may offers m) (s : Surroundings) {w : World} (hplaced : Placed w.store)
    (hplain : ':' ∉ w.framework.toList) : Maintained w.store (m s w).2.store := by
  have hall : ∀ {name store store' issued}, Run.Tended may offers name store store' issued →
      ':' ∉ name.toList → Placed store → Placed store' ∧ Maintained store store' := by
    intro name store store' issued h hplain hplaced
    have hedited : Edited (fun _ => True) store store' := h.edited (fun _ _ => trivial) hplaced
    exact ⟨hedited.placed hplaced, h.maintained hcreate hplaced hplain⟩
  refine (h.relates_stores (P := fun name store store' => ':' ∉ name.toList → Placed store →
    Placed store' ∧ Maintained store store') hcreate
    (fun _ store _ hplaced => ⟨hplaced, .refl store⟩) ?_ hall s w hplain hplaced).2
  intro name store store' store'' h h' hplain hplaced
  obtain ⟨hplaced', hmaintained⟩ := h hplain hplaced
  obtain ⟨hplaced'', hmaintained'⟩ := h' hplain hplaced'
  exact ⟨hplaced'', hmaintained.trans hmaintained'⟩

end Tended

end Scheduling

end Stevedore
