import Mathlib.Tactic
import Stevedore.Store.Memory

/-!
# Laws of maps and of stores in memory

What is found under a key after an insertion or a removal, and that a scan lists exactly the keys
that begin with its text: in an ascending list those lie side by side, because no text above such a
key and below another can fail to begin like both (`beginsWith_of_between`). So a scan depends on
nothing that is stored under other keys (`scan_congr`).
-/

namespace Stevedore

namespace KeyMap

variable {α : Type} {m : KeyMap α} {key other : String} {value : α}

theorem lookup_cons_of_eq {found : String} (h : key = found) (rest : List (String × α)) :
    ((found, value) :: rest).lookup key = some value := by
  rw [h, List.lookup_cons_self]

theorem lookup_cons_of_ne {e : String × α} (h : key ≠ e.1) (rest : List (String × α)) :
    (e :: rest).lookup key = rest.lookup key := by
  have hb : (key == e.1) = false := by simpa using h
  rw [List.lookup_cons, hb]

/-! ### Changes -/

theorem lookup_place_self (es : List (String × α)) :
    (place key value es).lookup key = some value := by
  induction es with
  | nil => exact lookup_cons_of_eq rfl []
  | cons e rest ih =>
    unfold place
    split
    · exact lookup_cons_of_eq rfl _
    · split
      · exact lookup_cons_of_eq rfl _
      · next hne => rw [lookup_cons_of_ne hne, ih]

theorem lookup_place_of_ne (h : other ≠ key) (es : List (String × α)) :
    (place key value es).lookup other = es.lookup other := by
  induction es with
  | nil => exact lookup_cons_of_ne h []
  | cons e rest ih =>
    unfold place
    split
    · exact lookup_cons_of_ne h _
    · split
      · next heq => rw [lookup_cons_of_ne h, lookup_cons_of_ne (heq ▸ h)]
      · by_cases he : other = e.1
        · rw [lookup_cons_of_eq he, lookup_cons_of_eq he]
        · rw [lookup_cons_of_ne he, lookup_cons_of_ne he, ih]

@[simp] theorem get?_insert_self : (m.insert key value).get? key = some value :=
  lookup_place_self m.entries

theorem get?_insert_of_ne (h : other ≠ key) : (m.insert key value).get? other = m.get? other :=
  lookup_place_of_ne h m.entries

theorem lookup_filter_ne (es : List (String × α)) :
    (es.filter fun e => e.1 != key).lookup other =
      if other = key then none else es.lookup other := by
  induction es with
  | nil => simp
  | cons e rest ih =>
    rw [List.filter_cons]
    by_cases he : e.1 = key
    · rw [if_neg (by simp [he]), ih]
      by_cases ho : other = key
      · rw [if_pos ho, if_pos ho]
      · rw [if_neg ho, if_neg ho, lookup_cons_of_ne (he ▸ ho)]
    · rw [if_pos (by simpa using he)]
      by_cases ho : other = e.1
      · rw [lookup_cons_of_eq ho, lookup_cons_of_eq ho, if_neg (ho ▸ he)]
      · rw [lookup_cons_of_ne ho, lookup_cons_of_ne ho, ih]

theorem get?_erase : (m.erase key).get? other = if other = key then none else m.get? other :=
  lookup_filter_ne m.entries

@[simp] theorem get?_erase_self : (m.erase key).get? key = none := by
  rw [get?_erase, if_pos rfl]

theorem get?_erase_of_ne (h : other ≠ key) : (m.erase key).get? other = m.get? other := by
  rw [get?_erase, if_neg h]

/-- There is nothing to remove under a key without an entry. -/
theorem erase_of_not_contains (h : m.contains key = false) : m.erase key = m := by
  have hnone : m.entries.lookup key = none := by simpa [contains, get?] using h
  have hkeep : m.entries.filter (fun e => e.1 != key) = m.entries := by
    rw [List.filter_eq_self]
    intro e he
    rw [List.lookup_eq_none_iff] at hnone
    have hne := hnone e he
    rw [bne_iff_ne] at hne ⊢
    exact hne.symm
  obtain ⟨es, hes⟩ := m
  unfold erase filter
  congr

/-! ### Entries -/

theorem nodup_keys (m : KeyMap α) : m.keys.Nodup := by
  unfold keys
  rw [List.Nodup, List.pairwise_map]
  exact m.ascending.imp fun h => String.ne_of_lt h

theorem get?_eq_some_iff : m.get? key = some value ↔ (key, value) ∈ m.entries := by
  have hk : (m.entries.map (·.1)).Nodup := m.nodup_keys
  unfold get?
  generalize m.entries = es at hk
  induction es with
  | nil => simp
  | cons e rest ih =>
    rw [List.map_cons, List.nodup_cons] at hk
    rw [List.mem_cons]
    by_cases he : key = e.1
    · rw [lookup_cons_of_eq he, Option.some.injEq]
      constructor
      · intro h
        left
        rw [he, ← h]
      · rintro (h | h)
        · rw [← h]
        · exact absurd (List.mem_map_of_mem h) (he ▸ hk.1)
    · rw [lookup_cons_of_ne he]
      have hrest := ih hk.2
      constructor
      · exact fun h => Or.inr (hrest.1 h)
      · rintro (h | h)
        · exact absurd (by rw [← h]) he
        · exact hrest.2 h

theorem get?_filter_eq_some_iff {keep : String → α → Bool} :
    (m.filter keep).get? key = some value ↔ m.get? key = some value ∧ keep key value = true := by
  rw [get?_eq_some_iff, get?_eq_some_iff]
  exact List.mem_filter

theorem mem_keys_iff : key ∈ m.keys ↔ (m.get? key).isSome := by
  rw [Option.isSome_iff_exists]
  unfold keys
  simp only [get?_eq_some_iff, List.mem_map, Prod.exists, exists_and_right, exists_eq_right]

theorem length_place (key : String) (value : α) (es : List (String × α)) :
    (place key value es).length ≤ es.length + 1 ∧
      (es.lookup key = none → (place key value es).length = es.length + 1) := by
  induction es with
  | nil => exact ⟨le_rfl, fun _ => rfl⟩
  | cons e rest ih =>
    unfold place
    split
    · exact ⟨le_rfl, fun _ => rfl⟩
    · split
      · next heq =>
        refine ⟨Nat.le_succ _, fun hnone => ?_⟩
        rw [lookup_cons_of_eq heq] at hnone
        cases hnone
      · next hne =>
        rw [lookup_cons_of_ne hne]
        exact ⟨Nat.succ_le_succ ih.1, fun hnone => congrArg Nat.succ (ih.2 hnone)⟩

theorem size_insert_le : (m.insert key value).size ≤ m.size + 1 :=
  (length_place key value m.entries).1

theorem size_insert_of_none (h : m.get? key = none) : (m.insert key value).size = m.size + 1 :=
  (length_place key value m.entries).2 h

end KeyMap

namespace Store.Memory

open Text (beginsWith)

/-! ### Scans -/

theorem beginsWith_iff {key start : String} :
    beginsWith key start ↔ start.toList <+: key.toList := by
  unfold beginsWith
  exact List.isPrefixOf_iff_prefix

theorem not_lt_of_prefix {p k : List Char} (h : p <+: k) : ¬ k < p := by
  induction p generalizing k with
  | nil => exact List.not_lt_nil k
  | cons c p ih =>
    obtain ⟨k', rfl⟩ := h
    rw [List.cons_append, List.cons_lt_cons_iff]
    rintro (hlt | ⟨-, hlt⟩)
    · exact absurd hlt (Char.lt_irrefl c)
    · exact ih (List.prefix_append p k') hlt

theorem prefix_of_between {p a b : List Char} (ha : ¬ a < p) (hab : a < b) (hb : p <+: b) :
    p <+: a := by
  induction p generalizing a b with
  | nil => exact List.nil_prefix
  | cons c p ih =>
    obtain ⟨b', rfl⟩ := hb
    cases a with
    | nil => exact absurd (List.nil_lt_cons c p) ha
    | cons d a =>
      rw [List.cons_lt_cons_iff] at ha
      rw [List.cons_append, List.cons_lt_cons_iff] at hab
      obtain hlt | ⟨rfl, hlt⟩ := hab
      · exact absurd (Or.inl hlt) ha
      · rw [List.cons_prefix_cons]
        exact ⟨rfl, ih (fun h => ha (Or.inr ⟨rfl, h⟩)) hlt (List.prefix_append p b')⟩

/-- A text that is not below another, and below one that begins like it, begins like it too. -/
theorem beginsWith_of_between {start a b : String} (ha : ¬ a < start) (hab : a < b)
    (hb : beginsWith b start) : beginsWith a start :=
  beginsWith_iff.2 (prefix_of_between ha hab (beginsWith_iff.1 hb))

/-- What is selected from an ascending list by reading on while keys begin with a text. -/
theorem takeWhile_eq_filter {start : String} {es : List (String × String)}
    (hs : es.Pairwise fun a b => a.1 < b.1) (hlow : ∀ e ∈ es, ¬ e.1 < start) :
    (es.takeWhile fun e => beginsWith e.1 start) = es.filter fun e => beginsWith e.1 start := by
  set begins : String × String → Bool := fun e => beginsWith e.1 start
  induction es with
  | nil => rfl
  | cons e rest ih =>
    rw [List.pairwise_cons] at hs
    by_cases he : beginsWith e.1 start
    · rw [List.takeWhile_cons_of_pos (p := begins) he, List.filter_cons_of_pos (p := begins) he,
        ih hs.2 fun d hd => hlow d (List.mem_cons_of_mem e hd)]
    · rw [List.takeWhile_cons_of_neg (p := begins) he, List.filter_cons_of_neg (p := begins) he,
        eq_comm, List.filter_eq_nil_iff]
      intro d hd hb
      exact he (beginsWith_of_between (hlow e List.mem_cons_self) (hs.1 d hd) hb)

theorem entriesFrom_eq_filter (m : Memory) (start : String) :
    m.entriesFrom start = m.entries.filter fun e => beginsWith e.1 start := by
  have hs := m.ascending
  unfold entriesFrom
  generalize m.entries = es at hs
  induction es with
  | nil => rfl
  | cons e rest ih =>
    have hrest := List.pairwise_cons.1 hs
    by_cases he : e.1 < start
    · have hno : ¬ beginsWith e.1 start := fun h => not_lt_of_prefix (beginsWith_iff.1 h) he
      rw [List.dropWhile_cons_of_pos (by simpa using he), ih hrest.2,
        List.filter_cons_of_neg (p := fun e : String × String => beginsWith e.1 start) hno]
    · rw [List.dropWhile_cons_of_neg (by simpa using he)]
      refine takeWhile_eq_filter hs fun d hd => ?_
      rcases List.mem_cons.1 hd with rfl | hd
      · exact he
      · exact fun hlt => he (String.lt_trans (hrest.1 d hd) hlt)

/-- **A scan lists exactly the keys that begin with its text**, in ascending order. -/
theorem scan_eq_filter (m : Memory) (start : String) :
    m.scan start = m.keys.filter fun key => beginsWith key start := by
  unfold scan KeyMap.keys
  rw [entriesFrom_eq_filter, List.filter_map]
  rfl

theorem mem_scan_iff {m : Memory} {key start : String} :
    key ∈ m.scan start ↔ (m.get? key).isSome ∧ beginsWith key start := by
  rw [scan_eq_filter, List.mem_filter, KeyMap.mem_keys_iff]

theorem nodup_scan (m : Memory) (start : String) : (m.scan start).Nodup := by
  rw [scan_eq_filter]
  exact m.nodup_keys.filter _

theorem ascending_scan (m : Memory) (start : String) : (m.scan start).Pairwise (· < ·) := by
  rw [scan_eq_filter]
  apply List.Pairwise.filter
  unfold KeyMap.keys
  rw [List.pairwise_map]
  exact m.ascending

/-- **What a scan lists depends on the keys that begin with its text only.** -/
theorem scan_congr {m m' : Memory} {start : String}
    (h : ∀ key, beginsWith key start → m'.get? key = m.get? key) :
    m'.scan start = m.scan start := by
  refine (ascending_scan m' start).eq_of_mem_iff (ascending_scan m start) fun {key} => ?_
  rw [mem_scan_iff, mem_scan_iff]
  constructor
  · rintro ⟨hfound, hbegins⟩
    exact ⟨h key hbegins ▸ hfound, hbegins⟩
  · rintro ⟨hfound, hbegins⟩
    exact ⟨(h key hbegins).symm ▸ hfound, hbegins⟩

theorem length_scan (m : Memory) (start : String) : (m.scan start).length = m.count start := by
  rw [scan, List.length_map, count]

end Store.Memory

end Stevedore
