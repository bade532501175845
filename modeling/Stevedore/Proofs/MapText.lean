import Stevedore.Proofs.Lossless
import Stevedore.Store.Document

/-!
# The text of a map read back

The document that holds a map is laid out with an entry a line, and reading it gives the map back
(`ofDocument?_document`). Blanks between tokens are no tokens, so that the document is cut into the
tokens of the map's JSON; and the entries of a map stand in ascending order, so that they are put
back as they stood.
-/

namespace Stevedore

namespace KeyMap

variable {α : Type}

/-- A key above all others is put at the end. -/
theorem place_last {key : String} (value : α) {es : List (String × α)}
    (h : ∀ e ∈ es, e.1 < key) : place key value es = es ++ [(key, value)] := by
  induction es with
  | nil => rfl
  | cons e rest ih =>
    rw [List.forall_mem_cons] at h
    have hnot : ¬ key < e.1 := fun hlt => String.lt_irrefl key (String.lt_trans hlt h.1)
    have hne : key ≠ e.1 := fun heq => String.lt_irrefl key (heq ▸ h.1)
    rw [place, if_neg hnot, if_neg hne, ih h.2, List.cons_append]

/-- Entries in ascending order are put as they stand. -/
theorem entries_ofList {es : List (String × α)} (h : es.Pairwise fun a b => a.1 < b.1) :
    (ofList es).entries = es := by
  induction es using List.reverseRecOn with
  | nil => rfl
  | append_singleton es e ih =>
    obtain ⟨hes, -, hlast⟩ := List.pairwise_append.1 h
    have hbelow : ∀ d ∈ es, d.1 < e.1 := fun d hd => hlast d hd e (List.mem_singleton_self e)
    have hinsert : ofList (es ++ [e]) = (ofList es).insert e.1 e.2 := by
      unfold ofList
      rw [List.foldl_append]
      rfl
    show (ofList (es ++ [e])).entries = es ++ [e]
    rw [hinsert]
    show place e.1 e.2 (ofList es).entries = es ++ [e]
    rw [ih hes, place_last e.2 hbelow]

theorem ofList_entries (m : KeyMap α) : ofList m.entries = m := by
  obtain ⟨es, hes⟩ := m
  have hentries := entries_ofList hes
  generalize ofList es = m at hentries
  cases m
  cases hentries
  rfl

end KeyMap

namespace Json

/-! ### Blanks -/

section Blanks

variable {c : Char} {cs : List Char} {ts : List Token}

/-- A blank before a value is no token. -/
theorem Scans.blank_cons (h : Scans cs ts) (hc : start? c = some ([], .idle)) :
    Scans (c :: cs) ts := by
  intro rest hrest
  have hstep : scanStep? .idle (some c) = some ([], .idle) := hc
  rw [List.map_cons, List.cons_append, scanFrom_of_step hstep]
  exact h rest hrest

/-- A blank after a value is no token. -/
theorem Scans.append_blank (h : Scans cs ts) (hc : start? c = some ([], .idle))
    (hword : isWordChar c = false) : Scans (cs ++ [c]) ts := by
  intro rest hrest
  have hstep : scanStep? .idle (some c) = some ([], .idle) := hc
  rw [List.map_append, List.map_cons, List.map_nil, List.append_assoc, List.singleton_append,
    h _ (delimited_cons hword rest), scanFrom_of_step hstep]

end Blanks

/-! ### Entries -/

theorem mapM_settledMembers {α : Type} [Coded α] {es : List (String × α)}
    (h : ∀ e ∈ es, Survives e.2) :
    (settledMembers (es.map fun e => (e.1, encode e.2))).mapM
      (fun member => (decode? member.2).map (member.1, ·)) = some es := by
  rw [settledMembers_eq_map, List.map_map]
  induction es with
  | nil => rfl
  | cons e rest ih =>
    rw [List.forall_mem_cons] at h
    have he : decode? (encode e.2).settled = some e.2 := h.1.readBack_eq
    rw [List.map_cons, List.mapM_cons, ih h.2]
    show ((decode? (encode e.2).settled).map (e.1, ·) >>= _) = _
    rw [he]
    rfl

theorem survives_keyMap {α : Type} [Coded α] {m : KeyMap α}
    (h : ∀ e ∈ m.entries, Survives e.2) : Survives m := by
  constructor
  · have hentries := congrArg (Option.map KeyMap.ofList) (mapM_settledMembers h)
    rw [Option.map_some, KeyMap.ofList_entries] at hentries
    exact hentries
  · show Json.object _ ≠ .null
    simp

/-- A map is read back with every entry where it stood. -/
instance {α : Type} [Coded α] [Lossless α] : Lossless (KeyMap α) where
  readBack_eq _ := (survives_keyMap fun e _ => survives e.2).readBack_eq
  settled_ne_null _ := (survives_keyMap fun e _ => survives e.2).settled_ne_null

end Json

namespace Store

open Json

/-! ### The document of a map -/

theorem tokens_map (m : KeyMap String) :
    (encode m).tokens =
      .openObject :: membersTokens (m.entries.map fun e => (e.1, text e.2)) ++ [.closeObject] := by
  show (Json.object (m.entries.map fun e => (e.1, .text e.2))).tokens = _
  rw [tokens]

/-- The line of an entry is cut into the tokens of a member. -/
theorem scans_entry (e : String × String) :
    Scans (entryChars e) (memberTokens (e.1, text e.2)) := by
  have hvalue : Scans (' ' :: stringChars e.2) [.text (some e.2)] :=
    (scans_string e.2).blank_cons rfl
  have hentry := (scans_string e.1).append (c := ':') rfl (by decide) hvalue
  have hline := (hentry.blank_cons (c := ' ') rfl).blank_cons (c := ' ') rfl
  rw [memberTokens, tokens]
  exact hline

theorem scans_entries (es : List (String × String)) :
    Scans (entriesChars es) (membersTokens (es.map fun e => (e.1, text e.2))) := by
  induction es with
  | nil =>
    intro rest _
    simp [entriesChars, membersTokens]
  | cons e rest ih =>
    cases rest with
    | nil =>
      rw [entriesChars, List.map_cons, List.map_nil, membersTokens]
      exact scans_entry e
    | cons f rest =>
      rw [entriesChars, List.map_cons, List.map_cons, membersTokens]
      rw [List.map_cons] at ih
      exact (scans_entry e).append rfl (by decide) (ih.blank_cons rfl)

/-- The document of a map is cut into the tokens of its JSON. -/
theorem scans_document (m : KeyMap String) : Scans (document m).toList (encode m).tokens := by
  rw [document, String.toList_ofList, tokens_map]
  split
  · next hempty =>
    have hnil : m.entries = [] := List.isEmpty_iff.1 hempty
    have hnone : Scans [] [] := fun rest _ => by simp
    rw [hnil]
    exact hnone.enclosed rfl rfl (by decide)
  · have hlines : Scans ('\n' :: entriesChars m.entries ++ ['\n'])
        (membersTokens (m.entries.map fun e => (e.1, text e.2))) :=
      ((scans_entries m.entries).blank_cons rfl).append_blank rfl (by decide)
    have hbraces := hlines.enclosed (a := '\x7b') (b := '\x7d') rfl rfl (by decide)
    rw [List.cons_append, List.append_assoc] at hbraces
    exact hbraces

theorem not_blank_document (m : KeyMap String) :
    (document m).toList.all Text.isBlank = false := by
  rw [document, String.toList_ofList]
  split <;> rfl

/-- **The document of a map holds the map.** -/
theorem ofDocument?_document (m : KeyMap String) : ofDocument? (document m) = some m := by
  have hparse : parse? (document m) = some (encode m).settled := by
    have hchars := parse?_of_scans (scans_document m)
    rwa [String.ofList_toList] at hchars
  rw [ofDocument?, not_blank_document, if_neg Bool.false_ne_true, hparse, Option.bind_some]
  exact readBack_eq m

end Store

end Stevedore
