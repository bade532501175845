import Stevedore.Proofs.DoubleText
import Stevedore.Proofs.StringText

/-!
# Documents read back

The text of a value is a document, and reading it gives the value back (`parse?_render`), with
three exceptions that `settled` names: a double that is not finite becomes `null`, a whole number
that fits no word becomes a double, and a piece without a value becomes `null`.
-/

namespace Stevedore.Json

open Text (Symbol)

/-! ### Induction over values -/

theorem sizeOf_lt_of_mem_members {members : List (String × Json)} {m : String × Json}
    (h : m ∈ members) : sizeOf m.2 < sizeOf members := by
  have hm := List.sizeOf_lt_of_mem h
  have hp : sizeOf m = 1 + sizeOf m.1 + sizeOf m.2 := by cases m; rfl
  omega

/-- A property of all values: of those without parts, of an array if it holds of the items, and of
an object if it holds of the members' values. -/
theorem induct {P : Json → Prop} (null : P .null) (bool : ∀ b, P (.bool b)) (int : ∀ n, P (.int n))
    (real : ∀ x, P (.real x)) (text : ∀ s, P (.text s)) (damaged : P .damaged)
    (list : ∀ items, (∀ j ∈ items, P j) → P (.list items))
    (object : ∀ members : List (String × Json), (∀ m ∈ members, P m.2) → P (.object members)) :
    ∀ j, P j
  | .null => null
  | .bool b => bool b
  | .int n => int n
  | .real x => real x
  | .text s => text s
  | .damaged => damaged
  | .list items => list items fun j hj =>
      have : sizeOf j < sizeOf items := List.sizeOf_lt_of_mem hj
      induct null bool int real text damaged list object j
  | .object members => object members fun m hm =>
      have : sizeOf m.2 < sizeOf members := sizeOf_lt_of_mem_members hm
      induct null bool int real text damaged list object m.2
termination_by j => sizeOf j
decreasing_by all_goals simp_wf; omega

/-! ### What is read back -/

mutual

/-- What the text of a value is read back as. -/
def settled : Json → Json
  | null => null
  | bool b => bool b
  | int n => rereadInt n
  | real x => reread x
  | text s => text s
  | list items => list (settledItems items)
  | object members => object (settledMembers members)
  | damaged => null

/-- What the items of an array are read back as. -/
def settledItems : List Json → List Json
  | [] => []
  | j :: js => j.settled :: settledItems js

/-- What the members of an object are read back as. -/
def settledMembers : List (String × Json) → List (String × Json)
  | [] => []
  | m :: ms => settledMember m :: settledMembers ms

/-- What a member is read back as. -/
def settledMember : String × Json → String × Json
  | (name, j) => (name, j.settled)

end

theorem settledItems_eq_map (items : List Json) : settledItems items = items.map settled := by
  induction items with
  | nil => rfl
  | cons j js ih => rw [settledItems, ih, List.map_cons]

theorem settledMember_eq (m : String × Json) : settledMember m = (m.1, m.2.settled) := by
  obtain ⟨name, j⟩ := m
  rw [settledMember]

theorem settledMembers_eq_map (members : List (String × Json)) :
    settledMembers members = members.map fun m => (m.1, m.2.settled) := by
  induction members with
  | nil => rfl
  | cons m ms ih => rw [settledMembers, settledMember_eq, ih, List.map_cons]

/-! ### The tokens of a value -/

mutual

/-- The tokens of the text of a value. -/
def tokens : Json → List Token
  | null => [.atom .null]
  | bool b => [.atom (.bool b)]
  | int n => [.atom (rereadInt n)]
  | real x => [.atom (reread x)]
  | text s => [.text (some s)]
  | list items => .openList :: itemsTokens items ++ [.closeList]
  | object members => .openObject :: membersTokens members ++ [.closeObject]
  | damaged => [.atom .null]

/-- The tokens of the items of an array, separated by commas. -/
def itemsTokens : List Json → List Token
  | [] => []
  | [j] => j.tokens
  | j :: k :: js => j.tokens ++ .comma :: itemsTokens (k :: js)

/-- The tokens of the members of an object, separated by commas. -/
def membersTokens : List (String × Json) → List Token
  | [] => []
  | [m] => memberTokens m
  | m :: n :: ms => memberTokens m ++ .comma :: membersTokens (n :: ms)

/-- The tokens of a member. -/
def memberTokens : String × Json → List Token
  | (name, j) => .text (some name) :: .colon :: j.tokens

end

/-! ### Scanning words -/

/-- What follows a word: nothing, or a character that cannot belong to one. -/
def Delimited (rest : List Symbol) : Prop :=
  ∀ s tail, rest = s :: tail → ∃ c, s = some c ∧ isWordChar c = false

theorem delimited_nil : Delimited [] := fun _ _ h => by cases h

theorem delimited_cons {c : Char} (h : isWordChar c = false) (rest : List Symbol) :
    Delimited (some c :: rest) := by
  rintro s tail heq
  rw [List.cons.injEq] at heq
  exact ⟨c, heq.1.symm, h⟩

theorem start?_of_word {c : Char} (h : isWordChar c = true) : start? c = some ([], .word [c]) := by
  have hne {d : Char} (hd : isWordChar d = false) : c ≠ d := by
    rintro rfl
    rw [h] at hd
    cases hd
  have hspace : isSpace c = false := by
    unfold isSpace
    simp only [Bool.or_eq_false_iff, beq_eq_false_iff_ne]
    exact ⟨⟨⟨hne (by decide), hne (by decide)⟩, hne (by decide)⟩, hne (by decide)⟩
  unfold start?
  split
  · exact absurd rfl (hne (d := '\x7b') (by decide))
  · exact absurd rfl (hne (d := '\x7d') (by decide))
  · exact absurd rfl (hne (d := '[') (by decide))
  · exact absurd rfl (hne (d := ']') (by decide))
  · exact absurd rfl (hne (d := ':') (by decide))
  · exact absurd rfl (hne (d := ',') (by decide))
  · exact absurd rfl (hne (d := '"') (by decide))
  · rw [hspace, h]
    rfl

theorem scanFrom_word (read cs : List Char) (rest : List Symbol)
    (h : ∀ c ∈ cs, isWordChar c = true) :
    scanFrom (.word read) (cs.map some ++ rest) = scanFrom (.word (cs.reverse ++ read)) rest := by
  induction cs generalizing read with
  | nil => rfl
  | cons c cs ih =>
    rw [List.forall_mem_cons] at h
    have hstep : scanStep? (.word read) (some c) = some ([], .word (c :: read)) := by
      simp only [scanStep?, h.1, if_true]
    rw [List.map_cons, List.cons_append, scanFrom_of_step hstep, ih _ h.2, List.reverse_cons,
      List.append_assoc, List.singleton_append]

/-- The end of a word. -/
theorem scanFrom_word_end {read : List Char} {t : Token} {rest : List Symbol}
    (ht : wordToken? read.reverse = some t) (hrest : Delimited rest) :
    scanFrom (.word read) rest = (scanFrom .idle rest).map (t :: ·) := by
  cases rest with
  | nil =>
    simp only [scanFrom, scanEnd?, ht]
    rfl
  | cons s tail =>
    obtain ⟨c, rfl, hc⟩ := hrest s tail rfl
    have hstep : scanStep? (.word read) (some c) =
        (start? c).map fun out => (t :: out.1, out.2) := by
      simp only [scanStep?, hc, ht, Bool.false_eq_true, if_false]
      cases start? c <;> rfl
    have hidle : scanStep? .idle (some c) = start? c := rfl
    rw [scanFrom_cons, scanFrom_cons, hstep, hidle]
    cases start? c with
    | none => rfl
    | some out => simp [Function.comp_def]

theorem scanFrom_of_words {cs : List Char} {t : Token} {rest : List Symbol}
    (hcs : ∀ c ∈ cs, isWordChar c = true) (ht : wordToken? cs = some t) (hrest : Delimited rest) :
    scanFrom .idle (cs.map some ++ rest) = (scanFrom .idle rest).map (t :: ·) := by
  obtain ⟨c, cs, rfl⟩ := List.exists_cons_of_ne_nil (ne_nil_of_wordToken? ht)
  rw [List.forall_mem_cons] at hcs
  have hstep : scanStep? .idle (some c) = some ([], .word [c]) := start?_of_word hcs.1
  rw [List.map_cons, List.cons_append, scanFrom_of_step hstep, scanFrom_word _ _ _ hcs.2]
  refine scanFrom_word_end ?_ hrest
  rw [List.reverse_append, List.reverse_reverse]
  exact ht

/-! ### Scanning values -/

/-- `Scans cs ts`: wherever the characters `cs` are followed by something that does not go on with
their last word, they are cut into the tokens `ts`. -/
def Scans (cs : List Char) (ts : List Token) : Prop :=
  ∀ rest, Delimited rest →
    scanFrom .idle (cs.map some ++ rest) = (scanFrom .idle rest).map (ts ++ ·)

theorem scanFrom_punctuation {c : Char} {t : Token} (h : start? c = some ([t], .idle))
    (rest : List Symbol) :
    scanFrom .idle (some c :: rest) = (scanFrom .idle rest).map (t :: ·) := by
  have hstep : scanStep? .idle (some c) = some ([t], .idle) := h
  rw [scanFrom_cons, hstep]
  rfl

theorem Scans.append {cs ds : List Char} {ts us : List Token} {c : Char} {t : Token}
    (hcs : Scans cs ts) (ht : start? c = some ([t], .idle)) (hword : isWordChar c = false)
    (hds : Scans ds us) : Scans (cs ++ c :: ds) (ts ++ t :: us) := by
  intro rest hrest
  rw [List.map_append, List.map_cons, List.append_assoc, List.cons_append,
    hcs _ (delimited_cons hword _), scanFrom_punctuation ht, hds rest hrest]
  simp [Function.comp_def]

theorem scans_word {cs : List Char} {t : Token} (hcs : ∀ c ∈ cs, isWordChar c = true)
    (ht : wordToken? cs = some t) : Scans cs [t] :=
  fun _ hrest => scanFrom_of_words hcs ht hrest

theorem scans_string (s : String) : Scans (stringChars s) [.text (some s)] :=
  fun rest _ => scanFrom_stringChars s rest

theorem scans_items {items : List Json} (h : ∀ j ∈ items, Scans j.chars j.tokens) :
    Scans (itemsChars items) (itemsTokens items) := by
  induction items with
  | nil => intro rest _; simp [itemsChars, itemsTokens]
  | cons j js ih =>
    rw [List.forall_mem_cons] at h
    cases js with
    | nil =>
      rw [itemsChars, itemsTokens]
      exact h.1
    | cons k js =>
      rw [itemsChars, itemsTokens]
      exact h.1.append rfl (by decide) (ih h.2)

theorem scans_member {m : String × Json} (h : Scans m.2.chars m.2.tokens) :
    Scans (memberChars m) (memberTokens m) := by
  obtain ⟨name, j⟩ := m
  rw [memberChars, memberTokens]
  exact (scans_string name).append rfl (by decide) h

theorem scans_members {members : List (String × Json)}
    (h : ∀ m ∈ members, Scans m.2.chars m.2.tokens) :
    Scans (membersChars members) (membersTokens members) := by
  induction members with
  | nil => intro rest _; simp [membersChars, membersTokens]
  | cons m ms ih =>
    rw [List.forall_mem_cons] at h
    cases ms with
    | nil =>
      rw [membersChars, membersTokens]
      exact scans_member h.1
    | cons n ms =>
      rw [membersChars, membersTokens]
      exact (scans_member h.1).append rfl (by decide) (ih h.2)

/-- What stands between brackets or braces. -/
theorem Scans.enclosed {cs : List Char} {ts : List Token} {a b : Char} {s t : Token}
    (hcs : Scans cs ts) (ha : start? a = some ([s], .idle)) (hb : start? b = some ([t], .idle))
    (hword : isWordChar b = false) : Scans (a :: cs ++ [b]) (s :: ts ++ [t]) := by
  intro rest hrest
  have hopen : (a :: cs ++ [b]).map some ++ rest = some a :: (cs.map some ++ some b :: rest) := by
    simp
  rw [hopen, scanFrom_punctuation ha, hcs _ (delimited_cons hword _), scanFrom_punctuation hb]
  simp [Function.comp_def]

/-- **The text of a value is cut into its tokens.** -/
theorem scans_chars (j : Json) : Scans j.chars j.tokens := by
  induction j using induct with
  | null => exact scans_word (List.all_eq_true.1 (by decide)) rfl
  | bool b => cases b <;> exact scans_word (List.all_eq_true.1 (by decide)) rfl
  | int n => exact scans_word (words_intChars n) (wordToken?_intChars n)
  | real x => exact scans_word (words_realChars x) (wordToken?_realChars x)
  | text s => exact scans_string s
  | damaged => exact scans_word (List.all_eq_true.1 (by decide)) rfl
  | list items ih =>
    rw [chars, tokens]
    exact (scans_items ih).enclosed rfl rfl (by decide)
  | object members ih =>
    rw [chars, tokens]
    exact (scans_members ih).enclosed rfl rfl (by decide)

/-! ### Reading tokens -/

/-- `Reads ts j`: where a value is due, the tokens `ts` deliver the value `j`. -/
def Reads (ts : List Token) (j : Json) : Prop :=
  ∀ stack rest, readFrom? (.within .value stack) (ts ++ rest) = readFrom? (deliver j stack) rest

theorem readFrom?_of_step {state next : Reading} {t : Token} (h : readStep? state t = some next)
    (ts : List Token) : readFrom? state (t :: ts) = readFrom? next ts := by
  rw [readFrom?, h, Option.bind_some]

theorem reads_single {t : Token} {j : Json}
    (h : ∀ stack, beginValue? stack t = some (deliver j stack)) :
    Reads [t] j := by
  intro stack rest
  have hstep : readStep? (.within .value stack) t = some (deliver j stack) := h stack
  exact readFrom?_of_step hstep rest

/-- The first token of a value does not close an array. -/
theorem exists_head_tokens (j : Json) : ∃ t ts, j.tokens = t :: ts ∧ t ≠ .closeList := by
  cases j <;> exact ⟨_, _, rfl, by simp⟩

theorem readFrom?_firstItem {j : Json} (acc : List Json) (stack : List Frame) (rest : List Token) :
    readFrom? (.within .firstItem (.list acc :: stack)) (j.tokens ++ rest) =
      readFrom? (.within .value (.list acc :: stack)) (j.tokens ++ rest) := by
  obtain ⟨t, ts, hts, ht⟩ := exists_head_tokens j
  have hstep : readStep? (.within .firstItem (.list acc :: stack)) t =
      readStep? (.within .value (.list acc :: stack)) t := by
    cases t <;> first | rfl | exact absurd rfl ht
  rw [hts, List.cons_append, readFrom?, readFrom?, hstep]

/-- The items of an array from one of them on, and its end. -/
theorem readFrom?_items {j : Json} {js : List Json} (h : ∀ k ∈ j :: js, Reads k.tokens k.settled)
    (acc : List Json) (stack : List Frame) (rest : List Token) :
    readFrom? (.within .value (.list acc :: stack)) (itemsTokens (j :: js) ++ .closeList :: rest) =
      readFrom? (deliver (.list (acc.reverse ++ (j :: js).map settled)) stack) rest := by
  induction js generalizing j acc with
  | nil =>
    rw [List.forall_mem_cons] at h
    rw [itemsTokens, h.1]
    refine (readFrom?_of_step rfl rest).trans ?_
    rw [List.reverse_cons, List.map_cons, List.map_nil]
  | cons k js ih =>
    rw [List.forall_mem_cons] at h
    rw [itemsTokens, List.append_assoc, h.1, List.cons_append]
    refine (readFrom?_of_step rfl _).trans ?_
    rw [ih h.2, List.reverse_cons, List.append_assoc]
    rfl

/-- A member where its name is due, up to what follows its value. -/
theorem readFrom?_member {m : String × Json} (h : Reads m.2.tokens m.2.settled) {await : Await}
    (hawait : await = .firstName ∨ await = .name) (acc : List (String × Json)) (stack : List Frame)
    (rest : List Token) :
    readFrom? (.within await (.object acc true none :: stack)) (memberTokens m ++ rest) =
      readFrom? (.within .next (.object ((m.1, m.2.settled) :: acc) true none :: stack)) rest := by
  obtain ⟨name, j⟩ := m
  rw [memberTokens]
  have hname : readStep? (.within await (.object acc true none :: stack)) (.text (some name)) =
      some (.within .colon (.object acc true (some name) :: stack)) := by
    rcases hawait with rfl | rfl <;> rfl
  refine (readFrom?_of_step hname _).trans ?_
  refine (readFrom?_of_step rfl _).trans ?_
  exact h (.object acc true (some name) :: stack) rest

/-- The members of an object from one of them on, and its end. -/
theorem readFrom?_members {m : String × Json} {ms : List (String × Json)}
    (h : ∀ n ∈ m :: ms, Reads n.2.tokens n.2.settled) {await : Await}
    (hawait : await = .firstName ∨ await = .name) (acc : List (String × Json)) (stack : List Frame)
    (rest : List Token) :
    readFrom? (.within await (.object acc true none :: stack))
        (membersTokens (m :: ms) ++ .closeObject :: rest) =
      readFrom? (deliver (.object (acc.reverse ++ settledMembers (m :: ms))) stack) rest := by
  induction ms generalizing m await acc with
  | nil =>
    rw [List.forall_mem_cons] at h
    rw [membersTokens, readFrom?_member h.1 hawait]
    refine (readFrom?_of_step rfl rest).trans ?_
    rw [settledMembers, settledMember_eq, settledMembers, closed, if_pos rfl, List.reverse_cons]
  | cons n ms ih =>
    rw [List.forall_mem_cons] at h
    rw [membersTokens, List.append_assoc, readFrom?_member h.1 hawait, List.cons_append]
    refine (readFrom?_of_step rfl _).trans ?_
    rw [ih h.2 (Or.inr rfl), List.reverse_cons, List.append_assoc, List.singleton_append,
      settledMembers_eq_map, settledMembers_eq_map, List.map_cons (a := m)]

/-- **The tokens of a value deliver what it is read back as.** -/
theorem reads_tokens (j : Json) : Reads j.tokens j.settled := by
  induction j using induct with
  | null => exact reads_single fun _ => rfl
  | bool b => exact reads_single fun _ => rfl
  | int n => exact reads_single fun _ => rfl
  | real x => exact reads_single fun _ => rfl
  | text s => exact reads_single fun _ => rfl
  | damaged => exact reads_single fun _ => rfl
  | list items ih =>
    intro stack rest
    rw [tokens, settled, settledItems_eq_map, List.append_assoc, List.cons_append]
    refine (readFrom?_of_step rfl _).trans ?_
    cases items with
    | nil => exact readFrom?_of_step rfl rest
    | cons j js =>
      have hfirst : ∃ tail, itemsTokens (j :: js) = j.tokens ++ tail := by
        cases js with
        | nil => exact ⟨[], by rw [itemsTokens, List.append_nil]⟩
        | cons k js => exact ⟨_, by rw [itemsTokens]⟩
      have hitems := readFrom?_items ih [] stack rest
      obtain ⟨tail, htail⟩ := hfirst
      rw [htail, List.append_assoc] at hitems ⊢
      exact (readFrom?_firstItem [] stack _).trans hitems
  | object members ih =>
    intro stack rest
    rw [tokens, settled, List.append_assoc, List.cons_append]
    refine (readFrom?_of_step rfl _).trans ?_
    cases members with
    | nil => exact readFrom?_of_step rfl rest
    | cons m ms => exact readFrom?_members ih (Or.inl rfl) [] stack rest

/-- A text that is cut into the tokens of a value is read as the value, settled. -/
theorem parse?_of_scans {cs : List Char} {j : Json} (h : Scans cs j.tokens) :
    parse? (String.ofList cs) = some j.settled := by
  have hscan := h [] delimited_nil
  have hread := reads_tokens j [] []
  rw [List.append_nil] at hscan hread
  unfold parse? ofSymbols? tokens? Text.ofText
  rw [String.toList_ofList, hscan]
  show ofTokens? (j.tokens ++ []) = some j.settled
  rw [List.append_nil, ofTokens?, hread]
  rfl

/-- **Reading the text of a value gives it back**, settled. -/
theorem parse?_render (j : Json) : parse? j.render = some j.settled :=
  parse?_of_scans (scans_chars j)

end Stevedore.Json
