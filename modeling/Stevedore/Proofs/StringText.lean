import Mathlib.Tactic
import Stevedore.Json.Printer
import Stevedore.Json.Reader

/-!
# Strings in documents

A string written between its quotes is one token and reads back as itself
(`scanFrom_stringChars`): no escaped character shows an unescaped quote, and every escape stands
for the character it was written for.
-/

namespace Stevedore.Json

open Text (Symbol)

/-! ### Scanning step by step -/

/-- The scanner at a symbol: the tokens that it completes come before those of the rest. -/
theorem scanFrom_cons (state : Scanning) (s : Symbol) (rest : List Symbol) :
    scanFrom state (s :: rest) =
      (scanStep? state s).bind fun out => (scanFrom out.2 rest).map (out.1 ++ ·) := by
  rw [scanFrom]
  cases scanStep? state s with
  | none => rfl
  | some out =>
    obtain ⟨ts, next⟩ := out
    cases ts with
    | nil => simp
    | cons t ts => rfl

theorem scanFrom_of_step {state next : Scanning} {s : Symbol}
    (h : scanStep? state s = some ([], next)) (rest : List Symbol) :
    scanFrom state (s :: rest) = scanFrom next rest := by
  rw [scanFrom_cons, h]
  simp

/-! ### Escapes -/

/-- What a character between quotes is read as: itself, or the code of a control character. -/
def pieceOf (c : Char) : Piece :=
  if c.toNat < 0x20 ∧ c ≠ '\n' ∧ c ≠ '\r' ∧ c ≠ '\t' ∧ c ≠ '\x08' ∧ c ≠ '\x0c' then .unit c.toNat
  else .char c

/-- How a character is escaped: by a letter, by its code, or not at all. -/
theorem escape_cases (c : Char) :
    (∃ e, escape c = ['\\', e] ∧ e ≠ 'u' ∧ unescape? e = some c ∧ pieceOf c = .char c) ∨
    (c.toNat < 0x20 ∧ pieceOf c = .unit c.toNat ∧
      escape c = ['\\', 'u', '0', '0', hexDigit (c.toNat / 16), hexDigit c.toNat]) ∨
    (escape c = [c] ∧ c ≠ '"' ∧ c ≠ '\\' ∧ 0x20 ≤ c.toNat ∧ pieceOf c = .char c) := by
  unfold escape
  split
  · exact Or.inl ⟨'"', rfl, by decide, rfl, rfl⟩
  · exact Or.inl ⟨'\\', rfl, by decide, rfl, rfl⟩
  · exact Or.inl ⟨'n', rfl, by decide, rfl, rfl⟩
  · exact Or.inl ⟨'r', rfl, by decide, rfl, rfl⟩
  · exact Or.inl ⟨'t', rfl, by decide, rfl, rfl⟩
  · exact Or.inl ⟨'b', rfl, by decide, rfl, rfl⟩
  · exact Or.inl ⟨'f', rfl, by decide, rfl, rfl⟩
  · next hquote hslash hn hr ht hb hf =>
    split
    · next hlt =>
      refine Or.inr (Or.inl ⟨hlt, ?_, rfl⟩)
      unfold pieceOf
      rw [if_pos ⟨hlt, hn, hr, ht, hb, hf⟩]
    · next hge =>
      refine Or.inr (Or.inr ⟨rfl, hquote, hslash, Nat.le_of_not_lt hge, ?_⟩)
      unfold pieceOf
      rw [if_neg fun h => hge h.1]

theorem hexDigit_spec (n : Nat) :
    hexValue? (some (hexDigit n)) = some (n % 16) ∧ hexDigit n ≠ '"' ∧ hexDigit n ≠ '\\' := by
  have h : ∀ d < 16,
      hexValue? (some d.digitChar) = some d ∧ d.digitChar ≠ '"' ∧ d.digitChar ≠ '\\' := by
    decide
  exact h (n % 16) (Nat.mod_lt n (by decide))

theorem hex4?_code {n : Nat} (h : n < 0x20) :
    hex4? (some '0') (some '0') (some (hexDigit (n / 16))) (some (hexDigit n)) = some n := by
  have h0 : hexValue? (some '0') = some 0 := rfl
  unfold hex4?
  rw [h0, (hexDigit_spec _).1, (hexDigit_spec _).1]
  show some (((0 * 16 + 0) * 16 + n / 16 % 16) * 16 + n % 16) = some n
  congr 1
  omega

/-! ### What stands between the quotes -/

theorem pieces?_escape (c : Char) (rest : List Symbol) :
    pieces? ((escape c).map some ++ rest) = (pieces? rest).map (pieceOf c :: ·) := by
  rcases escape_cases c with ⟨e, hesc, hu, hback, hpiece⟩ | ⟨hlt, hpiece, hesc⟩ |
    ⟨hesc, hquote, hslash, hge, hpiece⟩
  · rw [hesc, hpiece]
    show pieces? (some '\\' :: some e :: rest) = _
    rw [pieces?]
    · rw [hback]
      rfl
    · exact fun _ _ _ _ _ _ he => hu he
  · rw [hesc, hpiece]
    show pieces? (some '\\' :: some 'u' :: some '0' :: some '0' :: some (hexDigit (c.toNat / 16)) ::
      some (hexDigit c.toNat) :: rest) = _
    rw [pieces?, hex4?_code hlt]
    rfl
  · rw [hesc, hpiece]
    show pieces? (some c :: rest) = _
    rw [pieces?]
    · rw [if_neg (by rintro (h | h); exacts [hslash h, by omega])]
    · exact fun _ _ _ _ _ _ hc => hslash hc
    · exact fun _ _ _ hc => hslash hc

theorem pieces?_escaped (cs : List Char) :
    pieces? ((cs.flatMap escape).map some) = some (cs.map pieceOf) := by
  induction cs with
  | nil => rfl
  | cons c cs ih =>
    rw [List.flatMap_cons, List.map_append, pieces?_escape, ih]
    rfl

theorem join?_char (c : Char) (rest : List Piece) :
    join? (.char c :: rest) = (join? rest).map (c :: ·) := rfl

/-- The code of a control character is not half of a pair, whatever follows. -/
theorem join?_unit {n : Nat} (hn : n < 0x20) (rest : List Piece) :
    join? (.unit n :: rest) = (join? rest).map (Char.ofNat n :: ·) := by
  have hhigh : isHighHalf n = false := by
    unfold isHighHalf
    rw [Bool.and_eq_false_iff]
    left
    exact decide_eq_false (by omega)
  have hlow : isLowHalf n = false := by
    unfold isLowHalf
    rw [Bool.and_eq_false_iff]
    left
    exact decide_eq_false (by omega)
  cases rest with
  | nil => simp [join?, hhigh, hlow]
  | cons p rest => cases p <;> simp [join?, hhigh, hlow]

theorem join?_pieceOf (c : Char) (rest : List Piece) :
    join? (pieceOf c :: rest) = (join? rest).map (c :: ·) := by
  unfold pieceOf
  split
  · next h => rw [join?_unit h.1, Char.ofNat_toNat]
  · exact join?_char c rest

theorem join?_pieces (cs : List Char) : join? (cs.map pieceOf) = some cs := by
  induction cs with
  | nil => rfl
  | cons c cs ih => rw [List.map_cons, join?_pieceOf, ih, Option.map_some]

theorem stringToken?_escaped (cs : List Char) :
    stringToken? ((cs.flatMap escape).map some) = some (.text (some (String.ofList cs))) := by
  unfold stringToken?
  rw [pieces?_escaped, Option.map_some, join?_pieces, Option.map_some]

/-! ### Between the quotes -/

theorem scanFrom_string_of_ne {body : List Symbol} {s : Symbol} (h : s ≠ some '"')
    (rest : List Symbol) :
    scanFrom (.string body false) (s :: rest) =
      scanFrom (.string (s :: body) (decide (s = some '\\'))) rest := by
  refine scanFrom_of_step ?_ rest
  simp only [scanStep?]
  rw [if_neg h]

theorem scanFrom_string_escaped (body : List Symbol) (s : Symbol) (rest : List Symbol) :
    scanFrom (.string body true) (s :: rest) = scanFrom (.string (s :: body) false) rest :=
  scanFrom_of_step rfl rest

theorem scanFrom_string_plain {body : List Symbol} {c : Char} (hquote : c ≠ '"') (hslash : c ≠ '\\')
    (rest : List Symbol) :
    scanFrom (.string body false) (some c :: rest) =
      scanFrom (.string (some c :: body) false) rest := by
  rw [scanFrom_string_of_ne (by simpa using hquote)]
  have hs : decide (some c = some '\\') = false := by simpa using hslash
  rw [hs]

/-- An escaped character neither ends the string nor leaves a backslash open. -/
theorem scanFrom_escape (body : List Symbol) (c : Char) (rest : List Symbol) :
    scanFrom (.string body false) ((escape c).map some ++ rest) =
      scanFrom (.string (((escape c).map some).reverse ++ body) false) rest := by
  have hbackslash (s : Symbol) (rest : List Symbol) :
      scanFrom (.string body false) (some '\\' :: s :: rest) =
        scanFrom (.string (s :: some '\\' :: body) false) rest := by
    rw [scanFrom_string_of_ne (by decide)]
    exact scanFrom_string_escaped _ s rest
  rcases escape_cases c with ⟨e, hesc, -⟩ | ⟨-, -, hesc⟩ | ⟨hesc, hquote, hslash, -⟩
  · rw [hesc]
    exact hbackslash (some e) rest
  · rw [hesc]
    have hhigh := hexDigit_spec (c.toNat / 16)
    have hlow := hexDigit_spec c.toNat
    refine (hbackslash (some 'u') _).trans ?_
    refine (scanFrom_string_plain (by decide) (by decide) _).trans ?_
    refine (scanFrom_string_plain (by decide) (by decide) _).trans ?_
    refine (scanFrom_string_plain hhigh.2.1 hhigh.2.2 _).trans ?_
    exact scanFrom_string_plain hlow.2.1 hlow.2.2 rest
  · rw [hesc]
    exact scanFrom_string_plain hquote hslash rest

theorem scanFrom_escaped (body : List Symbol) (cs : List Char) (rest : List Symbol) :
    scanFrom (.string body false) ((cs.flatMap escape).map some ++ rest) =
      scanFrom (.string (((cs.flatMap escape).map some).reverse ++ body) false) rest := by
  induction cs generalizing body with
  | nil => rfl
  | cons c cs ih =>
    rw [List.flatMap_cons, List.map_append, List.append_assoc, scanFrom_escape, ih,
      List.reverse_append, List.append_assoc]

/-- **A string between its quotes is the token of that string.** -/
theorem scanFrom_stringChars (s : String) (rest : List Symbol) :
    scanFrom .idle ((stringChars s).map some ++ rest) =
      (scanFrom .idle rest).map (.text (some s) :: ·) := by
  have hchars : (stringChars s).map some ++ rest =
      some '"' :: ((s.toList.flatMap escape).map some ++ some '"' :: rest) := by
    simp [stringChars]
  have hopen : scanStep? .idle (some '"') = some ([], .string [] false) := rfl
  rw [hchars, scanFrom_of_step hopen, scanFrom_escaped, scanFrom_cons]
  have hclose : scanStep? (.string (((s.toList.flatMap escape).map some).reverse ++ []) false)
      (some '"') = some ([.text (some s)], .idle) := by
    simp only [scanStep?, if_true]
    rw [List.append_nil, List.reverse_reverse, stringToken?_escaped, String.ofList_toList]
    rfl
  rw [hclose]
  rfl

end Stevedore.Json
