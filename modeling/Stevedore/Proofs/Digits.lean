import Mathlib.Tactic
import Stevedore.Json.Printer
import Stevedore.Json.Reader

/-!
# Digits

Whole numbers are written with the digits that read back as them, and a word that consists of
digits is a whole number wherever a document has one.
-/

namespace Stevedore

namespace Text

theorem digit?_of_isDigit {c : Char} (h : c.isDigit = true) :
    digit? c = some (c.toNat - '0'.toNat) := by
  have hb : '0' ≤ c ∧ c ≤ '9' := by
    simpa [Char.isDigit, Char.le_def] using h
  unfold digit?
  rw [if_pos hb]

theorem digitsFrom?_of_isDigit {cs : List Char} (h : ∀ c ∈ cs, c.isDigit = true) (n : Nat) :
    digitsFrom? n cs = some (Nat.ofDigitChars 10 cs n) := by
  induction cs generalizing n with
  | nil => rw [Nat.ofDigitChars_nil]; rfl
  | cons c cs ih =>
    rw [List.forall_mem_cons] at h
    unfold digitsFrom?
    rw [digit?_of_isDigit h.1, Nat.ofDigitChars_cons]
    exact ih h.2 _

theorem digits?_of_isDigit {cs : List Char} (hne : cs ≠ []) (h : ∀ c ∈ cs, c.isDigit = true) :
    digits? cs = some (Nat.ofDigitChars 10 cs 0) := by
  unfold digits?
  rw [if_neg (by simpa using hne), digitsFrom?_of_isDigit h]

end Text

namespace Json

theorem isDigit_of_mem_toDigits {c : Char} {n : Nat} (h : c ∈ Nat.toDigits 10 n) :
    c.isDigit = true :=
  Nat.isDigit_of_mem_toDigits (by decide) (by decide) h

/-- A positive number does not begin with a zero. -/
theorem head_toDigits_ne_zero {n : Nat} (hn : 0 < n) :
    ∃ c cs, Nat.toDigits 10 n = c :: cs ∧ c ≠ '0' := by
  induction n using Nat.strong_induction_on with
  | _ n ih =>
    by_cases hlt : n < 10
    · refine ⟨n.digitChar, [], Nat.toDigits_of_lt_base hlt, ?_⟩
      interval_cases n <;> decide
    · obtain ⟨c, cs, hcs, hc⟩ := ih (n / 10) (by omega) (by omega)
      refine ⟨c, cs ++ [(n % 10).digitChar], ?_, hc⟩
      rw [Nat.toDigits_of_base_le (by decide) (by omega), hcs]
      rfl

theorem whole?_of_head {c : Char} (hc : c ≠ '0') (cs : List Char) :
    whole? (c :: cs) = some (c :: cs) := by
  unfold whole?
  split
  · next heq => cases heq
  · next heq =>
    rw [List.cons.injEq] at heq
    exact absurd heq.1 hc
  · rfl

/-- The digits of a whole number are in order before a point. -/
theorem whole?_toDigits (n : Nat) : whole? (Nat.toDigits 10 n) = some (Nat.toDigits 10 n) := by
  rcases Nat.eq_zero_or_pos n with rfl | hn
  · rfl
  · obtain ⟨c, cs, hcs, hc⟩ := head_toDigits_ne_zero hn
    rw [hcs, whole?_of_head hc]

theorem digits?_toDigits (n : Nat) : Text.digits? (Nat.toDigits 10 n) = some n := by
  rw [Text.digits?_of_isDigit Nat.toDigits_ne_nil fun c hc => isDigit_of_mem_toDigits hc,
    Nat.ofDigitChars_ten_toDigits]

/-- What follows some digits and does not go on with one. -/
def EndsDigits (rest : List Char) : Prop := ∀ c cs, rest = c :: cs → c.isDigit = false

theorem endsDigits_nil : EndsDigits [] := fun _ _ h => by cases h

theorem endsDigits_cons {c : Char} (h : c.isDigit = false) (cs : List Char) :
    EndsDigits (c :: cs) := by
  intro d ds hd
  rw [List.cons.injEq] at hd
  exact hd.1 ▸ h

theorem spanDigits_append {ds rest : List Char} (hd : ∀ c ∈ ds, c.isDigit = true)
    (hr : EndsDigits rest) : Binary64.spanDigits (ds ++ rest) = (ds, rest) := by
  unfold Binary64.spanDigits
  rw [List.takeWhile_append_of_pos hd, List.dropWhile_append_of_pos hd]
  cases rest with
  | nil => simp
  | cons c cs =>
    have hc := hr c cs rfl
    rw [List.takeWhile_cons_of_neg (by simp [hc]), List.dropWhile_cons_of_neg (by simp [hc]),
      List.append_nil]

/-- A word of digits is a whole number. -/
theorem magnitude?_toDigits (negative : Bool) (n : Nat) :
    magnitude? negative (Nat.toDigits 10 n) = some (integerOf negative (Nat.toDigits 10 n) n) := by
  have hspan := spanDigits_append
    (fun c (hc : c ∈ Nat.toDigits 10 n) => isDigit_of_mem_toDigits hc) endsDigits_nil
  rw [List.append_nil] at hspan
  unfold magnitude?
  rw [hspan]
  simp only [whole?_toDigits, digits?_toDigits, Option.bind_eq_bind, Option.bind_some]
  rfl

/-- A word that begins with a digit or a minus sign is none of the literals. -/
theorem wordToken?_eq_number {c : Char} (hc : c ≠ 'n' ∧ c ≠ 't' ∧ c ≠ 'f') (cs : List Char) :
    wordToken? (c :: cs) = (number? (c :: cs)).map .atom := by
  have hne {d : Char} {ds : List Char} (hd : c ≠ d) : c :: cs ≠ d :: ds := fun h =>
    hd (List.cons.inj h).1
  have hnull : "null".toList = ['n', 'u', 'l', 'l'] := rfl
  have htrue : "true".toList = ['t', 'r', 'u', 'e'] := rfl
  have hfalse : "false".toList = ['f', 'a', 'l', 's', 'e'] := rfl
  unfold wordToken?
  rw [hnull, htrue, hfalse, if_neg (hne hc.1), if_neg (hne hc.2.1), if_neg (hne hc.2.2)]

theorem ne_of_isDigit {c d : Char} (hc : c.isDigit = true) (hd : d.isDigit = false) : c ≠ d := by
  rintro rfl
  rw [hc] at hd
  cases hd

theorem number?_of_digit {c : Char} (hc : c.isDigit = true) (cs : List Char) :
    number? (c :: cs) = magnitude? false (c :: cs) := by
  unfold number?
  split
  · next heq =>
    rw [List.cons.injEq] at heq
    exact absurd heq.1 (ne_of_isDigit hc (by decide))
  · rfl

/-- What a whole number in a document is read back as: the same number, or a double if it does not
fit a word. -/
def rereadInt (n : Int) : Json :=
  integerOf (decide (n < 0)) (Nat.toDigits 10 n.natAbs) n.natAbs

theorem rereadInt_of_fits {n : Int} (hlow : -(wordLimit 63 : Int) ≤ n) (hhigh : n < wordLimit 64) :
    rereadInt n = .int n := by
  unfold rereadInt integerOf
  by_cases hn : n < 0
  · rw [decide_eq_true hn, if_pos rfl, if_neg (by omega)]
    congr 1
    omega
  · rw [decide_eq_false hn, if_neg (by decide), if_pos (by omega)]
    congr 1
    omega

/-- **A whole number in a document is one word.** -/
theorem wordToken?_intChars (n : Int) : wordToken? (intChars n) = some (.atom (rereadInt n)) := by
  obtain ⟨c, cs, hcs⟩ := List.exists_cons_of_ne_nil (Nat.toDigits_ne_nil (n := n.natAbs) (b := 10))
  have hc : c.isDigit = true :=
    isDigit_of_mem_toDigits (n := n.natAbs) (by rw [hcs]; exact List.mem_cons_self)
  unfold intChars rereadInt
  split
  · next hn =>
    rw [wordToken?_eq_number (by decide), decide_eq_true hn]
    show (magnitude? true _).map Token.atom = _
    rw [magnitude?_toDigits]
    rfl
  · next hn =>
    have hmag := magnitude?_toDigits false n.natAbs
    rw [hcs] at hmag ⊢
    rw [wordToken?_eq_number ⟨ne_of_isDigit hc (by decide), ne_of_isDigit hc (by decide),
      ne_of_isDigit hc (by decide)⟩, number?_of_digit hc, hmag, decide_eq_false hn]
    rfl

end Json

end Stevedore
