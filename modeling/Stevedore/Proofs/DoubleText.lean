import Stevedore.Proofs.Digits
import Stevedore.Proofs.ShortestDecimal

/-!
# Doubles in documents

The text of a finite double is a number of JSON: digits without a superfluous zero in front, a
point with digits behind it or an exponent or both. It says what the shortest decimal of the double
says (`exists_spelling`), and is therefore read back as that double (`wordToken?_realChars`). An
infinity or `nan` is written as `null` and lost.
-/

namespace Stevedore

open Binary64 (Scientific spanDigits exponent? documentLayout)

namespace Json

/-- Every character of a text is a digit. -/
def AllDigits (cs : List Char) : Prop := ∀ c ∈ cs, c.isDigit = true

theorem allDigits_toDigits (n : Nat) : AllDigits (Nat.toDigits 10 n) :=
  fun _ hc => isDigit_of_mem_toDigits hc

theorem allDigits_zeros (n : Nat) : AllDigits (List.replicate n '0') := by
  intro c hc
  rw [(List.mem_replicate.1 hc).2]
  decide

theorem AllDigits.append {cs ds : List Char} (hc : AllDigits cs) (hd : AllDigits ds) :
    AllDigits (cs ++ ds) := by
  intro c h
  rcases List.mem_append.1 h with h | h
  · exact hc c h
  · exact hd c h

theorem AllDigits.take {cs : List Char} (h : AllDigits cs) (n : Nat) : AllDigits (cs.take n) :=
  fun c hc => h c (List.mem_of_mem_take hc)

theorem AllDigits.drop {cs : List Char} (h : AllDigits cs) (n : Nat) : AllDigits (cs.drop n) :=
  fun c hc => h c (List.mem_of_mem_drop hc)

/-! ### Reading the parts of a number -/

/-- A number with a point. -/
theorem magnitude?_point {negative : Bool} {whole fraction rest : List Char} {exponent : Int}
    (hw : AllDigits whole) (hok : whole? whole = some whole) (hf : AllDigits fraction)
    (hne : fraction ≠ []) (hend : EndsDigits rest) (he : exponent? rest = some exponent) :
    magnitude? negative (whole ++ '.' :: (fraction ++ rest)) =
      some (realOf negative whole fraction exponent) := by
  unfold magnitude?
  rw [spanDigits_append hw (endsDigits_cons (by decide) _)]
  simp only [hok, Option.bind_eq_bind, Option.bind_some]
  rw [spanDigits_append hf hend]
  have hemp : fraction.isEmpty = false := by simpa using hne
  simp only [hemp, he, Option.bind_some, Bool.false_eq_true, if_false]
  rfl

/-- A number with an exponent and without a point. -/
theorem magnitude?_exponent {negative : Bool} {whole rest : List Char} {exponent : Int}
    (hw : AllDigits whole) (hok : whole? whole = some whole)
    (he : exponent? ('e' :: rest) = some exponent) :
    magnitude? negative (whole ++ 'e' :: rest) = some (realOf negative whole [] exponent) := by
  unfold magnitude?
  rw [spanDigits_append hw (endsDigits_cons (by decide) _)]
  simp only [hok, Option.bind_eq_bind, Option.bind_some]
  show (exponent? ('e' :: rest)).bind (fun e => pure (realOf negative whole [] e)) = _
  rw [he]
  rfl

theorem exponent?_of_digit {c : Char} (hc : c.isDigit = true) (cs : List Char) :
    exponent? ('e' :: c :: cs) = (Text.digits? (c :: cs)).map Int.ofNat := by
  simp only [exponent?, true_or, if_true]
  split
  · next heq =>
    rw [List.cons.injEq] at heq
    exact absurd heq.1 (ne_of_isDigit hc (by decide))
  · next heq =>
    rw [List.cons.injEq] at heq
    exact absurd heq.1 (ne_of_isDigit hc (by decide))
  · rfl

/-- The exponent of a number, read back. -/
theorem exponent?_toString (k : Int) : exponent? ('e' :: (toString k).toList) = some k := by
  cases k with
  | ofNat n =>
    have htext : (toString (Int.ofNat n)).toList = Nat.toDigits 10 n := Nat.toList_repr
    obtain ⟨c, cs, hcs⟩ := List.exists_cons_of_ne_nil (Nat.toDigits_ne_nil (n := n) (b := 10))
    have hc : c.isDigit = true := allDigits_toDigits n c (by rw [hcs]; exact List.mem_cons_self)
    rw [htext, hcs, exponent?_of_digit hc, ← hcs, digits?_toDigits]
    rfl
  | negSucc n =>
    have htext : (toString (Int.negSucc n)).toList = '-' :: Nat.toDigits 10 (n + 1) := by
      show ("-" ++ (n + 1).repr).toList = _
      rw [String.toList_append, Nat.toList_repr]
      rfl
    rw [htext]
    simp only [exponent?, true_or, if_true]
    show (Text.digits? (Nat.toDigits 10 (n + 1))).map (fun m => -Int.ofNat m) = _
    rw [digits?_toDigits]
    rfl

/-! ### The text of a decimal -/

/-- How a decimal is spelled in a document: its digits before the point, those behind it, and its
exponent. -/
structure Spelling where
  /-- The digits before the point. -/
  whole : List Char
  /-- The digits behind the point. -/
  fraction : List Char
  /-- The exponent. -/
  exponent : Int

/-- `Spells cs p`: the characters `cs` are read, whatever their sign, as the number that `p`
spells. -/
structure Spells (cs : List Char) (p : Spelling) : Prop where
  read : ∀ negative, magnitude? negative cs = some (realOf negative p.whole p.fraction p.exponent)
  head : ∃ c rest, cs = c :: rest ∧ c.isDigit = true
  words : ∀ c ∈ cs, isWordChar c = true

namespace Spelling

/-- All digits as one whole number. -/
def digits (p : Spelling) : Nat := Nat.ofDigitChars 10 (p.whole ++ p.fraction) 0

/-- The power of ten that the digits count. -/
def scale (p : Spelling) : Int := p.exponent - p.fraction.length

end Spelling

theorem isWordChar_of_isDigit {c : Char} (h : c.isDigit = true) : isWordChar c = true := by
  unfold isWordChar Char.isAlphanum
  rw [h]
  simp

theorem AllDigits.words {cs : List Char} (h : AllDigits cs) : ∀ c ∈ cs, isWordChar c = true :=
  fun c hc => isWordChar_of_isDigit (h c hc)

theorem words_append {cs ds : List Char} (hc : ∀ c ∈ cs, isWordChar c = true)
    (hd : ∀ c ∈ ds, isWordChar c = true) : ∀ c ∈ cs ++ ds, isWordChar c = true := by
  intro c h
  rcases List.mem_append.1 h with h | h
  · exact hc c h
  · exact hd c h

theorem words_cons {c : Char} {cs : List Char} (hc : isWordChar c = true)
    (h : ∀ c ∈ cs, isWordChar c = true) : ∀ d ∈ c :: cs, isWordChar d = true :=
  List.forall_mem_cons.2 ⟨hc, h⟩

theorem words_toString (k : Int) : ∀ c ∈ (toString k).toList, isWordChar c = true := by
  cases k with
  | ofNat n =>
    have htext : (toString (Int.ofNat n)).toList = Nat.toDigits 10 n := Nat.toList_repr
    rw [htext]
    exact (allDigits_toDigits n).words
  | negSucc n =>
    have htext : (toString (Int.negSucc n)).toList = '-' :: Nat.toDigits 10 (n + 1) := by
      show ("-" ++ (n + 1).repr).toList = _
      rw [String.toList_append, Nat.toList_repr]
      rfl
    rw [htext]
    exact words_cons (by decide) (allDigits_toDigits _).words

/-- Digits before and behind a point. -/
theorem spells_point {whole fraction : List Char} (hw : AllDigits whole)
    (hok : whole? whole = some whole) (hf : AllDigits fraction) (hne : fraction ≠ []) :
    Spells (whole ++ '.' :: fraction) ⟨whole, fraction, 0⟩ where
  read negative := by
    have h : magnitude? negative (whole ++ '.' :: (fraction ++ [])) =
        some (realOf negative whole fraction 0) :=
      magnitude?_point hw hok hf hne endsDigits_nil rfl
    rwa [List.append_nil] at h
  head := by
    cases whole with
    | nil => cases hok
    | cons c rest => exact ⟨c, rest ++ '.' :: fraction, rfl, hw c List.mem_cons_self⟩
  words := words_append hw.words (words_cons (by decide) hf.words)

/-- One digit, perhaps digits behind a point, and an exponent. -/
theorem spells_exponent {c : Char} {fraction : List Char} (hc : c.isDigit = true)
    (hf : AllDigits fraction) (k : Int) :
    Spells
      (c :: (if fraction = [] then [] else '.' :: fraction) ++ 'e' :: (toString k).toList)
      ⟨[c], fraction, k⟩ where
  read negative := by
    have hw : AllDigits [c] := by simpa [AllDigits] using hc
    have hok : whole? [c] = some [c] := by
      unfold whole?
      split
      · next heq => cases heq
      · next heq => cases heq
      · rfl
    split
    · next hnil =>
      rw [hnil]
      exact magnitude?_exponent hw hok (exponent?_toString k)
    · next hne =>
      exact magnitude?_point hw hok hf hne (endsDigits_cons (by decide) _) (exponent?_toString k)
  head := ⟨c, _, rfl, hc⟩
  words := by
    refine words_append (words_cons (isWordChar_of_isDigit hc) ?_)
      (words_cons (by decide) (words_toString k))
    split
    · exact fun _ h => absurd h List.not_mem_nil
    · exact words_cons (by decide) hf.words

/-! ### The layouts of a decimal -/

/-- What a decimal needs so that no zero stands before its other digits. -/
def Trim (d : Scientific) : Prop := d.digits = 0 → d.exponent = 0

section Layouts

variable {ds : List Char} {e : Int}

/-- A whole number, followed by `.0`. -/
theorem spells_whole (hdigits : AllDigits ds) (hwhole : whole? ds = some ds)
    (hlead : e ≠ 0 → ∃ c cs, ds = c :: cs ∧ c ≠ '0') :
    Spells ((ds ++ List.replicate e.toNat '0') ++ ".0".toList)
      ⟨ds ++ List.replicate e.toNat '0', ['0'], 0⟩ := by
  have htail : ".0".toList = ['.', '0'] := rfl
  rw [htail]
  refine spells_point (hdigits.append (allDigits_zeros _)) ?_ (allDigits_zeros 1) (by decide)
  by_cases h0 : e = 0
  · rw [h0, Int.toNat_zero, List.replicate_zero, List.append_nil, hwhole]
  · obtain ⟨c, cs, rfl, hc⟩ := hlead h0
    exact whole?_of_head hc _

/-- The point stands among the digits. -/
theorem spells_among (hdigits : AllDigits ds) (hlead : ∃ c cs, ds = c :: cs ∧ c ≠ '0') {k : Nat}
    (hpos : 0 < k) (hk : k < ds.length) :
    Spells (ds.take k ++ ".".toList ++ ds.drop k) ⟨ds.take k, ds.drop k, 0⟩ := by
  have hdot : ".".toList = ['.'] := rfl
  rw [hdot, List.append_assoc, List.singleton_append]
  refine spells_point (hdigits.take _) ?_ (hdigits.drop _) ?_
  · obtain ⟨c, cs, rfl, hc⟩ := hlead
    obtain ⟨k, rfl⟩ := Nat.exists_eq_succ_of_ne_zero hpos.ne'
    exact whole?_of_head hc _
  · exact List.ne_nil_of_length_pos (by rw [List.length_drop]; omega)

/-- Only zeros stand before the digits. -/
theorem spells_after (hdigits : AllDigits ds) (hne : ds ≠ []) (k : Nat) :
    Spells ("0.".toList ++ List.replicate k '0' ++ ds) ⟨['0'], List.replicate k '0' ++ ds, 0⟩ := by
  have hzero : "0.".toList = ['0', '.'] := rfl
  rw [hzero, List.append_assoc]
  exact spells_point (allDigits_zeros 1) rfl ((allDigits_zeros _).append hdigits)
    (by simpa using fun _ => hne)

end Layouts

/-- **The text of a decimal spells it**, digit by digit, but that zeros at its end may be written
out. -/
theorem exists_spelling {d : Scientific} (hd : Trim d) :
    ∃ (p : Spelling) (k : Nat), Spells (d.text documentLayout).toList p ∧
      p.digits = d.digits * 10 ^ k ∧ p.scale + k = d.exponent := by
  have hdigits := allDigits_toDigits d.digits
  have hne : Nat.toDigits 10 d.digits ≠ [] := Nat.toDigits_ne_nil
  have hval : Nat.ofDigitChars 10 (Nat.toDigits 10 d.digits) 0 = d.digits :=
    Nat.ofDigitChars_ten_toDigits
  have hlead (h : d.exponent ≠ 0) : ∃ c cs, Nat.toDigits 10 d.digits = c :: cs ∧ c ≠ '0' :=
    head_toDigits_ne_zero (Nat.pos_of_ne_zero fun h0 => h (hd h0))
  have hwhole := whole?_toDigits d.digits
  simp only [Scientific.text, documentLayout, decide_eq_true_eq]
  generalize Nat.toDigits 10 d.digits = ds at *
  have hlen : 0 < ds.length := List.length_pos_of_ne_nil hne
  split
  · next hpos =>
    split
    · next he =>
      refine ⟨⟨ds ++ List.replicate d.exponent.toNat '0', ['0'], 0⟩, d.exponent.toNat + 1, ?_, ?_,
        ?_⟩
      · simp only [Binary64.zeros, String.toList_append, String.toList_ofList]
        exact spells_whole hdigits hwhole hlead
      · have hzero : ['0'] = List.replicate 1 '0' := rfl
        show Nat.ofDigitChars 10 (ds ++ List.replicate d.exponent.toNat '0' ++ ['0']) 0 = _
        rw [hzero, List.append_assoc, List.replicate_append_replicate, Nat.ofDigitChars_append,
          hval, Nat.ofDigitChars_replicate_zero, Nat.mul_comm]
      · simp only [Spelling.scale, List.length_singleton]
        omega
    · next he =>
      split
      · next hpoint =>
        refine ⟨⟨ds.take ((ds.length : Int) + d.exponent).toNat,
          ds.drop ((ds.length : Int) + d.exponent).toNat, 0⟩, 0, ?_, ?_, ?_⟩
        · simp only [String.toList_append, String.toList_ofList]
          exact spells_among hdigits (hlead (by omega)) (by omega) (by omega)
        · unfold Spelling.digits
          rw [List.take_append_drop, hval, pow_zero, Nat.mul_one]
        · simp only [Spelling.scale, List.length_drop]
          omega
      · next hpoint =>
        refine ⟨⟨['0'], List.replicate (-((ds.length : Int) + d.exponent)).toNat '0' ++ ds, 0⟩, 0,
          ?_, ?_, ?_⟩
        · simp only [Binary64.zeros, String.toList_append, String.toList_ofList]
          exact spells_after hdigits hne _
        · unfold Spelling.digits
          rw [Nat.ofDigitChars_append, Nat.ofDigitChars_append, Nat.ofDigitChars_replicate_zero,
            pow_zero, Nat.mul_one]
          exact hval
        · simp only [Spelling.scale, List.length_append, List.length_replicate]
          omega
  · -- an exponent follows the first digit and what stands behind it
    obtain ⟨c, cs, rfl⟩ := List.exists_cons_of_ne_nil hne
    refine ⟨⟨[c], cs, ((c :: cs).length : Int) + d.exponent - 1⟩, 0, ?_, ?_, ?_⟩
    · have h := spells_exponent (hdigits c List.mem_cons_self)
        (fun x hx => hdigits x (List.mem_cons_of_mem c hx))
        (((c :: cs).length : Int) + d.exponent - 1)
      cases cs with
      | nil => simpa using h
      | cons x xs => simpa using h
    · rw [pow_zero, Nat.mul_one]
      exact hval
    · simp only [Spelling.scale, List.length_cons]
      omega

/-! ### Doubles between the tokens of a document -/

open Binary64 (shortest finiteText signText)

theorem trim_shortest (tie : Binary64.Tie) (rank : Nat) : Trim (shortest tie rank) := by
  intro h0
  rcases Nat.eq_zero_or_pos rank with rfl | hpos
  · rfl
  · exact absurd h0 ((Binary64.rounds_shortest tie hpos).digits_pos hpos).ne'

/-- The text of a finite double spells a number that is read as this double. -/
theorem exists_spells_finite (negative : Bool) (rank : Fin Binary64.rankLimit) :
    ∃ p, Spells ((shortest .even rank).text documentLayout).toList p ∧
      realOf negative p.whole p.fraction p.exponent = .real (.finite negative rank) := by
  obtain ⟨p, k, hp, hdigits, hscale⟩ := exists_spelling (trim_shortest .even rank)
  have hread : Binary64.ofDecimal negative p.digits p.scale = .finite negative rank :=
    Binary64.ofDecimal_shortest .even rank negative hdigits hscale
  refine ⟨p, hp, ?_⟩
  show (if (Binary64.ofDecimal negative p.digits p.scale).isFinite then
    Json.real (Binary64.ofDecimal negative p.digits p.scale) else .damaged) = _
  rw [hread]
  rfl

/-- What a double in a document is read back as: the same double if it is finite. -/
def reread (x : Binary64) : Json := if x.isFinite then .real x else .null

theorem realChars_finite (negative : Bool) (rank : Fin Binary64.rankLimit) :
    realChars (.finite negative rank) =
      (signText negative).toList ++ ((shortest .even rank).text documentLayout).toList :=
  String.toList_append

theorem words_realChars (x : Binary64) : ∀ c ∈ realChars x, isWordChar c = true := by
  cases x with
  | finite negative rank =>
    obtain ⟨p, hp, -⟩ := exists_spells_finite negative rank
    rw [realChars_finite]
    refine words_append ?_ hp.words
    cases negative <;> exact List.all_eq_true.1 (by decide)
  | infinite negative =>
    show ∀ c ∈ "null".toList, isWordChar c = true
    exact List.all_eq_true.1 (by decide)
  | nan =>
    show ∀ c ∈ "null".toList, isWordChar c = true
    exact List.all_eq_true.1 (by decide)

theorem words_intChars (n : Int) : ∀ c ∈ intChars n, isWordChar c = true := by
  unfold intChars
  split
  · exact words_cons (by decide) (allDigits_toDigits _).words
  · exact (allDigits_toDigits _).words

theorem ne_nil_of_wordToken? {cs : List Char} {t : Token} (h : wordToken? cs = some t) :
    cs ≠ [] := by
  rintro rfl
  cases h

/-- **A double in a document is one word**, and it is read as `reread` says. -/
theorem wordToken?_realChars (x : Binary64) :
    wordToken? (realChars x) = some (.atom (reread x)) := by
  cases x with
  | finite negative rank =>
    obtain ⟨p, hp, hreal⟩ := exists_spells_finite negative rank
    have hread := hp.read negative
    rw [hreal] at hread
    show _ = some (Token.atom (.real (.finite negative rank)))
    rw [realChars_finite]
    cases negative with
    | true =>
      show wordToken? ('-' :: ((shortest .even rank).text documentLayout).toList) = _
      rw [wordToken?_eq_number (by decide)]
      show (magnitude? true _).map Token.atom = _
      rw [hread]
      rfl
    | false =>
      obtain ⟨c, rest, hcs, hc⟩ := hp.head
      show wordToken? ((shortest .even rank).text documentLayout).toList = _
      rw [hcs] at hread ⊢
      rw [wordToken?_eq_number ⟨ne_of_isDigit hc (by decide), ne_of_isDigit hc (by decide),
        ne_of_isDigit hc (by decide)⟩, number?_of_digit hc, hread]
      rfl
  | infinite negative => rfl
  | nan => rfl

end Json

end Stevedore
