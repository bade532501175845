import Mathlib.Tactic
import Stevedore.Text.Utf8

/-!
# Text and its bytes

The bytes of a text are read as that text, one symbol for each character (`symbols_encode`): the
four lengths that a character's bytes can have are told apart by the first of them, and a sequence
is put together from the bits that it was taken apart into.
-/

namespace Stevedore.Text

variable {a b c d : UInt8} {ch : Char}

/-! ### Sequences of each length -/

theorem symbols_one (ha : a < 0x80) (rest : List UInt8) :
    symbols (a :: rest) = some (Char.ofNat a.toNat) :: symbols rest := by
  rcases rest with - | ⟨b, - | ⟨c, - | ⟨d, rest⟩⟩⟩
  · exact congrArg (· :: []) (if_pos ha)
  · exact if_pos ha
  · exact if_pos ha
  · exact if_pos ha

theorem symbols_two (ha : ¬ a < 0x80) (h : pair? a b = some ch) (rest : List UInt8) :
    symbols (a :: b :: rest) = some ch :: symbols rest := by
  rcases rest with - | ⟨c, - | ⟨d, rest⟩⟩
  · refine (if_neg ha).trans ?_
    rw [h]
    rfl
  · exact (if_neg ha).trans (by rw [h])
  · exact (if_neg ha).trans (by rw [h])

theorem symbols_three (ha : ¬ a < 0x80) (hpair : pair? a b = none) (h : triple? a b c = some ch)
    (rest : List UInt8) : symbols (a :: b :: c :: rest) = some ch :: symbols rest := by
  rcases rest with - | ⟨d, rest⟩
  · refine (if_neg ha).trans ?_
    rw [hpair, h]
    rfl
  · exact (if_neg ha).trans (by rw [hpair, h])

theorem symbols_four (ha : ¬ a < 0x80) (hpair : pair? a b = none) (htriple : triple? a b c = none)
    (h : quadruple? a b c d = some ch) (rest : List UInt8) :
    symbols (a :: b :: c :: d :: rest) = some ch :: symbols rest :=
  (if_neg ha).trans (by rw [hpair, htriple, h])

/-! ### The bits of a character -/

section Bits

variable {w x y z n : Nat}

theorem guard_of {p : Prop} [Decidable p] (h : p) : (guard p : Option Unit) = some () :=
  if_pos h

theorem tailBits?_of_toNat (hb : b.toNat = x + 0x80) (hx : x < 64) : tailBits? b = some x := by
  have hrange : 0x80 ≤ b ∧ b ≤ 0xBF := by
    simp only [UInt8.le_iff_toNat_le, hb]
    simp
    omega
  simp [tailBits?, hrange, hb]

theorem pair?_of_toNat (ha : a.toNat = x + 0xC0) (hb : b.toNat = y + 0x80) (hx : 2 ≤ x ∧ x < 32)
    (hy : y < 64) : pair? a b = some (Char.ofNat (x * 64 + y)) := by
  have hrange : 0xC2 ≤ a ∧ a ≤ 0xDF := by
    simp only [UInt8.le_iff_toNat_le, ha]
    simp
    omega
  simp [pair?, guard_of hrange, tailBits?_of_toNat hb hy, ha]

theorem pair?_of_lead (ha : 0xDF < a.toNat) (b : UInt8) : pair? a b = none := by
  have hrange : ¬ (0xC2 ≤ a ∧ a ≤ 0xDF) := by
    simp only [UInt8.le_iff_toNat_le, not_and, not_le]
    exact fun _ => ha
  simp only [pair?, guard, if_neg hrange]
  rfl

theorem triple?_of_toNat (ha : a.toNat = x + 0xE0) (hb : b.toNat = y + 0x80)
    (hc : c.toNat = z + 0x80) (hx : x < 16) (hy : y < 64) (hz : z < 64)
    (hn : x * 4096 + y * 64 + z = n)
    (hrange : 0x800 ≤ n ∧ ¬ (0xD800 ≤ n ∧ n ≤ 0xDFFF)) : triple? a b c = some (Char.ofNat n) := by
  have hlead : 0xE0 ≤ a ∧ a ≤ 0xEF := by
    simp only [UInt8.le_iff_toNat_le, ha]
    simp
    omega
  unfold triple?
  rw [guard_of hlead, tailBits?_of_toNat hb hy, tailBits?_of_toNat hc hz, ha, Nat.add_sub_cancel,
    Option.bind_eq_bind, Option.bind_some, Option.bind_eq_bind, Option.bind_some, Option.bind_some,
    hn]
  exact congrArg (· >>= fun _ => some (Char.ofNat n)) (guard_of hrange)

theorem triple?_of_lead (ha : 0xEF < a.toNat) (b c : UInt8) : triple? a b c = none := by
  have hrange : ¬ (0xE0 ≤ a ∧ a ≤ 0xEF) := by
    simp only [UInt8.le_iff_toNat_le, not_and, not_le]
    exact fun _ => ha
  simp only [triple?, guard, if_neg hrange]
  rfl

theorem quadruple?_of_toNat (ha : a.toNat = w + 0xF0) (hb : b.toNat = x + 0x80)
    (hc : c.toNat = y + 0x80) (hd : d.toNat = z + 0x80) (hw : w < 5) (hx : x < 64) (hy : y < 64)
    (hz : z < 64) (hn : w * 262144 + x * 4096 + y * 64 + z = n)
    (hrange : 0x10000 ≤ n ∧ n ≤ 0x10FFFF) : quadruple? a b c d = some (Char.ofNat n) := by
  have hlead : 0xF0 ≤ a ∧ a ≤ 0xF4 := by
    simp only [UInt8.le_iff_toNat_le, ha]
    simp
    omega
  -- `simp` would leave the kernel to compare the code points in unary
  unfold quadruple?
  rw [guard_of hlead, tailBits?_of_toNat hb hx, tailBits?_of_toNat hc hy,
    tailBits?_of_toNat hd hz, ha, Nat.add_sub_cancel, Option.bind_eq_bind, Option.bind_some,
    Option.bind_eq_bind, Option.bind_some, Option.bind_some, Option.bind_some, hn]
  exact congrArg (· >>= fun _ => some (Char.ofNat n)) (guard_of hrange)

end Bits

/-- **The bytes of a character are read as that character**, whatever follows them. -/
theorem symbols_utf8EncodeChar (ch : Char) (rest : List UInt8) :
    symbols (String.utf8EncodeChar ch ++ rest) = some ch :: symbols rest := by
  have hchar : Char.ofNat ch.val.toNat = ch := Char.ofNat_toNat ch
  have hvalid : ch.val.toNat < 0xD800 ∨ 0xDFFF < ch.val.toNat ∧ ch.val.toNat < 0x110000 := ch.valid
  simp only [String.utf8EncodeChar]
  generalize ch.val.toNat = v at hchar hvalid ⊢
  have hbyte {n : Nat} (h : n < 256) : (UInt8.ofNat n).toNat = n := Nat.mod_eq_of_lt h
  have hascii {n : Nat} (h : n < 256) (hn : 0x80 ≤ n) : ¬ UInt8.ofNat n < 0x80 := by
    simp only [UInt8.lt_iff_toNat_lt, hbyte h]
    simpa using hn
  split_ifs with hone htwo hthree
  · have hlow : UInt8.ofNat v < 0x80 := by
      simp only [UInt8.lt_iff_toNat_lt, hbyte (show v < 256 by omega)]
      simpa using by omega
    rw [List.singleton_append, symbols_one hlow, hbyte (by omega), hchar]
  · have hpair := pair?_of_toNat (hbyte (show v / 64 % 32 + 192 < 256 by omega))
      (hbyte (show v % 64 + 128 < 256 by omega)) (by omega) (by omega)
    rw [show v / 64 % 32 * 64 + v % 64 = v by omega, hchar] at hpair
    exact symbols_two (hascii (by omega) (by omega)) hpair rest
  · have htriple := triple?_of_toNat (hbyte (show v / 4096 % 16 + 224 < 256 by omega))
      (hbyte (show v / 64 % 64 + 128 < 256 by omega)) (hbyte (show v % 64 + 128 < 256 by omega))
      (by omega) (by omega) (by omega) (show _ = v by omega) (by omega)
    rw [hchar] at htriple
    exact symbols_three (hascii (by omega) (by omega))
      (pair?_of_lead (by rw [hbyte (by omega)]; omega) _) htriple rest
  · have hquadruple := quadruple?_of_toNat (hbyte (show v / 262144 % 8 + 240 < 256 by omega))
      (hbyte (show v / 4096 % 64 + 128 < 256 by omega))
      (hbyte (show v / 64 % 64 + 128 < 256 by omega)) (hbyte (show v % 64 + 128 < 256 by omega))
      (by omega) (by omega) (by omega) (by omega) (show _ = v by omega) (by omega)
    rw [hchar] at hquadruple
    exact symbols_four (hascii (by omega) (by omega))
      (pair?_of_lead (by rw [hbyte (by omega)]; omega) _)
      (triple?_of_lead (by rw [hbyte (by omega)]; omega) _ _) hquadruple rest

/-! ### The bytes of a text -/

theorem toList_loop (bytes : ByteArray) (i : Nat) (read : List UInt8) :
    ByteArray.toList.loop bytes i read = read.reverse ++ bytes.data.toList.drop i := by
  induction hleft : bytes.size - i generalizing i read with
  | zero =>
    rw [ByteArray.toList.loop, if_neg (by omega), List.drop_eq_nil_of_le, List.append_nil]
    simpa using Nat.sub_eq_zero_iff_le.1 hleft
  | succ n ih =>
    have hi : i < bytes.data.toList.length := by
      simp only [Array.length_toList]
      show i < bytes.size
      omega
    have hget : bytes.get! i = bytes.data.toList[i] := by
      show bytes.data[i]! = _
      rw [getElem!_pos bytes.data i (by simpa using hi), Array.getElem_toList]
    rw [ByteArray.toList.loop, if_pos (by omega), ih _ _ (by omega), hget, List.reverse_cons,
      List.append_assoc, List.singleton_append, List.getElem_cons_drop]

theorem toList_eq (bytes : ByteArray) : bytes.toList = bytes.data.toList := by
  rw [ByteArray.toList, toList_loop]
  rfl

/-- The bytes of a text are those of its characters, one after another. -/
theorem encode_eq (s : String) : encode s = s.toList.flatMap String.utf8EncodeChar := by
  rw [encode, String.toUTF8, toList_eq, ← String.utf8Encode_toList, List.utf8Encode,
    List.data_toByteArray]

/-- **The bytes of a text are read as that text.** -/
theorem symbols_encode (s : String) : symbols (encode s) = ofText s := by
  rw [encode_eq, ofText]
  induction s.toList with
  | nil => rfl
  | cons c cs ih => rw [List.flatMap_cons, symbols_utf8EncodeChar, ih, List.map_cons]

theorem decode?_encode (s : String) : decode? (encode s) = some s := by
  have hread (cs : List Char) : (cs.map some).mapM (id : Symbol → Option Char) = some cs := by
    induction cs with
    | nil => rfl
    | cons c cs ih => simp [List.mapM_cons, ih]
  rw [decode?, symbols_encode, ofText, hread, Option.map_some, String.ofList_toList]

end Stevedore.Text
