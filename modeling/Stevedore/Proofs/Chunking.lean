import Stevedore.Proofs.Framing

/-!
# Where the bytes are cut

A decoder is fed with pieces and drained after each. What it gives out in the end depends on where
the bytes are cut into pieces exactly if some line that announces a length is longer than a length
line may be (`chunking_irrelevant_iff`): such a line is refused only if it has not yet ended when a
piece does. Otherwise draining what has arrived before and after a cut is the same as draining all
at once (`drain_push`).
-/

namespace Stevedore.Manager

/-- The records that were given out one after another, and the decoder that then waits for more, or
the fault that it met. -/
structure Drained where
  /-- The records, in order. -/
  records : List (List UInt8)
  /-- What is left. -/
  rest : Except FramingFault Decoder

namespace Drained

/-- One more record, given out before. -/
def cons (record : List UInt8) (x : Drained) : Drained := ⟨record :: x.records, x.rest⟩

/-- What the decoder that waits gives out in turn, if there is one. -/
def andThen (x : Drained) (f : Decoder → Drained) : Drained :=
  match x.rest with
  | .ok d => ⟨x.records ++ (f d).records, (f d).rest⟩
  | .error _ => x

/-- What can be told from outside: the records, and the decoder that waits unless it has failed. -/
def outcome (x : Drained) : List (List UInt8) × Option Decoder := (x.records, x.rest.toOption)

variable {x y : Drained} {record : List UInt8} {f g : Decoder → Drained}

theorem cons_andThen (record : List UInt8) (x : Drained) (f : Decoder → Drained) :
    (x.cons record).andThen f = (x.andThen f).cons record := by
  obtain ⟨records, rest⟩ := x
  cases rest <;> rfl

theorem outcome_cons (h : x.outcome = y.outcome) (record : List UInt8) :
    (x.cons record).outcome = (y.cons record).outcome := by
  obtain ⟨hrecords, hrest⟩ := Prod.mk.inj h
  exact Prod.ext (congrArg (record :: ·) hrecords) hrest

theorem outcome_andThen (x : Drained)
    (h : ∀ d, x.rest = .ok d → (f d).outcome = (g d).outcome) :
    (x.andThen f).outcome = (x.andThen g).outcome := by
  unfold andThen
  cases hrest : x.rest with
  | error fault => rfl
  | ok d =>
    obtain ⟨hrecords, hrest'⟩ := Prod.mk.inj (h d hrest)
    exact Prod.ext (congrArg (x.records ++ ·) hrecords) hrest'

theorem outcome_andThen_of_error {records : List (List UInt8)} (h : x.outcome = (records, none)) :
    (x.andThen f).outcome = (records, none) := by
  obtain ⟨out, rest⟩ := x
  cases rest with
  | ok d => cases congrArg Prod.snd h
  | error fault => exact h

end Drained

namespace Decoder

variable {d d' : Decoder} {buffer line rest record more : List UInt8} {n : Nat}

/-- How much is left to do. A length that has been read counts, because the record may be empty. -/
def weight (d : Decoder) : Nat := 2 * d.buffer.length + d.pending.toList.length

theorem weight_take (h : d.take n = (some record, d')) : d'.weight ≤ 2 * d.buffer.length := by
  unfold take at h
  split at h
  · cases h
  · cases h
    simp only [weight, List.length_drop, Option.toList_none, List.length_nil]
    omega

/-- **Every record leaves less to do.** -/
theorem weight_next (h : d.next = (.ok (some record), d')) : d'.weight < d.weight := by
  unfold next at h
  cases hpending : d.pending with
  | some n =>
    rw [hpending] at h
    simp only [Prod.mk.injEq, Except.ok.injEq] at h
    have htake := weight_take (n := n) (Prod.ext h.1 h.2)
    have hweight : d.weight = 2 * d.buffer.length + 1 := by simp [weight, hpending]
    omega
  | none =>
    rw [hpending] at h
    dsimp only at h
    split at h
    · next hline =>
      split at h
      · cases h
      · next n hn =>
        simp only [Prod.mk.injEq, Except.ok.injEq] at h
        have htake := weight_take (Prod.ext h.1 h.2)
        have hrest : ((d.buffer.dropWhile (· != lineEnd)).drop 1).length < d.buffer.length := by
          have hle := (List.dropWhile_suffix (l := d.buffer) (· != lineEnd)).length_le
          have hpos : 0 < d.buffer.length := List.length_pos_of_mem hline
          rw [List.length_drop]
          omega
        have hweight : d.weight = 2 * d.buffer.length := by simp [weight, hpending]
        dsimp only at htake
        omega
    · split at h
      · cases h
      · cases h

/-- Give out records as long as there are complete ones. -/
def drain (d : Decoder) : Drained :=
  match _h : d.next with
  | (.ok (some record), d') => (drain d').cons record
  | (.ok none, d') => ⟨[], .ok d'⟩
  | (.error fault, _) => ⟨[], .error fault⟩
termination_by d.weight
decreasing_by exact weight_next _h

/-- Take pieces one after another, and drain the decoder after each. A fault is final. -/
def read : List (List UInt8) → Decoder → Drained
  | [], d => ⟨[], .ok d⟩
  | chunk :: chunks, d => (d.push chunk).drain.andThen (read chunks)

/-! ### Draining -/

theorem drain_of_record (h : d.next = (.ok (some record), d')) :
    d.drain = d'.drain.cons record := by
  rw [drain]
  split <;> simp_all

theorem drain_of_none (h : d.next = (.ok none, d')) : d.drain = ⟨[], .ok d'⟩ := by
  rw [drain]
  split <;> simp_all

theorem drain_of_error {fault : FramingFault} (h : d.next.1 = .error fault) :
    d.drain = ⟨[], .error fault⟩ := by
  rw [drain]
  split <;> simp_all

/-- A record is complete. -/
theorem drain_some_of_le (h : n ≤ buffer.length) :
    drain ⟨buffer, some n⟩ = (drain ⟨buffer.drop n, none⟩).cons (buffer.take n) :=
  drain_of_record (by simp [next, take, Nat.not_lt.2 h])

/-- A record is not complete. -/
theorem drain_some_of_lt (h : buffer.length < n) :
    drain ⟨buffer, some n⟩ = ⟨[], .ok ⟨buffer, some n⟩⟩ :=
  drain_of_none (by simp [next, take, h])

theorem next_line (hline : lineEnd ∉ line) (hn : lengthOfLine line = .ok n) :
    next ⟨line ++ lineEnd :: rest, none⟩ = next ⟨rest, some n⟩ := by
  have hsplit := line_of_append rest hline
  simp [next, hsplit, hn, take]

/-- A line announces the length of a record. -/
theorem drain_line (hline : lineEnd ∉ line) (hn : lengthOfLine line = .ok n) :
    drain ⟨line ++ lineEnd :: rest, none⟩ = drain ⟨rest, some n⟩ := by
  have hnext : next ⟨line ++ lineEnd :: rest, none⟩ = next ⟨rest, some n⟩ := next_line hline hn
  rw [drain, drain]
  split <;> split <;> simp_all

/-- A line announces nothing. -/
theorem drain_bad_line {fault : FramingFault} (hline : lineEnd ∉ line)
    (hfault : lengthOfLine line = .error fault) :
    drain ⟨line ++ lineEnd :: rest, none⟩ = ⟨[], .error fault⟩ := by
  have hsplit := line_of_append rest hline
  exact drain_of_error (by simp [next, hsplit, hfault])

/-- A line has not ended, and need not have. -/
theorem drain_open_line (hline : lineEnd ∉ buffer) (hshort : buffer.length ≤ longestLine) :
    drain ⟨buffer, none⟩ = ⟨[], .ok ⟨buffer, none⟩⟩ :=
  drain_of_none (by simp [next, hline, Nat.not_lt.2 hshort])

/-- A line should have ended. -/
theorem drain_long_line (hline : lineEnd ∉ buffer) (hlong : longestLine < buffer.length) :
    drain ⟨buffer, none⟩ = ⟨[], .error .tooLong⟩ :=
  drain_of_error (by simp [next, hline, hlong])

/-- What a decoder comes to while it is drained. -/
inductive Course : Decoder → Prop
  /-- A record that is not complete. -/
  | short {buffer : List UInt8} {n : Nat} (h : buffer.length < n) : Course ⟨buffer, some n⟩
  /-- A record that is complete, and then more. -/
  | record {buffer : List UInt8} {n : Nat} (h : n ≤ buffer.length)
      (hrest : Course ⟨buffer.drop n, none⟩) : Course ⟨buffer, some n⟩
  /-- A line that announces the length of a record, and then that record. -/
  | line {line rest : List UInt8} {n : Nat} (hline : lineEnd ∉ line)
      (hn : lengthOfLine line = .ok n) (hrest : Course ⟨rest, some n⟩) :
      Course ⟨line ++ lineEnd :: rest, none⟩
  /-- A line that announces nothing. -/
  | badLine {line rest : List UInt8} {fault : FramingFault} (hline : lineEnd ∉ line)
      (hfault : lengthOfLine line = .error fault) : Course ⟨line ++ lineEnd :: rest, none⟩
  /-- A line that has not ended. -/
  | openLine {buffer : List UInt8} (hline : lineEnd ∉ buffer) : Course ⟨buffer, none⟩

theorem course : (d : Decoder) → Course d
  | ⟨buffer, some n⟩ => by
    by_cases h : n ≤ buffer.length
    · exact .record h (course ⟨buffer.drop n, none⟩)
    · exact .short (Nat.not_le.1 h)
  | ⟨buffer, none⟩ => by
    by_cases hend : lineEnd ∈ buffer
    · obtain ⟨line, rest, hbuffer, hline⟩ := List.eq_append_cons_of_mem hend
      have hshorter : rest.length < buffer.length := by
        rw [hbuffer, List.length_append, List.length_cons]
        omega
      cases hn : lengthOfLine line with
      | ok n => exact hbuffer ▸ .line hline hn (course ⟨rest, some n⟩)
      | error fault => exact hbuffer ▸ .badLine hline hn
    · exact .openLine hend
termination_by d => d.weight
decreasing_by
  all_goals
    simp only [weight, List.length_drop, Option.toList_some, Option.toList_none,
      List.length_singleton, List.length_nil]
    omega

/-- A decoder that waits after it was drained has nothing to give out. -/
theorem drain_of_drain_eq_ok (h : d.drain.rest = .ok d') : d'.drain = ⟨[], .ok d'⟩ := by
  induction course d with
  | short hshort =>
    rw [drain_some_of_lt hshort] at h
    cases h
    exact drain_some_of_lt hshort
  | record hfull _ ih =>
    rw [drain_some_of_le hfull] at h
    exact ih h
  | line hline hn _ ih =>
    rw [drain_line hline hn] at h
    exact ih h
  | badLine hline hfault =>
    rw [drain_bad_line hline hfault] at h
    cases h
  | @openLine buffer hline =>
    by_cases hshort : buffer.length ≤ longestLine
    · rw [drain_open_line hline hshort] at h
      cases h
      exact drain_open_line hline hshort
    · rw [drain_long_line hline (Nat.not_le.1 hshort)] at h
      cases h

/-! ### Lines that announce a record -/

/-- `Announces pending bytes line`: whoever reads on, from a record of which the length is known or
from a length line, comes to a line that announces a record. -/
inductive Announces : Option Nat → List UInt8 → List UInt8 → Prop
  /-- It is the first one. -/
  | first {line rest : List UInt8} {n : Nat} (hline : lineEnd ∉ line)
      (hn : lengthOfLine line = .ok n) : Announces none (line ++ lineEnd :: rest) line
  /-- It comes after another one. -/
  | later {other rest line : List UInt8} {n : Nat} (hother : lineEnd ∉ other)
      (hn : lengthOfLine other = .ok n) (h : Announces (some n) rest line) :
      Announces none (other ++ lineEnd :: rest) line
  /-- It comes after a record. -/
  | record {bytes line : List UInt8} {n : Nat} (hfull : n ≤ bytes.length)
      (h : Announces none (bytes.drop n) line) : Announces (some n) bytes line

/-- Every line that announces a record is as short as length lines have to be. -/
def Brief (pending : Option Nat) (bytes : List UInt8) : Prop :=
  ∀ ⦃line⦄, Announces pending bytes line → line.length ≤ longestLine

/-- What is announced after draining is announced before. -/
theorem Announces.of_drain (h : Announces d'.pending (d'.buffer ++ more) line)
    (hd : d.drain.rest = .ok d') : Announces d.pending (d.buffer ++ more) line := by
  induction course d with
  | short hshort =>
    rw [drain_some_of_lt hshort] at hd
    cases hd
    exact h
  | @record buffer n hfull _ ih =>
    rw [drain_some_of_le hfull] at hd
    refine .record (hfull.trans (by simp)) ?_
    rw [List.drop_append_of_le_length hfull]
    exact ih hd
  | @line first rest n hline hn _ ih =>
    rw [drain_line hline hn] at hd
    dsimp only
    rw [List.append_assoc, List.cons_append]
    exact .later hline hn (ih hd)
  | badLine hline hfault =>
    rw [drain_bad_line hline hfault] at hd
    cases hd
  | @openLine buffer hline =>
    by_cases hshort : buffer.length ≤ longestLine
    · rw [drain_open_line hline hshort] at hd
      cases hd
      exact h
    · rw [drain_long_line hline (Nat.not_le.1 hshort)] at hd
      cases hd

/-- A line that should have ended is refused also when it does end, or announces a record. -/
theorem drain_append_of_long (hline : lineEnd ∉ buffer) (hlong : longestLine < buffer.length)
    (hbrief : Brief none (buffer ++ more)) :
    (drain ⟨buffer ++ more, none⟩).outcome = ([], none) := by
  by_cases hmore : lineEnd ∈ more
  · obtain ⟨line, rest, rfl, hline'⟩ := List.eq_append_cons_of_mem hmore
    have hwhole : lineEnd ∉ buffer ++ line := by simp [hline, hline']
    rw [← List.append_assoc] at hbrief ⊢
    cases hn : lengthOfLine (buffer ++ line) with
    | error fault =>
      rw [drain_bad_line hwhole hn]
      rfl
    | ok n =>
      have hle := hbrief (.first hwhole hn)
      rw [List.length_append] at hle
      omega
  · rw [drain_long_line (by simp [hline, hmore]) (by rw [List.length_append]; omega)]
    rfl

/-- **Draining before more bytes arrive makes no difference.** -/
theorem drain_push (hbrief : Brief d.pending (d.buffer ++ more)) :
    (d.push more).drain.outcome = (d.drain.andThen fun d' => (d'.push more).drain).outcome := by
  induction course d with
  | short hshort =>
    rw [drain_some_of_lt hshort]
    rfl
  | @record buffer n hfull _ ih =>
    have hfull' : n ≤ (buffer ++ more).length := hfull.trans (by simp)
    have hrest : Brief none (buffer.drop n ++ more) := by
      intro line h
      refine hbrief (.record hfull' ?_)
      rwa [List.drop_append_of_le_length hfull]
    rw [drain_some_of_le hfull, Drained.cons_andThen, push, drain_some_of_le hfull',
      List.drop_append_of_le_length hfull, List.take_append_of_le_length hfull]
    exact Drained.outcome_cons (ih hrest) _
  | @line first rest n hline hn _ ih =>
    have hassoc : (first ++ lineEnd :: rest) ++ more = first ++ lineEnd :: (rest ++ more) := by simp
    dsimp only at hbrief
    rw [hassoc] at hbrief
    rw [drain_line hline hn, push, hassoc, drain_line hline hn]
    exact ih fun line h => hbrief (.later hline hn h)
  | @badLine first rest fault hline hfault =>
    have hassoc : (first ++ lineEnd :: rest) ++ more = first ++ lineEnd :: (rest ++ more) := by simp
    rw [drain_bad_line hline hfault, push, hassoc, drain_bad_line hline hfault]
    rfl
  | @openLine buffer hline =>
    by_cases hshort : buffer.length ≤ longestLine
    · rw [drain_open_line hline hshort]
      rfl
    · rw [drain_long_line hline (Nat.not_le.1 hshort)]
      exact drain_append_of_long hline (Nat.not_le.1 hshort) hbrief

/-! ### Reading in pieces -/

theorem push_append (d : Decoder) (a b : List UInt8) : d.push (a ++ b) = (d.push a).push b := by
  simp [push]

/-- **Reading in pieces yields what reading all at once does.** -/
theorem outcome_read {chunks : List (List UInt8)} (hdrained : d.drain = ⟨[], .ok d⟩)
    (hbrief : Brief d.pending (d.buffer ++ chunks.flatten)) :
    (d.read chunks).outcome = (d.push chunks.flatten).drain.outcome := by
  induction chunks generalizing d with
  | nil =>
    have hpush : d.push [] = d := by simp [push]
    rw [List.flatten_nil, hpush, hdrained]
    rfl
  | cons chunk chunks ih =>
    rw [List.flatten_cons] at hbrief ⊢
    have hbrief' : Brief (d.push chunk).pending ((d.push chunk).buffer ++ chunks.flatten) := by
      simpa [push] using hbrief
    rw [push_append, drain_push hbrief']
    exact Drained.outcome_andThen _ fun d' hd' =>
      ih (drain_of_drain_eq_ok hd') fun line h => hbrief' (h.of_drain hd')

/-- A long line that announces a record is refused if it is cut, and read if it is not. -/
theorem Announces.exists_cut {pending : Option Nat} {bytes : List UInt8}
    (h : Announces pending bytes line) (hlong : longestLine < line.length) :
    ∃ before after records, before ++ after = bytes ∧
      (drain ⟨before, pending⟩).outcome = (records, none) ∧
      (drain ⟨bytes, pending⟩).outcome ≠ (records, none) := by
  induction h with
  | @first line rest n hline hn =>
    have hcut : lineEnd ∉ line.take (longestLine + 1) := fun hmem =>
      hline (List.mem_of_mem_take hmem)
    refine ⟨line.take (longestLine + 1), line.drop (longestLine + 1) ++ lineEnd :: rest, [],
      ?_, ?_, ?_⟩
    · rw [← List.append_assoc, List.take_append_drop]
    · rw [drain_long_line hcut (by rw [List.length_take]; omega)]
      rfl
    · rw [drain_line hline hn]
      by_cases hfull : n ≤ rest.length
      · rw [drain_some_of_le hfull]
        exact fun heq => nomatch congrArg Prod.fst heq
      · rw [drain_some_of_lt (Nat.not_le.1 hfull)]
        exact fun heq => nomatch congrArg Prod.snd heq
  | @later other rest line n hother hn _ ih =>
    obtain ⟨before, after, records, rfl, hcut, hwhole⟩ := ih hlong
    refine ⟨other ++ lineEnd :: before, after, records, by simp, ?_, ?_⟩
    · rwa [drain_line hother hn]
    · rwa [drain_line hother hn]
  | @record bytes line n hfull _ ih =>
    obtain ⟨before, after, records, hbytes, hcut, hwhole⟩ := ih hlong
    refine ⟨bytes.take n ++ before, after, bytes.take n :: records, ?_, ?_, ?_⟩
    · rw [List.append_assoc, hbytes, List.take_append_drop]
    · have htake : (bytes.take n).length = n := by rw [List.length_take]; omega
      rw [drain_some_of_le (by rw [List.length_append]; omega), List.take_left' htake,
        List.drop_left' htake]
      obtain ⟨hrecords, hrest⟩ := Prod.mk.inj hcut
      exact Prod.ext (congrArg (bytes.take n :: ·) hrecords) hrest
    · rw [drain_some_of_le hfull]
      intro heq
      obtain ⟨hrecords, hrest⟩ := Prod.mk.inj heq
      exact hwhole (Prod.ext (List.cons.inj hrecords).2 hrest)

theorem drain_fresh : fresh.drain = ⟨[], .ok fresh⟩ :=
  drain_open_line List.not_mem_nil (Nat.zero_le _)

theorem outcome_read_singleton (bytes : List UInt8) :
    (fresh.read [bytes]).outcome = (drain ⟨bytes, none⟩).outcome := by
  show ((drain ⟨bytes, none⟩).andThen (read [])).outcome = _
  generalize drain ⟨bytes, none⟩ = x
  obtain ⟨records, rest⟩ := x
  cases rest with
  | ok d => exact Prod.ext (List.append_nil records) rfl
  | error fault => rfl

/-- **Where a stream is cut into pieces makes no difference exactly if every line that announces a
record is as short as length lines have to be.** Then the same records are given out, and in the
end the decoder has failed or waits in the same state. A longer line is refused where a piece ends
before the line does, and otherwise read. -/
theorem chunking_irrelevant_iff (bytes : List UInt8) :
    (∀ chunks chunks' : List (List UInt8), chunks.flatten = bytes → chunks'.flatten = bytes →
      (fresh.read chunks).outcome = (fresh.read chunks').outcome) ↔
    ∀ line, Announces none bytes line → line.length ≤ longestLine := by
  constructor
  · intro hsame line h
    by_contra hlong
    obtain ⟨before, after, records, rfl, hcut, hwhole⟩ := h.exists_cut (Nat.not_le.1 hlong)
    have heq := hsame [before ++ after] [before, after] (by simp) (by simp)
    have hfailed : (fresh.read [before, after]).outcome = (records, none) :=
      Drained.outcome_andThen_of_error hcut
    rw [outcome_read_singleton, hfailed] at heq
    exact hwhole heq
  · intro hbrief chunks chunks' hchunks hchunks'
    have hboth : ∀ {pieces : List (List UInt8)}, pieces.flatten = bytes →
        (fresh.read pieces).outcome = (fresh.push bytes).drain.outcome := by
      rintro pieces rfl
      exact outcome_read drain_fresh fun line h => hbrief line h
    rw [hboth hchunks, hboth hchunks']

/-- The length five, written with more zeros than a length line has room for. -/
def paddedLine : List UInt8 := List.replicate 21 48 ++ [53]

/-- The five letters that it announces. -/
def greeting : List UInt8 := [104, 101, 108, 108, 111]

/-- **The same bytes in two pieces are refused, and in one piece they are a record.** -/
theorem padded_line_cut :
    ([paddedLine, lineEnd :: greeting].flatten = [paddedLine ++ lineEnd :: greeting].flatten) ∧
      (fresh.read [paddedLine, lineEnd :: greeting]).outcome = ([], none) ∧
      (fresh.read [paddedLine ++ lineEnd :: greeting]).outcome = ([greeting], some fresh) := by
  refine ⟨rfl, ?_, ?_⟩
  · have hcut : (fresh.push paddedLine).drain = ⟨[], .error .tooLong⟩ :=
      drain_long_line (by decide) (by decide)
    rw [read, hcut]
    rfl
  · have hrecord : drain ⟨greeting, some 5⟩ = fresh.drain.cons greeting := drain_some_of_le le_rfl
    have hline : lengthOfLine paddedLine = .ok 5 := by decide +kernel
    rw [outcome_read_singleton, drain_line (by decide) hline, hrecord, drain_fresh]
    rfl

end Decoder

end Stevedore.Manager
