import Stevedore.Manager.EventStream
import Stevedore.Proofs.Digits
import Stevedore.Proofs.Utf8Text

/-!
# From bytes to records

A stream of framed records is taken apart into those records, wherever its bytes are cut into
pieces and wherever it breaks off (`yields_ofBody`). What carries the proof is `Due`: at any moment
the bytes in the decoder together with those still to arrive are the rest of a length line, or the
rest of a record whose length is known, and then whole frames. Giving out a record keeps it, and so
does the arrival of a piece, which only moves bytes from one side to the other.
-/

namespace Stevedore.Manager

/-! ### Length lines -/

/-- The line that announces a length, without its end. -/
def lengthLine (n : Nat) : List UInt8 := Text.encode (Text.decimal n)

theorem code_of_isDigit {c : Char} (h : c.isDigit = true) : 48 ≤ c.toNat ∧ c.toNat ≤ 57 :=
  Char.isDigit_iff_toNat.1 h

theorem lengthLine_eq (n : Nat) :
    lengthLine n = (Nat.toDigits 10 n).map fun c => UInt8.ofNat c.toNat := by
  rw [lengthLine, Text.encode_eq, Text.decimal, String.toList_ofList, List.map_eq_flatMap]
  refine List.flatMap_congr fun c hc => ?_
  have hcode := code_of_isDigit (Json.isDigit_of_mem_toDigits hc)
  exact if_pos (show c.toNat ≤ 127 by omega)

theorem length_lengthLine_le {n : Nat} (h : n ≤ longestRecord) :
    (lengthLine n).length ≤ longestLine := by
  rw [lengthLine_eq, List.length_map]
  refine Nat.toDigits_length 10 n longestLine (by decide) (Nat.lt_of_le_of_lt h ?_)
  decide

theorem lineEnd_notMem_lengthLine (n : Nat) : lineEnd ∉ lengthLine n := by
  rw [lengthLine_eq, List.mem_map]
  rintro ⟨c, hc, hend⟩
  have hcode := code_of_isDigit (Json.isDigit_of_mem_toDigits hc)
  have hvalue := congrArg UInt8.toNat hend
  simp [lineEnd] at hvalue
  omega

theorem isBlank_of_isDigit {c : Char} (h : c.isDigit = true) : Text.isBlank c = false := by
  have hcode := code_of_isDigit h
  simp [Text.isBlank]
  omega

theorem trim_decimal (n : Nat) : Text.trim (Text.decimal n) = Text.decimal n := by
  have hkeep {cs : List Char} (h : ∀ c ∈ cs, c.isDigit = true) :
      cs.dropWhile Text.isBlank = cs := by
    cases cs with
    | nil => rfl
    | cons c cs => simp [isBlank_of_isDigit (h c List.mem_cons_self)]
  have hdigits : ∀ c ∈ Nat.toDigits 10 n, c.isDigit = true := fun c hc =>
    Json.isDigit_of_mem_toDigits hc
  simp only [Text.trim, Text.trimChars, Text.decimal, String.toList_ofList]
  rw [hkeep hdigits, hkeep (by simpa using hdigits), List.reverse_reverse]

theorem count?_decimal {limit n : Nat} (h : n < limit) :
    Text.count? limit (Text.decimal n) = some n := by
  have hsign : ∀ cs, Nat.toDigits 10 n ≠ '+' :: cs := by
    intro cs hcs
    have := Json.isDigit_of_mem_toDigits (n := n) (c := '+') (by rw [hcs]; exact List.mem_cons_self)
    exact absurd this (by decide)
  unfold Text.count? Text.decimal
  rw [String.toList_ofList]
  split
  · next cs hcs => exact absurd hcs (hsign cs)
  · simp [Json.digits?_toDigits, h]

/-- **A length line is read as the length that it announces.** -/
theorem lengthOfLine_lengthLine {n : Nat} (h : n ≤ longestRecord) :
    lengthOfLine (lengthLine n) = .ok n := by
  have hword : n < wordLimit 64 := Nat.lt_of_le_of_lt h (by decide)
  simp [lengthOfLine, lengthLine, Text.decode?_encode, trim_decimal, count?_decimal hword, h]

/-! ### What is still to come -/

/-- A frame that breaks off. -/
def IsCut (bytes : List UInt8) : Prop :=
  ∃ record, record.length ≤ longestRecord ∧ bytes <+: frame record ∧ bytes ≠ frame record

/-- `Due pending bytes records`: after the given length, if one has been read, the bytes hold the
given records and then at most a part of another. -/
inductive Due : Option Nat → List UInt8 → List (List UInt8) → Prop
  /-- A length line comes first. -/
  | line {n bytes records} (hn : n ≤ longestRecord) (h : Due (some n) bytes records) :
      Due none (lengthLine n ++ lineEnd :: bytes) records
  /-- A record of which the length is known comes first. -/
  | record {record bytes records} (h : Due none bytes records) :
      Due (some record.length) (record ++ bytes) (record :: records)
  /-- There is less left than a length line. -/
  | cutLine {n bytes} (hn : n ≤ longestRecord) (h : bytes <+: lengthLine n) : Due none bytes []
  /-- There is less left than the record. -/
  | cutRecord {n bytes} (h : bytes.length < n) : Due (some n) bytes []

theorem Due.of_isCut {rest : List UInt8} (h : IsCut rest) : Due none rest [] := by
  obtain ⟨record, hsize, ⟨missing, hmissing⟩, hne⟩ := h
  obtain ⟨left, hline, -⟩ | ⟨part, hrest, hrecord⟩ := List.append_eq_append_iff.1 hmissing
  · exact .cutLine hsize ⟨left, hline.symm⟩
  · cases part with
    | nil => exact .cutLine hsize (by simp [hrest, lengthLine])
    | cons b part =>
      rw [List.cons_append, List.cons.injEq] at hrecord
      obtain ⟨rfl, hrecord⟩ := hrecord
      rw [hrest]
      refine .line hsize (.cutRecord ?_)
      by_contra hall
      have hmissing : missing = [] := by
        have hlength := congrArg List.length hrecord
        rw [List.length_append] at hlength
        exact List.eq_nil_of_length_eq_zero (by omega)
      rw [hmissing, List.append_nil] at hrecord
      exact hne (by rw [hrest, hrecord, frame])

/-- **Frames and a part of another are due** at the beginning. -/
theorem Due.of_frames {records : List (List UInt8)} {rest : List UInt8}
    (hsizes : ∀ record ∈ records, record.length ≤ longestRecord) (hrest : IsCut rest) :
    Due none ((records.map frame).flatten ++ rest) records := by
  induction records with
  | nil => exact .of_isCut hrest
  | cons record records ih =>
    rw [List.forall_mem_cons] at hsizes
    have hline := Due.line hsizes.1 (.record (ih hsizes.2))
    simpa [frame, lengthLine] using hline

/-! ### Giving out a record -/

/-- What a decoder may give out while some bytes are still to arrive: the record that is due first,
or none, and none for good only if no record is due. -/
inductive Given (incoming : List UInt8) :
    List (List UInt8) → Option (List UInt8) × Decoder → Prop
  | record {record records d} (h : Due d.pending (d.buffer ++ incoming) records) :
      Given incoming (record :: records) (some record, d)
  | none {records d} (h : Due d.pending (d.buffer ++ incoming) records)
      (hlast : incoming = [] → records = []) : Given incoming records (none, d)

variable {d : Decoder} {incoming : List UInt8} {records : List (List UInt8)}

/-- Two ways to cut the same bytes, the one behind the other. -/
theorem exists_append_of_length_le {buffer first rest : List UInt8}
    (h : buffer ++ incoming = first ++ rest) (hlength : first.length ≤ buffer.length) :
    ∃ after, buffer = first ++ after ∧ rest = after ++ incoming := by
  obtain ⟨after, rfl⟩ := List.prefix_of_prefix_length_le ⟨rest, h.symm⟩ ⟨incoming, rfl⟩ hlength
  rw [List.append_assoc, List.append_cancel_left_eq] at h
  exact ⟨after, rfl, h.symm⟩

theorem given_take {n : Nat} (h : Due (some n) (d.buffer ++ incoming) records) :
    Given incoming records (d.take n) := by
  unfold Decoder.take
  generalize hbytes : d.buffer ++ incoming = bytes at h
  cases h with
  | @record record rest records hdue =>
    split_ifs with hshort
    · refine .none (hbytes ▸ .record hdue) fun hlast => ?_
      rw [hlast, List.append_nil] at hbytes
      simp [hbytes] at hshort
    · obtain ⟨after, hbuffer, rfl⟩ := exists_append_of_length_le hbytes (by omega)
      rw [hbuffer, List.take_left, List.drop_left]
      exact .record hdue
  | cutRecord hcut =>
    have hshort : d.buffer.length < n := by
      rw [← hbytes, List.length_append] at hcut
      omega
    rw [if_pos hshort]
    exact .none (hbytes ▸ .cutRecord hcut) fun _ => rfl

/-- The line at the beginning of some bytes, and what comes after its end. -/
theorem line_of_append {line : List UInt8} (after : List UInt8) (h : lineEnd ∉ line) :
    (line ++ lineEnd :: after).takeWhile (· != lineEnd) = line ∧
      ((line ++ lineEnd :: after).dropWhile (· != lineEnd)).drop 1 = after := by
  have hline : ∀ b ∈ line, (b != lineEnd) = true := fun b hb => by
    simpa using fun hend : b = lineEnd => h (hend ▸ hb)
  rw [List.takeWhile_append_of_pos hline, List.dropWhile_append_of_pos hline]
  simp

/-- **Giving out a record keeps what is due.** No fault arises. -/
theorem given_next (h : Due d.pending (d.buffer ++ incoming) records) :
    ∃ out, d.next = (.ok out.1, out.2) ∧ Given incoming records out := by
  cases hpending : d.pending with
  | some n =>
    rw [hpending] at h
    exact ⟨d.take n, by simp [Decoder.next, hpending], given_take h⟩
  | none =>
    -- without a line end, what has arrived is a part of a length line
    have hwait {n : Nat} (hn : n ≤ longestRecord) (hpart : d.buffer <+: lengthLine n)
        (hlast : incoming = [] → records = []) :
        ∃ out, d.next = (.ok out.1, out.2) ∧ Given incoming records out := by
      have hline : lineEnd ∉ d.buffer := fun hmem =>
        lineEnd_notMem_lengthLine n (hpart.subset hmem)
      have hshort : ¬ longestLine < d.buffer.length :=
        Nat.not_lt.2 (hpart.length_le.trans (length_lengthLine_le hn))
      exact ⟨(none, d), by simp [Decoder.next, hpending, hline, hshort], .none h hlast⟩
    rw [hpending] at h
    generalize hbytes : d.buffer ++ incoming = bytes at h
    cases h with
    | @line n rest records hn hdue =>
      have hmore (hpart : d.buffer <+: lengthLine n) (hlast : incoming = []) : records = [] := by
        rw [hlast, List.append_nil] at hbytes
        exact (lineEnd_notMem_lengthLine n (hpart.subset (by simp [hbytes]))).elim
      obtain ⟨missing, hline, -⟩ | ⟨part, hbuffer, hrest⟩ := List.append_eq_append_iff.1 hbytes
      · have hpart : d.buffer <+: lengthLine n := ⟨missing, hline.symm⟩
        exact hwait hn hpart (hmore hpart)
      · cases part with
        | nil =>
          have hpart : d.buffer <+: lengthLine n := by simp [hbuffer]
          exact hwait hn hpart (hmore hpart)
        | cons b after =>
          rw [List.cons_append, List.cons.injEq] at hrest
          obtain ⟨rfl, rfl⟩ := hrest
          have hsplit := line_of_append after (lineEnd_notMem_lengthLine n)
          refine ⟨Decoder.take ⟨after, none⟩ n, ?_, given_take hdue⟩
          simp [Decoder.next, hpending, hbuffer, hsplit, lengthOfLine_lengthLine hn]
    | cutLine hn hpart =>
      exact hwait hn ((List.prefix_append _ incoming).trans (hbytes ▸ hpart)) fun _ => rfl

/-! ### The items of a stream -/

/-- The stream yields the given items, one after another, and then no more. -/
inductive Yields : EventStream → List Item → Prop
  | ended {s} (h : s.poll.1 = none) : Yields s []
  | item {s s' item items} (h : s.poll = (some item, s')) (rest : Yields s' items) :
      Yields s (item :: items)

theorem Yields.itemsUpTo {s : EventStream} {items : List Item} (h : Yields s items) (n : Nat) :
    s.itemsUpTo n = items.take n := by
  induction h generalizing n with
  | @ended s h =>
    cases n with
    | zero => rfl
    | succ n =>
      obtain ⟨item, s', hpoll⟩ : ∃ item s', s.poll = (item, s') := ⟨_, _, rfl⟩
      rw [hpoll] at h
      obtain rfl : item = none := h
      simp [EventStream.itemsUpTo, hpoll]
  | item h _ ih =>
    cases n with
    | zero => rfl
    | succ n => simp [EventStream.itemsUpTo, h, ih]

theorem yields_of_isOver {s : EventStream} (h : s.isOver) : Yields s [] :=
  .ended (by simp [EventStream.poll, h])

/-- How a stream ends: with a fault if the connection breaks. -/
def Body.ending (broken : Bool) : List Item := if broken then [.error .transport] else []

/-- What a poll does while records are due: it gives out the first of them, or the ending if there
are none. -/
inductive Polled (broken : Bool) : List (List UInt8) → Option Item × EventStream → Prop
  | record {record records d chunks} (h : Due d.pending (d.buffer ++ chunks.flatten) records) :
      Polled broken (record :: records)
        (some (EventStream.itemOf record), ⟨d, ⟨chunks, broken⟩, false⟩)
  | ending {s} (h : s.isOver) : Polled broken [] ((Body.ending broken).head?, s)

/-- **A poll takes in pieces until a record is complete**, or until there are no more. -/
theorem polled_pollFrom (broken : Bool) {chunks : List (List UInt8)}
    (h : Due d.pending (d.buffer ++ chunks.flatten) records) :
    Polled broken records (EventStream.pollFrom broken d chunks) := by
  induction chunks generalizing d with
  | nil =>
    obtain ⟨out, hnext, hgiven⟩ := given_next h
    cases hgiven with
    | record hdue =>
      simp only [EventStream.pollFrom, EventStream.give, hnext]
      exact .record hdue
    | none hdue hlast =>
      simp only [EventStream.pollFrom, EventStream.give, hnext, hlast rfl]
      cases broken with
      | false => exact .ending rfl
      | true => exact .ending rfl
  | cons chunk chunks ih =>
    obtain ⟨out, hnext, hgiven⟩ := given_next h
    cases hgiven with
    | record hdue =>
      simp only [EventStream.pollFrom, EventStream.give, hnext]
      exact .record hdue
    | @none _ d' hdue hlast =>
      simp only [EventStream.pollFrom, EventStream.give, hnext]
      exact ih (by simpa [Decoder.push] using hdue)

theorem yields_of_due {broken : Bool} {chunks : List (List UInt8)}
    (h : Due d.pending (d.buffer ++ chunks.flatten) records) :
    Yields ⟨d, ⟨chunks, broken⟩, false⟩
      (records.map EventStream.itemOf ++ Body.ending broken) := by
  induction records generalizing d chunks with
  | nil =>
    generalize hpoll : EventStream.pollFrom broken d chunks = polled
    cases hpoll ▸ polled_pollFrom broken h with
    | @ending s hover =>
      cases broken with
      | false => exact .ended (congrArg Prod.fst hpoll)
      | true => exact .item hpoll (yields_of_isOver hover)
  | cons record records ih =>
    generalize hpoll : EventStream.pollFrom broken d chunks = polled
    cases hpoll ▸ polled_pollFrom broken h with
    | record hdue => exact .item hpoll (ih hdue)

/-- **The items of a stream of frames**, however its bytes are cut into pieces: one for each
record, in order, and one more if the connection breaks. -/
theorem yields_ofBody {records chunks : List (List UInt8)} {rest : List UInt8} (broken : Bool)
    (hsizes : ∀ record ∈ records, record.length ≤ longestRecord) (hrest : IsCut rest)
    (hbytes : chunks.flatten = (records.map frame).flatten ++ rest) :
    Yields (.ofBody ⟨chunks, broken⟩) (records.map EventStream.itemOf ++ Body.ending broken) :=
  yields_of_due (d := .fresh) (by simpa [Decoder.fresh, hbytes] using Due.of_frames hsizes hrest)

end Stevedore.Manager
