import Stevedore.Proofs.Chunking

/-!
# Where every byte is

Pieces arrive and records are asked for in any order. At every moment the bytes that have arrived
are, one after another, the frames of the records that were given out, the length line of the record
under way, and the buffer (`bytes_accounted_for`). So no byte is lost, none is used twice, and a
record is held back only as long as its frame is not complete.

What carries the proof is `next_cases`: what asking for a record can come to, said of the bytes that
are not used up, which are those of the buffer behind the length line that has been read
(`Opening`). A fault changes nothing, so that what is said here does not end with the first one.
-/

namespace Stevedore.Manager

/-! ### Frames -/

/-- A line that announces a length: it holds text, and in the text, blanks at both ends aside,
stands a number that is not beyond the longest record. -/
structure Heads (line : List UInt8) (length : Nat) : Prop where
  single : lineEnd ∉ line
  reads : ∃ text, Text.decode? line = some text ∧
    Text.count? (wordLimit 64) (Text.trim text) = some length
  le_longest : length ≤ longestRecord

/-- A record as it arrives, behind a line that announces its length. -/
structure Framed where
  /-- The line, without its end. -/
  line : List UInt8
  /-- The record. -/
  record : List UInt8
  heads : Heads line record.length

/-- What has arrived of a record that has arrived. -/
def Framed.bytes (f : Framed) : List UInt8 :=
  f.line ++ lineEnd :: f.record

/-- `Opening pending bytes`: a decoder that waits with this length, or with none, has read these
bytes of the frame under way. -/
inductive Opening : Option Nat → List UInt8 → Prop
  /-- It has read nothing of it. -/
  | none : Opening none []
  /-- It has read the length line. -/
  | line {line : List UInt8} {n : Nat} (h : Heads line n) : Opening (some n) (line ++ [lineEnd])

variable {line rest buffer opening : List UInt8} {n : Nat}

theorem heads_of_lengthOfLine (hline : lineEnd ∉ line) (h : lengthOfLine line = .ok n) :
    Heads line n := by
  unfold lengthOfLine at h
  split at h
  · cases h
  · next text htext =>
    split at h
    · cases h
    · next length hlength =>
      split at h
      · cases h
      · next hle =>
        cases h
        exact ⟨hline, ⟨text, htext, hlength⟩, Nat.not_lt.1 hle⟩

theorem Heads.lengthOfLine (h : Heads line n) : lengthOfLine line = .ok n := by
  obtain ⟨text, htext, hlength⟩ := h.reads
  have hle := Nat.not_lt.2 h.le_longest
  simp only [Manager.lengthOfLine, htext, hlength, hle, if_false]

/-- A line announces one length. -/
theorem Heads.unique {m : Nat} (h : Heads line n) (h' : Heads line m) : n = m :=
  Except.ok.inj (h.lengthOfLine.symm.trans h'.lengthOfLine)

/-- The first line of some bytes, and what comes after its end. -/
theorem line_inj {line' rest' : List UInt8} (hline : lineEnd ∉ line) (hline' : lineEnd ∉ line')
    (h : line ++ lineEnd :: rest = line' ++ lineEnd :: rest') : line = line' ∧ rest = rest' := by
  have hsplit := line_of_append rest hline
  have hsplit' := line_of_append rest' hline'
  rw [h] at hsplit
  exact ⟨hsplit.1.symm.trans hsplit'.1, hsplit.2.symm.trans hsplit'.2⟩

/-- A frame whose length line has been read is complete only if there are enough bytes. -/
theorem Framed.length_le_of_prefix (f : Framed) (h : Heads line n)
    (hfirst : f.bytes <+: line ++ lineEnd :: buffer) : n ≤ buffer.length := by
  obtain ⟨more, hmore⟩ := hfirst
  rw [Framed.bytes, List.append_assoc, List.cons_append] at hmore
  obtain ⟨hline, hbuffer⟩ := line_inj f.heads.single h.single hmore
  rw [h.unique (hline ▸ f.heads), ← hbuffer, List.length_append]
  exact Nat.le_add_right ..

namespace Decoder

variable {d d' : Decoder} {record : List UInt8}

/-! ### Asking for a record -/

/-- What asking for a record comes to, said of the bytes that are not used up. -/
inductive Answer (bytes : List UInt8) (d : Decoder) :
    Except FramingFault (Option (List UInt8)) × Decoder → Prop
  /-- The frame in front is complete, and its record is given out. -/
  | given {f : Framed} {rest : List UInt8} (h : bytes = f.bytes ++ rest) :
      Answer bytes d (.ok (some f.record), ⟨rest, none⟩)
  /-- No frame is complete. -/
  | awaited {d' : Decoder} {opening : List UInt8} (hopening : Opening d'.pending opening)
      (h : bytes = opening ++ d'.buffer) (hpart : ∀ f : Framed, ¬ f.bytes <+: bytes) :
      Answer bytes d (.ok none, d')
  /-- The line in front announces nothing, and stays there. -/
  | refused (fault : FramingFault) : Answer bytes d (.error fault, d)

theorem next_of_heads (h : Heads line n) (buffer : List UInt8) (d : Decoder) :
    Answer (line ++ lineEnd :: buffer) d (next ⟨buffer, some n⟩) := by
  by_cases hfull : n ≤ buffer.length
  · have htake : (buffer.take n).length = n := List.length_take_of_le hfull
    have hnext : next ⟨buffer, some n⟩ = (.ok (some (buffer.take n)), ⟨buffer.drop n, none⟩) := by
      simp [next, take, Nat.not_lt.2 hfull]
    let f : Framed := ⟨line, buffer.take n, htake.symm ▸ h⟩
    have hbytes : line ++ lineEnd :: buffer = f.bytes ++ buffer.drop n := by
      rw [Framed.bytes, List.append_assoc, List.cons_append, List.take_append_drop]
    rw [hnext]
    exact .given (f := f) hbytes
  · have hnext : next ⟨buffer, some n⟩ = (.ok none, ⟨buffer, some n⟩) := by
      simp [next, take, Nat.not_le.1 hfull]
    rw [hnext]
    refine .awaited (.line h) ?_ fun f hfirst => hfull (f.length_le_of_prefix h hfirst)
    rw [List.append_assoc, List.singleton_append]

/-- **What asking for a record can come to.** -/
theorem next_cases (hopening : Opening d.pending opening) :
    Answer (opening ++ d.buffer) d d.next := by
  obtain ⟨buffer, pending⟩ := d
  cases hopening with
  | @line line n h =>
    rw [List.append_assoc, List.singleton_append]
    exact next_of_heads h buffer _
  | none =>
    rw [List.nil_append]
    by_cases hend : lineEnd ∈ buffer
    · obtain ⟨line, rest, rfl, hline⟩ := List.eq_append_cons_of_mem hend
      cases hn : lengthOfLine line with
      | ok n =>
        rw [next_line hline hn]
        exact next_of_heads (heads_of_lengthOfLine hline hn) rest _
      | error fault =>
        have hnext : next ⟨line ++ lineEnd :: rest, none⟩ =
            (.error fault, ⟨line ++ lineEnd :: rest, none⟩) := by
          have hsplit := line_of_append rest hline
          simp [next, hsplit, hn]
        rw [hnext]
        exact .refused fault
    · by_cases hshort : buffer.length ≤ longestLine
      · have hnext : next ⟨buffer, none⟩ = (.ok none, ⟨buffer, none⟩) := by
          simp [next, hend, Nat.not_lt.2 hshort]
        rw [hnext]
        -- a frame holds the end of its length line
        refine .awaited .none rfl fun f hfirst => hend (hfirst.subset ?_)
        simp [Framed.bytes]
      · have hnext : next ⟨buffer, none⟩ = (.error .tooLong, ⟨buffer, none⟩) := by
          simp [next, hend, Nat.not_le.1 hshort]
        rw [hnext]
        exact .refused .tooLong

/-! ### In any order -/

/-- What can be done with a decoder. -/
inductive Act where
  /-- A piece arrives. -/
  | push (chunk : List UInt8)
  /-- A record is asked for. -/
  | next
  deriving DecidableEq, Repr

/-- The bytes that arrive. -/
def Act.arriving : Act → List UInt8
  | push chunk => chunk
  | next => []

/-- Do one thing: the record that is given out, if there is one, and the decoder after it. -/
def act (d : Decoder) : Act → List (List UInt8) × Decoder
  | .push chunk => ([], d.push chunk)
  | .next =>
    match d.next with
    | (.ok (some record), d) => ([record], d)
    | (.ok none, d) => ([], d)
    | (.error _, d) => ([], d)

/-- Do one thing after another: the records that are given out, and the decoder in the end. -/
def run : List Act → Decoder → List (List UInt8) × Decoder
  | [], d => ([], d)
  | a :: rest, d =>
    let (records, d) := d.act a
    let (more, d) := run rest d
    (records ++ more, d)

/-- Every byte that has arrived belongs to the frame of a record that was given out, to what has
been read of the frame under way, or to the buffer, and they have arrived in this order. -/
def Accounted (arrived : List UInt8) (records : List (List UInt8)) (d : Decoder) : Prop :=
  ∃ (frames : List Framed) (opening : List UInt8),
    frames.map (·.record) = records ∧ Opening d.pending opening ∧
    arrived = frames.flatMap Framed.bytes ++ opening ++ d.buffer

theorem accounted_fresh : Accounted [] [] fresh :=
  ⟨[], [], rfl, .none, rfl⟩

namespace Accounted

variable {arrived : List UInt8} {records : List (List UInt8)}

/-- **Whatever is done, every byte stays accounted for.** -/
theorem act (h : Accounted arrived records d) (a : Act) :
    Accounted (arrived ++ a.arriving) (records ++ (d.act a).1) (d.act a).2 := by
  obtain ⟨frames, opening, rfl, hopening, harrived⟩ := h
  cases a with
  | push chunk =>
    refine ⟨frames, opening, (List.append_nil _).symm, hopening, ?_⟩
    show arrived ++ chunk = frames.flatMap Framed.bytes ++ opening ++ (d.buffer ++ chunk)
    rw [harrived, List.append_assoc _ d.buffer]
  | next =>
    rw [List.append_assoc] at harrived
    have hanswer := next_cases hopening
    rw [Act.arriving, List.append_nil, Decoder.act]
    generalize d.next = answer at hanswer
    cases hanswer with
    | @given f rest hbytes =>
      refine ⟨frames ++ [f], [], List.map_append, .none, ?_⟩
      rw [harrived, hbytes]
      simp
    | @awaited d' opening' hopening' hbytes hpart =>
      refine ⟨frames, opening', (List.append_nil _).symm, hopening', ?_⟩
      rw [harrived, hbytes, List.append_assoc]
    | refused fault =>
      refine ⟨frames, opening, (List.append_nil _).symm, hopening, ?_⟩
      rw [harrived, List.append_assoc]

theorem run (h : Accounted arrived records d) (acts : List Act) :
    Accounted (arrived ++ acts.flatMap Act.arriving) (records ++ (run acts d).1)
      (run acts d).2 := by
  induction acts generalizing arrived records d with
  | nil => simpa [Decoder.run] using h
  | cons a acts ih =>
    have hrest := ih (h.act a)
    rwa [List.append_assoc, List.append_assoc] at hrest

end Accounted

/-! ### Draining -/

/-- A record that is given out shortens the buffer, unless its length line has been read before. -/
theorem shortens_next (h : d.next = (.ok (some record), d')) :
    d'.buffer.length < d.buffer.length ∨ d.pending = some record.length ∧ d'.pending = none := by
  have hless := weight_next h
  cases hpending : d.pending with
  | none =>
    left
    simp only [weight, hpending, Option.toList_none, List.length_nil] at hless
    omega
  | some n =>
    right
    unfold next take at h
    rw [hpending] at h
    dsimp only at h
    split at h
    · cases h
    · next hfull =>
      cases h
      rw [List.length_take_of_le (Nat.not_lt.1 hfull)]
      exact ⟨rfl, rfl⟩

/-- **Records are not given out for ever** unless more bytes arrive. -/
theorem wellFounded_next :
    WellFounded fun d' d : Decoder => ∃ record, d.next = (.ok (some record), d') := by
  have hless : Subrelation (fun d' d : Decoder => ∃ record, d.next = (.ok (some record), d'))
      (InvImage (· < ·) weight) := fun ⟨_, h⟩ => weight_next h
  exact hless.wf (InvImage.wf weight Nat.lt_wfRel.wf)

/-- **Every byte is accounted for**, whatever is done with a decoder and in whatever order. What has
arrived is the frames of the records that were given out, what has been read of the frame under way,
and the buffer. No record is longer than the longest one, none is held back whose frame is complete,
and each that is given out shortens the buffer or is the one whose length line had been read, so
that asking for records comes to an end. -/
theorem bytes_accounted_for (acts : List Act) :
    let records := (run acts fresh).1
    let d := (run acts fresh).2
    ∃ (frames : List Framed) (opening : List UInt8),
      frames.map (·.record) = records ∧ Opening d.pending opening ∧
      acts.flatMap Act.arriving = frames.flatMap Framed.bytes ++ opening ++ d.buffer ∧
      (∀ record ∈ records, record.length ≤ longestRecord) ∧
      (d.next.1 = .ok none → ∀ f : Framed, ¬ f.bytes <+: opening ++ d.buffer) ∧
      (∀ record d', d.next = (.ok (some record), d') →
        d'.buffer.length < d.buffer.length ∨ d.pending = some record.length ∧ d'.pending = none) ∧
      WellFounded fun d' d : Decoder => ∃ record, d.next = (.ok (some record), d') := by
  intro records d
  obtain ⟨frames, opening, hrecords, hopening, harrived⟩ := accounted_fresh.run acts
  refine ⟨frames, opening, hrecords, hopening, harrived, ?_, ?_, fun _ _ h => shortens_next h,
    wellFounded_next⟩
  · intro record hmem
    rw [← List.nil_append records, ← hrecords] at hmem
    obtain ⟨f, -, rfl⟩ := List.mem_map.1 hmem
    exact f.heads.le_longest
  · intro hnone
    have hanswer := next_cases hopening
    generalize hnext : d.next = answer at hanswer hnone
    cases hanswer with
    | given => cases hnone
    | awaited _ _ hpart => exact hpart
    | refused => cases hnone

/-- An empty record, and one of two bytes whose line has blanks and a sign. -/
example :
    run [.push [48, 10, 32, 43], .next, .next, .push [50, 32, 10, 123], .next, .push [125], .next]
      fresh = ([[], [123, 125]], fresh) := by
  decide +kernel

end Decoder

end Stevedore.Manager
