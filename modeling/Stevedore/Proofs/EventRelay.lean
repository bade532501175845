import Stevedore.Proofs.Framing
import Stevedore.Scheduling.EventQueue

/-!
# From the stream into the queue

The reader of the manager's stream puts the events of the stream into the queue, in order and each
once, however its turns and those of whoever takes the events are mixed. At any moment the events
that are in the queue or were taken from it, the one in the reader's hands and those of the items
still to be read are together the events of the stream (`Relays`); and as long as events are taken,
the reader does not stop before the stream does.
-/

namespace Stevedore.Scheduling

open Manager (Body Event EventStream IsCut Item Yields frame lineEnd longestRecord)

/-- The event in the reader's hands. -/
def Reader.inHand : Reader → List Event
  | .handing event => [event]
  | .reading | .ended _ => []

/-- How many turns the reader still has to itself, apart from the items that it has not read. -/
def Reader.work : Reader → Nat
  | .handing _ => 2
  | .reading => 1
  | .ended _ => 0

theorem Reader.exists_ended_of_work {reader : Reader} (h : reader.work = 0) :
    ∃ ending, reader = .ended ending := by
  cases reader with
  | ended ending => exact ⟨ending, rfl⟩
  | reading | handing => simp [Reader.work] at h

namespace Relay

/-- `r.Relays capacity items left`: of the items of a stream the given ones are left, and nothing
of the others was lost. -/
structure Relays (capacity : Nat) (items left : List Item) (r : Relay) : Prop where
  /-- Events are taken. -/
  isOpen : r.queue.isClosed = false
  /-- The queue is as large as it was. -/
  size : r.queue.capacity = capacity
  /-- The queue holds no more than it has room for. -/
  room : r.queue.waiting.length ≤ capacity
  /-- Every event is in its place. -/
  total : r.forwarded ++ r.reader.inHand ++ eventsOf left = eventsOf items
  /-- The reader has ended with the stream, or the stream goes on with the items that are left. -/
  rest : r.reader = .ended .streamEnded ∧ left = [] ∨
    (∀ ending, r.reader ≠ .ended ending) ∧ Yields r.stream left

/-- How many turns the reader still needs. -/
def work (left : List Item) (r : Relay) : Nat := 2 * left.length + r.reader.work

variable {capacity : Nat} {items left : List Item} {r : Relay}

theorem relays_ofStream {stream : EventStream} (h : Yields stream items) :
    (ofStream capacity stream).Relays capacity items items where
  isOpen := rfl
  size := rfl
  room := Nat.zero_le _
  total := rfl
  rest := .inr ⟨by simp [ofStream], h⟩

theorem eventsOf_cons (item : Item) (left : List Item) :
    eventsOf (item :: left) = item.event?.toList ++ eventsOf left := by
  cases h : item.event? <;> simp [eventsOf, h]

/-- `r'` comes from `r` without a loss, and with less to do if there was room in the queue. -/
def Progress (capacity : Nat) (items left : List Item) (r r' : Relay) : Prop :=
  ∃ left', r'.Relays capacity items left' ∧ r'.work left' ≤ r.work left ∧
    (r.queue.waiting.length < capacity → r'.work left' ≤ r.work left - 1)

/-- Taking an item. -/
theorem Relays.advance_reading (h : r.Relays capacity items left) (hreader : r.reader = .reading) :
    Progress capacity items left r r.advance := by
  obtain ⟨hopen, hsize, hroom, htotal, ⟨hended, -⟩ | ⟨-, hyields⟩⟩ := h
  · rw [hreader] at hended
    cases hended
  rw [hreader] at htotal
  cases hyields with
  | ended hpoll =>
    obtain ⟨stream, hpoll⟩ : ∃ stream, r.stream.poll = (none, stream) := ⟨_, Prod.ext hpoll rfl⟩
    have hadvance : r.advance = { r with stream := stream, reader := .ended .streamEnded } := by
      simp [Relay.advance, hreader, hpoll]
    rw [hadvance]
    refine ⟨[], ⟨hopen, hsize, hroom, htotal, .inl ⟨rfl, rfl⟩⟩, ?_, fun _ => ?_⟩ <;>
      simp [Relay.work, hreader, Reader.work]
  | @item _ stream item left hpoll hleft =>
    rw [eventsOf_cons] at htotal
    cases hevent : item.event? with
    | none =>
      have hadvance : r.advance = { r with stream := stream } := by
        simp [Relay.advance, hreader, hpoll, hevent]
      rw [hadvance]
      refine ⟨left, ⟨hopen, hsize, hroom, ?_, .inr ⟨by simp [hreader], hleft⟩⟩, ?_, fun _ => ?_⟩
      · simpa [forwarded, hreader, hevent, Reader.inHand] using htotal
      · simp [Relay.work]
      · simp [Relay.work]
        omega
    | some event =>
      have hadvance : r.advance = { r with stream := stream, reader := .handing event } := by
        simp [Relay.advance, hreader, hpoll, hevent]
      rw [hadvance]
      refine ⟨left, ⟨hopen, hsize, hroom, ?_, .inr ⟨by simp, hleft⟩⟩, ?_, fun _ => ?_⟩
      · simpa [forwarded, hevent, Reader.inHand] using htotal
      · simp [Relay.work, hreader, Reader.work]
      · simp [Relay.work, hreader, Reader.work]
        omega

/-- Putting an event into the queue, or waiting for room in it. -/
theorem Relays.advance_handing (h : r.Relays capacity items left) {event : Event}
    (hreader : r.reader = .handing event) : Progress capacity items left r r.advance := by
  obtain ⟨hopen, hsize, hroom, htotal, ⟨hended, -⟩ | ⟨hgoes, hyields⟩⟩ := h
  · rw [hreader] at hended
    cases hended
  by_cases hfree : r.queue.waiting.length < capacity
  · have hadvance : r.advance =
        { r with reader := .reading, queue.waiting := r.queue.waiting ++ [event] } := by
      simp [Relay.advance, hreader, hopen, hsize, hfree]
    rw [hadvance]
    refine ⟨left, ⟨hopen, hsize, by simpa using hfree, ?_, .inr ⟨by simp, hyields⟩⟩, ?_,
      fun _ => ?_⟩
    · simpa [forwarded, hreader, Reader.inHand] using htotal
    · simp [Relay.work, hreader, Reader.work]
    · simp [Relay.work, hreader, Reader.work]
  · have hadvance : r.advance = r := by
      simp [Relay.advance, hreader, hopen, hsize, hfree]
    rw [hadvance]
    exact ⟨left, ⟨hopen, hsize, hroom, htotal, .inr ⟨hgoes, hyields⟩⟩, le_rfl,
      fun h => absurd h hfree⟩

/-- **A turn of the reader** loses nothing, and it is not in vain if there is room in the queue. -/
theorem Relays.advance (h : r.Relays capacity items left) :
    Progress capacity items left r r.advance := by
  cases hreader : r.reader with
  | reading => exact h.advance_reading hreader
  | handing event => exact h.advance_handing hreader
  | ended ending =>
    have hadvance : r.advance = r := by simp [Relay.advance, hreader]
    obtain ⟨-, rfl⟩ := h.rest.resolve_right fun hgoes => hgoes.1 ending hreader
    rw [hadvance]
    exact ⟨[], h, le_rfl, fun _ => by simp [Relay.work, hreader, Reader.work]⟩

/-- Taking an event makes room and leaves everything in its place. -/
theorem Relays.take (h : r.Relays capacity items left) :
    r.take.Relays capacity items left ∧ r.take.work left = r.work left ∧
      (0 < capacity → r.take.queue.waiting.length < capacity) := by
  cases hwaiting : r.queue.waiting with
  | nil =>
    have htake : r.take = r := by simp [Relay.take, hwaiting]
    rw [htake]
    exact ⟨h, rfl, fun hcapacity => by simpa [hwaiting] using hcapacity⟩
  | cons event waiting =>
    have htake : r.take = { r with queue.waiting := waiting, taken := r.taken ++ [event] } := by
      simp [Relay.take, hwaiting, h.isOpen]
    have hroom := h.room
    have htotal := h.total
    rw [hwaiting, List.length_cons] at hroom
    rw [htake]
    refine ⟨⟨h.isOpen, h.size, by simp; omega, ?_, h.rest⟩, rfl, fun _ => by simp; omega⟩
    simpa [forwarded, hwaiting] using htotal

/-! ### Whole runs -/

theorem Relays.isPrefix_forwarded (h : r.Relays capacity items left) :
    r.forwarded <+: eventsOf items :=
  ⟨r.reader.inHand ++ eventsOf left, by rw [← List.append_assoc, h.total]⟩

/-- A reader that has ended has ended with the stream and has put everything into the queue. -/
theorem Relays.of_ended (h : r.Relays capacity items left) {ending : Ending}
    (hended : r.reader = .ended ending) :
    ending = .streamEnded ∧ r.forwarded = eventsOf items := by
  obtain ⟨hreader, rfl⟩ | ⟨hgoes, -⟩ := h.rest
  · have htotal := h.total
    rw [hended, Reader.ended.injEq] at hreader
    simp only [hended, Reader.inHand, List.append_nil] at htotal
    exact ⟨hreader, by simpa [eventsOf] using htotal⟩
  · exact absurd hended (hgoes ending)

theorem Relays.run (h : r.Relays capacity items left) {turns : List Turn}
    (hturns : ∀ turn ∈ turns, turn = .advance ∨ turn = .take) :
    ∃ left', (r.run turns).Relays capacity items left' ∧
      (r.run turns).work left' ≤ r.work left := by
  induction turns generalizing r left with
  | nil => exact ⟨left, h, le_rfl⟩
  | cons turn turns ih =>
    rw [List.forall_mem_cons] at hturns
    obtain ⟨left₁, h₁, hwork₁⟩ : ∃ left₁, (r.step turn).Relays capacity items left₁ ∧
        (r.step turn).work left₁ ≤ r.work left := by
      obtain rfl | rfl := hturns.1
      · obtain ⟨left₁, h₁, hwork, -⟩ := h.advance
        exact ⟨left₁, h₁, hwork⟩
      · obtain ⟨h₁, hwork, -⟩ := h.take
        exact ⟨left, h₁, hwork.le⟩
    obtain ⟨left₂, h₂, hwork₂⟩ := ih h₁ hturns.2
    exact ⟨left₂, h₂, hwork₂.trans hwork₁⟩

/-- Turns of whoever takes events and of the reader, in alternation. -/
def rounds (n : Nat) : List Turn := (List.replicate n [Turn.take, Turn.advance]).flatten

/-- **The reader gets through.** Whatever has happened before, it ends after as many rounds as it
needs turns. -/
theorem Relays.run_rounds (h : r.Relays capacity items left) (hcapacity : 0 < capacity) {n : Nat}
    (hn : r.work left ≤ n) :
    ∃ left', (r.run (rounds n)).Relays capacity items left' ∧
      (r.run (rounds n)).work left' = 0 := by
  induction n generalizing r left with
  | zero => exact ⟨left, h, Nat.le_zero.1 hn⟩
  | succ n ih =>
    obtain ⟨htake, hwork, hfree⟩ := h.take
    obtain ⟨left₁, h₁, -, hless⟩ := htake.advance
    have hless := hless (hfree hcapacity)
    exact ih h₁ (show r.take.advance.work left₁ ≤ n by omega)

end Relay

/-- **From bytes to events.** Let the bytes of a stream be frames, and perhaps a part of another,
cut into pieces in any way. Then the stream yields the item of each record, in order, then a fault
if the connection breaks, and then no more. The reader puts the events of these items into the
queue, in order and each once, however its turns and those of whoever takes them are mixed; it does
not end before the stream, and it gets there if events go on being taken. -/
theorem Relay.relay_frames {records chunks : List (List UInt8)} {rest : List UInt8} {capacity : Nat}
    {turns : List Turn} (broken : Bool)
    (hsizes : ∀ record ∈ records, record.length ≤ longestRecord) (hrest : IsCut rest)
    (hbytes : chunks.flatten = (records.map frame).flatten ++ rest) (hcapacity : 0 < capacity)
    (hturns : ∀ turn ∈ turns, turn = .advance ∨ turn = .take) :
    let stream := EventStream.ofBody ⟨chunks, broken⟩
    let items := records.map EventStream.itemOf ++ Body.ending broken
    let relay := (Relay.ofStream capacity stream).run turns
    (∀ n, stream.itemsUpTo n = items.take n) ∧
    relay.forwarded <+: eventsOf items ∧
    (∀ ending, relay.reader = .ended ending →
      ending = .streamEnded ∧ relay.forwarded = eventsOf items) ∧
    ∀ n, 2 * items.length < n →
      (relay.run (rounds n)).reader = .ended .streamEnded ∧
      (relay.run (rounds n)).forwarded = eventsOf items := by
  intro stream items relay
  have hyields : Yields stream items := Manager.yields_ofBody broken hsizes hrest hbytes
  obtain ⟨left, hrelays, hwork⟩ := (Relay.relays_ofStream hyields).run hturns
  refine ⟨hyields.itemsUpTo, hrelays.isPrefix_forwarded, fun ending => hrelays.of_ended,
    fun n hn => ?_⟩
  have hbegin : (Relay.ofStream capacity stream).work items = 2 * items.length + 1 := rfl
  obtain ⟨left', hrelays', hdone⟩ := hrelays.run_rounds hcapacity (n := n) (by omega)
  obtain ⟨ending, hended⟩ := Reader.exists_ended_of_work (Nat.eq_zero_of_add_eq_zero_left hdone)
  obtain ⟨rfl, hforwarded⟩ := hrelays'.of_ended hended
  exact ⟨hended, hforwarded⟩

/-- A heartbeat, a record that is no message and half of a third frame, in three pieces, after which
the connection breaks. -/
theorem Relay.relay_frames_heartbeat :
    let heartbeat := Text.encode "\x7b\"type\":\"HEARTBEAT\"\x7d"
    let stream := EventStream.ofBody
      ⟨[[0x32], 0x30 :: lineEnd :: heartbeat ++ [0x31], [lineEnd, 0x21, 0x31, 0x30]], true⟩
    let items := [EventStream.itemOf heartbeat, EventStream.itemOf [0x21], .error .transport]
    let relay := (Relay.ofStream 1 stream).run [.advance, .take, .advance, .advance]
    (∀ n, stream.itemsUpTo n = items.take n) ∧ relay.forwarded <+: eventsOf items ∧
    (∀ ending, relay.reader = .ended ending →
      ending = .streamEnded ∧ relay.forwarded = eventsOf items) ∧
    ∀ n, 6 < n →
      (relay.run (rounds n)).reader = .ended .streamEnded ∧
      (relay.run (rounds n)).forwarded = eventsOf items := by
  intro heartbeat
  have hlength : heartbeat.length = 20 := by
    rw [show heartbeat = _ from Text.encode_eq _]
    decide +kernel
  have hlong : frame heartbeat = [0x32, 0x30, lineEnd] ++ heartbeat := by
    rw [frame, hlength, ← Manager.lengthLine, Manager.lengthLine_eq]
    rfl
  have hshort : frame [0x21] = [0x31, lineEnd, 0x21] := by
    rw [frame, ← Manager.lengthLine, Manager.lengthLine_eq]
    rfl
  have hcut : IsCut [0x31, 0x30] := by
    refine ⟨List.replicate 10 0, by decide, ?_⟩
    rw [frame, ← Manager.lengthLine, Manager.lengthLine_eq]
    exact ⟨⟨lineEnd :: List.replicate 10 0, rfl⟩, by decide⟩
  have hsizes : ∀ record ∈ [heartbeat, [0x21]], record.length ≤ longestRecord := by
    simp [hlength, longestRecord]
  exact relay_frames true hsizes hcut (by simp [hlong, hshort]) (by decide) (by simp)

end Stevedore.Scheduling
