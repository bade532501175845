import Stevedore.Text.Blank
import Stevedore.Text.Count
import Stevedore.Text.Quoted
import Stevedore.Text.Utf8

/-!
# Framing

The stream of events is a sequence of records, each announced by its length in decimal on a line of
its own. A `Decoder` takes the bytes as they arrive and gives out the records as they complete.
What it has not yet given out is in its buffer, except for a length that it has already read.
-/

namespace Stevedore.Manager

/-- Why a length line cannot be read. -/
inductive FramingFault where
  /-- No line end within the longest length line. -/
  | tooLong
  /-- The line is not text. -/
  | notText
  /-- The line is not a number. -/
  | notNumber (line : String)
  /-- The number is beyond the longest record. -/
  | tooLarge (length : Nat)
  deriving DecidableEq, Repr

/-- How many bytes may wait for the end of a length line. -/
def longestLine : Nat := 20

/-- How many bytes a record may have. -/
def longestRecord : Nat := 64 * 1024 * 1024

namespace FramingFault

/-- What is reported. -/
def message : FramingFault → String
  | tooLong => "record length prefix too long"
  | notText => "non-utf8 record length"
  | notNumber line => "invalid record length " ++ Text.quoted line
  | tooLarge length =>
    s!"record length {Text.decimal length} exceeds {Text.decimal longestRecord}"

end FramingFault

/-- The byte that ends a length line. -/
def lineEnd : UInt8 := 0x0A

/-- The length that a line announces, blanks around it aside. -/
def lengthOfLine (line : List UInt8) : Except FramingFault Nat :=
  match Text.decode? line with
  | none => .error .notText
  | some text =>
    match Text.count? (wordLimit 64) (Text.trim text) with
    | none => .error (.notNumber text)
    | some length => if longestRecord < length then .error (.tooLarge length) else .ok length

/-- A decoder between two reads. -/
structure Decoder where
  /-- The bytes that have arrived and not been used. -/
  buffer : List UInt8
  /-- The length of the record under way, if its line has been read. -/
  pending : Option Nat
  deriving DecidableEq, Repr

namespace Decoder

/-- A decoder that has seen nothing. -/
def fresh : Decoder := ⟨[], none⟩

/-- Take bytes that have arrived. -/
def push (d : Decoder) (chunk : List UInt8) : Decoder :=
  { d with buffer := d.buffer ++ chunk }

/-- Give out a record of the given length if it is complete. -/
def take (d : Decoder) (length : Nat) : Option (List UInt8) × Decoder :=
  if d.buffer.length < length then (none, ⟨d.buffer, some length⟩)
  else (some (d.buffer.take length), ⟨d.buffer.drop length, none⟩)

/-- The next record if it is complete. A fault leaves the decoder as it is. -/
def next (d : Decoder) : Except FramingFault (Option (List UInt8)) × Decoder :=
  match d.pending with
  | some length => let (record, d) := d.take length; (.ok record, d)
  | none =>
    if lineEnd ∈ d.buffer then
      match lengthOfLine (d.buffer.takeWhile (· != lineEnd)) with
      | .error fault => (.error fault, d)
      | .ok length =>
        let rest := (d.buffer.dropWhile (· != lineEnd)).drop 1
        let (record, d) := take ⟨rest, none⟩ length
        (.ok record, d)
    else if longestLine < d.buffer.length then (.error .tooLong, d)
    else (.ok none, d)

end Decoder

/-- The bytes of a record with its length line. -/
def frame (record : List UInt8) : List UInt8 :=
  Text.encode (Text.decimal record.length) ++ lineEnd :: record

end Stevedore.Manager
