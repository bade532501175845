import Stevedore.Toml.Quoted
import Stevedore.Toml.Table

/-!
# Reading TOML

A document is a list of lines: assignments, headers of tables, comments. Lists may run over several
lines and hold comments; a table in braces stays within one line.
-/

namespace Stevedore.Toml

/-- A reader of the head of a text: what it has read and the text that is left, if the head is what
it reads. -/
abbrev Scan (α : Type) : Type := StateT (List Char) Option α

namespace Scan

/-- Refuse the text. -/
def refuse {α : Type} : Scan α := fun _ => none

/-- The next character, which stays. -/
def peek : Scan (Option Char) := fun cs => some (cs.head?, cs)

/-- A given character. -/
def char (c : Char) : Scan Unit := fun cs => (after? c cs).map fun cs => ((), cs)

/-- The longest stretch of characters that satisfy a condition. -/
def stretch (ok : Char → Bool) : Scan (List Char) :=
  fun cs => some (cs.takeWhile ok, cs.dropWhile ok)

/-- Blanks within a line. -/
def gap : Scan Unit := do
  let _ ← stretch isGap

/-- The end of a line or of the text. -/
def lineEnd : Scan Unit
  | [] => some ((), [])
  | '\n' :: cs => some ((), cs)
  | '\r' :: '\n' :: cs => some ((), cs)
  | _ => none

/-- What may follow on a line: blanks, a comment and the line's end. -/
def lineRest : Scan Unit := do
  gap
  if (← peek) = some '#' then
    let _ ← stretch isPlain
  lineEnd

end Scan

/-- What is left after blanks, line breaks and comments; `inComment` says whether a comment is
under way. -/
def dropGaps? (inComment : Bool) : List Char → Option (List Char)
  | [] => some []
  | c :: cs =>
    if c = '\n' ∨ (c = '\r' ∧ cs.head? = some '\n') then dropGaps? false cs
    else if inComment then if isPlain c then dropGaps? true cs else none
    else if isGap c then dropGaps? false cs
    else if c = '#' then dropGaps? true cs
    else some (c :: cs)

/-- Blanks, line breaks and comments. -/
def gaps : Scan Unit := fun cs => (dropGaps? false cs).map fun cs => ((), cs)

/-! ### Keys -/

/-- Whether a character may stand in a key without quotes. -/
def isKeyChar (c : Char) : Bool :=
  c.isAlphanum || c == '_' || c == '-'

/-- A part of a key. -/
def keyPart : Scan String := do
  match ← Scan.peek with
  | some '"' => quotedLine?
  | some '\'' => quotedLine?
  | _ =>
    let cs ← Scan.stretch isKeyChar
    if cs.isEmpty then Scan.refuse else return String.ofList cs

/-- A key with at most `n` further parts after the first, each after a dot. -/
def keyParts : Nat → Scan (List String)
  | 0 => Scan.refuse
  | n + 1 => do
    Scan.gap
    let part ← keyPart
    Scan.gap
    if (← Scan.peek) = some '.' then
      Scan.char '.'
      return part :: (← keyParts n)
    else return [part]

/-- A key: the parts before the last, and the last. -/
def key : Scan (List String × String) := do
  let parts ← keyParts ((← get).length + 1)
  match parts.reverse with
  | last :: before => return (before.reverse, last)
  | [] => Scan.refuse

/-! ### Values -/

/-- Whether a character may stand in a bare value. -/
def isBareChar (c : Char) : Bool :=
  c.isAlphanum || c == '_' || c == '-' || c == '+' || c == '.' || c == ':'

/-- The characters of a bare value. A blank may stand between a date and a time of day. -/
def bareChars : Scan (List Char) := do
  let first ← Scan.stretch isBareChar
  match ← get with
  | ' ' :: d :: _ =>
    match date? first with
    | some (_, []) =>
      if d.isDigit then
        Scan.char ' '
        return first ++ ' ' :: (← Scan.stretch isBareChar)
      else return first
    | _ => return first
  | _ => return first

/-- A bare value. -/
def bareValue : Scan Value := do
  match bare? (← bareChars) with
  | some v => return v
  | none => Scan.refuse

/-- The table in braces with some members, if no part is named twice. -/
def inlineTable? (members : List ((List String × String) × Value)) : Option Value :=
  (members.foldlM (fun (t : Table) m => t.assign? m.1.1 m.1.2 m.2) .fresh).map fun t =>
    .table t.members

mutual

/-- A value; the number bounds the steps of the reader. -/
def value : Nat → Scan Value
  | 0 => Scan.refuse
  | n + 1 => do
    match ← Scan.peek with
    | some '"' => return .text (← quoted?)
    | some '\'' => return .text (← quoted?)
    | some '[' =>
      Scan.char '['
      return .list (← listItems n)
    | some '\x7b' =>
      Scan.char '\x7b'
      Scan.gap
      let members ←
        if (← Scan.peek) = some '\x7d' then
          Scan.char '\x7d'
          pure []
        else tableMembers n
      match inlineTable? members with
      | some v => return v
      | none => Scan.refuse
    | _ => bareValue

/-- The items of a list and its end. -/
def listItems : Nat → Scan (List Value)
  | 0 => Scan.refuse
  | n + 1 => do
    gaps
    if (← Scan.peek) = some ']' then
      Scan.char ']'
      return []
    else
      let v ← value n
      gaps
      if (← Scan.peek) = some ',' then
        Scan.char ','
        return v :: (← listItems n)
      else
        Scan.char ']'
        return [v]

/-- The members of a table in braces and its end. -/
def tableMembers : Nat → Scan (List ((List String × String) × Value))
  | 0 => Scan.refuse
  | n + 1 => do
    let k ← key
    Scan.char '='
    Scan.gap
    let v ← value n
    Scan.gap
    if (← Scan.peek) = some ',' then
      Scan.char ','
      return (k, v) :: (← tableMembers n)
    else
      Scan.char '\x7d'
      return [(k, v)]

end

/-- A value. Every step but one in two takes a character, so twice the length of the text is
enough. -/
def anyValue : Scan Value := do
  value (2 * (← get).length + 2)

/-! ### Lines -/

/-- A line of a document. -/
inductive Line where
  /-- A line without content. -/
  | empty
  /-- A value under a key. -/
  | assignment (path : List String) (key : String) (v : Value)
  /-- The header of a table. -/
  | header (path : List String) (key : String)
  /-- The header of one more table in a list of tables. -/
  | listHeader (path : List String) (key : String)

/-- A line. -/
def line : Scan Line := do
  Scan.gap
  match ← get with
  | '[' :: '[' :: rest =>
    set rest
    let (path, k) ← key
    Scan.char ']'
    Scan.char ']'
    Scan.lineRest
    return .listHeader path k
  | '[' :: rest =>
    set rest
    let (path, k) ← key
    Scan.char ']'
    Scan.lineRest
    return .header path k
  | c :: _ =>
    if c = '#' ∨ c = '\n' ∨ c = '\r' then
      Scan.lineRest
      return .empty
    else
      let (path, k) ← key
      Scan.char '='
      Scan.gap
      let v ← anyValue
      Scan.lineRest
      return .assignment path k v
  | [] => return .empty

/-- The lines of a text; the number bounds how many there are. -/
def lines : Nat → List Char → Option (List Line)
  | _, [] => some []
  | 0, _ => none
  | n + 1, cs => do
    let (first, rest) ← line.run cs
    return first :: (← lines n rest)

/-- The document after some more of its lines, given the path of the table that is open. -/
def assemble? (t : Table) (within : List String) : List Line → Option Table
  | [] => some t
  | .empty :: rest => assemble? t within rest
  | .assignment path key v :: rest => do
    assemble? (← t.within? false (·.assign? path key v) within) within rest
  | .header path key :: rest => do
    assemble? (← t.open? path key) (path ++ [key]) rest
  | .listHeader path key :: rest => do
    assemble? (← t.append? path key) (path ++ [key]) rest

/-- A text without the mark that may tell its encoding. -/
def withoutMark : List Char → List Char
  | '\ufeff' :: cs => cs
  | cs => cs

/-- The members of the table that a document describes. -/
def parse? (document : String) : Option (List (String × Value)) := do
  let cs := withoutMark document.toList
  let t ← assemble? .fresh [] (← lines (cs.length + 1) cs)
  return t.members

end Stevedore.Toml
