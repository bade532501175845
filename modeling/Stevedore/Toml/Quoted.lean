import Stevedore.Toml.Number

/-!
# Quoted texts

A text stands between quotes of one kind. Between double quotes a backslash begins an escape,
between single quotes every character stands for itself. Three quotes open a text of several
lines: a line break right after them is left out, every other line break counts as one character,
and up to two quotes may stand next to the closing ones. There, a backslash at the end of a line
also takes away the blanks and line breaks that follow.
-/

namespace Stevedore.Toml

/-- Whether a character may stand for itself within a line. -/
def isPlain (c : Char) : Bool :=
  c == '\t' || (' ' ≤ c && c != '\x7f')

/-- Whether a character separates words within a line. -/
def isGap (c : Char) : Bool :=
  c == ' ' || c == '\t'

/-- How a text is quoted. -/
structure Quoting where
  /-- The quote. -/
  quote : Char
  /-- Whether a backslash begins an escape. -/
  escapes : Bool
  /-- Whether the text may have several lines. -/
  long : Bool
  deriving DecidableEq, Repr

namespace Quoting

/-- How many quotes close the text. -/
def closing (q : Quoting) : Nat := if q.long then 3 else 1

/-- How many quotes there can be at its end. -/
def most (q : Quoting) : Nat := if q.long then 5 else 1

end Quoting

/-- Where the reader stands within a text. -/
inductive QuotedState where
  /-- Between two characters. -/
  | plain
  /-- After a backslash. -/
  | escape
  /-- Within the number of a character: digits still to come, and the number so far. -/
  | number (left : Nat) (value : Nat)
  /-- After a backslash and blanks. -/
  | lineEnd
  /-- In what a backslash at the end of a line takes away. -/
  | skip
  /-- After some quotes. -/
  | quotes (count : Nat)
  deriving DecidableEq, Repr

/-- The character that a letter stands for after a backslash. -/
def escaped? : Char → Option Char
  | 'b' => some '\x08'
  | 't' => some '\t'
  | 'n' => some '\n'
  | 'f' => some '\x0c'
  | 'r' => some '\r'
  | '"' => some '"'
  | '\\' => some '\\'
  | _ => none

/-- The character with a number, if there is one. -/
def scalar? (n : Nat) : Option Char :=
  if n.isValidChar then some (Char.ofNat n) else none

/-- The reader after a character, given the characters so far, last one first, and the character
that follows. -/
def plainStep? (q : Quoting) (got : List Char) (c : Char) (next : Option Char) :
    Option (QuotedState × List Char) :=
  if c = q.quote then some (.quotes 1, got)
  else if c = '\\' ∧ q.escapes then some (.escape, got)
  else if q.long ∧ c = '\n' then some (.plain, c :: got)
  else if q.long ∧ c = '\r' ∧ next = some '\n' then some (.plain, got)
  else if isPlain c then some (.plain, c :: got)
  else none

/-- The reader after a character that follows a backslash and perhaps blanks, if the rest of the
line is to be taken away. -/
def lineEndStep? (q : Quoting) (c : Char) (next : Option Char) : Option QuotedState :=
  if !q.long then none
  else if isGap c then some .lineEnd
  else if c = '\n' ∨ (c = '\r' ∧ next = some '\n') then some .skip
  else none

/-- The reader after a character. -/
def quotedStep? (q : Quoting) (state : QuotedState) (got : List Char) (c : Char)
    (next : Option Char) : Option (QuotedState × List Char) :=
  match state with
  | .plain => plainStep? q got c next
  | .escape =>
    match c with
    | 'u' => some (.number 4 0, got)
    | 'U' => some (.number 8 0, got)
    | c =>
      match escaped? c with
      | some d => some (.plain, d :: got)
      | none => (lineEndStep? q c next).map fun state => (state, got)
  | .number left value => do
    let n := value * 16 + (← digitIn? 16 c)
    if left ≤ 1 then return (.plain, (← scalar? n) :: got) else return (.number (left - 1) n, got)
  | .lineEnd => (lineEndStep? q c next).map fun state => (state, got)
  | .skip =>
    if isGap c ∨ c = '\n' ∨ (c = '\r' ∧ next = some '\n') then some (.skip, got)
    else plainStep? q got c next
  | .quotes count =>
    if c = q.quote then some (.quotes (count + 1), got)
    else plainStep? q (List.replicate count q.quote ++ got) c next

/-- The text that ends in some quotes, if they close it. -/
def closed? (q : Quoting) (state : QuotedState) (got : List Char) : Option String :=
  match state with
  | .quotes count =>
    if q.closing ≤ count then
      some (String.ofList (List.replicate (count - q.closing) q.quote ++ got).reverse)
    else none
  | _ => none

/-- The rest of a text and what follows it. -/
def quotedFrom? (q : Quoting) (state : QuotedState) (got : List Char) :
    List Char → Option (String × List Char)
  | [] => (closed? q state got).map fun s => (s, [])
  | c :: cs =>
    let goOn := state ≠ .quotes q.most ∧ (c = q.quote ∨ (closed? q state got).isNone)
    if goOn then do
      let (state, got) ← quotedStep? q state got c cs.head?
      quotedFrom? q state got cs
    else (closed? q state got).map fun s => (s, c :: cs)

/-- A text without the line break at its head. -/
def withoutBreak : List Char → List Char
  | '\n' :: cs => cs
  | '\r' :: '\n' :: cs => cs
  | cs => cs

/-- The quoted text of one line at the head of a text, and what follows it. -/
def quotedLine? : List Char → Option (String × List Char)
  | '"' :: cs => quotedFrom? ⟨'"', true, false⟩ .plain [] cs
  | '\'' :: cs => quotedFrom? ⟨'\'', false, false⟩ .plain [] cs
  | _ => none

/-- The quoted text at the head of a text, and what follows it. -/
def quoted? : List Char → Option (String × List Char)
  | '"' :: '"' :: '"' :: cs => quotedFrom? ⟨'"', true, true⟩ .plain [] (withoutBreak cs)
  | '\'' :: '\'' :: '\'' :: cs => quotedFrom? ⟨'\'', false, true⟩ .plain [] (withoutBreak cs)
  | cs => quotedLine? cs

end Stevedore.Toml
