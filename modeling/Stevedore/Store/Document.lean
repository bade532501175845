import Stevedore.Json.Coded
import Stevedore.Json.Printer
import Stevedore.Json.Reader
import Stevedore.Text.Blank

/-!
# The text of a store file

The entries of a map as one JSON object, one entry a line in ascending order of the keys. A file
without anything but blanks holds the empty map; any other has to be one JSON object of strings, in
whatever layout, and of entries with one key the last counts.
-/

namespace Stevedore.Store

/-- The line of an entry, without its end. -/
def entryChars (e : String × String) : List Char :=
  ' ' :: ' ' :: Json.stringChars e.1 ++ ':' :: ' ' :: Json.stringChars e.2

/-- The lines of some entries. -/
def entriesChars : List (String × String) → List Char
  | [] => []
  | [e] => entryChars e
  | e :: f :: rest => entryChars e ++ ',' :: '\n' :: entriesChars (f :: rest)

/-- The text of the file that holds a map. -/
def document (m : KeyMap String) : String :=
  String.ofList <|
    if m.isEmpty then ['\x7b', '\x7d']
    else '\x7b' :: '\n' :: entriesChars m.entries ++ ['\n', '\x7d']

/-- The map that a file's text holds. -/
def ofDocument? (text : String) : Option (KeyMap String) :=
  if text.toList.all Text.isBlank then some ∅
  else (Json.parse? text).bind Json.decode?

end Stevedore.Store
