import Stevedore.Text.Blank
import Stevedore.Text.Case

/-!
# Log formats

In which form log lines are written, and the other settings of the log.
-/

namespace Stevedore.Observe

/-- The form of a log line. -/
inductive LogFormat where
  /-- A line of text. -/
  | text
  /-- A JSON object. -/
  | json
  /-- An entry of the system journal. -/
  | journald
  deriving DecidableEq, Repr

/-- A text that names no format. -/
structure UnknownFormat where
  /-- The text as it was given. -/
  text : String
  deriving DecidableEq, Repr

/-- What is reported for a text that names no format. -/
def UnknownFormat.message (e : UnknownFormat) : String :=
  s!"invalid logger format: {e.text} (expected: text|json|journald)"

namespace LogFormat

/-- The name of a format. -/
def name : LogFormat → String
  | text => "Text"
  | json => "Json"
  | journald => "Journald"

/-- The format that a text names, blanks around it and the case of its letters aside. -/
def parse (s : String) : Except UnknownFormat LogFormat :=
  match Text.lowerAscii (Text.trim s) with
  | "text" | "plain" => .ok text
  | "json" => .ok json
  | "journald" | "journal" => .ok journald
  | _ => .error ⟨s⟩

end LogFormat

/-- The settings of the log. -/
structure LogSettings where
  /-- The form of a line. -/
  format : LogFormat := .text
  /-- Which lines are written. -/
  level : String := "info"
  /-- Whether a line names the part of the program that wrote it. -/
  withTargets : Bool := true
  deriving DecidableEq, Repr

end Stevedore.Observe
