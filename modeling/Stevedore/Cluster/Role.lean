import Stevedore.Json.Coded
import Stevedore.Text.Blank
import Stevedore.Text.Case

/-!
# Roles

A managed cluster is made of tasks in three roles. They are listed in the order in which they
start: a task is only created once the role before its own is healthy.
-/

namespace Stevedore

/-- What a task is for. -/
inductive Role where
  /-- Keeps the state of the control plane. -/
  | datastore
  /-- Serves the control plane. -/
  | server
  /-- Runs the cluster's workloads. -/
  | agent
  deriving DecidableEq, Repr

/-- A text that names no role. -/
structure UnknownRole where
  /-- The text as it was given. -/
  text : String
  deriving DecidableEq, Repr

/-- What is reported for a text that names no role. -/
def UnknownRole.message (e : UnknownRole) : String :=
  s!"unknown role: {e.text} (expected: datastore|server|agent)"

namespace Role

/-- The roles in the order in which they start. -/
def all : List Role := [datastore, server, agent]

/-- The name of a role. -/
def name : Role → String
  | datastore => "datastore"
  | server => "server"
  | agent => "agent"

/-- The role that has to be healthy before a task of this one is created. -/
def dependsOn : Role → Option Role
  | datastore => none
  | server => some datastore
  | agent => some server

/-- The name that every task of a role carries within a framework. -/
def qualified (role : Role) (framework : String) : String :=
  framework ++ ":" ++ role.name

/-- The role that a text names, blanks around it and the case of its letters aside. -/
def parse (s : String) : Except UnknownRole Role :=
  let name := Text.lowerAscii (Text.trim s)
  match all.find? fun role => role.name == name with
  | some role => .ok role
  | none => .error ⟨s⟩

end Role

instance : Json.Coded Role where
  encode role := .text role.name
  decode? := Json.choice? Role.all Role.name

end Stevedore
