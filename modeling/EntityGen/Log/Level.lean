import EntityGen.Text.Basic

/-! # Log levels

Levels are ordered by how much they let through. A level is named in any ASCII case.
-/

namespace EntityGen

inductive LogLevel
  | off
  | error
  | warn
  | info
  | debug
  | trace
  deriving Repr, DecidableEq

namespace LogLevel

def rank : LogLevel → Nat
  | off => 0
  | error => 1
  | warn => 2
  | info => 3
  | debug => 4
  | trace => 5

/-- How a level name is compared, and shown when it is unknown. -/
def spelling (name : String) : String :=
  String.ofList ((Text.trim name.toList).map Char.toLower)

def ofName? (name : String) : Option LogLevel :=
  match spelling name with
  | "trace" => some trace
  | "debug" => some debug
  | "info" => some info
  | "warn" | "warning" => some warn
  | "error" => some error
  | "off" => some off
  | _ => none

def invalidMessage (name : String) : String :=
  s!"Invalid log level: '{spelling name}'"

/-- The names of levels in log lines. -/
def label : LogLevel → String
  | off => "OFF"
  | error => "ERROR"
  | warn => "WARN"
  | info => "INFO"
  | debug => "DEBUG"
  | trace => "TRACE"

end LogLevel

end EntityGen
