import EntityGen.GenerationError

/-! # Diagnostics

A diagnostic reports an error or a warning of one target: its code, a message, and where in which
schema resource the problem lies, as far as that is known.
-/

namespace EntityGen

inductive Severity
  | info
  | warning
  | error
  deriving Repr, DecidableEq

def Severity.name : Severity → String
  | info => "info"
  | warning => "warning"
  | error => "error"

inductive DiagnosticCode
  | unreadableSchema
  | ambiguousSource
  | missingSource
  | nameClash
  | unpairedColumns
  | unknownEndpoint
  | keylessEntity
  deriving Repr, DecidableEq

namespace DiagnosticCode

/-- The codes are stable: tools rely on them. -/
def text : DiagnosticCode → String
  | unreadableSchema => "SG001"
  | ambiguousSource => "SG002"
  | missingSource => "SG003"
  | nameClash => "SG004"
  | unpairedColumns => "SG005"
  | unknownEndpoint => "SG006"
  | keylessEntity => "SG101"

/-- Only an entity without a key is still generated. -/
def severity : DiagnosticCode → Severity
  | keylessEntity => .warning
  | _ => .error

end DiagnosticCode

def GenerationError.code : GenerationError → DiagnosticCode
  | missingSource .. => .missingSource
  | ambiguousSource .. => .ambiguousSource
  | unreadableSchema .. => .unreadableSchema
  | nameClash .. => .nameClash
  | unpairedColumns .. => .unpairedColumns
  | unknownEndpoint .. => .unknownEndpoint

/-- A place in a schema resource. -/
structure Location where
  path : String
  line : Option Nat := none
  column : Option Nat := none
  deriving Repr, DecidableEq

/-- A column is shown only after a line. -/
def Location.text (l : Location) : String :=
  match l.line, l.column with
  | none, _ => l.path
  | some line, none => s!"{l.path}:{line}"
  | some line, some column => s!"{l.path}:{line}:{column}"

structure Diagnostic where
  code : DiagnosticCode
  severity : Severity := code.severity
  message : String
  location : Option Location := none
  /-- The class name of the target. -/
  target : Option String := none
  deriving Repr, DecidableEq

def GenerationError.location? : GenerationError → Option Location
  | unreadableSchema path _ _ line column => some ⟨path, line, column⟩
  | _ => none

namespace Diagnostic

def ofError (error : GenerationError) (target : String) : Diagnostic where
  code := error.code
  message := error.message
  location := error.location?
  target := some target

def isError (d : Diagnostic) : Bool :=
  d.severity == .error

def text (d : Diagnostic) : String :=
  let place := match d.location with
    | some l => l.text ++ ": "
    | none => ""
  place ++ s!"{d.severity.name}[{d.code.text}]: {d.message}"

end Diagnostic

end EntityGen
