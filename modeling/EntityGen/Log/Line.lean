import EntityGen.Log.Level
import EntityGen.Pass

/-! # Log lines

A line tells what a command does, at a level and for a part of the program. A pass logs each target,
what is planned for it and its diagnostics.
-/

namespace EntityGen

/-- The parts of the program that log. -/
inductive LogPart
  | settingUp
  | commands
  | discovery
  | reporting
  | resolving
  | planning
  | generating
  deriving Repr, DecidableEq

/-- The names by which filters choose parts. -/
def LogPart.name : LogPart → String
  | settingUp => "schemagen::init"
  | commands => "schemagen::generate"
  | discovery => "schemagen::discovery"
  | reporting => "schemagen::logging"
  | resolving => "schemagen_core::source"
  | planning => "schemagen_core::plan"
  | generating => "schemagen_core::generator"

structure LogLine where
  level : LogLevel
  part : LogPart
  message : String
  fields : List (String × String) := []
  deriving Repr, DecidableEq

namespace LogLine

/-- Whether a line has a field. The message counts as one. -/
def hasField (l : LogLine) (name : String) : Bool :=
  name == "message" || l.fields.any (·.1 == name)

/-- A terminal obeys some control characters; a line shows them as escapes. -/
def showControl (c : Char) : List Char :=
  let n := c.toNat
  if [0x07, 0x08, 0x0c, 0x1b, 0x7f].contains n then
    ['\\', 'x', Nat.digitChar (n / 16), Nat.digitChar (n % 16)]
  else if 0x80 ≤ n && n ≤ 0x9f then ['\\', 'u', '\x7b'] ++ Nat.toDigits 16 n ++ ['\x7d']
  else [c]

def text (l : LogLine) : String :=
  let level := String.ofList (List.replicate (5 - l.level.label.length) ' ') ++ l.level.label
  let message := String.ofList (l.message.toList.flatMap showControl)
  let fields := String.join (l.fields.map fun f => s!" {f.1}={f.2}")
  s!"{level} {message}{fields}\n"

end LogLine

def Severity.logLevel : Severity → LogLevel
  | info => .info
  | warning => .warn
  | error => .error

def Diagnostic.logLine (d : Diagnostic) : LogLine where
  level := d.severity.logLevel
  part := .reporting
  message := "[" ++ d.target.getD "-" ++ "] " ++ d.text

namespace PlannedEdge

def logLine (e : PlannedEdge) : LogLine where
  level := .debug
  part := .planning
  message := "classified relationship"
  fields := [
    ("relationship", e.relationship.describe),
    ("left", e.kind.left.name),
    ("navigation", e.names.left),
    ("inverse", e.names.right)]

end PlannedEdge

namespace Generator

variable (g : Generator)

/-- What planning logs: every relationship once all of them are sound, and the plan if there is
one. -/
def planLines (db : Database) (t : Target) (isPlanned : Bool) : List LogLine :=
  if db.relationshipErrors.isEmpty then
    (db.plannedEdges g.inflector g.settings).map (·.logLine) ++
      (if isPlanned then
        [⟨.debug, .planning, "planned schema",
          [("target_class", t.className), ("entities", toString db.tables.length)]⟩]
      else [])
  else []

def resolveLines (resources : List Resource) (t : Target) : List LogLine :=
  if t.isMatchedByName resources then
    [⟨.debug, .resolving,
      "no resource path ends with the source, matched by file name", [("source", t.source)]⟩]
  else []

/-- What ends the lines of a target. -/
def resultLine (t : Target) (outcome : Outcome) : LogLine :=
  match outcome.unit? with
  | some unit =>
    { level := .debug
      part := .generating
      message := s!"Generated {unit.fileName} ({unit.code.utf8ByteSize} bytes)" }
  | none =>
    let count := (outcome.errors t).length
    { level := .warn
      part := .generating
      message := s!"Target {t.className} failed with {count} error(s)" }

def targetLines (parse : SchemaParser) (resources : List Resource) (t : Target) : List LogLine :=
  let outcome := g.runTarget parse resources t
  let planning := match outcome with
    | .rejected _ db _ => g.planLines db t false
    | .generated _ plan _ => g.planLines plan.database t true
    | _ => []
  { level := .debug
    part := .generating
    message := s!"Generating {t.className} from '{t.source}'" } ::
    resolveLines resources t ++ planning ++ (outcome.diagnostics t).map (·.logLine) ++
    [resultLine t outcome]

end Generator

end EntityGen
