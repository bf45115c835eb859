import EntityGen.Code.Unit
import EntityGen.Diagnostic
import EntityGen.Json.SchemaFormat
import EntityGen.Resource

/-! # Generation passes

A pass generates a unit for each target from the resources at hand. Every target has an outcome of
its own, so a target that fails does not stop the others.
-/

namespace EntityGen

/-- Why the text of a resource is no schema, and where. -/
structure ParseFailure where
  message : String
  line : Option Nat := none
  column : Option Nat := none
  deriving Repr, DecidableEq

/-- Reads the schema in a resource. -/
abbrev SchemaParser := Resource → Except ParseFailure Database

/-- The greatest line and the greatest column that a failure tells: both fit in 32 bits. -/
def ParseFailure.lastPosition : Nat := 4294967295

/-- A failure to read JSON. A place behind the last position is told as that position. -/
def ParseFailure.ofJson (e : Json.Error) : ParseFailure where
  message := e.message
  line := some (min e.place.line lastPosition)
  column := some (min e.place.column lastPosition)

/-- Reads schemas in their JSON form. -/
def jsonParser : SchemaParser := fun resource =>
  (Database.ofJson resource.content).mapError .ofJson

structure GeneratedUnit where
  target : Target
  /-- The path below the output directory. -/
  fileName : String
  /-- The path of the schema. -/
  sourcePath : String
  code : String
  deriving Repr, DecidableEq

structure Generator where
  settings : Settings := {}
  inflector : Inflector := settings.inflector

/-- What a pass makes of one target. -/
inductive Outcome
  | unresolved (error : GenerationError)
  | unreadable (resource : Resource) (failure : ParseFailure)
  | rejected (resource : Resource) (database : Database) (errors : List GenerationError)
  | generated (resource : Resource) (plan : SchemaPlan) (unit : GeneratedUnit)
  deriving Repr

namespace Outcome

def unit? : Outcome → Option GeneratedUnit
  | generated _ _ unit => some unit
  | _ => none

def errors (t : Target) : Outcome → List GenerationError
  | unresolved error => [error]
  | unreadable resource failure =>
    [.unreadableSchema resource.path t.className failure.message failure.line failure.column]
  | rejected _ _ errors => errors
  | generated .. => []

def resource? : Outcome → Option Resource
  | unresolved _ => none
  | unreadable resource _ => some resource
  | rejected resource _ _ => some resource
  | generated resource _ _ => some resource

end Outcome

/-- The warning for an entity without a key. -/
def EntityPlan.keylessWarning (t : Target) (path : String) (e : EntityPlan) : Diagnostic where
  code := .keylessEntity
  message := s!"table '{e.table.name}' has no primary key; entity '{e.name}' is mapped as keyless"
  location := some { path }
  target := some t.className

/-- The diagnostic for an error, placed in the resource unless the error has a place itself. -/
def GenerationError.diagnostic (t : Target) (path : Option String) (e : GenerationError) :
    Diagnostic :=
  { Diagnostic.ofError e t.className with
    location := e.location?.or (path.map fun path => { path }) }

def Outcome.diagnostics (t : Target) (outcome : Outcome) : List Diagnostic :=
  match outcome with
  | .generated resource plan _ => plan.keyless.map (·.keylessWarning t resource.path)
  | failed => (failed.errors t).map (·.diagnostic t (failed.resource?.map (·.path)))

/-- The units generated and the diagnostics reported so far, each in their order. -/
structure PassResult where
  units : List GeneratedUnit := []
  diagnostics : List Diagnostic := []
  deriving Repr, DecidableEq

namespace Generator

variable (g : Generator) (parse : SchemaParser) (resources : List Resource)

def runTarget (t : Target) : Outcome :=
  match t.resolve resources with
  | .error error => .unresolved error
  | .ok resource =>
    match parse resource with
    | .error failure => .unreadable resource failure
    | .ok db =>
      match db.plan g.inflector g.settings t with
      | .error errors => .rejected resource db errors
      | .ok plan =>
        .generated resource plan
          ⟨t, t.fileName, resource.path, Code.unit g.settings t plan⟩

/-- Runs a target after those before it. A target that fails adds its errors and no unit. -/
def runNext (done : PassResult) (t : Target) : PassResult :=
  let outcome := g.runTarget parse resources t
  { units := done.units ++ outcome.unit?.toList
    diagnostics := done.diagnostics ++ outcome.diagnostics t }

/-- Runs the targets in their order. -/
def run (targets : List Target) : PassResult :=
  targets.foldl (g.runNext parse resources) {}

def units (targets : List Target) : List GeneratedUnit :=
  (g.run parse resources targets).units

def diagnostics (targets : List Target) : List Diagnostic :=
  (g.run parse resources targets).diagnostics

end Generator

/-- How many errors and warnings were reported. -/
structure Tally where
  errors : Nat := 0
  warnings : Nat := 0
  deriving Repr, DecidableEq

namespace Tally

def ofDiagnostics (diagnostics : List Diagnostic) : Tally where
  errors := diagnostics.countP fun d => d.severity == .error
  warnings := diagnostics.countP fun d => d.severity == .warning

def hasErrors (t : Tally) : Bool :=
  0 < t.errors

end Tally

end EntityGen
