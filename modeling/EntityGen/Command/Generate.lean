import EntityGen.Command.Discovery

/-! # Generating and checking

Both commands load a manifest and run the pass over its targets. `generate` then writes the units or
prints them, and `check` only tells what there is.
-/

namespace EntityGen.Command

variable {m : Type → Type} [Monad m] (disk : Disk m)

/-- A valid manifest and the directory that it is in. -/
structure LoadedProject where
  manifest : Manifest
  base : String
  deriving Repr

/-- What a command has achieved. -/
structure Tidings where
  generated : Nat := 0
  written : Nat := 0
  tally : Tally := {}
  deriving Repr, DecidableEq

/-- An error makes a command fail, a warning does not. -/
def Tidings.exitCode (t : Tidings) : Nat :=
  if t.tally.hasErrors then 1 else 0

def readManifest (path : String) : Command m Manifest := do
  match ← access (disk.readText path) with
  | none => throw (.unreadableManifest path)
  | some text =>
    match Manifest.ofToml? text with
    | none => throw .unparsableManifest
    | some manifest => return manifest

/-- Reads and validates a manifest. The log is set up in between, by the given level or else by that
of the manifest. -/
def loadProject (environment level : Option String) (path : String) : Command m LoadedProject := do
  let manifest ← readManifest disk path
  setUpLog environment (level.or manifest.project.logLevel)
  match manifest.error? with
  | some error => throw (.invalidManifest error)
  | none =>
    note ⟨.debug, .commands, s!"Loaded manifest {path}", []⟩
    return ⟨manifest, Path.parent path⟩

/-- Runs the pass over all targets of a project. -/
def runPass (project : LoadedProject) : Command m (List GeneratedUnit × Tally) := do
  let directory := project.manifest.schemaDir project.base
  let resources ← discover disk directory
  note ⟨.info, .commands,
    s!"Found {resources.length} schema resource(s) in {directory}", []⟩
  let generator : Generator := { settings := project.manifest.settings }
  let targets := project.manifest.targets
  noteAll (targets.flatMap (generator.targetLines jsonParser resources))
  let result := generator.run jsonParser resources targets
  return (result.units, .ofDiagnostics result.diagnostics)

/-- Writes a unit, unless its file holds the same text already. The result tells whether it was
written. -/
def writeUnit (directory : String) (unit : GeneratedUnit) : Command m Bool := do
  let path := Path.join directory unit.fileName
  if (← access (disk.readText path)) == some unit.code then
    note ⟨.debug, .commands, s!"Unchanged {path}", []⟩
    return false
  else
    let above := Path.parent path
    if !(← access (disk.createDirectories above)) then throw (.directoryNotCreated above)
    if !(← access (disk.writeText path unit.code)) then throw (.fileNotWritten path)
    note ⟨.info, .commands, s!"Wrote {path}", []⟩
    return true

/-- Writes units in order and counts those that were written. -/
def writeUnits (directory : String) : List GeneratedUnit → Command m Nat
  | [] => return 0
  | unit :: rest => do
    let written ← writeUnit disk directory unit
    return (if written then 1 else 0) + (← writeUnits directory rest)

/-- All units, each after a line with its file name. -/
def unitsText (units : List GeneratedUnit) : String :=
  String.join (units.map fun u => s!"// {u.fileName}\n" ++ u.code)

def unitLines (units : List GeneratedUnit) : String :=
  String.join (units.map fun u => s!"✓ {u.fileName} <- {u.sourcePath}\n")

structure GenerateOptions where
  manifest : Option String := none
  output : Option String := none
  stdout : Bool := false
  deriving Repr, DecidableEq

def generate (environment level : Option String) (options : GenerateOptions) :
    Command m Tidings := do
  let project ← loadProject disk environment level (options.manifest.getD Manifest.fileName)
  let (units, tally) ← runPass disk project
  if options.stdout then
    print (unitsText units)
    return { generated := units.length, tally }
  else
    let directory := options.output.getD (project.manifest.outputDir project.base)
    let written ← writeUnits disk directory units
    printLine (s!"Generated {units.length} of {project.manifest.targets.length} target(s) " ++
      s!"into {directory} ({written} written, {tally.errors} error(s), " ++
      s!"{tally.warnings} warning(s))")
    return { generated := units.length, written, tally }

def check (environment level manifest : Option String) : Command m Tidings := do
  let path := manifest.getD Manifest.fileName
  printLine s!"Checking manifest: {path}"
  let project ← loadProject disk environment level path
  printLine s!"✓ Targets: {project.manifest.targets.length}"
  let (units, tally) ← runPass disk project
  print (unitLines units)
  if tally.hasErrors then
    printLine s!"\n{tally.errors} error(s), {tally.warnings} warning(s)"
  else
    printLine s!"\nManifest is valid! ({tally.warnings} warning(s))"
  return { generated := units.length, tally }

end EntityGen.Command
