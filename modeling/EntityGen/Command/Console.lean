import EntityGen.Files.Tree
import EntityGen.Log.Filter
import EntityGen.Manifest

/-! # Commands and their output

A command works on files, prints to its output and logs. It ends with a value or with the cause of
its failure; what it printed and logged before stays.
-/

namespace EntityGen

/-- Why a command stops. -/
inductive Failure
  | invalidLevel (name : String)
  | unreadableManifest (path : String)
  | unparsableManifest
  | invalidManifest (error : ManifestError)
  | noSchemaDirectory (path : String)
  | unreadableDirectory (path : String)
  | unreadableSchema (path : String)
  | directoryNotCreated (path : String)
  | fileNotWritten (path : String)
  | nameWithoutLetter (name : String)
  | nameNotIdentifier (name className : String)
  | manifestExists (path : String)
  deriving Repr, DecidableEq

def Failure.message : Failure → String
  | invalidLevel name => LogLevel.invalidMessage name
  | unreadableManifest path => "Failed to read manifest: " ++ Text.quote path
  | unparsableManifest => "Failed to parse manifest"
  | invalidManifest error => error.message
  | noSchemaDirectory path => s!"Schema directory not found: {path}"
  | unreadableDirectory path => s!"Failed to read directory: {path}"
  | unreadableSchema path => s!"Failed to read schema: {path}"
  | directoryNotCreated path => s!"Failed to create directory: {path}"
  | fileNotWritten path => s!"Failed to write {path}"
  | nameWithoutLetter name => s!"Project name must start with a letter: '{name}'"
  | nameNotIdentifier name className =>
    s!"Project name '{name}' gives '{className}', which is not a valid identifier"
  | manifestExists path => s!"Manifest already exists: {path}"

/-- What a command has printed and logged. -/
structure Console where
  output : List String := []
  log : List LogLine := []
  /-- The filter of the log, once it is set up. -/
  filter : LogFilter := []
  deriving Repr

abbrev Command (m : Type → Type) := ExceptT Failure (StateT Console m)

namespace Command

variable {m : Type → Type} [Monad m]

/-- An access to files as a part of a command. -/
def access {α : Type} (action : m α) : Command m α :=
  ExceptT.lift (StateT.lift action)

def print (text : String) : Command m Unit :=
  modify fun c => { c with output := c.output ++ [text] }

def printLine (text : String) : Command m Unit :=
  print (text ++ "\n")

def noteAll (lines : List LogLine) : Command m Unit :=
  modify fun c => { c with log := c.log ++ lines }

def note (line : LogLine) : Command m Unit :=
  noteAll [line]

/-- The level that applies when none is given. -/
def defaultLevel : LogLevel := .info

/-- The filter from the environment, if it is valid, else the given level. -/
def logFilter (environment level : Option String) : Except Failure LogFilter :=
  match environment.bind LogFilter.ofText? with
  | some filter => .ok filter
  | none =>
    match level with
    | none => .ok (.ofLevel defaultLevel)
    | some name =>
      match LogLevel.ofName? name with
      | some level => .ok (.ofLevel level)
      | none => .error (.invalidLevel name)

def setUpLog (environment level : Option String) : Command m Unit := do
  let filter ← ExceptT.mk (pure (logFilter environment level))
  modify fun c => { c with filter }

end Command

end EntityGen
