import EntityGen.Command.Arguments
import EntityGen.Command.Start
import EntityGen.Files.Tree

/-! # The program

One run of the program: a command line and an environment, and the report of what came out. The log
and the cause of a failure go to the error output.
-/

namespace EntityGen

/-- The log lines that the filter lets through. -/
def Console.shownLog (c : Console) : String :=
  String.join ((c.log.filter (c.filter.allows ·)).map (·.text))

namespace Command

/-- What a run leaves behind, apart from files. The texts of the argument parser, its help and what
it says of a wrong command line, are no part of it. -/
structure Report where
  exitCode : Nat
  output : String := ""
  errorOutput : String := ""
  deriving Repr, DecidableEq

def versionText : String := "schemagen 0.3.0\n"

def report (result : Except Failure Nat) (c : Console) : Report :=
  let output := String.join c.output
  match result with
  | .ok exitCode => { exitCode, output, errorOutput := c.shownLog }
  | .error failure =>
    { exitCode := 1, output, errorOutput := c.shownLog ++ s!"Error: {failure.message}\n" }

variable {m : Type → Type} [Monad m] (disk : Disk m)

def runCommand (command : Command m Nat) : m Report := do
  let (result, console) ← (ExceptT.run command).run {}
  return report result console

/-- Runs a request. A run of `generate` or `check` fails when there are errors. -/
def runRequest (environment : Option String) : Request → m Report
  | .help => return { exitCode := 0 }
  | .version => return { exitCode := 0, output := versionText }
  | .generate level options =>
    runCommand (Tidings.exitCode <$> generate disk environment level options)
  | .check level manifest =>
    runCommand (Tidings.exitCode <$> check disk environment level manifest)
  | .start level name directory =>
    runCommand ((fun _ => 0) <$> start disk environment level name directory)

/-- Runs a command line; `environment` is the filter that the environment sets. -/
def run (environment : Option String) (args : List String) : m Report :=
  match Arguments.request? none args with
  | some request => runRequest disk environment request
  | none => return { exitCode := 2 }

end Command

/-- Runs a command line on a file tree. -/
def FileTree.run (t : FileTree) (environment : Option String) (args : List String) :
    Command.Report × FileTree :=
  (Command.run FileTree.disk environment args) t

/-- Discovers schemas in a file tree. -/
def FileTree.discover (t : FileTree) (root : String) : Except Failure (List Resource) :=
  ((ExceptT.run (Command.discover FileTree.disk root)).run {} t).1.1

end EntityGen
