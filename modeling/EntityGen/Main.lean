import EntityGen.Command.Program

/-! # The command line

The only module that touches files, streams and the environment: the commands run on the actual disk
and their report goes out at the end.
-/

namespace EntityGen

/-- Whether an action ends without an error. -/
def succeeds {α : Type} (action : IO α) : IO Bool :=
  return (← action.toBaseIO) matches .ok _

def isDirectoryOnDisk (path : String) : IO Bool := do
  let .ok found ← (IO.FS.realPath path).toBaseIO | return false
  found.isDir

def namesOnDisk (path : String) : IO (Option (List String)) := do
  let .ok found ← (IO.FS.realPath path).toBaseIO | return none
  let .ok entries ← found.readDir.toBaseIO | return none
  return some (entries.toList.map (·.fileName))

/-- Access to the actual files. -/
def Disk.actual : Disk IO where
  readText path := do
    let .ok text ← (IO.FS.readFile path).toBaseIO | return none
    return some text
  isDirectory := isDirectoryOnDisk
  pathExists path := succeeds (IO.FS.realPath path)
  names := namesOnDisk
  createDirectories path :=
    if path.isEmpty then return true else succeeds (IO.FS.createDirAll path)
  writeText path text := succeeds (IO.FS.writeFile path text)

end EntityGen

def main (args : List String) : IO UInt32 := do
  let report ← EntityGen.Command.run EntityGen.Disk.actual (← IO.getEnv "RUST_LOG") args
  IO.print report.output
  IO.eprint report.errorOutput
  return report.exitCode.toUInt32
