import EntityGen.Command.Console

/-! # Discovery of schemas

All files with the ending `json` below the schema directory are schemas, except those that are
hidden or in a hidden directory. They are ordered by their paths, part by part.
-/

namespace EntityGen.Command

variable {m : Type → Type} [Monad m] (disk : Disk m)

/-- The ending of the names of schema files. -/
def schemaEnding : String := "json"

/-- A file below the schema directory: its path, and the parts of it below that directory. -/
structure Found where
  parts : List String
  path : String
  deriving Repr, DecidableEq

/-- Directories cannot be nested deeper than a path can be long. -/
def deepest : Nat := 4096

mutual

/-- The schema files below a directory, in the order in which names are listed. -/
def collect : Nat → List String → String → Command m (List Found)
  | 0, _, _ => pure []
  | depth + 1, parts, path => do
    match ← access (disk.names path) with
    | none => throw (.unreadableDirectory path)
    | some names => collectNames depth parts path names

/-- The schema files under some names of one directory. -/
def collectNames (depth : Nat) (parts : List String) (path : String) :
    List String → Command m (List Found)
  | [] => pure []
  | name :: rest => do
    let below := Path.join path name
    let found ←
      if Path.isHidden name then pure []
      else if ← access (disk.isDirectory below) then collect depth (parts ++ [name]) below
      else if Path.ending? name == some schemaEnding then pure [⟨parts ++ [name], below⟩]
      else pure []
    return found ++ (← collectNames depth parts path rest)

end

/-- Names are ordered by their first differing character. -/
def nameBefore (a b : String) : Bool :=
  a.toList.lex b.toList fun c d => decide (c.toNat < d.toNat)

def sortFound (found : List Found) : List Found :=
  found.mergeSort fun a b => !b.parts.lex a.parts nameBefore

/-- Paths of resources have slashes only. -/
def withSlashes (path : String) : String :=
  String.ofList (path.toList.map fun c => if c = '\\' then '/' else c)

def readSchemas : List Found → Command m (List Resource)
  | [] => pure []
  | f :: rest => do
    match ← access (disk.readText f.path) with
    | none => throw (.unreadableSchema f.path)
    | some content =>
      let path := withSlashes f.path
      note ⟨.debug, .discovery, s!"Discovered schema resource {path}", []⟩
      return ⟨path, content⟩ :: (← readSchemas rest)

/-- The schemas below a directory. -/
def discover (root : String) : Command m (List Resource) := do
  if ← access (disk.isDirectory root) then
    let found ← collect disk deepest [] root
    readSchemas disk (sortFound found)
  else throw (.noSchemaDirectory root)

end EntityGen.Command
