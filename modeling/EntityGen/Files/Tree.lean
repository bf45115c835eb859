import EntityGen.Path

/-! # File access and file trees

The commands need some operations on files, in any monad. Each tells whether it worked; what went
wrong is not told. One such disk is a tree of files below a working directory, as a list of paths
with what they name. Directories above a listed path exist. Paths are followed part by part, and
nothing outside the tree exists.
-/

namespace EntityGen

structure Disk (m : Type → Type) where
  /-- The text of a file, unless it cannot be read or is no text. -/
  readText : String → m (Option String)
  isDirectory : String → m Bool
  pathExists : String → m Bool
  /-- The names in a directory, in any order. -/
  names : String → m (Option (List String))
  /-- Creates a directory and those above it. -/
  createDirectories : String → m Bool
  /-- Creates a file or replaces its text. -/
  writeText : String → String → m Bool

/-! ## File trees -/

/-- What a file holds: a text, or bytes that are no text. -/
inductive Content
  | text (s : String)
  | binary (bytes : List UInt8)
  deriving Repr, DecidableEq

def Content.ofBytes (bytes : List UInt8) : Content :=
  match String.fromUTF8? ⟨bytes.toArray⟩ with
  | some s => text s
  | none => binary bytes

def Content.text? : Content → Option String
  | text s => some s
  | binary _ => none

inductive Node
  | directory
  | file (content : Content)
  deriving Repr, DecidableEq

structure FileTree where
  entries : List (List String × Node) := []
  deriving Repr, DecidableEq

namespace FileTree

def isDirectory (t : FileTree) (place : List String) : Bool :=
  place.isEmpty || t.entries.any fun e =>
    place.isPrefixOf e.1 && (place != e.1 || e.2 == .directory)

/-- The content of a file. What has something below it is a directory and no file. -/
def file? (t : FileTree) (place : List String) : Option Content :=
  if t.isDirectory place then none
  else
    match t.entries.lookup place with
    | some (.file content) => some content
    | _ => none

/-- The longest name of a file, in bytes. -/
def longestName : Nat := 255

/-- The longest path, in bytes. -/
def longestPath : Nat := 4095

def isName (name : String) : Bool :=
  name.utf8ByteSize ≤ longestName && !name.toList.contains '\x00'

/-- One step on a path from a directory. -/
def step? (t : FileTree) (place : List String) (part : String) : Option (List String) :=
  if !t.isDirectory place then none
  else if part == "" || part == "." then some place
  else if part == ".." then (if place.isEmpty then none else some place.dropLast)
  else if isName part then some (place ++ [part])
  else none

/-- Where a path leads. The last part need not exist. -/
def place? (t : FileTree) (path : String) : Option (List String) :=
  if path.isEmpty || Path.isAbsolute path || longestPath < path.utf8ByteSize then none
  else (Path.parts path).foldlM t.step? []

/-- The names in a directory in the order in which they are listed. -/
def names (t : FileTree) (place : List String) : List String :=
  (t.entries.filterMap fun e =>
    if place.isPrefixOf e.1 then e.1[place.length]? else none).eraseDups

def put (place : List String) (node : Node) :
    List (List String × Node) → List (List String × Node)
  | [] => [(place, node)]
  | e :: rest => if e.1 == place then (place, node) :: rest else e :: put place node rest

def setNode (t : FileTree) (place : List String) (node : Node) : FileTree :=
  ⟨put place node t.entries⟩

def readText (t : FileTree) (path : String) : Option String := do
  let content ← t.file? (← t.place? path)
  content.text?

def pathExists (t : FileTree) (path : String) : Bool :=
  (t.place? path).any fun place => t.isDirectory place || (t.file? place).isSome

/-- Creates the directories that the parts of a path lead through. -/
def createParts (t : FileTree) (place : List String) : List String → Bool × FileTree
  | [] => (true, t)
  | part :: rest =>
    match t.step? place part with
    | none => (false, t)
    | some next =>
      if t.isDirectory next then createParts t next rest
      else if (t.file? next).isSome then (false, t)
      else createParts (t.setNode next .directory) next rest

def createDirectories (t : FileTree) (path : String) : Bool × FileTree :=
  if path.isEmpty then (true, t)
  else if Path.isAbsolute path || longestPath < path.utf8ByteSize then (false, t)
  else t.createParts [] (Path.parts path)

def writeText (t : FileTree) (path text : String) : Bool × FileTree :=
  match t.place? path with
  | some place =>
    if t.isDirectory place then (false, t) else (true, t.setNode place (.file (.text text)))
  | none => (false, t)

/-- Access to a tree that changes as it is used. -/
def disk : Disk (StateM FileTree) where
  readText path := fun t => (t.readText path, t)
  isDirectory path := fun t => ((t.place? path).any t.isDirectory, t)
  pathExists path := fun t => (t.pathExists path, t)
  names path := fun t => (((t.place? path).filter t.isDirectory).map t.names, t)
  createDirectories path := fun t => t.createDirectories path
  writeText path text := fun t => t.writeText path text

/-- The files of `after` that `before` lacks or holds with other content. -/
def changes (before after : FileTree) : List (List String × Content) :=
  (after.entries.map (·.1)).eraseDups.filterMap fun place =>
    (after.file? place).bind fun content =>
      if before.file? place == some content then none else some (place, content)

end FileTree

end EntityGen
