import EntityGen.GenerationError
import EntityGen.Schema
import EntityGen.Text.Lowercase

/-! # Schema resources

A target names its schema by the end of a path. Where no path ends in that way the file name alone
decides, and exactly one resource has to fit.
-/

namespace EntityGen

structure Resource where
  path : String
  content : String
  deriving Repr, DecidableEq

namespace Resource

/-- Case does not count in paths, and both slashes separate their parts. -/
def normalize (path : String) : List Char :=
  Text.lowercase (path.toList.map fun c => if c = '\\' then '/' else c)

/-- Whether the path ends with `source`, which may start within a file name. -/
def endsWith (r : Resource) (source : String) : Bool :=
  !(normalize source).isEmpty && (normalize source).isSuffixOf (normalize r.path)

/-- What follows the last slash. -/
def lastPart (path : List Char) : List Char :=
  (path.reverse.takeWhile (· != '/')).reverse

/-- Whether the file names agree, whatever the directories are. -/
def hasFileName (r : Resource) (source : String) : Bool :=
  let name := lastPart (normalize source)
  !name.isEmpty && lastPart (normalize r.path) == name

end Resource

namespace Target

/-- The resources whose paths end with the source. -/
def pathMatches (t : Target) (resources : List Resource) : List Resource :=
  resources.filter (·.endsWith t.source)

def nameMatches (t : Target) (resources : List Resource) : List Resource :=
  resources.filter (·.hasFileName t.source)

/-- The resources among which the target has to be unambiguous. -/
def candidates (t : Target) (resources : List Resource) : List Resource :=
  if (t.pathMatches resources).isEmpty then t.nameMatches resources else t.pathMatches resources

/-- Only the file name has led to the candidates. -/
def isMatchedByName (t : Target) (resources : List Resource) : Bool :=
  (t.pathMatches resources).isEmpty && !(t.nameMatches resources).isEmpty

/-- The one resource that fits. -/
def resolve (t : Target) (resources : List Resource) : Except GenerationError Resource :=
  match t.candidates resources with
  | [r] => .ok r
  | [] => .error (.missingSource t.source t.className)
  | several => .error (.ambiguousSource t.source t.className (several.map (·.path)))

end Target

end EntityGen
