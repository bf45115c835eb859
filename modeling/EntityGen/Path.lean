/-! # Paths

A path is a text whose parts are separated by slashes. Joining and cutting keep the spelling of what
is there: nothing is resolved or tidied up.
-/

namespace EntityGen.Path

/-- A path that starts with a slash stands for itself, wherever it is joined to. -/
def isAbsolute (path : String) : Bool :=
  path.toList.head? == some '/'

/-- `part` below `base`, with a slash in between unless `base` is empty or has one at its end. -/
def join (base part : String) : String :=
  if isAbsolute part then part
  else if base.isEmpty || base.toList.getLast? == some '/' then base ++ part
  else base ++ "/" ++ part

/-- Cuts slashes, and points that stand alone, off the end of a reversed path. -/
def dropTrailing : List Char → List Char
  | '/' :: '/' :: rest => dropTrailing ('/' :: rest)
  | '/' :: [] => ['/']
  | '/' :: rest => dropTrailing rest
  | '.' :: '/' :: rest => dropTrailing ('/' :: rest)
  | cs => cs

/-- The directory that holds what a path names. -/
def parent (path : String) : String :=
  let trimmed := dropTrailing path.toList.reverse
  let above := trimmed.dropWhile (· != '/')
  String.ofList (dropTrailing above).reverse

/-- The parts between slashes; empty ones stand for repeated slashes and those at the ends. -/
def parts (path : String) : List String :=
  (path.toList.splitOn '/').map String.ofList

/-- What follows the last point of a file name. A name that only starts with a point has none. -/
def ending? (name : String) : Option String :=
  let reversed := name.toList.reverse
  let ending := reversed.takeWhile (· != '.')
  match reversed.drop ending.length with
  | _ :: _ :: _ => some (String.ofList ending.reverse)
  | _ => none

def isHidden (name : String) : Bool :=
  name.toList.head? == some '.'

end EntityGen.Path
