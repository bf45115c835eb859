import EntityGen.Naming.English

/-! # Settings of the generated code

Settings choose the names and the collection type of navigations, whether a unit starts with a
header, and the exceptions that extend the English lexicon.
-/

namespace EntityGen

/-- Exceptions to the English rules; the pairs of `irregular` are ordered by their singular. -/
structure Inflections where
  irregular : List (String × String) := []
  uncountable : List String := []
  deriving Repr, DecidableEq

namespace Inflections

/-- Puts a pair at its place and in the place of an earlier pair with the same key. -/
def insertPair (key value : String) : List (String × String) → List (String × String)
  | [] => [(key, value)]
  | (k, v) :: rest =>
    if key < k then (key, value) :: (k, v) :: rest
    else if key = k then (key, value) :: rest
    else (k, v) :: insertPair key value rest

def lexicon (inflections : Inflections) : Naming.Lexicon :=
  let withPairs := inflections.irregular.foldl (fun l p => l.addPair p.1 p.2) Naming.Lexicon.english
  inflections.uncountable.foldl Naming.Lexicon.addUncountable withPairs

end Inflections

structure Settings where
  /-- Ends the name of every navigation to one entity. -/
  navigationSuffix : String := "Navigation"
  /-- The type whose instances initialize collections. -/
  collectionType : String := "HashSet"
  emitHeader : Bool := true
  inflections : Inflections := {}
  deriving Repr, DecidableEq

def Settings.inflector (settings : Settings) : Inflector :=
  settings.inflections.lexicon.inflector

end EntityGen
