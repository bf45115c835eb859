/-! # Errors of one target

Each error is a cause that keeps a target from being generated. `message` is its only wording.
-/

namespace EntityGen

inductive GenerationError
  /-- No resource fits the source of the target. -/
  | missingSource (source target : String)
  /-- Several resources fit. -/
  | ambiguousSource (source target : String) (candidates : List String)
  /-- The text of the resource is no schema. -/
  | unreadableSchema (path target problem : String) (line column : Option Nat)
  /-- Two types or members would have one name. -/
  | nameClash (scope name first second : String)
  /-- The columns on the two sides cannot be paired. -/
  | unpairedColumns (relationship : String) (left right : Nat)
  /-- A table or column that a relationship names does not exist. -/
  | unknownEndpoint (relationship what : String)
  deriving Repr, DecidableEq

def GenerationError.message : GenerationError → String
  | missingSource source target =>
    s!"no schema resource matches '{source}' (target '{target}')"
  | ambiguousSource source target candidates =>
    s!"schema source '{source}' is ambiguous (target '{target}'): matches " ++
      ", ".intercalate candidates
  | unreadableSchema path target problem _ _ =>
    s!"failed to parse schema resource '{path}' (target '{target}'): {problem}"
  | nameClash scope name first second =>
    s!"name '{name}' in {scope} is produced by both {first} and {second}"
  | unpairedColumns relationship left right =>
    s!"relationship {relationship} has {left} referencing and {right} referenced columns"
  | unknownEndpoint relationship what =>
    s!"relationship {relationship} references unknown {what}"

end EntityGen
