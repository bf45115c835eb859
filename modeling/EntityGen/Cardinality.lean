import EntityGen.Schema

/-! # Cardinality of relationships

A relationship reads differently from its two ends. It is one-to-one when the columns on its left
side hold each combination of values at most once, and many-to-one from the left otherwise.
-/

namespace EntityGen

/-- The multiplicity as seen from one end. -/
inductive Cardinality
  | oneToOne
  | oneToMany
  | manyToOne
  deriving Repr, DecidableEq

def Cardinality.isCollection (c : Cardinality) : Bool :=
  c == .oneToMany

def Cardinality.name : Cardinality → String
  | oneToOne => "OneToOne"
  | oneToMany => "OneToMany"
  | manyToOne => "ManyToOne"

inductive Endpoint
  | left
  | right
  deriving Repr, DecidableEq

def Endpoint.opposite : Endpoint → Endpoint
  | left => right
  | right => left

/-- A value for each end of a relationship. -/
structure Ends (α : Type) where
  left : α
  right : α
  deriving Repr, DecidableEq

def Ends.at {α : Type} (e : Ends α) : Endpoint → α
  | .left => e.left
  | .right => e.right

namespace Table

/-- The column sets that a table declares unique: its key, its unique indexes and columns. -/
def uniqueSets (t : Table) : List (List String) :=
  (t.primaryKey?.map (·.columns)).toList ++
    (t.indexes.filter fun i => i.unique || i.primaryKey).map (·.columns) ++
    (t.columns.filter (·.unique)).map fun c => [c.name]

/-- Whether `columns` contain a declared unique set that is not empty. -/
def isUnique (t : Table) (columns : List String) : Bool :=
  t.uniqueSets.any fun s => !s.isEmpty && s.all fun c => columns.contains c

end Table

def Relationship.oneToOne : Ends Cardinality := ⟨.oneToOne, .oneToOne⟩

def Relationship.manyToOne : Ends Cardinality := ⟨.manyToOne, .oneToMany⟩

/-- The cardinality from both ends, where `owner` is the table on the left. -/
def Relationship.classify (r : Relationship) (owner : Table) : Ends Cardinality :=
  if owner.isUnique r.leftColumns then oneToOne else manyToOne

end EntityGen
