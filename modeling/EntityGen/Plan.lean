import EntityGen.ColumnType
import EntityGen.GenerationError
import EntityGen.Navigation
import EntityGen.Settings

/-! # Plans

A plan holds every name and shape of the code for one database. Planning first checks the
relationships, then names all entities and members and checks that the names are distinct. It
reports every problem of the step that fails.
-/

namespace EntityGen

structure KeyPlan where
  /-- The property names in key order. -/
  properties : List String
  name : String
  deriving Repr, DecidableEq

structure PropertyPlan where
  column : Column
  name : String
  resolved : ResolvedType
  nullable : Bool
  /-- A text column that is declared not null. -/
  required : Bool
  /-- The column is the whole key. -/
  isKey : Bool
  deriving Repr, DecidableEq

def PropertyPlan.typeName (p : PropertyPlan) : String :=
  p.resolved.type.render p.nullable

structure IndexPlan where
  properties : List String
  name : String
  unique : Bool
  deriving Repr, DecidableEq

/-- One member of a relationship, with what the mapping needs to wire it. -/
structure NavigationPlan where
  name : String
  targetEntity : String
  /-- The name of the member on the other end. -/
  inverse : String
  cardinality : Cardinality
  endpoint : Endpoint
  /-- The position of the relationship in the database. -/
  relationship : Nat
  /-- Properties of the left entity. -/
  foreignKey : List String
  /-- Properties of the right entity. -/
  principalKey : List String
  deriving Repr, DecidableEq

def NavigationPlan.isCollection (n : NavigationPlan) : Bool :=
  n.cardinality.isCollection

structure EntityPlan where
  table : Table
  name : String
  setName : String
  key : Option KeyPlan
  properties : List PropertyPlan
  indexes : List IndexPlan
  navigations : List NavigationPlan
  deriving Repr, DecidableEq

namespace EntityPlan

def hasCompositeKey (e : EntityPlan) : Bool :=
  e.key.any fun k => 1 < k.properties.length

/-- The navigations that the constructor initializes. -/
def collections (e : EntityPlan) : List NavigationPlan :=
  e.navigations.filter (·.isCollection)

/-- The navigations that the mapping of this entity wires. -/
def owned (e : EntityPlan) : List NavigationPlan :=
  e.navigations.filter (·.endpoint == .left)

def property? (e : EntityPlan) (column : String) : Option PropertyPlan :=
  e.properties.find? (·.column.name == column)

end EntityPlan

structure SchemaPlan where
  database : Database
  /-- One entity for each table, in order. -/
  entities : List EntityPlan
  deriving Repr, DecidableEq

namespace SchemaPlan

def entity? (plan : SchemaPlan) (name : String) : Option EntityPlan :=
  plan.entities.find? (·.name == name)

def keyless (plan : SchemaPlan) : List EntityPlan :=
  plan.entities.filter (·.key.isNone)

end SchemaPlan

/-! ## Relationships -/

namespace Relationship

/-- What is missing on one side: the table, else the first unknown column. -/
def missing? (db : Database) (table : String) (columns : List String) : Option String :=
  match db.table? table with
  | none => some s!"table '{table}'"
  | some t =>
    (columns.find? fun c => (t.column? c).isNone).map fun c => s!"column '{table}.{c}'"

/-- The one error of a relationship that cannot be planned. -/
def error? (db : Database) (r : Relationship) : Option GenerationError :=
  let left := r.leftColumns.length
  let right := r.rightColumns.length
  if left = 0 || left != right then some (.unpairedColumns r.describe left right)
  else
    ((missing? db r.leftTable r.leftColumns).or (missing? db r.rightTable r.rightColumns)).map
      (.unknownEndpoint r.describe)

end Relationship

/-! ## Entities -/

namespace Table

def keyColumns (t : Table) : List String :=
  (t.primaryKey?.map (·.columns)).getD []

def keyPlan? (t : Table) : Option KeyPlan :=
  t.primaryKey?.map fun key =>
    ⟨key.columns.map Naming.humanize, key.name.getD ("PK_" ++ t.name)⟩

def propertyPlan (t : Table) (c : Column) : PropertyPlan :=
  let resolved := ResolvedType.ofDeclaration c.declaredType
  { column := c
    name := Naming.humanize c.name
    resolved
    nullable := c.isNullable && !t.keyColumns.contains c.name
    required := c.notNull && resolved.type.isString
    isKey := t.keyColumns == [c.name] }

/-- The name of an index for which the schema gives none. -/
def generatedIndexName (entity : String) (properties : List String) : String :=
  s!"IX_{entity}_" ++ "_".intercalate properties

def indexPlan (entity : String) (columns : List String) (unique : Bool) (name : Option String) :
    IndexPlan :=
  let properties := columns.map Naming.humanize
  ⟨properties, name.getD (generatedIndexName entity properties), unique⟩

/-- All indexes that are no keys: those declared, then one for each unique column. -/
def declaredIndexes (t : Table) (entity : String) : List IndexPlan :=
  (t.indexes.filter fun i => !i.primaryKey && !i.columns.isEmpty).map
      (fun i => indexPlan entity i.columns i.unique i.name) ++
    (t.columns.filter fun c => c.unique && !c.primaryKey).map
      fun c => indexPlan entity [c.name] true none

/-- Keeps the first index over each list of properties; `kept` lists those already taken. -/
def distinctIndexes (kept : List (List String)) : List IndexPlan → List IndexPlan
  | [] => []
  | i :: rest =>
    if kept.contains i.properties then distinctIndexes kept rest
    else i :: distinctIndexes (i.properties :: kept) rest

def indexPlans (t : Table) (entity : String) : List IndexPlan :=
  distinctIndexes [] (t.declaredIndexes entity)

/-- The plan of a table without its navigations. -/
def entityPlan (inflector : Inflector) (t : Table) : EntityPlan :=
  let name := inflector.entityName t.name
  { table := t
    name
    setName := inflector.plural name
    key := t.keyPlan?
    properties := t.columns.map t.propertyPlan
    indexes := t.indexPlans name
    navigations := [] }

end Table

/-! ## Navigations -/

/-- A relationship with its position and all that its two navigations are made of. -/
structure PlannedEdge where
  index : Nat
  relationship : Relationship
  /-- The positions of the tables. -/
  tables : Ends Nat
  entities : Ends String
  kind : Ends Cardinality
  names : Ends String
  deriving Repr, DecidableEq

namespace PlannedEdge

def navigation (e : PlannedEdge) (endpoint : Endpoint) : NavigationPlan where
  name := e.names.at endpoint
  targetEntity := e.entities.at endpoint.opposite
  inverse := e.names.at endpoint.opposite
  cardinality := e.kind.at endpoint
  endpoint := endpoint
  relationship := e.index
  foreignKey := e.relationship.leftColumns.map Naming.humanize
  principalKey := e.relationship.rightColumns.map Naming.humanize

/-- The navigations on the table at `position`, the left one first. -/
def navigationsOn (position : Nat) (e : PlannedEdge) : List NavigationPlan :=
  ([Endpoint.left, .right].filter fun endpoint => e.tables.at endpoint == position).map e.navigation

end PlannedEdge

namespace Database

variable (inflector : Inflector)

def position? (db : Database) (table : String) : Option Nat :=
  db.tables.findIdx? (·.name == table)

/-- The planned form of a relationship whose tables exist. -/
def plannedEdge? (settings : Settings) (db : Database) (r : Relationship) (index : Nat) :
    Option PlannedEdge := do
  let left ← db.position? r.leftTable
  let right ← db.position? r.rightTable
  let owner ← db.tables[left]?
  let kind := r.classify owner
  return {
    index
    relationship := r
    tables := ⟨left, right⟩
    entities := ⟨inflector.entityName r.leftTable, inflector.entityName r.rightTable⟩
    kind
    names := r.memberNames inflector settings.navigationSuffix kind }

def plannedEdges (settings : Settings) (db : Database) : List PlannedEdge :=
  db.relationships.zipIdx.filterMap fun r => db.plannedEdge? inflector settings r.1 r.2

/-- The plans of all tables with their navigations in the order of the relationships. -/
def entityPlans (settings : Settings) (db : Database) : List EntityPlan :=
  let edges := db.plannedEdges inflector settings
  db.tables.zipIdx.map fun t =>
    { t.1.entityPlan inflector with navigations := edges.flatMap (·.navigationsOn t.2) }

end Database

/-! ## Names -/

/-- A name that something takes in a scope, and what takes it. -/
structure NameClaim where
  name : String
  owner : String
  deriving Repr, DecidableEq

namespace NameClaim

/-- Each claim of a taken name, after the claim that took it first. -/
def clashes (taken : List NameClaim) : List NameClaim → List (NameClaim × NameClaim)
  | [] => []
  | claim :: rest =>
    match taken.find? (·.name == claim.name) with
    | some first => (first, claim) :: clashes taken rest
    | none => clashes (taken ++ [claim]) rest

def errors (scope : String) (claims : List NameClaim) : List GenerationError :=
  (clashes [] claims).map fun c => .nameClash scope c.2.name c.1.owner c.2.owner

end NameClaim

namespace Target

def scope (t : Target) : String :=
  if t.nameSpace.isEmpty then "the global namespace" else s!"namespace '{t.nameSpace}'"

/-- The types that are declared beside each other: the context, the entities and the enums. -/
def typeClaims (t : Target) (db : Database) (entities : List EntityPlan) : List NameClaim :=
  ⟨t.className, "the context class"⟩ ::
    entities.map (fun e => ⟨e.name, s!"table '{e.table.name}'"⟩) ++
    db.enums.map fun e => ⟨e.name, s!"enum '{e.name}'"⟩

end Target

namespace EntityPlan

/-- No member may have the name of its class. -/
def memberClaims (db : Database) (e : EntityPlan) : List NameClaim :=
  ⟨e.name, "the entity type name"⟩ ::
    e.properties.map (fun p => ⟨p.name, s!"column '{e.table.name}.{p.column.name}'"⟩) ++
    e.navigations.map fun n =>
      let described := (db.relationships[n.relationship]?.map (·.describe)).getD ""
      ⟨n.name, s!"relationship {described}"⟩

end EntityPlan

namespace Database

def relationshipErrors (db : Database) : List GenerationError :=
  db.relationships.filterMap (·.error? db)

def nameErrors (db : Database) (target : Target) (entities : List EntityPlan) :
    List GenerationError :=
  NameClaim.errors target.scope (target.typeClaims db entities) ++
    entities.flatMap fun e => NameClaim.errors s!"entity '{e.name}'" (e.memberClaims db)

/-- The plan of a database, or every problem of the first step that finds one. -/
def plan (inflector : Inflector) (settings : Settings) (db : Database) (target : Target) :
    Except (List GenerationError) SchemaPlan :=
  if db.relationshipErrors.isEmpty then
    let entities := db.entityPlans inflector settings
    let errors := db.nameErrors target entities
    if errors.isEmpty then .ok ⟨db, entities⟩ else .error errors
  else .error db.relationshipErrors

end Database

end EntityGen
