/-! # Relational schemas

A database is a list of tables, relationships and enumerations in their order of declaration. The
left side of a relationship is the table that owns the foreign key, the right side the table that it
refers to.
-/

namespace EntityGen

structure Column where
  name : String
  /-- The type as declared, with its size and array markers. -/
  declaredType : String
  nullable : Bool := true
  notNull : Bool := false
  primaryKey : Bool := false
  increment : Bool := false
  unique : Bool := false
  note : Option String := none
  deriving Repr, DecidableEq

structure Index where
  columns : List String
  unique : Bool := false
  primaryKey : Bool := false
  name : Option String := none
  deriving Repr, DecidableEq

structure Table where
  name : String
  columns : List Column := []
  indexes : List Index := []
  note : Option String := none
  deriving Repr, DecidableEq

structure Relationship where
  name : Option String := none
  leftTable : String
  leftColumns : List String
  rightTable : String
  rightColumns : List String
  deriving Repr, DecidableEq

structure Enumeration where
  name : String
  values : List String := []
  deriving Repr, DecidableEq

structure Database where
  tables : List Table := []
  relationships : List Relationship := []
  enums : List Enumeration := []
  deriving Repr, DecidableEq

/-- The key columns of a table in key order, and the name that the schema gives the key. -/
structure PrimaryKey where
  columns : List String
  name : Option String
  deriving Repr, DecidableEq

/-- A column of the primary key holds no null, whatever else is declared. -/
def Column.isNullable (c : Column) : Bool :=
  c.nullable && !c.notNull && !c.primaryKey

namespace Table

def column? (t : Table) (name : String) : Option Column :=
  t.columns.find? (·.name == name)

def flaggedKey? (t : Table) : Option PrimaryKey :=
  match (t.columns.filter (·.primaryKey)).map (·.name) with
  | [] => none
  | columns => some ⟨columns, none⟩

/-- The first primary-key index that has columns, else all columns with the flag. -/
def primaryKey? (t : Table) : Option PrimaryKey :=
  match t.indexes.find? fun i => i.primaryKey && !i.columns.isEmpty with
  | some index => some ⟨index.columns, index.name⟩
  | none => t.flaggedKey?

end Table

def Database.table? (db : Database) (name : String) : Option Table :=
  db.tables.find? (·.name == name)

namespace Relationship

def isSelfReferencing (r : Relationship) : Bool :=
  r.leftTable == r.rightTable

/-- The form in which messages show a relationship. -/
def describe (r : Relationship) : String :=
  let left := ", ".intercalate r.leftColumns
  let right := ", ".intercalate r.rightColumns
  let edge := s!"{r.leftTable}.({left}) > {r.rightTable}.({right})"
  match r.name with
  | some name => s!"'{name}' {edge}"
  | none => edge

end Relationship

/-- A class to generate, and the schema to generate it from. -/
structure Target where
  className : String
  nameSpace : String := ""
  /-- Ends the path of the schema. -/
  source : String
  deriving Repr, DecidableEq

/-- The path of the generated file below the output directory. -/
def Target.fileName (t : Target) : String :=
  if t.nameSpace.isEmpty then t.className ++ ".g.cs"
  else t.nameSpace ++ "/" ++ t.className ++ ".g.cs"

end EntityGen
