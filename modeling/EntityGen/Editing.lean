import EntityGen.Schema

/-! # Editing schemas

A schema is built up by adding parts at its end. Columns and indexes go to the first table of the
given name; where there is none, nothing changes.
-/

namespace EntityGen

namespace Column

/-- A column declared not null is no longer declared nullable. -/
def asNotNull (c : Column) : Column :=
  { c with notNull := true, nullable := false }

def asPrimaryKey (c : Column) : Column :=
  { c with primaryKey := true }

def asIncrement (c : Column) : Column :=
  { c with increment := true }

def asUnique (c : Column) : Column :=
  { c with unique := true }

end Column

namespace Index

def asUnique (i : Index) : Index :=
  { i with unique := true }

def asPrimaryKey (i : Index) : Index :=
  { i with primaryKey := true }

end Index

namespace Database

/-- Edits the first table of the given name. -/
def editTable (edit : Table → Table) (name : String) : List Table → List Table
  | [] => []
  | t :: rest => if t.name == name then edit t :: rest else t :: editTable edit name rest

def addTable (db : Database) (t : Table) : Database :=
  { db with tables := db.tables ++ [t] }

def addColumn (db : Database) (table : String) (c : Column) : Database :=
  { db with tables := editTable (fun t => { t with columns := t.columns ++ [c] }) table db.tables }

def addIndex (db : Database) (table : String) (i : Index) : Database :=
  { db with tables := editTable (fun t => { t with indexes := t.indexes ++ [i] }) table db.tables }

def addRelationship (db : Database) (r : Relationship) : Database :=
  { db with relationships := db.relationships ++ [r] }

/-- Leaves out the last relationship. -/
def dropRelationship (db : Database) : Database :=
  { db with relationships := db.relationships.dropLast }

def addEnum (db : Database) (e : Enumeration) : Database :=
  { db with enums := db.enums ++ [e] }

end Database

end EntityGen
