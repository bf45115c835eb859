import EntityGen.Json.Record
import EntityGen.Schema

/-! # The JSON form of schemas

Readers for databases and all that they consist of. A field with a default may be left out; an
optional one may also be `null`.
-/

namespace EntityGen.Json

open Reader

structure ColumnParts where
  name : Option String := none
  declaredType : Option String := none
  nullable : Option Bool := none
  notNull : Option Bool := none
  primaryKey : Option Bool := none
  increment : Option Bool := none
  unique : Option Bool := none
  note : Option (Option String) := none

def columnRecord : Record ColumnParts Column where
  name := "ColumnModel"
  empty := {}
  fields := [
    .of "name" (·.name) (fun p x => { p with name := some x }) text,
    .of "type" (·.declaredType) (fun p x => { p with declaredType := some x }) text,
    .of "nullable" (·.nullable) (fun p x => { p with nullable := some x }) flag,
    .of "not_null" (·.notNull) (fun p x => { p with notNull := some x }) flag,
    .of "primary_key" (·.primaryKey) (fun p x => { p with primaryKey := some x }) flag,
    .of "increment" (·.increment) (fun p x => { p with increment := some x }) flag,
    .of "unique" (·.unique) (fun p x => { p with unique := some x }) flag,
    .of "note" (·.note) (fun p x => { p with note := some x }) (optional text)]
  build p := do
    let name ← required "name" p.name
    let declaredType ← required "type" p.declaredType
    return {
      name
      declaredType
      nullable := p.nullable.getD true
      notNull := p.notNull.getD false
      primaryKey := p.primaryKey.getD false
      increment := p.increment.getD false
      unique := p.unique.getD false
      note := p.note.getD none }

structure IndexParts where
  columns : Option (List String) := none
  unique : Option Bool := none
  primaryKey : Option Bool := none
  name : Option (Option String) := none

def indexRecord : Record IndexParts Index where
  name := "IndexModel"
  empty := {}
  fields := [
    .of "columns" (·.columns) (fun p x => { p with columns := some x }) (list text),
    .of "unique" (·.unique) (fun p x => { p with unique := some x }) flag,
    .of "primary_key" (·.primaryKey) (fun p x => { p with primaryKey := some x }) flag,
    .of "name" (·.name) (fun p x => { p with name := some x }) (optional text)]
  build p := do
    let columns ← required "columns" p.columns
    return {
      columns
      unique := p.unique.getD false
      primaryKey := p.primaryKey.getD false
      name := p.name.getD none }

structure TableParts where
  name : Option String := none
  columns : Option (List Column) := none
  indexes : Option (List Index) := none
  note : Option (Option String) := none

def tableRecord : Record TableParts Table where
  name := "TableModel"
  empty := {}
  fields := [
    .of "name" (·.name) (fun p x => { p with name := some x }) text,
    .of "columns" (·.columns) (fun p x => { p with columns := some x }) (list columnRecord.read),
    .of "indexes" (·.indexes) (fun p x => { p with indexes := some x }) (list indexRecord.read),
    .of "note" (·.note) (fun p x => { p with note := some x }) (optional text)]
  build p := do
    let name ← required "name" p.name
    return {
      name
      columns := p.columns.getD []
      indexes := p.indexes.getD []
      note := p.note.getD none }

structure RelationshipParts where
  name : Option (Option String) := none
  leftTable : Option String := none
  leftColumns : Option (List String) := none
  rightTable : Option String := none
  rightColumns : Option (List String) := none

def relationshipRecord : Record RelationshipParts Relationship where
  name := "RelationshipModel"
  empty := {}
  fields := [
    .of "name" (·.name) (fun p x => { p with name := some x }) (optional text),
    .of "left_table" (·.leftTable) (fun p x => { p with leftTable := some x }) text,
    .of "left_columns" (·.leftColumns) (fun p x => { p with leftColumns := some x }) (list text),
    .of "right_table" (·.rightTable) (fun p x => { p with rightTable := some x }) text,
    .of "right_columns" (·.rightColumns) (fun p x => { p with rightColumns := some x })
      (list text)]
  build p := do
    let leftTable ← required "left_table" p.leftTable
    let leftColumns ← required "left_columns" p.leftColumns
    let rightTable ← required "right_table" p.rightTable
    let rightColumns ← required "right_columns" p.rightColumns
    return { name := p.name.getD none, leftTable, leftColumns, rightTable, rightColumns }

structure EnumerationParts where
  name : Option String := none
  values : Option (List String) := none

def enumerationRecord : Record EnumerationParts Enumeration where
  name := "EnumModel"
  empty := {}
  fields := [
    .of "name" (·.name) (fun p x => { p with name := some x }) text,
    .of "values" (·.values) (fun p x => { p with values := some x }) (list text)]
  build p := do
    let name ← required "name" p.name
    return { name, values := p.values.getD [] }

structure DatabaseParts where
  tables : Option (List Table) := none
  relationships : Option (List Relationship) := none
  enums : Option (List Enumeration) := none

def databaseRecord : Record DatabaseParts Database where
  name := "DatabaseModel"
  empty := {}
  fields := [
    .of "tables" (·.tables) (fun p x => { p with tables := some x }) (list tableRecord.read),
    .of "relationships" (·.relationships) (fun p x => { p with relationships := some x })
      (list relationshipRecord.read),
    .of "enums" (·.enums) (fun p x => { p with enums := some x }) (list enumerationRecord.read)]
  build p :=
    .ok {
      tables := p.tables.getD []
      relationships := p.relationships.getD []
      enums := p.enums.getD [] }

end EntityGen.Json

namespace EntityGen

/-- Reads a database from its JSON form. -/
def Database.ofJson (text : String) : Except Json.Error Database :=
  Json.databaseRecord.read.whole text

end EntityGen
