import EntityGen.Json.SchemaFormat
import EntityGen.Pass
import EntityGen.Proofs.Json.Objects

/-! # Databases read back from JSON

A database is read back from its JSON text. The order of the members does not count in any object,
and a member that holds its default may be left out.
-/

namespace EntityGen

open Json Json.Reader

namespace Column

def members (c : Column) : List Member := [
  .of "name" StringWritten c.name,
  .of "type" StringWritten c.declaredType,
  .of "nullable" FlagWritten c.nullable (some true),
  .of "not_null" FlagWritten c.notNull (some false),
  .of "primary_key" FlagWritten c.primaryKey (some false),
  .of "increment" FlagWritten c.increment (some false),
  .of "unique" FlagWritten c.unique (some false),
  .of "note" OptionalWritten c.note (some none)]

def Written (c : Column) : String → Prop :=
  ObjectWritten c.members

/-- What is collected once the members with the given names are read. -/
def parts (c : Column) (seen : List String) : ColumnParts where
  name := collected seen "name" c.name
  declaredType := collected seen "type" c.declaredType
  nullable := collected seen "nullable" c.nullable
  notNull := collected seen "not_null" c.notNull
  primaryKey := collected seen "primary_key" c.primaryKey
  increment := collected seen "increment" c.increment
  unique := collected seen "unique" c.unique
  note := collected seen "note" c.note

theorem described (c : Column) : Describes columnRecord c.members c c.parts where
  nodup := by decide
  empty := rfl
  fields := by
    refine .cons (.of .text (fun _ => rfl) ?_) (.cons (.of .text (fun _ => rfl) ?_)
      (.cons (.of .flag (fun _ => rfl) ?_) (.cons (.of .flag (fun _ => rfl) ?_)
      (.cons (.of .flag (fun _ => rfl) ?_) (.cons (.of .flag (fun _ => rfl) ?_)
      (.cons (.of .flag (fun _ => rfl) ?_) (.cons (.of .optional (fun _ => rfl) ?_) .nil)))))))
    all_goals
      intro seen
      simp [parts, collected_cons]
  build seen h := by
    simp only [members, List.forall_mem_cons, Member.of] at h
    obtain ⟨hname, htype, hnullable, hnotNull, hprimary, hincrement, hunique, hnote, -⟩ := h
    simp only [columnRecord, parts, required_collected hname, required_collected htype,
      collected_getD hnullable, collected_getD hnotNull, collected_getD hprimary,
      collected_getD hincrement, collected_getD hunique, collected_getD hnote]
    rfl

theorem undoes_read : Undoes columnRecord.read Written :=
  fun c _ => c.described.undoes

theorem written_toJson (c : Column) : c.Written c.toJson := by
  refine ⟨_, ⟨?_, ?_, ?_⟩, rfl⟩
  all_goals cases h : c.note <;> simp [members, Member.of, optionalMember, h]

end Column

namespace Index

def members (i : Index) : List Member := [
  .of "columns" (ListWritten StringWritten) i.columns,
  .of "unique" FlagWritten i.unique (some false),
  .of "primary_key" FlagWritten i.primaryKey (some false),
  .of "name" OptionalWritten i.name (some none)]

def Written (i : Index) : String → Prop :=
  ObjectWritten i.members

def parts (i : Index) (seen : List String) : IndexParts where
  columns := collected seen "columns" i.columns
  unique := collected seen "unique" i.unique
  primaryKey := collected seen "primary_key" i.primaryKey
  name := collected seen "name" i.name

theorem described (i : Index) : Describes indexRecord i.members i i.parts where
  nodup := by decide
  empty := rfl
  fields := by
    refine .cons (.of (.list .text) (fun _ => rfl) ?_) (.cons (.of .flag (fun _ => rfl) ?_)
      (.cons (.of .flag (fun _ => rfl) ?_) (.cons (.of .optional (fun _ => rfl) ?_) .nil)))
    all_goals
      intro seen
      simp [parts, collected_cons]
  build seen h := by
    simp only [members, List.forall_mem_cons, Member.of] at h
    obtain ⟨hcolumns, hunique, hprimary, hname, -⟩ := h
    simp only [indexRecord, parts, required_collected hcolumns, collected_getD hunique,
      collected_getD hprimary, collected_getD hname]
    rfl

theorem undoes_read : Undoes indexRecord.read Written :=
  fun i _ => i.described.undoes

theorem written_toJson (i : Index) : i.Written i.toJson := by
  refine ⟨_, ⟨?_, ?_, ?_⟩, rfl⟩
  all_goals cases h : i.name <;> simp [members, Member.of, optionalMember, h]

end Index

namespace Table

def members (t : Table) : List Member := [
  .of "name" StringWritten t.name,
  .of "columns" (ListWritten Column.Written) t.columns (some []),
  .of "indexes" (ListWritten Index.Written) t.indexes (some []),
  .of "note" OptionalWritten t.note (some none)]

def Written (t : Table) : String → Prop :=
  ObjectWritten t.members

def parts (t : Table) (seen : List String) : TableParts where
  name := collected seen "name" t.name
  columns := collected seen "columns" t.columns
  indexes := collected seen "indexes" t.indexes
  note := collected seen "note" t.note

theorem described (t : Table) : Describes tableRecord t.members t t.parts where
  nodup := by decide
  empty := rfl
  fields := by
    refine .cons (.of .text (fun _ => rfl) ?_)
      (.cons (.of (.list Column.undoes_read) (fun _ => rfl) ?_)
      (.cons (.of (.list Index.undoes_read) (fun _ => rfl) ?_)
      (.cons (.of .optional (fun _ => rfl) ?_) .nil)))
    all_goals
      intro seen
      simp [parts, collected_cons]
  build seen h := by
    simp only [members, List.forall_mem_cons, Member.of] at h
    obtain ⟨hname, hcolumns, hindexes, hnote, -⟩ := h
    simp only [tableRecord, parts, required_collected hname, collected_getD hcolumns,
      collected_getD hindexes, collected_getD hnote]
    rfl

theorem undoes_read : Undoes tableRecord.read Written :=
  fun t _ => t.described.undoes

theorem written_toJson (t : Table) : t.Written t.toJson := by
  have columns := listWritten_array Column.written_toJson t.columns
  have indexes := listWritten_array Index.written_toJson t.indexes
  refine ⟨_, ⟨?_, ?_, ?_⟩, rfl⟩
  all_goals cases h : t.note <;> simp [members, Member.of, optionalMember, columns, indexes, h]

end Table

namespace Relationship

def members (r : Relationship) : List Member := [
  .of "name" OptionalWritten r.name (some none),
  .of "left_table" StringWritten r.leftTable,
  .of "left_columns" (ListWritten StringWritten) r.leftColumns,
  .of "right_table" StringWritten r.rightTable,
  .of "right_columns" (ListWritten StringWritten) r.rightColumns]

def Written (r : Relationship) : String → Prop :=
  ObjectWritten r.members

def parts (r : Relationship) (seen : List String) : RelationshipParts where
  name := collected seen "name" r.name
  leftTable := collected seen "left_table" r.leftTable
  leftColumns := collected seen "left_columns" r.leftColumns
  rightTable := collected seen "right_table" r.rightTable
  rightColumns := collected seen "right_columns" r.rightColumns

theorem described (r : Relationship) : Describes relationshipRecord r.members r r.parts where
  nodup := by decide
  empty := rfl
  fields := by
    refine .cons (.of .optional (fun _ => rfl) ?_) (.cons (.of .text (fun _ => rfl) ?_)
      (.cons (.of (.list .text) (fun _ => rfl) ?_) (.cons (.of .text (fun _ => rfl) ?_)
      (.cons (.of (.list .text) (fun _ => rfl) ?_) .nil))))
    all_goals
      intro seen
      simp [parts, collected_cons]
  build seen h := by
    simp only [members, List.forall_mem_cons, Member.of] at h
    obtain ⟨hname, hleft, hleftColumns, hright, hrightColumns, -⟩ := h
    simp only [relationshipRecord, parts, collected_getD hname, required_collected hleft,
      required_collected hleftColumns, required_collected hright, required_collected hrightColumns]
    rfl

theorem undoes_read : Undoes relationshipRecord.read Written :=
  fun r _ => r.described.undoes

theorem written_toJson (r : Relationship) : r.Written r.toJson := by
  refine ⟨_, ⟨?_, ?_, ?_⟩, rfl⟩
  all_goals cases h : r.name <;> simp [members, Member.of, optionalMember, h]

end Relationship

namespace Enumeration

def members (e : Enumeration) : List Member := [
  .of "name" StringWritten e.name,
  .of "values" (ListWritten StringWritten) e.values (some [])]

def Written (e : Enumeration) : String → Prop :=
  ObjectWritten e.members

def parts (e : Enumeration) (seen : List String) : EnumerationParts where
  name := collected seen "name" e.name
  values := collected seen "values" e.values

theorem described (e : Enumeration) : Describes enumerationRecord e.members e e.parts where
  nodup := by decide
  empty := rfl
  fields := by
    refine .cons (.of .text (fun _ => rfl) ?_) (.cons (.of (.list .text) (fun _ => rfl) ?_) .nil)
    all_goals
      intro seen
      simp [parts, collected_cons]
  build seen h := by
    simp only [members, List.forall_mem_cons, Member.of] at h
    obtain ⟨hname, hvalues, -⟩ := h
    simp only [enumerationRecord, parts, required_collected hname, collected_getD hvalues]
    rfl

theorem undoes_read : Undoes enumerationRecord.read Written :=
  fun e _ => e.described.undoes

theorem written_toJson (e : Enumeration) : e.Written e.toJson := by
  refine ⟨_, ⟨?_, ?_, ?_⟩, rfl⟩
  all_goals simp [members, Member.of]

end Enumeration

namespace Database

def members (db : Database) : List Member := [
  .of "tables" (ListWritten Table.Written) db.tables (some []),
  .of "relationships" (ListWritten Relationship.Written) db.relationships (some []),
  .of "enums" (ListWritten Enumeration.Written) db.enums (some [])]

/-- The text is a JSON form of the database: its own one, with the members of each object in any
order and without some of the members that hold their default. -/
def Written (db : Database) : String → Prop :=
  ObjectWritten db.members

def parts (db : Database) (seen : List String) : DatabaseParts where
  tables := collected seen "tables" db.tables
  relationships := collected seen "relationships" db.relationships
  enums := collected seen "enums" db.enums

theorem described (db : Database) : Describes databaseRecord db.members db db.parts where
  nodup := by decide
  empty := rfl
  fields := by
    refine .cons (.of (.list Table.undoes_read) (fun _ => rfl) ?_)
      (.cons (.of (.list Relationship.undoes_read) (fun _ => rfl) ?_)
      (.cons (.of (.list Enumeration.undoes_read) (fun _ => rfl) ?_) .nil))
    all_goals
      intro seen
      simp [parts, collected_cons]
  build seen h := by
    simp only [members, List.forall_mem_cons, Member.of] at h
    obtain ⟨htables, hrelationships, henums, -⟩ := h
    simp only [databaseRecord, parts, collected_getD htables, collected_getD hrelationships,
      collected_getD henums]

theorem undoes_read : Undoes databaseRecord.read Written :=
  fun db _ => db.described.undoes

theorem written_toJson (db : Database) : db.Written db.toJson := by
  have tables := listWritten_array Table.written_toJson db.tables
  have relationships := listWritten_array Relationship.written_toJson db.relationships
  have enums := listWritten_array Enumeration.written_toJson db.enums
  refine ⟨_, ⟨?_, ?_, ?_⟩, rfl⟩
  all_goals simp [members, Member.of, tables, relationships, enums]

theorem ofJson_of_written {db : Database} {text : String} (h : db.Written text) :
    Database.ofJson text = .ok db :=
  (undoes_read db text h).reads.whole

/-- A database is read back from its JSON text, and from each text that differs from it in the order
of members and in members left out that hold their default. -/
theorem jsonParser_written (path : String) (db : Database) :
    (db.Written db.toJson ∧ jsonParser ⟨path, db.toJson⟩ = .ok db) ∧
      ∀ text, db.Written text → jsonParser ⟨path, text⟩ = .ok db := by
  have read : ∀ text, db.Written text → jsonParser ⟨path, text⟩ = .ok db := by
    intro text h
    simp only [jsonParser, ofJson_of_written h, Except.mapError]
  exact ⟨⟨db.written_toJson, read _ db.written_toJson⟩, read⟩

/-- One table with one key column, whose type comes first. There are no relationships and enums. -/
theorem staff_defaults_left_out :
    let staff : Database := {
      tables := [{
        name := "staff"
        columns := [{ name := "id", declaredType := "int", primaryKey := true }]
        note := some "the \"core\" team" }] }
    let column := object [
      ("type", string "int"), ("primary_key", boolean true), ("name", string "id")]
    let table := object [
      ("note", string "the \"core\" team"), ("columns", array [column]), ("name", string "staff")]
    let text := object [("tables", array [table])]
    staff.Written text ∧ jsonParser ⟨"staff.json", text⟩ = .ok staff := by
  intro staff column table text
  have hc : ListWritten Column.Written [{ name := "id", declaredType := "int", primaryKey := true }]
      (array [column]) := by
    refine ⟨_, .cons ⟨_, ⟨?_, ?_, ?_⟩, rfl⟩ .nil, rfl⟩
    all_goals simp [Column.members, Member.of]
  have ht : ListWritten Table.Written staff.tables (array [table]) := by
    refine ⟨_, .cons ⟨_, ⟨?_, ?_, ?_⟩, rfl⟩ .nil, rfl⟩
    all_goals simp [Table.members, Member.of, hc]
  have h : staff.Written text := by
    refine ⟨_, ⟨?_, ?_, ?_⟩, rfl⟩
    all_goals simp [members, Member.of, ht, staff]
  exact ⟨h, (jsonParser_written "staff.json" staff).2 text h⟩

end Database

end EntityGen
