import Mathlib.Data.List.Forall2
import EntityGen.Plan

/-! # Well-formed relationships

A relationship is well formed when its columns can be paired and exist on their tables. Every other
relationship has exactly one fault, and the errors of a database are the faults in order.
-/

namespace EntityGen

def Table.HasColumn (t : Table) (name : String) : Prop :=
  ∃ c ∈ t.columns, c.name = name

theorem Table.column?_isNone_iff {t : Table} {name : String} :
    (t.column? name).isNone = true ↔ ¬ t.HasColumn name := by
  simp [column?, HasColumn]

/-- The table of this name exists and has all the columns. Of several tables with one name, the
first is meant. -/
def Database.HasColumns (db : Database) (table : String) (columns : List String) : Prop :=
  ∃ t, db.table? table = some t ∧ ∀ c ∈ columns, t.HasColumn c

namespace Relationship

variable {db : Database} {r : Relationship}

structure WellFormed (db : Database) (r : Relationship) : Prop where
  nonempty : r.leftColumns ≠ []
  paired : r.leftColumns.length = r.rightColumns.length
  left : db.HasColumns r.leftTable r.leftColumns
  right : db.HasColumns r.rightTable r.rightColumns

inductive Missing (db : Database) (table : String) (columns : List String) : String → Prop
  | table : db.table? table = none → Missing db table columns s!"table '{table}'"
  | column {t : Table} {c : String} {before after : List String} :
      db.table? table = some t → columns = before ++ c :: after →
      (∀ b ∈ before, t.HasColumn b) → ¬ t.HasColumn c →
      Missing db table columns s!"column '{table}.{c}'"

/-- The error that a relationship gets: the first of its conditions that fails. -/
inductive Fault (db : Database) (r : Relationship) : GenerationError → Prop
  | unpaired : r.leftColumns = [] ∨ r.leftColumns.length ≠ r.rightColumns.length →
      Fault db r (.unpairedColumns r.describe r.leftColumns.length r.rightColumns.length)
  | left {what : String} : r.leftColumns ≠ [] →
      r.leftColumns.length = r.rightColumns.length →
      Missing db r.leftTable r.leftColumns what → Fault db r (.unknownEndpoint r.describe what)
  | right {what : String} : r.leftColumns ≠ [] →
      r.leftColumns.length = r.rightColumns.length →
      db.HasColumns r.leftTable r.leftColumns →
      Missing db r.rightTable r.rightColumns what → Fault db r (.unknownEndpoint r.describe what)

theorem missing?_eq_none_iff {table : String} {columns : List String} :
    missing? db table columns = none ↔ db.HasColumns table columns := by
  unfold missing? Database.HasColumns
  cases h : db.table? table with
  | none => simp
  | some t =>
    simp only [Option.map_eq_none_iff, List.find?_eq_none, Table.column?_isNone_iff, not_not,
      Option.some.injEq, exists_eq_left']

theorem missing_of_missing? {table what : String} {columns : List String}
    (h : missing? db table columns = some what) : Missing db table columns what := by
  unfold missing? at h
  cases ht : db.table? table with
  | none =>
    simp only [ht, Option.some.injEq] at h
    exact h ▸ .table ht
  | some t =>
    simp only [ht, Option.map_eq_some_iff, List.find?_eq_some_iff_append] at h
    obtain ⟨c, ⟨hc, before, after, rfl, hb⟩, rfl⟩ := h
    refine .column ht rfl (fun b hm => ?_) (Table.column?_isNone_iff.mp hc)
    have hp := hb b hm
    rw [Bool.not_eq_true', ← Bool.not_eq_true, Table.column?_isNone_iff, not_not] at hp
    exact hp

theorem error?_of_unpaired
    (h : r.leftColumns = [] ∨ r.leftColumns.length ≠ r.rightColumns.length) :
    r.error? db =
      some (.unpairedColumns r.describe r.leftColumns.length r.rightColumns.length) := by
  unfold error?
  rw [if_pos (by simpa using h)]

theorem error?_of_paired (hn : r.leftColumns ≠ [])
    (hl : r.leftColumns.length = r.rightColumns.length) :
    r.error? db =
      ((missing? db r.leftTable r.leftColumns).or (missing? db r.rightTable r.rightColumns)).map
        (.unknownEndpoint r.describe) := by
  unfold error?
  rw [if_neg (by simp [← hl, hn])]

theorem error?_eq_none_iff : r.error? db = none ↔ r.WellFormed db := by
  by_cases hp : r.leftColumns = [] ∨ r.leftColumns.length ≠ r.rightColumns.length
  · have hn : ¬ r.WellFormed db := fun h => hp.elim h.nonempty (· h.paired)
    simp [error?_of_unpaired hp, hn]
  · obtain ⟨hn, hl⟩ := not_or.mp hp
    rw [not_not] at hl
    rw [error?_of_paired hn hl, Option.map_eq_none_iff, Option.or_eq_none_iff,
      missing?_eq_none_iff, missing?_eq_none_iff]
    exact ⟨fun ⟨h, h'⟩ => ⟨hn, hl, h, h'⟩, fun h => ⟨h.left, h.right⟩⟩

theorem fault_of_error? {e : GenerationError} (h : r.error? db = some e) : Fault db r e := by
  by_cases hp : r.leftColumns = [] ∨ r.leftColumns.length ≠ r.rightColumns.length
  · rw [error?_of_unpaired hp] at h
    exact Option.some.inj h ▸ .unpaired hp
  · obtain ⟨hn, hl⟩ := not_or.mp hp
    rw [not_not] at hl
    rw [error?_of_paired hn hl, Option.map_eq_some_iff] at h
    obtain ⟨what, h, rfl⟩ := h
    rw [Option.or_eq_some_iff, missing?_eq_none_iff] at h
    rcases h with h | ⟨hleft, h⟩
    · exact .left hn hl (missing_of_missing? h)
    · exact .right hn hl hleft (missing_of_missing? h)

instance (db : Database) (r : Relationship) : Decidable (r.WellFormed db) :=
  decidable_of_iff (r.error? db = none) error?_eq_none_iff

end Relationship

namespace Database

variable {db : Database}

theorem relationshipErrors_eq_nil_iff :
    db.relationshipErrors = [] ↔ ∀ r ∈ db.relationships, r.WellFormed db := by
  simp [relationshipErrors, List.filterMap_eq_nil_iff, Relationship.error?_eq_none_iff]

/-- One fault for each relationship that is not well formed, in order. -/
theorem relationshipErrors_faults :
    List.Forall₂ (Relationship.Fault db) (db.relationships.filter fun r => ¬ r.WellFormed db)
      db.relationshipErrors := by
  unfold relationshipErrors
  induction db.relationships with
  | nil => exact .nil
  | cons r rest ih =>
    cases h : r.error? db with
    | none =>
      have hw := Relationship.error?_eq_none_iff.mp h
      rw [List.filterMap_cons_none h, List.filter_cons_of_neg (by simpa using hw)]
      exact ih
    | some e =>
      have hw : ¬ r.WellFormed db := fun hw => by
        rw [Relationship.error?_eq_none_iff.mpr hw] at h
        cases h
      rw [List.filterMap_cons_some h, List.filter_cons_of_pos (by simpa using hw)]
      exact .cons (Relationship.fault_of_error? h) ih

end Database

end EntityGen
