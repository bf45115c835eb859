import EntityGen.Proofs.Code.Wiring
import EntityGen.Proofs.Plan.Uniqueness

/-! # Properties that keys and indexes mention

Planning does not compare the columns of an index with those of its table. The key and the indexes
of an entity mention only members of its class exactly when every index that is planned lists
columns with the property names of declared ones.
-/

namespace EntityGen

theorem Code.declaresScalars_iff {settings : Settings} {e : EntityPlan} {names : List String} :
    DeclaresScalars settings e names ↔ names ⊆ e.properties.map (·.name) := by
  constructor
  · intro h name hn
    obtain ⟨q, hq, rfl, -⟩ := h name hn
    exact List.mem_map_of_mem hq
  · intro h name hn
    obtain ⟨q, hq, rfl⟩ := List.mem_map.mp (h hn)
    exact ⟨q, hq, rfl, passage_scalarLine hq⟩

structure EntityPlan.MentionsMembers (settings : Settings) (e : EntityPlan) : Prop where
  key : ∀ key ∈ e.key, Code.DeclaresScalars settings e key.properties
  indexes : ∀ x ∈ e.indexes, Code.DeclaresScalars settings e x.properties

namespace Table

variable {t : Table} {entity : String} {names : List String}

def keyIndex? (t : Table) : Option Index :=
  t.indexes.find? fun i => i.primaryKey && !i.columns.isEmpty

/-- The indexes that are planned: the one for the key, and those that are no keys. -/
def plannedIndexes (t : Table) : List Index :=
  t.keyIndex?.toList ++ t.indexes.filter fun i => !i.primaryKey

def propertyNames (t : Table) : List String :=
  t.columns.map fun c => Naming.humanize c.name

theorem mem_propertyNames {c : Column} (h : c ∈ t.columns) :
    Naming.humanize c.name ∈ t.propertyNames :=
  List.mem_map_of_mem h

theorem flaggedKey?_subset {key : PrimaryKey} (h : t.flaggedKey? = some key) :
    key.columns.map Naming.humanize ⊆ t.propertyNames := by
  unfold flaggedKey? at h
  split at h
  · cases h
  · next hn =>
    obtain rfl := Option.some.inj h
    intro name hm
    obtain ⟨c, hc, rfl⟩ := List.mem_map.mp hm
    obtain ⟨d, hd, rfl⟩ := List.mem_map.mp hc
    exact mem_propertyNames (List.mem_filter.mp hd).1

theorem primaryKey?_of_keyIndex? {i : Index} (h : t.keyIndex? = some i) :
    t.primaryKey? = some ⟨i.columns, i.name⟩ := by
  unfold keyIndex? at h
  rw [primaryKey?, h]

theorem primaryKey?_of_keyIndex?_eq_none (h : t.keyIndex? = none) :
    t.primaryKey? = t.flaggedKey? := by
  unfold keyIndex? at h
  rw [primaryKey?, h]

theorem keyPlan?_subset_iff :
    (∀ key ∈ t.keyPlan?, key.properties ⊆ t.propertyNames) ↔
      ∀ i, t.keyIndex? = some i → i.columns.map Naming.humanize ⊆ t.propertyNames := by
  simp only [keyPlan?, Option.mem_def, Option.map_eq_some_iff]
  cases hk : t.keyIndex? with
  | some i => simp [primaryKey?_of_keyIndex? hk]
  | none =>
    rw [primaryKey?_of_keyIndex?_eq_none hk]
    simp only [reduceCtorEq, false_implies, implies_true, iff_true]
    rintro _ ⟨key, hkey, rfl⟩
    exact flaggedKey?_subset hkey

theorem indexPlans_subset_iff :
    (∀ x ∈ t.indexPlans entity, x.properties ⊆ t.propertyNames) ↔
      ∀ i ∈ t.indexes, i.primaryKey = false →
        i.columns.map Naming.humanize ⊆ t.propertyNames := by
  refine (forall_mem_indexPlans_iff (P := fun s => s ⊆ t.propertyNames)).trans ?_
  simp only [declaredIndexes, List.mem_append, List.mem_map, List.mem_filter, Bool.and_eq_true,
    Bool.not_eq_true', List.isEmpty_eq_false_iff]
  constructor
  · intro h i hi hk
    by_cases hn : i.columns = []
    · simp [hn]
    · exact h _ (.inl ⟨i, ⟨hi, hk, hn⟩, rfl⟩)
  · rintro h _ (⟨i, ⟨hi, hk, -⟩, rfl⟩ | ⟨c, ⟨hc, -⟩, rfl⟩)
    · exact h i hi hk
    · exact List.cons_subset.mpr ⟨mem_propertyNames hc, List.nil_subset _⟩

end Table

namespace Database

variable {inflector : Inflector} {settings : Settings} {db : Database} {target : Target}
  {plan : SchemaPlan} {e : EntityPlan}

theorem properties_names_eq (he : e ∈ db.entityPlans inflector settings) :
    e.properties.map (·.name) = e.table.propertyNames := by
  rw [properties_of_mem_entityPlans he, List.map_map]
  rfl

theorem mentionsMembers_iff (h : db.plan inflector settings target = .ok plan)
    (he : e ∈ plan.entities) :
    e.MentionsMembers settings ↔ ∀ i ∈ e.table.plannedIndexes, ∀ c ∈ i.columns,
      ∃ d ∈ e.table.columns, Naming.humanize d.name = Naming.humanize c := by
  obtain ⟨-, -, rfl⟩ := plan_eq_ok_iff.mp h
  have hp := (table_of_mem_entityPlans he).2
  have hkey : e.key = e.table.keyPlan? := congrArg EntityPlan.key hp
  have hindexes : e.indexes = e.table.indexPlans (inflector.entityName e.table.name) :=
    congrArg EntityPlan.indexes hp
  have hscalars : ∀ names,
      Code.DeclaresScalars settings e names ↔ names ⊆ e.table.propertyNames := by
    intro names
    rw [Code.declaresScalars_iff, properties_names_eq he]
  have hm : e.MentionsMembers settings ↔
      (∀ key ∈ e.table.keyPlan?, key.properties ⊆ e.table.propertyNames) ∧
        ∀ x ∈ e.table.indexPlans (inflector.entityName e.table.name),
          x.properties ⊆ e.table.propertyNames := by
    simp only [← hkey, ← hindexes, ← hscalars]
    exact ⟨fun m => ⟨m.key, m.indexes⟩, fun m => ⟨m.1, m.2⟩⟩
  have hcolumns : ∀ i : Index, (∀ c ∈ i.columns, ∃ d ∈ e.table.columns,
      Naming.humanize d.name = Naming.humanize c) ↔
        i.columns.map Naming.humanize ⊆ e.table.propertyNames := by
    simp [List.subset_def, Table.propertyNames]
  rw [hm, Table.keyPlan?_subset_iff, Table.indexPlans_subset_iff]
  simp only [hcolumns, Table.plannedIndexes, List.mem_append, Option.mem_toList, List.mem_filter,
    Bool.not_eq_true', or_imp, forall_and, and_imp]

/-- The badges with an index over a declared column. -/
theorem staff_badges_mentionsMembers :
    ∃ plan, (staff [{ columns := ["employee_id"] }]).plan ({} : Settings).inflector {}
        staffTarget = .ok plan ∧ ∀ e ∈ plan.entities, e.MentionsMembers {} := by
  have h : (staff [{ columns := ["employee_id"] }]).plan ({} : Settings).inflector {}
      staffTarget = .ok ⟨_, _⟩ := rfl
  have hi : ∀ t ∈ (staff [{ columns := ["employee_id"] }]).tables, ∀ i ∈ t.plannedIndexes,
      ∀ c ∈ i.columns, ∃ d ∈ t.columns, Naming.humanize d.name = Naming.humanize c := by
    decide +kernel
  exact ⟨_, h, fun e he => (mentionsMembers_iff h he).mpr (hi _ (table_of_mem_entityPlans he).1)⟩

/-- An index over a column that the table does not have is planned, and no member answers to it. -/
theorem staff_badges_unknown_column :
    ∃ plan, (staff [{ columns := ["office"] }]).plan ({} : Settings).inflector {}
        staffTarget = .ok plan ∧
      ∃ e ∈ plan.entities, ∃ x ∈ e.indexes, ∃ name ∈ x.properties,
        ∀ p ∈ e.properties, p.name ≠ name :=
  ⟨_, rfl, by decide +kernel⟩

end Database

end EntityGen
