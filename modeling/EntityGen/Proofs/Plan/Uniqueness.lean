import EntityGen.Proofs.Plan.Edges
import EntityGen.Proofs.Schema.UniqueSets

/-! # Unique column sets in the generated code

A relationship is one-to-one when its left columns contain any unique set of the table. The code of
the entity declares only some of these sets: an index that is not unique hides all later ones over
the same properties, and a set marked as a key counts only when it is the key of the table.
-/

namespace EntityGen

/-- The key or a unique index of the entity is contained in the properties. -/
def EntityPlan.DeclaresUnique (e : EntityPlan) (properties : List String) : Prop :=
  (∃ key ∈ e.key, key.properties ⊆ properties) ∨
    ∃ x ∈ e.indexes, x.unique = true ∧ x.properties ⊆ properties

instance (e : EntityPlan) (properties : List String) : Decidable (e.DeclaresUnique properties) :=
  inferInstanceAs (Decidable (_ ∨ _))

namespace Table

variable {t : Table} {entity : String} {properties : List String}

/-- The first index over the properties that is declared and no key. -/
def firstIndex? (t : Table) (properties : List String) : Option Index :=
  (t.indexes.filter fun i => !i.primaryKey && !i.columns.isEmpty).find? fun i =>
    i.columns.map Naming.humanize == properties

/-- What makes the properties a unique set of the generated code: they are the key, or the first
index over them is unique, or no index is over them and they are one unique column. -/
inductive EmitsUnique (t : Table) (properties : List String) : Prop
  | key {key : PrimaryKey} : t.primaryKey? = some key →
      key.columns.map Naming.humanize = properties → EmitsUnique t properties
  | index {i : Index} : t.firstIndex? properties = some i → i.unique = true →
      EmitsUnique t properties
  | column {c : Column} : t.firstIndex? properties = none → c ∈ t.columns → c.unique = true →
      c.primaryKey = false → [Naming.humanize c.name] = properties → EmitsUnique t properties

theorem mem_distinctIndexes_iff {kept : List (List String)} {xs : List IndexPlan}
    {x : IndexPlan} :
    x ∈ distinctIndexes kept xs ↔
      x.properties ∉ kept ∧ xs.find? (·.properties == x.properties) = some x := by
  induction xs generalizing kept with
  | nil => simp [distinctIndexes]
  | cons z xs ih =>
    by_cases hk : z.properties ∈ kept
    · have hn : x.properties ∉ kept → z.properties ≠ x.properties := fun h he => h (he ▸ hk)
      simp only [distinctIndexes, List.contains_eq_mem, hk, decide_true, if_true, ih]
      refine and_congr_right fun h => ?_
      rw [List.find?_cons_of_neg (by simpa using hn h)]
    · simp only [distinctIndexes, List.contains_eq_mem, hk, decide_false, Bool.false_eq_true,
        if_false, List.mem_cons, ih, not_or]
      by_cases he : z.properties = x.properties
      · rw [List.find?_cons_of_pos (by simpa using he), Option.some.injEq]
        have hx : x.properties ∉ kept := he ▸ hk
        simp [he, hx, eq_comm]
      · have hne : x ≠ z := fun h => he (h ▸ rfl)
        rw [List.find?_cons_of_neg (by simpa using he)]
        simp [hne, Ne.symm he]

/-- Leaving out repeated indexes leaves out no property list. -/
theorem forall_mem_indexPlans_iff {P : List String → Prop} :
    (∀ x ∈ t.indexPlans entity, P x.properties) ↔
      ∀ x ∈ t.declaredIndexes entity, P x.properties := by
  constructor
  · intro h x hx
    have hs : ((t.declaredIndexes entity).find? (·.properties == x.properties)).isSome :=
      List.find?_isSome.mpr ⟨x, hx, by simp⟩
    obtain ⟨y, hy⟩ := Option.isSome_iff_exists.mp hs
    have he : y.properties = x.properties := by simpa using List.find?_some hy
    rw [← he] at hy ⊢
    exact h y (mem_distinctIndexes_iff.mpr ⟨List.not_mem_nil, hy⟩)
  · intro h x hx
    exact h x (List.mem_of_find?_eq_some (mem_distinctIndexes_iff.mp hx).2)

theorem find?_declaredIndexes :
    (t.declaredIndexes entity).find? (·.properties == properties) =
      ((t.firstIndex? properties).map fun i => indexPlan entity i.columns i.unique i.name).or
        (((t.columns.filter fun c => c.unique && !c.primaryKey).find? fun c =>
          [Naming.humanize c.name] == properties).map fun c =>
            indexPlan entity [c.name] true none) := by
  simp only [declaredIndexes, List.find?_append, List.find?_map, firstIndex?]
  rfl

theorem exists_unique_indexPlan_iff :
    (∃ x ∈ t.indexPlans entity, x.unique = true ∧ x.properties = properties) ↔
      (∃ i, t.firstIndex? properties = some i ∧ i.unique = true) ∨
        t.firstIndex? properties = none ∧ ∃ c ∈ t.columns, c.unique = true ∧
          c.primaryKey = false ∧ [Naming.humanize c.name] = properties := by
  have hm : (∃ x ∈ t.indexPlans entity, x.unique = true ∧ x.properties = properties) ↔
      ∃ x, (t.declaredIndexes entity).find? (·.properties == properties) = some x ∧
        x.unique = true := by
    constructor
    · rintro ⟨x, hx, hu, rfl⟩
      exact ⟨x, (mem_distinctIndexes_iff.mp hx).2, hu⟩
    · rintro ⟨x, hx, hu⟩
      obtain rfl : x.properties = properties := by simpa using List.find?_some hx
      exact ⟨x, mem_distinctIndexes_iff.mpr ⟨List.not_mem_nil, hx⟩, hu, rfl⟩
  rw [hm, find?_declaredIndexes]
  cases hf : t.firstIndex? properties with
  | some i => simp [indexPlan]
  | none =>
    simp only [Option.map_none, Option.none_or, reduceCtorEq, false_and, exists_false, false_or,
      true_and]
    constructor
    · rintro ⟨x, hx, -⟩
      obtain ⟨c, hc, rfl⟩ := Option.map_eq_some_iff.mp hx
      have hmem := List.mem_of_find?_eq_some hc
      have hover := List.find?_some hc
      simp only [List.mem_filter, Bool.and_eq_true, Bool.not_eq_true'] at hmem
      exact ⟨c, hmem.1, hmem.2.1, hmem.2.2, by simpa using hover⟩
    · rintro ⟨c, hc, hu, hk, he⟩
      have hs : ((t.columns.filter fun c => c.unique && !c.primaryKey).find? fun c =>
          [Naming.humanize c.name] == properties).isSome :=
        List.find?_isSome.mpr ⟨c, by simp [hc, hu, hk], by simpa using he⟩
      obtain ⟨d, hd⟩ := Option.isSome_iff_exists.mp hs
      exact ⟨_, by rw [hd, Option.map_some], rfl⟩

end Table

/-- How the entity `l` on the left of the relationship at `i` and its navigation `n` see unique
sets: all sets of the table make the relationship one-to-one, but the entity declares only those
that the code emits. -/
structure SchemaPlan.Uniqueness (plan : SchemaPlan) (i : Nat) (r : Relationship) (l : EntityPlan)
    (n : NavigationPlan) : Prop where
  member : (l, n) ∈ plan.members
  left_table : l.table.name = r.leftTable
  relationship : n.relationship = i
  left_endpoint : n.endpoint = .left
  foreignKey : n.foreignKey = r.leftColumns.map Naming.humanize
  oneToOne_iff : n.cardinality = .oneToOne ↔
    ∃ s ∈ l.table.uniqueSets, s ≠ [] ∧ s ⊆ r.leftColumns
  declaresUnique_iff : l.DeclaresUnique n.foreignKey ↔
    ∃ s, l.table.EmitsUnique s ∧ s ⊆ n.foreignKey

namespace Database

variable {inflector : Inflector} {settings : Settings} {db : Database} {target : Target}
  {plan : SchemaPlan} {r : Relationship} {i : Nat}

theorem declaresUnique_iff {e : EntityPlan} (he : e ∈ db.entityPlans inflector settings)
    {properties : List String} :
    e.DeclaresUnique properties ↔ ∃ s, e.table.EmitsUnique s ∧ s ⊆ properties := by
  have hp := (table_of_mem_entityPlans he).2
  have hkey : e.key = e.table.keyPlan? := congrArg EntityPlan.key hp
  have hindexes : e.indexes = e.table.indexPlans (inflector.entityName e.table.name) :=
    congrArg EntityPlan.indexes hp
  simp only [EntityPlan.DeclaresUnique, hkey, hindexes, Table.keyPlan?, Option.mem_def,
    Option.map_eq_some_iff]
  constructor
  · rintro (⟨_, ⟨key, hk, rfl⟩, hs⟩ | ⟨x, hx, hu, hs⟩)
    · exact ⟨_, .key hk rfl, hs⟩
    · refine ⟨x.properties, ?_, hs⟩
      rcases Table.exists_unique_indexPlan_iff.mp ⟨x, hx, hu, rfl⟩ with
        ⟨i, hi, hiu⟩ | ⟨hn, c, hc, hcu, hck, hce⟩
      · exact .index hi hiu
      · exact .column hn hc hcu hck hce
  · rintro ⟨s, hs, hsub⟩
    have hx : (∃ x ∈ e.table.indexPlans (inflector.entityName e.table.name),
        x.unique = true ∧ x.properties = s) →
        ∃ x ∈ e.table.indexPlans (inflector.entityName e.table.name),
          x.unique = true ∧ x.properties ⊆ properties := by
      rintro ⟨x, hx, hu, rfl⟩
      exact ⟨x, hx, hu, hsub⟩
    cases hs with
    | key hk he => exact .inl ⟨_, ⟨_, hk, rfl⟩, he ▸ hsub⟩
    | index hi hu => exact .inr (hx (Table.exists_unique_indexPlan_iff.mpr (.inl ⟨_, hi, hu⟩)))
    | column hn hc hu hk he =>
      exact .inr (hx (Table.exists_unique_indexPlan_iff.mpr (.inr ⟨hn, _, hc, hu, hk, he⟩)))

theorem classify_left_eq_oneToOne_iff {owner : Table} :
    (r.classify owner).left = .oneToOne ↔ owner.isUnique r.leftColumns = true := by
  unfold Relationship.classify
  split
  · next h => simp [h, Relationship.oneToOne]
  · next h => simp [h, Relationship.manyToOne]

theorem exists_uniqueness (h : db.plan inflector settings target = .ok plan)
    (hr : db.relationships[i]? = some r) : ∃ l n, plan.Uniqueness i r l n := by
  obtain ⟨l, p, j⟩ := exists_joins h hr
  obtain ⟨-, -, rfl⟩ := plan_eq_ok_iff.mp h
  have hm := j.perm.mem_iff.mpr List.mem_cons_self
  exact ⟨l, r.navigation inflector settings l.table i .left, {
    member := (List.mem_filter.mp hm).1
    left_table := j.left_table
    relationship := rfl
    left_endpoint := rfl
    foreignKey := rfl
    oneToOne_iff := classify_left_eq_oneToOne_iff.trans Table.isUnique_iff
    declaresUnique_iff := declaresUnique_iff j.left_mem }⟩

/-- The badges of the employees. -/
theorem staff_badges_uniqueness :
    ∃ plan, (staff []).plan ({} : Settings).inflector {} staffTarget = .ok plan ∧
      ∃ r, (staff []).relationships[1]? = some r ∧ ∃ l n, plan.Uniqueness 1 r l n := by
  obtain ⟨plan, h⟩ := exists_staff_plan
  exact ⟨plan, h, _, rfl, exists_uniqueness h rfl⟩

/-- An index that is not unique hides a unique column from the code, but not from the
classification. -/
theorem staff_badges_hidden_unique :
    ∃ plan, (staff [{ columns := ["employee_id"] }]).plan ({} : Settings).inflector {}
        staffTarget = .ok plan ∧
      ∃ m ∈ plan.members, m.2.relationship = 1 ∧ m.2.endpoint = .left ∧
        m.2.cardinality = .oneToOne ∧ ¬ m.1.DeclaresUnique m.2.foreignKey :=
  ⟨_, rfl, by decide +kernel⟩

end Database

end EntityGen
