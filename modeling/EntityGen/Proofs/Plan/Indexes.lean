import Mathlib.Data.List.Nodup
import EntityGen.Proofs.Naming.JoinedTokens
import EntityGen.Proofs.Plan.Uniqueness

/-! # Planned indexes

One index is planned over each list of properties for which the table declares an index that is no
key or a unique column. The names that are generated for indexes are distinct, since a name tells
which properties it joins.
-/

namespace EntityGen.Table

variable {t : Table} {entity : String} {properties : List String} {x y : IndexPlan}

/-- An index over the properties is declared that is no key, or they are one unique column. -/
inductive DeclaresIndex (t : Table) (properties : List String) : Prop
  | index {i : Index} : i ∈ t.indexes → i.primaryKey = false → i.columns ≠ [] →
      i.columns.map Naming.humanize = properties → DeclaresIndex t properties
  | column {c : Column} : c ∈ t.columns → c.unique = true → c.primaryKey = false →
      [Naming.humanize c.name] = properties → DeclaresIndex t properties

/-- The name that the schema gives to the index over the properties. -/
def declaredName? (t : Table) (properties : List String) : Option String :=
  (t.firstIndex? properties).bind (·.name)

/-- The planned indexes are told apart by their properties, and those without a declared name by
the names that are generated for them. -/
structure UnambiguousIndexes (t : Table) (entity : String) : Prop where
  planned_iff : ∀ properties,
    (∃ x ∈ t.indexPlans entity, x.properties = properties) ↔ t.DeclaresIndex properties
  properties_ne_nil : ∀ x ∈ t.indexPlans entity, x.properties ≠ []
  nodup_properties : ((t.indexPlans entity).map (·.properties)).Nodup
  name_eq : ∀ x ∈ t.indexPlans entity,
    x.name = (t.declaredName? x.properties).getD (generatedIndexName entity x.properties)
  nodup_generatedNames : (((t.indexPlans entity).filter fun x =>
    (t.declaredName? x.properties).isNone).map (·.name)).Nodup

theorem exists_indexPlan_iff :
    (∃ x ∈ t.indexPlans entity, x.properties = properties) ↔ t.DeclaresIndex properties := by
  have hdeclared : (∃ x ∈ t.indexPlans entity, x.properties = properties) ↔
      ∃ x ∈ t.declaredIndexes entity, x.properties = properties := by
    have hall : (∀ x ∈ t.indexPlans entity, x.properties ≠ properties) ↔
        ∀ x ∈ t.declaredIndexes entity, x.properties ≠ properties :=
      forall_mem_indexPlans_iff (P := (· ≠ properties))
    simpa using hall.not
  rw [hdeclared]
  simp only [declaredIndexes, List.mem_append, List.mem_map, List.mem_filter, Bool.and_eq_true,
    Bool.not_eq_true', List.isEmpty_eq_false_iff]
  constructor
  · rintro ⟨_, ⟨i, ⟨hi, hk, hn⟩, rfl⟩ | ⟨c, ⟨hc, hu, hk⟩, rfl⟩, he⟩
    · exact .index hi hk hn he
    · exact .column hc hu hk he
  · rintro (⟨hi, hk, hn, he⟩ | ⟨hc, hu, hk, he⟩)
    · exact ⟨_, .inl ⟨_, ⟨hi, hk, hn⟩, rfl⟩, he⟩
    · exact ⟨_, .inr ⟨_, ⟨hc, hu, hk⟩, rfl⟩, he⟩

theorem DeclaresIndex.mem_tokenLists (h : t.DeclaresIndex properties) :
    properties ∈ Naming.TokenLists := by
  cases h with
  | index hi hk hn he => exact he ▸ Naming.map_humanize_mem_tokenLists _ hn
  | column hc hu hk he => exact he ▸ Naming.map_humanize_mem_tokenLists _ (List.cons_ne_nil _ [])

theorem properties_mem_tokenLists (hx : x ∈ t.indexPlans entity) :
    x.properties ∈ Naming.TokenLists :=
  (exists_indexPlan_iff.mp ⟨x, hx, rfl⟩).mem_tokenLists

theorem nodup_properties_distinctIndexes (kept : List (List String)) (xs : List IndexPlan) :
    ((distinctIndexes kept xs).map (·.properties)).Nodup := by
  induction xs generalizing kept with
  | nil => exact List.nodup_nil
  | cons x xs ih =>
    unfold distinctIndexes
    split
    · exact ih kept
    · refine List.nodup_cons.mpr ⟨fun hm => ?_, ih _⟩
      -- The properties of `x` are taken, so no later index over them is kept.
      obtain ⟨y, hy, he⟩ := List.mem_map.mp hm
      exact (mem_distinctIndexes_iff.mp hy).1 (he ▸ List.mem_cons_self)

theorem name_of_mem_indexPlans (hx : x ∈ t.indexPlans entity) :
    x.name = (t.declaredName? x.properties).getD (generatedIndexName entity x.properties) := by
  have hfirst := (mem_distinctIndexes_iff.mp hx).2
  rw [find?_declaredIndexes] at hfirst
  unfold declaredName?
  cases hi : t.firstIndex? x.properties with
  | some i =>
    rw [hi, Option.map_some, Option.some_or, Option.some.injEq] at hfirst
    rw [← hfirst]
    rfl
  | none =>
    rw [hi, Option.map_none, Option.none_or] at hfirst
    obtain ⟨c, -, hc⟩ := Option.map_eq_some_iff.mp hfirst
    rw [← hc]
    rfl

/-- A generated name tells the properties that it is made of. -/
theorem properties_eq_of_generatedIndexName_eq (hx : x ∈ t.indexPlans entity)
    (hy : y ∈ t.indexPlans entity)
    (h : generatedIndexName entity x.properties = generatedIndexName entity y.properties) :
    x.properties = y.properties := by
  refine Naming.injOn_intercalate_tokenLists (properties_mem_tokenLists hx)
    (properties_mem_tokenLists hy) ?_
  simpa [generatedIndexName] using h

theorem nodup_generatedNames (t : Table) (entity : String) :
    (((t.indexPlans entity).filter fun x => (t.declaredName? x.properties).isNone).map
      (·.name)).Nodup := by
  have hplanned : ((t.indexPlans entity).map (·.properties)).Nodup :=
    nodup_properties_distinctIndexes [] _
  refine List.Nodup.map_on ?_ (hplanned.of_map.filter _)
  intro x hx y hy h
  obtain ⟨hx, hxn⟩ := List.mem_filter.mp hx
  obtain ⟨hy, hyn⟩ := List.mem_filter.mp hy
  rw [name_of_mem_indexPlans hx, name_of_mem_indexPlans hy, Option.isNone_iff_eq_none.mp hxn,
    Option.isNone_iff_eq_none.mp hyn] at h
  exact List.inj_on_of_nodup_map hplanned hx hy (properties_eq_of_generatedIndexName_eq hx hy h)

/-- The properties tell the planned indexes of a table apart, and so do the names that are generated
for them: the tokens that a text joins can be read back. -/
theorem indexPlans_unambiguous :
    (∀ (t : Table) (entity : String), t.UnambiguousIndexes entity) ∧
      Set.InjOn "_".intercalate Naming.TokenLists := by
  refine ⟨fun t entity => ?_, Naming.injOn_intercalate_tokenLists⟩
  exact {
    planned_iff := fun _ => exists_indexPlan_iff
    properties_ne_nil := fun _ hx => (properties_mem_tokenLists hx).1
    nodup_properties := nodup_properties_distinctIndexes [] _
    name_eq := fun _ => name_of_mem_indexPlans
    nodup_generatedNames := nodup_generatedNames t entity }

def lockers : Table where
  name := "lockers"
  columns := [{ name := "_", declaredType := "text" },
    { name := "2fa", declaredType := "text", unique := true }]
  indexes := [{ columns := ["_", "2fa"] }, { columns := ["_", "2fa"], unique := true },
    { columns := ["_", "_"], name := some "blank" }]

theorem lockers_unambiguous :
    lockers.indexPlans "Locker" = [⟨["", "_2fa"], "IX_Locker___2fa", false⟩,
        ⟨["", ""], "blank", false⟩, ⟨["_2fa"], "IX_Locker__2fa", true⟩] ∧
      lockers.UnambiguousIndexes "Locker" ∧
      "_".intercalate ["", "_2fa"] ≠ "_".intercalate ["_2fa"] := by
  obtain ⟨htables, hjoined⟩ := indexPlans_unambiguous
  have hpair : ["", "_2fa"] ∈ Naming.TokenLists :=
    Naming.map_humanize_mem_tokenLists ["_", "2fa"] (by decide)
  have hsingle : ["_2fa"] ∈ Naming.TokenLists :=
    Naming.map_humanize_mem_tokenLists ["2fa"] (by decide)
  exact ⟨by decide +kernel, htables lockers "Locker", hjoined.ne hpair hsingle (by decide)⟩

end EntityGen.Table
