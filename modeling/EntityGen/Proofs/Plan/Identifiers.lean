import EntityGen.Proofs.Naming.Identifier
import EntityGen.Proofs.Plan.Edges

/-! # Identifiers in a plan

Each name of a plan is an identifier exactly when each table and each column has a letter or digit
in its name. A name without one becomes the empty text, and planning does not refuse that.
-/

namespace EntityGen

open Naming Text

structure EntityPlan.NamedByIdentifiers (e : EntityPlan) : Prop where
  name : isIdentifier e.name.toList = true
  setName : isIdentifier e.setName.toList = true
  properties : ∀ p ∈ e.properties, isIdentifier p.name.toList = true
  navigations : ∀ n ∈ e.navigations, isIdentifier n.name.toList = true

def HasLetterOrDigit (s : String) : Prop :=
  ∃ c ∈ s.toList, c.isAlphanum = true

instance : DecidablePred HasLetterOrDigit :=
  fun s => List.decidableBEx _ s.toList

theorem Naming.isIdentifier_entityName_iff {table : String} (h : Ascii table.toList) :
    isIdentifier (Lexicon.english.inflector.entityName table).toList = true ↔
      HasLetterOrDigit table := by
  by_cases hl : HasLetterOrDigit table
  · exact iff_of_true (isIdentifier_singular ((isIdentifier_humanize_iff h).mpr hl)) hl
  · have hempty : Lexicon.english.inflector.singular "" = "" :=
      inflectLast_empty Lexicon.english.singularWord
    rw [Inflector.entityName, humanize_eq_empty h (by simpa [HasLetterOrDigit] using hl), hempty]
    exact iff_of_false (by decide) hl

namespace Relationship

variable {settings : Settings} {r : Relationship} {kind : Ends Cardinality} {suffix base : String}

theorem isIdentifier_memberName {c : Cardinality} (hs : ∀ c ∈ suffix.toList, isNameChar c = true)
    (h : isIdentifier base.toList = true) :
    isIdentifier (memberName Lexicon.english.inflector suffix base c).toList = true := by
  unfold memberName
  split
  · exact isIdentifier_plural h
  · rw [String.toList_append]
    exact isIdentifier_append h hs

theorem exists_column_of_qualifier? {inflector : Inflector} {referenced qualifier : String}
    (h : r.qualifier? inflector referenced = some qualifier) :
    ∃ column, r.leftColumns = [column] ∧ inflector.qualifier (humanize column) = qualifier := by
  unfold qualifier? at h
  split at h
  · next column hc =>
    dsimp only at h
    split at h
    · exact ⟨column, hc, Option.some.inj h⟩
    · cases h
  · cases h

/-- The parts that the names of members are built from are identifiers. -/
structure NameableEnds (r : Relationship) : Prop where
  left : isIdentifier (Lexicon.english.inflector.entityName r.leftTable).toList = true
  right : isIdentifier (Lexicon.english.inflector.entityName r.rightTable).toList = true
  columns : ∀ c ∈ r.leftColumns, isIdentifier (humanize c).toList = true

theorem NameableEnds.isIdentifier_baseNames (h : r.NameableEnds) (s : Endpoint) :
    isIdentifier ((r.baseNames Lexicon.english.inflector).at s).toList = true := by
  unfold baseNames
  dsimp only
  split
  · next qualifier hq =>
    obtain ⟨column, hc, rfl⟩ := exists_column_of_qualifier? hq
    have hi := isIdentifier_stripKeyEnding (h.columns column (by simp [hc]))
    cases s with
    | left => rwa [Ends.at_left]
    | right => rwa [Ends.at_right]
  · cases s with
    | left => simpa only [Ends.at_left] using h.right
    | right => simpa only [Ends.at_right] using h.left

theorem NameableEnds.isIdentifier_memberNames (h : r.NameableEnds)
    (hs : ∀ c ∈ suffix.toList, isNameChar c = true) (s : Endpoint) :
    isIdentifier ((r.memberNames Lexicon.english.inflector suffix kind).at s).toList = true := by
  have hl := h.isIdentifier_baseNames .left
  have hr := h.isIdentifier_baseNames .right
  have hi : isIdentifier
      ("Inverse" ++ (r.baseNames Lexicon.english.inflector).right).toList = true := by
    have hp : isIdentifier "Inverse".toList = true := by decide
    rw [String.toList_append]
    exact isIdentifier_append hp (isIdentifier_iff.mp hr).1
  unfold memberNames
  dsimp only
  split
  · cases s with
    | left => exact isIdentifier_memberName hs hl
    | right => exact isIdentifier_memberName hs hi
  · cases s with
    | left => exact isIdentifier_memberName hs hl
    | right => exact isIdentifier_memberName hs hr

end Relationship

namespace Database

variable {inflector : Inflector} {settings : Settings} {db : Database} {target : Target}
  {plan : SchemaPlan} {e : EntityPlan}

/-- A navigation has the name of one end of a relationship. -/
theorem exists_relationship_of_mem_navigations (he : e ∈ db.entityPlans inflector settings)
    {n : NavigationPlan} (hn : n ∈ e.navigations) :
    ∃ r ∈ db.relationships, ∃ kind s,
      n.name = (r.memberNames inflector settings.navigationSuffix kind).at s := by
  rw [entityPlans_eq, List.mem_map] at he
  obtain ⟨⟨t, k⟩, -, rfl⟩ := he
  obtain ⟨edge, hm, hn⟩ := List.mem_flatMap.mp hn
  obtain ⟨⟨r, i⟩, hr, hedge⟩ := List.mem_filterMap.mp hm
  obtain ⟨s, -, rfl⟩ := List.mem_map.mp hn
  simp only [plannedEdge?, bind, Option.bind_eq_some_iff, pure, Option.some.injEq] at hedge
  obtain ⟨_, _, _, _, owner, _, rfl⟩ := hedge
  exact ⟨r, List.fst_mem_of_mem_zipIdx hr, r.classify owner, s, rfl⟩

/-- A well-formed relationship joins tables of the database on their columns. -/
theorem nameableEnds {r : Relationship} (hw : r.WellFormed db)
    (ha : ∀ t ∈ db.tables, Ascii t.name.toList ∧ ∀ c ∈ t.columns, Ascii c.name.toList)
    (hl : ∀ t ∈ db.tables, HasLetterOrDigit t.name ∧ ∀ c ∈ t.columns, HasLetterOrDigit c.name) :
    r.NameableEnds := by
  have htable : ∀ {name t}, db.table? name = some t →
      isIdentifier (Lexicon.english.inflector.entityName name).toList = true := by
    intro name t ht
    have hm := List.mem_of_find?_eq_some ht
    obtain rfl : t.name = name := by simpa using List.find?_some ht
    exact (isIdentifier_entityName_iff (ha t hm).1).mpr (hl t hm).1
  obtain ⟨t, ht, hcolumns⟩ := hw.left
  obtain ⟨u, hu, -⟩ := hw.right
  refine ⟨htable ht, htable hu, fun c hc => ?_⟩
  obtain ⟨column, hm, rfl⟩ := hcolumns c hc
  have htm := List.mem_of_find?_eq_some ht
  exact (isIdentifier_humanize_iff ((ha t htm).2 column hm)).mpr ((hl t htm).2 column hm)

theorem namedByIdentifiers_iff (h : db.plan Lexicon.english.inflector settings target = .ok plan)
    (hs : ∀ c ∈ settings.navigationSuffix.toList, isNameChar c = true)
    (ha : ∀ t ∈ db.tables, Ascii t.name.toList ∧ ∀ c ∈ t.columns, Ascii c.name.toList) :
    (∀ e ∈ plan.entities, e.NamedByIdentifiers) ↔
      ∀ t ∈ db.tables, HasLetterOrDigit t.name ∧ ∀ c ∈ t.columns, HasLetterOrDigit c.name := by
  obtain ⟨hw, -, rfl⟩ := plan_eq_ok_iff.mp h
  constructor
  · intro hn t ht
    obtain ⟨e, he, rfl⟩ := exists_entity_of_table Lexicon.english.inflector settings ht
    obtain ⟨hname, -, hproperties, -⟩ := hn e he
    rw [name_of_mem_entityPlans he, isIdentifier_entityName_iff (ha _ ht).1] at hname
    refine ⟨hname, fun c hc => ?_⟩
    have hp : e.table.propertyPlan c ∈ e.properties :=
      properties_of_mem_entityPlans he ▸ List.mem_map_of_mem hc
    have hi := hproperties _ hp
    rwa [Table.propertyPlan_name, isIdentifier_humanize_iff ((ha _ ht).2 c hc)] at hi
  · intro hl e he
    have ht := (table_of_mem_entityPlans he).1
    have hname : isIdentifier e.name.toList = true := by
      rw [name_of_mem_entityPlans he, isIdentifier_entityName_iff (ha _ ht).1]
      exact (hl _ ht).1
    have hset : isIdentifier e.setName.toList = true := by
      rw [setName_of_mem_entityPlans he]
      exact isIdentifier_plural hname
    refine ⟨hname, hset, fun p hp => ?_, fun n hn => ?_⟩
    · rw [properties_of_mem_entityPlans he, List.mem_map] at hp
      obtain ⟨c, hc, rfl⟩ := hp
      rw [Table.propertyPlan_name, isIdentifier_humanize_iff ((ha _ ht).2 c hc)]
      exact (hl _ ht).2 c hc
    · obtain ⟨r, hr, kind, s, hname⟩ := exists_relationship_of_mem_navigations he hn
      rw [hname]
      exact (nameableEnds (hw r hr) ha hl).isIdentifier_memberNames hs s

theorem staff_namedByIdentifiers :
    ∃ plan, (staff []).plan Lexicon.english.inflector {} staffTarget = .ok plan ∧
      ∀ e ∈ plan.entities, e.NamedByIdentifiers := by
  obtain ⟨plan, h⟩ := exists_staff_plan
  refine ⟨plan, h, (namedByIdentifiers_iff h ?_ ?_).mpr ?_⟩
  · exact List.all_eq_true.mp (by decide +kernel)
  · decide +kernel
  · decide +kernel

/-- A table that is named by underscores alone gives a class without a name. -/
theorem underscores_unnamed :
    let db : Database := { tables := [
      { name := "__", columns := [{ name := "id", declaredType := "int", primaryKey := true }] }] }
    ∃ plan, db.plan Lexicon.english.inflector {} staffTarget = .ok plan ∧
      ∃ e ∈ plan.entities, isIdentifier e.name.toList = false :=
  ⟨_, rfl, by decide +kernel⟩

end Database

end EntityGen
