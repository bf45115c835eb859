import Mathlib.Data.List.Nodup
import Mathlib.Data.List.Perm.Basic
import EntityGen.Proofs.Plan.Acceptance

/-! # The two ends of a relationship

When table names differ, a relationship between existing tables gets exactly two navigations: one on
the entity of each of its tables. The planned entities of an accepted database are found by table
name and by entity name.
-/

namespace EntityGen

@[simp]
theorem Ends.at_left {α : Type} (e : Ends α) : e.at .left = e.left :=
  rfl

@[simp]
theorem Ends.at_right {α : Type} (e : Ends α) : e.at .right = e.right :=
  rfl

theorem find?_eq_some_of_nodup {α : Type} {key : α → String} {xs : List α} {x : α}
    (hn : (xs.map key).Nodup) (hx : x ∈ xs) : xs.find? (key · == key x) = some x := by
  cases hf : xs.find? (key · == key x) with
  | none => exact absurd (List.find?_eq_none.mp hf x hx) (by simp)
  | some y =>
    have hk : key y = key x := by simpa using List.find?_some hf
    rw [List.inj_on_of_nodup_map hn (List.mem_of_find?_eq_some hf) hx hk]

theorem flatMap_ite {α β : Type} (xs : List α) (q : α → Bool) (f : α → List β) :
    (xs.flatMap fun x => if q x then f x else []) = (xs.filter q).flatMap f := by
  induction xs with
  | nil => rfl
  | cons x xs ih => cases h : q x <;> simp [h, ih]

theorem zipIdx_filter_snd {α : Type} (xs : List α) (k i : Nat) :
    (xs.zipIdx k).filter (·.2 == k + i) = (xs[i]?.map (·, k + i)).toList := by
  induction xs generalizing k i with
  | nil => rfl
  | cons x xs ih =>
    cases i with
    | zero =>
      have hr : (xs.zipIdx (k + 1)).filter (·.2 == k) = [] := by
        simp only [List.filter_eq_nil_iff, beq_iff_eq]
        intro y hy
        have := List.le_snd_of_mem_zipIdx hy
        omega
      simp [hr]
    | succ i =>
      have h := ih (k + 1) i
      rw [Nat.add_right_comm] at h
      rw [List.zipIdx_cons, List.filter_cons_of_neg (by simp), List.getElem?_cons_succ]
      exact h

namespace Relationship

theorem classify_cases (r : Relationship) (owner : Table) :
    r.classify owner = oneToOne ∨ r.classify owner = manyToOne := by
  unfold classify
  split
  · exact .inl rfl
  · exact .inr rfl

def tableNames (r : Relationship) : Ends String := ⟨r.leftTable, r.rightTable⟩

/-- The navigation on one end of a relationship, where `owner` is the table on the left. -/
def navigation (inflector : Inflector) (settings : Settings) (owner : Table) (index : Nat)
    (r : Relationship) (s : Endpoint) : NavigationPlan :=
  let kind := r.classify owner
  let names := r.memberNames inflector settings.navigationSuffix kind
  { name := names.at s
    targetEntity := inflector.entityName (r.tableNames.at s.opposite)
    inverse := names.at s.opposite
    cardinality := kind.at s
    endpoint := s
    relationship := index
    foreignKey := r.leftColumns.map Naming.humanize
    principalKey := r.rightColumns.map Naming.humanize }

end Relationship

theorem PlannedEdge.navigationsOn_eq (position : Nat) (e : PlannedEdge) :
    e.navigationsOn position =
      (if position == e.tables.at .left then [e.navigation .left] else []) ++
        if position == e.tables.at .right then [e.navigation .right] else [] := by
  simp only [navigationsOn, List.filter_cons, List.filter_nil, beq_iff_eq, eq_comm (a := position)]
  split <;> split <;> rfl

/-- The navigations of all entities, each beside the entity that holds it. -/
def SchemaPlan.members (plan : SchemaPlan) : List (EntityPlan × NavigationPlan) :=
  plan.entities.flatMap fun e => e.navigations.map (e, ·)

theorem SchemaPlan.mem_members_iff {plan : SchemaPlan} {e : EntityPlan} {n : NavigationPlan} :
    (e, n) ∈ plan.members ↔ e ∈ plan.entities ∧ n ∈ e.navigations := by
  simp [members]

theorem Table.propertyPlan_name {t : Table} {c : Column} :
    (t.propertyPlan c).name = Naming.humanize c.name :=
  rfl

namespace Database

variable {inflector : Inflector} {settings : Settings} {db : Database} {target : Target}
  {plan : SchemaPlan} {r : Relationship} {i : Nat}

theorem DistinctNames.entities_nodup (h : db.DistinctNames inflector settings target) :
    ((db.entityPlans inflector settings).map (·.name)).Nodup := by
  have ht := h.types
  simp only [typeNames, List.cons_append, List.nodup_cons, List.nodup_append] at ht
  rw [entityPlans_names]
  exact ht.2.1

theorem DistinctNames.tables_nodup (h : db.DistinctNames inflector settings target) :
    (db.tables.map (·.name)).Nodup := by
  have hm := h.entities_nodup
  rw [entityPlans_names, ← Function.comp_def inflector.entityName, ← List.map_map] at hm
  exact hm.of_map

theorem table?_eq_some_iff {name : String} {t : Table} :
    db.table? name = some t ↔ ∃ k, db.position? name = some k ∧ db.tables[k]? = some t := by
  simp only [table?, position?, List.find?_eq_some_iff_getElem,
    List.findIdx?_eq_some_iff_getElem, List.getElem?_eq_some_iff]
  constructor
  · rintro ⟨hn, k, hk, rfl, hb⟩
    exact ⟨k, ⟨hk, hn, by simpa using hb⟩, hk, rfl⟩
  · rintro ⟨k, ⟨hk, hn, hb⟩, _, rfl⟩
    exact ⟨hn, k, hk, rfl, by simpa using hb⟩

def entityAt (inflector : Inflector) (settings : Settings) (db : Database) (t : Table × Nat) :
    EntityPlan :=
  { t.1.entityPlan inflector with
    navigations := (db.plannedEdges inflector settings).flatMap (·.navigationsOn t.2) }

theorem entityPlans_eq :
    db.entityPlans inflector settings = db.tables.zipIdx.map (db.entityAt inflector settings) :=
  rfl

theorem entityAt_mem {k : Nat} {t : Table} (h : db.tables[k]? = some t) :
    db.entityAt inflector settings (t, k) ∈ db.entityPlans inflector settings :=
  List.mem_map_of_mem (List.mem_zipIdx_iff_getElem?.mpr h)

theorem exists_entity_of_table (inflector : Inflector) (settings : Settings) {t : Table}
    (h : t ∈ db.tables) : ∃ e ∈ db.entityPlans inflector settings, e.table = t := by
  obtain ⟨k, hk⟩ := List.mem_iff_getElem?.mp h
  exact ⟨_, entityAt_mem hk, rfl⟩

/-- But for its navigations, an entity is the plan of its table alone. -/
theorem table_of_mem_entityPlans {e : EntityPlan} (h : e ∈ db.entityPlans inflector settings) :
    e.table ∈ db.tables ∧ { e with navigations := [] } = e.table.entityPlan inflector := by
  rw [entityPlans_eq, List.mem_map] at h
  obtain ⟨⟨t, k⟩, ht, rfl⟩ := h
  exact ⟨List.fst_mem_of_mem_zipIdx ht, rfl⟩

theorem name_of_mem_entityPlans {e : EntityPlan} (h : e ∈ db.entityPlans inflector settings) :
    e.name = inflector.entityName e.table.name :=
  congrArg EntityPlan.name (table_of_mem_entityPlans h).2

theorem setName_of_mem_entityPlans {e : EntityPlan} (h : e ∈ db.entityPlans inflector settings) :
    e.setName = inflector.plural e.name := by
  rw [name_of_mem_entityPlans h]
  exact congrArg EntityPlan.setName (table_of_mem_entityPlans h).2

theorem properties_of_mem_entityPlans {e : EntityPlan}
    (h : e ∈ db.entityPlans inflector settings) :
    e.properties = e.table.columns.map e.table.propertyPlan :=
  congrArg EntityPlan.properties (table_of_mem_entityPlans h).2

/-- The edge of a relationship between tables at known positions. -/
theorem plannedEdge?_eq_some (inflector : Inflector) (settings : Settings) (i : Nat) {k l : Nat}
    {owner : Table} (hk : db.position? r.leftTable = some k)
    (hl : db.position? r.rightTable = some l) (ho : db.tables[k]? = some owner) :
    ∃ e, db.plannedEdge? inflector settings r i = some e ∧ e.tables = ⟨k, l⟩ ∧
      e.navigation = r.navigation inflector settings owner i := by
  have he : db.plannedEdge? inflector settings r i = some
      { index := i, relationship := r, tables := ⟨k, l⟩,
        entities := ⟨inflector.entityName r.leftTable, inflector.entityName r.rightTable⟩,
        kind := r.classify owner,
        names := r.memberNames inflector settings.navigationSuffix (r.classify owner) } := by
    simp [plannedEdge?, hk, hl, ho]
  refine ⟨_, he, rfl, ?_⟩
  funext s
  cases s <;> rfl

theorem plannedEdge?_index {e : PlannedEdge}
    (h : db.plannedEdge? inflector settings r i = some e) : e.index = i := by
  simp only [plannedEdge?, bind, Option.bind_eq_some_iff, pure, Option.some.injEq] at h
  obtain ⟨_, _, _, _, _, _, rfl⟩ := h
  rfl

theorem plannedEdges_filter (inflector : Inflector) (settings : Settings)
    (hr : db.relationships[i]? = some r) :
    (db.plannedEdges inflector settings).filter (·.index == i) =
      (db.plannedEdge? inflector settings r i).toList := by
  have hi : ∀ x : Relationship × Nat,
      (db.plannedEdge? inflector settings x.1 x.2).filter (·.index == i) =
        if x.2 == i then db.plannedEdge? inflector settings x.1 x.2 else none := by
    intro x
    cases he : db.plannedEdge? inflector settings x.1 x.2 with
    | none => simp
    | some e => simp [Option.filter, plannedEdge?_index he]
  have hz := zipIdx_filter_snd db.relationships 0 i
  simp only [Nat.zero_add, hr, Option.map_some, Option.toList_some] at hz
  rw [plannedEdges, List.filter_filterMap]
  simp only [hi]
  rw [← List.filterMap_filter, hz]
  cases h : db.plannedEdge? inflector settings r i <;> simp [h]

theorem entityAt_navigations_filter {t : Table × Nat} {e : PlannedEdge}
    (hr : db.relationships[i]? = some r)
    (he : db.plannedEdge? inflector settings r i = some e) :
    (db.entityAt inflector settings t).navigations.filter (·.relationship == i) =
      e.navigationsOn t.2 := by
  have hn : ∀ d : PlannedEdge, (d.navigationsOn t.2).filter (·.relationship == i) =
      if d.index == i then d.navigationsOn t.2 else [] := by
    intro d
    by_cases hi : d.index = i <;>
      simp [PlannedEdge.navigationsOn, PlannedEdge.navigation, List.filter_map, Function.comp_def,
        hi]
  have hf := plannedEdges_filter inflector settings hr
  rw [he, Option.toList_some] at hf
  simp only [entityAt, List.filter_flatMap, hn]
  rw [flatMap_ite, hf, List.flatMap_singleton]

/-- A relationship between tables at known positions gives each of them one navigation. -/
theorem members_filter_perm {k l : Nat} {t u : Table} (hr : db.relationships[i]? = some r)
    (hk : db.position? r.leftTable = some k) (hl : db.position? r.rightTable = some l)
    (ht : db.tables[k]? = some t) (hu : db.tables[l]? = some u) :
    (SchemaPlan.members ⟨db, db.entityPlans inflector settings⟩ |>.filter
      (·.2.relationship == i)).Perm
      [(db.entityAt inflector settings (t, k), r.navigation inflector settings t i .left),
        (db.entityAt inflector settings (u, l), r.navigation inflector settings t i .right)] := by
  obtain ⟨e, he, hp, hv⟩ := plannedEdge?_eq_some inflector settings i hk hl ht
  let entity := db.entityAt inflector settings
  -- The navigations on one end stand on the table at its position and nowhere else.
  have onEnd : ∀ (s : Endpoint) (x : Table × Nat), e.tables.at s = x.2 →
      db.tables[x.2]? = some x.1 →
      (db.tables.zipIdx.flatMap fun y => if y.2 == e.tables.at s then [(entity y, e.navigation s)]
        else []) = [(entity x, e.navigation s)] := by
    intro s x hs hx
    have hz := zipIdx_filter_snd db.tables 0 x.2
    simp only [Nat.zero_add, hx, Option.map_some, Option.toList_some] at hz
    rw [flatMap_ite db.tables.zipIdx (·.2 == e.tables.at s), hs, hz]
    rfl
  have hm : (SchemaPlan.members ⟨db, db.entityPlans inflector settings⟩).filter
        (·.2.relationship == i) =
      db.tables.zipIdx.flatMap fun y =>
        (if y.2 == e.tables.at .left then [(entity y, e.navigation .left)] else []) ++
          if y.2 == e.tables.at .right then [(entity y, e.navigation .right)] else [] := by
    simp only [SchemaPlan.members, entityPlans_eq, List.flatMap_map, List.filter_flatMap,
      List.filter_map, Function.comp_def]
    congr 1
    funext y
    rw [entityAt_navigations_filter hr he, PlannedEdge.navigationsOn_eq, List.map_append]
    congr 1 <;> split <;> rfl
  rw [hm]
  refine (List.flatMap_append_perm _ _ _).symm.trans ?_
  rw [onEnd .left (t, k) (by rw [hp]; rfl) ht, onEnd .right (u, l) (by rw [hp]; rfl) hu, hv]
  exact .refl _

/-- The entities of the two tables of a relationship, and their navigations to each other. -/
structure Joins (inflector : Inflector) (settings : Settings) (plan : SchemaPlan) (i : Nat)
    (r : Relationship) (l p : EntityPlan) : Prop where
  left_mem : l ∈ plan.entities
  right_mem : p ∈ plan.entities
  left_table : l.table.name = r.leftTable
  right_table : p.table.name = r.rightTable
  left_name : l.name = inflector.entityName r.leftTable
  right_name : p.name = inflector.entityName r.rightTable
  perm : (plan.members.filter (·.2.relationship == i)).Perm
    [(l, r.navigation inflector settings l.table i .left),
      (p, r.navigation inflector settings l.table i .right)]

theorem exists_joins (h : db.plan inflector settings target = .ok plan)
    (hr : db.relationships[i]? = some r) : ∃ l p, Joins inflector settings plan i r l p := by
  obtain ⟨hw, -, rfl⟩ := plan_eq_ok_iff.mp h
  have hwr := hw r (List.mem_of_getElem? hr)
  obtain ⟨t, ht, -⟩ := hwr.left
  obtain ⟨u, hu, -⟩ := hwr.right
  have hnt : t.name = r.leftTable := by simpa using List.find?_some ht
  have hnu : u.name = r.rightTable := by simpa using List.find?_some hu
  obtain ⟨k, hk, hkt⟩ := table?_eq_some_iff.mp ht
  obtain ⟨l, hl, hlu⟩ := table?_eq_some_iff.mp hu
  exact ⟨_, _, entityAt_mem hkt, entityAt_mem hlu, hnt, hnu, congrArg inflector.entityName hnt,
    congrArg inflector.entityName hnu, members_filter_perm hr hk hl hkt hlu⟩

namespace Joins

variable {l p : EntityPlan} (j : Joins inflector settings plan i r l p)
include j

theorem left_navigation : r.navigation inflector settings l.table i .left ∈ l.navigations := by
  have hm := j.perm.mem_iff.mpr List.mem_cons_self
  exact (SchemaPlan.mem_members_iff.mp (List.mem_filter.mp hm).1).2

theorem right_navigation : r.navigation inflector settings l.table i .right ∈ p.navigations := by
  have hm := j.perm.mem_iff.mpr (List.mem_cons_of_mem _ List.mem_cons_self)
  exact (SchemaPlan.mem_members_iff.mp (List.mem_filter.mp hm).1).2

end Joins

theorem table_name_inj (hd : db.DistinctNames inflector settings target) {e f : EntityPlan}
    (he : e ∈ db.entityPlans inflector settings) (hf : f ∈ db.entityPlans inflector settings)
    (h : e.table.name = f.table.name) : e = f := by
  have hn : e.name = f.name := by rw [name_of_mem_entityPlans he, name_of_mem_entityPlans hf, h]
  exact List.inj_on_of_nodup_map hd.entities_nodup he hf hn

theorem exists_property (hd : db.DistinctNames inflector settings target) {e : EntityPlan}
    (he : e ∈ db.entityPlans inflector settings) {columns : List String}
    (hc : db.HasColumns e.table.name columns) {name : String}
    (hm : name ∈ columns.map Naming.humanize) : ∃ q ∈ e.properties, q.name = name := by
  obtain ⟨c, hcm, rfl⟩ := List.mem_map.mp hm
  obtain ⟨t, ht, hcols⟩ := hc
  have hmem := (table_of_mem_entityPlans he).1
  have hfind : db.table? e.table.name = some e.table := find?_eq_some_of_nodup hd.tables_nodup hmem
  obtain rfl : e.table = t := Option.some.inj (hfind.symm.trans ht)
  obtain ⟨column, hcolumn, rfl⟩ := hcols c hcm
  have hp := properties_of_mem_entityPlans he
  exact ⟨e.table.propertyPlan column, hp ▸ List.mem_map_of_mem hcolumn, rfl⟩

end Database

end EntityGen
