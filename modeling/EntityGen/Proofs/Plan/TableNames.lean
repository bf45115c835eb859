import EntityGen.Proofs.Plan.Edges

/-! # Navigations by table names

When table names differ, what a relationship gives to an entity depends on the name of its table and
on the table that owns the foreign key, and not on the positions of tables.
-/

namespace EntityGen

def NavigationPlan.relabel (place : Nat → Nat) (n : NavigationPlan) : NavigationPlan :=
  { n with relationship := place n.relationship }

namespace Relationship

variable {inflector : Inflector} {settings : Settings} {owner? : Option Table} {table : String}
  {r : Relationship} {i : Nat}

/-- The navigations that a relationship gives to the table named `table`, the left one first.
`owner?` is the table on its left, if that exists. -/
def navigationsAt (inflector : Inflector) (settings : Settings) (owner? : Option Table)
    (table : String) (r : Relationship) (index : Nat) : List NavigationPlan :=
  match owner? with
  | none => []
  | some owner =>
    ([Endpoint.left, .right].filter fun s => r.tableNames.at s == table).map
      (r.navigation inflector settings owner index)

theorem map_relabel_navigationsAt (place : Nat → Nat) :
    (r.navigationsAt inflector settings owner? table i).map (·.relabel place) =
      r.navigationsAt inflector settings owner? table (place i) := by
  cases owner? with
  | none => rfl
  | some owner =>
    unfold navigationsAt
    rw [List.map_map]
    rfl

theorem map_name_navigationsAt (j : Nat) :
    (r.navigationsAt inflector settings owner? table i).map (·.name) =
      (r.navigationsAt inflector settings owner? table j).map (·.name) := by
  rw [← map_relabel_navigationsAt (i := i) fun _ => j, List.map_map]
  rfl

theorem relationship_of_mem_navigationsAt {n : NavigationPlan}
    (h : n ∈ r.navigationsAt inflector settings owner? table i) : n.relationship = i := by
  cases owner? with
  | none => exact absurd h List.not_mem_nil
  | some owner =>
    obtain ⟨s, -, rfl⟩ := List.mem_map.mp h
    rfl

/-- Whether a relationship is well formed depends on what the tables are that names stand for. -/
theorem WellFormed.of_table?_eq {db db' : Database} (h : db'.table? = db.table?)
    (hw : r.WellFormed db) : r.WellFormed db' := by
  obtain ⟨hn, hp, hl, hr⟩ := hw
  unfold Database.HasColumns at hl hr
  rw [← h] at hl hr
  exact ⟨hn, hp, hl, hr⟩

end Relationship

namespace Database

variable {inflector : Inflector} {settings : Settings} {db : Database} {k : Nat} {t : Table}

theorem table?_eq_some_of_nodup (hn : (db.tables.map (·.name)).Nodup) (ht : t ∈ db.tables) :
    db.table? t.name = some t :=
  find?_eq_some_of_nodup hn ht

theorem table?_eq_some_iff_of_nodup (hn : (db.tables.map (·.name)).Nodup) {name : String} :
    db.table? name = some t ↔ t ∈ db.tables ∧ t.name = name := by
  constructor
  · intro h
    exact ⟨List.mem_of_find?_eq_some h, by simpa using List.find?_some h⟩
  · rintro ⟨ht, rfl⟩
    exact table?_eq_some_of_nodup hn ht

theorem position?_eq_some_iff (hn : (db.tables.map (·.name)).Nodup) (hk : db.tables[k]? = some t)
    {name : String} : db.position? name = some k ↔ name = t.name := by
  constructor
  · intro h
    have hf : db.table? name = some t := table?_eq_some_iff.mpr ⟨k, h, hk⟩
    exact ((table?_eq_some_iff_of_nodup hn).mp hf).2.symm
  · rintro rfl
    have hf := table?_eq_some_of_nodup hn (List.mem_of_getElem? hk)
    obtain ⟨j, hj, hjt⟩ := table?_eq_some_iff.mp hf
    have hlt : j < db.tables.length := (List.getElem?_eq_some_iff.mp hjt).1
    rw [hj, (List.getElem?_inj hlt hn.of_map).mp (hjt.trans hk.symm)]

theorem position_beq (hn : (db.tables.map (·.name)).Nodup) (hk : db.tables[k]? = some t)
    {name : String} {j : Nat} (hj : db.position? name = some j) : (j == k) = (name == t.name) := by
  have h : db.position? name = some k ↔ name = t.name := position?_eq_some_iff hn hk
  rw [hj, Option.some.injEq] at h
  exact Bool.eq_iff_iff.mpr (by simpa using h)

/-- A relationship between existing tables gives the table at a position what it gives its name. -/
theorem navigationsOn_plannedEdge? (inflector : Inflector) (settings : Settings)
    (hn : (db.tables.map (·.name)).Nodup) (hk : db.tables[k]? = some t) {r : Relationship}
    (hw : r.WellFormed db) (i : Nat) :
    ((db.plannedEdge? inflector settings r i).toList.flatMap fun e => e.navigationsOn k) =
      r.navigationsAt inflector settings (db.table? r.leftTable) t.name i := by
  obtain ⟨owner, ho, -⟩ := hw.left
  obtain ⟨other, hp, -⟩ := hw.right
  obtain ⟨j, hj, hjo⟩ := table?_eq_some_iff.mp ho
  obtain ⟨l, hl, -⟩ := table?_eq_some_iff.mp hp
  obtain ⟨e, he, het, hen⟩ := plannedEdge?_eq_some inflector settings i hj hl hjo
  have hs : ∀ s, (e.tables.at s == k) = (r.tableNames.at s == t.name) := by
    intro s
    rw [het]
    cases s with
    | left => exact position_beq hn hk hj
    | right => exact position_beq hn hk hl
  simp only [he, Option.toList_some, List.flatMap_singleton, PlannedEdge.navigationsOn, hs, hen,
    Relationship.navigationsAt, ho]

theorem navigations_entityAt (inflector : Inflector) (settings : Settings) (db : Database)
    (hn : (db.tables.map (·.name)).Nodup) (hw : ∀ r ∈ db.relationships, r.WellFormed db)
    (hk : db.tables[k]? = some t) :
    (db.entityAt inflector settings (t, k)).navigations = db.relationships.zipIdx.flatMap fun r =>
      r.1.navigationsAt inflector settings (db.table? r.1.leftTable) t.name r.2 := by
  have hr : ∀ r ∈ db.relationships.zipIdx,
      ((db.plannedEdge? inflector settings r.1 r.2).toList.flatMap fun e => e.navigationsOn k) =
        r.1.navigationsAt inflector settings (db.table? r.1.leftTable) t.name r.2 := fun r hr =>
    navigationsOn_plannedEdge? inflector settings hn hk (hw r.1 (List.fst_mem_of_mem_zipIdx hr)) r.2
  rw [← List.flatMap_congr hr, ← List.flatMap_assoc, ← List.filterMap_eq_flatMap_toList]
  rfl

end Database

end EntityGen
