import EntityGen.Proofs.Plan.NameScope
import EntityGen.Proofs.Plan.WellFormed

/-! # What planning accepts

Planning accepts a database exactly when its relationships are well formed and the names in each
scope differ. Otherwise it reports every fault of a relationship or, where there is none, every
repeated claim of a name.
-/

namespace EntityGen

def EntityPlan.scopeNames (e : EntityPlan) : List String :=
  e.name :: e.properties.map (·.name) ++ e.navigations.map (·.name)

theorem EntityPlan.memberClaims_names (db : Database) (e : EntityPlan) :
    (e.memberClaims db).map (·.name) = e.scopeNames := by
  simp [memberClaims, scopeNames, Function.comp_def]

namespace Database

variable {inflector : Inflector} {settings : Settings} {db : Database} {target : Target}
  {plan : SchemaPlan}

def typeNames (inflector : Inflector) (db : Database) (target : Target) : List String :=
  target.className :: db.tables.map (fun t => inflector.entityName t.name) ++
    db.enums.map (·.name)

structure DistinctNames (inflector : Inflector) (settings : Settings) (db : Database)
    (target : Target) : Prop where
  types : (db.typeNames inflector target).Nodup
  members : ∀ e ∈ db.entityPlans inflector settings, e.scopeNames.Nodup

theorem entityPlans_names (inflector : Inflector) (settings : Settings) (db : Database) :
    (db.entityPlans inflector settings).map (·.name) =
      db.tables.map fun t => inflector.entityName t.name := by
  conv_rhs => rw [← List.zipIdx_map_fst 0 db.tables]
  simp only [entityPlans, List.map_map, Function.comp_def, Table.entityPlan]

theorem typeClaims_names :
    (target.typeClaims db (db.entityPlans inflector settings)).map (·.name) =
      db.typeNames inflector target := by
  have h := entityPlans_names inflector settings db
  simp only [Target.typeClaims, typeNames, List.map_cons, List.map_append, List.map_map,
    Function.comp_def, h]

theorem nameErrors_eq_nil_iff :
    db.nameErrors target (db.entityPlans inflector settings) = [] ↔
      db.DistinctNames inflector settings target := by
  simp only [nameErrors, List.append_eq_nil_iff, List.flatMap_eq_nil_iff,
    NameClaim.errors_eq_nil_iff, typeClaims_names, EntityPlan.memberClaims_names]
  exact ⟨fun ⟨ht, hm⟩ => ⟨ht, hm⟩, fun h => ⟨h.types, h.members⟩⟩

theorem plan_of_faults (h : ¬ ∀ r ∈ db.relationships, r.WellFormed db) :
    db.plan inflector settings target = .error db.relationshipErrors := by
  rw [← relationshipErrors_eq_nil_iff] at h
  simp [plan, h]

theorem plan_of_repeats (hw : ∀ r ∈ db.relationships, r.WellFormed db)
    (hd : ¬ db.DistinctNames inflector settings target) :
    db.plan inflector settings target =
      .error (db.nameErrors target (db.entityPlans inflector settings)) := by
  rw [← nameErrors_eq_nil_iff] at hd
  simp [plan, relationshipErrors_eq_nil_iff.mpr hw, hd]

theorem plan_of_distinct (hw : ∀ r ∈ db.relationships, r.WellFormed db)
    (hd : db.DistinctNames inflector settings target) :
    db.plan inflector settings target = .ok ⟨db, db.entityPlans inflector settings⟩ := by
  simp [plan, relationshipErrors_eq_nil_iff.mpr hw, nameErrors_eq_nil_iff.mpr hd]

theorem plan_eq_ok_iff :
    db.plan inflector settings target = .ok plan ↔
      (∀ r ∈ db.relationships, r.WellFormed db) ∧ db.DistinctNames inflector settings target ∧
        plan = ⟨db, db.entityPlans inflector settings⟩ := by
  by_cases hw : ∀ r ∈ db.relationships, r.WellFormed db
  · by_cases hd : db.DistinctNames inflector settings target
    · rw [plan_of_distinct hw hd, Except.ok.injEq, eq_comm]
      exact ⟨fun h => ⟨hw, hd, h⟩, fun h => h.2.2⟩
    · simp [plan_of_repeats hw hd, hd]
  · simp [plan_of_faults hw, hw]

/-- The errors for all repeated claims: of types first, then of members in the order of tables. -/
def repeatErrors (inflector : Inflector) (settings : Settings) (db : Database) (target : Target) :
    List GenerationError :=
  let entities := db.entityPlans inflector settings
  NameClaim.repeatErrors target.scope (target.typeClaims db entities) ++
    entities.flatMap fun e => NameClaim.repeatErrors s!"entity '{e.name}'" (e.memberClaims db)

theorem nameErrors_eq_repeatErrors :
    db.nameErrors target (db.entityPlans inflector settings) =
      db.repeatErrors inflector settings target := by
  simp only [nameErrors, repeatErrors, NameClaim.errors_eq_repeatErrors]

theorem plan_accepts_iff_and_reports (inflector : Inflector) (settings : Settings) (db : Database)
    (target : Target) :
    ((∃ plan, db.plan inflector settings target = .ok plan) ↔
      (∀ r ∈ db.relationships, r.WellFormed db) ∧ db.DistinctNames inflector settings target) ∧
    ((¬ ∀ r ∈ db.relationships, r.WellFormed db) →
      ∃ errors, db.plan inflector settings target = .error errors ∧
        List.Forall₂ (Relationship.Fault db)
          (db.relationships.filter fun r => ¬ r.WellFormed db) errors) ∧
    ((∀ r ∈ db.relationships, r.WellFormed db) → ¬ db.DistinctNames inflector settings target →
      db.plan inflector settings target = .error (db.repeatErrors inflector settings target)) := by
  refine ⟨?_, fun h => ⟨_, plan_of_faults h, relationshipErrors_faults⟩, fun hw hd => ?_⟩
  · simp only [plan_eq_ok_iff]
    exact ⟨fun ⟨_, hw, hd, _⟩ => ⟨hw, hd⟩, fun ⟨hw, hd⟩ => ⟨_, hw, hd, rfl⟩⟩
  · rw [plan_of_repeats hw hd, nameErrors_eq_repeatErrors]

/-- Employees with their managers, and a badge for each employee. -/
def staff (badgeIndexes : List Index) : Database where
  tables := [
    { name := "employees"
      columns := [{ name := "id", declaredType := "int", primaryKey := true },
        { name := "manager_id", declaredType := "int" }] },
    { name := "badges"
      columns := [{ name := "id", declaredType := "int", primaryKey := true },
        { name := "employee_id", declaredType := "int", unique := true }]
      indexes := badgeIndexes }]
  relationships := [
    { leftTable := "employees", leftColumns := ["manager_id"], rightTable := "employees",
      rightColumns := ["id"] },
    { leftTable := "badges", leftColumns := ["employee_id"], rightTable := "employees",
      rightColumns := ["id"] }]

def staffTarget : Target where
  className := "Staff"
  source := "staff.json"

theorem exists_staff_plan :
    ∃ plan, (staff []).plan ({} : Settings).inflector {} staffTarget = .ok plan := by
  have hw : ∀ r ∈ (staff []).relationships, r.WellFormed (staff []) := by decide +kernel
  have hd : (staff []).DistinctNames ({} : Settings).inflector {} staffTarget :=
    ⟨by decide +kernel, by decide +kernel⟩
  exact ⟨_, plan_of_distinct hw hd⟩

/-- One type name with three claims: the two later ones are reported beside the first. -/
theorem staff_with_badge_enums_reports :
    let db := { staff [] with enums := [{ name := "Badge" }, { name := "Badge" }] }
    let inflector := ({} : Settings).inflector
    (∀ r ∈ db.relationships, r.WellFormed db) ∧ ¬ db.DistinctNames inflector {} staffTarget ∧
      db.plan inflector {} staffTarget = .error [
        .nameClash "the global namespace" "Badge" "table 'badges'" "enum 'Badge'",
        .nameClash "the global namespace" "Badge" "table 'badges'" "enum 'Badge'"] := by
  intro db inflector
  have hw : ∀ r ∈ db.relationships, r.WellFormed db := by decide +kernel
  have hd : ¬ db.DistinctNames inflector {} staffTarget := fun h =>
    absurd h.types (by decide +kernel)
  refine ⟨hw, hd, ?_⟩
  rw [(plan_accepts_iff_and_reports inflector {} db staffTarget).2.2 hw hd]
  decide +kernel

end Database

end EntityGen
