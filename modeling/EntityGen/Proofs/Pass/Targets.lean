import Mathlib.Data.List.Forall2
import EntityGen.Pass
import EntityGen.Proofs.Plan.Edges

/-! # Targets of one pass

A pass adds to its result what each target alone results in. A target that succeeds has one unit and
only warnings, one for each table without a key, and a target that fails has errors and no unit, so
a pass without errors has a unit for every target.
-/

namespace EntityGen

theorem GenerationError.severity_code (e : GenerationError) : e.code.severity = .error := by
  cases e <;> rfl

/-! ## Errors of the parts of a target -/

namespace Database

variable {inflector : Inflector} {settings : Settings} {db : Database} {target : Target}
  {errors : List GenerationError}

theorem plan_eq_error_cases (h : db.plan inflector settings target = .error errors) :
    (db.relationshipErrors ≠ [] ∧ errors = db.relationshipErrors) ∨
      (db.nameErrors target (db.entityPlans inflector settings) ≠ [] ∧
        errors = db.nameErrors target (db.entityPlans inflector settings)) := by
  unfold plan at h
  split at h
  · dsimp only at h
    split at h
    · cases h
    · next hn => exact .inr ⟨by simpa using hn, (Except.error.inj h).symm⟩
  · next hr => exact .inl ⟨by simpa using hr, (Except.error.inj h).symm⟩

/-- A database that is rejected has an error. -/
theorem errors_ne_nil_of_plan (h : db.plan inflector settings target = .error errors) :
    errors ≠ [] := by
  rcases plan_eq_error_cases h with ⟨hr, rfl⟩ | ⟨hn, rfl⟩
  · exact hr
  · exact hn

theorem location?_of_mem_nameErrors {entities : List EntityPlan} {e : GenerationError}
    (h : e ∈ db.nameErrors target entities) : e.location? = none := by
  have clash : ∀ scope claims, e ∈ NameClaim.errors scope claims → e.location? = none := by
    intro scope claims he
    obtain ⟨c, -, rfl⟩ := List.mem_map.mp he
    rfl
  rcases List.mem_append.mp h with ht | hm
  · exact clash _ _ ht
  · obtain ⟨entity, -, he⟩ := List.mem_flatMap.mp hm
    exact clash _ _ he

theorem location?_of_mem_relationshipErrors {e : GenerationError}
    (h : e ∈ db.relationshipErrors) : e.location? = none := by
  obtain ⟨r, -, he⟩ := List.mem_filterMap.mp h
  cases Relationship.fault_of_error? he with
  | unpaired => rfl
  | left => rfl
  | right => rfl

/-- Planning knows no places in the text of the schema. -/
theorem location?_of_plan (h : db.plan inflector settings target = .error errors)
    {e : GenerationError} (he : e ∈ errors) : e.location? = none := by
  rcases plan_eq_error_cases h with ⟨-, rfl⟩ | ⟨-, rfl⟩
  · exact location?_of_mem_relationshipErrors he
  · exact location?_of_mem_nameErrors he

end Database

/-- A resource on its own is taken when its path ends with the source. -/
theorem Target.resolve_singleton {t : Target} {resource : Resource}
    (h : resource.endsWith t.source = true) : t.resolve [resource] = .ok resource := by
  have hm : t.pathMatches [resource] = [resource] := by
    rw [pathMatches, List.filter_eq_self, List.forall_mem_singleton]
    exact h
  rw [resolve, candidates, hm]
  rfl

theorem Target.location?_of_resolve {t : Target} {resources : List Resource} {e : GenerationError}
    (h : t.resolve resources = .error e) : e.location? = none := by
  unfold resolve at h
  split at h
  · cases h
  · cases h
    rfl
  · cases h
    rfl

/-! ## One target -/

structure Diagnostic.IsKeylessWarning (table entity : String) (d : Diagnostic) : Prop where
  code : d.code = .keylessEntity
  severity : d.severity = .warning
  message : d.message =
    s!"table '{table}' has no primary key; entity '{entity}' is mapped as keyless"

namespace PassResult

/-- One unit and no error, but a warning for each table without a key in the order of the tables. -/
structure Succeeds (inflector : Inflector) (t : Target) (resource : Resource) (db : Database)
    (result : PassResult) : Prop where
  unit : ∃ unit, result.units = [unit] ∧ unit.target = t ∧ unit.sourcePath = resource.path
  no_error : ∀ d ∈ result.diagnostics, d.severity ≠ .error
  warnings : List.Forall₂
    (fun table d => d.IsKeylessWarning table.name (inflector.entityName table.name))
    (db.tables.filter (·.primaryKey?.isNone)) result.diagnostics

structure Fails (result : PassResult) : Prop where
  units : result.units = []
  reported : result.diagnostics ≠ []
  errors : ∀ d ∈ result.diagnostics, d.severity = .error

/-- Every diagnostic names the target and the resource that it resolves to, if there is one. -/
structure Attributed (resources : List Resource) (t : Target) (result : PassResult) : Prop where
  target : ∀ d ∈ result.diagnostics, d.target = some t.className
  path : ∀ d ∈ result.diagnostics,
    d.location.map (·.path) = (t.resolve resources).toOption.map (·.path)

end PassResult

def Outcome.result (t : Target) (outcome : Outcome) : PassResult where
  units := outcome.unit?.toList
  diagnostics := outcome.diagnostics t

/-- The steps of a target, up to the first one that fails. -/
inductive Ran (g : Generator) (parse : SchemaParser) (resources : List Resource) (t : Target) :
    Outcome → Prop
  | unresolved {error : GenerationError} : t.resolve resources = .error error →
      Ran g parse resources t (.unresolved error)
  | unreadable {resource : Resource} {failure : ParseFailure} :
      t.resolve resources = .ok resource → parse resource = .error failure →
      Ran g parse resources t (.unreadable resource failure)
  | rejected {resource : Resource} {db : Database} {errors : List GenerationError} :
      t.resolve resources = .ok resource → parse resource = .ok db →
      db.plan g.inflector g.settings t = .error errors →
      Ran g parse resources t (.rejected resource db errors)
  | generated {resource : Resource} {db : Database} {plan : SchemaPlan} :
      t.resolve resources = .ok resource → parse resource = .ok db →
      db.plan g.inflector g.settings t = .ok plan →
      Ran g parse resources t (.generated resource plan
        ⟨t, t.fileName, resource.path, Code.unit g.settings t plan⟩)

section Targets

variable {g : Generator} {parse : SchemaParser} {resources : List Resource} {t : Target}
  {outcome : Outcome}

theorem ran_runTarget (g : Generator) (parse : SchemaParser) (resources : List Resource)
    (t : Target) : Ran g parse resources t (g.runTarget parse resources t) := by
  unfold Generator.runTarget
  split
  · next hr => exact .unresolved hr
  · next hr =>
    split
    · next hp => exact .unreadable hr hp
    · next hp =>
      split
      · next he => exact .rejected hr hp he
      · next ho => exact .generated hr hp ho

theorem Outcome.fails (hu : outcome.unit? = none) (he : outcome.errors t ≠ []) :
    (outcome.result t).Fails := by
  have hd : (outcome.result t).diagnostics =
      (outcome.errors t).map (·.diagnostic t (outcome.resource?.map (·.path))) := by
    cases outcome with
    | generated => cases hu
    | _ => rfl
  refine ⟨by rw [result, hu, Option.toList_none], ?_, ?_⟩
  · rw [hd]
    exact fun h => he (List.map_eq_nil_iff.mp h)
  · rw [hd]
    intro d hm
    obtain ⟨e, -, rfl⟩ := List.mem_map.mp hm
    exact e.severity_code

/-- The entities without a key are those of the tables without a key. -/
theorem Database.forall₂_keyless (inflector : Inflector) (settings : Settings) (db : Database)
    (t : Target) (path : String) :
    List.Forall₂ (fun table d =>
        Diagnostic.IsKeylessWarning table.name (inflector.entityName table.name) d)
      (db.tables.filter (·.primaryKey?.isNone))
      ((SchemaPlan.keyless ⟨db, db.entityPlans inflector settings⟩).map
        (·.keylessWarning t path)) := by
  have ht : db.tables = (db.entityPlans inflector settings).map (·.table) := by
    conv_lhs => rw [← List.zipIdx_map_fst 0 db.tables]
    rw [entityPlans_eq, List.map_map]
    rfl
  have hk : ∀ e ∈ db.entityPlans inflector settings,
      e.table.primaryKey?.isNone = e.key.isNone := by
    intro e he
    have h : e.key = e.table.keyPlan? := congrArg EntityPlan.key (table_of_mem_entityPlans he).2
    rw [h, Table.keyPlan?, Option.isNone_map]
  have hf : db.tables.filter (·.primaryKey?.isNone) =
      ((db.entityPlans inflector settings).filter (·.key.isNone)).map (·.table) := by
    rw [ht, List.filter_map, ← List.filter_congr hk]
    rfl
  rw [hf, SchemaPlan.keyless, List.forall₂_map_left_iff, List.forall₂_map_right_iff,
    List.forall₂_same]
  intro e he
  have hn := name_of_mem_entityPlans (List.mem_of_mem_filter he)
  exact ⟨rfl, rfl, by rw [EntityPlan.keylessWarning, hn]⟩

theorem Ran.succeeds_or_fails (h : Ran g parse resources t outcome) :
    (∃ resource db, t.resolve resources = .ok resource ∧ parse resource = .ok db ∧
      (outcome.result t).Succeeds g.inflector t resource db) ∨ (outcome.result t).Fails := by
  cases h with
  | unresolved => exact .inr (Outcome.fails rfl (List.cons_ne_nil _ _))
  | unreadable => exact .inr (Outcome.fails rfl (List.cons_ne_nil _ _))
  | rejected _ _ he => exact .inr (Outcome.fails rfl (Database.errors_ne_nil_of_plan he))
  | generated hr hp ho =>
    obtain ⟨-, -, rfl⟩ := Database.plan_eq_ok_iff.mp ho
    refine .inl ⟨_, _, hr, hp, ⟨_, rfl, rfl, rfl⟩, fun d hm => ?_, Database.forall₂_keyless ..⟩
    obtain ⟨e, -, rfl⟩ := List.mem_map.mp hm
    exact Severity.noConfusion

/-- An error without a place of its own is placed in the resource at `path`. -/
theorem GenerationError.diagnostic_location {e : GenerationError} (h : e.location? = none)
    (path : Option String) : (e.diagnostic t path).location.map (·.path) = path := by
  rw [diagnostic, h, Option.none_or, Option.map_map]
  exact Option.map_id'

theorem Ran.attributed (h : Ran g parse resources t outcome) :
    (outcome.result t).Attributed resources t := by
  cases h with
  | unresolved hr =>
    refine ⟨fun d hm => ?_, fun d hm => ?_⟩ <;> obtain rfl := List.mem_singleton.mp hm
    · rfl
    · rw [hr]
      exact GenerationError.diagnostic_location (Target.location?_of_resolve hr) none
  | unreadable hr =>
    refine ⟨fun d hm => ?_, fun d hm => ?_⟩ <;> obtain rfl := List.mem_singleton.mp hm
    · rfl
    · rw [hr]
      rfl
  | rejected hr _ he =>
    refine ⟨fun d hm => ?_, fun d hm => ?_⟩ <;> obtain ⟨e, hme, rfl⟩ := List.mem_map.mp hm
    · rfl
    · rw [hr]
      exact GenerationError.diagnostic_location (Database.location?_of_plan he hme) _
  | generated hr _ ho =>
    refine ⟨fun d hm => ?_, fun d hm => ?_⟩ <;> obtain ⟨e, -, rfl⟩ := List.mem_map.mp hm
    · rfl
    · rw [hr]
      rfl

end Targets

/-! ## All targets -/

namespace Generator

variable (g : Generator) (parse : SchemaParser) (resources : List Resource)

theorem runNext_foldl (done : PassResult) (targets : List Target) :
    targets.foldl (g.runNext parse resources) done =
      { units := done.units ++
          targets.flatMap fun t => ((g.runTarget parse resources t).result t).units
        diagnostics := done.diagnostics ++
          targets.flatMap fun t => ((g.runTarget parse resources t).result t).diagnostics } := by
  induction targets generalizing done with
  | nil => simp
  | cons t rest ih => simp [ih, runNext, Outcome.result]

theorem run_eq (targets : List Target) :
    g.run parse resources targets =
      { units := targets.flatMap fun t => ((g.runTarget parse resources t).result t).units
        diagnostics :=
          targets.flatMap fun t => ((g.runTarget parse resources t).result t).diagnostics } := by
  rw [run, runNext_foldl]
  rfl

theorem run_singleton (t : Target) :
    g.run parse resources [t] = (g.runTarget parse resources t).result t := by
  simp [run_eq]

theorem run_singleton_of_plan {t : Target} {resource : Resource} {db : Database}
    {plan : SchemaPlan} (hr : t.resolve resources = .ok resource) (hp : parse resource = .ok db)
    (hplan : db.plan g.inflector g.settings t = .ok plan) :
    (g.run parse resources [t]).units =
      [⟨t, t.fileName, resource.path, Code.unit g.settings t plan⟩] := by
  rw [run_singleton, runTarget, hr]
  dsimp only
  rw [hp]
  dsimp only
  rw [hplan]
  rfl

end Generator

namespace PassResult

variable {inflector : Inflector} {t : Target} {resource : Resource} {db : Database}
  {result : PassResult}

theorem Succeeds.counts (h : result.Succeeds inflector t resource db) :
    result.diagnostics.countP (·.severity == .error) = 0 ∧ result.units.length = 1 := by
  obtain ⟨unit, hu, -, -⟩ := h.unit
  refine ⟨List.countP_eq_zero.mpr fun d hd => ?_, by rw [hu]; rfl⟩
  simpa using h.no_error d hd

theorem Fails.counts (h : result.Fails) :
    result.diagnostics.countP (·.severity == .error) ≠ 0 ∧ result.units.length = 0 := by
  obtain ⟨d, hd⟩ := List.exists_mem_of_ne_nil _ h.reported
  refine ⟨fun hc => ?_, by rw [h.units]; rfl⟩
  exact List.countP_eq_zero.mp hc d hd (by simp [h.errors d hd])

end PassResult

namespace Generator

variable (g : Generator) (parse : SchemaParser) (resources : List Resource)

/-- Every target that fails costs a unit and reports an error. -/
theorem length_units_run (targets : List Target) :
    (g.run parse resources targets).units.length ≤ targets.length ∧
      ((Tally.ofDiagnostics (g.run parse resources targets).diagnostics).errors = 0 ↔
        (g.run parse resources targets).units.length = targets.length) := by
  simp only [run_eq, Tally.ofDiagnostics]
  induction targets with
  | nil => simp
  | cons t rest ih =>
    obtain ⟨hle, hiff⟩ := ih
    simp only [List.flatMap_cons, List.length_append, List.countP_append, List.length_cons]
    rcases (ran_runTarget g parse resources t).succeeds_or_fails with ⟨_, _, -, -, h⟩ | h
    · have hc := h.counts
      omega
    · have hc := h.counts
      omega

theorem run_isolates_targets (targets : List Target) :
    (g.run parse resources targets).units =
        targets.flatMap (fun t => (g.run parse resources [t]).units) ∧
      (g.run parse resources targets).diagnostics =
        targets.flatMap (fun t => (g.run parse resources [t]).diagnostics) ∧
      (∀ t, ((∃ resource db, t.resolve resources = .ok resource ∧ parse resource = .ok db ∧
            (g.run parse resources [t]).Succeeds g.inflector t resource db) ∨
          (g.run parse resources [t]).Fails) ∧
        (g.run parse resources [t]).Attributed resources t) ∧
      ((Tally.ofDiagnostics (g.run parse resources targets).diagnostics).errors = 0 ↔
        (g.run parse resources targets).units.length = targets.length) := by
  simp only [run_singleton]
  have hunits := (g.length_units_run parse resources targets).2
  refine ⟨by rw [run_eq], by rw [run_eq], fun t => ?_, hunits⟩
  have h := ran_runTarget g parse resources t
  exact ⟨h.succeeds_or_fails, h.attributed⟩

end Generator

end EntityGen
