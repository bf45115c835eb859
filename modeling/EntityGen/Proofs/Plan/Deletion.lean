import EntityGen.Proofs.Plan.TableNames

/-! # Deleting relationships and enums

Relationships are planned independently of each other. An accepted database without some of its
relationships and enums is accepted too, and its plan is the old one without their navigations.
-/

namespace EntityGen

section Positions

variable {α : Type} {keep : Nat → Bool}

def keepAt (keep : Nat → Bool) (xs : List α) : List α :=
  (xs.zipIdx.filter (keep ·.2)).map (·.1)

/-- The position that a kept item takes after the deletion. -/
def rank (keep : Nat → Bool) (i : Nat) : Nat :=
  (List.range i).countP keep

theorem rank_succ (keep : Nat → Bool) (i : Nat) :
    rank keep (i + 1) = rank keep i + if keep i then 1 else 0 := by
  simp [rank, List.range_succ, List.countP_append, List.countP_singleton]

theorem keepAt_sublist (keep : Nat → Bool) (xs : List α) : (keepAt keep xs).Sublist xs := by
  have h := (List.filter_sublist (p := fun x => keep x.2) (l := xs.zipIdx)).map Prod.fst
  rwa [List.zipIdx_map_fst] at h

theorem zipIdx_keepAt (keep : Nat → Bool) (xs : List α) :
    (keepAt keep xs).zipIdx =
      (xs.zipIdx.filter (keep ·.2)).map fun x => (x.1, rank keep x.2) := by
  -- Items from position `k` on are counted from the rank of `k`.
  have shifted : ∀ k, (((xs.zipIdx k).filter (keep ·.2)).map (·.1)).zipIdx (rank keep k) =
      ((xs.zipIdx k).filter (keep ·.2)).map fun x => (x.1, rank keep x.2) := by
    induction xs with
    | nil => intro k; rfl
    | cons x xs ih =>
      intro k
      have h := ih (k + 1)
      cases hk : keep k with
      | true =>
        rw [rank_succ, hk] at h
        simpa [hk] using h
      | false =>
        rw [rank_succ, hk] at h
        simpa [hk] using h
  exact shifted 0

end Positions

def EntityPlan.keeping (relationships : Nat → Bool) (e : EntityPlan) : EntityPlan :=
  { e with
    navigations := (e.navigations.filter fun n => relationships n.relationship).map
      (·.relabel (rank relationships)) }

theorem EntityPlan.scopeNames_keeping_sublist (relationships : Nat → Bool) (e : EntityPlan) :
    (e.keeping relationships).scopeNames.Sublist e.scopeNames := by
  have h : (e.keeping relationships).navigations.map (·.name) =
      (e.navigations.filter fun n => relationships n.relationship).map (·.name) := by
    simp [keeping, NavigationPlan.relabel, Function.comp_def]
  unfold scopeNames
  rw [h]
  exact (List.Sublist.refl _).append (List.filter_sublist.map _)

namespace Database

def keeping (relationships enums : Nat → Bool) (db : Database) : Database :=
  { db with
    relationships := keepAt relationships db.relationships
    enums := keepAt enums db.enums }

end Database

def SchemaPlan.keeping (relationships enums : Nat → Bool) (plan : SchemaPlan) : SchemaPlan where
  database := plan.database.keeping relationships enums
  entities := plan.entities.map (·.keeping relationships)

namespace Database

variable {inflector : Inflector} {settings : Settings} {db : Database} {target : Target}
  {plan : SchemaPlan}

theorem table?_keeping (relationships enums : Nat → Bool) (db : Database) :
    (db.keeping relationships enums).table? = db.table? :=
  rfl

theorem wellFormed_keeping (relationships enums : Nat → Bool)
    (hw : ∀ r ∈ db.relationships, r.WellFormed db) :
    ∀ r ∈ (db.keeping relationships enums).relationships,
      r.WellFormed (db.keeping relationships enums) := by
  intro r hr
  have hm : r ∈ db.relationships := (keepAt_sublist relationships _).mem hr
  exact (hw r hm).of_table?_eq (table?_keeping relationships enums db)

/-- An entity keeps the navigations of the relationships that are kept, in their order. -/
theorem navigations_entityAt_keeping (inflector : Inflector) (settings : Settings)
    (relationships enums : Nat → Bool) (hn : (db.tables.map (·.name)).Nodup)
    (hw : ∀ r ∈ db.relationships, r.WellFormed db) {t : Table} {k : Nat}
    (hk : db.tables[k]? = some t) :
    ((db.keeping relationships enums).entityAt inflector settings (t, k)).navigations =
      ((db.entityAt inflector settings (t, k)).keeping relationships).navigations := by
  let navigations := fun r : Relationship × Nat =>
    r.1.navigationsAt inflector settings (db.table? r.1.leftTable) t.name r.2
  have hkept : ∀ r, (navigations r).filter (fun n => relationships n.relationship) =
      if relationships r.2 then navigations r else [] := by
    intro r
    cases hr : relationships r.2 with
    | true =>
      refine List.filter_eq_self.mpr fun n hm => ?_
      rw [Relationship.relationship_of_mem_navigationsAt hm, hr]
    | false =>
      refine List.filter_eq_nil_iff.mpr fun n hm => ?_
      rw [Relationship.relationship_of_mem_navigationsAt hm, hr]
      exact Bool.false_ne_true
  rw [navigations_entityAt inflector settings (db.keeping relationships enums) hn
      (wellFormed_keeping relationships enums hw) hk,
    EntityPlan.keeping, navigations_entityAt inflector settings db hn hw hk]
  calc (keepAt relationships db.relationships).zipIdx.flatMap navigations
      = (db.relationships.zipIdx.filter (relationships ·.2)).flatMap
          fun r => navigations (r.1, rank relationships r.2) := by
        rw [zipIdx_keepAt, List.flatMap_map]
    _ = ((db.relationships.zipIdx.filter (relationships ·.2)).flatMap navigations).map
          (·.relabel (rank relationships)) := by
        rw [List.map_flatMap]
        simp only [navigations, Relationship.map_relabel_navigationsAt]
    _ = ((db.relationships.zipIdx.flatMap navigations).filter
          fun n => relationships n.relationship).map (·.relabel (rank relationships)) := by
        rw [List.filter_flatMap, ← flatMap_ite]
        simp only [hkept]

theorem entityPlans_keeping (inflector : Inflector) (settings : Settings)
    (relationships enums : Nat → Bool) (hn : (db.tables.map (·.name)).Nodup)
    (hw : ∀ r ∈ db.relationships, r.WellFormed db) :
    (db.keeping relationships enums).entityPlans inflector settings =
      (db.entityPlans inflector settings).map (·.keeping relationships) := by
  rw [entityPlans_eq, entityPlans_eq, List.map_map]
  refine List.map_congr_left fun x hx => ?_
  have hk := List.mem_zipIdx_iff_getElem?.mp hx
  have h := navigations_entityAt_keeping inflector settings relationships enums hn hw hk
  exact congrArg (fun n => { x.1.entityPlan inflector with navigations := n }) h

theorem DistinctNames.keeping (relationships enums : Nat → Bool)
    (hw : ∀ r ∈ db.relationships, r.WellFormed db)
    (hd : db.DistinctNames inflector settings target) :
    (db.keeping relationships enums).DistinctNames inflector settings target where
  types := by
    refine hd.types.sublist ?_
    exact (List.Sublist.refl _).append ((keepAt_sublist enums db.enums).map _)
  members := by
    rw [entityPlans_keeping inflector settings relationships enums hd.tables_nodup hw]
    intro e he
    obtain ⟨e', he', rfl⟩ := List.mem_map.mp he
    exact (hd.members e' he').sublist (e'.scopeNames_keeping_sublist relationships)

theorem plan_keeping (h : db.plan inflector settings target = .ok plan)
    (relationships enums : Nat → Bool) :
    (db.keeping relationships enums).plan inflector settings target =
      .ok (plan.keeping relationships enums) := by
  obtain ⟨hw, hd, rfl⟩ := plan_eq_ok_iff.mp h
  rw [plan_of_distinct (wellFormed_keeping relationships enums hw)
      (hd.keeping relationships enums hw),
    entityPlans_keeping inflector settings relationships enums hd.tables_nodup hw]
  rfl

/-- Without the relationship of the employees with themselves, that of the badges comes first. -/
theorem staff_without_managers :
    ∃ plan, (staff []).plan ({} : Settings).inflector {} staffTarget = .ok plan ∧
      ((staff []).keeping (· == 1) fun _ => true).plan ({} : Settings).inflector {} staffTarget =
        .ok (plan.keeping (· == 1) fun _ => true) ∧
      (plan.keeping (· == 1) fun _ => true).members.map (fun m => (m.1.name, m.2.name,
          m.2.relationship)) =
        [("Employee", "BadgeNavigation", 0), ("Badge", "EmployeeNavigation", 0)] := by
  have h : (staff []).plan ({} : Settings).inflector {} staffTarget = .ok ⟨_, _⟩ := rfl
  exact ⟨_, h, plan_keeping h _ _, by decide +kernel⟩

end Database

end EntityGen
