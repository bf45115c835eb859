import Mathlib.Data.List.FinRange
import EntityGen.Proofs.Plan.TableNames

/-! # Order of declaration

Tables, relationships and enums may be declared in any order. Planning accepts a database in all
orders or in none, and an accepted database has the same entities in all orders, but for the order
of their navigations. Tables of one name, of which look-ups take the first, are never accepted.
-/

namespace EntityGen

section Positions

variable {α : Type} {xs : List α}

/-- The items in another order: position `i` takes the item at position `order i`. -/
def reorder (xs : List α) (order : Equiv.Perm (Fin xs.length)) : List α :=
  (List.finRange xs.length).map fun i => xs[order i]

/-- The position that the item at a position of the reordered list had before. -/
def oldPosition {n : Nat} (order : Equiv.Perm (Fin n)) (i : Nat) : Nat :=
  if h : i < n then order ⟨i, h⟩ else i

theorem zipIdx_eq_map_finRange (xs : List α) :
    xs.zipIdx = (List.finRange xs.length).map fun i => (xs[i], i.val) := by
  refine List.ext_getElem (by simp) fun i h h' => ?_
  simp

theorem reorder_perm (xs : List α) (order : Equiv.Perm (Fin xs.length)) :
    (reorder xs order).Perm xs := by
  have h := (order.map_finRange_perm).map fun i => xs[i]
  rw [List.map_map] at h
  exact h.trans (.of_eq (List.map_getElem_finRange xs))

theorem getElem?_reorder (order : Equiv.Perm (Fin xs.length)) (i : Fin xs.length) :
    (reorder xs order)[i.val]? = some xs[order i] := by
  simp [reorder]

theorem zipIdx_reorder_perm (xs : List α) (order : Equiv.Perm (Fin xs.length)) :
    ((reorder xs order).zipIdx.map fun x => (x.1, oldPosition order x.2)).Perm xs.zipIdx := by
  have hz : (reorder xs order).zipIdx.map (fun x => (x.1, oldPosition order x.2)) =
      ((List.finRange xs.length).map order).map fun i => (xs[i], i.val) := by
    refine List.ext_getElem (by simp [reorder]) fun i h h' => ?_
    have hi : i < xs.length := by simpa [reorder] using h
    simp [reorder, oldPosition, hi]
  rw [hz, zipIdx_eq_map_finRange]
  exact order.map_finRange_perm.map _

end Positions

namespace Database

variable {inflector : Inflector} {settings : Settings} {db db' : Database} {target : Target}
  {plan plan' : SchemaPlan} {t : Table} {k k' : Nat}

structure SameParts (db db' : Database) : Prop where
  tables : db'.tables.Perm db.tables
  relationships : db'.relationships.Perm db.relationships
  enums : db'.enums.Perm db.enums

namespace SameParts

theorem symm (h : SameParts db db') : SameParts db' db :=
  ⟨h.tables.symm, h.relationships.symm, h.enums.symm⟩

theorem tables_nodup (h : SameParts db db') (hn : (db.tables.map (·.name)).Nodup) :
    (db'.tables.map (·.name)).Nodup :=
  (h.tables.map _).nodup_iff.mpr hn

theorem table?_eq (h : SameParts db db') (hn : (db.tables.map (·.name)).Nodup) :
    db'.table? = db.table? := by
  funext name
  refine Option.ext fun t => ?_
  rw [table?_eq_some_iff_of_nodup (h.tables_nodup hn), table?_eq_some_iff_of_nodup hn,
    h.tables.mem_iff]

theorem wellFormed (h : SameParts db db') (hn : (db.tables.map (·.name)).Nodup)
    (hw : ∀ r ∈ db.relationships, r.WellFormed db) :
    ∀ r ∈ db'.relationships, r.WellFormed db' := by
  intro r hr
  exact (hw r (h.relationships.mem_iff.mp hr)).of_table?_eq (h.table?_eq hn)

theorem typeNames_perm (h : SameParts db db') (inflector : Inflector) (target : Target) :
    (db'.typeNames inflector target).Perm (db.typeNames inflector target) :=
  ((h.tables.map _).cons _).append (h.enums.map _)

/-- The names of the navigations of an entity depend on no order but for their own. -/
theorem navigation_names_perm (h : SameParts db db') (inflector : Inflector) (settings : Settings)
    (hn : (db.tables.map (·.name)).Nodup) (hw : ∀ r ∈ db.relationships, r.WellFormed db)
    (hk : db.tables[k]? = some t) (hk' : db'.tables[k']? = some t) :
    ((db'.entityAt inflector settings (t, k')).navigations.map (·.name)).Perm
      ((db.entityAt inflector settings (t, k)).navigations.map (·.name)) := by
  let names := fun r : Relationship =>
    (r.navigationsAt inflector settings (db.table? r.leftTable) t.name 0).map (·.name)
  have hz : ∀ rs : List Relationship, (rs.zipIdx.flatMap fun r =>
      r.1.navigationsAt inflector settings (db.table? r.1.leftTable) t.name r.2).map (·.name) =
        rs.flatMap names := by
    intro rs
    rw [List.map_flatMap]
    simp only [Relationship.map_name_navigationsAt 0]
    rw [← List.flatMap_map Prod.fst names, List.zipIdx_map_fst]
  rw [navigations_entityAt inflector settings db' (h.tables_nodup hn) (h.wellFormed hn hw) hk',
    navigations_entityAt inflector settings db hn hw hk, h.table?_eq hn, hz, hz]
  exact h.relationships.flatMap_right names

theorem distinctNames (h : SameParts db db') (hw : ∀ r ∈ db.relationships, r.WellFormed db)
    (hd : db.DistinctNames inflector settings target) :
    db'.DistinctNames inflector settings target where
  types := (h.typeNames_perm inflector target).nodup_iff.mpr hd.types
  members := by
    intro e he
    rw [entityPlans_eq, List.mem_map] at he
    obtain ⟨⟨t, k'⟩, hx, rfl⟩ := he
    have hk' := List.mem_zipIdx_iff_getElem?.mp hx
    have ht : t ∈ db.tables := h.tables.mem_iff.mp (List.mem_of_getElem? hk')
    obtain ⟨k, hk⟩ := List.mem_iff_getElem?.mp ht
    have hp := h.navigation_names_perm inflector settings hd.tables_nodup hw hk hk'
    exact (hp.append_left _).nodup_iff.mpr (hd.members _ (entityAt_mem hk))

theorem exists_plan (h : SameParts db db')
    (hp : ∃ plan, db.plan inflector settings target = .ok plan) :
    ∃ plan, db'.plan inflector settings target = .ok plan := by
  obtain ⟨plan, hp⟩ := hp
  obtain ⟨hw, hd, -⟩ := plan_eq_ok_iff.mp hp
  exact ⟨_, plan_of_distinct (h.wellFormed hd.tables_nodup hw) (h.distinctNames hw hd)⟩

end SameParts

structure DeclarationOrder (db : Database) where
  tables : Equiv.Perm (Fin db.tables.length)
  relationships : Equiv.Perm (Fin db.relationships.length)
  enums : Equiv.Perm (Fin db.enums.length)

def reordered (db : Database) (order : DeclarationOrder db) : Database where
  tables := reorder db.tables order.tables
  relationships := reorder db.relationships order.relationships
  enums := reorder db.enums order.enums

theorem sameParts_reordered (db : Database) (order : DeclarationOrder db) :
    SameParts db (db.reordered order) where
  tables := reorder_perm db.tables order.tables
  relationships := reorder_perm db.relationships order.relationships
  enums := reorder_perm db.enums order.enums

end Database

/-- `e'` is `e` but for the order of the navigations, where `place` gives the positions in `e` of
the relationships in `e'`. -/
structure EntityPlan.Matches (place : Nat → Nat) (e e' : EntityPlan) : Prop where
  table : e'.table = e.table
  name : e'.name = e.name
  setName : e'.setName = e.setName
  key : e'.key = e.key
  properties : e'.properties = e.properties
  indexes : e'.indexes = e.indexes
  navigations : (e'.navigations.map (·.relabel place)).Perm e.navigations

/-- `plan'` has at each position the entity that `plan` has for the same table. -/
structure SchemaPlan.MatchesIn {db : Database} (order : db.DeclarationOrder)
    (plan plan' : SchemaPlan) : Prop where
  length : plan.entities.length = db.tables.length
  length' : plan'.entities.length = db.tables.length
  entity : ∀ k : Fin db.tables.length, ∃ e e', plan.entities[(order.tables k).val]? = some e ∧
    plan'.entities[k.val]? = some e' ∧ e.table = db.tables[order.tables k] ∧
      e.Matches (oldPosition order.relationships) e'

namespace Database

variable {inflector : Inflector} {settings : Settings} {db : Database} {target : Target}

theorem matches_entityAt_reordered (inflector : Inflector) (settings : Settings)
    (order : DeclarationOrder db) (hn : (db.tables.map (·.name)).Nodup)
    (hw : ∀ r ∈ db.relationships, r.WellFormed db) {t : Table} {k k' : Nat}
    (hk : db.tables[k]? = some t) (hk' : (db.reordered order).tables[k']? = some t) :
    (db.entityAt inflector settings (t, k)).Matches (oldPosition order.relationships)
      ((db.reordered order).entityAt inflector settings (t, k')) where
  table := rfl
  name := rfl
  setName := rfl
  key := rfl
  properties := rfl
  indexes := rfl
  navigations := by
    have h := sameParts_reordered db order
    let navigations := fun r : Relationship × Nat =>
      r.1.navigationsAt inflector settings (db.table? r.1.leftTable) t.name r.2
    rw [navigations_entityAt inflector settings (db.reordered order) (h.tables_nodup hn)
        (h.wellFormed hn hw) hk',
      navigations_entityAt inflector settings db hn hw hk, h.table?_eq hn, List.map_flatMap]
    simp only [Relationship.map_relabel_navigationsAt]
    have hp := (zipIdx_reorder_perm db.relationships order.relationships).flatMap_right navigations
    rwa [List.flatMap_map] at hp

theorem getElem?_entityPlans {k : Nat} {t : Table} (hk : db.tables[k]? = some t) :
    (db.entityPlans inflector settings)[k]? = some (db.entityAt inflector settings (t, k)) := by
  simp [entityPlans_eq, List.getElem?_zipIdx, hk]

/-- A database is accepted in every order or in none, and the order changes the plan only in the
positions of entities and navigations. -/
theorem plan_reordered (inflector : Inflector) (settings : Settings) (db : Database)
    (order : DeclarationOrder db) (target : Target) :
    ((∃ plan', (db.reordered order).plan inflector settings target = .ok plan') ↔
      ∃ plan, db.plan inflector settings target = .ok plan) ∧
    ∀ plan plan', db.plan inflector settings target = .ok plan →
      (db.reordered order).plan inflector settings target = .ok plan' →
        plan.MatchesIn order plan' := by
  have h := sameParts_reordered db order
  refine ⟨⟨h.symm.exists_plan, h.exists_plan⟩, fun plan plan' hp hp' => ?_⟩
  obtain ⟨hw, hd, rfl⟩ := plan_eq_ok_iff.mp hp
  obtain ⟨-, -, rfl⟩ := plan_eq_ok_iff.mp hp'
  refine ⟨by simp [entityPlans_eq], ?_, fun k => ?_⟩
  · simp [entityPlans_eq, h.tables.length_eq]
  · have hk : db.tables[(order.tables k).val]? = some db.tables[order.tables k] :=
      List.getElem?_eq_getElem _
    have hk' : (db.reordered order).tables[k.val]? = some db.tables[order.tables k] :=
      getElem?_reorder order.tables k
    exact ⟨_, _, getElem?_entityPlans hk, getElem?_entityPlans hk', rfl,
      matches_entityAt_reordered inflector settings order hd.tables_nodup hw hk hk'⟩

def staffBadgesFirst : DeclarationOrder (staff []) where
  tables := (Equiv.swap 0 1 : Equiv.Perm (Fin 2))
  relationships := (Equiv.swap 0 1 : Equiv.Perm (Fin 2))
  enums := Equiv.refl _

theorem staff_badges_first :
    ∃ plan plan', (staff []).plan ({} : Settings).inflector {} staffTarget = .ok plan ∧
      ((staff []).reordered staffBadgesFirst).plan ({} : Settings).inflector {} staffTarget =
        .ok plan' ∧
      plan.MatchesIn staffBadgesFirst plan' ∧
      ((staff []).reordered staffBadgesFirst).tables.map (·.name) = ["badges", "employees"] := by
  obtain ⟨plan, hp⟩ := exists_staff_plan
  have h := plan_reordered ({} : Settings).inflector {} (staff []) staffBadgesFirst staffTarget
  obtain ⟨plan', hp'⟩ := h.1.mpr ⟨plan, hp⟩
  exact ⟨plan, plan', hp, hp', h.2 plan plan' hp hp', by decide +kernel⟩

end Database

end EntityGen
