import EntityGen.Proofs.Naming.PluralNames
import EntityGen.Proofs.Plan.Identifiers

/-! # Members of the context class

The context class has a set for each entity, under the plural of its name. Planning compares the
names of types and not these plurals, so the sets have distinct names exactly when no two entities
share a plural.
-/

namespace EntityGen

open Naming Text

namespace Database

variable {settings : Settings} {db : Database} {target : Target} {plan : SchemaPlan}
  {e f : EntityPlan}

/-- Two entities have one set name exactly when they have one name or share a plural. -/
theorem setName_eq_iff (ha : ∀ t ∈ db.tables, Ascii t.name.toList)
    (he : e ∈ db.entityPlans Lexicon.english.inflector settings)
    (hf : f ∈ db.entityPlans Lexicon.english.inflector settings) :
    e.setName = f.setName ↔ e.name = f.name ∨ SharePlural e.name f.name := by
  rw [setName_of_mem_entityPlans he, setName_of_mem_entityPlans hf]
  exact plural_eq_plural_iff (ascii_humanize (ha _ (table_of_mem_entityPlans he).1))
    (ascii_humanize (ha _ (table_of_mem_entityPlans hf).1)) (name_of_mem_entityPlans he).symm
    (name_of_mem_entityPlans hf).symm

theorem nodup_setNames_iff (h : db.plan Lexicon.english.inflector settings target = .ok plan)
    (ha : ∀ t ∈ db.tables, Ascii t.name.toList) :
    (target.className :: plan.entities.map (·.setName)).Nodup ↔
      (∀ e ∈ plan.entities, Lexicon.english.inflector.plural e.name ≠ target.className) ∧
        plan.entities.Pairwise fun e f => ¬ SharePlural e.name f.name := by
  obtain ⟨-, hd, rfl⟩ := plan_eq_ok_iff.mp h
  have hnames := List.pairwise_map.mp hd.entities_nodup
  have hpair : ∀ {e f : EntityPlan}, e ∈ db.entityPlans Lexicon.english.inflector settings →
      f ∈ db.entityPlans Lexicon.english.inflector settings → e.name ≠ f.name →
      (e.setName ≠ f.setName ↔ ¬ SharePlural e.name f.name) := by
    intro e f he hf hne
    rw [ne_eq, setName_eq_iff ha he hf, or_iff_right hne]
  rw [List.nodup_cons]
  refine and_congr ?_ ?_
  · rw [List.mem_map]
    push Not
    exact forall₂_congr fun e he => by rw [setName_of_mem_entityPlans he]
  · rw [List.Nodup, List.pairwise_map]
    constructor
    · intro hs
      exact (hs.and hnames).imp_of_mem fun he hf h => (hpair he hf h.2).mp h.1
    · intro hs
      exact (hs.and hnames).imp_of_mem fun he hf h => (hpair he hf h.2).mpr h.1

theorem staff_setNames_distinct :
    ∃ plan, (staff []).plan Lexicon.english.inflector {} staffTarget = .ok plan ∧
      plan.entities.Pairwise fun e f => ¬ SharePlural e.name f.name := by
  have h : (staff []).plan Lexicon.english.inflector {} staffTarget = .ok ⟨_, _⟩ := rfl
  refine ⟨_, h, ((nodup_setNames_iff h ?_).mp ?_).2⟩
  · decide +kernel
  · decide +kernel

/-- Two tables and the context take the name `Leaves` for members of one class and for the class. -/
theorem leaves_repeated :
    let id : Column := { name := "id", declaredType := "int", primaryKey := true }
    let db : Database :=
      { tables := [{ name := "leaf", columns := [id] }, { name := "leave", columns := [id] }] }
    let target : Target := { className := "Leaves", source := "garden.json" }
    ∃ plan, db.plan Lexicon.english.inflector {} target = .ok plan ∧
      ¬ (plan.entities.map (·.setName)).Nodup ∧
      target.className ∈ plan.entities.map (·.setName) :=
  ⟨_, rfl, by decide +kernel⟩

end Database

end EntityGen
