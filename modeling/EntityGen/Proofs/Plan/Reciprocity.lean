import EntityGen.Proofs.Plan.Edges

/-! # Agreement of the two ends

The two navigations of a relationship name each other and each other's entities, and they carry the
same columns as properties of the entities on both sides.
-/

namespace EntityGen

/-- The left navigation `n` on `l` and the right navigation `m` on `p` are all that the plan holds
for the relationship at `i`, and they agree. -/
structure SchemaPlan.Paired (plan : SchemaPlan) (i : Nat) (r : Relationship) (l p : EntityPlan)
    (n m : NavigationPlan) : Prop where
  only : (plan.members.filter (·.2.relationship == i)).Perm [(l, n), (p, m)]
  left_mem : l ∈ plan.entities
  right_mem : p ∈ plan.entities
  left_table : l.table.name = r.leftTable
  right_table : p.table.name = r.rightTable
  left_unique : ∀ e ∈ plan.entities, e.table.name = r.leftTable → e = l
  right_unique : ∀ e ∈ plan.entities, e.table.name = r.rightTable → e = p
  left_endpoint : n.endpoint = .left
  right_endpoint : m.endpoint = .right
  left_inverse : n.inverse = m.name
  right_inverse : m.inverse = n.name
  left_target : n.targetEntity = p.name
  right_target : m.targetEntity = l.name
  left_found : plan.entity? n.targetEntity = some p
  right_found : plan.entity? m.targetEntity = some l
  cardinalities : n.cardinality = .oneToOne ∧ m.cardinality = .oneToOne ∨
    n.cardinality = .manyToOne ∧ m.cardinality = .oneToMany
  same_foreignKey : n.foreignKey = m.foreignKey
  same_principalKey : n.principalKey = m.principalKey
  foreignKey_nonempty : n.foreignKey ≠ []
  keys_paired : n.foreignKey.length = n.principalKey.length
  foreignKey_properties : ∀ name ∈ n.foreignKey, ∃ q ∈ l.properties, q.name = name
  principalKey_properties : ∀ name ∈ n.principalKey, ∃ q ∈ p.properties, q.name = name

namespace Database

variable {inflector : Inflector} {settings : Settings} {db : Database} {target : Target}
  {plan : SchemaPlan} {r : Relationship} {i : Nat}

theorem entity?_eq_some (hd : db.DistinctNames inflector settings target) {e : EntityPlan}
    (he : e ∈ db.entityPlans inflector settings) :
    SchemaPlan.entity? ⟨db, db.entityPlans inflector settings⟩ e.name = some e :=
  find?_eq_some_of_nodup hd.entities_nodup he

theorem navigation_cardinalities (inflector : Inflector) (settings : Settings) (owner : Table)
    (i : Nat) (r : Relationship) :
    (r.navigation inflector settings owner i .left).cardinality = .oneToOne ∧
        (r.navigation inflector settings owner i .right).cardinality = .oneToOne ∨
      (r.navigation inflector settings owner i .left).cardinality = .manyToOne ∧
        (r.navigation inflector settings owner i .right).cardinality = .oneToMany := by
  rcases r.classify_cases owner with h | h
  · exact .inl ⟨congrArg Ends.left h, congrArg Ends.right h⟩
  · exact .inr ⟨congrArg Ends.left h, congrArg Ends.right h⟩

theorem exists_paired (h : db.plan inflector settings target = .ok plan)
    (hr : db.relationships[i]? = some r) : ∃ l p n m, plan.Paired i r l p n m := by
  obtain ⟨l, p, j⟩ := exists_joins h hr
  obtain ⟨hw, hd, rfl⟩ := plan_eq_ok_iff.mp h
  have hwr := hw r (List.mem_of_getElem? hr)
  exact ⟨l, p, r.navigation inflector settings l.table i .left,
    r.navigation inflector settings l.table i .right, {
    only := j.perm
    left_mem := j.left_mem
    right_mem := j.right_mem
    left_table := j.left_table
    right_table := j.right_table
    left_unique := fun e he ht => table_name_inj hd he j.left_mem (ht.trans j.left_table.symm)
    right_unique := fun e he ht => table_name_inj hd he j.right_mem (ht.trans j.right_table.symm)
    left_endpoint := rfl
    right_endpoint := rfl
    left_inverse := rfl
    right_inverse := rfl
    left_target := j.right_name.symm
    right_target := j.left_name.symm
    left_found := (congrArg _ j.right_name.symm).trans (entity?_eq_some hd j.right_mem)
    right_found := (congrArg _ j.left_name.symm).trans (entity?_eq_some hd j.left_mem)
    cardinalities := navigation_cardinalities inflector settings l.table i r
    same_foreignKey := rfl
    same_principalKey := rfl
    foreignKey_nonempty := by simpa [Relationship.navigation] using hwr.nonempty
    keys_paired := by simpa [Relationship.navigation] using hwr.paired
    foreignKey_properties := fun _ hm =>
      exists_property hd j.left_mem (j.left_table ▸ hwr.left) hm
    principalKey_properties := fun _ hm =>
      exists_property hd j.right_mem (j.right_table ▸ hwr.right) hm }⟩

/-- The relationship of the employees with themselves. -/
theorem staff_managers_paired :
    ∃ plan, (staff []).plan ({} : Settings).inflector {} staffTarget = .ok plan ∧
      ∃ r, (staff []).relationships[0]? = some r ∧ ∃ l p n m, plan.Paired 0 r l p n m := by
  obtain ⟨plan, h⟩ := exists_staff_plan
  exact ⟨plan, h, _, rfl, exists_paired h rfl⟩

end Database

end EntityGen
