import EntityGen.Proofs.Code.Passage
import EntityGen.Proofs.Plan.Edges

/-! # Wiring of relationships

The context wires a relationship by the names of its members and columns. The classes of both
entities declare all of these: the members with each other's types, and the columns as properties.
-/

namespace EntityGen

namespace Code

/-! ## Expected lines -/

def manyToOneStatement (right : String) (names : Ends String)
    (foreignKey principalKey : List String) : String :=
  s!"            entity.HasOne<{right}>({literal names.left})\n" ++
    s!"                .WithMany({literal names.right})\n" ++
    s!"                .HasForeignKey({literals foreignKey})\n" ++
    s!"                .HasPrincipalKey({literals principalKey});\n"

def oneToOneStatement (left right : String) (names : Ends String)
    (foreignKey principalKey : List String) : String :=
  s!"            entity.HasOne<{right}>({literal names.left})\n" ++
    s!"                .WithOne({literal names.right})\n" ++
    s!"                .HasForeignKey<{left}>({literals foreignKey})\n" ++
    s!"                .HasPrincipalKey<{right}>({literals principalKey});\n"

def referenceLine (type name : String) : String :=
  s!"    public virtual {type} {name} \x7b get; set; \x7d\n"

def collectionLines (inverse type name : String) : String :=
  s!"    [InverseProperty({literal inverse})]\n" ++
    s!"    public virtual ICollection<{type}> {name} \x7b get; set; \x7d\n"

def scalarLine (type name : String) : String :=
  s!"    public {type} {name} \x7b get; set; \x7d\n"

def initializerLine (collectionType type name : String) : String :=
  s!"        {name} = new {collectionType}<{type}>();\n"

def constructorLines (entity : String) (body : List String) : String :=
  s!"    public {entity}()\n    \x7b\n" ++ String.join body ++ "    \x7d\n"

/-! ## Emitted lines -/

variable {settings : Settings} {e : EntityPlan} {n : NavigationPlan} {entity : String}

-- The parts of a line are joined differently here and there: each constant text is split where the
-- other side splits it, before all is associated to the right.
theorem relationshipStatement_of_manyToOne (h : n.cardinality = .manyToOne) :
    relationshipStatement entity n =
      manyToOneStatement n.targetEntity ⟨n.name, n.inverse⟩ n.foreignKey n.principalKey := by
  have hw : "                .WithMany(" = "                ." ++ ("WithMany" ++ "(") := rfl
  have hf : "                .HasForeignKey(" = "                ." ++ ("HasForeignKey" ++ "(") :=
    rfl
  have hp : "                .HasPrincipalKey(" =
    "                ." ++ ("HasPrincipalKey" ++ "(") := rfl
  have hl : ")\n" = ")" ++ "\n" := rfl
  have he : ");\n" = ")" ++ ";\n" := rfl
  have hc : (Cardinality.manyToOne == .oneToOne) = false := rfl
  unfold relationshipStatement callLine manyToOneStatement literals
  simp only [h, hc, Bool.false_eq_true, if_false, toString, List.map_cons, List.map_nil,
    String.intercalate_singleton, hw, hf, hp, hl, he, String.append_assoc]

theorem relationshipStatement_of_oneToOne (h : n.cardinality = .oneToOne) :
    relationshipStatement entity n =
      oneToOneStatement entity n.targetEntity ⟨n.name, n.inverse⟩ n.foreignKey n.principalKey := by
  have hw : "                .WithOne(" = "                ." ++ ("WithOne" ++ "(") := rfl
  have hf : "                .HasForeignKey<" = "                ." ++ "HasForeignKey<" := rfl
  have hp : "                .HasPrincipalKey<" = "                ." ++ "HasPrincipalKey<" := rfl
  have ha : ">(" = ">" ++ "(" := rfl
  have hl : ")\n" = ")" ++ "\n" := rfl
  have he : ");\n" = ")" ++ ";\n" := rfl
  unfold relationshipStatement callLine oneToOneStatement literals
  simp only [h, beq_self_eq_true, if_true, toString, List.map_cons, List.map_nil,
    String.intercalate_singleton, hw, hf, hp, ha, hl, he, String.append_assoc]

theorem navigationMember_of_reference (h : n.isCollection = false) :
    navigationMember n = referenceLine n.targetEntity n.name := by
  have hv : "    public virtual " = "    public " ++ "virtual " := rfl
  unfold navigationMember memberLine referenceLine
  simp only [h, Bool.false_eq_true, if_false, toString, hv, String.append_assoc]

theorem navigationMember_of_collection (h : n.isCollection = true) :
    navigationMember n = collectionLines n.inverse n.targetEntity n.name := by
  have hb : "    [InverseProperty(" = "    [" ++ "InverseProperty(" := rfl
  have hv : "    public virtual ICollection<" = "    public " ++ "virtual ICollection<" := rfl
  have ha : ")]\n" = ")" ++ "]\n" := rfl
  have hs : "> " = ">" ++ " " := rfl
  unfold navigationMember annotation memberLine collectionLines
  simp only [h, if_true, toString, hb, hv, ha, hs, String.append_assoc]

theorem initializer_eq (collectionType : String) (n : NavigationPlan) :
    initializer collectionType n = initializerLine collectionType n.targetEntity n.name :=
  rfl

theorem passage_navigation (settings : Settings) (h : n ∈ e.navigations) :
    Passage (navigationMember n) (entityClass settings e) :=
  passage_entityClass (List.mem_append_right _ (List.mem_map_of_mem h))

theorem passage_scalarLine {q : PropertyPlan} (h : q ∈ e.properties) :
    Passage (scalarLine q.typeName q.name) (entityClass settings e) := by
  obtain ⟨above, ha, hq⟩ := propertyMember_eq q
  have hm : propertyMember q ∈ members settings.collectionType e :=
    List.mem_append_left _ (List.mem_append_right _ (List.mem_map_of_mem h))
  rw [hq] at hm
  exact (Passage.right ha _).trans (passage_entityClass hm)

theorem passage_constructorLines (h : e.collections ≠ []) :
    Passage (constructorLines e.name (e.collections.map (initializer settings.collectionType)))
      (entityClass settings e) := by
  refine passage_entityClass (List.mem_append_left _ (List.mem_append_left _ ?_))
  rw [constructors, if_neg (by simpa using h)]
  exact List.mem_singleton.mpr rfl

/-! ## Agreement -/

/-- The lines for a relationship with many `l` for each `p`. -/
structure WiredManyToOne (settings : Settings) (context : String) (l p : EntityPlan)
    (names : Ends String) (foreignKey principalKey : List String) : Prop where
  statement : Passage (manyToOneStatement p.name names foreignKey principalKey) context
  left_member : Passage (referenceLine p.name names.left) (entityClass settings l)
  right_member : Passage (collectionLines names.left l.name names.right) (entityClass settings p)
  constructed : Passage
    (constructorLines p.name (p.collections.map (initializer settings.collectionType)))
    (entityClass settings p)
  initialized : initializerLine settings.collectionType l.name names.right ∈
    p.collections.map (initializer settings.collectionType)

structure WiredOneToOne (settings : Settings) (context : String) (l p : EntityPlan)
    (names : Ends String) (foreignKey principalKey : List String) : Prop where
  statement : Passage (oneToOneStatement l.name p.name names foreignKey principalKey) context
  left_member : Passage (referenceLine p.name names.left) (entityClass settings l)
  right_member : Passage (referenceLine l.name names.right) (entityClass settings p)

def DeclaresScalars (settings : Settings) (e : EntityPlan) (names : List String) : Prop :=
  ∀ name ∈ names, ∃ q ∈ e.properties, q.name = name ∧
    Passage (scalarLine q.typeName name) (entityClass settings e)

end Code

/-- The entities `l` and `p` of a relationship, and the lines that wire and declare it. -/
structure SchemaPlan.Wired (settings : Settings) (target : Target) (plan : SchemaPlan)
    (r : Relationship) (l p : EntityPlan) (names : Ends String) : Prop where
  left_mem : l ∈ plan.entities
  right_mem : p ∈ plan.entities
  left_table : l.table.name = r.leftTable
  right_table : p.table.name = r.rightTable
  lines :
    r.classify l.table = Relationship.manyToOne ∧
        Code.WiredManyToOne settings (Code.contextClass target plan) l p names
          (r.leftColumns.map Naming.humanize) (r.rightColumns.map Naming.humanize) ∨
      r.classify l.table = Relationship.oneToOne ∧
        Code.WiredOneToOne settings (Code.contextClass target plan) l p names
          (r.leftColumns.map Naming.humanize) (r.rightColumns.map Naming.humanize)
  left_scalars : Code.DeclaresScalars settings l (r.leftColumns.map Naming.humanize)
  right_scalars : Code.DeclaresScalars settings p (r.rightColumns.map Naming.humanize)

namespace Database

variable {inflector : Inflector} {settings : Settings} {db : Database} {target : Target}
  {plan : SchemaPlan} {r : Relationship} {i : Nat}

open Code

theorem declaresScalars (hd : db.DistinctNames inflector settings target) {e : EntityPlan}
    (he : e ∈ db.entityPlans inflector settings) {columns : List String}
    (hc : db.HasColumns e.table.name columns) :
    DeclaresScalars settings e (columns.map Naming.humanize) := by
  intro name hn
  obtain ⟨q, hq, rfl⟩ := exists_property hd he hc hn
  exact ⟨q, hq, rfl, passage_scalarLine hq⟩

namespace Joins

variable {l p : EntityPlan} (j : Joins inflector settings plan i r l p)
include j

theorem passage_statement (target : Target) : Passage
    (relationshipStatement l.name (r.navigation inflector settings l.table i .left))
    (contextClass target plan) := by
  have ho : r.navigation inflector settings l.table i .left ∈ l.owned :=
    List.mem_filter.mpr ⟨j.left_navigation, rfl⟩
  refine passage_contextClass j.left_mem ?_
  exact List.mem_append_left _ (List.mem_append_right _ (List.mem_map_of_mem ho))

theorem passage_left_member : Passage
    (referenceLine p.name
      (r.memberNames inflector settings.navigationSuffix (r.classify l.table)).left)
    (entityClass settings l) := by
  have hc : (r.navigation inflector settings l.table i .left).isCollection = false := by
    rcases r.classify_cases l.table with h | h <;>
      exact congrArg (fun c : Ends Cardinality => c.left.isCollection) h
  have hm := passage_navigation settings j.left_navigation
  rw [navigationMember_of_reference hc] at hm
  rw [j.right_name]
  exact hm

theorem wiredManyToOne (target : Target) (h : r.classify l.table = Relationship.manyToOne) :
    WiredManyToOne settings (contextClass target plan) l p
      (r.memberNames inflector settings.navigationSuffix (r.classify l.table))
      (r.leftColumns.map Naming.humanize) (r.rightColumns.map Naming.humanize) := by
  have hl : (r.navigation inflector settings l.table i .left).cardinality = .manyToOne :=
    congrArg Ends.left h
  have hr : (r.navigation inflector settings l.table i .right).isCollection = true :=
    congrArg (fun c : Ends Cardinality => c.right.isCollection) h
  have hs := j.passage_statement target
  rw [relationshipStatement_of_manyToOne hl] at hs
  have hm := passage_navigation settings j.right_navigation
  rw [navigationMember_of_collection hr] at hm
  have hc : r.navigation inflector settings l.table i .right ∈ p.collections :=
    List.mem_filter.mpr ⟨j.right_navigation, hr⟩
  refine ⟨?_, j.passage_left_member, ?_, passage_constructorLines (List.ne_nil_of_mem hc), ?_⟩
  · rw [j.right_name]
    exact hs
  · rw [j.left_name]
    exact hm
  · have hi := List.mem_map_of_mem (f := initializer settings.collectionType) hc
    rw [initializer_eq] at hi
    rw [j.left_name]
    exact hi

theorem wiredOneToOne (target : Target) (h : r.classify l.table = Relationship.oneToOne) :
    WiredOneToOne settings (contextClass target plan) l p
      (r.memberNames inflector settings.navigationSuffix (r.classify l.table))
      (r.leftColumns.map Naming.humanize) (r.rightColumns.map Naming.humanize) := by
  have hl : (r.navigation inflector settings l.table i .left).cardinality = .oneToOne :=
    congrArg Ends.left h
  have hr : (r.navigation inflector settings l.table i .right).isCollection = false :=
    congrArg (fun c : Ends Cardinality => c.right.isCollection) h
  have hs := j.passage_statement target
  rw [relationshipStatement_of_oneToOne hl] at hs
  have hm := passage_navigation settings j.right_navigation
  rw [navigationMember_of_reference hr] at hm
  refine ⟨?_, j.passage_left_member, ?_⟩
  · rw [j.right_name]
    exact hs
  · rw [j.left_name]
    exact hm

end Joins

theorem exists_wired (h : db.plan inflector settings target = .ok plan)
    (hr : db.relationships[i]? = some r) :
    ∃ l p, plan.Wired settings target r l p
      (r.memberNames inflector settings.navigationSuffix (r.classify l.table)) := by
  obtain ⟨l, p, j⟩ := exists_joins h hr
  obtain ⟨hw, hd, rfl⟩ := plan_eq_ok_iff.mp h
  have hwr := hw r (List.mem_of_getElem? hr)
  refine ⟨l, p, j.left_mem, j.right_mem, j.left_table, j.right_table, ?_, ?_, ?_⟩
  · rcases r.classify_cases l.table with hc | hc
    · exact .inr ⟨hc, j.wiredOneToOne target hc⟩
    · exact .inl ⟨hc, j.wiredManyToOne target hc⟩
  · exact declaresScalars hd j.left_mem (j.left_table ▸ hwr.left)
  · exact declaresScalars hd j.right_mem (j.right_table ▸ hwr.right)

/-- The relationship of the employees with themselves. -/
theorem staff_managers_wired :
    ∃ plan, (staff []).plan ({} : Settings).inflector {} staffTarget = .ok plan ∧
      ∃ r, (staff []).relationships[0]? = some r ∧ ∃ l p,
        plan.Wired {} staffTarget r l p
          (r.memberNames ({} : Settings).inflector ({} : Settings).navigationSuffix
            (r.classify l.table)) := by
  obtain ⟨plan, h⟩ := exists_staff_plan
  exact ⟨plan, h, _, rfl, exists_wired (i := 0) h rfl⟩

end Database

end EntityGen
