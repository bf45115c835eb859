import EntityGen.Proofs.Code.ClassHead
import EntityGen.Proofs.Code.Mentions
import EntityGen.Proofs.Naming.Caseless

/-! # Keys in the generated code

The key of an entity shows in the annotation of its class, in the marks and types of its properties
and in its mapping. When the key columns exist, all of these agree on the properties of the key and
on their order.
-/

namespace EntityGen

namespace Code

/-! ## The statement of a key -/

def hasKeyStatement (names : List String) (constraint : String) : String :=
  "            entity.HasKey(" ++ literals names ++ ")\n                .HasName(" ++
    literal constraint ++ ");\n"

def hasNoKeyStatement : String :=
  "            entity.HasNoKey();\n"

/-- The starts of the statements that set a key, or that say that there is none. -/
def keyMarks : List String :=
  ["            entity.HasKey(", "            entity.HasNoKey("]

def isKeyStatement (s : String) : Bool :=
  keyMarks.any fun mark => mark.toList.isPrefixOf s.toList

/-- The block that maps an entity, up to the statement for its key. -/
def blockStart (e : EntityPlan) : String :=
  s!"        modelBuilder.Entity<{e.name}>(entity =>\n        \x7b\n" ++
    s!"            entity.ToTable({literal e.table.name});\n" ++ "\n"

/-- The block of the entity in the context has this one statement for the key. -/
structure MapsKey (target : Target) (plan : SchemaPlan) (e : EntityPlan) (statement : String) :
    Prop where
  shown : Passage (blockStart e ++ statement) (contextClass target plan)
  only : (statements e).filter isKeyStatement = [statement]

variable {target : Target} {plan : SchemaPlan} {e : EntityPlan}

theorem keyStatement_of_some {key : KeyPlan} (h : e.key = some key) :
    keyStatement e = hasKeyStatement key.properties key.name := by
  rw [keyStatement, h]
  rfl

theorem keyStatement_of_none (h : e.key = none) : keyStatement e = hasNoKeyStatement := by
  rw [keyStatement, h]
  rfl

theorem isPrefixOf_append {p q : List Char} (h : p <+: q ∨ ¬ q <+: p) (r : List Char) :
    p.isPrefixOf (q ++ r) = p.isPrefixOf q := by
  rw [Bool.eq_iff_iff, List.isPrefixOf_iff_prefix, List.isPrefixOf_iff_prefix]
  constructor
  · intro hp
    rcases List.prefix_or_prefix_of_prefix hp (List.prefix_append q r) with hq | hq
    · exact hq
    · exact h.resolve_right (not_not.mpr hq)
  · exact fun hp => hp.trans (List.prefix_append q r)

/-- The start of a statement decides, as long as it does not stop inside a mark. -/
theorem isKeyStatement_append {start : String}
    (h : ∀ mark ∈ keyMarks, mark.toList <+: start.toList ∨ ¬ start.toList <+: mark.toList)
    (rest : String) : isKeyStatement (start ++ rest) = isKeyStatement start := by
  rw [Bool.eq_iff_iff, isKeyStatement, isKeyStatement, List.any_eq_true, List.any_eq_true]
  refine exists_congr fun mark => and_congr_right fun hm => ?_
  rw [String.toList_append, isPrefixOf_append (h mark hm)]

theorem isKeyStatement_keyStatement (e : EntityPlan) : isKeyStatement (keyStatement e) = true := by
  unfold keyStatement
  split
  · have hstart : isKeyStatement "            entity.HasKey(" = true := by decide
    simp only [String.append_assoc]
    rw [isKeyStatement_append (by decide), hstart]
  · decide

theorem isKeyStatement_indexStatement (i : IndexPlan) :
    isKeyStatement (indexStatement i) = false := by
  have hstart : isKeyStatement "            entity.HasIndex(" = false := by decide
  unfold indexStatement
  simp only [String.append_assoc]
  rw [isKeyStatement_append (by decide), hstart]

theorem isKeyStatement_relationshipStatement (entity : String) (n : NavigationPlan) :
    isKeyStatement (relationshipStatement entity n) = false := by
  have hstart : isKeyStatement "            entity.HasOne<" = false := by decide
  unfold relationshipStatement
  simp only [toString, String.append_assoc]
  rw [isKeyStatement_append (by decide), hstart]

theorem filter_isKeyStatement (e : EntityPlan) :
    (statements e).filter isKeyStatement = [keyStatement e] := by
  have htable : isKeyStatement ("            entity.ToTable(" ++ literal e.table.name ++ ");\n") =
      false := by
    have hstart : isKeyStatement "            entity.ToTable(" = false := by decide
    rw [String.append_assoc, isKeyStatement_append (by decide), hstart]
  have hindexes : (e.indexes.map indexStatement).filter isKeyStatement = [] := by
    refine List.filter_eq_nil_iff.mpr fun s hs => ?_
    obtain ⟨i, -, rfl⟩ := List.mem_map.mp hs
    rw [isKeyStatement_indexStatement]
    exact Bool.false_ne_true
  have howned : (e.owned.map (relationshipStatement e.name)).filter isKeyStatement = [] := by
    refine List.filter_eq_nil_iff.mpr fun s hs => ?_
    obtain ⟨n, -, rfl⟩ := List.mem_map.mp hs
    rw [isKeyStatement_relationshipStatement]
    exact Bool.false_ne_true
  have hlast : isKeyStatement "            OnConfigurePartial(entity);\n" = false := by decide
  rw [statements, List.filter_append, List.filter_append, List.filter_append, hindexes, howned,
    List.filter_cons_of_neg (by rw [htable]; exact Bool.false_ne_true),
    List.filter_cons_of_pos (isKeyStatement_keyStatement e),
    List.filter_cons_of_neg (by rw [hlast]; exact Bool.false_ne_true)]
  rfl

theorem statements_eq (e : EntityPlan) :
    ∃ rest ≠ [], statements e =
      ("            entity.ToTable(" ++ literal e.table.name ++ ");\n") :: keyStatement e ::
        rest := by
  refine ⟨e.indexes.map indexStatement ++ (e.owned.map (relationshipStatement e.name) ++
    ["            OnConfigurePartial(entity);\n"]), by simp, ?_⟩
  simp only [statements, List.cons_append, List.nil_append, List.append_assoc]

theorem passage_keyStatement (e : EntityPlan) :
    Passage (blockStart e ++ keyStatement e) (entityBlock e) := by
  obtain ⟨rest, hn, hs⟩ := statements_eq e
  have hblock : entityBlock e = blockStart e ++ keyStatement e ++
      ("\n" ++ "\n".intercalate rest ++ "        \x7d);\n\n") := by
    unfold entityBlock blockStart
    rw [hs, String.intercalate_cons_cons, String.intercalate_cons_of_ne_nil hn]
    simp only [toString, String.append_assoc]
  exact hblock ▸ Passage.left _ _

theorem mapsKey (target : Target) (he : e ∈ plan.entities) :
    MapsKey target plan e (keyStatement e) :=
  ⟨(passage_keyStatement e).contextClass he, filter_isKeyStatement e⟩

end Code

/-! ## Properties of the key -/

theorem filter_eq_singleton_of_nodup {α : Type} {key : α → String} {xs : List α} {x : α}
    (hn : (xs.map key).Nodup) (hx : x ∈ xs) : xs.filter (key · == key x) = [x] := by
  induction xs with
  | nil => exact absurd hx List.not_mem_nil
  | cons y ys ih =>
    obtain ⟨hy, hys⟩ := List.nodup_cons.mp hn
    rcases List.mem_cons.mp hx with rfl | hm
    · have hrest : ys.filter (key · == key x) = [] := by
        refine List.filter_eq_nil_iff.mpr fun z hz he => hy ?_
        exact List.mem_map.mpr ⟨z, hz, by simpa using he⟩
      rw [List.filter_cons_of_pos (by simp), hrest]
    · have hne : key y ≠ key x := fun he => hy (he ▸ List.mem_map_of_mem hm)
      rw [List.filter_cons_of_neg (by simpa using hne), ih hys hm]

theorem ColumnType.question_not_mem_render (t : ColumnType) : '?' ∉ (t.render false).toList := by
  induction t with
  | scalar s => cases s <;> decide
  | array element ih =>
    rw [render, String.toList_append, List.mem_append, not_or]
    exact ⟨ih, by decide⟩

namespace Table

variable {t : Table} {c : Column}

theorem keyPlan?_cases (t : Table) :
    t.keyPlan? = none ∧ t.keyColumns = [] ∨
      ∃ name, t.keyColumns ≠ [] ∧ t.keyPlan? = some ⟨t.keyColumns.map Naming.humanize, name⟩ := by
  unfold keyPlan? keyColumns
  cases hk : t.primaryKey? with
  | none => exact .inl ⟨rfl, rfl⟩
  | some key => exact .inr ⟨_, primaryKey?_columns_ne_nil hk, rfl⟩

theorem propertyPlan_nullable (h : c.name ∈ t.keyColumns ∨ c.primaryKey = true) :
    (t.propertyPlan c).nullable = false := by
  rcases h with h | h
  · simp [propertyPlan, h]
  · simp [propertyPlan, Column.isNullable, h]

theorem filter_isKey_of_length_ne_one (h : t.keyColumns.length ≠ 1) :
    (t.columns.map t.propertyPlan).filter (·.isKey) = [] := by
  rw [List.filter_map, List.map_eq_nil_iff, List.filter_eq_nil_iff]
  intro c _ hk
  have hkey : t.keyColumns = [c.name] := by simpa [propertyPlan] using hk
  exact h (by rw [hkey, List.length_singleton])

theorem filter_isKey_of_singleton (hn : (t.columns.map (·.name)).Nodup) (hc : c ∈ t.columns)
    (h : t.keyColumns = [c.name]) :
    (t.columns.map t.propertyPlan).filter (·.isKey) = [t.propertyPlan c] := by
  have hkey : ((·.isKey) ∘ t.propertyPlan) = fun d : Column => d.name == c.name := by
    funext d
    simp [propertyPlan, h, eq_comm]
  rw [List.filter_map, hkey, filter_eq_singleton_of_nodup hn hc, List.map_singleton]

end Table

/-- The parts of the generated code that show the key of an entity agree on it. -/
structure SchemaPlan.KeyAgrees (settings : Settings) (target : Target) (plan : SchemaPlan)
    (e : EntityPlan) : Prop where
  none : e.table.keyColumns = [] →
    e.key = none ∧ e ∈ plan.keyless ∧ e.properties.filter (·.isKey) = [] ∧
      Code.keyLines (Code.entityClass settings e) = [] ∧
      Code.MapsKey target plan e Code.hasNoKeyStatement
  single : ∀ column, e.table.keyColumns = [column] →
    ∃ p constraint, e.property? column = some p ∧ e.key = some ⟨[p.name], constraint⟩ ∧
      e.properties.filter (·.isKey) = [p] ∧
      Code.keyLines (Code.entityClass settings e) = [] ∧
      Code.MapsKey target plan e (Code.hasKeyStatement [p.name] constraint)
  composite : 1 < e.table.keyColumns.length →
    ∃ ps : List PropertyPlan, ∃ constraint, e.table.keyColumns.map e.property? = ps.map some ∧
      e.key = some ⟨ps.map (·.name), constraint⟩ ∧ e.properties.filter (·.isKey) = [] ∧
      Code.keyLines (Code.entityClass settings e) = [Code.keyLine (ps.map (·.name))] ∧
      Code.MapsKey target plan e (Code.hasKeyStatement (ps.map (·.name)) constraint)
  notNull : ∀ p ∈ e.properties, p.column.name ∈ e.table.keyColumns ∨ p.column.primaryKey = true →
    p.nullable = false ∧ '?' ∉ p.typeName.toList

namespace Database

variable {inflector : Inflector} {settings : Settings} {db : Database} {target : Target}
  {plan : SchemaPlan} {e : EntityPlan}

theorem DistinctNames.columns_nodup (hd : db.DistinctNames inflector settings target)
    (he : e ∈ db.entityPlans inflector settings) : (e.table.columns.map (·.name)).Nodup := by
  have hs := hd.members e he
  rw [EntityPlan.scopeNames, List.cons_append, List.nodup_cons, List.nodup_append,
    properties_names_eq he, Table.propertyNames, ← Function.comp_def Naming.humanize,
    ← List.map_map] at hs
  exact hs.2.1.of_map

theorem property?_eq_some (hd : db.DistinctNames inflector settings target)
    (he : e ∈ db.entityPlans inflector settings) {c : Column} (hc : c ∈ e.table.columns) :
    e.property? c.name = some (e.table.propertyPlan c) := by
  have hp := properties_of_mem_entityPlans he
  have hn : (e.properties.map (·.column.name)).Nodup := by
    rw [hp, List.map_map]
    exact hd.columns_nodup he
  have hm : e.table.propertyPlan c ∈ e.properties := hp ▸ List.mem_map_of_mem hc
  exact find?_eq_some_of_nodup hn hm

theorem exists_properties (hd : db.DistinctNames inflector settings target)
    (he : e ∈ db.entityPlans inflector settings) {names : List String}
    (hn : ∀ name ∈ names, e.table.HasColumn name) :
    ∃ ps : List PropertyPlan, names.map e.property? = ps.map some ∧
      ps.map (·.name) = names.map Naming.humanize := by
  induction names with
  | nil => exact ⟨[], rfl, rfl⟩
  | cons name names ih =>
    obtain ⟨⟨c, hc, rfl⟩, hrest⟩ := List.forall_mem_cons.mp hn
    obtain ⟨ps, hps, hnames⟩ := ih hrest
    refine ⟨e.table.propertyPlan c :: ps, ?_, ?_⟩
    · rw [List.map_cons, property?_eq_some hd he hc, hps, List.map_cons]
    · rw [List.map_cons, hnames, List.map_cons, Table.propertyPlan_name]

theorem oneLineNames (he : e ∈ db.entityPlans inflector settings) : Code.OneLineNames e := by
  have hp := (table_of_mem_entityPlans he).2
  have hkey : e.key = e.table.keyPlan? := congrArg EntityPlan.key hp
  have hindexes : e.indexes = e.table.indexPlans (inflector.entityName e.table.name) :=
    congrArg EntityPlan.indexes hp
  have hone : ∀ columns : List String, ∀ name ∈ columns.map Naming.humanize, Code.OneLine name := by
    intro columns name hn
    obtain ⟨c, -, rfl⟩ := List.mem_map.mp hn
    exact Naming.lineFeed_not_mem_humanize c
  refine ⟨fun key hk => ?_, ?_⟩
  · rw [hkey] at hk
    rcases e.table.keyPlan?_cases with ⟨hn, -⟩ | ⟨name, -, hs⟩
    · rw [hn] at hk
      cases hk
    · obtain rfl := Option.some.inj (hs.symm.trans hk)
      exact hone _
  · rw [hindexes, Table.forall_mem_indexPlans_iff (P := fun s => ∀ name ∈ s, Code.OneLine name)]
    intro i hi
    simp only [Table.declaredIndexes, List.mem_append, List.mem_map] at hi
    rcases hi with ⟨d, -, rfl⟩ | ⟨c, -, rfl⟩
    · exact hone d.columns
    · exact hone [c.name]

theorem key_cases (he : e ∈ db.entityPlans inflector settings) :
    e.key = none ∧ e.table.keyColumns = [] ∨
      ∃ constraint, e.table.keyColumns ≠ [] ∧
        e.key = some ⟨e.table.keyColumns.map Naming.humanize, constraint⟩ := by
  have hkey : e.key = e.table.keyPlan? :=
    congrArg EntityPlan.key (table_of_mem_entityPlans he).2
  rw [hkey]
  exact e.table.keyPlan?_cases

theorem property_notNull (he : e ∈ db.entityPlans inflector settings) {p : PropertyPlan}
    (hp : p ∈ e.properties)
    (hk : p.column.name ∈ e.table.keyColumns ∨ p.column.primaryKey = true) :
    p.nullable = false ∧ '?' ∉ p.typeName.toList := by
  rw [properties_of_mem_entityPlans he, List.mem_map] at hp
  obtain ⟨c, -, rfl⟩ := hp
  have hn : (e.table.propertyPlan c).nullable = false := Table.propertyPlan_nullable hk
  refine ⟨hn, ?_⟩
  rw [PropertyPlan.typeName, hn]
  exact ColumnType.question_not_mem_render _

/-- The parts agree for every mix of flags and indexes that gives the key, as long as its columns
exist. -/
theorem keyAgrees (h : db.plan inflector settings target = .ok plan) (he : e ∈ plan.entities)
    (hc : ∀ column ∈ e.table.keyColumns, e.table.HasColumn column) :
    plan.KeyAgrees settings target e := by
  obtain ⟨-, hd, rfl⟩ := plan_eq_ok_iff.mp h
  have hproperties := properties_of_mem_entityPlans he
  have hlines := Code.keyLines_entityClass settings (oneLineNames he)
  have hmaps := Code.mapsKey target he
  have hunmarked : e.table.keyColumns.length ≠ 1 → e.properties.filter (·.isKey) = [] := by
    rw [hproperties]
    exact Table.filter_isKey_of_length_ne_one
  refine ⟨fun hk => ?_, fun column hk => ?_, fun hk => ?_, fun p => property_notNull he⟩
  · rcases key_cases he with ⟨hn, -⟩ | ⟨constraint, hne, -⟩
    · rw [Code.keyStatement_of_none hn] at hmaps
      rw [hn] at hlines
      exact ⟨hn, List.mem_filter.mpr ⟨he, Option.isNone_iff_eq_none.mpr hn⟩,
        hunmarked (by simp [hk]), hlines, hmaps⟩
    · exact absurd hk hne
  · rcases key_cases he with ⟨-, hn⟩ | ⟨constraint, -, hs⟩
    · exact absurd (hn.symm.trans hk) (by simp)
    obtain ⟨c, hm, rfl⟩ := hc column (by simp [hk])
    rw [hk] at hs
    rw [Code.keyStatement_of_some hs] at hmaps
    rw [hs] at hlines
    refine ⟨_, constraint, property?_eq_some hd he hm, hs, ?_, hlines, hmaps⟩
    rw [hproperties]
    exact Table.filter_isKey_of_singleton (hd.columns_nodup he) hm hk
  · rcases key_cases he with ⟨-, hn⟩ | ⟨constraint, -, hs⟩
    · exact absurd hk (by simp [hn])
    obtain ⟨ps, hps, hnames⟩ := exists_properties hd he hc
    have hlength : 1 < (ps.map (·.name)).length := by simpa [hnames] using hk
    rw [← hnames] at hs
    rw [Code.keyStatement_of_some hs] at hmaps
    rw [hs, Option.filter_some, if_pos (by simpa using hlength)] at hlines
    exact ⟨ps, constraint, hps, hs, hunmarked (by omega), hlines, hmaps⟩

/-- The badges with a key of two columns. -/
theorem staff_badges_keyAgrees :
    ∃ plan, (staff [{ columns := ["employee_id", "id"], primaryKey := true }]).plan
        ({} : Settings).inflector {} staffTarget = .ok plan ∧
      ∀ e ∈ plan.entities, plan.KeyAgrees {} staffTarget e := by
  have h : (staff [{ columns := ["employee_id", "id"], primaryKey := true }]).plan
      ({} : Settings).inflector {} staffTarget = .ok ⟨_, _⟩ := rfl
  have hc : ∀ t ∈ (staff [{ columns := ["employee_id", "id"], primaryKey := true }]).tables,
      ∀ column ∈ t.keyColumns, ∃ c ∈ t.columns, c.name = column := by
    decide +kernel
  exact ⟨_, h, fun e he => keyAgrees h he (hc _ (table_of_mem_entityPlans he).1)⟩

end Database

end EntityGen
