import EntityGen.Code.Escaping
import EntityGen.Plan

/-! # The context class

The context has a set for each entity and the mapping of the model. A relationship is wired once, in
the block of the entity on its left side.
-/

namespace EntityGen.Code

def setLine (e : EntityPlan) : String :=
  s!"    public virtual DbSet<{e.name}> {e.setName} \x7b get; set; \x7d\n"

def configureLine (e : EntityPlan) : String :=
  s!"    partial void OnConfigurePartial(EntityTypeBuilder<{e.name}> entity);\n"

def keyStatement (e : EntityPlan) : String :=
  match e.key with
  | some key =>
    "            entity.HasKey(" ++ literals key.properties ++ ")\n                .HasName(" ++
      literal key.name ++ ");\n"
  | none => "            entity.HasNoKey();\n"

def indexStatement (i : IndexPlan) : String :=
  "            entity.HasIndex(" ++ literals i.properties ++ ")\n" ++
    (if i.unique then "                .IsUnique()\n" else "") ++
    "                .HasDatabaseName(" ++ literal i.name ++ ");\n"

/-- One call of a statement, below its first line. -/
def callLine (method : String) (arguments : List String) : String :=
  "                ." ++ method ++ "(" ++ literals arguments ++ ")"

/-- A one-to-one relationship has to say which side holds the foreign key. -/
def relationshipStatement (entity : String) (n : NavigationPlan) : String :=
  let oneToOne := n.cardinality == .oneToOne
  s!"            entity.HasOne<{n.targetEntity}>(" ++ literal n.name ++ ")\n" ++
    callLine (if oneToOne then "WithOne" else "WithMany") [n.inverse] ++ "\n" ++
    callLine (if oneToOne then s!"HasForeignKey<{entity}>" else "HasForeignKey") n.foreignKey ++
      "\n" ++
    callLine (if oneToOne then s!"HasPrincipalKey<{n.targetEntity}>" else "HasPrincipalKey")
      n.principalKey ++ ";\n"

def statements (e : EntityPlan) : List String :=
  ["            entity.ToTable(" ++ literal e.table.name ++ ");\n", keyStatement e] ++
    e.indexes.map indexStatement ++
    e.owned.map (relationshipStatement e.name) ++
    ["            OnConfigurePartial(entity);\n"]

def entityBlock (e : EntityPlan) : String :=
  s!"        modelBuilder.Entity<{e.name}>(entity =>\n        \x7b\n" ++
    "\n".intercalate (statements e) ++
    "        \x7d);\n\n"

/-- Lines with an empty line after them, unless there are none. -/
def paragraph (lines : List String) : String :=
  if lines.isEmpty then "" else String.join lines ++ "\n"

def contextClass (target : Target) (plan : SchemaPlan) : String :=
  s!"public partial class {target.className}\n\x7b\n" ++
    paragraph (plan.entities.map setLine) ++
    "    partial void OnModelCreatingPartial(ModelBuilder modelBuilder);\n\n" ++
    paragraph (plan.entities.map configureLine) ++
    "    protected override void OnModelCreating(ModelBuilder modelBuilder)\n    \x7b\n" ++
    "        base.OnModelCreating(modelBuilder);\n\n" ++
    String.join (plan.entities.map entityBlock) ++
    "        OnModelCreatingPartial(modelBuilder);\n    \x7d\n\x7d\n"

end EntityGen.Code
