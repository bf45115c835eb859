import EntityGen.Proofs.Command.StarterManifest
import EntityGen.Proofs.Plan.Acceptance

/-! # The schema of a new project

The schema is the same for all projects. It is planned for every context class that a manifest
of a new project can name, since none of its types has a name that ends in the same way.
-/

namespace EntityGen.Starter

variable {name : String}

/-- Users, posts and who follows whom. -/
def database : Database where
  tables := [
    { name := "users"
      note := some "Registered accounts"
      columns := [
        { name := "id", declaredType := "integer", primaryKey := true, increment := true },
        { name := "username", declaredType := "varchar(50)", notNull := true, unique := true },
        { name := "role", declaredType := "varchar(20)" },
        { name := "created_at", declaredType := "timestamp" }] },
    { name := "posts"
      columns := [
        { name := "id", declaredType := "integer", primaryKey := true, increment := true },
        { name := "title", declaredType := "varchar(200)", notNull := true },
        { name := "body", declaredType := "text", note := some "Content of the post" },
        { name := "user_id", declaredType := "integer", notNull := true },
        { name := "status", declaredType := "varchar(20)" },
        { name := "created_at", declaredType := "timestamp" }]
      indexes := [
        { columns := ["user_id", "created_at"], name := some "ix_posts_user_created" }] },
    { name := "follows"
      columns := [
        { name := "following_user_id", declaredType := "integer" },
        { name := "followed_user_id", declaredType := "integer" },
        { name := "created_at", declaredType := "timestamp" }]
      indexes := [
        { columns := ["following_user_id", "followed_user_id"], primaryKey := true }] }]
  relationships := [
    { leftTable := "posts", leftColumns := ["user_id"]
      rightTable := "users", rightColumns := ["id"] },
    { leftTable := "follows", leftColumns := ["following_user_id"]
      rightTable := "users", rightColumns := ["id"] },
    { leftTable := "follows", leftColumns := ["followed_user_id"]
      rightTable := "users", rightColumns := ["id"] }]
  enums := [{ name := "PostStatus", values := ["Draft", "Published", "Archived"] }]

theorem toList_schemaText : schemaText.toList =
    schemaLines.flatMap fun line => line.toList ++ ['\n'] := by
  rw [schemaText, textOfLines, String.toList_join, List.flatMap_map]
  exact List.flatMap_congr fun line _ => String.toList_append

/-- The schema is read back. Its characters are spelled out before, since that is the slow part of
an evaluation. -/
theorem ofJson_schemaText : Database.ofJson schemaText = .ok database := by
  rw [Database.ofJson, Json.Reader.whole, toList_schemaText, schemaLines]
  simp only [String.toList_append, List.flatMap_cons, List.flatMap_nil, String.reduceToList,
    List.append_nil, List.cons_append, List.nil_append]
  decide +kernel

/-- No type of the schema has a name that ends like a context class. -/
theorem nodup_typeNames (name : String) :
    (database.typeNames ({} : Settings).inflector (target name)).Nodup := by
  have hnodup : (database.tables.map (fun t => ({} : Settings).inflector.entityName t.name) ++
    database.enums.map (·.name)).Nodup := by decide +kernel
  have hcontext : ∀ type ∈ database.tables.map
      (fun t => ({} : Settings).inflector.entityName t.name) ++ database.enums.map (·.name),
      ¬ "Context".toList <:+ type.toList := by decide +kernel
  refine List.nodup_cons.mpr ⟨fun hm => hcontext _ hm ?_, hnodup⟩
  rw [target, String.toList_append]
  exact List.suffix_append _ _

theorem distinctNames (name : String) :
    database.DistinctNames ({} : Settings).inflector {} (target name) :=
  ⟨nodup_typeNames name, by decide +kernel⟩

theorem wellFormed : ∀ r ∈ database.relationships, r.WellFormed database := by
  decide +kernel

def plan : SchemaPlan :=
  ⟨database, database.entityPlans ({} : Settings).inflector {}⟩

theorem plan_database (name : String) :
    database.plan ({} : Settings).inflector {} (target name) = .ok plan :=
  Database.plan_of_distinct wellFormed (distinctNames name)

end EntityGen.Starter
