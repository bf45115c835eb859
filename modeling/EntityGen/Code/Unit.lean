import EntityGen.Code.Context
import EntityGen.Code.EntityClass

/-! # Generated units

The unit of a target is one file: a header, the enum types, the entity classes and the context. The
values of an enumeration stand in their declared order, repeated ones included.
-/

namespace EntityGen.Code

/-- One value to a line, with a comma after all but the last. -/
def enumValues (values : List String) : String :=
  ",\n".intercalate (values.map ("    " ++ ·)) ++ (if values.isEmpty then "" else "\n")

def enumType (e : Enumeration) : String :=
  s!"public enum {e.name}\n\x7b\n" ++ enumValues e.values ++ "\x7d\n"

def usings : List String := [
  "System", "System.Collections.Generic", "System.ComponentModel.DataAnnotations",
  "System.ComponentModel.DataAnnotations.Schema", "Microsoft.EntityFrameworkCore",
  "Microsoft.EntityFrameworkCore.Metadata.Builders"]

def header (settings : Settings) (target : Target) : String :=
  (if settings.emitHeader then "// <auto-generated />\n#nullable disable\n\n" else "") ++
    String.join (usings.map fun u => s!"using {u};\n") ++ "\n" ++
    (if target.nameSpace.isEmpty then "" else s!"namespace {target.nameSpace};\n\n")

def unit (settings : Settings) (target : Target) (plan : SchemaPlan) : String :=
  header settings target ++
    String.join (plan.database.enums.map (enumType · ++ "\n")) ++
    String.join (plan.entities.map (entityClass settings · ++ "\n")) ++
    contextClass target plan

end EntityGen.Code

namespace EntityGen

/-- The code for a database, or the reasons why there is none. -/
def generate (inflector : Inflector) (settings : Settings) (db : Database) (target : Target) :
    Except (List GenerationError) String :=
  (db.plan inflector settings target).map (Code.unit settings target)

end EntityGen
