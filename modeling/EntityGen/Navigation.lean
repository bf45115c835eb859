import EntityGen.Cardinality
import EntityGen.Naming.Words

/-! # Names of navigations

Each end of a relationship gets a member. A single foreign-key column may give a qualifier, which
names both members; else each is named for the entity on the other end. Clashes that remain are for
planning to report.
-/

namespace EntityGen

/-- Texts that differ at most in the case of ASCII letters. -/
def equalIgnoringCase (s t : String) : Bool :=
  s.toList.map Char.toLower == t.toList.map Char.toLower

namespace Relationship

variable (inflector : Inflector)

/-- The meaning of a single foreign-key column, unless it repeats the entity or is just `id`. -/
def qualifier? (r : Relationship) (referenced : String) : Option String :=
  match r.leftColumns with
  | [column] =>
    let qualifier := inflector.qualifier (Naming.humanize column)
    if !qualifier.isEmpty && !equalIgnoringCase qualifier referenced &&
        !equalIgnoringCase qualifier "id" then
      some qualifier
    else none
  | _ => none

/-- A collection takes the plural, a navigation to one entity the suffix. -/
def memberName (suffix base : String) (c : Cardinality) : String :=
  if c.isCollection then inflector.plural base else base ++ suffix

/-- What the member names on both ends are built from. -/
def baseNames (r : Relationship) : Ends String :=
  let referenced := inflector.entityName r.rightTable
  match r.qualifier? inflector referenced with
  | some qualifier => ⟨qualifier, qualifier⟩
  | none => ⟨referenced, inflector.entityName r.leftTable⟩

/-- The member names. On a table that refers to itself the two members must not share a name, so
the right one then starts with `Inverse`. -/
def memberNames (suffix : String) (r : Relationship) (kind : Ends Cardinality) : Ends String :=
  let base := r.baseNames inflector
  let left := memberName inflector suffix base.left kind.left
  let right := memberName inflector suffix base.right kind.right
  if r.isSelfReferencing && left == right then
    ⟨left, memberName inflector suffix ("Inverse" ++ base.right) kind.right⟩
  else ⟨left, right⟩

end Relationship

end EntityGen
