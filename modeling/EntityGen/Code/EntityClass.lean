import EntityGen.Code.Escaping
import EntityGen.Plan

/-! # Entity classes

The class of an entity has annotations for its table, key and indexes, a constructor where it holds
collections, and a member for each property and each navigation.
-/

namespace EntityGen.Code

def nameofs (properties : List String) : String :=
  ", ".intercalate (properties.map fun p => s!"nameof({p})")

def booleanText (b : Bool) : String :=
  if b then "true" else "false"

def compositeKeyLine (e : EntityPlan) : String :=
  match e.key with
  | some key =>
    if 1 < key.properties.length then "[PrimaryKey(" ++ nameofs key.properties ++ ")]\n" else ""
  | none => ""

def indexLine (i : IndexPlan) : String :=
  "[Index(" ++ nameofs i.properties ++ ", Name = " ++ literal i.name ++ ", IsUnique = " ++
    booleanText i.unique ++ ")]\n"

def initializer (collectionType : String) (n : NavigationPlan) : String :=
  s!"        {n.name} = new {collectionType}<{n.targetEntity}>();\n"

/-- Only an entity with collections has a constructor. -/
def constructors (collectionType : String) (e : EntityPlan) : List String :=
  if e.collections.isEmpty then []
  else [s!"    public {e.name}()\n    \x7b\n" ++
    String.join (e.collections.map (initializer collectionType)) ++ "    \x7d\n"]

/-- The line that declares a member. -/
def memberLine (type name : String) : String :=
  s!"    public {type} {name} \x7b get; set; \x7d\n"

def annotation (text : String) : String :=
  s!"    [{text}]\n"

def facetAnnotations (t : ResolvedType) : String :=
  let length := match t.length with
    | some n => annotation s!"MaxLength({n})"
    | none => ""
  let precision := match t.precision with
    | some (p, some s) => annotation s!"Precision({p}, {s})"
    | some (p, none) => annotation s!"Precision({p})"
    | none => ""
  length ++ precision

def propertyMember (p : PropertyPlan) : String :=
  summary "    " p.column.note ++
    (if p.isKey then annotation "Key" else "") ++
    (if p.column.increment then annotation "DatabaseGenerated(DatabaseGeneratedOption.Identity)"
      else "") ++
    annotation ("Column(" ++ literal p.column.name ++ ")") ++
    (if p.required then annotation "Required" else "") ++
    facetAnnotations p.resolved ++
    memberLine p.typeName p.name

def navigationMember (n : NavigationPlan) : String :=
  if n.isCollection then
    annotation ("InverseProperty(" ++ literal n.inverse ++ ")") ++
      memberLine s!"virtual ICollection<{n.targetEntity}>" n.name
  else memberLine s!"virtual {n.targetEntity}" n.name

def members (collectionType : String) (e : EntityPlan) : List String :=
  constructors collectionType e ++ e.properties.map propertyMember ++
    e.navigations.map navigationMember

def entityClass (settings : Settings) (e : EntityPlan) : String :=
  summary "" e.table.note ++
    "[Table(" ++ literal e.table.name ++ ")]\n" ++
    compositeKeyLine e ++
    String.join (e.indexes.map indexLine) ++
    s!"public partial class {e.name}\n\x7b\n" ++
    "\n".intercalate (members settings.collectionType e) ++
    "\x7d\n"

end EntityGen.Code
