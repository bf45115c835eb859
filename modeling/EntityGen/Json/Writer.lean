import EntityGen.Settings
import EntityGen.Schema

/-! # Writing JSON

The JSON text of a database or of settings. Fields stand in the order of their declaration, and an
absent note or name is left out.
-/

namespace EntityGen.Json

def hexDigit (n : Nat) : Char :=
  (Nat.toDigits 16 n).headD '0'

/-- A quote, a backslash and the control characters are escaped. -/
def escapeChar (c : Char) : List Char :=
  match c with
  | '"' => ['\\', '"']
  | '\\' => ['\\', '\\']
  | '\x08' => ['\\', 'b']
  | '\x0c' => ['\\', 'f']
  | '\n' => ['\\', 'n']
  | '\r' => ['\\', 'r']
  | '\t' => ['\\', 't']
  | c =>
    if c.toNat < 0x20 then ['\\', 'u', '0', '0', hexDigit (c.toNat / 16), hexDigit (c.toNat % 16)]
    else [c]

def string (s : String) : String :=
  String.ofList ('"' :: s.toList.flatMap escapeChar ++ ['"'])

def boolean (b : Bool) : String :=
  if b then "true" else "false"

/-- An array of values that are written already. -/
def array (items : List String) : String :=
  "[" ++ ",".intercalate items ++ "]"

def strings (texts : List String) : String :=
  array (texts.map string)

/-- An object whose values are written already. -/
def object (members : List (String × String)) : String :=
  "\x7b" ++ ",".intercalate (members.map fun m => string m.1 ++ ":" ++ m.2) ++ "\x7d"

/-- A member that is left out where there is no text. -/
def optionalMember (name : String) (value : Option String) : List (String × String) :=
  match value with
  | some s => [(name, string s)]
  | none => []

end EntityGen.Json

namespace EntityGen

open Json

def Column.toJson (c : Column) : String :=
  object ([
    ("name", string c.name),
    ("type", string c.declaredType),
    ("nullable", boolean c.nullable),
    ("not_null", boolean c.notNull),
    ("primary_key", boolean c.primaryKey),
    ("increment", boolean c.increment),
    ("unique", boolean c.unique)] ++ optionalMember "note" c.note)

def Index.toJson (i : Index) : String :=
  object ([
    ("columns", strings i.columns),
    ("unique", boolean i.unique),
    ("primary_key", boolean i.primaryKey)] ++ optionalMember "name" i.name)

def Table.toJson (t : Table) : String :=
  object ([
    ("name", string t.name),
    ("columns", array (t.columns.map (·.toJson))),
    ("indexes", array (t.indexes.map (·.toJson)))] ++ optionalMember "note" t.note)

def Relationship.toJson (r : Relationship) : String :=
  object (optionalMember "name" r.name ++ [
    ("left_table", string r.leftTable),
    ("left_columns", strings r.leftColumns),
    ("right_table", string r.rightTable),
    ("right_columns", strings r.rightColumns)])

def Enumeration.toJson (e : Enumeration) : String :=
  object [("name", string e.name), ("values", strings e.values)]

def Database.toJson (db : Database) : String :=
  object [
    ("tables", array (db.tables.map (·.toJson))),
    ("relationships", array (db.relationships.map (·.toJson))),
    ("enums", array (db.enums.map (·.toJson)))]

def Target.toJson (t : Target) : String :=
  object [
    ("class_name", string t.className),
    ("namespace", string t.nameSpace),
    ("source", string t.source)]

def Inflections.toJson (i : Inflections) : String :=
  object [
    ("irregular", object (i.irregular.map fun p => (p.1, string p.2))),
    ("uncountable", strings i.uncountable)]

def Settings.toJson (s : Settings) : String :=
  object [
    ("navigation_suffix", string s.navigationSuffix),
    ("collection_type", string s.collectionType),
    ("emit_header", boolean s.emitHeader),
    ("inflections", s.inflections.toJson)]

end EntityGen
