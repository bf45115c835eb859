import EntityGen.Toml.Value

/-! # Typed values of TOML

A decoder turns a value into a typed one, or fails where the type is wrong. A record is a table, or
a list of its fields in their order; unknown fields do not count. A date counts as a table with its
text as the only value.
-/

namespace EntityGen.Toml

namespace Value

def string? : Value → Option String
  | string s => some s
  | _ => none

def boolean? : Value → Option Bool
  | boolean b => some b
  | _ => none

def items? : Value → Option (List Value)
  | array items => some items
  | tables items => some items
  | _ => none

/-- The key of the text of a date. -/
def dateKey : String := "$__toml_private_datetime"

def entries? : Value → Option Entries
  | table _ entries => some entries
  | dateTime d => some [(dateKey, string d.text)]
  | _ => none

def list? {α : Type} (decode : Value → Option α) (v : Value) : Option (List α) :=
  v.items?.bind (·.mapM decode)

/-- The entries of a record with the given fields. -/
def record? (fields : List String) (v : Value) : Option Entries :=
  v.entries?.or (v.items?.map fields.zip)

end Value

namespace Entries

def required? {α : Type} (entries : Entries) (key : String) (decode : Value → Option α) :
    Option α :=
  (entries.lookup key).bind decode

def withDefault? {α : Type} (entries : Entries) (key : String) (default : α)
    (decode : Value → Option α) : Option α :=
  match entries.lookup key with
  | some v => decode v
  | none => some default

end Entries

end EntityGen.Toml
