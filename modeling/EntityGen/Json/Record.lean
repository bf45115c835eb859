import EntityGen.Json.Number
import EntityGen.Json.Skip

/-! # Readers of typed values

A record is an object with known fields in any order, or a list of its fields in their order.
Unknown fields are skipped, repeated ones are refused.
-/

namespace EntityGen.Json.Reader

/-- Reads the value that stands where `expected` is wanted, to name it in an error. -/
def found (expected : String) : Reader Found := do
  match ← peek with
  | none => failNext .endOfValue
  | some 'n' => skip; word ['u', 'l', 'l']; return .null
  | some 't' => skip; word ['r', 'u', 'e']; return .boolean true
  | some 'f' => skip; word ['a', 'l', 's', 'e']; return .boolean false
  | some '-' => skip; numberFound true
  | some '"' => skip; return .string (← stringBody)
  | some '[' => fail (.wrongType .sequence expected)
  | some '{' => fail (.wrongType .map expected)
  | some c => if c.isDigit then numberFound false else failNext .expectedValue

def wrongType {α : Type} (expected : String) : Reader α := do
  fail (.wrongType (← found expected) expected)

def text : Reader String := do
  match ← peek with
  | some '"' => skip; stringBody
  | _ => wrongType "a string"

def flag : Reader Bool := do
  match ← peek with
  | some 't' => skip; word ['r', 'u', 'e']; return true
  | some 'f' => skip; word ['a', 'l', 's', 'e']; return false
  | _ => wrongType "a boolean"

/-- `null` stands for an absent value. -/
def optional {α : Type} (read : Reader α) : Reader (Option α) := do
  match ← peek with
  | some 'n' => skip; word ['u', 'l', 'l']; return none
  | _ => return some (← read)

/-- Whether a list goes on, after the comma between its items. -/
def nextItem (first : Bool) : Reader Bool := do
  match ← peek with
  | none => failNext .endOfList
  | some ']' => return false
  | some ',' =>
    if first then return true
    else
      skip
      match ← peek with
      | some ']' => failNext .trailingComma
      | some _ => return true
      | none => failNext .endOfValue
  | some _ => if first then return true else failNext .expectedListEnd

/-- The closing bracket of a list. -/
def listEnd : Reader Unit := do
  match ← peek with
  | some ']' => skip
  | some ',' =>
    skip
    match ← peek with
    | some ']' => failNext .trailingComma
    | _ => failNext .trailingCharacters
  | some _ => failNext .trailingCharacters
  | none => failNext .endOfList

def items {α : Type} (read : Reader α) : List Char → Bool → Reader (List α)
  | [], _ => fail .endOfList
  | _ :: fuel, first => do
    if ← nextItem first then
      let x ← read
      return x :: (← items read fuel false)
    else return []

def list {α : Type} (read : Reader α) : Reader (List α) := do
  match ← peek with
  | some '[' =>
    skip
    let xs ← items read (← get).rest true
    listEnd
    return xs
  | _ => wrongType "a sequence"

/-- The next key of an object, after the comma between its members. -/
def nextKey (first : Bool) : Reader (Option String) := do
  match ← peek with
  | none => failNext .endOfObject
  | some '}' => return none
  | some ',' =>
    if first then failNext .keyNotString
    else
      skip
      match ← peek with
      | some '"' => skip; return some (← stringBody)
      | some '}' => failNext .trailingComma
      | some _ => failNext .keyNotString
      | none => failNext .endOfValue
  | some c =>
    if !first then failNext .expectedObjectEnd
    else if c = '"' then skip; return some (← stringBody)
    else failNext .keyNotString

def colon : Reader Unit := do
  match ← peek with
  | some ':' => skip
  | some _ => failNext .expectedColon
  | none => failNext .endOfObject

/-- Goes to the place where an object that is refused ends: past its brace, if that is next. -/
def objectEnd : Reader Unit := do
  if (← peek) = some '}' then skip

/-- A field of a record that is collected in parts of the type `ρ`. -/
structure Field (ρ : Type) where
  name : String
  isSet : ρ → Bool
  read : ρ → Reader ρ

def Field.of {ρ α : Type} (name : String) (get : ρ → Option α) (set : ρ → α → ρ)
    (read : Reader α) : Field ρ where
  name := name
  isSet := fun parts => (get parts).isSome
  read := fun parts => return set parts (← read)

/-- A record type. `build` gives the record of its parts, or the first field that is missing. -/
structure Record (ρ α : Type) where
  name : String
  empty : ρ
  fields : List (Field ρ)
  build : ρ → Except String α

variable {ρ α : Type}

/-- The members of an object up to its closing brace. -/
def members (record : Record ρ α) : List Char → Bool → ρ → Reader ρ
  | [], _, _ => fail .endOfObject
  | _ :: fuel, first, parts => do
    match ← nextKey first with
    | none => return parts
    | some key =>
      match record.fields.find? (·.name == key) with
      | none =>
        colon
        skipValue
        members record fuel false parts
      | some field =>
        if field.isSet parts then
          objectEnd
          fail (.duplicateField key)
        else
          colon
          members record fuel false (← field.read parts)

/-- The fields of a list, in their order, up to the end of the list. -/
def positional : List (Field ρ) → Bool → ρ → Reader ρ
  | [], _, parts => return parts
  | field :: fields, first, parts => do
    if ← nextItem first then positional fields false (← field.read parts)
    else return parts

/-- The position of the field with the given name. -/
def Record.position (record : Record ρ α) (name : String) : Nat :=
  record.fields.findIdx (·.name == name)

def Record.read (record : Record ρ α) : Reader α := do
  match ← peek with
  | some '{' =>
    skip
    let parts ← members record (← get).rest true record.empty
    objectEnd
    match record.build parts with
    | .ok x => return x
    | .error name => fail (.missingField name)
  | some '[' =>
    skip
    let parts ← positional record.fields true record.empty
    match record.build parts with
    | .ok x =>
      listEnd
      return x
    | .error name =>
      listEnd
      fail (.wrongLength (record.position name) record.name record.fields.length)
  | _ => wrongType ("struct " ++ record.name)

/-- The value of a required field. -/
def required (name : String) (value : Option α) : Except String α :=
  match value with
  | some x => .ok x
  | none => .error name

/-- An object whose values are all read alike; `add` takes each member in turn. -/
def entries (add : String → String → ρ → ρ) : List Char → Bool → ρ → Reader ρ
  | [], _, _ => fail .endOfObject
  | _ :: fuel, first, parts => do
    match ← nextKey first with
    | none => return parts
    | some key =>
      colon
      let value ← text
      entries add fuel false (add key value parts)

/-- An object that maps texts to texts. -/
def mapping (add : String → String → ρ → ρ) (empty : ρ) : Reader ρ := do
  match ← peek with
  | some '{' =>
    skip
    let parts ← entries add (← get).rest true empty
    objectEnd
    return parts
  | _ => wrongType "a map"

/-- Reads the whole text. -/
def whole (read : Reader α) (s : String) : Except Error α :=
  (do
    let x ← read
    if (← peek).isSome then failNext .trailingCharacters
    return x).run' ⟨s.toList, {}⟩

end EntityGen.Json.Reader
