import EntityGen.Json.Cursor
import EntityGen.Text.Quoted

/-! # Errors in a JSON text

An error is a problem and its place. A text that is no JSON, and JSON that does not have the form of
a schema, give errors of one kind.
-/

namespace EntityGen.Json

/-- A value that stands where another type is wanted. -/
inductive Found
  | null
  | boolean (b : Bool)
  | integer (text : String)
  | float (text : String)
  | string (s : String)
  | sequence
  | map
  deriving Repr, DecidableEq

def Found.text : Found → String
  | null => "null"
  | boolean b => if b then "boolean `true`" else "boolean `false`"
  | integer text => s!"integer `{text}`"
  | float text => s!"floating point `{text}`"
  | string s => "string " ++ Text.quote s
  | sequence => "sequence"
  | map => "map"

inductive Problem
  | endOfValue
  | endOfString
  | endOfList
  | endOfObject
  | expectedValue
  | expectedIdent
  | expectedColon
  | expectedListEnd
  | expectedObjectEnd
  | keyNotString
  | trailingComma
  | trailingCharacters
  | controlCharacter
  | invalidEscape
  | endOfSurrogates
  | loneSurrogate
  | invalidNumber
  | numberOutOfRange
  | wrongType (found : Found) (expected : String)
  | wrongLength (length : Nat) (record : String) (fields : Nat)
  | missingField (name : String)
  | duplicateField (name : String)
  deriving Repr, DecidableEq

def Problem.text : Problem → String
  | endOfValue => "EOF while parsing a value"
  | endOfString => "EOF while parsing a string"
  | endOfList => "EOF while parsing a list"
  | endOfObject => "EOF while parsing an object"
  | expectedValue => "expected value"
  | expectedIdent => "expected ident"
  | expectedColon => "expected `:`"
  | expectedListEnd => "expected `,` or `]`"
  | expectedObjectEnd => "expected `,` or `\x7d`"
  | keyNotString => "key must be a string"
  | trailingComma => "trailing comma"
  | trailingCharacters => "trailing characters"
  | controlCharacter => "control character (\\u0000-\\u001F) found while parsing a string"
  | invalidEscape => "invalid escape"
  | endOfSurrogates => "unexpected end of hex escape"
  | loneSurrogate => "lone leading surrogate in hex escape"
  | invalidNumber => "invalid number"
  | numberOutOfRange => "number out of range"
  | wrongType found expected => s!"invalid type: {found.text}, expected {expected}"
  | wrongLength length record fields =>
    s!"invalid length {length}, expected struct {record} with {fields} elements"
  | missingField name => s!"missing field `{name}`"
  | duplicateField name => s!"duplicate field `{name}`"

structure Error where
  problem : Problem
  place : Place
  deriving Repr, DecidableEq

def Error.message (e : Error) : String :=
  s!"{e.problem.text} at line {e.place.line} column {e.place.column}"

end EntityGen.Json
