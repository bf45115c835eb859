import EntityGen.Number.Basic
import EntityGen.Text.Basic

/-! # Column types

A declared type such as `decimal(10,2)[]` is a scalar name with sizes and array markers. It resolves
to the type of a class member and to the facets that its sizes give.
-/

namespace EntityGen

open Text

/-- The scalar types of class members. -/
inductive Scalar
  | int32 | int64 | int16 | byte | string | bool | decimal | single | double
  | dateTime | dateTimeOffset | timeSpan | guid
  deriving Repr, DecidableEq

namespace Scalar

/-- The scalar of a declared name in small letters; every other name is text. -/
def ofLowerName (name : String) : Scalar :=
  match name with
  | "int" | "integer" => int32
  | "bigint" => int64
  | "smallint" => int16
  | "tinyint" => byte
  | "bit" | "boolean" => bool
  | "decimal" | "numeric" | "money" => decimal
  | "float" | "real" => single
  | "double" => double
  | "datetime" | "datetime2" | "date" | "timestamp" => dateTime
  | "datetimeoffset" => dateTimeOffset
  | "time" => timeSpan
  | "uuid" | "uniqueidentifier" => guid
  | _ => string

/-- Blanks around the name and the case of ASCII letters do not count. -/
def ofName (name : List Char) : Scalar :=
  ofLowerName (String.ofList ((trim name).map Char.toLower))

/-- The name of the type in generated code. -/
def keyword : Scalar → String
  | int32 => "int"
  | int64 => "long"
  | int16 => "short"
  | byte => "byte"
  | string => "string"
  | bool => "bool"
  | decimal => "decimal"
  | single => "float"
  | double => "double"
  | dateTime => "DateTime"
  | dateTimeOffset => "DateTimeOffset"
  | timeSpan => "TimeSpan"
  | guid => "Guid"

/-- A value type holds no null without a question mark. -/
def isValueType (s : Scalar) : Bool :=
  s != string

end Scalar

inductive ColumnType
  | scalar (s : Scalar)
  | array (element : ColumnType)
  deriving Repr, DecidableEq

namespace ColumnType

/-- An array is no value type, and its elements are never null. -/
def render (nullable : Bool) : ColumnType → String
  | scalar s => if nullable && s.isValueType then s.keyword ++ "?" else s.keyword
  | array element => element.render false ++ "[]"

def isString : ColumnType → Bool
  | scalar s => s == .string
  | array _ => false

/-- The array type of the given depth. -/
def nest (base : ColumnType) : Nat → ColumnType
  | 0 => base
  | depth + 1 => array (nest base depth)

/-- The scalar at the bottom, and how many arrays are around it. -/
def unnest : ColumnType → Scalar × Nat
  | scalar s => (s, 0)
  | array element => (element.unnest.1, element.unnest.2 + 1)

end ColumnType

/-- A column type with the facets that its sizes give: a length for text, a precision and maybe a
scale for decimals. -/
structure ResolvedType where
  type : ColumnType
  length : Option Nat
  precision : Option (Nat × Option Nat)
  deriving Repr, DecidableEq

namespace ResolvedType

/-- Counts the array markers at the end of a reversed declaration, blanks in between skipped. -/
def splitMarkers : List Char → Nat × List Char
  | [] => (0, [])
  | ']' :: '[' :: rest => ((splitMarkers rest).1 + 1, (splitMarkers rest).2)
  | c :: rest => if isBlank c then splitMarkers rest else (0, c :: rest)

/-- A size is a number below 2³². -/
def size? (arg : List Char) : Option Nat :=
  (decimal? arg).filter fun n => n < Nat.pow 2 32

def splitCommas (cs : List Char) : List (List Char) :=
  cs.splitOn ','

def trimClosing (cs : List Char) : List Char :=
  (cs.reverse.dropWhile (· == ')')).reverse

/-- A base name and its sizes. When one argument is no size, there are none. -/
def splitSizes (cs : List Char) : List Char × List Nat :=
  match cs.dropWhile (· != '(') with
  | [] => (cs, [])
  | _ :: inner =>
    let args := splitCommas (trimClosing (trimEnd inner))
    (cs.takeWhile (· != '('), (args.mapM fun arg => size? (trim arg)).getD [])

def ofScalar (s : Scalar) (sizes : List Nat) : ResolvedType where
  type := .scalar s
  length := match s, sizes with
    | .string, [n] => some n
    | _, _ => none
  precision := match s, sizes with
    | .decimal, [p] => some (p, none)
    | .decimal, [p, scale] => some (p, some scale)
    | _, _ => none

/-- Elements of arrays have no facets. -/
def ofChars (cs : List Char) : ResolvedType :=
  let (depth, base) := splitMarkers cs.reverse
  let (name, sizes) := splitSizes (trim base.reverse)
  let element := ofScalar (Scalar.ofName name) sizes
  if depth = 0 then element else ⟨element.type.nest depth, none, none⟩

/-- Resolves a declared type. -/
def ofDeclaration (declared : String) : ResolvedType :=
  ofChars declared.toList

end ResolvedType

end EntityGen
