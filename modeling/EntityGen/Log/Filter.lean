import EntityGen.Log.Line
import EntityGen.Log.Pattern

/-! # Log filters

A filter is a list of directives, each a level for some of the lines: those of parts whose names
start with a given text, or those that have a given field. The most specific directive that fits a
line decides, and without one the line is dropped.
-/

namespace EntityGen

/-- A field that a directive asks for, and maybe a pattern for its value. -/
structure FieldCondition where
  name : String
  pattern : Option String
  deriving Repr, DecidableEq

structure LogDirective where
  /-- The start of the names of parts; none for all of them. -/
  start : Option String := none
  /-- The name of a span that lines stand in. -/
  span : Option String := none
  field : Option FieldCondition := none
  level : LogLevel
  deriving Repr, DecidableEq

abbrev LogFilter := List LogDirective

/-- The field of a directive is a name, or a name and a pattern with an equals sign in between. What
follows another equals sign does not count. -/
def FieldCondition.ofChars? (cs : List Char) : Option FieldCondition :=
  match cs.splitOn '=' with
  | [[]] => none
  | name :: pattern :: _ =>
    if LogPattern.isValue pattern then some ⟨String.ofList name, some (String.ofList pattern)⟩
    else none
  | _ => some ⟨String.ofList cs, none⟩

namespace LogDirective

/-- Whether a directive fits a line. Lines stand in no span, and only spans are asked for the values
of their fields. -/
def fits (d : LogDirective) (l : LogLine) : Bool :=
  d.start.all (fun s => s.toList.isPrefixOf l.part.name.toList) && d.span.isNone &&
    d.field.all fun f => f.pattern.isNone && l.hasField f.name

/-- A longer start is more specific, and then a field. -/
def weight (d : LogDirective) : Nat :=
  let start := match d.start with
    | some s => s.length + 1
    | none => 0
  2 * start + (if d.field.isSome then 1 else 0)

def fieldName (d : LogDirective) : String :=
  (d.field.map (·.name)).getD ""

/-- Whether `e` decides where both fit and `d` comes first. Of two fields the one with the greater
name is the more specific. -/
def yieldsTo (d e : LogDirective) : Bool :=
  d.weight < e.weight || (d.weight == e.weight && !(e.fieldName < d.fieldName))

/-- A level in a directive is a name or a number. -/
def level? (cs : List Char) : Option LogLevel :=
  match String.ofList (cs.map Char.toLower) with
  | "off" => some .off
  | "error" => some .error
  | "warn" => some .warn
  | "info" => some .info
  | "debug" => some .debug
  | "trace" => some .trace
  | _ =>
    match decimal? cs with
    | some 0 => some .off
    | some 1 => some .error
    | some 2 => some .warn
    | some 3 => some .info
    | some 4 => some .debug
    | some 5 => some .trace
    | _ => none

def startsDirective (c : Char) : Bool :=
  Text.isAlphanumeric c || c == '-' || c == ':' || c == '_'

/-! ### Reading

The marks of a directive are looked for where blanks at its ends are left out, but its parts are cut
out of the text as it is given, at the same distances from the start. So blanks in front shift all
parts, and blanks at the end belong to the last part.
-/

variable (given : List Char)

def cut (start count : Nat) : List Char :=
  (given.drop start).take count

/-- The level after what a directive is about. Without one everything is let through. -/
def levelAt? (place : Nat) : Option LogLevel :=
  match (Text.trim given).drop place with
  | [] => some .trace
  | '=' :: _ =>
    match given.drop (place + 1) with
    | [] => some .trace
    | name => level? name
  | _ => none

/-- The rest of a directive after an opening bracket: a span, or a field in braces, or both. -/
def spanAt? (target : Option String) (place : Nat) : Option LogDirective :=
  let scanned := (Text.trim given).drop place
  let name := scanned.takeWhile fun c => c != ']' && c != '{'
  let span := String.ofList (cut given place name.length)
  match scanned.drop name.length with
  | ']' :: _ =>
    (levelAt? given (place + name.length + 1)).map fun level =>
      { start := target, span := some span, level }
  | _ :: rest =>
    let start := place + name.length + 1
    let size := (rest.takeWhile (· != '}')).length
    match rest.drop size with
    | '}' :: ']' :: _ => do
      let field ← FieldCondition.ofChars? (cut given start size)
      let level ← levelAt? given (start + size + 2)
      return {
        start := target
        span := if span.isEmpty then none else some span
        field := some field
        level }
    | _ => none
  | [] => none

/-- A directive is a level or the start of names, which a bracket or an equals sign and a level may
follow. A start alone lets everything through. -/
def ofChars? : Option LogDirective :=
  match Text.trim given with
  | [] => none
  | '[' :: _ => spanAt? given none 1
  | c :: rest =>
    if !startsDirective c then none
    else
      let size := ((c :: rest).takeWhile fun c => c != '=' && c != '[').length
      let start := String.ofList (cut given 0 size)
      match (c :: rest).drop size with
      | [] =>
        match level? given with
        | some level => some { level }
        | none => some { start := some (String.ofList given), level := .trace }
      | '[' :: _ => spanAt? given (some start) (size + 1)
      | _ => (levelAt? given size).map fun level => { start := some start, level }

end LogDirective

namespace LogFilter

def ofLevel (level : LogLevel) : LogFilter :=
  [{ level }]

/-- Directives are separated by commas. No directive at all lets nothing through. -/
def ofText? (text : String) : Option LogFilter :=
  ((text.toList.splitOn ',').filter (!·.isEmpty)).mapM LogDirective.ofChars?

/-- The directive that decides; of two equal ones it is the later. -/
def decisive? (filter : LogFilter) (l : LogLine) : Option LogDirective :=
  (filter.filter (·.fits l)).foldl (fun best d =>
    match best with
    | none => some d
    | some b => if b.yieldsTo d then some d else some b) none

def allows (filter : LogFilter) (l : LogLine) : Bool :=
  (filter.decisive? l).any fun d => l.level.rank ≤ d.level.rank

end LogFilter

end EntityGen
