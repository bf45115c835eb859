import EntityGen.Json.Reader

/-! # Skipping values

The value of an unknown field is read and forgotten. The brackets around it are kept on a stack, so
values may be nested to any depth.
-/

namespace EntityGen.Json.Reader

/-- Past the characters of a string whose opening quote is read. -/
def skipStringChars : List Char → Reader Unit
  | [] => fail .endOfString
  | _ :: fuel => do
    match ← head with
    | none => fail .endOfString
    | some '"' => skip
    | some '\\' =>
      skip
      match ← head with
      | none => fail .endOfString
      | some 'u' =>
        skip
        let _ ← fourDigits
        skipStringChars fuel
      | some c =>
        if (escaped? c).isSome then
          skip
          skipStringChars fuel
        else failNext .invalidEscape
    | some c =>
      if isControl c then fail .controlCharacter
      else
        skip
        skipStringChars fuel

def skipString : Reader Unit :=
  fun c => skipStringChars c.rest c

def skipExponent : Reader Unit := do
  skip
  let sign ← head
  if sign == some '+' || sign == some '-' then skip
  if (← digits).isEmpty then failNext .invalidNumber

def skipFraction : Reader Unit := do
  skip
  if (← digits).isEmpty then failNext .invalidNumber
  else
    let next ← head
    if next == some 'e' || next == some 'E' then skipExponent

/-- Past a number whose sign is read. -/
def skipNumber : Reader Unit := do
  match ← head with
  | some '0' =>
    skip
    if (← head).any Char.isDigit then failNext .invalidNumber
  | _ => if (← digits).isEmpty then failNext .invalidNumber
  match ← head with
  | some '.' => skipFraction
  | some 'e' => skipExponent
  | some 'E' => skipExponent
  | _ => pure ()

inductive Bracket
  | list
  | object
  deriving Repr, DecidableEq

namespace Bracket

def ofOpening? : Char → Option Bracket
  | '[' => some list
  | '{' => some object
  | _ => none

def closing : Bracket → Char
  | list => ']'
  | object => '}'

/-- What is wrong when the text ends within the brackets. -/
def atEnd : Bracket → Problem
  | list => .endOfList
  | object => .endOfObject

/-- What is wrong when neither a comma nor the closing bracket follows a value. -/
def unfinished : Bracket → Problem
  | list => .expectedListEnd
  | object => .expectedObjectEnd

end Bracket

/-- Past the key and the colon of a member of an object. -/
def skipKey : Reader Unit := do
  match ← peek with
  | some '"' =>
    skip
    skipString
    match ← peek with
    | some ':' => skip
    | some _ => failNext .expectedColon
    | none => failNext .endOfObject
  | some _ => failNext .keyNotString
  | none => failNext .endOfObject

/-- Whether the closing bracket comes next, which is then skipped. -/
def skipClosing (bracket : Bracket) : Reader Bool := do
  match ← peek with
  | none => failNext bracket.atEnd
  | some c =>
    if c = bracket.closing then
      skip
      return true
    else return false

def skipComma (bracket : Bracket) : Reader Unit := do
  if (← peek) = some ',' then skip else failNext bracket.unfinished

/-- Past what stands before the value of an item or a member. -/
def skipToValue : Bracket → Reader Unit
  | .list => pure ()
  | .object => skipKey

/-- Past a value that is no list and no object. -/
def skipScalar : Reader Unit := do
  match ← peek with
  | none => failNext .endOfValue
  | some 'n' => skip; word ['u', 'l', 'l']
  | some 't' => skip; word ['r', 'u', 'e']
  | some 'f' => skip; word ['a', 'l', 's', 'e']
  | some '"' => skip; skipString
  | some '-' => skip; skipNumber
  | some c => if c.isDigit then skipNumber else failNext .expectedValue

/-- Where the reader is within a value. -/
inductive Stage
  /-- Before a value. -/
  | before
  /-- After a value. -/
  | after
  deriving Repr, DecidableEq

/-- Past the rest of a value within open brackets, the innermost first. -/
def skipStages : List Char → Stage → List Bracket → Reader Unit
  | _, .after, [] => pure ()
  | [], .before, _ => fail .endOfValue
  | [], .after, bracket :: _ => fail bracket.atEnd
  | _ :: fuel, .before, stack => do
    match (← peek).bind Bracket.ofOpening? with
    | none =>
      skipScalar
      skipStages fuel .after stack
    | some bracket =>
      skip
      if ← skipClosing bracket then skipStages fuel .after stack
      else
        skipToValue bracket
        skipStages fuel .before (bracket :: stack)
  | _ :: fuel, .after, bracket :: stack => do
    if ← skipClosing bracket then skipStages fuel .after stack
    else
      skipComma bracket
      skipToValue bracket
      skipStages fuel .before (bracket :: stack)

def skipValue : Reader Unit :=
  fun c => skipStages c.rest .before [] c

end EntityGen.Json.Reader
