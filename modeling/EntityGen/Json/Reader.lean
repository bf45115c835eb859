import EntityGen.Json.Error

/-! # Readers

A reader takes a value from the front of a text, or fails at a place. The leaves here read words and
the characters of strings. Where a reader repeats a step that takes at least one character, the text
at its start serves as `fuel`: once that is used up, nothing is left to read.
-/

namespace EntityGen.Json

abbrev Reader (α : Type) := StateT Cursor (Except Error) α

namespace Reader

/-- Fails at the place before the next byte. -/
def fail {α : Type} (problem : Problem) : Reader α :=
  fun c => .error ⟨problem, c.place⟩

/-- Fails at the next byte. -/
def failNext {α : Type} (problem : Problem) : Reader α :=
  fun c => .error ⟨problem, c.peekPlace⟩

/-- The next character after blanks, which is not consumed. -/
def peek : Reader (Option Char) :=
  fun c => .ok (c.skipBlanks.rest.head?, c.skipBlanks)

def skip : Reader Unit :=
  fun c => .ok ((), c.next)

/-- The next character as it stands, which is not consumed. -/
def head : Reader (Option Char) :=
  fun c => .ok (c.rest.head?, c)

def digits : Reader (List Char) :=
  fun c => .ok (c.takeWhile Char.isDigit)

/-- The rest of a word whose first letter is read. -/
def word : List Char → Reader Unit
  | [] => pure ()
  | expected :: more => do
    match ← head with
    | none => fail .endOfValue
    | some c => if c = expected then skip; word more else failNext .expectedIdent

def hexValue? (c : Char) : Option Nat :=
  if '0' ≤ c ∧ c ≤ '9' then some (c.toNat - '0'.toNat)
  else if 'a' ≤ c ∧ c ≤ 'f' then some (c.toNat - 'a'.toNat + 10)
  else if 'A' ≤ c ∧ c ≤ 'F' then some (c.toNat - 'A'.toNat + 10)
  else none

def hexNumber? (digits : List Char) : Option Nat :=
  digits.foldlM (fun n d => (hexValue? d).map (16 * n + ·)) 0

def utf8Length : List Char → Nat
  | [] => 0
  | c :: rest => c.utf8Size + utf8Length rest

/-- The number of an escape by four hexadecimal digits. -/
def fourDigits : Reader Nat := fun c =>
  match c.rest with
  | a :: b :: d :: e :: rest =>
    match hexNumber? [a, b, d, e] with
    | some n => .ok (n, ⟨rest, c.place.afterBytes 4 c.rest⟩)
    | none => .error ⟨.invalidEscape, c.place.afterBytes 4 c.rest⟩
  | _ =>
    if utf8Length c.rest < 4 then .error ⟨.endOfString, c.atEnd.place⟩
    else .error ⟨.invalidEscape, c.place.afterBytes 4 c.rest⟩

def isLeading (n : Nat) : Bool :=
  0xD800 ≤ n && n ≤ 0xDBFF

def isTrailing (n : Nat) : Bool :=
  0xDC00 ≤ n && n ≤ 0xDFFF

/-- The next character of a string has to be `expected`. -/
def surrogateMark (expected : Char) : Reader Unit := do
  match ← head with
  | none => fail .endOfString
  | some c => if c = expected then skip else failNext .endOfSurrogates

/-- The character of an escape by number, in two halves where it needs them. -/
def numberedCharacter : Reader Char := do
  let n ← fourDigits
  if isTrailing n then fail .loneSurrogate
  else if isLeading n then
    surrogateMark '\\'
    surrogateMark 'u'
    let m ← fourDigits
    if isTrailing m then return Char.ofNat ((n - 0xD800) * 0x400 + (m - 0xDC00) + 0x10000)
    else fail .loneSurrogate
  else return Char.ofNat n

/-- The character of an escape by letter. -/
def escaped? : Char → Option Char
  | '"' => some '"'
  | '\\' => some '\\'
  | '/' => some '/'
  | 'b' => some '\x08'
  | 'f' => some '\x0c'
  | 'n' => some '\n'
  | 'r' => some '\r'
  | 't' => some '\t'
  | _ => none

/-- The character of an escape whose backslash is read. -/
def escape : Reader Char := do
  match ← head with
  | none => fail .endOfString
  | some 'u' => skip; numberedCharacter
  | some c =>
    match escaped? c with
    | some x => skip; return x
    | none => failNext .invalidEscape

def isControl (c : Char) : Bool :=
  c.toNat < 0x20

/-- The characters up to the closing quote; `taken` are those read before, reversed. -/
def stringChars : List Char → List Char → Reader String
  | [], _ => fail .endOfString
  | _ :: fuel, taken => do
    match ← head with
    | none => fail .endOfString
    | some '"' => skip; return String.ofList taken.reverse
    | some '\\' =>
      skip
      let c ← escape
      stringChars fuel (c :: taken)
    | some c =>
      if isControl c then failNext .controlCharacter
      else
        skip
        stringChars fuel (c :: taken)

/-- A string whose opening quote is read. -/
def stringBody : Reader String :=
  fun c => stringChars c.rest [] c

end Reader

end EntityGen.Json
