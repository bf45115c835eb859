import EntityGen.Toml.Scalar
import EntityGen.Toml.Value

/-! # Reading TOML

A document is a sequence of lines: headers, pairs of key and value, and comments. A text that is no
document has no value; what is wrong with it is not told. The text at the start of a repeated step
serves as its `fuel`, as each step takes a character.
-/

namespace EntityGen.Toml

abbrev Parser (α : Type) := StateT (List Char) Option α

namespace Parser

def fail {α : Type} : Parser α :=
  fun _ => none

def takeWhile (p : Char → Bool) : Parser (List Char) :=
  fun cs => some (cs.takeWhile p, cs.dropWhile p)

/-- Takes the given characters, if they come next. -/
def accept (expected : List Char) : Parser Bool :=
  fun cs =>
    if expected.isPrefixOf cs then some (true, cs.drop expected.length) else some (false, cs)

def expect (expected : List Char) : Parser Unit := do
  if !(← accept expected) then fail

def next : Parser Char
  | [] => none
  | c :: rest => some (c, rest)

def blanks : Parser Unit := do
  let _ ← takeWhile fun c => c == ' ' || c == '\t'

/-- A line feed, alone or after a carriage return. -/
def newline : Parser Bool := do
  if ← accept ['\n'] then return true else accept ['\r', '\n']

def isControl (c : Char) : Bool :=
  (c.toNat < 0x20 && c != '\t') || c.toNat == 0x7F

def comment : Parser Unit := do
  if (← get).head? == some '#' then
    let _ ← takeWhile fun c => !isControl c

/-- The end of a line, after blanks and a comment. -/
def lineEnd : Parser Unit := do
  blanks
  comment
  if !(← newline) then
    if !(← get).isEmpty then fail

/-- Skips line ends, and on every line what `lead` skips at its start. -/
def skipLines (lead : Parser Unit) : List Char → Parser Unit
  | [] => pure ()
  | _ :: fuel => do
    lead
    if ← newline then skipLines lead fuel

/-- Blanks and line ends. -/
def blankLines : Parser Unit := do
  skipLines blanks (← get)

/-- Blanks, comments and line ends between the parts of a value. -/
def gap : Parser Unit := do
  let lead : Parser Unit := do
    blanks
    comment
  skipLines lead (← get)

/-! ## Strings -/

/-- A character by its number in the given count of hexadecimal digits. -/
def codePoint (count : Nat) : Parser Char := fun cs =>
  let digits := cs.take count
  let n := digitsValue 16 digits
  if digits.length = count && digits.all isHexDigit && n.isValidChar then
    some (Char.ofNat n, cs.drop count)
  else none

/-- The character of an escape whose backslash is read. -/
def escape : Parser Char := do
  match ← next with
  | 'b' => return '\x08'
  | 't' => return '\t'
  | 'n' => return '\n'
  | 'f' => return '\x0c'
  | 'r' => return '\r'
  | 'e' => return '\x1b'
  | '"' => return '"'
  | '\\' => return '\\'
  | 'x' => codePoint 2
  | 'u' => codePoint 4
  | 'U' => codePoint 8
  | _ => fail

/-- The rest of a string with escapes on one line; `taken` is reversed. -/
def basicChars : List Char → List Char → Parser String
  | [], _ => fail
  | _ :: fuel, taken => do
    match ← next with
    | '"' => return String.ofList taken.reverse
    | '\\' => do
      let c ← escape
      basicChars fuel (c :: taken)
    | c => if isControl c then fail else basicChars fuel (c :: taken)

/-- The rest of a string without escapes on one line. -/
def literalString : Parser String := do
  let cs ← takeWhile fun c => c != '\'' && !isControl c
  expect ['\'']
  return String.ofList cs

def basicString : Parser String :=
  fun cs => basicChars cs [] cs

/-- The quotes at the end of a string of several lines. Up to two of them belong to the string. -/
def closing (quote : Char) : Parser (List Char × Bool) := do
  let quotes ← takeWhile (· == quote)
  if quotes.length < 3 then return (quotes, false)
  else if quotes.length ≤ 5 then return (quotes.drop 3, true)
  else fail

/-- Skips a line end after a backslash, with all blanks and line ends after it. -/
def foldLine : Parser Unit := do
  blanks
  if !(← newline) then fail
  blankLines

/-- The rest of a string of several lines; with `escapes`, a backslash starts one. -/
def multiLineChars (quote : Char) (escapes : Bool) : List Char → List Char → Parser String
  | [], _ => fail
  | _ :: fuel, taken => do
    let (quotes, isClosed) ← closing quote
    let taken := quotes ++ taken
    if isClosed then return String.ofList taken.reverse
    else
      match ← next with
      | '\n' => multiLineChars quote escapes fuel ('\n' :: taken)
      | '\r' =>
        expect ['\n']
        multiLineChars quote escapes fuel ('\n' :: '\r' :: taken)
      | '\\' =>
        if !escapes then multiLineChars quote escapes fuel ('\\' :: taken)
        else if (← get).head?.any [' ', '\t', '\r', '\n'].contains then
          foldLine
          multiLineChars quote escapes fuel taken
        else
          let c ← escape
          multiLineChars quote escapes fuel (c :: taken)
      | c => if isControl c then fail else multiLineChars quote escapes fuel (c :: taken)

/-- A string of several lines; a line end right after the opening quotes does not count. -/
def multiLineString (quote : Char) (escapes : Bool) : Parser String := do
  let _ ← newline
  fun cs => multiLineChars quote escapes cs [] cs

/-! ## Keys -/

def isBare (c : Char) : Bool :=
  c.isAlphanum || c == '_' || c == '-'

def simpleKey : Parser String := do
  if ← accept ['"'] then basicString
  else if ← accept ['\''] then literalString
  else
    let cs ← takeWhile isBare
    if cs.isEmpty then fail else return String.ofList cs

/-- The parts of a key after the first one, each after a point. -/
def keyRest : List Char → Parser (List String)
  | [] => return []
  | _ :: fuel => do
    blanks
    if ← accept ['.'] then
      blanks
      let part ← simpleKey
      return part :: (← keyRest fuel)
    else return []

/-- The number of parts of a key, and the number of arrays and inline tables around a value. -/
def depthLimit : Nat := 80

def key : Parser (List String) := do
  let first ← simpleKey
  let rest ← keyRest (← get)
  if depthLimit ≤ rest.length then fail else return first :: rest

/-! ## Values -/

/-- The characters of numbers, dates and the words for the two truth values. -/
def isWord (c : Char) : Bool :=
  isBare c || c == '+' || c == '.' || c == ':'

/-- A date may be followed by a time after a single space. -/
def word : Parser (List Char) := do
  let first ← takeWhile isWord
  match ← get with
  | ' ' :: d :: _ =>
    if (Date.read? first).any (·.2.isEmpty) && d.isDigit then
      let _ ← next
      return first ++ ' ' :: (← takeWhile isWord)
    else return first
  | _ => return first

def scalar : Parser Value := do
  let w ← word
  if w == ['t', 'r', 'u', 'e'] then return .boolean true
  else if w == ['f', 'a', 'l', 's', 'e'] then return .boolean false
  else if isInteger w || isFloat w then return .number
  else
    match DateTime.ofChars? w with
    | some d => return .dateTime d
    | none => fail

/-- Checks that one more array or inline table may open. -/
def enter (depth : Nat) : Parser Unit := do
  if depthLimit ≤ depth then fail

mutual

/-- A value within `depth` arrays and inline tables. -/
def value : List Char → Nat → Parser Value
  | [], _ => fail
  | _ :: fuel, depth => do
    if ← accept ['"', '"', '"'] then return .string (← multiLineString '"' true)
    else if ← accept ['\'', '\'', '\''] then return .string (← multiLineString '\'' false)
    else if ← accept ['"'] then return .string (← basicString)
    else if ← accept ['\''] then return .string (← literalString)
    else if ← accept ['['] then
      enter depth
      return .array (← items fuel (depth + 1))
    else if ← accept ['\x7b'] then
      enter depth
      return .table .inline (← pairs fuel (depth + 1) [])
    else scalar

/-- The items of an array up to its bracket; a comma may follow the last one. -/
def items : List Char → Nat → Parser (List Value)
  | [], _ => fail
  | _ :: fuel, depth => do
    gap
    if ← accept [']'] then return []
    else
      let v ← value fuel depth
      gap
      if ← accept [','] then return v :: (← items fuel depth)
      else
        expect [']']
        return [v]

/-- The pairs of an inline table up to its brace; a comma may follow the last one. -/
def pairs : List Char → Nat → Entries → Parser Entries
  | [], _, _ => fail
  | _ :: fuel, depth, entries => do
    gap
    if ← accept ['\x7d'] then return entries
    else
      let k ← key
      gap
      expect ['=']
      gap
      let v ← value fuel depth
      match entries.insertKey? k v with
      | none => fail
      | some entries =>
        gap
        if ← accept [','] then pairs fuel depth entries
        else
          expect ['\x7d']
          return entries

end

/-! ## Lines -/

/-- A document so far: its tables, and the header that pairs are under. -/
structure Document where
  entries : Entries
  header : List String

def headerLine (change : String → Entries → Option Entries) (close : List Char) (d : Document) :
    Parser Document := do
  blanks
  let path ← key
  blanks
  expect close
  match d.entries.openAt? change path with
  | some entries => return ⟨entries, path⟩
  | none => fail

def pairLine (d : Document) : Parser Document := do
  let k ← key
  blanks
  expect ['=']
  blanks
  let v ← value (← get) 0
  match d.entries.edit? (·.insertKey? k v) d.header with
  | some entries => return { d with entries }
  | none => fail

/-- One line without its end. -/
def line (d : Document) : Parser Document := do
  blanks
  match (← get).head? with
  | none => return d
  | some '#' => return d
  | some '\n' => return d
  | some '\r' => return d
  | _ =>
    if ← accept ['[', '['] then headerLine Entries.openItem? [']', ']'] d
    else if ← accept ['['] then headerLine Entries.openTable? [']'] d
    else pairLine d

def documentLines : List Char → Document → Parser Entries
  | [], d => return d.entries
  | _ :: fuel, d => do
    let d ← line d
    lineEnd
    if (← get).isEmpty then return d.entries else documentLines fuel d

end Parser

/-- The root table of a document. A byte order mark at its start is skipped. -/
def parse? (text : String) : Option Entries :=
  let cs := match text.toList with
    | '\ufeff' :: rest => rest
    | cs => cs
  (Parser.documentLines cs ⟨[], []⟩).run' cs

end EntityGen.Toml
