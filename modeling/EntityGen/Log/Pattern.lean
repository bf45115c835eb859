import EntityGen.Number.Basic
import EntityGen.Text.Alphanumeric

/-! # Patterns in log directives

A directive may ask for the value of a field by a regular expression. Nothing is matched here: it is
only told which texts are regular expressions. In them groups and classes are closed, a repetition
has something to repeat, and no part depends on the properties of characters beyond ASCII.
-/

namespace EntityGen.LogPattern

/-! ## Escapes -/

/-- A character by its number in the given count of hexadecimal digits, and what follows. -/
def codePoint? (count : Nat) (cs : List Char) : Option (Char × List Char) :=
  let digits := cs.take count
  let n := digitsValue 16 digits
  if digits.length = count && digits.all isHexDigit && n.isValidChar then
    some (Char.ofNat n, cs.drop count)
  else none

/-- Punctuation, blanks and control characters stand for themselves after a backslash. -/
def standsForItself (c : Char) : Bool :=
  c.toNat < 0x80 && !c.isAlphanum && c != '<' && c != '>'

/-- The character of an escape whose backslash is read, and what follows. -/
def escaped? : List Char → Option (Char × List Char)
  | 'x' :: rest => codePoint? 2 rest
  | 'u' :: rest => codePoint? 4 rest
  | 'U' :: rest => codePoint? 8 rest
  | 'a' :: rest => some ('\x07', rest)
  | 'f' :: rest => some ('\x0c', rest)
  | 't' :: rest => some ('\t', rest)
  | 'n' :: rest => some ('\n', rest)
  | 'r' :: rest => some ('\r', rest)
  | 'v' :: rest => some ('\x0b', rest)
  | c :: rest => if standsForItself c then some (c, rest) else none
  | [] => none

/-- What follows an escape, which may also stand for the start or the end of the text. -/
def afterEscape? : List Char → Option (List Char)
  | 'A' :: rest => some rest
  | 'z' :: rest => some rest
  | cs => (escaped? cs).map (·.2)

/-! ## Classes -/

def classNames : List String :=
  ["alnum", "alpha", "ascii", "blank", "cntrl", "digit", "graph", "lower", "print", "punct",
    "space", "upper", "word", "xdigit"]

def dropCaret : List Char → List Char
  | '^' :: rest => rest
  | cs => cs

/-- What follows a class by name, such as `[:alpha:]`, whose opening bracket is read. -/
def afterNamedClass? : List Char → Option (List Char)
  | ':' :: cs =>
    let cs := dropCaret cs
    let name := String.ofList (cs.takeWhile (· != ':'))
    match cs.dropWhile (· != ':') with
    | ':' :: ']' :: rest => if classNames.contains name then some rest else none
    | _ => none
  | _ => none

/-- What follows the start of a class whose opening bracket is read. Hyphens there stand for
themselves, and so does a closing bracket that comes first. -/
def afterClassStart (cs : List Char) : List Char :=
  match dropCaret cs with
  | ']' :: rest => rest
  | cs => cs.dropWhile (· == '-')

def classCharacter? : List Char → Option (Char × List Char)
  | '\\' :: rest => escaped? rest
  | c :: rest => some (c, rest)
  | [] => none

/-- What follows a character or a range in a class. The ends of a range are in order. -/
def afterClassItem? (cs : List Char) : Option (List Char) := do
  let (low, rest) ← classCharacter? cs
  match rest with
  | '-' :: '-' :: _ => some rest
  | '-' :: ']' :: _ => some rest
  | '-' :: rest => do
    let (high, rest) ← classCharacter? rest
    if low ≤ high then some rest else none
  | _ => some rest

/-- What follows a class; `depth` is the number of classes around it. Every step takes a character,
and `fuel` is a text at least as long as the rest. -/
def afterClass? : List Char → Nat → List Char → Option (List Char)
  | _ :: fuel, depth, '[' :: rest =>
    match afterNamedClass? rest with
    | some rest => afterClass? fuel depth rest
    | none => afterClass? fuel (depth + 1) (afterClassStart rest)
  | _ :: _, 0, ']' :: rest => some rest
  | _ :: fuel, depth + 1, ']' :: rest => afterClass? fuel depth rest
  | _ :: fuel, depth, '&' :: '&' :: rest => afterClass? fuel depth rest
  | _ :: fuel, depth, '-' :: '-' :: rest => afterClass? fuel depth rest
  | _ :: fuel, depth, '~' :: '~' :: rest => afterClass? fuel depth rest
  | _ :: fuel, depth, cs => (afterClassItem? cs).bind (afterClass? fuel depth)
  | [], _, _ => none

/-! ## Groups -/

def isGroupName : List Char → Bool
  | [] => false
  | c :: rest =>
    (c == '_' || (Text.isAlphanumeric c && !c.isDigit)) &&
      rest.all fun d => Text.isAlphanumeric d || ['_', '.', '[', ']'].contains d

/-- Flags are distinct letters, of which those after a hyphen are switched off. -/
def areFlags (cs : List Char) : Bool :=
  cs.all ['m', 's', 'U', 'u', 'R', 'x', '-'].contains && cs.eraseDups.length == cs.length &&
    cs.getLast? != some '-'

/-- What follows the start of a group after `(?`, and whether the group goes on. -/
def afterGroupStart? (cs : List Char) : Option (Bool × List Char) :=
  let named (cs : List Char) : Option (Bool × List Char) :=
    match cs.dropWhile (· != '>') with
    | _ :: rest => if isGroupName (cs.takeWhile (· != '>')) then some (true, rest) else none
    | [] => none
  match cs with
  | 'P' :: '<' :: rest => named rest
  | '<' :: rest => named rest
  | _ =>
    let flags := cs.takeWhile fun c => c != ':' && c != ')'
    match cs.dropWhile fun c => c != ':' && c != ')' with
    | ':' :: rest => if areFlags flags then some (true, rest) else none
    | ')' :: rest => if areFlags flags && !flags.isEmpty then some (false, rest) else none
    | _ => none

/-! ## Expressions -/

/-- Whether a text is the rest of an expression within `depth` groups. `repeatable` tells whether
there is something before it that a repetition can repeat. -/
def isRest : List Char → Nat → Bool → List Char → Bool
  | _, depth, _, [] => depth == 0
  | [], _, _, _ => false
  | _ :: fuel, depth, repeatable, c :: rest =>
    match c with
    | '(' =>
      match rest with
      | '?' :: rest =>
        match afterGroupStart? rest with
        | some (goesOn, rest) => isRest fuel (if goesOn then depth + 1 else depth) false rest
        | none => false
      | _ => isRest fuel (depth + 1) false rest
    | ')' => 0 < depth && isRest fuel (depth - 1) true rest
    | '|' => isRest fuel depth false rest
    | '*' => repeatable && isRest fuel depth true rest
    | '+' => repeatable && isRest fuel depth true rest
    | '?' => repeatable && isRest fuel depth true rest
    | '{' => false
    | '[' => (afterClass? rest 0 (afterClassStart rest)).any (isRest fuel depth true)
    | '\\' => (afterEscape? rest).any (isRest fuel depth true)
    | _ => isRest fuel depth true rest

/-- Whether a text is a regular expression. A brace opens no count, as a directive has no room for
its end. -/
def isExpression (cs : List Char) : Bool :=
  isRest cs 0 false cs

/-! ## Numbers -/

/-- Whether digits with a point among or around them, and maybe an exponent, are a number. -/
def isMagnitude (cs : List Char) : Bool :=
  let isMark (c : Char) : Bool := c == 'e' || c == 'E'
  let mantissa := cs.takeWhile (!isMark ·)
  let digits := mantissa.filter (· != '.')
  let exponent := match (cs.dropWhile (!isMark ·)).drop 1 with
    | '+' :: rest => rest
    | '-' :: rest => rest
    | rest => rest
  let isWord := ["inf", "infinity", "nan"].contains (String.ofList (cs.map Char.toLower))
  isWord || (!digits.isEmpty && digits.all Char.isDigit && mantissa.count '.' ≤ 1 &&
    (!cs.any isMark || (!exponent.isEmpty && exponent.all Char.isDigit)))

/-- Whether a text can be the value in a directive: a regular expression or a number with a sign. -/
def isValue : List Char → Bool
  | '+' :: rest => isMagnitude rest
  | cs => isExpression cs

end EntityGen.LogPattern
