import EntityGen.Number.Basic

/-! # TOML numbers

These predicates tell which words are numbers. Underscores may stand between digits, and both
integers and floating-point numbers have a range.
-/

namespace EntityGen.Toml

/-- Digits with single underscores between them. -/
def isDigitGroup (isDigit : Char → Bool) : List Char → Bool
  | [] => false
  | [c] => isDigit c
  | '_' :: _ => false
  | c :: '_' :: rest => isDigit c && isDigitGroup isDigit rest
  | c :: rest => isDigit c && isDigitGroup isDigit rest

def dropSign : List Char → List Char
  | '+' :: rest => rest
  | '-' :: rest => rest
  | cs => cs

/-- A decimal number without a sign; only zero starts with a zero. -/
def isDecimal (cs : List Char) : Bool :=
  cs == ['0'] || (isDigitGroup Char.isDigit cs && cs.head? != some '0')

/-- The number that a group of digits stands for. -/
def groupValue (base : Nat) (cs : List Char) : Nat :=
  digitsValue base (cs.filter (· != '_'))

/-- Integers have up to 128 bits, and negative ones have a sign among them. -/
def fitsInteger (negative : Bool) (magnitude : Nat) : Bool :=
  if negative then magnitude ≤ Nat.pow 2 127 else magnitude < Nat.pow 2 128

def isInteger (cs : List Char) : Bool :=
  match cs with
  | '0' :: 'x' :: digits =>
    isDigitGroup isHexDigit digits && fitsInteger false (groupValue 16 digits)
  | '0' :: 'o' :: digits =>
    isDigitGroup (fun c => '0' ≤ c && c ≤ '7') digits && fitsInteger false (groupValue 8 digits)
  | '0' :: 'b' :: digits =>
    isDigitGroup (fun c => c == '0' || c == '1') digits &&
      fitsInteger false (groupValue 2 digits)
  | _ =>
    isDecimal (dropSign cs) && fitsInteger (cs.head? == some '-') (groupValue 10 (dropSign cs))

def isExponentMark (c : Char) : Bool :=
  c == 'e' || c == 'E'

/-- A word with an exponent as mantissa and exponent. -/
def splitExponent (cs : List Char) : List Char × Option (List Char) :=
  match cs.dropWhile (!isExponentMark ·) with
  | [] => (cs, none)
  | _ :: exponent => (cs.takeWhile (!isExponentMark ·), some exponent)

/-- Whether a number is in the range of floating point. -/
def fitsFloat (whole fraction exponent : List Char) : Bool :=
  let size : Int := groupValue 10 (dropSign exponent)
  let power := if exponent.head? == some '-' then -size else size
  Binary64.fitsDecimal (groupValue 10 (whole ++ fraction)) (power - fraction.countP Char.isDigit)

def isFloat (cs : List Char) : Bool :=
  let word := dropSign cs
  let (mantissa, exponent) := splitExponent word
  let whole := mantissa.takeWhile (· != '.')
  let afterWhole := mantissa.dropWhile (· != '.')
  let fraction := afterWhole.drop 1
  let isExponent := exponent.all fun e => isDigitGroup Char.isDigit (dropSign e)
  word == ['i', 'n', 'f'] || word == ['n', 'a', 'n'] ||
    (isDecimal whole && isExponent &&
      (if afterWhole.isEmpty then exponent.isSome else isDigitGroup Char.isDigit fraction) &&
      fitsFloat whole fraction (exponent.getD []))

end EntityGen.Toml
