import EntityGen.Json.Reader
import EntityGen.Number.Shortest

/-! # JSON numbers

No part of a schema is a number, so a number is only read to be named in an error. An integer beyond
64 bits counts as a floating-point number.
-/

namespace EntityGen.Json.Reader

/-- A significand of 64 bits takes no more digits once the next one would not fit. -/
def fitsWord (n : Nat) : Bool :=
  n < Nat.pow 2 64

/-- Adds digits as long as they fit. The second result is the number of digits added. -/
def addDigits (n : Nat) : List Char → Nat × Nat
  | [] => (n, 0)
  | d :: rest =>
    let more := 10 * n + (d.toNat - '0'.toNat)
    if fitsWord more then
      let (sum, count) := addDigits more rest
      (sum, count + 1)
    else (n, 0)

def floatFound (negative : Bool) (significand : Nat) (exponent : Int) : Reader Found := do
  match Binary64.ofDecimal? significand exponent with
  | some x => return .float ((if negative then "-" else "") ++ x.text)
  | none => fail .numberOutOfRange

/-- The digits of an exponent. One beyond 31 bits ends the number: it is out of range or zero. -/
def exponentDigits (huge : Reader Int) (n : Int) : List Char → Reader Int
  | [] => pure n
  | _ :: fuel => do
    match ← head with
    | some d =>
      if d.isDigit then
        skip
        let more := 10 * n + (d.toNat - '0'.toNat)
        if more < Nat.pow 2 31 then exponentDigits huge more fuel else huge
      else return n
    | none => return n

/-- The exponent after its mark, for a number that so far is `significand * 10 ^ exponent`. -/
def exponentFound (negative : Bool) (significand : Nat) (exponent : Int) : Reader Found := do
  skip
  let below ← do
    match ← head with
    | some '+' => skip; pure false
    | some '-' => skip; pure true
    | _ => pure false
  match ← head with
  | none => fail .endOfValue
  | some d =>
    if d.isDigit then
      let huge : Reader Int :=
        if significand != 0 && !below then fail .numberOutOfRange
        else do
          let _ ← digits
          pure (Nat.pow 2 31)
      let n ← exponentDigits huge 0 (← get).rest
      floatFound negative significand (if below then exponent - n else exponent + n)
    else failNext .invalidNumber

def isExponentMark (c : Option Char) : Bool :=
  c == some 'e' || c == some 'E'

/-- The digits after a point. Those that do not fit are left out. -/
def fractionFound (negative : Bool) (significand : Nat) (exponent : Int) : Reader Found := do
  skip
  let fraction ← digits
  if fraction.isEmpty then
    if (← head).isNone then fail .endOfValue else failNext .invalidNumber
  else
    let (significand, count) := addDigits significand fraction
    let exponent := exponent - count
    if isExponentMark (← head) then exponentFound negative significand exponent
    else floatFound negative significand exponent

/-- The part after the integer digits, some of which may not have fitted. -/
def numberRest (negative : Bool) (significand leftOut : Nat) : Reader Found := do
  let next ← head
  if next == some '.' then fractionFound negative significand leftOut
  else if isExponentMark next then exponentFound negative significand leftOut
  else if leftOut = 0 then
    if !negative then return .integer (toString significand)
    else if significand = 0 || Nat.pow 2 63 < significand then floatFound true significand 0
    else return .integer ("-" ++ toString significand)
  else floatFound negative significand leftOut

/-- A number whose sign is read. -/
def numberFound (negative : Bool) : Reader Found := do
  match ← head with
  | none => fail .endOfValue
  | some '0' =>
    skip
    if (← head).any Char.isDigit then failNext .invalidNumber else numberRest negative 0 0
  | some c =>
    if c.isDigit then
      let all ← digits
      let (significand, count) := addDigits 0 all
      numberRest negative significand (all.length - count)
    else failNext .invalidNumber

end EntityGen.Json.Reader
