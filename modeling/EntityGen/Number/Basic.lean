/-! # Digits and binary floating point

Digits stand for a number in a base of at most sixteen. A magnitude in 64 bits is a mantissa below
2⁵³ times a power of two that is at least 2⁻¹⁰⁷⁴. Ratios round to the nearest magnitude, and a tie
goes to the even mantissa.
-/

namespace EntityGen

def isHexDigit (c : Char) : Bool :=
  c.isDigit || ('a' ≤ c && c ≤ 'f') || ('A' ≤ c && c ≤ 'F')

def digitValue (c : Char) : Nat :=
  if c.isDigit then c.toNat - '0'.toNat else c.toLower.toNat - 'a'.toNat + 10

/-- The number that digits stand for. -/
def digitsValue (base : Nat) (digits : List Char) : Nat :=
  digits.foldl (fun n d => base * n + digitValue d) 0

/-- A number in decimal digits after an optional plus sign. -/
def decimal? (cs : List Char) : Option Nat :=
  let digits := match cs with
    | '+' :: rest => rest
    | _ => cs
  if !digits.isEmpty && digits.all Char.isDigit then some (digitsValue 10 digits) else none

/-! ## Magnitudes -/

/-- The magnitude `mantissa * 2 ^ exponent`. -/
structure Binary64 where
  mantissa : Nat
  exponent : Int
  deriving Repr, DecidableEq

namespace Binary64

/-- The quotient rounded to the nearest number, ties to even. -/
def roundDiv (num den : Nat) : Nat :=
  let q := num / den
  let twice := 2 * (num % den)
  if den < twice || (twice == den && q % 2 == 1) then q + 1 else q

/-- The ratio of two numbers, scaled by a power of two. -/
def scale (num den : Nat) (exponent : Int) : Nat × Nat :=
  (num * Nat.pow 2 (-exponent).toNat, den * Nat.pow 2 exponent.toNat)

/-- The magnitude nearest to a ratio; the exponent has no upper bound. -/
def ofRatio (num den : Nat) : Binary64 :=
  if num = 0 then ⟨0, -1074⟩
  else
    let wanted : Int := num.log2 - den.log2 - 53
    let least := if wanted < -1074 then -1074 else wanted
    let (n, d) := scale num den least
    let exponent := if n / d < Nat.pow 2 53 then least else least + 1
    let (n, d) := scale num den exponent
    let mantissa := roundDiv n d
    if mantissa = Nat.pow 2 53 then ⟨Nat.pow 2 52, exponent + 1⟩ else ⟨mantissa, exponent⟩

def ofNat (n : Nat) : Binary64 :=
  ofRatio n 1

/-- The magnitude as an exact ratio. -/
def toRatio (x : Binary64) : Nat × Nat :=
  scale x.mantissa 1 (-x.exponent)

/-- Magnitudes of 2¹⁰²⁴ and more do not fit into 64 bits. -/
def isInfinite (x : Binary64) : Bool :=
  971 < x.exponent

def mul (x y : Binary64) : Binary64 :=
  ofRatio (x.toRatio.1 * y.toRatio.1) (x.toRatio.2 * y.toRatio.2)

def div (x y : Binary64) : Binary64 :=
  ofRatio (x.toRatio.1 * y.toRatio.2) (x.toRatio.2 * y.toRatio.1)

def tenPow (n : Nat) : Binary64 :=
  ofNat (Nat.pow 10 n)

/-- Whether `significand * 10 ^ exponent`, rounded once, fits into 64 bits. Only numbers with 309
digits before the point need a closer look. -/
def fitsDecimal (significand : Nat) (exponent : Int) : Bool :=
  let places := (toString significand).length + exponent
  if significand = 0 || places < 309 then true
  else if 309 < places then false
  else
    let num := significand * Nat.pow 10 exponent.toNat
    !(ofRatio num (Nat.pow 10 (-exponent).toNat)).isInfinite

/-- Divides by a power of ten in steps of at most 10³⁰⁸, each of them rounded. -/
def divTens (x : Binary64) (n : Nat) : Binary64 :=
  if n ≤ 308 then x.div (tenPow n)
  else if x.mantissa = 0 then x
  else divTens (x.div (tenPow 308)) (n - 308)
termination_by n

/-- The magnitude of a decimal number in the usual two roundings, if it fits. -/
def ofDecimal? (significand : Nat) (exponent : Int) : Option Binary64 :=
  let x := ofNat significand
  if exponent < 0 then some (x.divTens exponent.natAbs)
  else if x.mantissa = 0 then some x
  else if 308 < exponent then none
  else
    let product := x.mul (tenPow exponent.toNat)
    if product.isInfinite then none else some product

end Binary64

end EntityGen
