import EntityGen.Number.Basic

/-! # Shortest decimal text

The text of a magnitude has the fewest digits that read back as the same magnitude. Of several such
decimals it is the nearest one.
-/

namespace EntityGen

namespace Binary64

/-- Whether a ratio reads back as `x`: twice its distance is at most the gap to the neighbour, and
the middle between two magnitudes belongs to the even mantissa. -/
def readsBack (x : Binary64) (num den : Nat) : Bool :=
  let (p, q) := x.toRatio
  let (unitNum, unitDen) := scale 1 1 (-x.exponent)
  let above := q * num
  let exact := p * den
  let within (distance gapParts : Nat) : Bool :=
    let lhs := gapParts * distance * unitDen
    let rhs := unitNum * q * den
    if x.mantissa % 2 = 0 then lhs ≤ rhs else lhs < rhs
  if exact ≤ above then within (above - exact) 2
  else if x.mantissa = Nat.pow 2 52 && -1074 < x.exponent then within (exact - above) 4
  else within (exact - above) 2

/-- A decimal as digits and an exponent of ten. -/
structure Decimal where
  digits : Nat
  exponent : Int
  deriving Repr, DecidableEq

def Decimal.toRatio (d : Decimal) : Nat × Nat :=
  (d.digits * Nat.pow 10 d.exponent.toNat, Nat.pow 10 (-d.exponent).toNat)

/-- The points of the decimal grid next to `x`, the nearer one first. -/
def gridPoints (x : Binary64) (exponent : Int) : List Decimal :=
  let (p, q) := x.toRatio
  let num := p * Nat.pow 10 (-exponent).toNat
  let den := q * Nat.pow 10 exponent.toNat
  let low := num / den
  let near := roundDiv num den
  [⟨near, exponent⟩, ⟨if near = low then low + 1 else low, exponent⟩]

/-- The number of decimal digits of a number. -/
def digitCount (n : Nat) : Nat :=
  (Nat.toDigits 10 n).length

/-- The exponent of ten of the leading digit. -/
def leadingExponent (x : Binary64) : Int :=
  let (p, q) := x.toRatio
  if q ≤ p then (digitCount (p / q) : Int) - 1 else -(digitCount ((q + p - 1) / p - 1) : Int)

/-- The first point that reads back on the grids of 1, 2, … 17 digits. -/
def shortest (x : Binary64) : Decimal :=
  let lead := x.leadingExponent
  let points := (List.range 17).flatMap fun (n : Nat) => x.gridPoints (lead - n)
  (points.find? fun d => 0 < d.digits && x.readsBack d.toRatio.1 d.toRatio.2).getD ⟨0, 0⟩

end Binary64

namespace Binary64.Decimal

/-- Takes trailing zeros into the exponent. -/
def normalize (d : Decimal) : Decimal :=
  if h : d.digits = 0 then d
  else if d.digits % 10 = 0 then normalize ⟨d.digits / 10, d.exponent + 1⟩
  else d
termination_by d.digits
decreasing_by exact Nat.div_lt_self (Nat.pos_of_ne_zero h) (by decide)

/-- The sign of an exponent is always shown. -/
def exponentText (n : Int) : String :=
  if n < 0 then s!"e-{n.natAbs}" else s!"e+{n.natAbs}"

/-- Positional between 10⁻⁵ and 10¹⁶, with an exponent elsewhere. -/
def text (d : Decimal) : String :=
  let digits := Nat.toDigits 10 d.digits
  let point := digits.length + d.exponent
  if 0 ≤ d.exponent && point ≤ 16 then
    String.ofList (digits ++ List.replicate d.exponent.toNat '0') ++ ".0"
  else if 0 < point && point ≤ 16 then
    String.ofList (digits.take point.toNat ++ '.' :: digits.drop point.toNat)
  else if -5 < point && point ≤ 0 then
    "0." ++ String.ofList (List.replicate (-point).toNat '0' ++ digits)
  else
    let fraction := if digits.length = 1 then [] else '.' :: digits.drop 1
    String.ofList (digits.take 1 ++ fraction) ++ exponentText (point - 1)

end Binary64.Decimal

/-- The shortest text of a magnitude. -/
def Binary64.text (x : Binary64) : String :=
  if x.mantissa = 0 then "0.0" else x.shortest.normalize.text

end EntityGen
