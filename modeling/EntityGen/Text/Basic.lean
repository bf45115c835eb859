/-! # Characters, blanks and lines

A character property is a list of ranges of code points. Blank is the property White_Space. A line
ends at a line feed, and a carriage return right before the line feed belongs to the line end.
-/

namespace EntityGen.Text

/-- Every `step`-th code point from `first` to `last`. -/
structure CodeRange where
  first : Nat
  last : Nat
  step : Nat
  deriving Repr

def CodeRange.contains (r : CodeRange) (n : Nat) : Bool :=
  r.first ≤ n && n ≤ r.last && (n - r.first) % r.step == 0

def inRanges (ranges : List CodeRange) (c : Char) : Bool :=
  ranges.any fun r => r.contains c.toNat

/-- The code points below 128, on which the properties of `Char` are the full ones. -/
def isAscii (c : Char) : Bool :=
  c.toNat < 128

/-! ## Blanks and lines -/

/-- The code points with the property White_Space. -/
def blankRanges : List CodeRange := [
  ⟨0x9, 0xD, 1⟩, ⟨0x20, 0x20, 1⟩, ⟨0x85, 0x85, 1⟩, ⟨0xA0, 0xA0, 1⟩, ⟨0x1680, 0x1680, 1⟩,
  ⟨0x2000, 0x200A, 1⟩, ⟨0x2028, 0x2029, 1⟩, ⟨0x202F, 0x202F, 1⟩, ⟨0x205F, 0x205F, 1⟩,
  ⟨0x3000, 0x3000, 1⟩]

def isBlank (c : Char) : Bool :=
  inRanges blankRanges c

def trimStart (cs : List Char) : List Char :=
  cs.dropWhile isBlank

def trimEnd (cs : List Char) : List Char :=
  (cs.reverse.dropWhile isBlank).reverse

def trim (cs : List Char) : List Char :=
  trimEnd (trimStart cs)

/-- Leaves out one carriage return at the end. -/
def dropReturn (cs : List Char) : List Char :=
  if cs.getLast? = some '\r' then cs.dropLast else cs

/-- The lines of a text; `line` holds the start of the current one, reversed. -/
def linesFrom (line : List Char) : List Char → List (List Char)
  | [] => if line.isEmpty then [] else [line.reverse]
  | c :: rest =>
    if c = '\n' then dropReturn line.reverse :: linesFrom [] rest else linesFrom (c :: line) rest

/-- The lines of a text without their ends. No line follows the last line feed. -/
def lines (cs : List Char) : List (List Char) :=
  linesFrom [] cs

end EntityGen.Text
