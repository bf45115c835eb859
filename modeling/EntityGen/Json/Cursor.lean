/-! # Places in a JSON text

A cursor is the text still to read and the place where it starts. Lines count from one, and columns
count the bytes read since the last line feed.
-/

namespace EntityGen.Json

structure Place where
  line : Nat := 1
  column : Nat := 0
  deriving Repr, DecidableEq

namespace Place

/-- The place after a character. -/
def after (p : Place) (c : Char) : Place :=
  if c = '\n' then ⟨p.line + 1, 0⟩ else ⟨p.line, p.column + c.utf8Size⟩

/-- The place after the first byte of a character. -/
def afterByte (p : Place) (c : Char) : Place :=
  if c = '\n' then ⟨p.line + 1, 0⟩ else ⟨p.line, p.column + 1⟩

/-- The place after some bytes, which may end within a character. -/
def afterBytes (p : Place) : Nat → List Char → Place
  | 0, _ => p
  | _, [] => p
  | n + 1, c :: rest =>
    if c.utf8Size ≤ n + 1 then (p.after c).afterBytes (n + 1 - c.utf8Size) rest
    else ⟨p.line, p.column + n + 1⟩

end Place

structure Cursor where
  rest : List Char
  place : Place := {}
  deriving Repr, DecidableEq

namespace Cursor

/-- Past the first character. -/
def next (c : Cursor) : Cursor :=
  match c.rest with
  | [] => c
  | x :: rest => ⟨rest, c.place.after x⟩

/-- The place of the next byte, or of the end of the text. -/
def peekPlace (c : Cursor) : Place :=
  match c.rest with
  | [] => c.place
  | x :: _ => c.place.afterByte x

def isBlank (c : Char) : Bool :=
  c == ' ' || c == '\t' || c == '\n' || c == '\r'

def skipBlanksFrom (place : Place) : List Char → Cursor
  | [] => ⟨[], place⟩
  | x :: rest => if isBlank x then skipBlanksFrom (place.after x) rest else ⟨x :: rest, place⟩

def skipBlanks (c : Cursor) : Cursor :=
  skipBlanksFrom c.place c.rest

/-- Past all that satisfies `p`, which comes first in the result. -/
def takeWhileFrom (p : Char → Bool) (taken : List Char) (place : Place) :
    List Char → List Char × Cursor
  | [] => (taken.reverse, ⟨[], place⟩)
  | x :: rest =>
    if p x then takeWhileFrom p (x :: taken) (place.after x) rest
    else (taken.reverse, ⟨x :: rest, place⟩)

def takeWhile (p : Char → Bool) (c : Cursor) : List Char × Cursor :=
  takeWhileFrom p [] c.place c.rest

/-- The end of the text. -/
def atEnd (c : Cursor) : Cursor :=
  (c.takeWhile fun _ => true).2

end Cursor

end EntityGen.Json
