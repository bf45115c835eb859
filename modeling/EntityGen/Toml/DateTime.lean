import EntityGen.Number.Basic

/-! # TOML dates and times

Dates are checked against the calendar. Of the spellings of a date and time there is one written
form: it has all seconds, and of their fraction what does not end in zeros.
-/

namespace EntityGen.Toml

/-- The digits of a number, filled up with zeros in front. -/
def padded (width n : Nat) : List Char :=
  let digits := Nat.toDigits 10 n
  List.replicate (width - digits.length) '0' ++ digits

def twoDigits? : List Char → Option (Nat × List Char)
  | a :: b :: rest =>
    if a.isDigit && b.isDigit then some (digitsValue 10 [a, b], rest) else none
  | _ => none

structure Date where
  year : Nat
  month : Nat
  day : Nat
  deriving Repr, DecidableEq

namespace Date

def isLeapYear (year : Nat) : Bool :=
  year % 4 == 0 && (year % 100 != 0 || year % 400 == 0)

def daysInMonth (year month : Nat) : Nat :=
  if month = 2 then (if isLeapYear year then 29 else 28)
  else if [4, 6, 9, 11].contains month then 30
  else 31

def isValid (d : Date) : Bool :=
  1 ≤ d.month && d.month ≤ 12 && 1 ≤ d.day && d.day ≤ daysInMonth d.year d.month

/-- A date at the start of a text, and what follows it. -/
def read? (cs : List Char) : Option (Date × List Char) := do
  let (century, cs) ← twoDigits? cs
  let (years, cs) ← twoDigits? cs
  let '-' :: cs := cs | none
  let (month, cs) ← twoDigits? cs
  let '-' :: cs := cs | none
  let (day, cs) ← twoDigits? cs
  let date : Date := ⟨100 * century + years, month, day⟩
  if date.isValid then some (date, cs) else none

def chars (d : Date) : List Char :=
  padded 4 d.year ++ '-' :: padded 2 d.month ++ '-' :: padded 2 d.day

end Date

/-- A time of day; a minute may end with a leap second. -/
structure Time where
  hour : Nat
  minute : Nat
  second : Nat
  nanosecond : Nat
  deriving Repr, DecidableEq

namespace Time

/-- The nanoseconds at the start of a text, if it is a fraction, and what follows it. Digits after
the ninth do not count. -/
def readFraction? : List Char → Option (Nat × List Char)
  | '.' :: rest =>
    let digits := rest.takeWhile Char.isDigit
    let kept := digits.take 9
    if digits.isEmpty then none
    else some (digitsValue 10 kept * Nat.pow 10 (9 - kept.length), rest.dropWhile Char.isDigit)
  | cs => some (0, cs)

/-- The seconds at the start of a text, and what follows them. They may be left out. -/
def readSeconds? : List Char → Option (Nat × Nat × List Char)
  | ':' :: cs => do
    let (second, cs) ← twoDigits? cs
    let (nanosecond, cs) ← readFraction? cs
    if second ≤ 60 then some (second, nanosecond, cs) else none
  | cs => some (0, 0, cs)

/-- A time at the start of a text, and what follows it. -/
def read? (cs : List Char) : Option (Time × List Char) := do
  let (hour, cs) ← twoDigits? cs
  let ':' :: cs := cs | none
  let (minute, cs) ← twoDigits? cs
  let (second, nanosecond, cs) ← readSeconds? cs
  if hour ≤ 23 && minute ≤ 59 then some (⟨hour, minute, second, nanosecond⟩, cs) else none

def fraction (t : Time) : List Char :=
  if t.nanosecond = 0 then []
  else '.' :: ((padded 9 t.nanosecond).reverse.dropWhile (· == '0')).reverse

def chars (t : Time) : List Char :=
  padded 2 t.hour ++ ':' :: padded 2 t.minute ++ ':' :: padded 2 t.second ++ t.fraction

end Time

/-- How far a time is from universal time. -/
inductive Offset
  | unspecified
  | zulu
  | ahead (minutes : Nat)
  | behind (minutes : Nat)
  deriving Repr, DecidableEq

namespace Offset

def minutes? (cs : List Char) : Option Nat := do
  let (hour, cs) ← twoDigits? cs
  let ':' :: cs := cs | none
  let (minute, cs) ← twoDigits? cs
  if cs.isEmpty && hour ≤ 23 && minute ≤ 59 then some (60 * hour + minute) else none

def ofChars? : List Char → Option Offset
  | [] => some unspecified
  | ['Z'] => some zulu
  | ['z'] => some zulu
  | '+' :: cs => (minutes? cs).map ahead
  | '-' :: cs => (minutes? cs).map behind
  | _ => none

def clock (minutes : Nat) : List Char :=
  padded 2 (minutes / 60) ++ ':' :: padded 2 (minutes % 60)

/-- No difference at all has a plus sign. -/
def chars : Offset → List Char
  | unspecified => []
  | zulu => ['Z']
  | ahead minutes => '+' :: clock minutes
  | behind minutes => (if minutes = 0 then '+' else '-') :: clock minutes

end Offset

inductive DateTime
  | date (d : Date)
  | time (t : Time)
  | moment (d : Date) (t : Time) (offset : Offset)
  deriving Repr, DecidableEq

namespace DateTime

def isSeparator (c : Char) : Bool :=
  c == 'T' || c == 't' || c == ' '

def ofChars? (cs : List Char) : Option DateTime :=
  match Date.read? cs with
  | some (d, []) => some (.date d)
  | some (d, separator :: rest) => do
    let (t, rest) ← Time.read? rest
    let offset ← Offset.ofChars? rest
    if isSeparator separator then some (.moment d t offset) else none
  | none =>
    match Time.read? cs with
    | some (t, []) => some (.time t)
    | _ => none

/-- The written form. -/
def text : DateTime → String
  | date d => String.ofList d.chars
  | time t => String.ofList t.chars
  | moment d t offset => String.ofList (d.chars ++ 'T' :: t.chars ++ offset.chars)

end DateTime

end EntityGen.Toml
