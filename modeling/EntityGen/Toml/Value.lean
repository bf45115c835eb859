import EntityGen.Toml.DateTime

/-! # TOML values

A document is a tree of tables that grows line by line. How a table came to be decides who may add
to it, so that nothing is defined twice.
-/

namespace EntityGen.Toml

/-- How a table came to be. -/
inductive TableKind
  /-- By a header of its own. -/
  | header
  /-- By the header of a table below it. -/
  | implied
  /-- By a dotted key. -/
  | dotted
  /-- By a value in braces, which is complete. -/
  | inline
  deriving Repr, DecidableEq

/-- Numbers are checked but not kept. -/
inductive Value
  | string (s : String)
  | boolean (b : Bool)
  | number
  | dateTime (d : DateTime)
  | array (items : List Value)
  | table (kind : TableKind) (entries : List (String × Value))
  /-- The tables under one header in double brackets. -/
  | tables (items : List Value)

abbrev Entries := List (String × Value)

namespace Entries

/-- Puts a value in the place of the one with the same key, or at the end. -/
def put (key : String) (value : Value) : Entries → Entries
  | [] => [(key, value)]
  | e :: rest => if e.1 == key then (key, value) :: rest else e :: put key value rest

def insertNew? (key : String) (value : Value) (entries : Entries) : Option Entries :=
  if (entries.lookup key).isNone then some (entries ++ [(key, value)]) else none

/-- Edits the table that a header path leads to. Tables on the way come into being, and under double
brackets the last table is meant. -/
def edit? (change : Entries → Option Entries) : List String → Entries → Option Entries
  | [], entries => change entries
  | key :: path, entries =>
    match entries.lookup key with
    | none => (edit? change path []).map fun inner => entries.put key (.table .implied inner)
    | some (.table kind inner) =>
      if kind = .inline then none
      else (edit? change path inner).map fun inner => entries.put key (.table kind inner)
    | some (.tables items) =>
      match items.reverse with
      | .table kind inner :: earlier =>
        (edit? change path inner).map fun inner =>
          entries.put key (.tables (Value.table kind inner :: earlier).reverse)
      | _ => none
    | some _ => none

/-- Adds a value under a dotted key. The table that receives it has to stem from a dotted key, and
no table on the way may have a single header of its own. -/
def insertDotted? (key : String) (value : Value) : List String → Entries → Option Entries
  | [], entries => entries.insertNew? key value
  | first :: path, entries =>
    match entries.lookup first with
    | none =>
      (insertDotted? key value path []).map fun inner => entries.put first (.table .dotted inner)
    | some (.table kind inner) =>
      if kind = .dotted || (kind = .implied && !path.isEmpty) then
        (insertDotted? key value path inner).map fun inner => entries.put first (.table kind inner)
      else none
    | some (.tables items) =>
      match path, items.reverse with
      | _ :: _, .table kind inner :: earlier =>
        (insertDotted? key value path inner).map fun inner =>
          entries.put first (.tables (Value.table kind inner :: earlier).reverse)
      | _, _ => none
    | some _ => none

/-- Adds a key of one or more parts. -/
def insertKey? (key : List String) (value : Value) (entries : Entries) : Option Entries :=
  match key.reverse with
  | [] => none
  | last :: path => insertDotted? last value path.reverse entries

/-- A table gets its header once, before or after the tables below it. -/
def openTable? (last : String) (entries : Entries) : Option Entries :=
  match entries.lookup last with
  | none => some (entries ++ [(last, .table .header [])])
  | some (.table .implied inner) => some (entries.put last (.table .header inner))
  | some _ => none

/-- A header in double brackets starts the next table of its list. -/
def openItem? (last : String) (entries : Entries) : Option Entries :=
  match entries.lookup last with
  | none => some (entries ++ [(last, .tables [.table .header []])])
  | some (.tables items) => some (entries.put last (.tables (items ++ [.table .header []])))
  | some _ => none

/-- Edits the table that holds the last key of a header. -/
def openAt? (change : String → Entries → Option Entries) (header : List String)
    (entries : Entries) : Option Entries :=
  match header.reverse with
  | [] => none
  | last :: path => edit? (change last) path.reverse entries

end Entries

end EntityGen.Toml
