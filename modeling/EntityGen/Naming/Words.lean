import EntityGen.Text.Alphanumeric
import EntityGen.Text.LetterCase
import EntityGen.Text.Lowercase

/-! # Words of an identifier

A word ends at a character that is no letter or digit, and before a capital letter that starts a
new word. `humanize` joins the capitalized words to one PascalCase token.
-/

namespace EntityGen.Naming

open Text

/-- A capital starts a word after a small letter or a digit, or as the last capital of a row. -/
def startsWord (previous c : Char) (next : Option Char) : Bool :=
  isUppercase c &&
    (isLowercase previous || previous.isDigit || (isUppercase previous && next.any isLowercase))

/-- The words of a text; `word` holds the current one, reversed. -/
def wordsFrom (word : List Char) : List Char → List (List Char)
  | [] => if word.isEmpty then [] else [word.reverse]
  | c :: rest =>
    if isAlphanumeric c then
      match word with
      | [] => wordsFrom [c] rest
      | previous :: earlier =>
        if startsWord previous c rest.head? then
          (previous :: earlier).reverse :: wordsFrom [c] rest
        else
          wordsFrom (c :: previous :: earlier) rest
    else if word.isEmpty then wordsFrom [] rest
    else word.reverse :: wordsFrom [] rest

def words (cs : List Char) : List (List Char) :=
  wordsFrom [] cs

/-- Raises the first letter and keeps the rest. -/
def capitalizeChars : List Char → List Char
  | [] => []
  | c :: rest => upper c ++ rest

/-- Raises the first letter and lowers the rest. -/
def capitalizeWord : List Char → List Char
  | [] => []
  | c :: rest => upper c ++ lowercase rest

/-- No identifier starts with a digit, so an underscore is put before one. -/
def guardDigit (cs : List Char) : List Char :=
  if cs.head?.any Char.isDigit then '_' :: cs else cs

def humanizeChars (cs : List Char) : List Char :=
  guardDigit ((words cs).flatMap capitalizeWord)

/-- The PascalCase token of a schema identifier. -/
def humanize (identifier : String) : String :=
  String.ofList (humanizeChars identifier.toList)

def capitalize (s : String) : String :=
  String.ofList (capitalizeChars s.toList)

/-- The endings that mark a column as a key, in small letters. -/
def keyEndings : List (List Char) := [['i', 'd'], ['f', 'k'], ['p', 'k']]

/-- Drops a key ending in any ASCII case, unless nothing would be left. -/
def dropKeyEnding (cs : List Char) : List Char :=
  let stem := cs.length - 2
  if 2 < cs.length && keyEndings.contains ((cs.drop stem).map Char.toLower) then cs.take stem
  else cs

def stripKeyEnding (token : String) : String :=
  String.ofList (dropKeyEnding token.toList)

end EntityGen.Naming

/-! ## Inflection rules

An inflector turns a word, which may be a PascalCase compound, to its singular and its plural, and
finds the meaning of a key column in its name. Planning works with any inflector.
-/

namespace EntityGen

structure Inflector where
  singular : String → String
  plural : String → String
  qualifier : String → String := Naming.stripKeyEnding

/-- The words of this inflector have one form. -/
def Inflector.unchanging : Inflector where
  singular := id
  plural := id

/-- The class name for a table is singular and in PascalCase. -/
def Inflector.entityName (inflector : Inflector) (table : String) : String :=
  inflector.singular (Naming.humanize table)

end EntityGen
