import EntityGen.Naming.Words

/-! # English inflection

A lexicon holds the exceptions, and suffix rules cover the rest. Only the last word of a compound is
inflected, in small letters, and takes its old case back afterwards.
-/

namespace EntityGen.Naming

open Text

/-- The exceptions: pairs of a singular and a plural, the latest first, and words of one form. -/
structure Lexicon where
  pairs : List (String × String)
  uncountable : List String
  deriving Repr

namespace Lexicon

def plural? (lexicon : Lexicon) (word : String) : Option String :=
  (lexicon.pairs.find? (·.1 == word)).map (·.2)

def singular? (lexicon : Lexicon) (word : String) : Option String :=
  (lexicon.pairs.find? (·.2 == word)).map (·.1)

/-- A later pair takes precedence in both directions. -/
def addPair (lexicon : Lexicon) (singular plural : String) : Lexicon :=
  { lexicon with
    pairs := (String.ofList (lowercase singular.toList), String.ofList (lowercase plural.toList)) ::
      lexicon.pairs }

def addUncountable (lexicon : Lexicon) (word : String) : Lexicon :=
  { lexicon with
    uncountable := String.ofList (lowercase word.toList) :: lexicon.uncountable }

end Lexicon

def irregularNouns : List (String × String) := [
  ("person", "people"), ("man", "men"), ("woman", "women"), ("child", "children"),
  ("mouse", "mice"), ("goose", "geese"), ("tooth", "teeth"), ("foot", "feet"), ("ox", "oxen"),
  ("criterion", "criteria"), ("leaf", "leaves"), ("loaf", "loaves"), ("wolf", "wolves"),
  ("half", "halves"), ("shelf", "shelves"), ("knife", "knives"), ("wife", "wives"),
  ("life", "lives"), ("thief", "thieves"), ("calf", "calves"), ("hero", "heroes"),
  ("potato", "potatoes"), ("tomato", "tomatoes"), ("echo", "echoes"), ("movie", "movies"),
  ("cookie", "cookies"), ("zombie", "zombies"), ("cache", "caches"), ("quiz", "quizzes")]

def uncountableNouns : List String := [
  "equipment", "information", "rice", "money", "species", "series", "fish", "sheep", "deer", "news",
  "data", "metadata", "feedback", "software", "hardware", "staff", "audio", "media"]

/-- Endings of a singular with those of its plural. -/
def nounEndings : List (String × String) := [
  ("status", "statuses"), ("alias", "aliases"), ("campus", "campuses"), ("virus", "viruses"),
  ("census", "censuses"), ("bus", "buses"), ("matrix", "matrices"), ("vertex", "vertices"),
  ("index", "indices"), ("appendix", "appendices"), ("analysis", "analyses"),
  ("crisis", "crises"), ("thesis", "theses"), ("diagnosis", "diagnoses"),
  ("synopsis", "synopses"), ("parenthesis", "parentheses")]

def Lexicon.english : Lexicon where
  pairs := irregularNouns.reverse
  uncountable := uncountableNouns

def endsIn (word : List Char) (ending : String) : Bool :=
  ending.toList.isSuffixOf word

/-- What stands before `ending` at the end of `word`. -/
def stem? (word : List Char) (ending : String) : Option (List Char) :=
  if endsIn word ending then some (word.take (word.length - ending.toList.length)) else none

/-- The word with the first fitting ending of `endings` exchanged. -/
def exchangeEnding? (endings : List (String × String)) (word : List Char) : Option (List Char) :=
  endings.findSome? fun e => (stem? word e.1).map (· ++ e.2.toList)

def endsInConsonant (stem : List Char) : Bool :=
  stem.getLast?.any fun c => isAlphabetic c && !"aeiouy".toList.contains c

/-- The stems whose final y becomes ie in the plural. -/
def softensY (stem : List Char) : Bool :=
  endsInConsonant stem || endsIn stem "qu"

/-- The plural of a regular noun in small letters. -/
def regularPlural (word : List Char) : List Char :=
  match exchangeEnding? nounEndings word with
  | some plural => plural
  | none =>
    if ["x", "ch", "sh", "ss", "zz"].any (endsIn word) then word ++ ['e', 's']
    else if endsIn word "s" then word
    else match (stem? word "y").filter softensY with
      | some stem => stem ++ ['i', 'e', 's']
      | none => word ++ ['s']

/-- The singular of a regular noun in small letters. -/
def regularSingular (word : List Char) : List Char :=
  match exchangeEnding? (nounEndings.map Prod.swap) word with
  | some singular => singular
  | none =>
    if ["ss", "us", "is"].any (endsIn word) then word
    else match (stem? word "ies").filter softensY with
      | some stem => stem ++ ['y']
      | none =>
        if ["xes", "ches", "shes", "sses", "zzes"].any (endsIn word) then
          word.take (word.length - 2)
        else match (stem? word "s").filter (!·.isEmpty) with
          | some stem => stem
          | none => word

namespace Lexicon

def pluralWord (lexicon : Lexicon) (word : List Char) : List Char :=
  let text := String.ofList word
  if lexicon.uncountable.contains text then word
  else match lexicon.plural? text with
    | some plural => plural.toList
    | none => regularPlural word

def singularWord (lexicon : Lexicon) (word : List Char) : List Char :=
  let text := String.ofList word
  if lexicon.uncountable.contains text then word
  else match lexicon.singular? text with
    | some singular => singular.toList
    | none => if (lexicon.plural? text).isSome then word else regularSingular word

end Lexicon

/-- Cuts before the last capital that follows no capital, where `previous` comes before the text. -/
def cutLastWord (previous : Char) : List Char → Option (List Char × List Char)
  | [] => none
  | c :: rest =>
    match cutLastWord c rest with
    | some (lead, last) => some (c :: lead, last)
    | none => if isUppercase c && !isUppercase previous then some ([], c :: rest) else none

/-- A compound as what comes before its last word, and that word. -/
def splitLastWord : List Char → List Char × List Char
  | [] => ([], [])
  | c :: rest =>
    match cutLastWord c rest with
    | some (lead, last) => (c :: lead, last)
    | none => ([], c :: rest)

/-- Gives an inflected word in small letters the case of `model`. -/
def matchCase (model inflected : List Char) : List Char :=
  if 1 < model.length && !model.any isLowercase then uppercase inflected
  else if model.head?.any isUppercase then capitalizeChars inflected
  else inflected

def inflectLast (rule : List Char → List Char) (word : String) : String :=
  let (lead, last) := splitLastWord word.toList
  if last.isEmpty then word else String.ofList (lead ++ matchCase last (rule (lowercase last)))

def Lexicon.inflector (lexicon : Lexicon) : Inflector where
  singular := inflectLast lexicon.singularWord
  plural := inflectLast lexicon.pluralWord

end EntityGen.Naming
