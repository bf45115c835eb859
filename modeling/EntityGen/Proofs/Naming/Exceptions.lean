import EntityGen.Proofs.Naming.Compound
import EntityGen.Proofs.Plan.Edges
import EntityGen.Settings

/-! # Configured exceptions

Configured pairs stand before the pairs of English, so each is found first in both directions. But
words of one form are looked up before all pairs, and a pair has no effect on them.
-/

namespace EntityGen

open Naming Text

namespace Inflections

variable {inflections : Inflections} {p : String × String} {word : String}

def lowerPair (p : String × String) : String × String :=
  (String.ofList (lowercase p.1.toList), String.ofList (lowercase p.2.toList))

def HasOneForm (inflections : Inflections) (word : String) : Prop :=
  word ∈ uncountableNouns ∨
    ∃ u ∈ inflections.uncountable, String.ofList (lowercase u.toList) = word

instance : Decidable (inflections.HasOneForm word) :=
  inferInstanceAs (Decidable (_ ∨ _))

/-! ## The layers of a lexicon -/

theorem foldl_addPair (pairs : List (String × String)) (l : Lexicon) :
    pairs.foldl (fun l p => l.addPair p.1 p.2) l =
      { l with pairs := (pairs.map lowerPair).reverse ++ l.pairs } := by
  induction pairs generalizing l with
  | nil => rfl
  | cons p pairs ih =>
    rw [List.foldl_cons, ih, List.map_cons, List.reverse_cons, List.append_assoc]
    rfl

theorem foldl_addUncountable (words : List String) (l : Lexicon) :
    words.foldl Lexicon.addUncountable l = { l with
      uncountable :=
        (words.map fun w => String.ofList (lowercase w.toList)).reverse ++ l.uncountable } := by
  induction words generalizing l with
  | nil => rfl
  | cons w words ih =>
    rw [List.foldl_cons, ih, List.map_cons, List.reverse_cons, List.append_assoc]
    rfl

theorem lexicon_pairs : inflections.lexicon.pairs =
    (inflections.irregular.map lowerPair).reverse ++ irregularNouns.reverse := by
  rw [lexicon, foldl_addUncountable, foldl_addPair]
  rfl

theorem mem_uncountable_lexicon :
    word ∈ inflections.lexicon.uncountable ↔ inflections.HasOneForm word := by
  rw [lexicon, foldl_addUncountable, foldl_addPair]
  simp [HasOneForm, Lexicon.english, or_comm]

/-! ## Configured pairs -/

/-- The pairs are words in small letters, and none shares a word with another on its side. -/
structure Unambiguous (pairs : List (String × String)) : Prop where
  words : ∀ p ∈ pairs, IsWord p.1.toList ∧ IsWord p.2.toList
  singulars : (pairs.map Prod.fst).Nodup
  plurals : (pairs.map Prod.snd).Nodup

theorem lowerPair_of_isWord (h : IsWord p.1.toList ∧ IsWord p.2.toList) : lowerPair p = p := by
  rw [lowerPair, h.1.letters.lowercase_eq, h.2.letters.lowercase_eq, String.ofList_toList,
    String.ofList_toList]

theorem Unambiguous.lexicon_pairs (h : Unambiguous inflections.irregular) :
    inflections.lexicon.pairs = inflections.irregular.reverse ++ irregularNouns.reverse := by
  have hlower : inflections.irregular.map lowerPair = inflections.irregular :=
    (List.map_congr_left fun p hp => lowerPair_of_isWord (h.words p hp)).trans (List.map_id _)
  rw [Inflections.lexicon_pairs, hlower]

/-- A configured pair is found first by either of its words. -/
theorem find?_layered {key : String × String → String} {pairs defaults : List (String × String)}
    (hn : (pairs.map key).Nodup) (hp : p ∈ pairs) :
    (pairs.reverse ++ defaults).find? (key · == key p) = some p := by
  have hrev : (pairs.reverse.map key).Nodup := by rwa [List.map_reverse, List.nodup_reverse]
  rw [List.find?_append, find?_eq_some_of_nodup hrev (List.mem_reverse.mpr hp), Option.some_or]

theorem Unambiguous.plural? (h : Unambiguous inflections.irregular)
    (hp : p ∈ inflections.irregular) : inflections.lexicon.plural? p.1 = some p.2 := by
  rw [Lexicon.plural?, h.lexicon_pairs, find?_layered h.singulars hp, Option.map_some]

theorem Unambiguous.singular? (h : Unambiguous inflections.irregular)
    (hp : p ∈ inflections.irregular) : inflections.lexicon.singular? p.2 = some p.1 := by
  rw [Lexicon.singular?, h.lexicon_pairs, find?_layered h.plurals hp, Option.map_some]

theorem plural_eq {text : String} (hw : IsWord word.toList)
    (h : inflections.lexicon.plural? word = some text) :
    inflections.lexicon.inflector.plural word = text ↔
      word = text ∨ ¬ inflections.HasOneForm word := by
  have hp : (inflections.lexicon.inflector.plural word).toList =
      inflections.lexicon.pluralWord word.toList := toList_inflectLast_word hw
  rw [← String.toList_inj, hp, ← String.toList_inj, ← mem_uncountable_lexicon]
  by_cases hu : word ∈ inflections.lexicon.uncountable <;> simp [Lexicon.pluralWord, hu, h]

theorem singular_eq {text : String} (hw : IsWord word.toList)
    (h : inflections.lexicon.singular? word = some text) :
    inflections.lexicon.inflector.singular word = text ↔
      word = text ∨ ¬ inflections.HasOneForm word := by
  have hs : (inflections.lexicon.inflector.singular word).toList =
      inflections.lexicon.singularWord word.toList := toList_inflectLast_word hw
  rw [← String.toList_inj, hs, ← String.toList_inj, ← mem_uncountable_lexicon]
  by_cases hu : word ∈ inflections.lexicon.uncountable <;> simp [Lexicon.singularWord, hu, h]

/-- A configured pair takes effect in both directions exactly when its words are equal or neither is
known to have one form. -/
theorem pair_inflected_iff (h : Unambiguous inflections.irregular)
    (hp : p ∈ inflections.irregular) :
    inflections.lexicon.inflector.plural p.1 = p.2 ∧
        inflections.lexicon.inflector.singular p.2 = p.1 ↔
      p.1 = p.2 ∨ ¬ inflections.HasOneForm p.1 ∧ ¬ inflections.HasOneForm p.2 := by
  have hw := h.words p hp
  rw [plural_eq hw.1 (h.plural? hp), singular_eq hw.2 (h.singular? hp), eq_comm (a := p.2),
    or_and_left]

theorem octopus_inflected :
    let inflections : Inflections := { irregular := [("octopus", "octopi")] }
    inflections.lexicon.inflector.plural "octopus" = "octopi" ∧
      inflections.lexicon.inflector.singular "octopi" = "octopus" := by
  intro inflections
  have hu : Unambiguous inflections.irregular :=
    ⟨by decide +kernel, by decide +kernel, by decide +kernel⟩
  exact (pair_inflected_iff (p := ("octopus", "octopi")) hu (by decide +kernel)).mpr
    (.inr (by decide +kernel))

/-- A pair with a noun of one form has no effect on this noun. -/
theorem datum_data_not_inflected :
    let inflections : Inflections := { irregular := [("datum", "data")] }
    Unambiguous inflections.irregular ∧ inflections.uncountable = [] ∧
      inflections.lexicon.inflector.plural "datum" = "data" ∧
      inflections.lexicon.inflector.singular "data" = "data" := by
  refine ⟨⟨?_, ?_, ?_⟩, rfl, ?_, ?_⟩ <;> decide +kernel

end Inflections

end EntityGen
