import EntityGen.Settings

/-! # Words without configured exceptions

Each exception that is added to a lexicon changes what is found for its own words and for no other
word. So all words that the configuration does not mention are inflected as by default.
-/

namespace EntityGen

open Naming Text

namespace Naming

def smallLetters (word : String) : String :=
  String.ofList (lowercase word.toList)

def lastWord (compound : String) : String :=
  String.ofList (lowercase (splitLastWord compound.toList).2)

theorem inflectLast_congr {rule other : List Char → List Char} {compound : String}
    (h : rule (lastWord compound).toList = other (lastWord compound).toList) :
    inflectLast rule compound = inflectLast other compound := by
  rw [lastWord, String.toList_ofList] at h
  unfold inflectLast
  dsimp only
  rw [h]

namespace Lexicon

variable {l m n : Lexicon} {word compound : String}

structure AgreesOn (l m : Lexicon) (word : String) : Prop where
  uncountable : word ∈ l.uncountable ↔ word ∈ m.uncountable
  plural : l.plural? word = m.plural? word
  singular : l.singular? word = m.singular? word

theorem AgreesOn.refl (l : Lexicon) (word : String) : l.AgreesOn l word :=
  ⟨Iff.rfl, rfl, rfl⟩

theorem AgreesOn.trans (h : l.AgreesOn m word) (k : m.AgreesOn n word) : l.AgreesOn n word :=
  ⟨h.uncountable.trans k.uncountable, h.plural.trans k.plural, h.singular.trans k.singular⟩

theorem addPair_agreesOn {singular plural : String} (hs : smallLetters singular ≠ word)
    (hp : smallLetters plural ≠ word) : (l.addPair singular plural).AgreesOn l word where
  uncountable := Iff.rfl
  plural := by
    rw [plural?, addPair, List.find?_cons_of_neg (by simpa [smallLetters] using hs)]
    rfl
  singular := by
    rw [singular?, addPair, List.find?_cons_of_neg (by simpa [smallLetters] using hp)]
    rfl

theorem addUncountable_agreesOn {added : String} (h : smallLetters added ≠ word) :
    (l.addUncountable added).AgreesOn l word where
  uncountable := by
    rw [addUncountable, List.mem_cons]
    exact or_iff_right (Ne.symm h)
  plural := rfl
  singular := rfl

theorem foldl_agreesOn {α : Type} {add : Lexicon → α → Lexicon} {items : List α}
    (h : ∀ item ∈ items, ∀ l, (add l item).AgreesOn l word) (l : Lexicon) :
    (items.foldl add l).AgreesOn l word := by
  induction items generalizing l with
  | nil => exact .refl l word
  | cons item items ih =>
    obtain ⟨hitem, hitems⟩ := List.forall_mem_cons.mp h
    exact (ih hitems (add l item)).trans (hitem l)

theorem AgreesOn.pluralWord_eq (h : l.AgreesOn m word) :
    l.pluralWord word.toList = m.pluralWord word.toList := by
  simp only [pluralWord, String.ofList_toList, List.contains_iff_mem, h.uncountable, h.plural]

theorem AgreesOn.singularWord_eq (h : l.AgreesOn m word) :
    l.singularWord word.toList = m.singularWord word.toList := by
  simp only [singularWord, String.ofList_toList, List.contains_iff_mem, h.uncountable, h.plural,
    h.singular]

/-- Inflection asks the lexicon about the last word only. -/
theorem AgreesOn.inflector_eq (h : l.AgreesOn m (lastWord compound)) :
    l.inflector.plural compound = m.inflector.plural compound ∧
      l.inflector.singular compound = m.inflector.singular compound :=
  ⟨inflectLast_congr h.pluralWord_eq, inflectLast_congr h.singularWord_eq⟩

end Lexicon

end Naming

namespace Inflections

variable {inflections : Inflections} {word compound : String}

def Mentions (inflections : Inflections) (word : String) : Prop :=
  (∃ p ∈ inflections.irregular, smallLetters p.1 = word ∨ smallLetters p.2 = word) ∨
    ∃ u ∈ inflections.uncountable, smallLetters u = word

instance : Decidable (inflections.Mentions word) :=
  inferInstanceAs (Decidable (_ ∨ _))

theorem lexicon_agreesOn (h : ¬ inflections.Mentions word) :
    inflections.lexicon.AgreesOn Lexicon.english word := by
  rw [Mentions, not_or] at h
  obtain ⟨hpairs, hwords⟩ := h
  refine (Lexicon.foldl_agreesOn (fun u hu l => ?_) _).trans
    (Lexicon.foldl_agreesOn (fun p hp l => ?_) _)
  · exact Lexicon.addUncountable_agreesOn fun he => hwords ⟨u, hu, he⟩
  · exact Lexicon.addPair_agreesOn (fun he => hpairs ⟨p, hp, .inl he⟩)
      (fun he => hpairs ⟨p, hp, .inr he⟩)

/-- Configured exceptions have no effect on a text with another last word. -/
theorem inflected_as_default (h : ¬ inflections.Mentions (lastWord compound)) :
    inflections.lexicon.inflector.plural compound = Lexicon.english.inflector.plural compound ∧
      inflections.lexicon.inflector.singular compound =
        Lexicon.english.inflector.singular compound :=
  (lexicon_agreesOn h).inflector_eq

/-- Another plural for leaf leaves the old plural a plural. -/
theorem oakLeaves_inflected_as_default :
    let inflections : Inflections := { irregular := [("Leaf", "Leafs")], uncountable := ["Oak"] }
    ¬ inflections.Mentions (lastWord "OakLeaves") ∧
      inflections.lexicon.inflector.plural "OakLeaves" =
        Lexicon.english.inflector.plural "OakLeaves" ∧
      inflections.lexicon.inflector.singular "OakLeaves" =
        Lexicon.english.inflector.singular "OakLeaves" := by
  intro inflections
  have h : ¬ inflections.Mentions (lastWord "OakLeaves") := by decide +kernel
  exact ⟨h, inflected_as_default h⟩

end Inflections

end EntityGen
