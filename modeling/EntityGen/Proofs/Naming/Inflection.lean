import EntityGen.Naming.English
import Mathlib.Data.List.Infix
import Mathlib.Data.String.Basic

/-! # The English rules as relations

A word in small letters has one plural and one singular. `PluralForm` and `SingularForm` say which
rule gives it: an exception of the lexicon, a noun ending, or a general rule for the last letters.
-/

namespace EntityGen.Naming

variable {word stem v : List Char} {ending : String} {endings : List (String × String)}

theorem endsIn_iff : endsIn word ending = true ↔ ending.toList <:+ word :=
  List.isSuffixOf_iff_suffix

theorem stem?_eq_some_iff : stem? word ending = some stem ↔ word = stem ++ ending.toList := by
  unfold stem?
  split
  · next h =>
    obtain ⟨s, rfl⟩ := endsIn_iff.mp h
    simp
  · next h =>
    simp only [reduceCtorEq, false_iff]
    rintro rfl
    exact h (endsIn_iff.mpr (List.suffix_append _ _))

theorem stem?_eq_none_iff : stem? word ending = none ↔ ¬ ending.toList <:+ word := by
  simp [stem?, endsIn_iff]

theorem filter_stem?_eq_some_iff {p : List Char → Bool} :
    (stem? word ending).filter p = some stem ↔ word = stem ++ ending.toList ∧ p stem = true := by
  rw [Option.filter_eq_some_iff, stem?_eq_some_iff]

theorem filter_stem?_eq_none_iff {p : List Char → Bool} :
    (stem? word ending).filter p = none ↔ ∀ s, word = s ++ ending.toList → p s = false := by
  simp [Option.filter_eq_none_iff, stem?_eq_some_iff]

theorem exchangeEnding?_eq_none_iff :
    exchangeEnding? endings word = none ↔ ∀ e ∈ endings, ¬ e.1.toList <:+ word := by
  simp only [exchangeEnding?, List.findSome?_eq_none_iff, Option.map_eq_none_iff,
    stem?_eq_none_iff]

theorem exists_of_exchangeEnding? (h : exchangeEnding? endings word = some v) :
    ∃ e ∈ endings, ∃ stem, word = stem ++ e.1.toList ∧ v = stem ++ e.2.toList := by
  obtain ⟨e, he, hv⟩ := List.exists_of_findSome?_eq_some h
  obtain ⟨s, hs, rfl⟩ := Option.map_eq_some_iff.mp hv
  exact ⟨e, he, s, stem?_eq_some_iff.mp hs, rfl⟩

/-! ## Plurals -/

/-- The word ends in a sound after which the plural takes es. -/
def Hisses (word : List Char) : Prop :=
  ["x", "ch", "sh", "ss", "zz"].any (endsIn word) = true

instance : DecidablePred Hisses := fun _ => inferInstanceAs (Decidable (_ = true))

/-- No exception and no noun ending decides the plural of the word. -/
structure Plain (word : List Char) : Prop where
  countable : String.ofList word ∉ uncountableNouns
  regular : ∀ p ∈ irregularNouns, word ≠ p.1.toList
  endings : ∀ e ∈ nounEndings, ¬ e.1.toList <:+ word

inductive PluralForm (word : List Char) : List Char → Prop
  | uncountable : String.ofList word ∈ uncountableNouns → PluralForm word word
  | irregular {p : String × String} : p ∈ irregularNouns → word = p.1.toList →
      PluralForm word p.2.toList
  | ending {stem : List Char} {e : String × String} : e ∈ nounEndings →
      word = stem ++ e.1.toList → PluralForm word (stem ++ e.2.toList)
  | hissing : Plain word → Hisses word → PluralForm word (word ++ ['e', 's'])
  | finalS : Plain word → ¬ Hisses word → ['s'] <:+ word → PluralForm word word
  | soft {stem : List Char} : Plain word → softensY stem = true → word = stem ++ ['y'] →
      PluralForm word (stem ++ ['i', 'e', 's'])
  | regular : Plain word → ¬ Hisses word → (∀ stem, softensY stem = true → word ≠ stem ++ ['y']) →
      PluralForm word (word ++ ['s'])

theorem english_plural?_eq_some {text plural : String}
    (h : Lexicon.english.plural? text = some plural) : (text, plural) ∈ irregularNouns := by
  obtain ⟨p, hp, rfl⟩ := Option.map_eq_some_iff.mp h
  have ht : p.1 = text := by simpa using List.find?_some hp
  exact ht ▸ List.mem_reverse.mp (List.mem_of_find?_eq_some hp)

theorem english_plural?_eq_none {text : String} (h : Lexicon.english.plural? text = none) :
    ∀ p ∈ irregularNouns, text ≠ p.1 := by
  intro p hp ht
  have hn := List.find?_eq_none.mp (Option.map_eq_none_iff.mp h) p (List.mem_reverse.mpr hp)
  simp [ht] at hn

theorem pluralForm_pluralWord (word : List Char) :
    PluralForm word (Lexicon.english.pluralWord word) := by
  unfold Lexicon.pluralWord
  dsimp only
  split
  · next hu => exact .uncountable (List.contains_iff_mem.mp hu)
  next hu =>
  split
  · next plural hp => exact .irregular (english_plural?_eq_some hp) (by simp)
  next hp =>
  unfold regularPlural
  split
  · next plural he =>
    obtain ⟨e, hm, stem, hw, rfl⟩ := exists_of_exchangeEnding? he
    exact .ending hm hw
  next he =>
  have plain : Plain word := by
    refine ⟨fun hm => hu (List.contains_iff_mem.mpr hm), fun p hm hw => ?_,
      exchangeEnding?_eq_none_iff.mp he⟩
    exact english_plural?_eq_none hp p hm (by simp [hw])
  split
  · next hh => exact .hissing plain hh
  next hh =>
  split
  · next hs => exact .finalS plain hh (endsIn_iff.mp hs)
  split
  · next stem hy =>
    obtain ⟨hw, hs⟩ := filter_stem?_eq_some_iff.mp hy
    exact .soft plain hs hw
  · next hy =>
    refine .regular plain hh fun stem hs hw => ?_
    simp [filter_stem?_eq_none_iff.mp hy stem hw] at hs

/-! ## Singulars -/

inductive SingularForm (word : List Char) : List Char → Prop
  | same : SingularForm word word
  | irregular {p : String × String} : p ∈ irregularNouns → word = p.2.toList →
      SingularForm word p.1.toList
  | ending {stem : List Char} {e : String × String} : e ∈ nounEndings →
      word = stem ++ e.2.toList → SingularForm word (stem ++ e.1.toList)
  | soft {stem : List Char} : softensY stem = true → word = stem ++ ['i', 'e', 's'] →
      SingularForm word (stem ++ ['y'])
  | shortened {stem rest : List Char} : stem ≠ [] → word = stem ++ rest → SingularForm word stem

theorem singularForm_singularWord (word : List Char) :
    SingularForm word (Lexicon.english.singularWord word) := by
  unfold Lexicon.singularWord
  dsimp only
  split
  · exact .same
  split
  · next singular hs =>
    obtain ⟨p, hp, rfl⟩ := Option.map_eq_some_iff.mp hs
    have hw : p.2 = String.ofList word := by simpa using List.find?_some hp
    exact .irregular (List.mem_reverse.mp (List.mem_of_find?_eq_some hp)) (by simp [hw])
  split
  · exact .same
  unfold regularSingular
  split
  · next singular hx =>
    obtain ⟨_, hm, stem, hw, rfl⟩ := exists_of_exchangeEnding? hx
    obtain ⟨e, he, rfl⟩ := List.mem_map.mp hm
    exact .ending he hw
  split
  · exact .same
  split
  · next stem hy =>
    obtain ⟨hw, hs⟩ := filter_stem?_eq_some_iff.mp hy
    exact .soft hs hw
  split
  · next hh =>
    simp only [List.any_cons, List.any_nil, Bool.or_false, Bool.or_eq_true, endsIn_iff] at hh
    have hl : 2 < word.length := by
      rcases hh with h | h | h | h | h <;> have := h.length_le <;> simp at this <;> omega
    refine .shortened ?_ (List.take_append_drop (word.length - 2) word).symm
    simp only [ne_eq, List.take_eq_nil_iff]
    rintro (h | rfl)
    · omega
    · simp at hl
  split
  · next stem hs =>
    obtain ⟨hw, hn⟩ := filter_stem?_eq_some_iff.mp hs
    exact .shortened (by simpa using hn) hw
  · exact .same

/-! ## What both keep -/

def Letters (cs : List Char) : Prop :=
  ∀ c ∈ cs, c.isLower = true

instance : DecidablePred Letters :=
  fun cs => List.decidableBAll _ cs

/-- The new word is a beginning of the old one with an ending in small letters. -/
def Respells (word v : List Char) : Prop :=
  v ≠ [] ∧ ∃ stem rest, stem <+: word ∧ Letters rest ∧ v = stem ++ rest

theorem respells_self (h : word ≠ []) : Respells word word :=
  ⟨h, word, [], List.prefix_refl _, by simp [Letters], by simp⟩

theorem respells_append {rest tail : List Char} (hn : tail ≠ []) (hl : Letters tail)
    (hw : word = stem ++ rest) : Respells word (stem ++ tail) :=
  ⟨by simp [hn], stem, tail, ⟨rest, hw.symm⟩, hl, rfl⟩

theorem respells_of_letters (hn : v ≠ []) (hl : Letters v) : Respells word v :=
  ⟨hn, [], v, List.nil_prefix, hl, rfl⟩

section

variable {P : Char → Prop}

/-- What holds of small letters and of the old word holds of the new word. -/
theorem Respells.forall_mem (h : Respells word v) (hl : ∀ c : Char, c.isLower = true → P c)
    (hw : ∀ c ∈ word, P c) : ∀ c ∈ v, P c := by
  obtain ⟨-, stem, rest, hp, hr, rfl⟩ := h
  intro c hc
  rcases List.mem_append.mp hc with hc | hc
  · exact hw c (hp.subset hc)
  · exact hl c (hr c hc)

theorem Respells.head (h : Respells word v) (hl : ∀ c : Char, c.isLower = true → P c)
    (hw : ∃ c ∈ word.head?, P c) : ∃ c ∈ v.head?, P c := by
  obtain ⟨hn, stem, rest, ⟨tail, rfl⟩, hr, rfl⟩ := h
  cases stem with
  | nil =>
    obtain ⟨c, rest, rfl⟩ := List.exists_cons_of_ne_nil hn
    exact ⟨c, by simp, hl c (hr c (by simp))⟩
  | cons c stem => simpa using hw

end

structure LetterPair (s t : List Char) : Prop where
  ne_nil : s ≠ []
  letters : Letters s
  plural_ne_nil : t ≠ []
  plural_letters : Letters t

/-- All exceptions and endings are small letters. -/
theorem letterPair {p : String × String} (h : p ∈ irregularNouns ∨ p ∈ nounEndings) :
    LetterPair p.1.toList p.2.toList := by
  have hall : ∀ p ∈ irregularNouns ++ nounEndings, ∀ s ∈ [p.1.toList, p.2.toList],
      s ≠ [] ∧ Letters s := by decide +kernel
  have hs := hall p (List.mem_append.mpr h) _ (.head _)
  have ht := hall p (List.mem_append.mpr h) _ (.tail _ (.head _))
  exact ⟨hs.1, hs.2, ht.1, ht.2⟩

theorem PluralForm.respells (h : PluralForm word v) (hw : word ≠ []) : Respells word v := by
  cases h with
  | uncountable => exact respells_self hw
  | irregular hp =>
    have h := letterPair (.inl hp)
    exact respells_of_letters h.plural_ne_nil h.plural_letters
  | ending he hs =>
    have h := letterPair (.inr he)
    exact respells_append h.plural_ne_nil h.plural_letters hs
  | hissing => exact respells_append (by simp) (by decide) (List.append_nil word).symm
  | finalS => exact respells_self hw
  | soft _ _ hs => exact respells_append (by simp) (by decide) hs
  | regular => exact respells_append (by simp) (by decide) (List.append_nil word).symm

theorem SingularForm.respells (h : SingularForm word v) (hw : word ≠ []) : Respells word v := by
  cases h with
  | same => exact respells_self hw
  | irregular hp =>
    have h := letterPair (.inl hp)
    exact respells_of_letters h.ne_nil h.letters
  | ending he hs =>
    have h := letterPair (.inr he)
    exact respells_append h.ne_nil h.letters hs
  | soft _ hs => exact respells_append (by simp) (by decide) hs
  | shortened hn hs => exact ⟨hn, _, [], ⟨_, hs.symm⟩, by simp [Letters], by simp⟩

end EntityGen.Naming
