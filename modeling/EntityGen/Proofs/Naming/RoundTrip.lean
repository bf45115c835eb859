import EntityGen.Proofs.Naming.Compound

/-! # From the plural back to the noun

A regular noun is the singular of its plural. For each rule for plurals the rule for singulars that
undoes it is reached: no exception of the lexicon fits, and no rule before it does. A few nouns are
left out whose plural is the plural or the only form of another one.
-/

namespace EntityGen.Naming

open Lexicon

variable {v w stem : List Char}

/-- Words whose plural the lexicon takes for that of another noun. -/
def ambiguousNouns : List String :=
  ["new", "cach", "quizz", "sery", "specy", "movy", "cooky", "zomby"]

/-- A noun that can be told from its plural. -/
structure RegularNoun (w : List Char) : Prop extends IsWord w where
  last : ∀ c ∈ w.getLast?, c ∉ ['s', 'e', 'i', 'u']
  unambiguous : String.ofList w ∉ ambiguousNouns

/-! ## The tables of the lexicon -/

def listedPlurals : List String :=
  uncountableNouns ++ irregularNouns.map Prod.snd

/-- What the rules rely on in a listed plural. -/
structure ListedPlural (v : List Char) : Prop where
  ending : ∀ e ∈ nounEndings, ¬ e.2.toList <:+ v
  dropEs : ['e', 's'] <:+ v → Hisses v.dropLast.dropLast →
    String.ofList v.dropLast.dropLast ∈ ambiguousNouns
  dropIes : ['i', 'e', 's'] <:+ v →
    String.ofList (v.dropLast.dropLast.dropLast ++ ['y']) ∈ ambiguousNouns
  dropS : v.getLast? = some 's' →
    v.dropLast.getLast? = some 'e' ∨ String.ofList v.dropLast ∈ ambiguousNouns

theorem listedPlural (h : String.ofList v ∈ listedPlurals) : ListedPlural v := by
  have hs : v ∈ listedPlurals.map String.toList :=
    List.mem_map.mpr ⟨_, h, String.toList_ofList⟩
  clear h
  simp only [listedPlurals, uncountableNouns, irregularNouns, List.map_cons, List.map_nil,
    List.cons_append, List.nil_append, String.reduceToList] at hs
  constructor <;> revert v <;> decide +kernel

theorem singularWord_irregular {p : String × String} (h : p ∈ irregularNouns) :
    english.singularWord p.2.toList = p.1.toList ∧ p.1.toList.getLast? ≠ some 's' := by
  have hp : spell p ∈ irregularNouns.map spell := List.mem_map_of_mem h
  show english.singularWord (spell p).2 = (spell p).1 ∧ (spell p).1.getLast? ≠ some 's'
  generalize spell p = w at hp ⊢
  simp only [irregularNouns, spell, List.map_cons, List.map_nil, String.reduceToList] at hp
  revert w
  decide +kernel

theorem english_singular?_eq_none {text : String} (h : ∀ p ∈ irregularNouns, text ≠ p.2) :
    english.singular? text = none := by
  refine Option.map_eq_none_iff.mpr (List.find?_eq_none.mpr fun p hp ht => ?_)
  exact h p (List.mem_reverse.mp hp) (Eq.symm (by simpa using ht))

/-! ## The rules for singulars -/

theorem singularWord_uncountable (h : String.ofList w ∈ uncountableNouns) :
    english.singularWord w = w :=
  if_pos (List.contains_iff_mem.mpr h)

/-- A plural in s that is not in the lexicon has the singular that the rules give. -/
theorem singularWord_eq_regularSingular (hs : ['s'] <:+ v)
    (hv : String.ofList v ∉ listedPlurals) :
    english.singularWord v = regularSingular v := by
  rw [listedPlurals, List.mem_append, not_or] at hv
  have hplural : english.plural? (String.ofList v) = none := by
    refine Option.map_eq_none_iff.mpr (List.find?_eq_none.mpr fun p hp ht => ?_)
    have hlast := (singularWord_irregular (List.mem_reverse.mp hp)).2
    have htext : p.1 = String.ofList v := by simpa using ht
    rw [htext, String.toList_ofList, getLast?_of_suffix (by simp) hs] at hlast
    exact hlast rfl
  have hsingular : english.singular? (String.ofList v) = none :=
    english_singular?_eq_none fun p hp ht => hv.2 (ht ▸ List.mem_map_of_mem hp)
  have hu : String.ofList v ∉ english.uncountable := hv.1
  simp [singularWord, hu, hsingular, hplural]

theorem regularSingular_ending {e : String × String} (he : e ∈ nounEndings) :
    regularSingular (stem ++ e.2.toList) = stem ++ e.1.toList := by
  have hm : e.swap ∈ nounEndings.map Prod.swap := List.mem_map_of_mem he
  cases hx : exchangeEnding? (nounEndings.map Prod.swap) (stem ++ e.2.toList) with
  | none => exact absurd (List.suffix_append _ _) (exchangeEnding?_eq_none_iff.mp hx _ hm)
  | some u =>
    obtain ⟨_, hm, s, hw, rfl⟩ := exists_of_exchangeEnding? hx
    obtain ⟨f, hf, rfl⟩ := List.mem_map.mp hm
    rw [regularSingular, hx]
    exact (append_eq_append_of_exchange hw ((nounEnding he).exchangeBack _ hf)
      ((nounEnding hf).exchangeBack _ he)).symm

theorem exchangeEnding?_swap_eq_none (h : ∀ e ∈ nounEndings, ¬ e.2.toList <:+ v) :
    exchangeEnding? (nounEndings.map Prod.swap) v = none :=
  exchangeEnding?_eq_none_iff.mpr (List.forall_mem_map.mpr h)

theorem regularSingular_soft (hs : softensY stem = true) :
    regularSingular (stem ++ ['i', 'e', 's']) = stem ++ ['y'] := by
  have hn : ∀ e ∈ nounEndings, ¬ e.2.toList <:+ stem ++ ['i', 'e', 's'] := by
    intro e he hsuffix
    have hlen : 3 ≤ e.2.toList.length := by
      rw [(nounEnding he).pluralEs, List.length_append]
      exact Nat.add_le_add_right (Nat.le_of_succ_le (nounEnding he).length) 2
    exact (nounEnding he).notIes
      (List.suffix_of_suffix_length_le (List.suffix_append stem _) hsuffix hlen)
  have hies : (stem? (stem ++ ['i', 'e', 's']) "ies").filter softensY = some stem :=
    filter_stem?_eq_some_iff.mpr ⟨rfl, hs⟩
  simp [regularSingular, exchangeEnding?_swap_eq_none hn, endsIn, List.isSuffixOf, hies]

theorem regularSingular_hissing (hh : Hisses w) : regularSingular (w ++ ['e', 's']) = w := by
  have hn : ∀ e ∈ nounEndings, ¬ e.2.toList <:+ w ++ ['e', 's'] := by
    intro e he hsuffix
    rw [(nounEnding he).pluralEs, List.suffix_append_self_iff] at hsuffix
    obtain ⟨rest, rfl⟩ := hsuffix
    exact (nounEnding he).notHissing (hh.of_append (nounEnding he).length)
  have hies : (stem? (w ++ ['e', 's']) "ies").filter softensY = none := by
    refine filter_stem?_eq_none_iff.mpr fun s hw => ?_
    obtain ⟨c, hc, hl⟩ := hh.getLast?
    have hw' : w = s ++ ['i'] :=
      List.append_cancel_right (hw.trans (by simp) : w ++ ['e', 's'] = (s ++ ['i']) ++ ['e', 's'])
    rw [hw', List.getLast?_concat, Option.some.injEq] at hl
    simp [← hl] at hc
  have hes : ["xes", "ches", "shes", "sses", "zzes"].any (endsIn (w ++ ['e', 's'])) = true := by
    simpa [Hisses, endsIn, List.isSuffixOf, List.isPrefixOf] using hh
  have hus : ["ss", "us", "is"].any (endsIn (w ++ ['e', 's'])) = false := by
    simp [endsIn, List.isSuffixOf, List.isPrefixOf]
  simp [regularSingular, exchangeEnding?_swap_eq_none hn, hies, hes, hus]

theorem regularSingular_append {c : Char} (hc : c ∉ ['s', 'e', 'i', 'u']) :
    regularSingular (stem ++ [c, 's']) = stem ++ [c] := by
  simp only [List.mem_cons, List.not_mem_nil, or_false, not_or] at hc
  obtain ⟨hs, he, hi, hu⟩ := hc
  have hsuffix : ¬ ['e', 's'] <:+ stem ++ [c, 's'] := by
    intro h
    have hcs := List.suffix_of_suffix_length_le h (List.suffix_append stem [c, 's']) le_rfl
    have heq := hcs.eq_of_length rfl
    simp only [List.cons.injEq, and_true] at heq
    exact he heq.symm
  have hn : ∀ e ∈ nounEndings, ¬ e.2.toList <:+ stem ++ [c, 's'] := by
    intro e he h
    rw [(nounEnding he).pluralEs] at h
    exact hsuffix ((List.suffix_append _ _).trans h)
  have hies : (stem? (stem ++ [c, 's']) "ies").filter softensY = none := by
    refine filter_stem?_eq_none_iff.mpr fun s hw => absurd ?_ hsuffix
    exact ⟨s ++ ['i'], by simp [hw]⟩
  have hes : ["xes", "ches", "shes", "sses", "zzes"].any (endsIn (stem ++ [c, 's'])) = false := by
    simp [endsIn, List.isSuffixOf, List.isPrefixOf, Ne.symm he]
  have hus : ["ss", "us", "is"].any (endsIn (stem ++ [c, 's'])) = false := by
    simp [endsIn, List.isSuffixOf, List.isPrefixOf, Ne.symm hs, Ne.symm hu, Ne.symm hi]
  have hstem : (stem? (stem ++ [c, 's']) "s").filter (!·.isEmpty) = some (stem ++ [c]) :=
    filter_stem?_eq_some_iff.mpr ⟨by simp, by simp⟩
  simp [regularSingular, exchangeEnding?_swap_eq_none hn, hies, hes, hus, hstem]

/-! ## Singulars of plurals -/

theorem unlisted_hissing (hh : Hisses w) (h : String.ofList w ∉ ambiguousNouns) :
    String.ofList (w ++ ['e', 's']) ∉ listedPlurals := by
  intro hm
  have hw : (w ++ ['e', 's']).dropLast.dropLast = w := by simp
  have ha := (listedPlural hm).dropEs (List.suffix_append _ _) (hw.symm ▸ hh)
  exact h (hw ▸ ha)

theorem unlisted_soft (h : String.ofList (stem ++ ['y']) ∉ ambiguousNouns) :
    String.ofList (stem ++ ['i', 'e', 's']) ∉ listedPlurals := by
  intro hm
  have hs : (stem ++ ['i', 'e', 's']).dropLast.dropLast.dropLast = stem := by simp
  exact h (hs ▸ (listedPlural hm).dropIes (List.suffix_append _ _))

theorem unlisted_append (he : w.getLast? ≠ some 'e') (h : String.ofList w ∉ ambiguousNouns) :
    String.ofList (w ++ ['s']) ∉ listedPlurals := by
  intro hm
  have hs := (listedPlural hm).dropS List.getLast?_concat
  rw [List.dropLast_concat] at hs
  exact hs.elim he h

/-- A regular noun is the singular of its plural. -/
theorem singularWord_pluralWord (h : RegularNoun w) :
    english.singularWord (english.pluralWord w) = w := by
  have hform := pluralForm_pluralWord w
  generalize english.pluralWord w = v at hform
  have hl := List.getLast?_eq_some_getLast h.ne_nil
  generalize w.getLast h.ne_nil = c at hl
  have hc := h.last c hl
  cases hform with
  | uncountable hu => exact singularWord_uncountable hu
  | irregular hp hw => rw [(singularWord_irregular hp).1, hw]
  | @ending stem e he hw =>
    have hes : e.2.toList <:+ stem ++ e.2.toList := List.suffix_append _ _
    have hs : ['s'] <:+ stem ++ e.2.toList := by
      refine List.IsSuffix.trans ?_ hes
      rw [(nounEnding he).pluralEs]
      exact ⟨_ ++ ['e'], by rw [List.append_assoc]; rfl⟩
    rw [singularWord_eq_regularSingular hs fun hm => (listedPlural hm).ending e he hes,
      regularSingular_ending he, hw]
  | hissing _ hh =>
    rw [singularWord_eq_regularSingular ⟨w ++ ['e'], by simp⟩ (unlisted_hissing hh h.unambiguous),
      regularSingular_hissing hh]
  | finalS _ _ hs =>
    rw [getLast?_of_suffix (by simp) hs] at hl
    simp [← Option.some.inj hl] at hc
  | @soft stem _ hs hw =>
    rw [singularWord_eq_regularSingular ⟨stem ++ ['i', 'e'], by simp⟩
      (unlisted_soft (hw ▸ h.unambiguous)), regularSingular_soft hs, hw]
  | regular =>
    have he : w.getLast? ≠ some 'e' := by
      intro he
      simp [Option.some.inj (hl.symm.trans he)] at hc
    rw [singularWord_eq_regularSingular (List.suffix_append _ _) (unlisted_append he h.unambiguous)]
    obtain ⟨stem, rfl⟩ := List.getLast?_eq_some_iff.mp hl
    rw [List.append_assoc]
    exact regularSingular_append hc

/-! ## Names -/

/-- The plural of a name that ends in a regular noun has the name as its singular, and so has the
plural of the noun alone. -/
theorem singular_plural (leading : List String) (last : String)
    (hl : ∀ w ∈ leading, IsWord w.toList ∧ 1 < w.length) (hw : RegularNoun last.toList) :
    english.inflector.singular
        (english.inflector.plural (String.join ((leading ++ [last]).map capitalize))) =
      String.join ((leading ++ [last]).map capitalize) ∧
    english.inflector.singular (english.inflector.plural last) = last := by
  have hwords : ∀ w ∈ leading, IsWord w.toList := fun w hm => (hl w hm).1
  have hinitials : initialsOf leading = [] := by
    refine List.rtakeWhile_eq_nil_iff.mpr fun hne hlen => ?_
    have hlong := (hl _ (List.getLast_mem hne)).2
    simp only [beq_iff_eq] at hlen
    omega
  have hp : (english.inflector.plural last).toList = english.pluralWord last.toList :=
    toList_inflectLast_word hw.toIsWord
  have hplural : IsWord (english.inflector.plural last).toList := by
    rw [hp]
    exact wordRule_pluralWord.isWord _ hw.toIsWord
  have hback : english.inflector.singular (english.inflector.plural last) = last := by
    rw [← String.toList_inj]
    refine (toList_inflectLast_word hplural).trans ?_
    rw [hp, singularWord_pluralWord hw]
  refine ⟨?_, hback⟩
  have happ : ∀ word, String.join ((leading ++ [word]).map capitalize) =
      String.join (leading.map capitalize) ++ capitalize word := by simp
  calc english.inflector.singular
        (english.inflector.plural (String.join ((leading ++ [last]).map capitalize)))
      = english.inflector.singular
          (String.join ((leading ++ [english.inflector.plural last]).map capitalize)) := by
        rw [happ (english.inflector.plural last)]
        exact congrArg _
          ((wordRule_pluralWord.inflectLast_join_iff hwords hw.toIsWord).mpr (.inl hinitials))
    _ = String.join (leading.map capitalize) ++
          capitalize (english.inflector.singular (english.inflector.plural last)) :=
        (wordRule_singularWord.inflectLast_join_iff hwords hplural).mpr (.inl hinitials)
    _ = String.join ((leading ++ [last]).map capitalize) := by rw [hback, happ]

theorem taskDependency_singular_plural :
    english.inflector.singular (english.inflector.plural "TaskDependency") = "TaskDependency" ∧
      english.inflector.singular (english.inflector.plural "x") = "x" := by
  have hdependency : RegularNoun "dependency".toList :=
    ⟨by decide +kernel, by simp, by decide +kernel⟩
  have hx : RegularNoun "x".toList := ⟨by decide +kernel, by simp, by decide +kernel⟩
  have h := singular_plural ["task"] "dependency" (by decide +kernel) hdependency
  have hname : String.join ((["task"] ++ ["dependency"]).map capitalize) = "TaskDependency" := by
    decide +kernel
  exact ⟨hname ▸ h.1, (singular_plural [] "x" (by simp) hx).2⟩

end EntityGen.Naming
