import EntityGen.Proofs.Naming.Identifier
import EntityGen.Proofs.Naming.SharedPlural
import EntityGen.Proofs.Naming.WordCase

/-! # Names with one plural

The plural of a compound is cut at the same place as the compound, but for an s behind capitals and
a digit. So two names of entities share a plural when one of them is this plural, or when they agree
up to their last words, in the same case, and these merge.
-/

namespace EntityGen.Naming

open Text Lexicon

variable {cs lead last v w : List Char} {n m : String}

/-! ## The last word of an inflected name -/

theorem head_lowercase (ha : Ascii last) (h : ∃ c ∈ last.head?, isUppercase c = true) :
    ∃ c ∈ (lowercase last).head?, c.isLower = true := by
  obtain ⟨c, hc, hu⟩ := h
  have hac := ha c (List.mem_of_mem_head? hc)
  rw [isUppercase_ascii hac] at hu
  refine ⟨c.toLower, ?_, (isLower_toLower c).trans (isAlpha_of_isUpper hu)⟩
  simp [lowercase_ascii ha, Option.mem_def.mp hc]

theorem head_apply_wordCase (ha : Ascii last) (h : ∃ c ∈ last.head?, isUppercase c = true)
    (hv : Small v) (hr : Respells (lowercase last) v) :
    ∃ c ∈ ((wordCase last).apply v).head?, isUppercase c = true := by
  obtain ⟨d, hd, hlow⟩ := hr.head (fun _ h => h) (head_lowercase ha h)
  obtain ⟨tail, rfl⟩ := List.head?_eq_some_iff.mp hd
  obtain ⟨c, hc, hu⟩ := h
  obtain ⟨rest, rfl⟩ := List.head?_eq_some_iff.mp hc
  obtain ⟨⟨had, hnu⟩, -⟩ := small_cons.mp hv
  rw [isUppercase_ascii (ascii_cons.mp ha).1] at hu
  have hk : wordCase (c :: rest) ≠ .small := by
    intro hs
    have hcapital := (wordCase_eq_capital_iff ha).mpr ⟨by simp [hs], hu⟩
    simp [hs] at hcapital
  refine ⟨d.toUpper, by simp [head?_apply hv, hk], ?_⟩
  rw [isUppercase_toUpper had hnu, hlow]

/-- A respelled last word is the last word of the new compound. -/
theorem splitLastWord_respelled (h : splitLastWord cs = (lead, last)) (ha : Ascii last)
    (hr : Respells (lowercase last) v)
    (hc : wordCase last = .upper → CapitalsFirst (uppercase v)) :
    splitLastWord (lead ++ (wordCase last).apply v) = (lead, (wordCase last).apply v) := by
  have hv := hr.small (small_lowercase ha)
  obtain ⟨-, -, hb⟩ := splitLastWord_eq_iff.mp h
  refine splitLastWord_eq_iff.mpr ⟨rfl, capitalsFirst_apply hv hc, hb.imp_right fun hb => ?_⟩
  exact ⟨hb.1, head_apply_wordCase ha hb.2 hv hr⟩

/-- A name is empty or has a last word. -/
theorem eq_empty_or_exists_lastWord (ha : Ascii n.toList) :
    n = "" ∨ ∃ lead last, splitLastWord n.toList = (lead, last) ∧ n.toList = lead ++ last ∧
      last ≠ [] ∧ Ascii lead ∧ Ascii last := by
  obtain ⟨happ, -, -⟩ := splitLastWord_spec n.toList
  generalize hs : splitLastWord n.toList = s at happ
  obtain ⟨lead, last⟩ := s
  by_cases hne : last = []
  · left
    rw [← String.toList_eq_nil_iff, ← splitLastWord_snd_eq_nil_iff, hs, hne]
  · obtain ⟨hlead, hlast⟩ := ascii_append.mp (happ ▸ ha)
    exact .inr ⟨lead, last, rfl, happ.symm, hne, hlead, hlast⟩

theorem lowercase_ne_nil (ha : Ascii cs) (h : cs ≠ []) : lowercase cs ≠ [] := by
  rwa [lowercase_ascii ha, ne_eq, List.map_eq_nil_iff]

theorem toList_inflectLast {rule : List Char → List Char}
    (h : splitLastWord n.toList = (lead, last)) (hne : last ≠ []) :
    (inflectLast rule n).toList = lead ++ (wordCase last).apply (rule (lowercase last)) := by
  simp [inflectLast, h, hne, matchCase_eq]

/-! ## Settled names -/

/-- The name is in ASCII and keeps its case when it is inflected. -/
structure Settled (name : String) (lead last : List Char) : Prop where
  ascii : Ascii last
  split : splitLastWord name.toList = (lead, last)
  ne_nil : last ≠ []
  case_eq : (wordCase last).apply (lowercase last) = last

theorem SingularForm.capitalsFirst_uppercase (h : SingularForm w v) (hs : Small w) (hn : w ≠ [])
    (hc : CapitalsFirst (uppercase w)) : CapitalsFirst (uppercase v) := by
  by_cases hl : ∃ c ∈ w.getLast?, c.isLower = true
  · exact (h.respells hn).capitalsFirst_uppercase hs hc hl
  have hlast : ∀ s, s ≠ [] → Letters s → s <:+ w → False := by
    intro s hn hlow hsuffix
    refine hl ⟨s.getLast hn, ?_, hlow _ (List.getLast_mem hn)⟩
    rw [Option.mem_def, getLast?_of_suffix hn hsuffix, List.getLast?_eq_some_getLast hn]
  cases h with
  | same => exact hc
  | irregular hp hw =>
    have h := letterPair (.inl hp)
    exact (hlast _ h.plural_ne_nil h.plural_letters (hw ▸ List.suffix_refl _)).elim
  | ending he hw =>
    have h := letterPair (.inr he)
    exact (hlast _ h.plural_ne_nil h.plural_letters (hw ▸ List.suffix_append _ _)).elim
  | soft _ hw => exact (hlast ['i', 'e', 's'] (by simp) (by decide) ⟨_, hw.symm⟩).elim
  | shortened _ hw =>
    subst hw
    rw [uppercase, List.flatMap_append] at hc
    exact hc.left_of_append

theorem capitalsFirst_uppercase_lowercase (h : splitLastWord cs = (lead, last)) (ha : Ascii last)
    (hk : wordCase last = .upper) : CapitalsFirst (uppercase (lowercase last)) := by
  rw [uppercase_lowercase ha ((wordCase_eq_upper_iff ha).mp hk).2]
  exact (splitLastWord_eq_iff.mp h).2.1

/-- The singular of a name is settled. -/
theorem settled_singular (ha : Ascii n.toList) :
    english.inflector.singular n = "" ∨
      ∃ lead last, Settled (english.inflector.singular n) lead last := by
  rcases eq_empty_or_exists_lastWord ha with rfl | ⟨lead, last, hs, -, hne, -, hal⟩
  · exact .inl (inflectLast_empty english.singularWord)
  right
  have hsmall := small_lowercase hal
  have hwne := lowercase_ne_nil hal hne
  have hform := singularForm_singularWord (lowercase last)
  have hr := hform.respells hwne
  have hsplit := splitLastWord_respelled hs hal hr fun hk =>
    hform.capitalsFirst_uppercase hsmall hwne (capitalsFirst_uppercase_lowercase hs hal hk)
  have hv := hr.small hsmall
  refine ⟨lead, (wordCase last).apply (english.singularWord (lowercase last)), ?_⟩
  constructor
  case ascii => exact ascii_apply hv
  case split =>
    rw [← hsplit]
    exact congrArg splitLastWord (toList_inflectLast hs hne)
  case ne_nil =>
    rw [ne_eq, apply_eq_nil_iff hv]
    exact hr.1
  case case_eq => rw [lowercase_apply hv, apply_wordCase hv]

/-! ## Plurals of settled names -/

theorem Settled.toList_eq (h : Settled n lead last) : n.toList = lead ++ last :=
  (splitLastWord_eq_iff.mp h.split).1.symm

theorem Settled.toList_plural (h : Settled n lead last) :
    (english.inflector.plural n).toList =
      lead ++ (wordCase last).apply (english.pluralWord (lowercase last)) :=
  toList_inflectLast h.split h.ne_nil

theorem Settled.lowercase_ne_nil (h : Settled n lead last) : lowercase last ≠ [] :=
  Naming.lowercase_ne_nil h.ascii h.ne_nil

theorem Settled.pluralWord_ne (h : Settled n lead last) (hp : english.inflector.plural n ≠ n) :
    english.pluralWord (lowercase last) ≠ lowercase last := by
  intro hw
  refine hp (String.toList_inj.mp ?_)
  rw [h.toList_plural, hw, h.case_eq, h.toList_eq]

theorem exists_cons_concat_of_letters (stem : List Char) {s : List Char} (hn : s ≠ [])
    (hs : Letters s) (hlen : 2 ≤ (stem ++ s).length) :
    ∃ d q c, stem ++ s = d :: (q ++ [c]) ∧ c.isLower = true := by
  have hlast := getLast?_of_suffix hn (List.suffix_append stem s)
  generalize stem ++ s = v at hlen hlast
  rcases List.eq_nil_or_concat v with rfl | ⟨q, c, rfl⟩
  · simp at hlen
  rw [List.concat_eq_append] at hlen hlast ⊢
  cases q with
  | nil => simp at hlen
  | cons d q =>
    rw [List.getLast?_concat] at hlast
    exact ⟨d, q, c, rfl, hs c (List.mem_of_getLast? hlast.symm)⟩

/-- A plural has more than one letter and ends in a small one, unless it is the word itself. -/
theorem PluralForm.exists_cons_concat (h : PluralForm w v) (hw : w ≠ []) (hn : v ≠ w) :
    ∃ d q c, v = d :: (q ++ [c]) ∧ c.isLower = true := by
  cases h with
  | uncountable | finalS => exact absurd rfl hn
  | irregular hp =>
    have h := letterPair (.inl hp)
    exact exists_cons_concat_of_letters [] h.plural_ne_nil h.plural_letters
      (irregularNoun hp).length
  | ending he =>
    have h := letterPair (.inr he)
    have hlen := (nounEnding he).length
    simp only [List.length_dropLast] at hlen
    refine exists_cons_concat_of_letters _ h.plural_ne_nil h.plural_letters ?_
    rw [List.length_append]
    omega
  | hissing => exact exists_cons_concat_of_letters _ (by simp) (by decide) (by simp)
  | soft => exact exists_cons_concat_of_letters _ (by simp) (by decide) (by simp)
  | regular =>
    have hpos := List.length_pos_iff.mpr hw
    exact exists_cons_concat_of_letters _ (by simp) (by decide) (by simp; omega)

/-- Respelling keeps the capitals of a word first, but for an s behind another character. -/
theorem PluralForm.capitalsFirst_uppercase (h : PluralForm w v) (hs : Small w) (hw : w ≠ [])
    (hc : CapitalsFirst (uppercase w)) :
    v = w ∨ CapitalsFirst (uppercase v) ∨ v = w ++ ['s'] ∧ ∃ c ∈ w.getLast?, c.isLower = false := by
  by_cases hl : ∃ c ∈ w.getLast?, c.isLower = true
  · exact .inr (.inl ((h.respells hw).capitalsFirst_uppercase hs hc hl))
  have hlast := List.getLast?_eq_some_getLast hw
  generalize w.getLast hw = c at hlast
  have hlow : c.isLower = false := by simpa [hlast] using hl
  have hother : c ∉ ['s', 'x', 'h', 'z', 'y'] := by
    intro hc
    have hletters : Letters ['s', 'x', 'h', 'z', 'y'] := by decide
    rw [hletters c hc] at hlow
    cases hlow
  rcases h.of_getLast? hlast hother with hu | ⟨p, hp, rfl, -⟩ | hv
  · have hletters := (uncountableNoun hu).letters
    rw [String.toList_ofList] at hletters
    rw [hletters c (List.mem_of_getLast? hlast)] at hlow
    cases hlow
  · rw [(letterPair (.inl hp)).letters c (List.mem_of_getLast? hlast)] at hlow
    cases hlow
  · exact .inr (.inr ⟨hv, c, hlast, hlow⟩)

theorem Settled.uppercase_lowercase (h : Settled n lead last) (hk : wordCase last = .upper) :
    uppercase (lowercase last) = last := by
  have hcase := h.case_eq
  rwa [hk] at hcase

/-- A name in capitals with another character last takes a capital s. -/
theorem Settled.toList_plural_of_append (h : Settled n lead last) (hk : wordCase last = .upper)
    (hv : english.pluralWord (lowercase last) = lowercase last ++ ['s'])
    (hl : ∃ c ∈ (lowercase last).getLast?, c.isLower = false) :
    (english.inflector.plural n).toList = n.toList ++ ['S'] ∧
      ∃ b ∈ n.toList.getLast?, isUppercase b = false := by
  have hsmall := small_lowercase h.ascii
  have hlast := h.uppercase_lowercase hk
  obtain ⟨c, hc, hlow⟩ := hl
  obtain ⟨ha, hu⟩ := hsmall c (List.mem_of_getLast? hc)
  refine ⟨?_, c.toUpper, ?_, ?_⟩
  · have hs : uppercase ['s'] = ['S'] := by decide
    rw [h.toList_plural, hk, hv, WordCase.apply, uppercase, List.flatMap_append, ← uppercase,
      ← uppercase, hlast, hs, h.toList_eq, List.append_assoc]
  · rw [h.toList_eq, List.getLast?_append_of_ne_nil _ h.ne_nil, ← hlast,
      uppercase_ascii hsmall.ascii, List.getLast?_map, Option.mem_def.mp hc]
    rfl
  · rw [isUppercase_toUpper ha hu, hlow]

/-- The plural of a settled name is cut where the name is, or is the name with a capital s behind a
character that is no capital. -/
theorem Settled.split_plural (h : Settled n lead last) (hp : english.inflector.plural n ≠ n) :
    splitLastWord (english.inflector.plural n).toList =
        (lead, (wordCase last).apply (english.pluralWord (lowercase last))) ∨
      (english.inflector.plural n).toList = n.toList ++ ['S'] ∧
        ∃ b ∈ n.toList.getLast?, isUppercase b = false := by
  have hform := pluralForm_pluralWord (lowercase last)
  have hr := hform.respells h.lowercase_ne_nil
  by_cases hk : wordCase last = .upper
  · have hc : CapitalsFirst (uppercase (lowercase last)) :=
      capitalsFirst_uppercase_lowercase h.split h.ascii hk
    rcases hform.capitalsFirst_uppercase (small_lowercase h.ascii) h.lowercase_ne_nil hc with
      hv | hv | ⟨hv, hl⟩
    · exact absurd hv (h.pluralWord_ne hp)
    · rw [h.toList_plural]
      exact .inl (splitLastWord_respelled h.split h.ascii hr fun _ => hv)
    · exact .inr (h.toList_plural_of_append hk hv hl)
  · rw [h.toList_plural]
    exact .inl (splitLastWord_respelled h.split h.ascii hr fun hu => absurd hu hk)

theorem not_capitalsFirst_of_append_eq {x : List Char} {b : Char} (h : lead ++ last = x ++ ['S'])
    (hlen : 2 ≤ last.length) (hb : b ∈ x.getLast?) (hu : isUppercase b = false) :
    ¬ CapitalsFirst last := by
  intro hc
  rcases List.eq_nil_or_concat last with rfl | ⟨q, c, rfl⟩
  · simp at hlen
  rw [List.concat_eq_append, ← List.append_assoc] at h
  obtain ⟨rfl, hcs⟩ := List.append_inj' h rfl
  obtain rfl := List.singleton_inj.mp hcs
  have hq : q ≠ [] := by
    rintro rfl
    simp at hlen
  rw [List.getLast?_append_of_ne_nil _ hq] at hb
  have hall := hc.forall_isUppercase ⟨'S', by simp, by decide⟩
  have hbu := hall b (by simp [List.mem_of_getLast? hb])
  rw [hu] at hbu
  cases hbu

theorem Settled.head_pluralWord (h : Settled n lead last) (hk : wordCase last = .capital) :
    ∃ c ∈ (english.pluralWord (lowercase last)).head?, c.isLower = true := by
  have hr := (pluralForm_pluralWord _).respells h.lowercase_ne_nil
  refine hr.head (fun _ h => h) (head_lowercase h.ascii ?_)
  obtain ⟨c, rest, rfl⟩ := List.exists_cons_of_ne_nil h.ne_nil
  have hu := ((wordCase_eq_capital_iff h.ascii).mp hk).2
  exact ⟨c, rfl, by rwa [isUppercase_ascii (ascii_cons.mp h.ascii).1]⟩

/-- The names agree up to their last words, in the same case, and these merge. -/
def MergeInLastWord (n m : String) : Prop :=
  (splitLastWord n.toList).1 = (splitLastWord m.toList).1 ∧
    wordCase (splitLastWord n.toList).2 = wordCase (splitLastWord m.toList).2 ∧
    Merges (lowercase (splitLastWord n.toList).2) (lowercase (splitLastWord m.toList).2)

theorem Settled.small_pluralWord (h : Settled n lead last) :
    Small (english.pluralWord (lowercase last)) :=
  ((pluralForm_pluralWord _).respells h.lowercase_ne_nil).small (small_lowercase h.ascii)

/-- A plural that is cut where its name is does not end in a capital behind another character. -/
theorem Settled.toList_plural_ne (h : Settled n lead last)
    (hp : english.inflector.plural n ≠ n)
    (hs : splitLastWord (english.inflector.plural n).toList =
      (lead, (wordCase last).apply (english.pluralWord (lowercase last))))
    {x : List Char} {b : Char} (hb : b ∈ x.getLast?) (hu : isUppercase b = false) :
    (english.inflector.plural n).toList ≠ x ++ ['S'] := by
  intro hx
  obtain ⟨d, q, c, hv, -⟩ := (pluralForm_pluralWord _).exists_cons_concat h.lowercase_ne_nil
    (h.pluralWord_ne hp)
  obtain ⟨happ, hc, -⟩ := splitLastWord_eq_iff.mp hs
  refine not_capitalsFirst_of_append_eq (happ.trans hx) ?_ hb hu hc
  rw [length_apply h.small_pluralWord, hv]
  simp

variable {lead' last' : List Char}

theorem Settled.wordCase_eq (hn : Settled n lead last) (hm : Settled m lead' last')
    (hp : english.inflector.plural n ≠ n)
    (hw : english.pluralWord (lowercase last) = english.pluralWord (lowercase last'))
    (h : (wordCase last).apply (english.pluralWord (lowercase last)) =
      (wordCase last').apply (english.pluralWord (lowercase last'))) :
    wordCase last = wordCase last' := by
  have hsmall := hn.small_pluralWord
  have hhead := hn.head_pluralWord
  have hhead' := hm.head_pluralWord
  obtain ⟨d, q, c, hv, hc⟩ := (pluralForm_pluralWord _).exists_cons_concat hn.lowercase_ne_nil
    (hn.pluralWord_ne hp)
  rw [← hw] at h hhead'
  rw [hv] at h hsmall hhead hhead'
  exact apply_inj_case hsmall hc (by simpa using hhead) (by simpa using hhead') h

theorem Settled.eq_or_merge (hn : Settled n lead last) (hm : Settled m lead' last')
    (h : english.inflector.plural n = english.inflector.plural m)
    (hn' : english.inflector.plural n ≠ n) (hm' : english.inflector.plural m ≠ m) :
    n = m ∨ MergeInLastWord n m ∨ MergeInLastWord m n := by
  -- The capital s behind another character tells the two forms of a plural apart.
  rcases hn.split_plural hn' with hs | ⟨hS, b, hb, hu⟩
  · rcases hm.split_plural hm' with hs' | ⟨hS', b, hb, hu⟩
    · rw [h, hs', Prod.mk.injEq] at hs
      obtain ⟨hlead, happly⟩ := hs
      have hw := congrArg lowercase happly
      rw [lowercase_apply hm.small_pluralWord, lowercase_apply hn.small_pluralWord] at hw
      have hk := hn.wordCase_eq hm hn' hw.symm happly.symm
      rcases alike_of_pluralWord_eq hw.symm (hn.pluralWord_ne hn') (hm.pluralWord_ne hm') with
        hl | hl
      · left
        rw [← String.toList_inj, hn.toList_eq, hm.toList_eq, ← hn.case_eq, ← hm.case_eq, hlead, hk,
          hl]
      · right
        rw [MergeInLastWord, MergeInLastWord, hn.split, hm.split]
        exact hl.imp (fun hl => ⟨hlead.symm, hk, hl⟩) fun hl => ⟨hlead, hk.symm, hl⟩
    · rw [← h] at hS'
      exact absurd hS' (hn.toList_plural_ne hn' hs hb hu)
  · rcases hm.split_plural hm' with hs' | ⟨hS', -⟩
    · rw [h] at hS
      exact absurd hS (hm.toList_plural_ne hm' hs' hb hu)
    · left
      rw [h, hS'] at hS
      exact String.toList_inj.mp (List.append_cancel_right hS).symm

theorem MergeInLastWord.plural_eq (h : MergeInLastWord n m) :
    english.inflector.plural n = english.inflector.plural m := by
  obtain ⟨hlead, hk, hw⟩ := h
  have toList_plural : ∀ s : String, lowercase (splitLastWord s.toList).2 ≠ [] →
      (english.inflector.plural s).toList = (splitLastWord s.toList).1 ++
        (wordCase (splitLastWord s.toList).2).apply
          (english.pluralWord (lowercase (splitLastWord s.toList).2)) := by
    intro s hs
    refine toList_inflectLast Prod.mk.eta.symm fun hn => hs ?_
    rw [hn]
    rfl
  rw [← String.toList_inj, toList_plural n hw.ne_nil.1, toList_plural m hw.ne_nil.2, hlead, hk,
    hw.pluralWord_eq]

/-- What makes two names share a plural: one is the plural of both, or their last words merge. -/
inductive SharePlural (n m : String) : Prop
  | isPlural : english.inflector.plural n = m → english.inflector.plural m = m → SharePlural n m
  | hasPlural : english.inflector.plural m = n → english.inflector.plural n = n → SharePlural n m
  | merge : MergeInLastWord n m → SharePlural n m
  | mergeBack : MergeInLastWord m n → SharePlural n m

theorem SharePlural.plural_eq (h : SharePlural n m) :
    english.inflector.plural n = english.inflector.plural m := by
  cases h with
  | isPlural h h' => exact h.trans h'.symm
  | hasPlural h h' => exact h'.trans h.symm
  | merge h => exact h.plural_eq
  | mergeBack h => exact h.plural_eq.symm

/-- Names of entities have one plural exactly when they are equal or there is a reason for it. -/
theorem plural_eq_plural_iff {s t : String} (hs : Ascii s.toList) (ht : Ascii t.toList)
    (hn : english.inflector.singular s = n) (hm : english.inflector.singular t = m) :
    english.inflector.plural n = english.inflector.plural m ↔ n = m ∨ SharePlural n m := by
  constructor
  · intro h
    by_cases hpn : english.inflector.plural n = n
    · exact .inr (.hasPlural (h.symm.trans hpn) hpn)
    by_cases hpm : english.inflector.plural m = m
    · exact .inr (.isPlural (h.trans hpm) hpm)
    have hempty : english.inflector.plural "" = "" := inflectLast_empty english.pluralWord
    rcases hn ▸ settled_singular hs with rfl | ⟨lead, last, hn⟩
    · exact absurd hempty hpn
    rcases hm ▸ settled_singular ht with rfl | ⟨lead', last', hm⟩
    · exact absurd hempty hpm
    rcases hn.eq_or_merge hm h hpn hpm with he | hmerge | hmerge
    · exact .inl he
    · exact .inr (.merge hmerge)
    · exact .inr (.mergeBack hmerge)
  · rintro (rfl | h)
    · rfl
    · exact h.plural_eq

end EntityGen.Naming
