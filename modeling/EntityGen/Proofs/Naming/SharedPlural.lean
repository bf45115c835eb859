import EntityGen.Proofs.Naming.Inflection

/-! # Words with one plural

Two different words share a plural when one is the plural of both, or when they merge: the regular
plural of one word is what another rule gives for the other, as for leaf and leave.
-/

namespace EntityGen.Naming

open Lexicon

variable {u v stem : List Char}

/-- The plural of `v`, which only takes an s, is that of `u` by another rule. -/
inductive Merges : List Char → List Char → Prop
  | addedE {u : List Char} : english.pluralWord u = u ++ ['e', 's'] → Merges u (u ++ ['e'])
  | soft {stem : List Char} : softensY stem = true → Merges (stem ++ ['y']) (stem ++ ['i', 'e'])
  | ending {stem v : List Char} {e : String × String} : e ∈ nounEndings →
      stem ++ e.2.toList = v ++ ['s'] → Merges (stem ++ e.1.toList) v
  | irregular {v : List Char} {p : String × String} : p ∈ irregularNouns →
      p.2.toList = v ++ ['s'] → Merges p.1.toList v
  | quiz : Merges ['q', 'u', 'i', 'z'] ['q', 'u', 'i', 'z', 'z']

def Alike (u v : List Char) : Prop :=
  u = v ∨ Merges u v ∨ Merges v u

theorem Alike.symm (h : Alike u v) : Alike v u := by
  rcases h with rfl | h | h
  · exact .inl rfl
  · exact .inr (.inr h)
  · exact .inr (.inl h)

theorem Merges.alike (h : Merges u v) : Alike u v :=
  .inr (.inl h)

/-! ## The tables of the lexicon -/

structure UncountableNoun (s : List Char) : Prop where
  letters : Letters s
  ending : ∀ e ∈ nounEndings, ¬ e.1.toList <:+ s ∧ ¬ e.2.toList.dropLast <:+ s
  finalY : s.getLast? = some 'y' → softensY s.dropLast = false
  finalE : s.getLast? = some 'e' → english.pluralWord s.dropLast ≠ s ++ ['s']
  finalIe : ¬ ['i', 'e'] <:+ s

structure IrregularNoun (s t : List Char) : Prop where
  plural : english.pluralWord s = t
  inj : ∀ q ∈ irregularNouns, t = q.2.toList → s = q.1.toList
  ending : ∀ e ∈ nounEndings,
    ¬ e.1.toList <:+ s ∧ ¬ e.2.toList.dropLast <:+ s ∧ ¬ e.2.toList <:+ t
  nonempty : s ≠ []
  length : 2 ≤ t.length
  finalY : s.getLast? ≠ some 'y'
  finalE : s.getLast? = some 'e' → english.pluralWord s.dropLast = s ++ ['s'] → t = s ++ ['s']
  finalIe : ['i', 'e'] <:+ s → t = s ++ ['s']
  pluralS : t.getLast? = some 's' → english.pluralWord t.dropLast = t
  pluralEs : ['e', 's'] <:+ t → Hisses t.dropLast.dropLast → s = t.dropLast ∨
    s = ['q', 'u', 'i', 'z'] ∧ t.dropLast.dropLast = ['q', 'u', 'i', 'z', 'z']
  pluralIes : ['i', 'e', 's'] <:+ t → s = t.dropLast

structure NounEnding (s t : List Char) : Prop where
  ne : t ≠ s
  last : s.getLast? = some 's' ∨ s.getLast? = some 'x'
  pluralEs : t = t.dropLast.dropLast ++ ['e', 's']
  length : 2 ≤ t.dropLast.dropLast.length
  notHissing : ¬ Hisses t.dropLast.dropLast
  notIes : ¬ ['i', 'e', 's'] <:+ t
  exchange : ∀ f ∈ nounEndings, s <:+ f.1.toList →
    f.2.toList = f.1.toList.take (f.1.toList.length - s.length) ++ t
  exchangeBack : ∀ f ∈ nounEndings, t <:+ f.2.toList →
    f.1.toList = f.2.toList.take (f.2.toList.length - t.length) ++ s

def spell (p : String × String) : List Char × List Char :=
  (p.1.toList, p.2.toList)

-- The tables are spelt out before they are searched, since decoding a text is slow in the kernel.

theorem uncountableNoun {s : String} (h : s ∈ uncountableNouns) : UncountableNoun s.toList := by
  have hs : s.toList ∈ uncountableNouns.map String.toList := List.mem_map_of_mem h
  generalize s.toList = w at hs ⊢
  simp only [uncountableNouns, List.map_cons, List.map_nil, String.reduceToList] at hs
  constructor <;> revert w <;> decide +kernel

theorem irregularNoun {p : String × String} (h : p ∈ irregularNouns) :
    IrregularNoun p.1.toList p.2.toList := by
  have hp : spell p ∈ irregularNouns.map spell := List.mem_map_of_mem h
  show IrregularNoun (spell p).1 (spell p).2
  generalize spell p = w at hp ⊢
  simp only [irregularNouns, spell, List.map_cons, List.map_nil, String.reduceToList] at hp
  constructor <;> revert w <;> decide +kernel

theorem nounEnding {e : String × String} (h : e ∈ nounEndings) :
    NounEnding e.1.toList e.2.toList := by
  have he : spell e ∈ nounEndings.map spell := List.mem_map_of_mem h
  show NounEnding (spell e).1 (spell e).2
  generalize spell e = w at he ⊢
  simp only [nounEndings, spell, List.map_cons, List.map_nil, String.reduceToList] at he
  constructor <;> revert w <;> decide +kernel

/-! ## Last letters -/

theorem getLast?_of_suffix {s w : List Char} (hs : s ≠ []) (h : s <:+ w) :
    w.getLast? = s.getLast? := by
  obtain ⟨stem, rfl⟩ := h
  exact List.getLast?_append_of_ne_nil stem hs

theorem getLast?_ending {e : String × String} (he : e ∈ nounEndings) :
    (stem ++ e.1.toList).getLast? = some 's' ∨ (stem ++ e.1.toList).getLast? = some 'x' := by
  have hl := (nounEnding he).last
  have hn : e.1.toList ≠ [] := by
    intro hn
    simp [hn] at hl
  rwa [getLast?_of_suffix hn (List.suffix_append stem _)]

theorem Hisses.getLast? (h : Hisses u) :
    ∃ c ∈ ['x', 'h', 's', 'z'], u.getLast? = some c := by
  obtain ⟨s, hs, hu⟩ := List.any_eq_true.mp h
  have hfinite : ∀ s ∈ ["x", "ch", "sh", "ss", "zz"], s.toList ≠ [] ∧
      s.toList.getLast? ∈ ['x', 'h', 's', 'z'].map some := by simp
  obtain ⟨hn, hl⟩ := hfinite s hs
  obtain ⟨c, hc, hl⟩ := List.mem_map.mp hl
  exact ⟨c, hc, (getLast?_of_suffix hn (endsIn_iff.mp hu)).trans hl.symm⟩

theorem Hisses.of_append (h : Hisses (stem ++ u)) (hu : 2 ≤ u.length) : Hisses u := by
  obtain ⟨s, hs, hw⟩ := List.any_eq_true.mp h
  have hlen : ∀ s ∈ ["x", "ch", "sh", "ss", "zz"], s.toList.length ≤ 2 := by simp
  refine List.any_eq_true.mpr ⟨s, hs, endsIn_iff.mpr ?_⟩
  exact List.suffix_of_suffix_length_le (endsIn_iff.mp hw) (List.suffix_append stem u)
    ((hlen s hs).trans hu)

/-- A word with another last letter than the rules ask for is an exception or takes an s. -/
theorem PluralForm.of_getLast? {c : Char} {p : List Char} (h : PluralForm v p)
    (hl : v.getLast? = some c) (hc : c ∉ ['s', 'x', 'h', 'z', 'y']) :
    String.ofList v ∈ uncountableNouns ∨ (∃ q ∈ irregularNouns, v = q.1.toList ∧ p = q.2.toList) ∨
      p = v ++ ['s'] := by
  have hne : ∀ d ∈ ['s', 'x', 'h', 'z', 'y'], v.getLast? ≠ some d := by
    intro d hd hv
    rw [hl, Option.some.injEq] at hv
    exact hc (hv ▸ hd)
  cases h with
  | uncountable hu => exact .inl hu
  | irregular hp hw => exact .inr (.inl ⟨_, hp, hw, rfl⟩)
  | ending he hw =>
    rcases getLast?_ending he with h | h
    · exact absurd (hw ▸ h) (hne 's' (by simp))
    · exact absurd (hw ▸ h) (hne 'x' (by simp))
  | hissing _ hh =>
    obtain ⟨d, hd, hv⟩ := hh.getLast?
    have hs : ['x', 'h', 's', 'z'] ⊆ ['s', 'x', 'h', 'z', 'y'] := by decide
    exact absurd hv (hne d (hs hd))
  | finalS _ _ hs => exact absurd (getLast?_of_suffix (by simp) hs) (hne 's' (by simp))
  | soft _ _ hw => exact absurd (by simp [hw]) (hne 'y' (by simp))
  | regular => exact .inr (.inr rfl)

/-! ## Merging words share their plural -/

/-- Endings exchanged alike, where one ends in the other, give one word. -/
theorem append_eq_append_of_exchange {a a' b b' s t : List Char} (h : s ++ a = t ++ b)
    (hab : a <:+ b → b' = b.take (b.length - a.length) ++ a')
    (hba : b <:+ a → a' = a.take (a.length - b.length) ++ b') : s ++ a' = t ++ b' := by
  have of_suffix : ∀ {a a' b b' s t : List Char}, s ++ a = t ++ b → a <:+ b →
      b' = b.take (b.length - a.length) ++ a' → s ++ a' = t ++ b' := by
    rintro a a' _ b' s t h ⟨pre, rfl⟩ hb
    rw [← List.append_assoc, List.append_cancel_right_eq] at h
    rw [hb, h]
    simp
  -- Of two endings of one word the shorter is an ending of the longer.
  rcases List.suffix_or_suffix_of_suffix (List.suffix_append s a) (h ▸ List.suffix_append t b) with
    hs | hs
  · exact of_suffix h hs (hab hs)
  · exact (of_suffix h.symm hs (hba hs)).symm

theorem pluralWord_ending {e : String × String} (he : e ∈ nounEndings) :
    english.pluralWord (stem ++ e.1.toList) = stem ++ e.2.toList := by
  have hs : e.1.toList <:+ stem ++ e.1.toList := List.suffix_append _ _
  have hf := pluralForm_pluralWord (stem ++ e.1.toList)
  generalize english.pluralWord (stem ++ e.1.toList) = p at hf
  generalize hw : stem ++ e.1.toList = w at hf hs
  cases hf with
  | uncountable hu => exact absurd (by simpa using hs) ((uncountableNoun hu).ending e he).1
  | irregular hp hq => exact absurd (hq ▸ hs) ((irregularNoun hp).ending e he).1
  | ending hf hq =>
    exact (append_eq_append_of_exchange (hw.trans hq) ((nounEnding he).exchange _ hf)
      ((nounEnding hf).exchange _ he)).symm
  | hissing plain | finalS plain | soft plain | regular plain =>
    exact absurd hs (plain.endings e he)

theorem pluralWord_soft (h : softensY stem = true) :
    english.pluralWord (stem ++ ['y']) = stem ++ ['i', 'e', 's'] := by
  have hf := pluralForm_pluralWord (stem ++ ['y'])
  have hl : (stem ++ ['y']).getLast? = some 'y' := by simp
  have hd : (stem ++ ['y']).dropLast = stem := by simp
  generalize english.pluralWord (stem ++ ['y']) = p at hf
  generalize hw : stem ++ ['y'] = w at hf hl hd
  cases hf with
  | uncountable hu =>
    have hn := (uncountableNoun hu).finalY (by simpa using hl)
    rw [String.toList_ofList, hd, h] at hn
    cases hn
  | irregular hp hq => exact absurd (hq ▸ hl) (irregularNoun hp).finalY
  | ending he hq =>
    subst hq
    rcases getLast?_ending he with h | h <;> cases hl.symm.trans h
  | hissing _ hh =>
    obtain ⟨c, hc, hl'⟩ := hh.getLast?
    rw [hl, Option.some.injEq] at hl'
    simp [← hl'] at hc
  | finalS _ _ hs =>
    have := getLast?_of_suffix (by simp) hs
    simp [hl] at this
  | soft _ _ hq => rw [List.append_cancel_right (hw.trans hq)]
  | regular _ _ hn => exact absurd hw.symm (hn stem h)

theorem pluralWord_hissing (plain : Plain u) (h : Hisses u) :
    english.pluralWord u = u ++ ['e', 's'] := by
  have hf := pluralForm_pluralWord u
  generalize english.pluralWord u = p at hf
  cases hf with
  | uncountable hu => exact absurd hu plain.countable
  | irregular hp hq => exact absurd hq (plain.regular _ hp)
  | ending he hq => exact absurd (hq ▸ List.suffix_append _ _) (plain.endings _ he)
  | hissing => rfl
  | finalS _ hn | regular _ hn => exact absurd h hn
  | soft _ _ hq =>
    obtain ⟨c, hc, hl⟩ := h.getLast?
    rw [hq, List.getLast?_concat, Option.some.injEq] at hl
    simp [← hl] at hc

theorem Merges.pluralWord_eq (h : Merges u v) : english.pluralWord u = english.pluralWord v := by
  cases h with
  | addedE h =>
    rw [h]
    have hl : (u ++ ['e']).getLast? = some 'e' := by simp
    rcases (pluralForm_pluralWord (u ++ ['e'])).of_getLast? hl (by decide) with
      hu | ⟨p, hp, hw, hv⟩ | hv
    · have hne := (uncountableNoun hu).finalE (by simp)
      exact absurd (by simpa using h) hne
    · have hp := (irregularNoun hp).finalE (by simp [← hw]) (by simpa [← hw] using h)
      rw [hv, hp, ← hw]
      simp
    · rw [hv]
      simp
  | @soft stem h =>
    rw [pluralWord_soft h]
    have hl : (stem ++ ['i', 'e']).getLast? = some 'e' := by simp
    rcases (pluralForm_pluralWord (stem ++ ['i', 'e'])).of_getLast? hl (by decide) with
      hu | ⟨p, hp, hw, hv⟩ | hv
    · exact absurd (by simp) (uncountableNoun hu).finalIe
    · rw [hv, (irregularNoun hp).finalIe (hw ▸ List.suffix_append _ _), ← hw]
      simp
    · rw [hv]
      simp
  | @ending stem v e he hv =>
    have hv' : v = stem ++ e.2.toList.dropLast.dropLast ++ ['e'] := by
      rw [(nounEnding he).pluralEs] at hv
      refine List.append_cancel_right (hv.symm.trans (?_ : _ = _ ++ ['s']))
      simp
    have hsuffix : e.2.toList.dropLast <:+ v := by
      rw [hv', (nounEnding he).pluralEs]
      simp
    have hl : v.getLast? = some 'e' := by simp [hv']
    rw [pluralWord_ending he, hv]
    rcases (pluralForm_pluralWord v).of_getLast? hl (by decide) with hu | ⟨p, hp, hw, -⟩ | h
    · exact absurd (by simpa using hsuffix) ((uncountableNoun hu).ending e he).2
    · exact absurd (hw ▸ hsuffix) ((irregularNoun hp).ending e he).2.1
    · exact h.symm
  | irregular hp hv =>
    have h := (irregularNoun hp).pluralS (by simp [hv])
    rw [(irregularNoun hp).plural, ← h, hv]
    simp
  | quiz => decide +kernel

theorem Merges.ne_nil (h : Merges u v) : u ≠ [] ∧ v ≠ [] := by
  cases h with
  | addedE h =>
    refine ⟨?_, by simp⟩
    rintro rfl
    exact absurd h (by decide +kernel)
  | soft => simp
  | @ending stem v e he hv =>
    have hlast := (nounEnding he).last
    have hlen := congrArg List.length hv
    rw [(nounEnding he).pluralEs] at hlen
    simp only [List.length_append, List.length_cons, List.length_nil] at hlen
    refine ⟨?_, List.ne_nil_of_length_pos (by omega)⟩
    intro hn
    simp [(List.append_eq_nil_iff.mp hn).2] at hlast
  | irregular hp hv =>
    have hlen := congrArg List.length hv
    have hlong := (irregularNoun hp).length
    simp only [List.length_append, List.length_singleton] at hlen
    exact ⟨(irregularNoun hp).nonempty, List.ne_nil_of_length_pos (by omega)⟩
  | quiz => simp

/-! ## Words with one plural merge -/

variable {p e : String × String} {w : List Char}

theorem alike_of_irregular (hp : p ∈ irregularNouns) (hv : PluralForm v w) (hn : w ≠ v)
    (h : p.2.toList = w) : Alike p.1.toList v := by
  cases hv with
  | uncountable | finalS => exact absurd rfl hn
  | irregular hq hw => exact .inl (((irregularNoun hp).inj _ hq h).trans hw.symm)
  | @ending stem e he hw =>
    exact absurd (h ▸ List.suffix_append stem _) ((irregularNoun hp).ending e he).2.2
  | hissing plain hh =>
    have hd : p.2.toList.dropLast = v ++ ['e'] := by simp [h, List.dropLast_append_of_ne_nil]
    have hdd : p.2.toList.dropLast.dropLast = v := by simp [hd]
    rcases (irregularNoun hp).pluralEs (h ▸ List.suffix_append _ _) (hdd.symm ▸ hh) with
      hp' | ⟨hp', hq⟩
    · rw [hp', hd]
      exact (Merges.addedE (pluralWord_hissing plain hh)).alike.symm
    · rw [hp', ← hdd, hq]
      exact Merges.quiz.alike
  | @soft stem plain hs hw =>
    have hd : p.2.toList.dropLast = stem ++ ['i', 'e'] := by
      simp [h, List.dropLast_append_of_ne_nil]
    rw [(irregularNoun hp).pluralIes (h ▸ List.suffix_append _ _), hd, hw]
    exact (Merges.soft hs).alike.symm
  | regular => exact (Merges.irregular hp h).alike

theorem alike_of_ending (he : e ∈ nounEndings) (hv : PluralForm v w) (hn : w ≠ v)
    (h : stem ++ e.2.toList = w) : Alike (stem ++ e.1.toList) v := by
  cases hv with
  | uncountable | finalS => exact absurd rfl hn
  | irregular hp hw =>
    have hne : stem ++ e.2.toList ≠ stem ++ e.1.toList := by simpa using (nounEnding he).ne
    rw [hw]
    exact (alike_of_irregular hp (.ending he rfl) hne h.symm).symm
  | ending hf hw =>
    have heq := append_eq_append_of_exchange h ((nounEnding he).exchangeBack _ hf)
      ((nounEnding hf).exchangeBack _ he)
    exact .inl (heq.trans hw.symm)
  | hissing plain hh =>
    rw [(nounEnding he).pluralEs, ← List.append_assoc, List.append_cancel_right_eq] at h
    exact absurd ((h ▸ hh).of_append (nounEnding he).length) (nounEnding he).notHissing
  | @soft t plain hs hw =>
    have hies : ['i', 'e', 's'] <:+ t ++ ['i', 'e', 's'] := List.suffix_append t _
    have hlen : 3 ≤ e.2.toList.length := by
      rw [(nounEnding he).pluralEs, List.length_append]
      exact Nat.add_le_add_right (Nat.le_of_succ_le (nounEnding he).length) 2
    exact absurd (List.suffix_of_suffix_length_le hies (h ▸ List.suffix_append stem _) hlen)
      (nounEnding he).notIes
  | regular => exact (Merges.ending he h).alike

theorem alike_of_hissing (plain : Plain u) (hh : Hisses u) (hv : PluralForm v w) (hn : w ≠ v)
    (h : u ++ ['e', 's'] = w) : Alike u v := by
  have hne : u ++ ['e', 's'] ≠ u := by simp
  cases hv with
  | uncountable | finalS => exact absurd rfl hn
  | irregular hp hw =>
    rw [hw]
    exact (alike_of_irregular hp (.hissing plain hh) hne h.symm).symm
  | ending he hw =>
    rw [hw]
    exact (alike_of_ending he (.hissing plain hh) hne h.symm).symm
  | hissing => exact .inl (List.append_cancel_right h)
  | @soft t _ _ hw =>
    have hu : u = t ++ ['i'] := by
      refine List.append_cancel_right (?_ : u ++ ['e', 's'] = (t ++ ['i']) ++ ['e', 's'])
      simpa using h
    obtain ⟨c, hc, hl⟩ := hh.getLast?
    rw [hu, List.getLast?_concat, Option.some.injEq] at hl
    simp [← hl] at hc
  | regular =>
    have hv : v = u ++ ['e'] := by
      refine List.append_cancel_right (?_ : v ++ ['s'] = (u ++ ['e']) ++ ['s'])
      simpa using h.symm
    rw [hv]
    exact (Merges.addedE (pluralWord_hissing plain hh)).alike

theorem alike_of_soft (plain : Plain u) (hs : softensY stem = true) (hu : u = stem ++ ['y'])
    (hv : PluralForm v w) (hn : w ≠ v) (h : stem ++ ['i', 'e', 's'] = w) : Alike u v := by
  have hform : PluralForm u (stem ++ ['i', 'e', 's']) := .soft plain hs hu
  have hne : stem ++ ['i', 'e', 's'] ≠ u := by simp [hu]
  cases hv with
  | uncountable | finalS => exact absurd rfl hn
  | irregular hp hw =>
    rw [hw]
    exact (alike_of_irregular hp hform hne h.symm).symm
  | ending he hw =>
    rw [hw]
    exact (alike_of_ending he hform hne h.symm).symm
  | hissing plain' hh => exact (alike_of_hissing plain' hh hform hne h.symm).symm
  | soft _ _ hw =>
    rw [hu, hw, List.append_cancel_right h]
    exact .inl rfl
  | regular =>
    have hv : v = stem ++ ['i', 'e'] := by
      refine List.append_cancel_right (?_ : v ++ ['s'] = (stem ++ ['i', 'e']) ++ ['s'])
      simpa using h.symm
    rw [hu, hv]
    exact (Merges.soft hs).alike

/-- Words with one plural merge, unless one of them is this plural. -/
theorem alike_of_pluralWord_eq (h : english.pluralWord u = english.pluralWord v)
    (hu : english.pluralWord u ≠ u) (hv : english.pluralWord v ≠ v) : Alike u v := by
  have hfu := pluralForm_pluralWord u
  have hfv := pluralForm_pluralWord v
  generalize english.pluralWord u = p at *
  generalize english.pluralWord v = q at *
  -- Each rule was compared with the rules after it, so the last one leaves the pairs turned round.
  cases hfu with
  | uncountable | finalS => exact absurd rfl hu
  | irregular hp hw =>
    rw [hw]
    exact alike_of_irregular hp hfv hv h
  | ending he hw =>
    rw [hw]
    exact alike_of_ending he hfv hv h
  | hissing plain hh => exact alike_of_hissing plain hh hfv hv h
  | soft plain hs hw => exact alike_of_soft plain hs hw hfv hv h
  | regular plain hh hn =>
    have hform : PluralForm u (u ++ ['s']) := .regular plain hh hn
    cases hfv with
    | uncountable | finalS => exact absurd rfl hv
    | irregular hp hw =>
      rw [hw]
      exact (alike_of_irregular hp hform hu h.symm).symm
    | ending he hw =>
      rw [hw]
      exact (alike_of_ending he hform hu h.symm).symm
    | hissing plain' hh' => exact (alike_of_hissing plain' hh' hform hu h.symm).symm
    | soft plain' hs hw => exact (alike_of_soft plain' hs hw hform hu h.symm).symm
    | regular => exact .inl (List.append_cancel_right h)

end EntityGen.Naming
