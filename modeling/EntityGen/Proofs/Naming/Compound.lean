import EntityGen.Proofs.Naming.PluralNames
import EntityGen.Proofs.Naming.Words
import Mathlib.Data.List.DropRight

/-! # Inflection of compounds

A compound is made of words in small letters that are capitalized and joined. Its last word is found
again by the case of the letters alone, so words of one letter right before the last word run into
it. A compound without such words is inflected in its last word only.
-/

namespace EntityGen.Naming

open Text Lexicon

variable {w v cs last : List Char} {ws leading front initials : List (List Char)}

/-! ## Words in small letters -/

structure IsWord (w : List Char) : Prop where
  ne_nil : w ≠ []
  letters : Letters w

instance : DecidablePred IsWord := fun w =>
  decidable_of_iff (w ≠ [] ∧ Letters w) ⟨fun ⟨hn, hl⟩ => ⟨hn, hl⟩, fun ⟨hn, hl⟩ => ⟨hn, hl⟩⟩

theorem Letters.small (h : Letters w) : Small w := fun c hc =>
  ⟨isAscii_of_isLower (h c hc), isUpper_eq_false_of_isLower (h c hc)⟩

theorem Letters.isUppercase_eq_false (h : Letters w) {c : Char} (hc : c ∈ w) :
    isUppercase c = false :=
  (isUppercase_ascii (h.small c hc).1).trans (h.small c hc).2

theorem Letters.append (hw : Letters w) (hv : Letters v) : Letters (w ++ v) := by
  intro c hc
  rcases List.mem_append.mp hc with hc | hc
  · exact hw c hc
  · exact hv c hc

theorem Letters.flatten (h : ∀ w ∈ ws, Letters w) : Letters ws.flatten := by
  intro c hc
  obtain ⟨w, hw, hcw⟩ := List.mem_flatten.mp hc
  exact h w hw c hcw

theorem Letters.lowercase_eq (h : Letters w) : lowercase w = w := by
  rw [lowercase_ascii h.small.ascii, h.small.map_toLower]

/-- A rule that respells words keeps words in small letters. -/
theorem Respells.isWord (hr : Respells w v) (h : IsWord w) : IsWord v :=
  ⟨hr.1, hr.forall_mem (fun _ h => h) h.letters⟩

theorem capitalizeChars_cons {c : Char} (h : c.isLower = true) :
    capitalizeChars (c :: w) = c.toUpper :: w :=
  apply_capital_cons (isAscii_of_isLower h)

theorem isUppercase_toUpper_of_isLower {c : Char} (h : c.isLower = true) :
    isUppercase c.toUpper = true := by
  have hc : Small [c] := Letters.small (List.forall_mem_singleton.mpr h)
  rw [isUppercase_toUpper (hc c (by simp)).1 (hc c (by simp)).2, h]

/-- A capitalized word is a capital and small letters. -/
theorem IsWord.exists_capitalizeChars_eq (h : IsWord w) : ∃ c rest, w = c :: rest ∧
    c.isLower = true ∧ Letters rest ∧ capitalizeChars w = c.toUpper :: rest := by
  obtain ⟨c, rest, rfl⟩ := List.exists_cons_of_ne_nil h.ne_nil
  obtain ⟨hc, hr⟩ := List.forall_mem_cons.mp h.letters
  exact ⟨c, rest, rfl, hc, hr, capitalizeChars_cons hc⟩

theorem IsWord.unbroken (h : IsWord w) : Unbroken w := by
  refine unbroken_append (u := []) h.ne_nil (by simp) (fun c hc => ?_) (.inl (Nat.zero_le 1))
  exact ⟨isAlphanum_of_isLower (h.letters c hc), (h.letters.small c hc).2⟩

/-! ## Compounds -/

def compound (ws : List (List Char)) : List Char :=
  ws.flatMap capitalizeChars

theorem compound_cons : compound (w :: ws) = capitalizeChars w ++ compound ws :=
  List.flatMap_cons

theorem compound_append : compound (ws ++ leading) = compound ws ++ compound leading :=
  List.flatMap_append

theorem compound_singleton : compound [w] = capitalizeChars w :=
  List.flatMap_singleton _ _

/-- A compound that starts with a letter is no text that starts with a digit. -/
theorem guardDigit_compound (h : ∀ w ∈ ws, ∃ c ∈ w.head?, c.isLower = true) :
    guardDigit (compound ws) = compound ws := by
  rw [guardDigit, if_neg]
  cases ws with
  | nil => simp [compound]
  | cons w ws =>
    obtain ⟨c, hcw, hc⟩ := h w List.mem_cons_self
    obtain ⟨rest, rfl⟩ := List.head?_eq_some_iff.mp hcw
    rw [compound_cons, capitalizeChars_cons hc, List.cons_append, List.head?_cons,
      Option.any_some, isDigit_toUpper, isDigit_of_isAlpha (isAlpha_of_isLower hc)]
    exact Bool.false_ne_true

theorem capitalizeWord_small (h : Small w) : capitalizeWord w = capitalizeChars w := by
  cases w with
  | nil => rfl
  | cons c rest =>
    obtain ⟨⟨hc, -⟩, hr⟩ := small_cons.mp h
    rw [capitalizeWord_ascii h.ascii, hr.map_toLower]
    exact (apply_capital_cons hc).symm

/-- A text whose words are found up to their case gives the compound of them. -/
theorem humanizeChars_eq_compound (hw : (words cs).map (·.map Char.toLower) = ws)
    (hs : ∀ w ∈ ws, Small w) (hl : ∀ w ∈ ws, ∃ c ∈ w.head?, c.isLower = true) :
    humanizeChars cs = compound ws := by
  have hflat : (words cs).flatMap capitalizeWord = compound ws := by
    rw [← hw, compound, List.flatMap_map]
    refine List.flatMap_congr fun u hu => ?_
    have hsmall : Small (u.map Char.toLower) := hs _ (hw ▸ List.mem_map_of_mem hu)
    rw [← capitalizeWord_small hsmall,
      capitalizeWord_map_toLower (ascii_of_map_toLower hsmall.ascii)]
  rw [humanizeChars, hflat, guardDigit_compound hl]

theorem humanizeChars_intercalate (h : ∀ w ∈ ws, IsWord w) :
    humanizeChars (['_'].intercalate ws) = compound ws := by
  refine humanizeChars_eq_compound ?_ (fun w hw => (h w hw).letters.small) fun w hw => ?_
  · rw [words_intercalate (by decide +kernel) (by decide) fun w hw => (h w hw).unbroken]
    refine (List.map_congr_left fun w hw => ?_).trans (List.map_id ws)
    exact (h w hw).letters.small.map_toLower
  · obtain ⟨c, rest, rfl, hc, -, -⟩ := (h w hw).exists_capitalizeChars_eq
    exact ⟨c, rfl, hc⟩

theorem ascii_compound (h : ∀ w ∈ ws, IsWord w) : Ascii (compound ws) := by
  intro c hc
  obtain ⟨w, hw, hcw⟩ := List.mem_flatMap.mp hc
  exact ascii_apply (k := .capital) (h w hw).letters.small c hcw

theorem lowercase_compound (h : ∀ w ∈ ws, IsWord w) : lowercase (compound ws) = ws.flatten := by
  rw [lowercase_ascii (ascii_compound h), compound, List.map_flatMap, ← List.flatMap_id]
  exact List.flatMap_congr fun w hw => map_toLower_apply (k := .capital) (h w hw).letters.small

/-! ## The last word of a compound -/

/-- A compound of words of one letter and one more word has its capitals first. -/
theorem capitalsFirst_compound (hi : ∀ w ∈ initials, IsWord w ∧ w.length = 1) (hw : IsWord last) :
    CapitalsFirst (compound (initials ++ [last])) := by
  induction initials with
  | nil =>
    obtain ⟨c, rest, -, -, hr, he⟩ := hw.exists_capitalizeChars_eq
    rw [List.nil_append, compound_singleton, he]
    exact capitalsFirst_cons_of_forall fun d hd => hr.isUppercase_eq_false hd
  | cons w initials ih =>
    obtain ⟨⟨hword, hlen⟩, hrest⟩ := List.forall_mem_cons.mp hi
    obtain ⟨c, rest, rfl, hc, -, he⟩ := hword.exists_capitalizeChars_eq
    obtain rfl : rest = [] := by simpa using hlen
    rw [List.cons_append, compound_cons, he]
    exact List.isChain_cons.mpr ⟨fun _ _ _ => isUppercase_toUpper_of_isLower hc, ih hrest⟩

theorem head?_compound (h : IsWord w) : ∃ c ∈ (compound (w :: ws)).head?, isUppercase c = true := by
  obtain ⟨c, rest, -, hc, -, he⟩ := h.exists_capitalizeChars_eq
  exact ⟨c.toUpper, by rw [compound_cons, he]; rfl, isUppercase_toUpper_of_isLower hc⟩

theorem head?_compound_append (hi : ∀ w ∈ initials, IsWord w ∧ w.length = 1) (hw : IsWord last) :
    ∃ c ∈ (compound (initials ++ [last])).head?, isUppercase c = true := by
  cases initials with
  | nil => exact head?_compound hw
  | cons w initials => exact head?_compound (hi w List.mem_cons_self).1

/-- A compound ends in a small letter when its last word has more than one letter. -/
theorem getLast?_compound (hw : IsWord last) (hl : last.length ≠ 1) (front : List (List Char)) :
    ∃ c ∈ (compound (front ++ [last])).getLast?, c.isLower = true := by
  obtain ⟨c, rest, rfl, -, hr, he⟩ := hw.exists_capitalizeChars_eq
  have hn : rest ≠ [] := by
    rintro rfl
    exact hl rfl
  refine ⟨rest.getLast hn, ?_, hr _ (List.getLast_mem hn)⟩
  rw [compound_append, compound_singleton, he, List.getLast?_append_of_ne_nil _ (by simp),
    Option.mem_def, List.getLast?_cons, List.getLast?_eq_some_getLast hn]
  rfl

theorem splitLastWord_compound (hf : ∀ w ∈ front, IsWord w)
    (hl : front = [] ∨ ∃ w ∈ front.getLast?, w.length ≠ 1)
    (hi : ∀ w ∈ initials, IsWord w ∧ w.length = 1) (hw : IsWord last) :
    splitLastWord (compound (front ++ (initials ++ [last]))) =
      (compound front, compound (initials ++ [last])) := by
  refine splitLastWord_eq_iff.mpr ⟨compound_append.symm, capitalsFirst_compound hi hw, ?_⟩
  refine hl.imp (fun h => by rw [h]; rfl) fun ⟨w, hm, hlen⟩ => ⟨?_, head?_compound_append hi hw⟩
  obtain ⟨before, rfl⟩ := List.getLast?_eq_some_iff.mp hm
  have hword := hf w (List.mem_append_right _ (List.mem_singleton_self w))
  obtain ⟨c, hc, hlow⟩ := getLast?_compound hword hlen before
  have hletter : Letters [c] := List.forall_mem_singleton.mpr hlow
  exact ⟨c, hc, hletter.isUppercase_eq_false (List.mem_singleton_self c)⟩

/-! ## The case of the last word -/

theorem wordCase_eq_capital (ha : Ascii cs) (hu : ∃ c ∈ cs.head?, isUppercase c = true)
    (hl : cs.length ≤ 1 ∨ ∃ c ∈ cs, c.isLower = true) : wordCase cs = .capital := by
  obtain ⟨c, hc, hu⟩ := hu
  obtain ⟨rest, rfl⟩ := List.head?_eq_some_iff.mp hc
  rw [isUppercase_ascii (ha c List.mem_cons_self)] at hu
  refine (wordCase_eq_capital_iff ha).mpr ⟨fun hupper => ?_, hu⟩
  obtain ⟨hlong, hall⟩ := (wordCase_eq_upper_iff ha).mp hupper
  rcases hl with hshort | ⟨d, hd, hlow⟩
  · omega
  · rw [hall d hd] at hlow
    cases hlow

theorem capitalsFirst_letters (h : IsWord w) : CapitalsFirst w := by
  obtain ⟨c, rest, rfl⟩ := List.exists_cons_of_ne_nil h.ne_nil
  exact capitalsFirst_cons_of_forall fun d hd =>
    h.letters.isUppercase_eq_false (List.mem_cons_of_mem _ hd)

theorem wordCase_letters (h : IsWord w) : wordCase w = .small := by
  obtain ⟨c, rest, rfl⟩ := List.exists_cons_of_ne_nil h.ne_nil
  have ha := h.letters.small.ascii
  have hc := h.letters c List.mem_cons_self
  cases hk : wordCase (c :: rest) with
  | upper =>
    have hall := ((wordCase_eq_upper_iff ha).mp hk).2 c List.mem_cons_self
    rw [hc] at hall
    cases hall
  | capital =>
    have hu := ((wordCase_eq_capital_iff ha).mp hk).2
    rw [isUpper_eq_false_of_isLower hc] at hu
    cases hu
  | small => rfl

theorem isLower_compound (h : ∀ w ∈ ws, IsWord w ∧ w.length = 1) :
    ∀ c ∈ compound ws, c.isLower = false := by
  intro c hc
  obtain ⟨w, hw, hcw⟩ := List.mem_flatMap.mp hc
  obtain ⟨hword, hlen⟩ := h w hw
  obtain ⟨d, rest, rfl, -, -, he⟩ := hword.exists_capitalizeChars_eq
  obtain rfl : rest = [] := by simpa using hlen
  obtain rfl : c = d.toUpper := by simpa [he] using hcw
  exact isLower_toUpper d

theorem length_compound (h : ∀ w ∈ ws, IsWord w) : (compound ws).length = ws.flatten.length := by
  rw [← lowercase_compound h, lowercase_ascii (ascii_compound h), List.length_map]

theorem forall_isWord_append (hi : ∀ w ∈ initials, IsWord w ∧ w.length = 1) (hw : IsWord last) :
    ∀ w ∈ initials ++ [last], IsWord w := by
  intro w hm
  rcases List.mem_append.mp hm with hm | hm
  · exact (hi w hm).1
  · exact List.mem_singleton.mp hm ▸ hw

/-- A last word is all capitals when it is made of several letters of their own. -/
theorem wordCase_compound (hi : ∀ w ∈ initials, IsWord w ∧ w.length = 1) (hw : IsWord last) :
    wordCase (compound (initials ++ [last])) =
      if initials ≠ [] ∧ last.length = 1 then .upper else .capital := by
  have hall := forall_isWord_append hi hw
  have ha := ascii_compound hall
  have hlen := length_compound hall
  rw [List.flatten_concat, List.length_append] at hlen
  split
  · next h =>
    obtain ⟨hn, hone⟩ := h
    refine (wordCase_eq_upper_iff ha).mpr ⟨?_, isLower_compound fun w hm => ?_⟩
    · obtain ⟨w, rest, rfl⟩ := List.exists_cons_of_ne_nil hn
      rw [hlen, List.flatten_cons, List.length_append, (hi w List.mem_cons_self).2, hone]
      omega
    · rcases List.mem_append.mp hm with hm | hm
      · exact hi w hm
      · exact List.mem_singleton.mp hm ▸ ⟨hw, hone⟩
  · next h =>
    refine wordCase_eq_capital ha (head?_compound_append hi hw) ?_
    by_cases hone : last.length = 1
    · obtain rfl : initials = [] := by
        by_contra hn
        exact h ⟨hn, hone⟩
      exact .inl (by rw [hlen, hone]; rfl)
    · obtain ⟨c, hc, hlow⟩ := getLast?_compound hw hone initials
      exact .inr ⟨c, List.mem_of_getLast? hc, hlow⟩

/-! ## Inflecting a compound -/

section Rule

/-- A rule takes words to words, and a word of one letter to itself or to a longer one. -/
structure WordRule (rule : List Char → List Char) : Prop where
  isWord : ∀ w, IsWord w → IsWord (rule w)
  eq_of_length : ∀ w, IsWord w → w.length = 1 → (rule w).length = 1 → rule w = w

variable {rule : List Char → List Char}

theorem toList_inflectLast_compound (hf : ∀ w ∈ front, IsWord w)
    (hl : front = [] ∨ ∃ w ∈ front.getLast?, w.length ≠ 1)
    (hi : ∀ w ∈ initials, IsWord w ∧ w.length = 1) (hw : IsWord last) :
    (inflectLast rule (String.ofList (compound (front ++ (initials ++ [last]))))).toList =
      compound front ++ (if initials ≠ [] ∧ last.length = 1 then WordCase.upper else .capital).apply
        (rule (initials.flatten ++ last)) := by
  have hsplit := splitLastWord_compound hf hl hi hw
  have hall := forall_isWord_append hi hw
  have hne : compound (initials ++ [last]) ≠ [] := by
    obtain ⟨c, hc, -⟩ := head?_compound_append hi hw
    exact List.ne_nil_of_mem (List.mem_of_mem_head? hc)
  rw [← String.toList_ofList (l := compound (front ++ (initials ++ [last])))] at hsplit
  rw [toList_inflectLast hsplit hne, wordCase_compound hi hw, lowercase_compound hall,
    List.flatten_concat]

/-- A capital with small letters behind it is no compound of several words. -/
theorem capitalizeChars_ne_compound {u : List Char} (hv : IsWord v) (hw : IsWord w)
    (hlen : w.length = 1) (hu : IsWord u) (hi : ∀ w ∈ initials, IsWord w ∧ w.length = 1) :
    capitalizeChars v ≠ compound (w :: (initials ++ [u])) := by
  intro h
  obtain ⟨c, rest, rfl, -, hr, he⟩ := hv.exists_capitalizeChars_eq
  obtain ⟨d, tail, rfl, -, -, he'⟩ := hw.exists_capitalizeChars_eq
  obtain rfl : tail = [] := by simpa using hlen
  rw [he, compound_cons, he', List.singleton_append] at h
  obtain ⟨-, hrest⟩ := List.cons.inj h
  obtain ⟨b, hb, hupper⟩ := head?_compound_append hi hu
  rw [← hrest] at hb
  rw [hr.isUppercase_eq_false (List.mem_of_mem_head? hb)] at hupper
  cases hupper

/-- A compound of words of one letter is their letters as capitals. -/
theorem uppercase_flatten (h : ∀ w ∈ ws, IsWord w ∧ w.length = 1) :
    uppercase ws.flatten = compound ws := by
  have hall : ∀ w ∈ ws, IsWord w := fun w hw => (h w hw).1
  rw [← lowercase_compound hall]
  exact uppercase_lowercase (ascii_compound hall) (isLower_compound h)

theorem length_eq_one_of_isLower (hw : IsWord w)
    (h : ∀ c ∈ capitalizeChars w, c.isLower = false) : w.length = 1 := by
  obtain ⟨c, rest, rfl, -, hr, he⟩ := hw.exists_capitalizeChars_eq
  cases rest with
  | nil => rfl
  | cons d rest =>
    have hd := h d (by rw [he]; simp)
    rw [hr d List.mem_cons_self] at hd
    cases hd

/-- Where words of one letter run into the last word, only a rule that leaves the letters as they
are acts on the last word alone. -/
theorem WordRule.uppercase_eq_compound_iff (hr : WordRule rule)
    (hi : ∀ w ∈ initials, IsWord w ∧ w.length = 1) (hw : IsWord last) (hlen : last.length = 1) :
    uppercase (rule (initials.flatten ++ last)) = compound (initials ++ [rule last]) ↔
      rule last = last ∧ rule (initials.flatten ++ last) = initials.flatten ++ last := by
  have hrun : IsWord (initials.flatten ++ last) :=
    ⟨by simp [hw.ne_nil], (Letters.flatten fun w hm => (hi w hm).1.letters).append hw.letters⟩
  have hv := (hr.isWord _ hrun).letters.small
  constructor
  · intro h
    have hall := forall_isWord_append hi (hr.isWord last hw)
    have hkept : rule last = last := by
      have hword := hr.isWord last hw
      refine hr.eq_of_length last hw hlen (length_eq_one_of_isLower hword fun c hc => ?_)
      have hm : c ∈ uppercase (rule (initials.flatten ++ last)) := by
        rw [h, compound_append, compound_singleton]
        exact List.mem_append_right _ hc
      rw [uppercase_ascii hv.ascii] at hm
      obtain ⟨d, -, rfl⟩ := List.mem_map.mp hm
      exact isLower_toUpper d
    refine ⟨hkept, ?_⟩
    have hlow := congrArg lowercase h
    rw [lowercase_compound hall, List.flatten_concat, hkept] at hlow
    exact (lowercase_apply (k := .upper) hv).symm.trans hlow
  · rintro ⟨hkept, hrun⟩
    rw [hkept, hrun, ← List.flatten_concat]
    refine uppercase_flatten fun w hm => ?_
    rcases List.mem_append.mp hm with hm | hm
    · exact hi w hm
    · exact List.mem_singleton.mp hm ▸ ⟨hw, hlen⟩

theorem WordRule.inflectLast_compound_iff (hr : WordRule rule)
    (hf : ∀ w ∈ front, IsWord w) (hl : front = [] ∨ ∃ w ∈ front.getLast?, w.length ≠ 1)
    (hi : ∀ w ∈ initials, IsWord w ∧ w.length = 1) (hw : IsWord last) :
    (inflectLast rule (String.ofList (compound (front ++ (initials ++ [last]))))).toList =
        compound (front ++ initials) ++ capitalizeChars (rule last) ↔
      initials = [] ∨ last.length = 1 ∧ rule last = last ∧
        rule (initials.flatten ++ last) = initials.flatten ++ last := by
  rw [toList_inflectLast_compound hf hl hi hw, compound_append, List.append_assoc,
    List.append_cancel_left_eq, ← compound_singleton (w := rule last), ← compound_append]
  cases initials with
  | nil => simp [WordCase.apply, compound_singleton]
  | cons w initials =>
    have hne : w :: initials ≠ [] := List.cons_ne_nil _ _
    by_cases hlen : last.length = 1
    · rw [if_pos ⟨hne, hlen⟩]
      simpa [hlen, WordCase.apply] using hr.uppercase_eq_compound_iff hi hw hlen
    · rw [if_neg fun h => hlen h.2]
      refine iff_of_false ?_ (by simp [hlen])
      obtain ⟨⟨hword, hone⟩, hrest⟩ := List.forall_mem_cons.mp hi
      have hrun : IsWord ((w :: initials).flatten ++ last) :=
        ⟨by simp [hw.ne_nil], (Letters.flatten fun w hm => (hi w hm).1.letters).append hw.letters⟩
      exact capitalizeChars_ne_compound (hr.isWord _ hrun) hword hone (hr.isWord last hw) hrest

end Rule

/-! ## Names made of several words -/

section Names

variable {rule : List Char → List Char} {words : List String} {word : String}

/-- A single word is inflected by the rule itself. -/
theorem toList_inflectLast_word (h : IsWord word.toList) :
    (inflectLast rule word).toList = rule word.toList := by
  have hsplit : splitLastWord word.toList = ([], word.toList) :=
    splitLastWord_eq_iff.mpr ⟨rfl, capitalsFirst_letters h, .inl rfl⟩
  rw [toList_inflectLast hsplit h.ne_nil, wordCase_letters h, h.letters.lowercase_eq]
  rfl

/-- The words of one letter right before the last word. -/
def initialsOf (leading : List String) : List String :=
  leading.rtakeWhile (·.length == 1)

/-- No word of one letter runs into the last word, or the letters of all that do so are left as they
are. -/
def KeepsInitials (inflect : String → String) (leading : List String) (last : String) : Prop :=
  initialsOf leading = [] ∨ last.length = 1 ∧ inflect last = last ∧
    inflect (String.join (initialsOf leading ++ [last])) =
      String.join (initialsOf leading ++ [last])

theorem toList_join_capitalize (words : List String) :
    (String.join (words.map capitalize)).toList = compound (words.map String.toList) := by
  simp [String.toList_join, compound, List.flatMap_map, capitalize]

theorem humanize_intercalate (h : ∀ w ∈ words, IsWord w.toList) :
    humanize ("_".intercalate words) = String.join (words.map capitalize) := by
  rw [← String.toList_inj, toList_join_capitalize, humanize, String.toList_ofList,
    String.toList_intercalate]
  exact humanizeChars_intercalate (List.forall_mem_map.mpr h)

theorem WordRule.inflectLast_join_iff (hr : WordRule rule) {leading : List String}
    {last : String} (hl : ∀ w ∈ leading, IsWord w.toList)
    (hw : IsWord last.toList) :
    inflectLast rule (String.join ((leading ++ [last]).map capitalize)) =
        String.join (leading.map capitalize) ++ capitalize (inflectLast rule last) ↔
      KeepsInitials (inflectLast rule) leading last := by
  have happ : leading.rdropWhile (·.length == 1) ++ initialsOf leading = leading :=
    List.rdropWhile_append_rtakeWhile
  have hmap : (leading.rdropWhile (·.length == 1)).map String.toList ++
      (initialsOf leading).map String.toList = leading.map String.toList := by
    rw [← List.map_append, happ]
  have hi : ∀ w ∈ (initialsOf leading).map String.toList, IsWord w ∧ w.length = 1 := by
    refine List.forall_mem_map.mpr fun w hm => ⟨hl w ?_, ?_⟩
    · exact happ ▸ List.mem_append_right _ hm
    · simpa [String.length_toList] using List.mem_rtakeWhile_imp hm
  have hf : ∀ w ∈ (leading.rdropWhile (·.length == 1)).map String.toList, IsWord w :=
    List.forall_mem_map.mpr fun w hm => hl w (happ ▸ List.mem_append_left _ hm)
  have hlast : (leading.rdropWhile (·.length == 1)).map String.toList = [] ∨
      ∃ w ∈ ((leading.rdropWhile (·.length == 1)).map String.toList).getLast?, w.length ≠ 1 := by
    refine (eq_or_ne (leading.rdropWhile (·.length == 1)) []).imp (fun h => ?_) fun h => ?_
    · rw [h]
      rfl
    refine ⟨((leading.rdropWhile (·.length == 1)).getLast h).toList, ?_, ?_⟩
    · simp [List.getLast?_map, List.getLast?_eq_some_getLast h]
    · simpa [String.length_toList] using List.rdropWhile_last_not _ leading h
  have hjoin : (String.join (initialsOf leading ++ [last])).toList =
      ((initialsOf leading).map String.toList).flatten ++ last.toList := by
    simp [String.toList_join, List.flatMap_def]
  have hrun : IsWord (String.join (initialsOf leading ++ [last])).toList := by
    rw [hjoin]
    exact ⟨by simp [hw.ne_nil], (Letters.flatten fun w hm => (hi w hm).1.letters).append hw.letters⟩
  have hiff := hr.inflectLast_compound_iff hf hlast hi hw
  rw [← List.append_assoc, hmap] at hiff
  have hcompound : String.join ((leading ++ [last]).map capitalize) =
      String.ofList (compound (leading.map String.toList ++ [last.toList])) := by
    rw [← String.toList_inj, toList_join_capitalize, String.toList_ofList, List.map_append]
    rfl
  rw [KeepsInitials, ← String.toList_inj, ← @String.toList_inj (inflectLast rule last),
    ← @String.toList_inj (inflectLast rule (String.join (_ ++ _))), hcompound,
    String.toList_append, toList_join_capitalize, capitalize, String.toList_ofList,
    toList_inflectLast_word hw, toList_inflectLast_word hrun, hjoin]
  simpa [String.length_toList] using hiff

/-! ## The English rules -/

theorem wordRule_pluralWord : WordRule english.pluralWord where
  isWord w h := ((pluralForm_pluralWord w).respells h.ne_nil).isWord h
  eq_of_length w h _ hlen := by
    by_contra hn
    obtain ⟨d, q, c, he, -⟩ := (pluralForm_pluralWord w).exists_cons_concat h.ne_nil hn
    simp [he] at hlen

theorem SingularForm.of_length (h : SingularForm w v) (hlen : w.length = 1) : v = w := by
  cases h with
  | same => rfl
  | irregular hp hw =>
    have hlong := (irregularNoun hp).length
    rw [← hw] at hlong
    omega
  | ending he hw =>
    have hlong := (nounEnding he).length
    rw [hw, (nounEnding he).pluralEs] at hlen
    simp only [List.length_append, List.length_cons] at hlen
    omega
  | soft _ hw => simp [hw] at hlen
  | @shortened _ rest hn hw =>
    have hpos := List.length_pos_iff.mpr hn
    rw [hw, List.length_append] at hlen
    obtain rfl := List.length_eq_zero_iff.mp (by omega : rest.length = 0)
    rw [hw, List.append_nil]

theorem wordRule_singularWord : WordRule english.singularWord where
  isWord w h := ((singularForm_singularWord w).respells h.ne_nil).isWord h
  eq_of_length w _ hlen _ := (singularForm_singularWord w).of_length hlen

/-- A table name is singular in its last word, and the plural of an entity name is plural in its
last word, exactly when the words of one letter before it stay apart. -/
theorem inflected_in_last_word_iff (leading : List String) (last : String)
    (hl : ∀ w ∈ leading, IsWord w.toList) (hw : IsWord last.toList) :
    (english.inflector.entityName ("_".intercalate (leading ++ [last])) =
        String.join (leading.map capitalize) ++ capitalize (english.inflector.singular last) ↔
      KeepsInitials english.inflector.singular leading last) ∧
    (english.inflector.plural (String.join ((leading ++ [last]).map capitalize)) =
        String.join (leading.map capitalize) ++ capitalize (english.inflector.plural last) ↔
      KeepsInitials english.inflector.plural leading last) := by
  have hall : ∀ w ∈ leading ++ [last], IsWord w.toList := by
    intro w hm
    rcases List.mem_append.mp hm with hm | hm
    · exact hl w hm
    · exact List.mem_singleton.mp hm ▸ hw
  constructor
  · rw [Inflector.entityName, humanize_intercalate hall]
    exact wordRule_singularWord.inflectLast_join_iff hl hw
  · exact wordRule_pluralWord.inflectLast_join_iff hl hw

/-- Words of one letter that stand further ahead stay apart. -/
theorem a_task_dependencies_inflected :
    english.inflector.entityName "a_task_dependencies" = "ATaskDependency" ∧
      english.inflector.plural "ATaskDependency" = "ATaskDependencies" := by
  have hl : ∀ w ∈ ["a", "task"], IsWord w.toList := by decide +kernel
  have hs := (inflected_in_last_word_iff _ "dependencies" hl (by decide +kernel)).1.mpr
    (.inl (by decide +kernel))
  have hp := (inflected_in_last_word_iff _ "dependency" hl (by decide +kernel)).2.mpr
    (.inl (by decide +kernel))
  exact ⟨Eq.trans (by decide +kernel) (hs.trans (by decide +kernel)),
    Eq.trans (by decide +kernel) (hp.trans (by decide +kernel))⟩

/-- A word of one letter runs into the last word. -/
theorem t_orders_not_inflected_in_last_word :
    (∀ w ∈ ["t", "orders"], IsWord w.toList) ∧
      english.inflector.entityName ("_".intercalate ["t", "orders"]) = "Torder" ∧
      capitalize "t" ++ capitalize (english.inflector.singular "orders") = "TOrder" ∧
      english.inflector.plural (capitalize "t" ++ capitalize "order") = "Torders" ∧
      capitalize "t" ++ capitalize (english.inflector.plural "order") = "TOrders" := by
  decide +kernel

end Names

end EntityGen.Naming
