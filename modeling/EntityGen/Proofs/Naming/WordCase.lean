import EntityGen.Proofs.Naming.Inflection
import EntityGen.Proofs.Naming.LastWord
import EntityGen.Proofs.Text.Ascii

/-! # The case of a word

Inflection turns the last word to small letters and then gives the new word its case: all capitals,
a capital at the start, or none. In ASCII the small letters and the case together are the word.
-/

namespace EntityGen.Naming

open Text

inductive WordCase
  | upper
  | capital
  | small
  deriving DecidableEq

def WordCase.apply : WordCase → List Char → List Char
  | upper, w => uppercase w
  | capital, w => capitalizeChars w
  | small, w => w

def wordCase (model : List Char) : WordCase :=
  if 1 < model.length && !model.any isLowercase then .upper
  else if model.head?.any isUppercase then .capital
  else .small

theorem matchCase_eq (model inflected : List Char) :
    matchCase model inflected = (wordCase model).apply inflected := by
  unfold matchCase wordCase
  split
  · rfl
  split <;> rfl

/-- ASCII without capitals. -/
def Small (w : List Char) : Prop :=
  ∀ c ∈ w, isAscii c = true ∧ c.isUpper = false

variable {k l : WordCase} {c : Char} {v w cs : List Char}

theorem Small.ascii (h : Small w) : Ascii w :=
  fun c hc => (h c hc).1

theorem small_cons : Small (c :: w) ↔ (isAscii c = true ∧ c.isUpper = false) ∧ Small w := by
  simp [Small]

theorem small_lowercase (h : Ascii cs) : Small (lowercase cs) := by
  rw [lowercase_ascii h]
  intro c hc
  obtain ⟨d, hd, rfl⟩ := List.mem_map.mp hc
  exact ⟨isAscii_toLower (h d hd), isUpper_toLower d⟩

theorem Respells.small (hr : Respells w v) (h : Small w) : Small v := by
  refine hr.forall_mem (fun c hc => ⟨?_, ?_⟩) h
  · exact isAscii_of_isLower hc
  · exact isUpper_eq_false_of_isLower hc

theorem apply_capital_cons (h : isAscii c = true) :
    WordCase.capital.apply (c :: w) = c.toUpper :: w := by
  simp [WordCase.apply, capitalizeChars, upper_ascii h]

theorem apply_upper (h : Small w) : WordCase.upper.apply w = w.map Char.toUpper :=
  uppercase_ascii h.ascii

theorem ascii_apply (h : Small w) : Ascii (k.apply w) := by
  cases k with
  | upper => exact h.ascii.uppercase
  | capital =>
    cases w with
    | nil => exact .nil
    | cons c rest =>
      obtain ⟨⟨hc, -⟩, hr⟩ := small_cons.mp h
      rw [apply_capital_cons hc]
      exact ascii_cons.mpr ⟨isAscii_toUpper hc, hr.ascii⟩
  | small => exact h.ascii

theorem toLower_toUpper_of_small (hu : c.isUpper = false) : c.toUpper.toLower = c :=
  (toLower_toUpper c).trans (toLower_of_isUpper_eq_false hu)

theorem Small.map_toLower (h : Small w) : w.map Char.toLower = w := by
  refine (List.map_congr_left fun c hc => ?_).trans (List.map_id w)
  exact toLower_of_isUpper_eq_false (h c hc).2

/-- The small letters of a word are not lost with its case. -/
theorem lowercase_apply (h : Small w) : lowercase (k.apply w) = w := by
  rw [lowercase_ascii (ascii_apply h)]
  cases k with
  | upper =>
    rw [apply_upper h, List.map_map]
    refine (List.map_congr_left fun c hc => ?_).trans (List.map_id w)
    exact toLower_toUpper_of_small (h c hc).2
  | capital =>
    cases w with
    | nil => rfl
    | cons c rest =>
      obtain ⟨⟨hc, hu⟩, hr⟩ := small_cons.mp h
      rw [apply_capital_cons hc, List.map_cons, toLower_toUpper_of_small hu, hr.map_toLower]
  | small => exact h.map_toLower

theorem map_toLower_apply (h : Small w) : (k.apply w).map Char.toLower = w := by
  rw [← lowercase_ascii (ascii_apply h), lowercase_apply h]

theorem apply_eq_nil_iff (h : Small w) : k.apply w = [] ↔ w = [] := by
  constructor
  · intro hk
    rw [← lowercase_apply (k := k) h, hk]
    rfl
  · rintro rfl
    cases k <;> rfl

theorem length_apply (h : Small w) : (k.apply w).length = w.length := by
  conv_rhs => rw [← lowercase_apply (k := k) h, lowercase_ascii (ascii_apply h), List.length_map]

/-! ## A word determines its case -/

theorem isUppercase_toUpper (ha : isAscii c = true) (hu : c.isUpper = false) :
    isUppercase c.toUpper = c.isLower := by
  rw [isUppercase_ascii (isAscii_toUpper ha), isUpper_toUpper, isAlpha_eq, hu, Bool.false_or]

theorem wordCase_eq_upper_iff (h : Ascii cs) :
    wordCase cs = .upper ↔ 1 < cs.length ∧ ∀ c ∈ cs, c.isLower = false := by
  have ha : cs.any isLowercase = false ↔ ∀ c ∈ cs, c.isLower = false := by
    rw [List.any_eq_false]
    exact forall₂_congr fun c hc => by rw [isLowercase_ascii (h c hc), Bool.not_eq_true]
  rw [← ha]
  unfold wordCase
  split
  · next hu => simpa using hu
  · next hu =>
    refine iff_of_false ?_ (by simpa using hu)
    split <;> simp

theorem wordCase_eq_capital_iff (h : Ascii (c :: cs)) :
    wordCase (c :: cs) = .capital ↔ wordCase (c :: cs) ≠ .upper ∧ c.isUpper = true := by
  unfold wordCase
  split
  · simp
  · have hc : isUppercase c = c.isUpper := isUppercase_ascii (ascii_cons.mp h).1
    cases hu : c.isUpper <;> simp [hc, hu]

theorem uppercase_lowercase (h : Ascii cs) (hl : ∀ c ∈ cs, c.isLower = false) :
    uppercase (lowercase cs) = cs := by
  rw [uppercase_ascii h.lowercase, lowercase_ascii h, List.map_map]
  refine (List.map_congr_left fun c hc => ?_).trans (List.map_id cs)
  rw [Function.comp_apply, toUpper_toLower, toUpper_of_isLower_eq_false (hl c hc), id]

/-- Only a single letter may look like a capitalized word when all of it is capital. -/
theorem eq_nil_of_wordCase_ne_upper (h : Small (c :: w))
    (hk : wordCase (WordCase.upper.apply (c :: w)) ≠ .upper) : w = [] := by
  rw [ne_eq, wordCase_eq_upper_iff (ascii_apply h), length_apply h] at hk
  by_contra hw
  refine hk ⟨by simpa [List.length_pos_iff] using hw, fun d hd => ?_⟩
  rw [apply_upper h] at hd
  obtain ⟨b, hb, rfl⟩ := List.mem_map.mp hd
  exact isLower_toUpper b

theorem toUpper_of_wordCase_eq_small (h : Small (c :: w))
    (hk : wordCase (c.toUpper :: w) = .small) : c.toUpper = c := by
  obtain ⟨⟨hc, hu⟩, hw⟩ := small_cons.mp h
  have hn := (wordCase_eq_capital_iff (ascii_cons.mpr ⟨isAscii_toUpper hc, hw.ascii⟩)).not.mp
    (by simp [hk])
  rw [hk] at hn
  exact toUpper_of_isLower_eq_false (by simpa [isAlpha_eq, hu] using hn)

theorem apply_wordCase (h : Small w) : (wordCase (k.apply w)).apply w = k.apply w := by
  have ha := ascii_apply (k := k) h
  cases w with
  | nil => cases k <;> rfl
  | cons c rest =>
    obtain ⟨⟨hc, hu⟩, -⟩ := small_cons.mp h
    -- A single capital counts as capitalized, and a first character without case as small.
    cases hk : wordCase (k.apply (c :: rest)) with
    | upper =>
      have hupper := uppercase_lowercase ha ((wordCase_eq_upper_iff ha).mp hk).2
      rwa [lowercase_apply h] at hupper
    | capital =>
      cases k with
      | upper =>
        obtain rfl := eq_nil_of_wordCase_ne_upper h (by simp [hk])
        rw [apply_upper h, apply_capital_cons hc]
        rfl
      | capital => rfl
      | small =>
        have hcapital := ((wordCase_eq_capital_iff ha).mp hk).2
        rw [hu] at hcapital
        cases hcapital
    | small =>
      cases k with
      | upper =>
        obtain rfl := eq_nil_of_wordCase_ne_upper h (by simp [hk])
        rw [apply_upper h] at hk ⊢
        have hcu := toUpper_of_wordCase_eq_small h hk
        simp [WordCase.apply, hcu]
      | capital =>
        rw [apply_capital_cons hc] at hk ⊢
        rw [toUpper_of_wordCase_eq_small h hk]
        rfl
      | small => rfl

theorem head?_apply (h : Small (c :: w)) :
    (k.apply (c :: w)).head? = some (if k = .small then c else c.toUpper) := by
  obtain ⟨⟨hc, -⟩, -⟩ := small_cons.mp h
  cases k with
  | upper => simp [apply_upper h]
  | capital => simp [apply_capital_cons hc]
  | small => rfl

theorem getLast?_apply {d : Char} (h : Small (d :: (w ++ [c]))) :
    (k.apply (d :: (w ++ [c]))).getLast? = some (if k = .upper then c.toUpper else c) := by
  obtain ⟨⟨hd, -⟩, -⟩ := small_cons.mp h
  cases k with
  | upper =>
    rw [apply_upper h]
    simp [List.getLast?_cons]
  | capital =>
    rw [apply_capital_cons hd]
    simp [List.getLast?_cons]
  | small => simp [WordCase.apply, List.getLast?_cons]

/-- The last letter of a word, and the first letter of a capitalized one, show its case. -/
theorem apply_inj_case {d : Char} (h : Small (d :: (w ++ [c]))) (hc : c.isLower = true)
    (hk : k = .capital → d.isLower = true) (hl : l = .capital → d.isLower = true)
    (heq : k.apply (d :: (w ++ [c])) = l.apply (d :: (w ++ [c]))) : k = l := by
  have hlast := congrArg List.getLast? heq
  have hhead := congrArg List.head? heq
  rw [getLast?_apply h, getLast?_apply h, Option.some.injEq] at hlast
  rw [head?_apply h, head?_apply h, Option.some.injEq] at hhead
  have hne : ∀ b, Small [b] → b.isLower = true → b.toUpper ≠ b := by
    intro b hb hlow heq
    have hno := isLower_toUpper b
    rw [heq, hlow] at hno
    cases hno
  have hc' := hne c (fun b hb => h b (by simp_all)) hc
  have hd' := hne d fun b hb => h b (by simp_all)
  cases k with
  | upper =>
    cases l with
    | upper => rfl
    | capital | small => exact absurd hlast hc'
  | capital =>
    cases l with
    | upper => exact absurd hlast.symm hc'
    | capital => rfl
    | small => exact absurd hhead (hd' (hk rfl))
  | small =>
    cases l with
    | upper => exact absurd hlast.symm hc'
    | capital => exact absurd hhead.symm (hd' (hl rfl))
    | small => rfl

/-! ## Capitals of an inflected word -/

theorem capitalsFirst_cons_of_forall (h : ∀ d ∈ cs, isUppercase d = false) :
    CapitalsFirst (c :: cs) := by
  induction cs generalizing c with
  | nil => exact .singleton c
  | cons d rest ih =>
    refine List.isChain_cons_cons.mpr ⟨fun hd => ?_, ih fun b hb => h b (by simp [hb])⟩
    rw [h d (by simp)] at hd
    cases hd

theorem capitalsFirst_of_forall (h : ∀ c ∈ cs, isUppercase c = true) : CapitalsFirst cs := by
  induction cs with
  | nil => exact .nil
  | cons c rest ih =>
    cases rest with
    | nil => exact .singleton c
    | cons d rest =>
      exact List.isChain_cons_cons.mpr ⟨fun _ => h c (by simp), ih fun b hb => h b (by simp [hb])⟩

/-- A text that has its capitals first and ends in one is all capitals. -/
theorem CapitalsFirst.forall_isUppercase (h : CapitalsFirst cs)
    (hl : ∃ c ∈ cs.getLast?, isUppercase c = true) : ∀ c ∈ cs, isUppercase c = true := by
  induction cs with
  | nil => simp
  | cons c rest ih =>
    cases rest with
    | nil => simpa using hl
    | cons d rest =>
      obtain ⟨hcd, hrest⟩ := List.isChain_cons_cons.mp h
      have hall := ih hrest (by simpa [List.getLast?_cons_cons] using hl)
      intro b hb
      rcases List.mem_cons.mp hb with rfl | hb
      · exact hcd (hall d (by simp))
      · exact hall b hb

theorem capitalsFirst_apply (h : Small w) (hk : k = .upper → CapitalsFirst (uppercase w)) :
    CapitalsFirst (k.apply w) := by
  have hno : ∀ w, Small w → ∀ c ∈ w, isUppercase c = false :=
    fun w hw c hc => (isUppercase_ascii (hw c hc).1).trans (hw c hc).2
  cases k with
  | upper => exact hk rfl
  | capital =>
    cases w with
    | nil => exact .nil
    | cons c rest =>
      obtain ⟨⟨hc, -⟩, hr⟩ := small_cons.mp h
      rw [apply_capital_cons hc]
      exact capitalsFirst_cons_of_forall (hno rest hr)
  | small =>
    cases w with
    | nil => exact .nil
    | cons c rest => exact capitalsFirst_cons_of_forall fun d hd => hno _ h d (by simp [hd])

theorem isUppercase_uppercase {d : Char} (h : Small w) (hd : d ∈ uppercase w) :
    ∃ c ∈ w, isUppercase d = c.isLower := by
  rw [uppercase_ascii h.ascii] at hd
  obtain ⟨c, hc, rfl⟩ := List.mem_map.mp hd
  exact ⟨c, hc, isUppercase_toUpper (h c hc).1 (h c hc).2⟩

/-- A word that has its capitals first and ends in a letter is all letters. -/
theorem letters_of_capitalsFirst_uppercase (h : Small w) (hc : CapitalsFirst (uppercase w))
    (hl : ∃ c ∈ w.getLast?, c.isLower = true) : Letters w := by
  have hupper : ∀ c ∈ w, isUppercase c.toUpper = c.isLower :=
    fun c hcw => isUppercase_toUpper (h c hcw).1 (h c hcw).2
  have hall := hc.forall_isUppercase (by
    obtain ⟨c, hlast, hlow⟩ := hl
    refine ⟨c.toUpper, by simp [uppercase_ascii h.ascii, Option.mem_def.mp hlast], ?_⟩
    rw [hupper c (List.mem_of_mem_getLast? hlast), hlow])
  intro c hcw
  rw [← hupper c hcw]
  refine hall _ ?_
  rw [uppercase_ascii h.ascii]
  exact List.mem_map_of_mem hcw

/-- Respelling a word of letters gives a word of letters. -/
theorem Respells.capitalsFirst_uppercase (hr : Respells w v) (h : Small w)
    (hc : CapitalsFirst (uppercase w)) (hl : ∃ c ∈ w.getLast?, c.isLower = true) :
    CapitalsFirst (uppercase v) := by
  have hv : Letters v :=
    hr.forall_mem (fun _ h => h) (letters_of_capitalsFirst_uppercase h hc hl)
  refine capitalsFirst_of_forall fun d hd => ?_
  obtain ⟨c, hcv, hu⟩ := isUppercase_uppercase (hr.small h) hd
  rw [hu, hv c hcv]

end EntityGen.Naming
