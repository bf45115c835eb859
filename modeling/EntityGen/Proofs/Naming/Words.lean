import EntityGen.Proofs.Text.Ascii
import EntityGen.Naming.Words

/-! # Cutting an identifier into words

The words of a text are not empty and hold its letters and digits in order. A text that is cut
nowhere is found again as a word between separators, and before a capital letter that follows a
small letter or a digit.
-/

namespace EntityGen.Naming

open Text

variable {word cs : List Char}

theorem flatten_wordsFrom (word cs : List Char) :
    (wordsFrom word cs).flatten = word.reverse ++ cs.filter isAlphanumeric := by
  fun_induction wordsFrom word cs <;> simp_all

theorem ne_nil_of_mem_wordsFrom (word cs : List Char) : ∀ w ∈ wordsFrom word cs, w ≠ [] := by
  fun_induction wordsFrom word cs <;> simp_all

theorem flatten_words (cs : List Char) : (words cs).flatten = cs.filter isAlphanumeric :=
  flatten_wordsFrom [] cs

theorem ne_nil_of_mem_words {w : List Char} (h : w ∈ words cs) : w ≠ [] :=
  ne_nil_of_mem_wordsFrom [] cs w h

theorem words_eq_nil_iff : words cs = [] ↔ ∀ c ∈ cs, isAlphanumeric c = false := by
  have hf : cs.filter isAlphanumeric = [] ↔ ∀ c ∈ cs, isAlphanumeric c = false := by simp
  rw [← hf, ← flatten_words]
  constructor
  · intro h
    rw [h]
    rfl
  · intro h
    rw [List.flatten_eq_nil_iff] at h
    exact List.eq_nil_iff_forall_not_mem.mpr fun w hw => ne_nil_of_mem_words hw (h w hw)

/-- The characters of words are letters and digits of the text. -/
theorem mem_of_mem_words {w : List Char} (h : w ∈ words cs) {c : Char} (hc : c ∈ w) :
    c ∈ cs ∧ isAlphanumeric c = true := by
  have hm : c ∈ (words cs).flatten := List.mem_flatten.mpr ⟨w, h, hc⟩
  rw [flatten_words] at hm
  exact List.mem_filter.mp hm

theorem capitalizeWord_ascii {c : Char} {rest : List Char} (h : Ascii (c :: rest)) :
    capitalizeWord (c :: rest) = c.toUpper :: rest.map Char.toLower := by
  obtain ⟨hc, hr⟩ := ascii_cons.mp h
  simp [capitalizeWord, upper_ascii hc, lowercase_ascii hr]

/-- A text without letters and digits gives no token. -/
theorem humanize_eq_empty {s : String} (ha : Ascii s.toList)
    (h : ∀ c ∈ s.toList, c.isAlphanum = false) : humanize s = "" := by
  have hw : words s.toList = [] :=
    words_eq_nil_iff.mpr fun c hc => (isAlphanumeric_ascii (ha c hc)).trans (h c hc)
  simp [humanize, humanizeChars, hw, guardDigit]

theorem capitalizeWord_ne_nil {w : List Char} (hn : w ≠ []) (h : Ascii w) :
    capitalizeWord w ≠ [] := by
  cases w with
  | nil => exact absurd rfl hn
  | cons c rest => simp [capitalizeWord_ascii h]

/-- The case of a word does not count when it is capitalized. -/
theorem capitalizeWord_map_toLower {w : List Char} (h : Ascii w) :
    capitalizeWord (w.map Char.toLower) = capitalizeWord w := by
  cases w with
  | nil => rfl
  | cons c rest =>
    have hl := ascii_map_toLower h
    rw [List.map_cons] at hl ⊢
    rw [capitalizeWord_ascii hl, capitalizeWord_ascii h, toUpper_toLower,
      List.map_map]
    exact congrArg _ (List.map_congr_left fun d _ => toLower_toLower d)

/-! ## Texts that are cut nowhere -/

section Unbroken

variable {c separator : Char} {w taken rest : List Char} {ws : List (List Char)}

/-- The text is one word, and its end can be the end of this word before all but small letters. -/
structure Unbroken (w : List Char) : Prop where
  ne_nil : w ≠ []
  wordsFrom_append : ∀ rest : List Char, (∀ c ∈ rest.head?, isLowercase c = false) →
    wordsFrom [] (w ++ rest) = wordsFrom w.reverse rest

/-- Small letters and digits continue every word. -/
theorem wordsFrom_append_small (h : ∀ c ∈ w, c.isAlphanum = true ∧ c.isUpper = false)
    (taken rest : List Char) :
    wordsFrom taken (w ++ rest) = wordsFrom (w.reverse ++ taken) rest := by
  induction w generalizing taken with
  | nil => rfl
  | cons c w ih =>
    obtain ⟨⟨hc, hu⟩, hw⟩ := List.forall_mem_cons.mp h
    have hn : isAlphanumeric c = true := (isAlphanumeric_ascii (isAscii_of_isAlphanum hc)).trans hc
    have hs : isUppercase c = false := (isUppercase_ascii (isAscii_of_isAlphanum hc)).trans hu
    have hstep : wordsFrom taken (c :: (w ++ rest)) = wordsFrom (c :: taken) (w ++ rest) := by
      cases taken <;> simp [wordsFrom, hn, startsWord, hs]
    rw [List.cons_append, hstep, ih hw, List.reverse_cons, List.append_assoc,
      List.singleton_append]

/-- A row of capitals continues a row of capitals, unless its last one starts a word. -/
theorem wordsFrom_append_capitals (h : ∀ c ∈ w, c.isUpper = true)
    (ht : ∀ c ∈ taken.head?, c.isUpper = true)
    (hr : ∀ c ∈ rest.head?, isLowercase c = false) :
    wordsFrom taken (w ++ rest) = wordsFrom (w.reverse ++ taken) rest := by
  induction w generalizing taken with
  | nil => rfl
  | cons c w ih =>
    obtain ⟨hc, hw⟩ := List.forall_mem_cons.mp h
    have hn := isAlphanumeric_of_isUpper hc
    have hnext : (w ++ rest).head?.any isLowercase = false := by
      rw [Option.any_eq_false]
      intro d hd
      cases w with
      | nil => exact hr d hd
      | cons b w =>
        obtain rfl := Option.some.inj hd
        exact isLowercase_of_isUpper (hw _ List.mem_cons_self)
    have hstep : wordsFrom taken (c :: (w ++ rest)) = wordsFrom (c :: taken) (w ++ rest) := by
      cases taken with
      | nil => simp [wordsFrom, hn]
      | cons b taken =>
        have hb : b.isUpper = true := ht b rfl
        have hd : b.isDigit = false := isDigit_of_isAlpha (isAlpha_of_isUpper hb)
        have hstart : startsWord b c (w ++ rest).head? = false := by
          simp only [startsWord, isLowercase_of_isUpper hb, hd, hnext, Bool.and_false,
            Bool.or_false]
        simp only [wordsFrom, hn, hstart, if_true, Bool.false_eq_true, if_false]
    rw [List.cons_append, hstep, ih hw (by simpa using hc), List.reverse_cons, List.append_assoc,
      List.singleton_append]

/-- Capitals with small letters and digits behind are one word, unless a small letter follows
several capitals. -/
theorem unbroken_append {u v : List Char} (hn : u ++ v ≠ []) (hu : ∀ c ∈ u, c.isUpper = true)
    (hv : ∀ c ∈ v, c.isAlphanum = true ∧ c.isUpper = false)
    (hs : u.length ≤ 1 ∨ ∀ c ∈ v.head?, isLowercase c = false) : Unbroken (u ++ v) := by
  refine ⟨hn, fun rest hr => ?_⟩
  have hcapitals : wordsFrom [] (u ++ (v ++ rest)) = wordsFrom u.reverse (v ++ rest) := by
    cases u with
    | nil => rfl
    | cons c u =>
      obtain ⟨hc, hu⟩ := List.forall_mem_cons.mp hu
      have hstep : wordsFrom [] (c :: (u ++ (v ++ rest))) = wordsFrom [c] (u ++ (v ++ rest)) := by
        simp [wordsFrom, isAlphanumeric_of_isUpper hc]
      rw [List.cons_append, hstep, List.reverse_cons]
      rcases hs with hone | hlow
      · obtain rfl : u = [] := by simpa using hone
        rfl
      · refine wordsFrom_append_capitals hu (by simpa using hc) fun d hd => ?_
        cases v with
        | nil => exact hr d hd
        | cons b v => exact hlow d hd
  rw [List.append_assoc, hcapitals, wordsFrom_append_small hv, List.reverse_append]

theorem Unbroken.words_eq (h : Unbroken w) : words w = [w] := by
  have hw := h.wordsFrom_append [] (by simp)
  rw [List.append_nil] at hw
  rw [words, hw]
  simp [wordsFrom, h.ne_nil]

theorem Unbroken.words_append_separator (h : Unbroken w) (hn : isAlphanumeric separator = false)
    (hl : isLowercase separator = false) (cs : List Char) :
    words (w ++ separator :: cs) = w :: words cs := by
  rw [words, h.wordsFrom_append _ (by simpa using hl)]
  simp [wordsFrom, hn, h.ne_nil, words]

/-- Words are cut where a separator joins them. -/
theorem words_intercalate (hn : isAlphanumeric separator = false)
    (hl : isLowercase separator = false) (h : ∀ w ∈ ws, Unbroken w) :
    words ([separator].intercalate ws) = ws := by
  induction ws with
  | nil => rfl
  | cons w ws ih =>
    obtain ⟨hw, hws⟩ := List.forall_mem_cons.mp h
    cases ws with
    | nil => simpa using hw.words_eq
    | cons v ws =>
      rw [List.intercalate_cons_cons, List.append_assoc, List.singleton_append,
        hw.words_append_separator hn hl, ih hws]

/-- A word starts at a capital behind a small letter or a digit. -/
theorem Unbroken.words_append_capital (h : Unbroken w)
    (hl : ∃ d ∈ w.getLast?, d.isLower = true ∨ d.isDigit = true) (hc : c.isUpper = true)
    (cs : List Char) : words (w ++ c :: cs) = w :: words (c :: cs) := by
  obtain ⟨d, hd, hdl⟩ := hl
  obtain ⟨before, rfl⟩ := List.getLast?_eq_some_iff.mp hd
  have hn := isAlphanumeric_of_isUpper hc
  have hstart : startsWord d c cs.head? = true := by
    have hu : isUppercase c = true := (isUppercase_ascii (isAscii_of_isUpper hc)).trans hc
    rcases hdl with hdl | hdl
    · simp [startsWord, hu, isLowercase_of_isLower hdl]
    · simp [startsWord, hu, hdl]
  rw [words, h.wordsFrom_append _ (by simpa using isLowercase_of_isUpper hc)]
  simp [wordsFrom, words, hn, hstart]

/-- Words that are not in capitals are cut where the next one starts with a capital. -/
theorem words_flatten (h : ∀ w ∈ ws, Unbroken w)
    (hl : ∀ w ∈ ws, ∃ d ∈ w.getLast?, d.isLower = true ∨ d.isDigit = true)
    (hc : ∀ w ∈ ws.tail, ∃ c ∈ w.head?, c.isUpper = true) : words ws.flatten = ws := by
  induction ws with
  | nil => rfl
  | cons w ws ih =>
    obtain ⟨hw, hws⟩ := List.forall_mem_cons.mp h
    obtain ⟨hlw, hlws⟩ := List.forall_mem_cons.mp hl
    have hrest := ih hws hlws fun v hv => hc v (List.mem_of_mem_tail hv)
    cases ws with
    | nil => simpa using hw.words_eq
    | cons v ws =>
      obtain ⟨c, hcv, hu⟩ := hc v List.mem_cons_self
      obtain ⟨tail, rfl⟩ := List.head?_eq_some_iff.mp hcv
      rw [List.flatten_cons, List.cons_append] at hrest
      rw [List.flatten_cons, List.flatten_cons, List.cons_append,
        hw.words_append_capital hlw hu, hrest]

end Unbroken

end EntityGen.Naming
