import EntityGen.Proofs.Naming.Words

/-! # Caseless characters in names

No case mapping makes a line feed or an underscore of another character. A humanized name therefore
stands on one line, whatever the text that it is made from, and its words hold no underscore.
-/

namespace EntityGen

namespace Text

variable {c d : Char} {cs : List Char} {long : List (Nat × List Nat)} {shifts : List CaseShift}

/-- The tables map no code point to that of `d`. -/
def Unreached (d : Char) (long : List (Nat × List Nat)) (shifts : List CaseShift) : Prop :=
  (∀ m ∈ long, d.toNat ∉ m.2) ∧
    ∀ s ∈ shifts, d.toNat < s.codes.first + s.shift ∨ s.codes.last + s.shift < d.toNat

instance : Decidable (Unreached d long shifts) :=
  inferInstanceAs (Decidable (_ ∧ _))

/-- An ASCII character that is no letter or digit, and that no case mapping makes of another one. -/
structure Caseless (d : Char) : Prop where
  ascii : isAscii d = true
  not_alphanum : d.isAlphanum = false
  /-- Code points that are no characters count as zero. -/
  ne_zero : d.toNat ≠ 0
  unreached_upper : Unreached d longUppercase uppercaseShifts
  unreached_lower : Unreached d longLowercase lowercaseShifts

theorem caseless_lineFeed : Caseless '\n' :=
  ⟨by decide, by decide, by decide, by decide +kernel, by decide +kernel⟩

theorem caseless_underscore : Caseless '_' :=
  ⟨by decide, by decide, by decide, by decide +kernel, by decide +kernel⟩

theorem eq_toNat_of_ofNat {n : Nat} (hd : d.toNat ≠ 0) (h : Char.ofNat n = d) : n = d.toNat := by
  by_cases hn : n.isValidChar
  · rw [Char.ofNat, dif_pos hn] at h
    exact congrArg Char.toNat h
  · rw [Char.ofNat, dif_neg hn] at h
    subst h
    exact absurd rfl hd

theorem Unreached.not_mem_mapCase (h : Unreached d long shifts) (hd : d.toNat ≠ 0)
    (hc : c ≠ d) : d ∉ mapCase long shifts c := by
  unfold mapCase
  split
  · next codes hf =>
    obtain ⟨before, after, rfl, -⟩ := List.lookup_eq_some_iff.mp hf
    intro hm
    obtain ⟨n, hn, he⟩ := List.mem_map.mp hm
    obtain rfl := eq_toNat_of_ofNat hd he
    exact h.1 (c.toNat, codes) (by simp) hn
  split
  · next s hf =>
    have hcontains := List.find?_some hf
    simp only [CodeRange.contains, Bool.and_eq_true, decide_eq_true_eq] at hcontains
    have hshift := h.2 s (List.mem_of_find?_eq_some hf)
    intro hm
    have hcode := eq_toNat_of_ofNat hd (List.mem_singleton.mp hm).symm
    omega
  · exact fun hm => hc (List.mem_singleton.mp hm).symm

namespace Caseless

variable (h : Caseless d)
include h

theorem not_mem_upper (hc : c ≠ d) : d ∉ upper c := by
  unfold upper
  split
  · rw [List.mem_singleton]
    intro he
    have ha : c.isAlphanum = false := by rw [← isAlphanum_toUpper, ← he, h.not_alphanum]
    rw [isAlphanum_eq, isAlpha_eq, Bool.or_eq_false_iff, Bool.or_eq_false_iff] at ha
    exact hc (he.trans (toUpper_of_isLower_eq_false ha.1.2)).symm
  · exact h.unreached_upper.not_mem_mapCase h.ne_zero hc

theorem not_mem_lower (hc : c ≠ d) : d ∉ lower c := by
  unfold lower
  split
  · rw [List.mem_singleton]
    intro he
    have ha : c.isAlphanum = false := by rw [← isAlphanum_toLower, ← he, h.not_alphanum]
    rw [isAlphanum_eq, isAlpha_eq, Bool.or_eq_false_iff, Bool.or_eq_false_iff] at ha
    exact hc (he.trans (toLower_of_isUpper_eq_false ha.1.1)).symm
  · exact h.unreached_lower.not_mem_mapCase h.ne_zero hc

theorem not_mem_lowercaseAfter (hc : d ∉ cs) (before : List Char) :
    d ∉ lowercaseAfter before cs := by
  induction cs generalizing before with
  | nil => exact List.not_mem_nil
  | cons c rest ih =>
    rw [List.mem_cons, not_or] at hc
    rw [lowercaseAfter, List.mem_append, not_or]
    refine ⟨?_, ih hc.2 _⟩
    split
    · have hfinal : d ≠ 'ς' := ne_of_apply_ne isAscii (by rw [h.ascii]; decide)
      have hsigma : d ≠ 'σ' := ne_of_apply_ne isAscii (by rw [h.ascii]; decide)
      split
      · simpa using hfinal
      · simpa using hsigma
    · exact h.not_mem_lower (Ne.symm hc.1)

theorem not_mem_capitalizeWord {w : List Char} (hw : d ∉ w) : d ∉ Naming.capitalizeWord w := by
  cases w with
  | nil => exact List.not_mem_nil
  | cons c rest =>
    rw [List.mem_cons, not_or] at hw
    rw [Naming.capitalizeWord, List.mem_append, not_or]
    exact ⟨h.not_mem_upper (Ne.symm hw.1), h.not_mem_lowercaseAfter hw.2 []⟩

/-- The capitalized words of a text hold no caseless character. -/
theorem not_mem_flatMap_words (cs : List Char) :
    d ∉ (Naming.words cs).flatMap Naming.capitalizeWord := by
  intro hm
  obtain ⟨w, hw, hd⟩ := List.mem_flatMap.mp hm
  refine h.not_mem_capitalizeWord (fun hn => ?_) hd
  have ha := (Naming.mem_of_mem_words hw hn).2
  rw [isAlphanumeric_ascii h.ascii, h.not_alphanum] at ha
  cases ha

end Caseless

end Text

namespace Naming

open Text

theorem lineFeed_not_mem_humanize (s : String) : '\n' ∉ (humanize s).toList := by
  have hletters := caseless_lineFeed.not_mem_flatMap_words s.toList
  rw [humanize, String.toList_ofList, humanizeChars, guardDigit]
  split
  · simpa using hletters
  · exact hletters

end Naming

end EntityGen
