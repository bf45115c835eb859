import EntityGen.Text.Alphanumeric
import EntityGen.Text.LetterCase
import EntityGen.Text.Lowercase

/-! # ASCII texts

On ASCII the case of a text is the case of its characters one by one, and changing it makes no digit
or letter of what is none.
-/

namespace EntityGen.Text

def Ascii (cs : List Char) : Prop :=
  ∀ c ∈ cs, isAscii c = true

instance : DecidablePred Ascii :=
  fun cs => List.decidableBAll _ cs

variable {c : Char} {cs ds : List Char}

theorem Ascii.nil : Ascii [] := by
  simp [Ascii]

theorem ascii_cons : Ascii (c :: cs) ↔ isAscii c = true ∧ Ascii cs := by
  simp [Ascii]

theorem ascii_append : Ascii (cs ++ ds) ↔ Ascii cs ∧ Ascii ds := by
  simp [Ascii, or_imp, forall_and]

/-! ## Letters and digits

The ASCII letters of a case and the digits are intervals of code points. A change of case moves a
letter by 32 and keeps every other character. Batteries has some of these lemmas, in a module that
only Mathlib as a whole imports.
-/

@[grind =]
theorem isUpper_iff : c.isUpper = true ↔ 65 ≤ c.toNat ∧ c.toNat ≤ 90 := by
  change decide ('A'.val ≤ c.val ∧ c.val ≤ 'Z'.val) = true ↔ _
  rw [decide_eq_true_eq, UInt32.le_iff_toNat_le, UInt32.le_iff_toNat_le]
  rfl

@[grind =]
theorem isLower_iff : c.isLower = true ↔ 97 ≤ c.toNat ∧ c.toNat ≤ 122 := by
  change (decide ('a'.val ≤ c.val) && decide (c.val ≤ 'z'.val)) = true ↔ _
  rw [Bool.and_eq_true, decide_eq_true_eq, decide_eq_true_eq, UInt32.le_iff_toNat_le,
    UInt32.le_iff_toNat_le]
  rfl

@[grind =]
theorem isDigit_iff : c.isDigit = true ↔ 48 ≤ c.toNat ∧ c.toNat ≤ 57 :=
  Char.isDigit_iff_toNat

@[grind =]
theorem isAlpha_eq (c : Char) : c.isAlpha = (c.isUpper || c.isLower) :=
  rfl

@[grind =]
theorem isAlphanum_eq (c : Char) : c.isAlphanum = (c.isAlpha || c.isDigit) :=
  rfl

@[grind =]
theorem toNat_toLower (c : Char) :
    c.toLower.toNat = if c.isUpper then c.toNat + 32 else c.toNat := by
  by_cases h : 'A'.val ≤ c.val ∧ c.val ≤ 'Z'.val
  · have hu : c.isUpper = true := decide_eq_true h
    have hl : c.toLower = ⟨c.val + 32, _⟩ := dif_pos h
    have hn := isUpper_iff.mp hu
    rw [if_pos hu, hl, ← Char.toNat_val, UInt32.toNat_add, Char.toNat_val]
    exact Nat.mod_eq_of_lt (by simp; omega)
  · have hu : ¬ c.isUpper = true := fun hu => h (of_decide_eq_true hu)
    have hl : c.toLower = c := dif_neg h
    rw [if_neg hu, hl]

@[grind =]
theorem toNat_toUpper (c : Char) :
    c.toUpper.toNat = if c.isLower then c.toNat - 32 else c.toNat := by
  by_cases h : 'a'.val ≤ c.val ∧ c.val ≤ 'z'.val
  · have hl : c.isLower = true :=
      (Bool.and_eq_true _ _).mpr ⟨decide_eq_true h.1, decide_eq_true h.2⟩
    -- The difference of the cases is added modulo 2 ^ 32.
    have hu : c.toUpper = ⟨c.val + 4294967264, _⟩ := dif_pos h
    have hd : (4294967264 : UInt32).toNat = 4294967264 := rfl
    have hn := isLower_iff.mp hl
    rw [if_pos hl, hu, ← Char.toNat_val, UInt32.toNat_add, Char.toNat_val, hd]
    omega
  · have hl : ¬ c.isLower = true := fun hl => h <|
      ((Bool.and_eq_true _ _).mp hl).imp of_decide_eq_true of_decide_eq_true
    have hu : c.toUpper = c := dif_neg h
    rw [if_neg hl, hu]

theorem isAlpha_of_isUpper (h : c.isUpper = true) : c.isAlpha = true := by
  grind

theorem isAlpha_of_isLower (h : c.isLower = true) : c.isAlpha = true := by
  grind

theorem isAlphanum_of_isUpper (h : c.isUpper = true) : c.isAlphanum = true := by
  grind

theorem isAlphanum_of_isLower (h : c.isLower = true) : c.isAlphanum = true := by
  grind

theorem isAscii_of_isAlphanum (h : c.isAlphanum = true) : isAscii c = true := by
  grind [isAscii]

theorem isAscii_of_isUpper (h : c.isUpper = true) : isAscii c = true :=
  isAscii_of_isAlphanum (isAlphanum_of_isUpper h)

theorem isAscii_of_isLower (h : c.isLower = true) : isAscii c = true :=
  isAscii_of_isAlphanum (isAlphanum_of_isLower h)

theorem isAlphanumeric_of_isUpper (h : c.isUpper = true) : isAlphanumeric c = true :=
  (isAlphanumeric_ascii (isAscii_of_isUpper h)).trans (isAlphanum_of_isUpper h)

theorem isUpper_eq_false_of_isLower (h : c.isLower = true) : c.isUpper = false := by
  grind

theorem isLowercase_of_isUpper (h : c.isUpper = true) : isLowercase c = false := by
  rw [isLowercase_ascii (isAscii_of_isUpper h)]
  grind

theorem isLowercase_of_isLower (h : c.isLower = true) : isLowercase c = true :=
  (isLowercase_ascii (isAscii_of_isLower h)).trans h

theorem isDigit_of_isAlpha (h : c.isAlpha = true) : c.isDigit = false := by
  grind

theorem isAlpha_of_isDigit (h : c.isDigit = true) : c.isAlpha = false := by
  grind

theorem toLower_of_isUpper_eq_false (h : c.isUpper = false) : c.toLower = c := by
  rw [← Char.toNat_inj]
  grind

theorem toUpper_of_isLower_eq_false (h : c.isLower = false) : c.toUpper = c := by
  rw [← Char.toNat_inj]
  grind

@[simp]
theorem isUpper_toLower (c : Char) : c.toLower.isUpper = false := by
  grind

@[simp]
theorem isLower_toUpper (c : Char) : c.toUpper.isLower = false := by
  grind

@[simp]
theorem isLower_toLower (c : Char) : c.toLower.isLower = c.isAlpha := by
  grind

@[simp]
theorem isUpper_toUpper (c : Char) : c.toUpper.isUpper = c.isAlpha := by
  grind

theorem isAlpha_toLower (c : Char) : c.toLower.isAlpha = c.isAlpha := by
  grind

theorem isDigit_toLower (c : Char) : c.toLower.isDigit = c.isDigit := by
  grind

theorem isDigit_toUpper (c : Char) : c.toUpper.isDigit = c.isDigit := by
  grind

theorem isAlphanum_toLower (c : Char) : c.toLower.isAlphanum = c.isAlphanum := by
  grind

theorem isAlphanum_toUpper (c : Char) : c.toUpper.isAlphanum = c.isAlphanum := by
  grind

theorem isAscii_toLower (h : isAscii c = true) : isAscii c.toLower = true := by
  grind [isAscii]

theorem isAscii_toUpper (h : isAscii c = true) : isAscii c.toUpper = true := by
  grind [isAscii]

theorem toLower_toLower (c : Char) : c.toLower.toLower = c.toLower :=
  toLower_of_isUpper_eq_false (isUpper_toLower c)

theorem toLower_toUpper (c : Char) : c.toUpper.toLower = c.toLower := by
  rw [← Char.toNat_inj]
  grind

theorem toUpper_toLower (c : Char) : c.toLower.toUpper = c.toUpper := by
  rw [← Char.toNat_inj]
  grind

/-! ## The case of a text -/

theorem uppercase_ascii (h : Ascii cs) : uppercase cs = cs.map Char.toUpper := by
  induction cs with
  | nil => rfl
  | cons c cs ih =>
    rw [ascii_cons] at h
    have hu : uppercase (c :: cs) = upper c ++ uppercase cs := by simp [uppercase]
    rw [hu, upper_ascii h.1, ih h.2]
    rfl

theorem ascii_map_toLower (h : Ascii cs) : Ascii (cs.map Char.toLower) := by
  intro c hc
  obtain ⟨d, hd, rfl⟩ := List.mem_map.mp hc
  exact isAscii_toLower (h d hd)

theorem ascii_of_map_toLower (h : Ascii (cs.map Char.toLower)) : Ascii cs := by
  intro c hc
  cases hu : c.isUpper with
  | true => exact isAscii_of_isUpper hu
  | false =>
    have hl := h _ (List.mem_map_of_mem hc)
    rwa [toLower_of_isUpper_eq_false hu] at hl

theorem Ascii.lowercase (h : Ascii cs) : Ascii (lowercase cs) := by
  rw [lowercase_ascii h]
  exact ascii_map_toLower h

theorem Ascii.uppercase (h : Ascii cs) : Ascii (uppercase cs) := by
  rw [uppercase_ascii h]
  intro c hc
  obtain ⟨d, hd, rfl⟩ := List.mem_map.mp hc
  exact isAscii_toUpper (h d hd)

end EntityGen.Text
