import EntityGen.Proofs.Text.Ascii
import Mathlib.Data.List.Forall2
import Mathlib.Data.List.TakeWhile

/-! # Final sigmas

What stands around a character matters for a capital sigma only. A text is lowered in the same way
on its own and at the end of a longer one, unless the cut parts a final sigma from its word.
-/

namespace EntityGen.Text

variable {c d : Char} {cs ds before between : List Char}

/-! ## What stands before a text -/

theorem reachesCased_append_of_ignorable (h : ∀ c ∈ between, isCaseIgnorable c = true)
    (before : List Char) : reachesCased (between ++ before) = reachesCased before := by
  rw [reachesCased, List.dropWhile_append_of_pos h]
  rfl

theorem reachesCased_of_ignorable (h : ∀ c ∈ between, isCaseIgnorable c = true) :
    reachesCased between = false := by
  rw [reachesCased, List.dropWhile_eq_nil_iff.mpr h]
  rfl

theorem reachesCased_append_of_not_ignorable (hc : c ∈ between) (h : isCaseIgnorable c = false)
    (before : List Char) : reachesCased (between ++ before) = reachesCased between := by
  have hne : between.dropWhile isCaseIgnorable ≠ [] := by
    rw [Ne, List.dropWhile_eq_nil_iff]
    intro hall
    rw [hall c hc] at h
    cases h
  rw [reachesCased, reachesCased, List.dropWhile_append, if_neg (by simpa using hne),
    List.head?_append_of_ne_nil _ hne]

theorem exists_lowercaseAfter_append (before cs ds : List Char) :
    ∃ front, lowercaseAfter before (cs ++ ds) =
      front ++ lowercaseAfter (cs.reverse ++ before) ds := by
  induction cs generalizing before with
  | nil => exact ⟨[], rfl⟩
  | cons c cs ih =>
    obtain ⟨front, hf⟩ := ih (c :: before)
    rw [List.cons_append, lowercaseAfter, hf, List.reverse_cons, List.append_assoc cs.reverse]
    exact ⟨_, (List.append_assoc _ _ _).symm⟩

theorem length_lowercaseAfter (before between cs : List Char) :
    (lowercaseAfter before cs).length = (lowercaseAfter between cs).length := by
  induction cs generalizing before between with
  | nil => rfl
  | cons c cs ih =>
    rw [lowercaseAfter, lowercaseAfter, List.length_append, List.length_append,
      ih (c :: before) (c :: between)]
    split <;> rfl

/-- Nothing shows through a character that case rules do not look past. -/
theorem lowercaseAfter_append_of_not_ignorable (hc : c ∈ between)
    (h : isCaseIgnorable c = false) (before cs : List Char) :
    lowercaseAfter (between ++ before) cs = lowercaseAfter between cs := by
  induction cs generalizing between with
  | nil => rfl
  | cons d cs ih =>
    rw [lowercaseAfter, lowercaseAfter, reachesCased_append_of_not_ignorable hc h,
      ← List.cons_append, ih (List.mem_cons_of_mem d hc)]

theorem isCaseIgnorable_sigma : isCaseIgnorable 'Σ' = false := by
  decide +kernel

/-! ## Cuts -/

/-- A cut between the texts parts a final sigma from the word that it ends. -/
def cutsFinalSigma (before after : List Char) : Bool :=
  match after.dropWhile isCaseIgnorable with
  | [] => false
  | c :: rest => c == 'Σ' && (reachesCased before.reverse && !reachesCased rest)

theorem lowercaseAfter_append_eq_iff (h : ∀ c ∈ between, isCaseIgnorable c = true)
    (before cs : List Char) : lowercaseAfter (between ++ before) cs = lowercaseAfter between cs ↔
      cutsFinalSigma before.reverse cs = false := by
  induction cs generalizing between with
  | nil => exact iff_of_true rfl rfl
  | cons c cs ih =>
    rw [lowercaseAfter, lowercaseAfter, reachesCased_append_of_ignorable h,
      reachesCased_of_ignorable h, ← List.cons_append, cutsFinalSigma, List.reverse_reverse]
    cases hc : isCaseIgnorable c with
    | true =>
      -- The next character still sees what stands before.
      have hs : c ≠ 'Σ' := by
        rintro rfl
        rw [isCaseIgnorable_sigma] at hc
        cases hc
      rw [if_neg hs, if_neg hs, List.append_cancel_left_eq, ih (List.forall_mem_cons.mpr ⟨hc, h⟩),
        cutsFinalSigma, List.reverse_reverse, List.dropWhile_cons_of_pos hc]
    | false =>
      rw [lowercaseAfter_append_of_not_ignorable List.mem_cons_self hc,
        List.dropWhile_cons_of_neg (Bool.eq_false_iff.mp hc), List.append_cancel_right_eq]
      by_cases hs : c = 'Σ'
      · simp only [hs, ↓reduceIte, Bool.false_and, List.singleton_inj, beq_self_eq_true,
          Bool.true_and]
        cases reachesCased before <;> cases reachesCased cs <;> decide
      · simp [hs]

/-- The end of a text is lowered as on its own, unless a final sigma is cut off there. -/
theorem lowercase_suffix_iff (before cs : List Char) :
    lowercase cs <:+ lowercase (before ++ cs) ↔ cutsFinalSigma before cs = false := by
  obtain ⟨front, hf⟩ := exists_lowercaseAfter_append [] before cs
  have hnone : ∀ c ∈ ([] : List Char), isCaseIgnorable c = true := List.forall_mem_nil _
  have hiff := lowercaseAfter_append_eq_iff hnone before.reverse cs
  rw [List.reverse_reverse, List.nil_append] at hiff
  rw [lowercase, lowercase, hf, List.append_nil, ← hiff]
  constructor
  · intro h
    have hlength := length_lowercaseAfter before.reverse [] cs
    have hsuffix := List.suffix_of_suffix_length_le (List.suffix_append front _) h
      (Nat.le_of_eq hlength)
    exact hsuffix.eq_of_length hlength
  · intro h
    rw [h]
    exact List.suffix_append front _

/-! ## Characters that case rules treat alike -/

/-- The characters take the same part in the lowering of others. -/
structure SameRole (c d : Char) : Prop where
  cased : isCased c = isCased d
  ignorable : isCaseIgnorable c = isCaseIgnorable d
  sigma : c = 'Σ' ↔ d = 'Σ'

theorem SameRole.refl (c : Char) : SameRole c c :=
  ⟨rfl, rfl, .rfl⟩

theorem reachesCased_congr (h : List.Forall₂ SameRole cs ds) :
    reachesCased cs = reachesCased ds := by
  unfold reachesCased
  induction h with
  | nil => rfl
  | cons hcd _ ih =>
    rw [List.dropWhile_cons, List.dropWhile_cons, hcd.ignorable]
    split
    · exact ih
    · exact hcd.cased

theorem cutsFinalSigma_congr {before' : List Char} (hb : List.Forall₂ SameRole before before')
    (h : List.Forall₂ SameRole cs ds) : cutsFinalSigma before cs = cutsFinalSigma before' ds := by
  unfold cutsFinalSigma
  rw [reachesCased_congr (List.forall₂_reverse_iff.mpr hb)]
  induction h with
  | nil => rfl
  | @cons c d _ _ hcd hrest ih =>
    by_cases hd : isCaseIgnorable d = true
    · rwa [List.dropWhile_cons_of_pos (hcd.ignorable.trans hd), List.dropWhile_cons_of_pos hd]
    · have hc : ¬ isCaseIgnorable c = true := hcd.ignorable ▸ hd
      have hs : (c == 'Σ') = (d == 'Σ') := by
        rw [Bool.eq_iff_iff, beq_iff_eq, beq_iff_eq]
        exact hcd.sigma
      rw [List.dropWhile_cons_of_neg hc, List.dropWhile_cons_of_neg hd]
      dsimp only
      rw [hs, reachesCased_congr hrest]

theorem lowercaseAfter_congr {before' : List Char} (hb : List.Forall₂ SameRole before before')
    (h : List.Forall₂ (fun c d => SameRole c d ∧ lower c = lower d) cs ds) :
    lowercaseAfter before cs = lowercaseAfter before' ds := by
  induction h generalizing before before' with
  | nil => rfl
  | @cons c d cs ds hcd hrest ih =>
    rw [lowercaseAfter, lowercaseAfter, ih (.cons hcd.1 hb), reachesCased_congr hb,
      reachesCased_congr (hrest.imp fun _ _ => And.left)]
    simp only [hcd.1.sigma, hcd.2]

theorem lowercase_congr (h : List.Forall₂ (fun c d => SameRole c d ∧ lower c = lower d) cs ds) :
    lowercase cs = lowercase ds :=
  lowercaseAfter_congr .nil h

/-! ## ASCII letters -/

theorem toNat_of_isAlpha (h : c.isAlpha = true) :
    0x41 ≤ c.toNat ∧ c.toNat ≤ 0x5A ∨ 0x61 ≤ c.toNat ∧ c.toNat ≤ 0x7A := by
  grind

theorem isCased_of_isAlpha (h : c.isAlpha = true) : isCased c = true := by
  refine List.any_eq_true.mpr ?_
  rcases toNat_of_isAlpha h with hu | hl
  · exact ⟨⟨0x41, 0x5A, 1⟩, .head _, by simp [CodeRange.contains, hu, Nat.mod_one]⟩
  · exact ⟨⟨0x61, 0x7A, 1⟩, .tail _ (.head _), by simp [CodeRange.contains, hl, Nat.mod_one]⟩

theorem isCaseIgnorable_of_isAlpha (h : c.isAlpha = true) : isCaseIgnorable c = false := by
  have hgap : ∀ r ∈ caseIgnorableRanges, r.last < 0x41 ∨ 0x7A < r.first ∨
      0x5A < r.first ∧ r.last < 0x61 := by decide +kernel
  refine List.any_eq_false.mpr fun r hr => ?_
  have hn := toNat_of_isAlpha h
  have hr := hgap r hr
  simp only [CodeRange.contains, Bool.and_eq_true, decide_eq_true_eq]
  omega

theorem eq_or_isAlpha_of_toLower_eq (h : c.toLower = d.toLower) :
    c = d ∨ c.isAlpha = true ∧ d.isAlpha = true := by
  have hcd : c.isAlpha = d.isAlpha := by rw [← isAlpha_toLower, h, isAlpha_toLower]
  cases hc : c.isAlpha with
  | true => exact .inr ⟨rfl, hcd ▸ hc⟩
  | false =>
    have hd : d.isAlpha = false := hcd ▸ hc
    rw [isAlpha_eq, Bool.or_eq_false_iff] at hc hd
    rw [toLower_of_isUpper_eq_false hc.1, toLower_of_isUpper_eq_false hd.1] at h
    exact .inl h

theorem sameRole_of_isAlpha (hc : c.isAlpha = true) (hd : d.isAlpha = true) : SameRole c d := by
  have hs : ∀ e : Char, e.isAlpha = true → e ≠ 'Σ' := by
    rintro _ he rfl
    exact absurd he (by decide)
  constructor
  case cased => rw [isCased_of_isAlpha hc, isCased_of_isAlpha hd]
  case ignorable => rw [isCaseIgnorable_of_isAlpha hc, isCaseIgnorable_of_isAlpha hd]
  case sigma => exact iff_of_false (hs c hc) (hs d hd)

theorem lower_eq_of_isAlpha (hc : c.isAlpha = true) (hd : d.isAlpha = true)
    (h : c.toLower = d.toLower) : lower c = lower d := by
  have ascii : ∀ e : Char, e.isAlpha = true → isAscii e = true := fun e he =>
    isAscii_of_isAlphanum (by rw [Char.isAlphanum, he, Bool.true_or])
  rw [lower_ascii (ascii c hc), lower_ascii (ascii d hd), h]

/-! ## Empty texts -/

theorem lower_ne_nil (c : Char) : lower c ≠ [] := by
  unfold lower mapCase
  split
  · exact List.cons_ne_nil _ _
  split
  · next codes hl =>
    obtain ⟨_, _, hs, -⟩ := List.lookup_eq_some_iff.mp hl
    have hm : (c.toNat, codes) ∈ longLowercase := by simp [hs]
    obtain ⟨-, rfl⟩ := Prod.mk.inj (List.mem_singleton.mp hm)
    exact List.cons_ne_nil _ _
  split <;> exact List.cons_ne_nil _ _

theorem lowercase_eq_nil_iff : lowercase cs = [] ↔ cs = [] := by
  constructor
  · intro h
    cases cs with
    | nil => rfl
    | cons c cs =>
      rw [lowercase, lowercaseAfter, List.append_eq_nil_iff] at h
      split at h
      · cases h.1
      · exact absurd h.1 (lower_ne_nil c)
  · rintro rfl
    rfl

end EntityGen.Text
