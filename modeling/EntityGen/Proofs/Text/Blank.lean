import EntityGen.Text.Basic
import Mathlib.Data.List.TakeWhile

/-! # Blanks around a text

Trimming takes away the blanks around a text and nothing else.
-/

namespace EntityGen.Text

def Blanks (cs : List Char) : Prop :=
  ∀ c ∈ cs, isBlank c = true

/-- The text with blanks on both sides, or on none. -/
def Padded (core cs : List Char) : Prop :=
  ∃ before after, Blanks before ∧ Blanks after ∧ cs = before ++ core ++ after

structure Tight (cs : List Char) : Prop where
  head : ∀ c ∈ cs.head?, isBlank c = false
  last : ∀ c ∈ cs.getLast?, isBlank c = false

variable {c : Char} {core cs ds : List Char}

theorem Blanks.nil : Blanks [] := by
  simp [Blanks]

theorem Blanks.reverse (h : Blanks cs) : Blanks cs.reverse :=
  fun c hc => h c (List.mem_reverse.mp hc)

theorem Padded.mem (h : Padded core cs) (hc : c ∈ cs) : isBlank c = true ∨ c ∈ core := by
  obtain ⟨before, after, hb, ha, rfl⟩ := h
  simp only [List.mem_append] at hc
  rcases hc with (hc | hc) | hc
  · exact .inl (hb c hc)
  · exact .inr hc
  · exact .inl (ha c hc)

theorem trimStart_append (h : Blanks ds) (cs : List Char) : trimStart (ds ++ cs) = trimStart cs :=
  List.dropWhile_append_of_pos h

theorem trimStart_eq (h : ∀ c ∈ cs.head?, isBlank c = false) : trimStart cs = cs := by
  cases cs with
  | nil => rfl
  | cons c rest => exact List.dropWhile_cons_of_neg (by simp [h c rfl])

theorem trimEnd_append (h : Blanks ds) (cs : List Char) : trimEnd (cs ++ ds) = trimEnd cs := by
  rw [trimEnd, List.reverse_append, List.dropWhile_append_of_pos h.reverse, trimEnd]

theorem trimEnd_eq (h : ∀ c ∈ cs.getLast?, isBlank c = false) : trimEnd cs = cs := by
  have hr : trimStart cs.reverse = cs.reverse := trimStart_eq (by simpa using h)
  exact (congrArg List.reverse hr).trans cs.reverse_reverse

theorem trim_of_padded (ht : Tight core) (h : Padded core cs) : trim cs = core := by
  obtain ⟨before, after, hb, ha, rfl⟩ := h
  rw [trim, List.append_assoc, trimStart_append hb]
  cases core with
  | nil =>
    have hn : trimStart after = [] := List.dropWhile_eq_nil_iff.mpr ha
    rw [List.nil_append, hn]
    rfl
  | cons c core =>
    rw [trimStart_eq (by simpa using ht.head), trimEnd_append ha, trimEnd_eq ht.last]

theorem Tight.trim_eq (h : Tight cs) : trim cs = cs :=
  trim_of_padded h ⟨[], [], .nil, .nil, by simp⟩

theorem Blanks.trim_eq (h : Blanks cs) : trim cs = [] :=
  trim_of_padded ⟨by simp, by simp⟩ ⟨cs, [], h, .nil, by simp⟩

/-- A text with something else than blanks is not trimmed away. -/
theorem trim_ne_nil (hc : c ∈ cs) (hb : isBlank c = false) : trim cs ≠ [] := by
  have hstart : c ∈ trimStart cs := by
    have hparts := List.takeWhile_append_dropWhile (p := isBlank) (l := cs)
    rw [← hparts, List.mem_append] at hc
    rcases hc with hc | hc
    · exact absurd (List.mem_takeWhile_imp hc) (by simp [hb])
    · exact hc
  rw [trim, trimEnd, ne_eq, List.reverse_eq_nil_iff, List.dropWhile_eq_nil_iff]
  intro h
  exact absurd (h c (List.mem_reverse.mpr hstart)) (by simp [hb])

theorem trim_eq_nil_iff : trim cs = [] ↔ Blanks cs := by
  constructor
  · intro h c hc
    by_contra hb
    exact trim_ne_nil hc (by simpa using hb) h
  · exact Blanks.trim_eq

theorem mem_of_mem_trimEnd (h : c ∈ trimEnd cs) : c ∈ cs :=
  List.mem_reverse.mp ((List.dropWhile_suffix _).mem (List.mem_reverse.mp h))

theorem isBlank_of_getLast?_trimEnd (h : c ∈ (trimEnd cs).getLast?) : isBlank c = false := by
  rw [trimEnd, List.getLast?_reverse] at h
  have hb := List.head?_dropWhile_not isBlank cs.reverse
  rw [h] at hb
  simpa using hb

end EntityGen.Text
