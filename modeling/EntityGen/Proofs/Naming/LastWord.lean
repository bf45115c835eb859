import EntityGen.Naming.English
import Mathlib.Data.List.Chain

/-! # The last word of a compound

A compound is cut before its last capital that follows no capital. This cut is unique: the last word
has its capitals first, and what comes before it, if anything, ends in no capital.
-/

namespace EntityGen.Naming

open Text

variable {previous : Char} {cs lead last : List Char}

/-- No capital follows a character that is none. -/
def CapitalsFirst (cs : List Char) : Prop :=
  cs.IsChain fun a b => isUppercase b = true → isUppercase a = true

/-- A capital stands after `lead`, which ends in no capital. -/
def Boundary (lead last : List Char) : Prop :=
  (∃ b ∈ lead.getLast?, isUppercase b = false) ∧ ∃ c ∈ last.head?, isUppercase c = true

theorem not_boundary_nil_right : ¬ Boundary lead [] := by
  simp [Boundary]

theorem boundary_cons_cons {a b : Char} :
    Boundary (a :: b :: lead) last ↔ Boundary (b :: lead) last := by
  simp [Boundary, List.getLast?_cons_cons]

theorem cutLastWord_eq_none_iff :
    cutLastWord previous cs = none ↔ CapitalsFirst (previous :: cs) := by
  induction cs generalizing previous with
  | nil => simp [cutLastWord, CapitalsFirst]
  | cons c rest ih =>
    have hc : CapitalsFirst (previous :: c :: rest) ↔
        (isUppercase c = true → isUppercase previous = true) ∧ CapitalsFirst (c :: rest) :=
      List.isChain_cons_cons
    rw [cutLastWord, hc, ← ih]
    cases h : cutLastWord c rest <;> cases isUppercase c <;> cases isUppercase previous <;> simp

theorem cutLastWord_eq_some_iff :
    cutLastWord previous cs = some (lead, last) ↔
      lead ++ last = cs ∧ CapitalsFirst last ∧ Boundary (previous :: lead) last := by
  induction cs generalizing previous lead with
  | nil =>
    simp only [cutLastWord, reduceCtorEq, List.append_eq_nil_iff, false_iff]
    rintro ⟨⟨-, rfl⟩, -, hb⟩
    exact not_boundary_nil_right hb
  | cons c rest ih =>
    cases lead with
    | nil =>
      -- The cut is here when no later one is possible.
      have hb : Boundary [previous] (c :: rest) ↔
          isUppercase previous = false ∧ isUppercase c = true := by simp [Boundary]
      have hn : cutLastWord c rest = none ↔ CapitalsFirst (c :: rest) := cutLastWord_eq_none_iff
      rw [cutLastWord, List.nil_append]
      cases h : cutLastWord c rest with
      | none =>
        simp only [h, true_iff] at hn
        constructor
        · intro hs
          split at hs <;> simp_all
        · rintro ⟨rfl, -, hb'⟩
          simp [hb.mp hb']
      | some cut =>
        simp only [h, reduceCtorEq, false_iff] at hn
        simp only [Option.some.injEq, Prod.mk.injEq, reduceCtorEq, false_and, false_iff]
        rintro ⟨rfl, hc, -⟩
        exact hn hc
    | cons d lead =>
      have hi : cutLastWord previous (c :: rest) = some (d :: lead, last) ↔
          c = d ∧ cutLastWord c rest = some (lead, last) := by
        rw [cutLastWord]
        cases h : cutLastWord c rest with
        | none =>
          simp only [reduceCtorEq, and_false, iff_false]
          split <;> simp
        | some cut => simp [Prod.ext_iff, and_assoc]
      rw [hi, boundary_cons_cons]
      constructor
      · rintro ⟨rfl, h⟩
        obtain ⟨rfl, hc, hb⟩ := ih.mp h
        exact ⟨rfl, hc, hb⟩
      · rintro ⟨h, hc, hb⟩
        obtain ⟨rfl, hr⟩ := List.cons.inj h
        exact ⟨rfl, ih.mpr ⟨hr, hc, hb⟩⟩

theorem splitLastWord_eq_iff :
    splitLastWord cs = (lead, last) ↔
      lead ++ last = cs ∧ CapitalsFirst last ∧ (lead = [] ∨ Boundary lead last) := by
  cases cs with
  | nil =>
    simp only [splitLastWord, Prod.mk.injEq, List.append_eq_nil_iff]
    constructor
    · rintro ⟨rfl, rfl⟩
      exact ⟨⟨rfl, rfl⟩, .nil, .inl rfl⟩
    · rintro ⟨⟨rfl, rfl⟩, -⟩
      exact ⟨rfl, rfl⟩
  | cons c rest =>
    rw [splitLastWord]
    constructor
    · split
      · next l t h =>
        rintro ⟨rfl, rfl⟩
        obtain ⟨rfl, hc, hb⟩ := cutLastWord_eq_some_iff.mp h
        exact ⟨rfl, hc, .inr hb⟩
      · next h =>
        rintro ⟨rfl, rfl⟩
        exact ⟨rfl, cutLastWord_eq_none_iff.mp h, .inl rfl⟩
    · rintro ⟨happ, hc, hl⟩
      cases lead with
      | nil =>
        rw [List.nil_append] at happ
        subst happ
        rw [cutLastWord_eq_none_iff.mpr hc]
      | cons d lead =>
        obtain ⟨rfl, hr⟩ := List.cons.inj happ
        have hb := hl.resolve_left (List.cons_ne_nil _ _)
        rw [cutLastWord_eq_some_iff.mpr ⟨hr, hc, hb⟩]

theorem splitLastWord_spec (cs : List Char) :
    (splitLastWord cs).1 ++ (splitLastWord cs).2 = cs ∧ CapitalsFirst (splitLastWord cs).2 ∧
      ((splitLastWord cs).1 = [] ∨ Boundary (splitLastWord cs).1 (splitLastWord cs).2) :=
  splitLastWord_eq_iff.mp rfl

theorem splitLastWord_snd_eq_nil_iff : (splitLastWord cs).2 = [] ↔ cs = [] := by
  obtain ⟨happ, -, hb⟩ := splitLastWord_spec cs
  constructor
  · intro hn
    rw [hn] at happ hb
    rw [hb.resolve_right not_boundary_nil_right] at happ
    exact happ.symm
  · rintro rfl
    rfl

end EntityGen.Naming
