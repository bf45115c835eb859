import EntityGen.Proofs.Text.FinalSigma
import EntityGen.Resource

/-! # Endings of paths

A resource is found by the endings of its path, whatever the case of ASCII letters and the slashes
are. The exception are endings that start within a word and hold its final sigma, but none of the
letters before it: such a sigma is lowered in another way when it stands alone.
-/

namespace EntityGen.Resource

/-- The same letter of ASCII in any case, the same character, or any two slashes. -/
def Interchangeable (c d : Char) : Prop :=
  c.toLower = d.toLower ∨ (c = '/' ∨ c = '\\') ∧ (d = '/' ∨ d = '\\')

instance : DecidableRel Interchangeable := fun c d =>
  inferInstanceAs
    (Decidable (c.toLower = d.toLower ∨ (c = '/' ∨ c = '\\') ∧ (d = '/' ∨ d = '\\')))

/-- Paths that differ in the case of ASCII letters and in their slashes only. -/
def Respelled (path other : String) : Prop :=
  List.Forall₂ Interchangeable path.toList other.toList

instance : DecidableRel Respelled := fun path other =>
  inferInstanceAs (Decidable (List.Forall₂ Interchangeable path.toList other.toList))

variable {c d : Char} {path other source : String}

/-! ## Spellings -/

def slashed (c : Char) : Char :=
  if c = '\\' then '/' else c

theorem normalize_eq_lowercase (path : String) :
    normalize path = Text.lowercase (path.toList.map slashed) :=
  rfl

theorem slashed_of_isAlpha (h : c.isAlpha = true) : slashed c = c := by
  refine if_neg ?_
  rintro rfl
  exact absurd h (by decide)

theorem slashed_of_slash (h : c = '/' ∨ c = '\\') : slashed c = '/' := by
  rcases h with rfl | rfl <;> rfl

theorem sameRole_slashed (c : Char) : Text.SameRole (slashed c) c := by
  by_cases h : c = '\\'
  · subst h
    exact ⟨by decide +kernel, by decide +kernel, by decide⟩
  · rw [slashed, if_neg h]
    exact .refl c

theorem Interchangeable.slashed (h : Interchangeable c d) :
    Text.SameRole (slashed c) (slashed d) ∧
      Text.lower (slashed c) = Text.lower (slashed d) := by
  rcases h with h | ⟨hc, hd⟩
  · rcases Text.eq_or_isAlpha_of_toLower_eq h with rfl | ⟨hc, hd⟩
    · exact ⟨.refl _, rfl⟩
    · rw [slashed_of_isAlpha hc, slashed_of_isAlpha hd]
      exact ⟨Text.sameRole_of_isAlpha hc hd, Text.lower_eq_of_isAlpha hc hd h⟩
  · rw [slashed_of_slash hc, slashed_of_slash hd]
    exact ⟨.refl _, rfl⟩

theorem Respelled.normalize_eq (h : Respelled path other) : normalize path = normalize other := by
  rw [normalize_eq_lowercase, normalize_eq_lowercase]
  refine Text.lowercase_congr ?_
  rw [List.forall₂_map_left_iff, List.forall₂_map_right_iff]
  exact h.imp fun _ _ => Interchangeable.slashed

theorem normalize_eq_nil_iff : normalize path = [] ↔ path = "" := by
  rw [normalize_eq_lowercase, Text.lowercase_eq_nil_iff, List.map_eq_nil_iff,
    String.toList_eq_nil_iff]

theorem cutsFinalSigma_slashed (before after : List Char) :
    Text.cutsFinalSigma (before.map slashed) (after.map slashed) =
      Text.cutsFinalSigma before after := by
  have hroles : ∀ cs : List Char, List.Forall₂ Text.SameRole (cs.map slashed) cs := by
    intro cs
    rw [List.forall₂_map_left_iff, List.forall₂_same]
    exact fun c _ => sameRole_slashed c
  exact Text.cutsFinalSigma_congr (hroles before) (hroles after)

/-! ## Endings -/

theorem endsWith_iff_suffix {r : Resource} (h : source ≠ "") :
    r.endsWith source = true ↔ normalize source <:+ normalize r.path := by
  have hne : (normalize source).isEmpty = false := by
    rw [List.isEmpty_eq_false_iff, Ne, normalize_eq_nil_iff]
    exact h
  rw [endsWith, hne, Bool.not_false, Bool.true_and, List.isSuffixOf_iff_suffix]

/-- Every ending of a path finds its resource, in any spelling of both, unless it cuts off a final
sigma. -/
theorem endsWith_respelled_iff {r : Resource} {before : List Char} {ending : String}
    (hne : ending ≠ "") (h : path.toList = before ++ ending.toList) (hp : Respelled path r.path)
    (hs : Respelled ending source) :
    r.endsWith source = true ↔ Text.cutsFinalSigma before ending.toList = false := by
  have hsource : source ≠ "" := by
    rw [Ne, ← normalize_eq_nil_iff, ← hs.normalize_eq, normalize_eq_nil_iff]
    exact hne
  rw [endsWith_iff_suffix hsource, ← hp.normalize_eq, ← hs.normalize_eq, normalize_eq_lowercase,
    normalize_eq_lowercase, h, List.map_append, Text.lowercase_suffix_iff, cutsFinalSigma_slashed]

theorem odos_endsWith :
    "db\\ΟΔΟΣ.json".toList = "db\\ΟΔΟ".toList ++ "Σ.json".toList ∧
      Respelled "db\\ΟΔΟΣ.json" "DB/ΟΔΟΣ.Json" ∧ Respelled "Σ.json" "Σ.JSON" ∧
      Resource.endsWith ⟨"DB/ΟΔΟΣ.Json", "\x7b\x7d"⟩ "Σ.JSON" = true := by
  have h : "db\\ΟΔΟΣ.json".toList = "db\\ΟΔΟ".toList ++ "Σ.json".toList := by decide
  have hp : Respelled "db\\ΟΔΟΣ.json" "DB/ΟΔΟΣ.Json" := by decide
  have hs : Respelled "Σ.json" "Σ.JSON" := by decide
  exact ⟨h, hp, hs, (endsWith_respelled_iff (by decide) h hp hs).mpr (by decide +kernel)⟩

/-- In front of a hyphen the sigma ends its word, which it does not on its own. -/
theorem odos_not_endsWith :
    "db/ΟΔΟΣ-2.json".toList = "db/ΟΔΟ".toList ++ "Σ-2.json".toList ∧
      Resource.endsWith ⟨"db/ΟΔΟΣ-2.json", "\x7b\x7d"⟩ "Σ-2.json" = false := by
  decide +kernel

end EntityGen.Resource
