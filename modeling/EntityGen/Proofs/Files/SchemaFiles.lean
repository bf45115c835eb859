import Mathlib.Data.List.Dedup
import Mathlib.Data.List.Induction
import Mathlib.Data.List.Sort
import Mathlib.Data.List.TakeWhile
import Mathlib.Data.String.Basic
import EntityGen.Command.Discovery
import EntityGen.Proofs.Files.Places

/-! # Schema files of a tree

The schemas below a directory are the files that end in `.json` and are not hidden on the way down.
Ordered by the parts of their paths they make one list, which depends on the files alone.
-/

namespace EntityGen

/-! ## Endings -/

namespace Path

variable {name ending : String} {before after : List Char}

theorem ending?_of_not_mem (h : '.' ∉ name.toList) : ending? name = none := by
  have hall : name.toList.reverse.takeWhile (· != '.') = name.toList.reverse :=
    List.takeWhile_eq_self_iff.mpr fun c hc => bne_iff_ne.mpr fun he =>
      h (List.mem_reverse.mp (he ▸ hc))
  rw [ending?, hall, List.drop_length]

/-- The ending is what stands behind the last point, where something stands before that. -/
theorem ending?_of_toList (h : name.toList = before ++ '.' :: after) (ha : '.' ∉ after) :
    ending? name = if before = [] then none else some (String.ofList after) := by
  have hr : name.toList.reverse = after.reverse ++ '.' :: before.reverse := by
    rw [h]
    simp
  have htake : name.toList.reverse.takeWhile (· != '.') = after.reverse := by
    have hp : ∀ c ∈ after.reverse, (c != '.') = true := fun c hc => bne_iff_ne.mpr fun he =>
      ha (List.mem_reverse.mp (he ▸ hc))
    rw [hr, List.takeWhile_append_of_pos hp]
    simp
  rw [ending?, htake, hr, List.drop_left, List.reverse_reverse]
  cases hb : before.reverse with
  | nil =>
    obtain rfl := List.reverse_eq_nil_iff.mp hb
    rfl
  | cons c cs =>
    have hne : before ≠ [] := by
      rintro rfl
      cases hb
    rw [if_neg hne]

theorem ending?_eq_some_iff : ending? name = some ending ↔
    '.' ∉ ending.toList ∧ ∃ stem, stem ≠ "" ∧ name = stem ++ "." ++ ending := by
  constructor
  · intro h
    by_cases hm : '.' ∈ name.toList.reverse
    · obtain ⟨after, before, hr, ha⟩ := List.eq_append_cons_of_mem hm
      have hn : name.toList = before.reverse ++ '.' :: after.reverse := by
        rw [← List.reverse_reverse name.toList, hr]
        simp
      rw [ending?_of_toList hn (by simpa using ha)] at h
      split at h
      · cases h
      · next hne =>
        obtain rfl := Option.some.inj h
        refine ⟨by simpa using ha, String.ofList before.reverse, ?_, ?_⟩
        · simpa using hne
        · rw [← String.toList_inj, hn]
          simp
    · rw [ending?_of_not_mem fun hc => hm (List.mem_reverse.mpr hc)] at h
      cases h
  · rintro ⟨hp, stem, hne, rfl⟩
    have hn : (stem ++ "." ++ ending).toList = stem.toList ++ '.' :: ending.toList := by simp
    have hs : stem.toList ≠ [] := fun h => hne (String.toList_eq_nil_iff.mp h)
    rw [ending?_of_toList hn hp, if_neg hs, String.ofList_toList]

end Path

/-! ## Files that are schemas -/

namespace FileTree

variable {t : FileTree} {place q below : List String} {name text : String} {content : Content}

theorem mem_entries_of_file? (h : t.file? q = some content) : (q, .file content) ∈ t.entries := by
  unfold file? at h
  split at h
  · cases h
  · split at h
    · next c hl =>
      obtain rfl := Option.some.inj h
      obtain ⟨before, after, hs, -⟩ := List.lookup_eq_some_iff.mp hl
      simp [hs]
    · cases h

/-- A file is listed in the directory above it. -/
theorem mem_names_of_file? (h : t.file? (q ++ [name]) = some content) : name ∈ t.names q :=
  mem_names_iff.mpr ⟨_, mem_entries_of_file? h, List.prefix_rfl⟩

theorem mem_names_of_isDirectory (h : t.isDirectory (q ++ [name]) = true) : name ∈ t.names q := by
  rcases isDirectory_iff.mp h with hnil | ⟨e, he, hp, -⟩
  · simp at hnil
  · exact mem_names_iff.mpr ⟨e, he, hp⟩

def HasFileNames (t : FileTree) : Prop :=
  ∀ e ∈ t.entries, ∀ name ∈ e.1, Path.IsPart name ∧ isName name = true

instance : DecidablePred HasFileNames := fun t =>
  inferInstanceAs (Decidable (∀ e ∈ t.entries, ∀ name ∈ e.1,
    Path.IsPart name ∧ isName name = true))

theorem HasFileNames.of_mem_names (h : t.HasFileNames) (hm : name ∈ t.names q) :
    Path.IsPart name ∧ isName name = true := by
  obtain ⟨e, he, hp⟩ := mem_names_iff.mp hm
  exact h e he name (hp.subset (List.mem_append_right q (List.mem_singleton_self name)))

structure IsSchemaFile (t : FileTree) (place below : List String) (content : Content) : Prop where
  shown : ∀ part ∈ below, Path.isHidden part = false
  ending : ∃ above stem, stem ≠ "" ∧ below = above ++ [stem ++ ".json"]
  file : t.file? (place ++ below) = some content

def HasTextSchemas (t : FileTree) (place : List String) : Prop :=
  ∀ below content, t.IsSchemaFile place below content → ∃ text, content = .text text

/-- These are the schemas below a directory, ordered by the parts of their paths. -/
structure ListsSchemas (t : FileTree) (place : List String)
    (schemas : List (List String × String)) : Prop where
  mem_iff : ∀ below text, (below, text) ∈ schemas ↔ t.IsSchemaFile place below (.text text)
  ordered : schemas.Pairwise fun a b => a.1 < b.1

def isNamedSchema (below : List String) : Bool :=
  below.all (fun part => !Path.isHidden part) &&
    below.getLast?.bind Path.ending? == some Command.schemaEnding

/-- The schemas below a directory that are texts, in order. -/
def schemas (t : FileTree) (place : List String) : List (List String × String) :=
  let files := t.entries.filterMap fun e =>
    if place.isPrefixOf e.1 then some (e.1.drop place.length) else none
  ((files.filter isNamedSchema).dedup.insertionSort (· ≤ ·)).filterMap fun below =>
    ((t.file? (place ++ below)).bind Content.text?).map (below, ·)

theorem ending?_eq_schemaEnding_iff : Path.ending? name = some Command.schemaEnding ↔
    ∃ stem, stem ≠ "" ∧ name = stem ++ ".json" := by
  have hp : '.' ∉ Command.schemaEnding.toList := by decide
  have hj : ∀ stem : String, stem ++ "." ++ Command.schemaEnding = stem ++ ".json" := fun stem =>
    String.append_assoc
  simp only [Path.ending?_eq_some_iff, hp, hj, not_false_eq_true, true_and]

end FileTree

end EntityGen
