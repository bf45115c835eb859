import EntityGen.Proofs.Pass.FileNames

/-! # Output files of a manifest

The targets of a valid manifest write to files of their own below the output directory, wherever
that is. Only two targets with the same class name and the same namespace share a file, so no other
manifest is rejected for a duplicate.
-/

namespace EntityGen

/-! ## Paths of units -/

/-- A path of one or two names that lead down, the last one with the ending of code. -/
structure Path.IsUnitPath (path : String) : Prop where
  one_or_two : (parts path).length = 1 ∨ (parts path).length = 2
  names : ∀ part ∈ parts path, IsPart part ∧ '\\' ∉ part.toList
  code : ∃ above name, parts path = above ++ [name ++ ".g.cs"]

namespace Target

variable {s t : Target}

theorem no_backslash_of_isIdentifier {cs : List Char} (h : isIdentifier cs = true) : '\\' ∉ cs :=
  fun hm => absurd ((isIdentifier_iff.mp h).1 '\\' hm) (by decide)

theorem no_backslash_nameSpace (h : t.error? = none) : '\\' ∉ t.nameSpace.toList := by
  rcases (identifiers_of_error? h).2 with he | hall
  · rw [he]
    exact List.not_mem_nil
  · intro hm
    obtain ⟨piece, hp, hs⟩ := exists_mem_of_mem_splitOnP (p := (· == '.')) hm (by decide)
    exact no_backslash_of_isIdentifier (hall piece hp) hs

theorem no_backslash_classFile (h : t.error? = none) :
    '\\' ∉ (t.className ++ ".g.cs").toList := by
  rw [String.toList_append, List.mem_append, not_or]
  exact ⟨no_backslash_of_isIdentifier (identifiers_of_error? h).1, by decide⟩

theorem isUnitPath_fileName (h : t.error? = none) : Path.IsUnitPath t.fileName := by
  have hparts := parts_fileName h
  refine ⟨?_, fun part hm => ⟨isPlain_fileName h part hm, ?_⟩, ⟨_, _, hparts⟩⟩
  · rw [hparts]
    split
    · exact .inl rfl
    · exact .inr rfl
  · rw [hparts] at hm
    rcases List.mem_append.mp hm with hm | hm
    · split at hm
      · cases hm
      · obtain rfl := List.mem_singleton.mp hm
        exact no_backslash_nameSpace h
    · obtain rfl := List.mem_singleton.mp hm
      exact no_backslash_classFile h

/-- A file name tells class and namespace of its target. -/
theorem names_eq_of_fileName_eq (hs : s.error? = none) (ht : t.error? = none)
    (h : s.fileName = t.fileName) : s.className = t.className ∧ s.nameSpace = t.nameSpace := by
  have hparts := congrArg Path.parts h
  rw [parts_fileName hs, parts_fileName ht] at hparts
  obtain ⟨habove, hlast⟩ := List.append_inj' hparts rfl
  refine ⟨?_, ?_⟩
  · have hclass := congrArg String.toList (List.singleton_inj.mp hlast)
    rw [String.toList_append, String.toList_append] at hclass
    exact String.toList_inj.mp (List.append_cancel_right hclass)
  · split at habove
    · next hsn =>
      split at habove
      · next htn => rw [hsn, htn]
      · cases habove
    · split at habove
      · cases habove
      · exact List.singleton_inj.mp habove

/-! ## Duplicates -/

def IsTwice (className nameSpace : String) (targets : List Target) : Prop :=
  ∃ s t, List.Sublist [s, t] targets ∧ (s.className = className ∧ s.nameSpace = nameSpace) ∧
    t.className = className ∧ t.nameSpace = nameSpace

theorem error?_ne_duplicateTarget (t : Target) (className nameSpace : String) :
    t.error? ≠ some (.duplicateTarget className nameSpace) := by
  unfold error?
  repeat' split
  all_goals nofun

/-- `earlier` are the valid targets that have taken their files, the last one first. -/
theorem isTwice_of_firstError? {earlier targets : List Target} {className nameSpace : String}
    (hvalid : ∀ s ∈ earlier, s.error? = none)
    (h : firstError? (earlier.map (·.fileName)) targets =
      some (.duplicateTarget className nameSpace)) :
    IsTwice className nameSpace (earlier.reverse ++ targets) := by
  induction targets generalizing earlier with
  | nil => cases h
  | cons t rest ih =>
    unfold firstError? at h
    split at h
    · next e he =>
      obtain rfl := Option.some.inj h
      exact absurd he (t.error?_ne_duplicateTarget className nameSpace)
    next he =>
    split at h
    · next hf =>
      obtain ⟨rfl, rfl⟩ := ManifestError.duplicateTarget.inj (Option.some.inj h)
      obtain ⟨s, hs, hst⟩ := List.mem_map.mp (List.contains_iff_mem.mp hf)
      refine ⟨s, t, ?_, names_eq_of_fileName_eq (hvalid s hs) he hst, rfl, rfl⟩
      have hsub := (List.singleton_sublist.mpr (List.mem_reverse.mpr hs)).append
        (List.singleton_sublist.mpr (List.mem_cons_self (a := t) (l := rest)))
      exact hsub
    · have hall : ∀ s ∈ t :: earlier, s.error? = none := List.forall_mem_cons.mpr ⟨he, hvalid⟩
      have htwice := ih hall h
      rwa [List.reverse_cons, List.append_assoc, List.singleton_append] at htwice

end Target

namespace Manifest

theorem firstError?_of_error? {m : Manifest} {className nameSpace : String}
    (h : m.error? = some (.duplicateTarget className nameSpace)) :
    Target.firstError? [] m.targets = some (.duplicateTarget className nameSpace) := by
  unfold error? at h
  dsimp only at h
  split at h
  · cases h
  split at h
  · cases h
  split at h
  · cases h
  split at h
  · cases h
  exact h

/-- The targets of a valid manifest have distinct file names, each the path of a unit that leads
from any directory in any tree to a place below it. -/
theorem outputs_confined (m : Manifest) :
    (m.error? = none →
      (m.targets.map (·.fileName)).Nodup ∧
      ∀ t ∈ m.targets, Path.IsUnitPath t.fileName ∧
        ∀ (tree : FileTree) (directory : String) (place : List String),
          tree.follow? (Path.join directory t.fileName) = some place →
            ∃ above, tree.follow? directory = some above ∧
              place = above ++ Path.parts t.fileName) ∧
    ∀ className nameSpace, m.error? = some (.duplicateTarget className nameSpace) →
      Target.IsTwice className nameSpace m.targets := by
  refine ⟨fun h => ?_, fun className nameSpace h => ?_⟩
  · obtain ⟨hvalid, hnodup⟩ := targets_of_error? h
    refine ⟨hnodup, fun t ht => ⟨Target.isUnitPath_fileName (hvalid t ht), ?_⟩⟩
    intro tree directory place hplace
    exact FileTree.follow?_join_of_isPlain (Target.isPlain_fileName (hvalid t ht)) hplace
  · have hnone : ∀ s ∈ ([] : List Target), s.error? = none := List.forall_mem_nil _
    exact Target.isTwice_of_firstError? hnone (firstError?_of_error? h)

/-- One class name in two namespaces and in none. -/
def dataContexts : Manifest where
  targets := [⟨"DataContext", "Blog", "blog.json"⟩, ⟨"DataContext", "Shop.Sales", "shop.json"⟩,
    ⟨"DataContext", "", "all.json"⟩]

def dataContextsTwice : Manifest where
  targets := dataContexts.targets ++ [⟨"DataContext", "Shop.Sales", "sales.json"⟩]

theorem dataContexts_confined :
    dataContexts.error? = none ∧
      dataContexts.targets.map (·.fileName) =
        ["Blog/DataContext.g.cs", "Shop.Sales/DataContext.g.cs", "DataContext.g.cs"] ∧
      (∀ t ∈ dataContexts.targets, Path.IsUnitPath t.fileName) ∧
      dataContextsTwice.error? = some (.duplicateTarget "DataContext" "Shop.Sales") ∧
      Target.IsTwice "DataContext" "Shop.Sales" dataContextsTwice.targets := by
  have hvalid : dataContexts.error? = none := by decide
  have htwice : dataContextsTwice.error? = some (.duplicateTarget "DataContext" "Shop.Sales") := by
    decide
  refine ⟨hvalid, by decide, fun t ht => ?_, htwice, ?_⟩
  · exact (((outputs_confined dataContexts).1 hvalid).2 t ht).1
  · exact (outputs_confined dataContextsTwice).2 _ _ htwice

end Manifest

end EntityGen
