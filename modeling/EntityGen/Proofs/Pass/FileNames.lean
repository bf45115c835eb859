import EntityGen.Manifest
import EntityGen.Proofs.Files.Places
import EntityGen.Proofs.Naming.Identifier
import EntityGen.Proofs.Pass.Targets

/-! # Files of units

The targets of a valid manifest have distinct file names, whose parts are names that lead down from
a directory. Below one directory the files of two units are therefore two places, whatever the tree
looks like.
-/

namespace EntityGen

/-! ## Names that lead down -/

/-- A character that does not separate is in a piece. -/
theorem exists_mem_of_mem_splitOnP {p : Char → Bool} {cs : List Char} {c : Char} (h : c ∈ cs)
    (hc : p c = false) : ∃ piece ∈ cs.splitOnP p, c ∈ piece := by
  induction cs with
  | nil => cases h
  | cons d cs ih =>
    rw [List.splitOnP_cons_eq_if_modifyHead]
    obtain ⟨first, rest, hs⟩ := List.exists_cons_of_ne_nil (List.splitOnP_ne_nil p cs)
    rcases List.mem_cons.mp h with rfl | hm
    · rw [hc, if_neg Bool.false_ne_true, hs]
      exact ⟨c :: first, List.mem_cons_self, List.mem_cons_self⟩
    · obtain ⟨piece, hp, hcp⟩ := ih hm
      split
      · exact ⟨piece, List.mem_cons_of_mem _ hp, hcp⟩
      · rw [hs] at hp ⊢
        rcases List.mem_cons.mp hp with rfl | hr
        · exact ⟨d :: piece, List.mem_cons_self, List.mem_cons_of_mem d hcp⟩
        · exact ⟨piece, List.mem_cons_of_mem _ hr, hcp⟩

namespace Path

variable {path name ending : String}

/-- Every part of the path is a name by which it leads down. -/
def IsPlain (path : String) : Prop :=
  ∀ part ∈ parts path, IsPart part

theorem parts_injective : Function.Injective parts := by
  intro a b h
  have hs : a.toList.splitOn '/' = b.toList.splitOn '/' :=
    List.map_injective_iff.mpr (fun _ _ he => String.ofList_injective he) h
  have ha : ['/'].intercalate (a.toList.splitOn '/') = a.toList := List.intercalate_splitOn '/'
  rw [← String.toList_inj, ← ha, hs, List.intercalate_splitOn]

theorem IsPlain.isAbsolute (h : IsPlain path) : Path.isAbsolute path = false := by
  cases ha : Path.isAbsolute path with
  | false => rfl
  | true =>
    obtain ⟨cs, hcs⟩ := List.head?_eq_some_iff.mp (beq_iff_eq.mp ha)
    have hempty : "" ∈ parts path := by
      rw [parts, hcs, List.splitOn_cons_eq_if_modifyHead]
      simp
    exact absurd rfl (h "" hempty).ne_empty

theorem isPart_append (hn : '/' ∉ name.toList) (he : '/' ∉ ending.toList)
    (hl : 2 < ending.toList.length) : IsPart (name ++ ending) := by
  have hlong : ∀ other : String, other.toList.length ≤ 2 → name ++ ending ≠ other := by
    rintro _ h rfl
    rw [String.toList_append, List.length_append] at h
    omega
  exact ⟨hlong _ (by decide), hlong _ (by decide), hlong _ (by decide), by simp [hn, he]⟩

theorem isPlain_of_isPart (h : IsPart name) : IsPlain name := by
  rw [IsPlain, parts_of_no_slash h.no_slash, List.forall_mem_singleton]
  exact h

end Path

namespace FileTree

variable {t : FileTree} {p q : List String} {directory name : String}

theorem foldlM_step?_of_isPart {parts : List String} (hp : ∀ part ∈ parts, Path.IsPart part)
    (h : parts.foldlM t.step? p = some q) : q = p ++ parts := by
  induction parts generalizing p with
  | nil => simpa using h.symm
  | cons part rest ih =>
    obtain ⟨hpart, hrest⟩ := List.forall_mem_cons.mp hp
    rw [List.foldlM_cons] at h
    obtain ⟨r, hr, hq⟩ := Option.bind_eq_some_iff.mp h
    rw [step?_of_isPart (step?_cases hr).1 hpart] at hr
    split at hr
    · obtain rfl := Option.some.inj hr
      rw [ih hrest hq, List.append_assoc, List.singleton_append]
    · cases hr

/-- A plain path below a directory leads down from where the directory is. -/
theorem follow?_join_of_isPlain (hn : Path.IsPlain name)
    (h : t.follow? (Path.join directory name) = some q) :
    ∃ d, t.follow? directory = some d ∧ q = d ++ Path.parts name := by
  rw [follow?_join hn.isAbsolute] at h
  obtain ⟨d, hd, hq⟩ := Option.bind_eq_some_iff.mp h
  exact ⟨d, hd, foldlM_step?_of_isPart hn hq⟩

theorem place?_join (hn : Path.IsPlain name) (h : t.place? (Path.join directory name) = some q) :
    ∃ d, t.follow? directory = some d ∧ q = d ++ Path.parts name :=
  follow?_join_of_isPlain hn (place?_eq_some_iff.mp h).2.2.2

end FileTree

/-! ## File names of targets -/

namespace Target

variable {t : Target} {targets : List Target} {files : List String}

theorem identifiers_of_error? (h : t.error? = none) : isIdentifier t.className.toList = true ∧
    (t.nameSpace = "" ∨ ∀ piece ∈ t.nameSpace.toList.splitOn '.', isIdentifier piece = true) := by
  unfold error? at h
  split at h
  · cases h
  split at h
  · cases h
  next hc =>
  split at h
  · cases h
  split at h
  · cases h
  next hn =>
  refine ⟨by simpa using hc, ?_⟩
  by_cases he : t.nameSpace = ""
  · exact .inl he
  · simpa [he] using hn

theorem no_slash_of_isIdentifier {cs : List Char} (h : isIdentifier cs = true) : '/' ∉ cs :=
  fun hm => absurd ((isIdentifier_iff.mp h).1 '/' hm) (by decide)

theorem isPart_nameSpace (h : t.error? = none) (hn : t.nameSpace ≠ "") :
    Path.IsPart t.nameSpace := by
  have hall := (identifiers_of_error? h).2.resolve_left hn
  have hne : ∀ other : String, (other.toList.splitOn '.').all isIdentifier = false →
      t.nameSpace ≠ other := by
    rintro _ ho rfl
    rw [List.all_eq_true.mpr hall] at ho
    cases ho
  refine ⟨hn, hne _ (by decide), hne _ (by decide), fun hm => ?_⟩
  obtain ⟨piece, hp, hs⟩ := exists_mem_of_mem_splitOnP (p := (· == '.')) hm (by decide)
  exact no_slash_of_isIdentifier (hall piece hp) hs

theorem isPart_classFile (h : t.error? = none) : Path.IsPart (t.className ++ ".g.cs") :=
  Path.isPart_append (no_slash_of_isIdentifier (identifiers_of_error? h).1) (by decide) (by decide)

theorem parts_fileName (h : t.error? = none) : Path.parts t.fileName =
    (if t.nameSpace = "" then [] else [t.nameSpace]) ++ [t.className ++ ".g.cs"] := by
  have hc := Path.parts_of_no_slash (isPart_classFile h).no_slash
  unfold fileName
  by_cases hn : t.nameSpace = ""
  · simp [hn, hc]
  · have hp := Path.parts_of_no_slash (isPart_nameSpace h hn).no_slash
    rw [if_neg (by simpa using hn), if_neg hn, String.append_assoc, Path.parts_append_slash, hc, hp]

theorem isPlain_fileName (h : t.error? = none) : Path.IsPlain t.fileName := by
  intro part hm
  rw [parts_fileName h] at hm
  rcases List.mem_append.mp hm with hm | hm
  · split at hm
    · cases hm
    · next hn =>
      obtain rfl := List.mem_singleton.mp hm
      exact isPart_nameSpace h hn
  · obtain rfl := List.mem_singleton.mp hm
    exact isPart_classFile h

theorem valid_of_firstError? (h : firstError? files targets = none) :
    (∀ t ∈ targets, t.error? = none) ∧ (targets.map (·.fileName)).Nodup ∧
      ∀ t ∈ targets, t.fileName ∉ files := by
  induction targets generalizing files with
  | nil => simp
  | cons t rest ih =>
    unfold firstError? at h
    split at h
    · cases h
    next he =>
    split at h
    · cases h
    next hf =>
    obtain ⟨hvalid, hnodup, hfresh⟩ := ih h
    refine ⟨List.forall_mem_cons.mpr ⟨he, hvalid⟩, List.nodup_cons.mpr ⟨fun hm => ?_, hnodup⟩,
      List.forall_mem_cons.mpr ⟨by simpa using hf, fun s hs hm => ?_⟩⟩
    · obtain ⟨s, hs, hst⟩ := List.mem_map.mp hm
      exact hfresh s hs (hst ▸ List.mem_cons_self)
    · exact hfresh s hs (List.mem_cons_of_mem _ hm)

end Target

theorem Manifest.targets_of_error? {m : Manifest} (h : m.error? = none) :
    (∀ t ∈ m.targets, t.error? = none) ∧ (m.targets.map (·.fileName)).Nodup := by
  unfold error? at h
  dsimp only at h
  split at h
  · cases h
  split at h
  · cases h
  split at h
  · cases h
  split at h
  · cases h
  obtain ⟨hvalid, hnodup, -⟩ := Target.valid_of_firstError? h
  exact ⟨hvalid, hnodup⟩

/-! ## Units of a pass -/

namespace Generator

variable (g : Generator) (parse : SchemaParser) (resources : List Resource)

theorem target_of_unit? {t : Target} {unit : GeneratedUnit}
    (h : (g.runTarget parse resources t).unit? = some unit) :
    unit.target = t ∧ unit.fileName = t.fileName := by
  have hr := ran_runTarget g parse resources t
  generalize g.runTarget parse resources t = outcome at h hr
  cases hr with
  | generated =>
    obtain rfl := Option.some.inj h
    exact ⟨rfl, rfl⟩
  | _ => cases h

theorem units_run (targets : List Target) : (g.run parse resources targets).units =
    targets.filterMap fun t => (g.runTarget parse resources t).unit? := by
  rw [run_eq]
  simp only [Outcome.result]
  induction targets with
  | nil => rfl
  | cons t rest ih =>
    rw [List.flatMap_cons, ih, List.filterMap_cons]
    cases (g.runTarget parse resources t).unit? <;> rfl

theorem fileName_of_mem_units {targets : List Target} {unit : GeneratedUnit}
    (h : unit ∈ (g.run parse resources targets).units) :
    unit.target ∈ targets ∧ unit.fileName = unit.target.fileName := by
  rw [units_run] at h
  obtain ⟨t, ht, hu⟩ := List.mem_filterMap.mp h
  obtain ⟨rfl, hf⟩ := g.target_of_unit? parse resources hu
  exact ⟨ht, hf⟩

/-- Units come in the order of their targets. -/
theorem map_target_units_sublist (targets : List Target) :
    List.Sublist ((g.run parse resources targets).units.map (·.target)) targets := by
  rw [units_run]
  induction targets with
  | nil => exact List.Sublist.refl []
  | cons t rest ih =>
    rw [List.filterMap_cons]
    split
    · exact ih.cons t
    · next unit hu =>
      rw [List.map_cons, (g.target_of_unit? parse resources hu).1]
      exact ih.cons_cons t

theorem nodup_fileNames {targets : List Target} (h : (targets.map (·.fileName)).Nodup) :
    ((g.run parse resources targets).units.map (·.fileName)).Nodup := by
  have he : (g.run parse resources targets).units.map (·.fileName) =
      ((g.run parse resources targets).units.map (·.target)).map (·.fileName) := by
    rw [List.map_map]
    exact List.map_congr_left fun u hu => (g.fileName_of_mem_units parse resources hu).2
  rw [he]
  exact ((g.map_target_units_sublist parse resources targets).map _).nodup h

/-- A pass reports no error exactly when every target has a unit. -/
theorem errors_eq_zero_iff (targets : List Target) :
    (Tally.ofDiagnostics (g.run parse resources targets).diagnostics).errors = 0 ↔
      ∀ t ∈ targets, ∃ unit ∈ (g.run parse resources targets).units, unit.target = t := by
  rw [(g.length_units_run parse resources targets).2, units_run, List.filterMap_length_eq_length]
  refine forall₂_congr fun t ht => ⟨fun h => ?_, fun ⟨unit, hm, ht'⟩ => ?_⟩
  · obtain ⟨unit, hu⟩ := Option.isSome_iff_exists.mp h
    exact ⟨unit, List.mem_filterMap.mpr ⟨t, ht, hu⟩, (g.target_of_unit? parse resources hu).1⟩
  · obtain ⟨s, -, hu⟩ := List.mem_filterMap.mp hm
    obtain ⟨rfl, -⟩ := g.target_of_unit? parse resources hu
    subst ht'
    exact Option.isSome_iff_exists.mpr ⟨unit, hu⟩

end Generator

end EntityGen
