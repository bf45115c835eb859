import EntityGen.Proofs.Command.Preparation
import Mathlib.Algebra.GroupWithZero.Nat

/-! # Discovery in a tree that has grown

Discovery does not notice files of code and directories for them: it finds the same files in a tree
with more of them. The only exception is a directory that is named like a schema and whose path has
become too long to be followed, as it counts as a file then.
-/

namespace EntityGen

/-! ## Names and their endings -/

namespace Path

variable {base name ending : String}

theorem suffix_of_ending? (h : ending? name = some ending) : ending.toList <:+ name.toList := by
  unfold ending? at h
  dsimp only at h
  split at h
  · obtain rfl := Option.some.inj h
    rw [String.toList_ofList, ← List.reverse_prefix, List.reverse_reverse]
    exact List.takeWhile_prefix _
  · cases h

theorem suffix_join (base name : String) : name.toList <:+ (join base name).toList := by
  unfold join
  split
  · exact List.suffix_rfl
  · split
    · rw [String.toList_append]
      exact List.suffix_append _ _
    · rw [String.toList_append]
      exact List.suffix_append _ _

theorem isAbsolute_join (hb : isAbsolute base = false) (hn : isAbsolute name = false) :
    isAbsolute (join base name) = false := by
  unfold join
  rw [hn, if_neg Bool.false_ne_true]
  by_cases he : base = ""
  · subst he
    rwa [if_pos (by decide), String.empty_append]
  · have hne : base.toList ≠ [] := fun h => he (String.toList_eq_nil_iff.mp h)
    unfold isAbsolute at hb ⊢
    split <;> simpa [List.head?_append_of_ne_nil _ hne] using hb

theorem utf8ByteSize_join_le (base name : String) :
    (join base name).utf8ByteSize ≤ base.utf8ByteSize + (name.utf8ByteSize + 1) := by
  have hslash : "/".utf8ByteSize = 1 := by decide
  unfold join
  split
  · omega
  · split <;> simp only [String.utf8ByteSize_append, hslash] <;> omega

theorem not_suffix_of_getLast? {cs : List Char} {c : Char} (h : cs.getLast? = some c)
    (hc : c ≠ 's') : ¬ ".g.cs".toList <:+ cs := by
  rintro ⟨before, rfl⟩
  rw [List.getLast?_append_of_ne_nil _ (by decide)] at h
  exact hc (Option.some.inj h).symm

/-- No name ends as a schema and as a file of code. -/
theorem not_suffix_of_suffix {cs : List Char} (h : "json".toList <:+ cs) :
    ¬ ".g.cs".toList <:+ cs := by
  obtain ⟨before, rfl⟩ := h
  refine not_suffix_of_getLast? (c := 'n') ?_ (by decide)
  rw [List.getLast?_append_of_ne_nil _ (by decide)]
  rfl

end Path

namespace FileTree

variable {t t' : FileTree} {written : List String → Prop} {place q : List String}
  {path name text : String}

/-- Every name in the tree is one by which a path can lead into a directory. -/
def IsNamed (t : FileTree) : Prop :=
  ∀ e ∈ t.entries, ∀ name ∈ e.1, Path.IsPart name

instance : DecidablePred IsNamed := fun t =>
  inferInstanceAs (Decidable (∀ e ∈ t.entries, ∀ name ∈ e.1, Path.IsPart name))

theorem IsNamed.isPart (h : t.IsNamed) (hm : name ∈ t.names q) : Path.IsPart name := by
  obtain ⟨e, he, hp⟩ := mem_names_iff.mp hm
  exact h e he name (hp.subset (List.mem_append_right q (List.mem_singleton_self name)))

def IsCodePlace (place : List String) : Prop :=
  ∃ above name, place = above ++ [name] ∧ ".g.cs".toList <:+ name.toList

theorem IsCodePlace.suffix (h : IsCodePlace (q ++ [name])) : ".g.cs".toList <:+ name.toList := by
  obtain ⟨above, other, he, hs⟩ := h
  obtain ⟨-, hn⟩ := List.append_inj' he rfl
  rwa [List.singleton_inj.mp hn]

/-- A path with another ending reads what it has read before files of code were written. -/
theorem Grows.readText_of_not_code (h : Grows IsCodePlace t t')
    (hp : ¬ ".g.cs".toList <:+ path.toList) (hr : t.readText path = some text) :
    t'.readText path = some text := by
  refine h.readText hr fun q hq hcode => ?_
  rcases place?_cases hq with hd | ⟨above, name, rfl, -, -, hs⟩
  · simp [FileTree.readText, hq, FileTree.file?, hd] at hr
  · exact hp (hcode.suffix.trans hs)

theorem place?_join_of_isPart (hd : t.isDirectory q = true) (hp : t.place? path = some q)
    (hn : Path.IsPart name) : t.place? (Path.join path name) =
      if isName name = true ∧ (Path.join path name).utf8ByteSize ≤ longestPath
      then some (q ++ [name]) else none := by
  obtain ⟨hne, habs, -, hf⟩ := place?_eq_some_iff.mp hp
  have ha : Path.isAbsolute name = false := (Path.isPlain_of_isPart hn).isAbsolute
  have hfollow : t.follow? (Path.join path name) =
      if isName name then some (q ++ [name]) else none := by
    rw [follow?_join ha, hf, Option.bind_some, Path.parts_of_no_slash hn.no_slash,
      ← step?_of_isPart hd hn]
    exact bind_pure _
  have hempty : Path.join path name ≠ "" := fun he =>
    hn.ne_empty (String.toList_eq_nil_iff.mp (List.suffix_nil.mp (by
      have hs := Path.suffix_join path name
      rwa [he] at hs)))
  have hjoin := Path.isAbsolute_join habs ha
  refine Option.ext fun x => ?_
  rw [place?_eq_some_iff, hfollow]
  by_cases hl : (Path.join path name).utf8ByteSize ≤ longestPath
  · cases isName name <;> simp [hl, hempty, hjoin]
  · simp [hl]

end FileTree

/-! ## The same files again -/

namespace Command

variable {t t' : FileTree} {depth : Nat} {parts names : List String} {path name root : String}
  {found : List Found}

theorem observes_collectNames_append {before after : List String} {first more : List Found}
    (hb : Observes (collectNames FileTree.disk depth parts path before) t (.ok first))
    (ha : Observes (collectNames FileTree.disk depth parts path after) t (.ok more)) :
    Observes (collectNames FileTree.disk depth parts path (before ++ after)) t
      (.ok (first ++ more)) := by
  induction before generalizing first with
  | nil =>
    rw [collectNames] at hb
    obtain rfl : first = [] := Except.ok.inj (hb.unique (.pure []))
    exact ha
  | cons name rest ih =>
    obtain ⟨x, y, hx, hy, rfl⟩ := observes_collectNames_cons_ok hb
    rw [List.append_assoc]
    exact observes_collectNames_cons hx (ih hy)

theorem observes_collectNames_nothing
    (h : ∀ name ∈ names, Observes (collectName depth parts path name) t (.ok [])) :
    Observes (collectNames FileTree.disk depth parts path names) t (.ok []) := by
  induction names with
  | nil =>
    rw [collectNames]
    exact .pure []
  | cons name rest ih =>
    obtain ⟨hname, hrest⟩ := List.forall_mem_cons.mp h
    exact observes_collectNames_cons hname (ih hrest)

theorem observes_collectNames_imp
    (h : ∀ name ∈ names, ∀ found, Observes (collectName depth parts path name) t (.ok found) →
      Observes (collectName depth parts path name) t' (.ok found))
    (hf : Observes (collectNames FileTree.disk depth parts path names) t (.ok found)) :
    Observes (collectNames FileTree.disk depth parts path names) t' (.ok found) := by
  induction names generalizing found with
  | nil =>
    rw [collectNames] at hf ⊢
    obtain rfl : found = [] := Except.ok.inj (hf.unique (.pure []))
    exact .pure []
  | cons name rest ih =>
    obtain ⟨hname, hrest⟩ := List.forall_mem_cons.mp h
    obtain ⟨x, y, hx, hy, rfl⟩ := observes_collectNames_cons_ok hf
    exact observes_collectNames_cons (hname x hx) (ih hrest hy)

/-- The path by which discovery reaches what is below a directory. -/
def spelled (root : String) (parts : List String) : String :=
  parts.foldl Path.join root

theorem spelled_concat (root : String) (parts : List String) (name : String) :
    spelled root (parts ++ [name]) = Path.join (spelled root parts) name := by
  simp [spelled]

/-- No new directory named like a schema is out of reach where the directory above it is not. -/
def KeepsInReach (t t' : FileTree) (root : String) : Prop :=
  ∀ r parts name, t.place? root = some r →
    (∀ part ∈ parts ++ [name], Path.isHidden part = false) →
    Path.ending? name = some schemaEnding →
    t.isDirectory (r ++ parts ++ [name]) = false → t'.isDirectory (r ++ parts ++ [name]) = true →
    (spelled root parts).utf8ByteSize ≤ FileTree.longestPath →
    (spelled root (parts ++ [name])).utf8ByteSize ≤ FileTree.longestPath

/-- The parts of a path count with a slash each. -/
def sizeOfParts (parts : List String) : Nat :=
  (parts.map (·.utf8ByteSize + 1)).sum

theorem utf8ByteSize_spelled_le (root : String) (parts : List String) :
    (spelled root parts).utf8ByteSize ≤ root.utf8ByteSize + sizeOfParts parts := by
  induction parts generalizing root with
  | nil => exact Nat.le_refl _
  | cons part rest ih =>
    have hall : sizeOfParts (part :: rest) = part.utf8ByteSize + 1 + sizeOfParts rest := rfl
    have hrest : (spelled root (part :: rest)).utf8ByteSize ≤
        (Path.join root part).utf8ByteSize + sizeOfParts rest := ih _
    have hpart := Path.utf8ByteSize_join_le root part
    omega

/-- Everything is in reach where all places are short. -/
theorem keepsInReach_of_size (h : ∀ e ∈ t'.entries,
    root.utf8ByteSize + sizeOfParts e.1 ≤ FileTree.longestPath) : KeepsInReach t t' root := by
  intro r parts name _ _ _ _ hdir _
  rcases FileTree.isDirectory_iff.mp hdir with hnil | ⟨e, he, ⟨rest, hrest⟩, -⟩
  · exact absurd hnil (by simp)
  · have hsize := h e he
    have hbound := utf8ByteSize_spelled_le root (parts ++ [name])
    rw [← hrest, List.append_assoc r] at hsize
    simp only [sizeOfParts, List.map_append, List.sum_append] at hsize hbound
    omega

/-- Discovery is in the directory with the parts below the place `r` of the schema directory. -/
structure Reaches (t : FileTree) (root : String) (r parts : List String) : Prop where
  place : t.place? (spelled root parts) = some (r ++ parts)
  isDirectory : t.isDirectory (r ++ parts) = true
  shown : ∀ part ∈ parts, Path.isHidden part = false

namespace Reaches

variable {r : List String}

theorem listed_eq (h : Reaches t root r parts) :
    listed t (spelled root parts) = some (t.names (r ++ parts)) := by
  simp [listed, h.place, h.isDirectory]

theorem grows {written : List String → Prop} (h : Reaches t root r parts)
    (hg : FileTree.Grows written t t') : Reaches t' root r parts :=
  ⟨hg.place? h.place, hg.isDirectory h.isDirectory, h.shown⟩

theorem leadsToDirectory_iff (h : Reaches t root r parts) (hn : Path.IsPart name) :
    leadsToDirectory t (Path.join (spelled root parts) name) = true ↔
      FileTree.isName name = true ∧
      (Path.join (spelled root parts) name).utf8ByteSize ≤ FileTree.longestPath ∧
      t.isDirectory (r ++ parts ++ [name]) = true := by
  rw [leadsToDirectory, FileTree.place?_join_of_isPart h.isDirectory h.place hn]
  split
  · next hs => simp [hs]
  · next hs =>
    simp only [Option.any_none, Bool.false_eq_true, false_iff]
    exact fun hc => hs ⟨hc.1, hc.2.1⟩

theorem below (h : Reaches t root r parts) (hn : Path.IsPart name)
    (hh : Path.isHidden name = false)
    (hd : leadsToDirectory t (Path.join (spelled root parts) name) = true) :
    Reaches t root r (parts ++ [name]) := by
  obtain ⟨hs, hl, hdir⟩ := (h.leadsToDirectory_iff hn).mp hd
  rw [List.append_assoc] at hdir
  refine ⟨?_, hdir, List.forall_mem_append.mpr ⟨h.shown, List.forall_mem_singleton.mpr hh⟩⟩
  rw [spelled_concat, FileTree.place?_join_of_isPart h.isDirectory h.place hn, if_pos ⟨hs, hl⟩,
    List.append_assoc]

end Reaches

section Growth

variable {r : List String} (hgrows : FileTree.Grows FileTree.IsCodePlace t t')
  (hreach : KeepsInReach t t' root) (hroot : t.place? root = some r)

include hreach hroot in
/-- A new name leads to no schema. -/
theorem observes_collectName_new (h : Reaches t' root r parts) (hn : Path.IsPart name)
    (hold : t.isDirectory (r ++ parts ++ [name]) = false)
    (hnew : t'.isDirectory (r ++ parts ++ [name]) = true ∧ FileTree.isName name = true ∨
      FileTree.IsCodePlace (r ++ parts ++ [name]))
    (ih : Reaches t' root r (parts ++ [name]) → Observes (collect FileTree.disk depth
      (parts ++ [name]) (spelled root (parts ++ [name]))) t' (.ok [])) :
    Observes (collectName depth parts (spelled root parts) name) t' (.ok []) := by
  cases hh : Path.isHidden name with
  | true => exact observes_collectName_hidden hh
  | false =>
    cases hd : leadsToDirectory t' (Path.join (spelled root parts) name) with
    | true =>
      have hc := ih (h.below hn hh hd)
      rw [spelled_concat] at hc
      exact observes_collectName_directory hh hd hc
    | false =>
      have hf : Observes (collectName depth parts (spelled root parts) name) t'
          (.ok (foundFile parts (spelled root parts) name)) := observes_collectName_file hh hd
      have hending : Path.ending? name ≠ some schemaEnding := by
        intro he
        rcases hnew with ⟨hdir, hs⟩ | hcode
        · have hl := hreach r parts name hroot
            (List.forall_mem_append.mpr ⟨h.shown, List.forall_mem_singleton.mpr hh⟩) he hold hdir
            (FileTree.place?_eq_some_iff.mp h.place).2.2.1
          rw [spelled_concat] at hl
          rw [(h.leadsToDirectory_iff hn).mpr ⟨hs, hl, hdir⟩] at hd
          cases hd
        · exact Path.not_suffix_of_suffix (Path.suffix_of_ending? he) hcode.suffix
      rwa [foundFile, if_neg (by simpa using hending)] at hf

include hgrows hreach hroot in
/-- A new directory holds no schema. -/
theorem observes_collect_new (h : Reaches t' root r parts)
    (hold : t.isDirectory (r ++ parts) = false) :
    Observes (collect FileTree.disk depth parts (spelled root parts)) t' (.ok []) := by
  induction depth generalizing parts with
  | zero =>
    rw [collect]
    exact .pure []
  | succ depth ih =>
    obtain ⟨new, hnames, hnew⟩ := hgrows.names (r ++ parts)
    have hempty : t.names (r ++ parts) = [] := by
      refine List.eq_nil_iff_forall_not_mem.mpr fun name hm => ?_
      rw [FileTree.isDirectory_of_mem_names hm] at hold
      cases hold
    rw [hempty, List.nil_append] at hnames
    refine observes_collect_some (h.listed_eq.trans (congrArg some hnames)) ?_
    refine observes_collectNames_nothing fun name hm => ?_
    obtain ⟨hn, hd, hk⟩ := hnew name hm
    refine observes_collectName_new hreach hroot h hn hd hk fun hb => ih hb ?_
    rwa [← List.append_assoc]

include hgrows hreach hroot in
theorem observes_collect_grows (hnamed : t.IsNamed) (h : Reaches t root r parts)
    (hf : Observes (collect FileTree.disk depth parts (spelled root parts)) t (.ok found)) :
    Observes (collect FileTree.disk depth parts (spelled root parts)) t' (.ok found) := by
  induction depth generalizing parts found with
  | zero =>
    rw [collect] at hf ⊢
    obtain rfl : found = [] := Except.ok.inj (hf.unique (.pure []))
    exact .pure []
  | succ depth ih =>
    obtain ⟨names, hl, hf⟩ := observes_collect_ok hf
    obtain rfl : t.names (r ++ parts) = names := Option.some.inj (h.listed_eq.symm.trans hl)
    have h' := h.grows hgrows
    obtain ⟨new, hnames, hnew⟩ := hgrows.names (r ++ parts)
    refine observes_collect_some (h'.listed_eq.trans (congrArg some hnames)) ?_
    rw [← List.append_nil found]
    -- The names that were listed before come first and give what they gave; new ones give nothing.
    refine observes_collectNames_append (observes_collectNames_imp ?_ hf) ?_
    · intro name hm found hname
      have hn := hnamed.isPart hm
      have hleads : leadsToDirectory t' (Path.join (spelled root parts) name) =
          leadsToDirectory t (Path.join (spelled root parts) name) := by
        rw [Bool.eq_iff_iff, h'.leadsToDirectory_iff hn, h.leadsToDirectory_iff hn,
          hgrows.isDirectory_eq_of_mem_names hm]
      rcases observes_collectName_cases hname with ⟨hh, rfl⟩ | ⟨hh, ⟨hd, hc⟩ | ⟨hd, rfl⟩⟩
      · exact observes_collectName_hidden hh
      · rw [← spelled_concat] at hc
        have hc' := ih (h.below hn hh hd) hc
        rw [spelled_concat] at hc'
        exact observes_collectName_directory hh (hleads.trans hd) hc'
      · exact observes_collectName_file hh (hleads.trans hd)
    · refine observes_collectNames_nothing fun name hm => ?_
      obtain ⟨hn, hd, hk⟩ := hnew name hm
      refine observes_collectName_new hreach hroot h' hn hd hk fun hb => ?_
      refine observes_collect_new hgrows hreach hroot hb ?_
      rwa [← List.append_assoc]

end Growth

/-! ## The same resources and units again -/

theorem suffix_of_mem_foundFile {f : Found} (h : f ∈ foundFile parts path name) :
    "json".toList <:+ f.path.toList := by
  unfold foundFile at h
  split at h
  · next he =>
    obtain rfl := List.mem_singleton.mp h
    exact (Path.suffix_of_ending? (beq_iff_eq.mp he)).trans (Path.suffix_join path name)
  · cases h

theorem suffix_of_mem_collectNames
    (hc : ∀ {parts path found}, Observes (collect FileTree.disk depth parts path) t (.ok found) →
      ∀ f ∈ found, "json".toList <:+ f.path.toList)
    (h : Observes (collectNames FileTree.disk depth parts path names) t (.ok found)) :
    ∀ f ∈ found, "json".toList <:+ f.path.toList := by
  induction names generalizing found with
  | nil =>
    rw [collectNames] at h
    obtain rfl : found = [] := Except.ok.inj (h.unique (.pure []))
    exact List.forall_mem_nil _
  | cons name rest ih =>
    obtain ⟨x, y, hx, hy, rfl⟩ := observes_collectNames_cons_ok h
    refine List.forall_mem_append.mpr ⟨?_, ih hy⟩
    rcases observes_collectName_cases hx with ⟨-, rfl⟩ | ⟨-, ⟨-, hd⟩ | ⟨-, rfl⟩⟩
    · exact List.forall_mem_nil _
    · exact hc hd
    · exact fun f hm => suffix_of_mem_foundFile hm

theorem suffix_of_mem_collect
    (h : Observes (collect FileTree.disk depth parts path) t (.ok found)) :
    ∀ f ∈ found, "json".toList <:+ f.path.toList := by
  induction depth generalizing parts path found with
  | zero =>
    rw [collect] at h
    obtain rfl : found = [] := Except.ok.inj (h.unique (.pure []))
    exact List.forall_mem_nil _
  | succ depth ih =>
    obtain ⟨names, -, hn⟩ := observes_collect_ok h
    exact suffix_of_mem_collectNames ih hn

section Growth

variable (hgrows : FileTree.Grows FileTree.IsCodePlace t t')

include hgrows in
theorem resourcesOf_grows {resources : List Resource}
    (hf : ∀ f ∈ found, "json".toList <:+ f.path.toList)
    (h : resourcesOf t found = .ok resources) : resourcesOf t' found = .ok resources := by
  induction found generalizing resources with
  | nil => exact h
  | cons f rest ih =>
    obtain ⟨hpath, hrest⟩ := List.forall_mem_cons.mp hf
    rw [resourcesOf] at h ⊢
    cases hr : t.readText f.path with
    | none =>
      rw [hr] at h
      cases h
    | some content =>
      rw [hr] at h
      rw [hgrows.readText_of_not_code (Path.not_suffix_of_suffix hpath) hr]
      dsimp only at h ⊢
      cases hall : resourcesOf t rest with
      | error e =>
        rw [hall] at h
        cases h
      | ok more =>
        rw [hall] at h
        rwa [ih hrest hall]

include hgrows in
theorem discover_grows {resources : List Resource} (hnamed : t.IsNamed)
    (hreach : KeepsInReach t t' root) (h : t.discover root = .ok resources) :
    t'.discover root = .ok resources := by
  have ho := (observes_discover t root).1
  rw [h] at ho
  cases hd : leadsToDirectory t root with
  | false => cases ho.unique (observes_discover_none hd)
  | true =>
    obtain ⟨r, hr, hdir⟩ := leadsToDirectory_iff.mp hd
    have hroot : Reaches t root r [] :=
      ⟨by rwa [List.append_nil], by rwa [List.append_nil], List.forall_mem_nil _⟩
    have hd' : leadsToDirectory t' root = true :=
      leadsToDirectory_iff.mpr ⟨r, hgrows.place? hr, hgrows.isDirectory hdir⟩
    obtain ⟨s, hc, -⟩ := exists_collect t deepest [] root
    have he := ho.unique (observes_discover_of_collect t.shows_disk hd hc)
    cases s with
    | error e => cases he
    | ok found =>
      have hres : resourcesOf t' (sortFound found) = .ok resources := by
        refine resourcesOf_grows hgrows (fun f hm => ?_) he.symm
        exact suffix_of_mem_collect hc f (List.mem_mergeSort.mp hm)
      have hc' := observes_collect_grows hgrows hreach hr hnamed hroot hc
      have hfinal := observes_discover_of_collect t'.shows_disk hd' hc'
      exact (observes_discover t' root).1.unique (hres ▸ hfinal)

variable {environment level : Option String} {p : Prepared}

include hgrows in
theorem loaded_grows {project : LoadedProject} (hpath : ¬ ".g.cs".toList <:+ path.toList)
    (h : loaded environment level path (t.readText path) = .ok project) :
    loaded environment level path (t'.readText path) = .ok project := by
  cases hr : t.readText path with
  | none =>
    rw [hr] at h
    cases h
  | some text => rw [hgrows.readText_of_not_code hpath hr, ← hr, h]

include hgrows in
/-- What is prepared from a tree is prepared from it again when it has grown. -/
theorem prepared_grows (hnamed : t.IsNamed) (hpath : ¬ ".g.cs".toList <:+ path.toList)
    (hp : prepared t environment level path = .ok p)
    (hreach : KeepsInReach t t' p.project.schemaDir) :
    prepared t' environment level path = .ok p := by
  obtain ⟨project, resources, hl, hd, rfl⟩ := prepared_eq_ok hp
  exact prepared_of_discover (loaded_grows hgrows hpath hl)
    (discover_grows hgrows hnamed hreach hd)

end Growth

/-! ## Names out of reach -/

theorem mem_of_observes_collectNames {depth : Nat} {parts names : List String} {path name : String}
    {found : List Found} (hm : name ∈ names)
    (h : Observes (collectNames FileTree.disk depth parts path names) t (.ok found)) :
    ∃ first, Observes (collectName depth parts path name) t (.ok first) ∧ first ⊆ found := by
  induction names generalizing found with
  | nil => cases hm
  | cons other rest ih =>
    obtain ⟨first, more, hf, hr, rfl⟩ := observes_collectNames_cons_ok h
    rcases List.mem_cons.mp hm with rfl | hm
    · exact ⟨first, hf, List.subset_append_left _ _⟩
    · obtain ⟨found, hn, hs⟩ := ih hm hr
      exact ⟨found, hn, List.Subset.trans hs (List.subset_append_right _ _)⟩

theorem isSome_readText_of_resourcesOf {found : List Found} {resources : List Resource}
    (h : resourcesOf t found = .ok resources) :
    ∀ f ∈ found, (t.readText f.path).isSome = true := by
  induction found generalizing resources with
  | nil => exact List.forall_mem_nil _
  | cons f rest ih =>
    rw [resourcesOf] at h
    cases hr : t.readText f.path with
    | none =>
      rw [hr] at h
      cases h
    | some content =>
      rw [hr] at h
      dsimp only at h
      cases hall : resourcesOf t rest with
      | error e =>
        rw [hall] at h
        cases h
      | ok more => exact List.forall_mem_cons.mpr ⟨by rw [hr]; rfl, ih hall⟩

/-- What is named like a schema and cannot be reached stops discovery. -/
theorem discover_ne_ok {root name : String} {place : List String} {resources : List Resource}
    (hr : t.place? root = some place) (hm : name ∈ t.names place)
    (hh : Path.isHidden name = false) (he : Path.ending? name = some schemaEnding)
    (hn : t.place? (Path.join root name) = none) : t.discover root ≠ .ok resources := by
  intro h
  have ho := (observes_discover t root).1
  rw [h] at ho
  have hdir := FileTree.isDirectory_of_mem_names hm
  obtain ⟨r, hc, -⟩ := exists_collect t deepest [] root
  have hd : leadsToDirectory t root = true := leadsToDirectory_iff.mpr ⟨place, hr, hdir⟩
  have hres := ho.unique (observes_discover_of_collect t.shows_disk hd hc)
  cases r with
  | error e => cases hres
  | ok found =>
    obtain ⟨names, hl, hf⟩ := observes_collect_ok hc
    obtain rfl : t.names place = names := by simpa [listed, hr, hdir] using hl
    obtain ⟨first, hfirst, hsub⟩ := mem_of_observes_collectNames hm hf
    have hleads : leadsToDirectory t (Path.join root name) = false := by
      rw [leadsToDirectory, hn]
      rfl
    have hfirst' : first = foundFile [] root name :=
      Except.ok.inj (hfirst.unique (observes_collectName_file hh hleads))
    rw [foundFile, if_pos (beq_iff_eq.mpr he)] at hfirst'
    have hmem : (⟨[] ++ [name], Path.join root name⟩ : Found) ∈ sortFound found :=
      List.mem_mergeSort.mpr (hsub (by rw [hfirst']; exact List.mem_singleton_self _))
    have hread := isSome_readText_of_resourcesOf hres.symm _ hmem
    simp [FileTree.readText, hn] at hread

end Command

end EntityGen
