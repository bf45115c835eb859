import EntityGen.Proofs.Files.Growth

/-! # Where paths lead

A path is followed part by part. What it leads to stays where it is when a tree grows, a path that
continues another one leads on from there, and creating directories or writing a file changes the
tree at places below the directories that the path leads through.
-/

namespace EntityGen

/-! ## Parts of paths -/

namespace Path

theorem not_mem_of_mem_splitOn {c : Char} {cs part : List Char} (h : part ∈ cs.splitOn c) :
    c ∉ part := by
  induction cs generalizing part with
  | nil =>
    obtain rfl : part = [] := by simpa using h
    exact List.not_mem_nil
  | cons d cs ih =>
    rw [List.splitOn_cons_eq_if_modifyHead] at h
    obtain ⟨first, rest, hs⟩ := List.exists_cons_of_ne_nil (List.splitOn_ne_nil c cs)
    split at h
    · rcases List.mem_cons.mp h with rfl | hm
      · exact List.not_mem_nil
      · exact ih hm
    · next hd =>
      rw [hs] at h ih
      rcases List.mem_cons.mp h with rfl | hm
      · have hf := ih List.mem_cons_self
        have hcd : c ≠ d := by
          rintro rfl
          exact hd (beq_self_eq_true c)
        simp [hcd, hf]
      · exact ih (List.mem_cons_of_mem _ hm)

theorem getLast_suffix_intercalate (sep : List Char) {parts : List (List Char)} (h : parts ≠ []) :
    parts.getLast h <:+ sep.intercalate parts := by
  induction parts with
  | nil => exact absurd rfl h
  | cons first rest ih =>
    cases rest with
    | nil => simp
    | cons second rest =>
      rw [List.getLast_cons_cons, List.intercalate_cons_cons]
      exact (ih (List.cons_ne_nil _ _)).trans (List.suffix_append _ _)

theorem no_slash_of_mem_parts {path part : String} (h : part ∈ parts path) :
    '/' ∉ part.toList := by
  obtain ⟨cs, hcs, rfl⟩ := List.mem_map.mp h
  rw [String.toList_ofList]
  exact not_mem_of_mem_splitOn hcs

theorem parts_ne_nil (path : String) : parts path ≠ [] := by
  simp [parts]

/-- The last part ends the path. -/
theorem getLast_parts_suffix (path : String) :
    ((parts path).getLast (parts_ne_nil path)).toList <:+ path.toList := by
  have hs := getLast_suffix_intercalate ['/'] (List.splitOn_ne_nil '/' path.toList)
  rw [List.intercalate_splitOn] at hs
  simpa [parts, List.getLast_map] using hs

theorem parts_append_slash (a b : String) : parts (a ++ "/" ++ b) = parts a ++ parts b := by
  have hs : (a ++ "/" ++ b).toList = a.toList ++ '/' :: b.toList := by simp
  rw [parts, hs, List.splitOn_append_cons_self, List.map_append]
  rfl

/-- A name stands behind a slash where the path above it does not end in one. -/
theorem join_eq_append {base name : String} (hb : base.toList.getLast?.any (· != '/') = true)
    (hn : isAbsolute name = false) : join base name = base ++ "/" ++ name := by
  have he : base.isEmpty = false := by
    rw [Bool.eq_false_iff, Ne, String.isEmpty_iff]
    rintro rfl
    cases hb
  have hc : ¬ (base.toList.getLast? == some '/') = true := by
    intro h
    rw [beq_iff_eq.mp h] at hb
    cases hb
  rw [join, hn, he, if_neg Bool.false_ne_true, Bool.false_or, if_neg hc]

theorem dropTrailing_of_head {c : Char} (hs : c ≠ '/') (hp : c ≠ '.') (cs : List Char) :
    dropTrailing (c :: cs) = c :: cs := by
  unfold dropTrailing
  split <;> simp_all

/-- What a path below a directory is cut back to, unless slashes or points stand at its end. -/
theorem parent_append_slash {base file : String} {c d : Char} {cs ds : List Char}
    (hb : base.toList.reverse = c :: cs) (hc : c ≠ '/') (hkept : dropTrailing (c :: cs) = c :: cs)
    (hf : file.toList.reverse = d :: ds) (hd : d ≠ '.') (hn : '/' ∉ file.toList) :
    parent (base ++ "/" ++ file) = base := by
  have hslash : ∀ x ∈ d :: ds, x ≠ '/' := by
    rintro x hx rfl
    rw [← hf] at hx
    exact hn (List.mem_reverse.mp hx)
  have hr : (base ++ "/" ++ file).toList.reverse = (d :: ds) ++ '/' :: c :: cs := by
    rw [← hb, ← hf]
    simp
  have htrim : dropTrailing ((d :: ds) ++ '/' :: c :: cs) = (d :: ds) ++ '/' :: c :: cs :=
    dropTrailing_of_head (hslash d List.mem_cons_self) hd _
  have habove : ((d :: ds) ++ '/' :: c :: cs).dropWhile (· != '/') = '/' :: c :: cs := by
    rw [List.dropWhile_append_of_pos (by simpa using hslash)]
    rfl
  have hcut : dropTrailing ('/' :: c :: cs) = c :: cs := by
    rw [dropTrailing]
    · exact hkept
    · simpa using hc
    · simp
  rw [parent, hr, htrim, habove, hcut, ← hb, List.reverse_reverse, String.ofList_toList]

theorem parts_of_no_slash {name : String} (h : '/' ∉ name.toList) : parts name = [name] := by
  rw [parts, List.splitOn_eq_singleton h]
  simp

end Path

namespace FileTree

/-- The place that the parts of a path lead to from the working directory, whatever its length. -/
def follow? (t : FileTree) (path : String) : Option (List String) :=
  (Path.parts path).foldlM t.step? []

variable {written : List String → Prop} {t t' : FileTree} {p q : List String}
  {part path name : String}

theorem place?_eq_some_iff : t.place? path = some q ↔
    path ≠ "" ∧ Path.isAbsolute path = false ∧ path.utf8ByteSize ≤ longestPath ∧
      t.follow? path = some q := by
  unfold place? follow?
  split
  · next h =>
    simp only [Bool.or_eq_true, decide_eq_true_eq, String.isEmpty_iff] at h
    constructor
    · intro hc
      cases hc
    · rintro ⟨hne, ha, hl, -⟩
      rcases h with (he | hb) | hs
      · exact absurd he hne
      · rw [ha] at hb
        cases hb
      · omega
  · next h =>
    simp only [Bool.or_eq_true, decide_eq_true_eq, String.isEmpty_iff, not_or, Nat.not_lt,
      Bool.not_eq_true] at h
    obtain ⟨⟨hne, ha⟩, hl⟩ := h
    simp [hne, ha, hl]

theorem step?_cases (h : t.step? p part = some q) : t.isDirectory p = true ∧
    (t.isDirectory q = true ∨
      part ≠ "" ∧ part ≠ "." ∧ part ≠ ".." ∧ isName part = true ∧ q = p ++ [part]) := by
  unfold step? at h
  split at h
  · cases h
  · next hd =>
    have hp : t.isDirectory p = true := by simpa using hd
    refine ⟨hp, ?_⟩
    split at h
    · obtain rfl := Option.some.inj h
      exact .inl hp
    · next hne =>
      split at h
      · split at h
        · cases h
        · obtain rfl := Option.some.inj h
          exact .inl (isDirectory_of_isPrefix hp (List.dropLast_prefix p))
      · next hup =>
        split at h
        · next hs =>
          obtain rfl := Option.some.inj h
          simp only [Bool.or_eq_true, beq_iff_eq, not_or] at hne hup
          exact .inr ⟨hne.1, hne.2, hup, hs, rfl⟩
        · cases h

theorem step?_of_isPart (hd : t.isDirectory p = true) (hn : Path.IsPart name) :
    t.step? p name = if isName name then some (p ++ [name]) else none := by
  simp [step?, hd, hn.ne_empty, hn.ne_here, hn.ne_above]

theorem step?_empty : t.step? p "" = if t.isDirectory p then some p else none := by
  unfold step?
  cases t.isDirectory p <;> rfl

theorem isDirectory_of_foldlM {parts : List String} (hne : parts ≠ [])
    (h : parts.foldlM t.step? p = some q) : t.isDirectory p = true := by
  obtain ⟨part, rest, rfl⟩ := List.exists_cons_of_ne_nil hne
  rw [List.foldlM_cons] at h
  obtain ⟨r, hr, -⟩ := Option.bind_eq_some_iff.mp h
  exact (step?_cases hr).1

/-- An empty part leads nowhere else, and any part leads on from a directory only. -/
theorem bind_step?_empty {parts : List String} (hne : parts ≠ []) (p : List String) :
    ((t.step? p "").bind fun q => parts.foldlM t.step? q) = parts.foldlM t.step? p := by
  rw [step?_empty]
  split
  · rfl
  · next hd =>
    cases hf : parts.foldlM t.step? p with
    | none => rfl
    | some q => exact absurd (isDirectory_of_foldlM hne hf) hd

/-- A path below another one leads on from where that one leads. -/
theorem follow?_join {base : String} (ha : Path.isAbsolute path = false) :
    t.follow? (Path.join base path) =
      (t.follow? base).bind fun p => (Path.parts path).foldlM t.step? p := by
  have hslash : ∀ a b, t.follow? (a ++ "/" ++ b) =
      (t.follow? a).bind fun p => (Path.parts b).foldlM t.step? p := by
    intro a b
    rw [follow?, Path.parts_append_slash, List.foldlM_append]
    rfl
  rw [Path.join, ha, if_neg Bool.false_ne_true]
  split
  · next hb =>
    rw [Bool.or_eq_true, String.isEmpty_iff, beq_iff_eq] at hb
    rcases hb with rfl | hlast
    · rw [String.empty_append]
      rfl
    · obtain ⟨cs, hcs⟩ := List.getLast?_eq_some_iff.mp hlast
      obtain rfl : base = String.ofList cs ++ "/" := by
        rw [← String.toList_inj, hcs]
        simp
      have he := hslash (String.ofList cs) ""
      rw [String.append_empty] at he
      rw [hslash, he, Option.bind_assoc]
      congr 1
      funext p
      have hempty : (Path.parts "").foldlM t.step? p = t.step? p "" := bind_pure (t.step? p "")
      rw [hempty, bind_step?_empty (Path.parts_ne_nil path)]
  · exact hslash base path

theorem step?_eq_of_isDirectory (h : t'.isDirectory p = t.isDirectory p) :
    t'.step? p part = t.step? p part := by
  rw [step?, step?, h]

namespace Grows

theorem step? (h : Grows written t t') (hs : t.step? p part = some q) :
    t'.step? p part = some q := by
  have hd := (step?_cases hs).1
  rw [← hs]
  exact step?_eq_of_isDirectory (by rw [hd, h.isDirectory hd])

theorem foldlM_step? (h : Grows written t t') {parts : List String}
    (hs : parts.foldlM t.step? p = some q) : parts.foldlM t'.step? p = some q := by
  induction parts generalizing p with
  | nil => exact hs
  | cons part rest ih =>
    rw [List.foldlM_cons] at hs ⊢
    obtain ⟨r, hr, hrest⟩ := Option.bind_eq_some_iff.mp hs
    exact Option.bind_eq_some_iff.mpr ⟨r, h.step? hr, ih hrest⟩

theorem follow? (h : Grows written t t') (hp : t.follow? path = some q) :
    t'.follow? path = some q :=
  h.foldlM_step? hp

theorem place? (h : Grows written t t') (hp : t.place? path = some q) :
    t'.place? path = some q := by
  rw [place?_eq_some_iff] at hp ⊢
  exact ⟨hp.1, hp.2.1, hp.2.2.1, h.follow? hp.2.2.2⟩

theorem readText {text : String} (h : Grows written t t') (hr : t.readText path = some text)
    (hw : ∀ q, t.place? path = some q → ¬ written q) : t'.readText path = some text := by
  obtain ⟨q, hq, hc⟩ := Option.bind_eq_some_iff.mp hr
  refine Option.bind_eq_some_iff.mpr ⟨q, h.place? hq, ?_⟩
  rwa [h.file?_eq (hw q hq)]

end Grows

/-- A path leads to a directory, or to a name in a directory that ends the path. -/
theorem place?_cases (h : t.place? path = some q) : t.isDirectory q = true ∨
    ∃ above name, q = above ++ [name] ∧ t.isDirectory above = true ∧ Path.IsPart name ∧
      name.toList <:+ path.toList := by
  have hf := (place?_eq_some_iff.mp h).2.2.2
  have hne := Path.parts_ne_nil path
  rw [follow?, ← List.dropLast_concat_getLast hne, List.foldlM_append] at hf
  obtain ⟨above, -, hl⟩ := Option.bind_eq_some_iff.mp hf
  rw [List.foldlM_cons] at hl
  obtain ⟨r, hr, hn⟩ := Option.bind_eq_some_iff.mp hl
  obtain rfl : r = q := by simpa using hn
  obtain ⟨hd, hq | ⟨h1, h2, h3, -, hq⟩⟩ := step?_cases hr
  · exact .inl hq
  · refine .inr ⟨above, _, hq, hd, ⟨h1, h2, h3, ?_⟩, Path.getLast_parts_suffix path⟩
    exact Path.no_slash_of_mem_parts (List.getLast_mem hne)

/-! ## Creating directories and writing -/

theorem grows_createParts {parts : List String} (hparts : ∀ part ∈ parts, '/' ∉ part.toList) :
    Grows written t (t.createParts p parts).2 := by
  induction parts generalizing t p with
  | nil => exact .refl t
  | cons part rest ih =>
    obtain ⟨hpart, hrest⟩ := List.forall_mem_cons.mp hparts
    unfold createParts
    split
    · exact .refl t
    · next next hs =>
      split
      · exact ih hrest
      · next hn =>
        split
        · exact .refl t
        · next hfile =>
          obtain ⟨hd, hq | ⟨h1, h2, h3, h4, rfl⟩⟩ := step?_cases hs
          · exact absurd hq hn
          · have hstep : Step written t (t.setNode (p ++ [part]) .directory) :=
              .directory hd ⟨h1, h2, h3, hpart⟩ h4 (by simpa using hn) (by simpa using hfile)
            exact (Grows.of_step hstep).trans (ih hrest)

/-- A part that is not there yet becomes a directory. -/
theorem createParts_new {parts : List String} (hd : t.isDirectory p = true)
    (hn : Path.IsPart name) (hs : isName name = true) (hq : t.isDirectory (p ++ [name]) = false)
    (hf : t.file? (p ++ [name]) = none) : t.createParts p (name :: parts) =
      (t.setNode (p ++ [name]) .directory).createParts (p ++ [name]) parts := by
  rw [createParts, step?_of_isPart hd hn, if_pos hs]
  simp only [hq, hf, Option.isSome_none, Bool.false_eq_true, if_false]

theorem grows_createDirectories (t : FileTree) (path : String) :
    Grows written t (t.createDirectories path).2 := by
  unfold createDirectories
  split
  · exact .refl t
  · split
    · exact .refl t
    · exact grows_createParts fun _ => Path.no_slash_of_mem_parts

theorem writeText_eq_false {text : String} (h : t.writeText path text = (false, t')) : t' = t := by
  unfold writeText at h
  split at h
  · split at h
    · exact (Prod.mk.inj h).2.symm
    · cases (Prod.mk.inj h).1
  · exact (Prod.mk.inj h).2.symm

/-- A path that a text is written to leads to a file with that text, and the rest of the tree stays
as it is. -/
theorem writeText_eq_true {text : String} (h : t.writeText path text = (true, t')) :
    ∃ place, t.place? path = some place ∧ Grows (· = place) t t' ∧
      t'.file? place = some (.text text) := by
  unfold writeText at h
  split at h
  · next place hp =>
    split at h
    · cases (Prod.mk.inj h).1
    · next hdir =>
      obtain rfl := (Prod.mk.inj h).2
      have hf : t.isDirectory place = false := by simpa using hdir
      obtain hq | ⟨above, name, rfl, hd, hn, -⟩ := place?_cases hp
      · exact absurd hq hdir
      · exact ⟨_, hp, .of_step (.file hd hn hf rfl), file?_setNode_file_self hd hf⟩
  · cases (Prod.mk.inj h).1

end FileTree

end EntityGen
