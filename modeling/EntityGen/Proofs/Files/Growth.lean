import Mathlib.Logic.Relation
import EntityGen.Files.Tree

/-! # Growth of file trees

A tree changes in two ways only: a new directory appears below a directory, or a file below a
directory gets a text. Directories and files therefore stay, all files that are not written keep
their content, and a listing keeps its names in their order and may get new ones at its end.
-/

namespace EntityGen

/-- A name by which a path can lead into a directory. -/
structure Path.IsPart (name : String) : Prop where
  ne_empty : name ≠ ""
  ne_here : name ≠ "."
  ne_above : name ≠ ".."
  no_slash : '/' ∉ name.toList

instance : DecidablePred Path.IsPart := fun name =>
  decidable_of_iff (name ≠ "" ∧ name ≠ "." ∧ name ≠ ".." ∧ '/' ∉ name.toList)
    ⟨fun ⟨h1, h2, h3, h4⟩ => ⟨h1, h2, h3, h4⟩, fun ⟨h1, h2, h3, h4⟩ => ⟨h1, h2, h3, h4⟩⟩

namespace FileTree

/-- One change of a tree; `written` are the places that files may be written to. -/
inductive Step (written : List String → Prop) (t : FileTree) : FileTree → Prop
  | directory {above : List String} {name : String} : t.isDirectory above = true →
      Path.IsPart name → isName name = true → t.isDirectory (above ++ [name]) = false →
      t.file? (above ++ [name]) = none → Step written t (t.setNode (above ++ [name]) .directory)
  | file {above : List String} {name text : String} : t.isDirectory above = true →
      Path.IsPart name → t.isDirectory (above ++ [name]) = false → written (above ++ [name]) →
      Step written t (t.setNode (above ++ [name]) (.file (.text text)))

def Grows (written : List String → Prop) : FileTree → FileTree → Prop :=
  Relation.ReflTransGen (Step written)

/-! ## Entries -/

section Entries

variable {t : FileTree} {entries : List (List String × Node)} {place q : List String}
  {node : Node} {name : String}

theorem mem_put_self : (place, node) ∈ put place node entries := by
  induction entries with
  | nil => exact List.mem_singleton_self _
  | cons e rest ih =>
    unfold put
    split
    · exact List.mem_cons_self
    · exact List.mem_cons_of_mem e ih

theorem mem_put_of_mem {e : List String × Node} (h : e ∈ entries) (hne : e.1 ≠ place) :
    e ∈ put place node entries := by
  induction entries with
  | nil => cases h
  | cons d rest ih =>
    unfold put
    split
    · next hd =>
      rcases List.mem_cons.mp h with rfl | hm
      · exact absurd (by simpa using hd) hne
      · exact List.mem_cons_of_mem _ hm
    · rcases List.mem_cons.mp h with rfl | hm
      · exact List.mem_cons_self
      · exact List.mem_cons_of_mem d (ih hm)

theorem eq_or_mem_of_mem_put {e : List String × Node} (h : e ∈ put place node entries) :
    e = (place, node) ∨ e ∈ entries := by
  induction entries with
  | nil => exact .inl (List.mem_singleton.mp h)
  | cons d rest ih =>
    unfold put at h
    split at h
    · rcases List.mem_cons.mp h with rfl | hm
      · exact .inl rfl
      · exact .inr (List.mem_cons_of_mem d hm)
    · rcases List.mem_cons.mp h with rfl | hm
      · exact .inr List.mem_cons_self
      · exact (ih hm).imp_right (List.mem_cons_of_mem d)

theorem lookup_put_self (entries : List (List String × Node)) :
    (put place node entries).lookup place = some node := by
  induction entries with
  | nil => exact List.lookup_cons_self
  | cons e rest ih =>
    unfold put
    split
    · exact List.lookup_cons_self
    · next he =>
      have hb : (place == e.1) = false :=
        beq_eq_false_iff_ne.mpr fun h => he (beq_iff_eq.mpr h.symm)
      rw [List.lookup_cons, hb]
      exact ih

theorem lookup_put_of_ne (hq : q ≠ place) (entries : List (List String × Node)) :
    (put place node entries).lookup q = entries.lookup q := by
  have hb : (q == place) = false := beq_eq_false_iff_ne.mpr hq
  induction entries with
  | nil => rw [put, List.lookup_cons, hb]
  | cons e rest ih =>
    unfold put
    split
    · next he =>
      obtain rfl : e.1 = place := by simpa using he
      rw [List.lookup_cons, List.lookup_cons, hb]
    · rw [List.lookup_cons, List.lookup_cons, ih]

def places (entries : List (List String × Node)) : List (List String) :=
  entries.map (·.1)

theorem places_put (place : List String) (node : Node) (entries : List (List String × Node)) :
    places (put place node entries) = places entries ∧ place ∈ places entries ∨
      places (put place node entries) = places entries ++ [place] := by
  induction entries with
  | nil => exact .inr rfl
  | cons e rest ih =>
    unfold put
    split
    · next he =>
      obtain rfl : e.1 = place := by simpa using he
      exact .inl ⟨rfl, List.mem_cons_self⟩
    · rcases ih with ⟨h, hm⟩ | h
      · exact .inl ⟨congrArg (e.1 :: ·) h, List.mem_cons_of_mem _ hm⟩
      · exact .inr (congrArg (e.1 :: ·) h)

theorem isDirectory_iff : t.isDirectory q = true ↔
    q = [] ∨ ∃ e ∈ t.entries, q <+: e.1 ∧ (q ≠ e.1 ∨ e.2 = .directory) := by
  simp [isDirectory, List.isPrefixOf_iff_prefix]

theorem isDirectory_of_isPrefix {p : List String} (h : t.isDirectory q = true) (hp : p <+: q) :
    t.isDirectory p = true := by
  rw [isDirectory_iff] at h ⊢
  rcases h with rfl | ⟨e, he, hq, hk⟩
  · exact .inl (List.prefix_nil.mp hp)
  · refine .inr ⟨e, he, hp.trans hq, ?_⟩
    by_cases hpe : p = e.1
    · have hqe : q = e.1 := hq.eq_of_length_le (hpe ▸ hp.length_le)
      exact .inr (hk.resolve_left fun hn => hn hqe)
    · exact .inl hpe

theorem mem_names_iff : name ∈ t.names q ↔ ∃ e ∈ t.entries, q ++ [name] <+: e.1 := by
  simp only [names, List.mem_eraseDups, List.mem_filterMap]
  refine exists_congr fun e => and_congr_right fun _ => ?_
  constructor
  · intro h
    split at h
    · next hq =>
      obtain ⟨rest, hr⟩ := List.isPrefixOf_iff_prefix.mp hq
      rw [← hr] at h ⊢
      cases rest with
      | nil => simp at h
      | cons n rest =>
        obtain rfl : n = name := by simpa using h
        exact ⟨rest, by simp⟩
    · cases h
  · rintro ⟨rest, hr⟩
    rw [← hr]
    simp

theorem isDirectory_of_mem_names (h : name ∈ t.names q) : t.isDirectory q = true := by
  obtain ⟨e, he, hq⟩ := mem_names_iff.mp h
  refine isDirectory_iff.mpr (.inr ⟨e, he, (List.prefix_append _ _).trans hq, .inl ?_⟩)
  rintro rfl
  exact absurd hq.length_le (by simp)

/-- What a directory lists is a directory or a file. -/
theorem isDirectory_or_isSome_file? (h : name ∈ t.names q) :
    t.isDirectory (q ++ [name]) = true ∨ (t.file? (q ++ [name])).isSome = true := by
  obtain ⟨e, he, hq⟩ := mem_names_iff.mp h
  cases hd : t.isDirectory (q ++ [name]) with
  | true => exact .inl rfl
  | false =>
    right
    have hne : ∀ n, t.entries.lookup (q ++ [name]) = some n → n ≠ .directory := by
      rintro n hl rfl
      obtain ⟨before, after, hs, -⟩ := List.lookup_eq_some_iff.mp hl
      have hdir : t.isDirectory (q ++ [name]) = true :=
        isDirectory_iff.mpr
          (.inr ⟨(q ++ [name], .directory), by simp [hs], List.prefix_rfl, .inr rfl⟩)
      rw [hd] at hdir
      cases hdir
    have hplace : q ++ [name] = e.1 := by
      refine Decidable.byContradiction fun hn => ?_
      have hdir : t.isDirectory (q ++ [name]) = true :=
        isDirectory_iff.mpr (.inr ⟨e, he, hq, .inl hn⟩)
      rw [hd] at hdir
      cases hdir
    cases hl : t.entries.lookup (q ++ [name]) with
    | none => exact absurd hplace (by simpa using List.lookup_eq_none_iff.mp hl e he)
    | some n =>
      cases n with
      | directory => exact absurd rfl (hne _ hl)
      | file content => simp [file?, hd, hl]

end Entries

/-! ## One change -/

section Step

variable {t : FileTree} {above q : List String} {name : String} {content : Content}

theorem isDirectory_setNode_directory (hd : t.isDirectory above = true) :
    (t.setNode (above ++ [name]) .directory).isDirectory q = true ↔
      t.isDirectory q = true ∨ q = above ++ [name] := by
  constructor
  · intro h
    rw [isDirectory_iff] at h
    rcases h with rfl | ⟨e, he, hq, hk⟩
    · exact .inl rfl
    · rcases eq_or_mem_of_mem_put he with rfl | hm
      · rcases List.prefix_concat_iff.mp hq with rfl | hp
        · exact .inr rfl
        · exact .inl (isDirectory_of_isPrefix hd hp)
      · exact .inl (isDirectory_iff.mpr (.inr ⟨e, hm, hq, hk⟩))
  · intro h
    rw [isDirectory_iff]
    by_cases hn : q = above ++ [name]
    · subst hn
      exact .inr ⟨_, mem_put_self, List.prefix_rfl, .inr rfl⟩
    · rcases isDirectory_iff.mp (h.resolve_right hn) with rfl | ⟨e, he, hq, hk⟩
      · exact .inl rfl
      · by_cases hp : e.1 = above ++ [name]
        · exact .inr ⟨_, mem_put_self, hp ▸ hq, .inl hn⟩
        · exact .inr ⟨e, mem_put_of_mem he hp, hq, hk⟩

theorem isDirectory_setNode_file (hd : t.isDirectory above = true)
    (hp : t.isDirectory (above ++ [name]) = false) :
    (t.setNode (above ++ [name]) (.file content)).isDirectory q = t.isDirectory q := by
  rw [Bool.eq_iff_iff]
  constructor
  · intro h
    rw [isDirectory_iff] at h
    rcases h with rfl | ⟨e, he, hq, hk⟩
    · rfl
    · rcases eq_or_mem_of_mem_put he with rfl | hm
      · have hn := hk.resolve_right (by simp)
        exact isDirectory_of_isPrefix hd ((List.prefix_concat_iff.mp hq).resolve_left hn)
      · exact isDirectory_iff.mpr (.inr ⟨e, hm, hq, hk⟩)
  · intro h
    have hn : q ≠ above ++ [name] := by
      rintro rfl
      rw [hp] at h
      cases h
    rw [isDirectory_iff] at h ⊢
    rcases h with rfl | ⟨e, he, hq, hk⟩
    · exact .inl rfl
    · by_cases hpe : e.1 = above ++ [name]
      · exact .inr ⟨_, mem_put_self, hpe ▸ hq, .inl hn⟩
      · exact .inr ⟨e, mem_put_of_mem he hpe, hq, hk⟩

theorem file?_setNode_file_self (hd : t.isDirectory above = true)
    (hp : t.isDirectory (above ++ [name]) = false) :
    (t.setNode (above ++ [name]) (.file content)).file? (above ++ [name]) = some content := by
  have hl : (t.setNode (above ++ [name]) (.file content)).entries.lookup (above ++ [name]) =
      some (.file content) := lookup_put_self _
  simp [file?, isDirectory_setNode_file hd hp, hp, hl]

theorem file?_setNode_file_of_ne (hd : t.isDirectory above = true)
    (hp : t.isDirectory (above ++ [name]) = false) (hq : q ≠ above ++ [name]) :
    (t.setNode (above ++ [name]) (.file content)).file? q = t.file? q := by
  have hl : (t.setNode (above ++ [name]) (.file content)).entries.lookup q =
      t.entries.lookup q := lookup_put_of_ne hq _
  simp only [file?, isDirectory_setNode_file hd hp, hl]

/-- A new directory takes the place of no file. -/
theorem file?_setNode_directory (hd : t.isDirectory above = true)
    (hp : t.file? (above ++ [name]) = none) :
    (t.setNode (above ++ [name]) .directory).file? q = t.file? q := by
  have hdir : (t.setNode (above ++ [name]) .directory).isDirectory q = true ↔
      t.isDirectory q = true ∨ q = above ++ [name] := isDirectory_setNode_directory hd
  by_cases hq : q = above ++ [name]
  · subst hq
    rw [hp, file?, if_pos (hdir.mpr (.inr rfl))]
  · have hl : (t.setNode (above ++ [name]) .directory).entries.lookup q = t.entries.lookup q :=
      lookup_put_of_ne hq _
    have hb : (t.setNode (above ++ [name]) .directory).isDirectory q = t.isDirectory q := by
      rw [Bool.eq_iff_iff, hdir]
      exact or_iff_left hq
    simp only [file?, hb, hl]

def nameBelow? (q place : List String) : Option String :=
  if q.isPrefixOf place then place[q.length]? else none

theorem nameBelow?_eq_some {place : List String} (h : nameBelow? q place = some name) :
    q ++ [name] <+: place := by
  unfold nameBelow? at h
  split at h
  · next hq =>
    obtain ⟨rest, rfl⟩ := List.isPrefixOf_iff_prefix.mp hq
    cases rest with
    | nil => simp at h
    | cons n rest =>
      obtain rfl : n = name := by simpa using h
      exact ⟨rest, by simp⟩
  · cases h

theorem names_eq (t : FileTree) (q : List String) :
    t.names q = ((places t.entries).filterMap (nameBelow? q)).eraseDups := by
  rw [places, List.filterMap_map]
  rfl

theorem eraseDups_concat (names : List String) (m : String) :
    (names ++ [m]).eraseDups =
      if m ∈ names then names.eraseDups else names.eraseDups ++ [m] := by
  rw [List.eraseDups_append]
  by_cases hm : m ∈ names
  · rw [if_pos hm, List.removeAll, List.filter_cons_of_neg (by simpa using hm)]
    simp
  · rw [if_neg hm, List.removeAll, List.filter_cons_of_pos (by simpa using hm)]
    rfl

/-- A new name stands at the end of the listing of its directory. -/
theorem names_setNode (hd : t.isDirectory above = true) (name : String) (node : Node)
    (q : List String) :
    (t.setNode (above ++ [name]) node).names q = t.names q ∨
      q = above ∧ name ∉ t.names q ∧
        (t.setNode (above ++ [name]) node).names q = t.names q ++ [name] := by
  rw [names_eq, names_eq, setNode]
  rcases places_put (above ++ [name]) node t.entries with ⟨hp, -⟩ | hp
  · exact .inl (by rw [hp])
  rw [hp, List.filterMap_append]
  cases hb : nameBelow? q (above ++ [name]) with
  | none => exact .inl (by simp [hb])
  | some m =>
    rw [List.filterMap_cons_some hb, List.filterMap_nil, eraseDups_concat]
    split
    · exact .inl rfl
    · next hm =>
      have hnew : m ∉ t.names q := by rwa [names_eq, List.mem_eraseDups]
      rcases List.prefix_concat_iff.mp (nameBelow?_eq_some hb) with he | hpre
      · obtain ⟨rfl, hmn⟩ := List.append_inj' he rfl
        obtain rfl : m = name := List.singleton_inj.mp hmn
        exact .inr ⟨rfl, by rwa [names_eq] at hnew, rfl⟩
      · rcases isDirectory_iff.mp hd with rfl | ⟨e, he, ha, -⟩
        · exact absurd (List.prefix_nil.mp hpre) (by simp)
        · exact absurd (mem_names_iff.mpr ⟨e, he, hpre.trans ha⟩) hnew

end Step

theorem isDirectory_eq_false_of_file? {t : FileTree} {q : List String}
    (h : (t.file? q).isSome = true) : t.isDirectory q = false := by
  cases hd : t.isDirectory q with
  | false => rfl
  | true => simp [file?, hd] at h

namespace Step

variable {written written' : List String → Prop} {t t' : FileTree} {q : List String}

theorem mono (hw : ∀ p, written p → written' p) (h : Step written t t') : Step written' t t' := by
  cases h with
  | directory hd hn hs hp hf => exact .directory hd hn hs hp hf
  | file hd hn hp hq => exact .file hd hn hp (hw _ hq)

theorem isDirectory (h : Step written t t') (hq : t.isDirectory q = true) :
    t'.isDirectory q = true := by
  cases h with
  | directory hd => exact (isDirectory_setNode_directory hd).mpr (.inl hq)
  | file hd _ hp => rwa [isDirectory_setNode_file hd hp]

theorem file?_eq (h : Step written t t') (hq : ¬ written q) : t'.file? q = t.file? q := by
  cases h with
  | directory hd _ _ _ hf => exact file?_setNode_directory hd hf
  | file hd _ hp hw => exact file?_setNode_file_of_ne hd hp (by rintro rfl; exact hq hw)

theorem isSome_file? (h : Step written t t') (hq : (t.file? q).isSome = true) :
    (t'.file? q).isSome = true := by
  cases h with
  | directory hd _ _ _ hf => rwa [file?_setNode_directory hd hf]
  | @file above name _ hd _ hp hw =>
    by_cases hn : q = above ++ [name]
    · subst hn
      rw [file?_setNode_file_self hd hp]
      rfl
    · rwa [file?_setNode_file_of_ne hd hp hn]

theorem names (h : Step written t t') (q : List String) :
    ∃ new, t'.names q = t.names q ++ new ∧ ∀ n ∈ new, Path.IsPart n ∧
      t.isDirectory (q ++ [n]) = false ∧
      (t'.isDirectory (q ++ [n]) = true ∧ isName n = true ∨ written (q ++ [n])) := by
  cases h with
  | @directory above name hd hn hs hp hf =>
    rcases names_setNode hd name .directory q with he | ⟨rfl, -, he⟩
    · exact ⟨[], by simpa using he, by simp⟩
    · refine ⟨[name], he, fun n hm => ?_⟩
      obtain rfl := List.mem_singleton.mp hm
      exact ⟨hn, hp, .inl ⟨(isDirectory_setNode_directory hd).mpr (.inr rfl), hs⟩⟩
  | @file above name text hd hn hp hw =>
    rcases names_setNode hd name (.file (.text text)) q with he | ⟨rfl, -, he⟩
    · exact ⟨[], by simpa using he, by simp⟩
    · refine ⟨[name], he, fun n hm => ?_⟩
      obtain rfl := List.mem_singleton.mp hm
      exact ⟨hn, hp, .inr hw⟩

end Step

/-! ## Any number of changes -/

namespace Grows

variable {written written' : List String → Prop} {t t' t'' : FileTree} {q : List String}
  {name : String}

theorem refl (t : FileTree) : Grows written t t :=
  Relation.ReflTransGen.refl

theorem trans (h : Grows written t t') (k : Grows written t' t'') : Grows written t t'' :=
  Relation.ReflTransGen.trans h k

theorem of_step (h : Step written t t') : Grows written t t' :=
  Relation.ReflTransGen.single h

theorem mono (hw : ∀ p, written p → written' p) (h : Grows written t t') :
    Grows written' t t' := by
  induction h with
  | refl => exact refl t
  | tail _ hs ih => exact ih.trans (of_step (hs.mono hw))

theorem isDirectory (h : Grows written t t') (hq : t.isDirectory q = true) :
    t'.isDirectory q = true := by
  induction h with
  | refl => exact hq
  | tail _ hs ih => exact hs.isDirectory ih

theorem isSome_file? (h : Grows written t t') (hq : (t.file? q).isSome = true) :
    (t'.file? q).isSome = true := by
  induction h with
  | refl => exact hq
  | tail _ hs ih => exact hs.isSome_file? ih

/-- A file keeps its content unless it is written. -/
theorem file?_eq (h : Grows written t t') (hq : ¬ written q) : t'.file? q = t.file? q := by
  induction h with
  | refl => rfl
  | tail _ hs ih => rw [hs.file?_eq hq, ih]

/-- What is listed stays a directory or a file. -/
theorem isDirectory_eq_of_mem_names (h : Grows written t t') (hm : name ∈ t.names q) :
    t'.isDirectory (q ++ [name]) = t.isDirectory (q ++ [name]) := by
  rcases isDirectory_or_isSome_file? hm with hd | hf
  · rw [hd, h.isDirectory hd]
  · rw [isDirectory_eq_false_of_file? hf, isDirectory_eq_false_of_file? (h.isSome_file? hf)]

theorem written_of_ne (h : Grows written t t') (hq : t'.file? q ≠ t.file? q) : written q :=
  Classical.byContradiction fun hn => hq (h.file?_eq hn)

/-- What is new in a listing comes last, and is a new directory or a file that is written. -/
theorem names (h : Grows written t t') (q : List String) :
    ∃ new, t'.names q = t.names q ++ new ∧ ∀ n ∈ new, Path.IsPart n ∧
      t.isDirectory (q ++ [n]) = false ∧
      (t'.isDirectory (q ++ [n]) = true ∧ isName n = true ∨ written (q ++ [n])) := by
  induction h with
  | refl => exact ⟨[], by simp, by simp⟩
  | @tail t₁ t₂ hg hs ih =>
    obtain ⟨new, hnew, hn⟩ := ih
    obtain ⟨last, hlast, hl⟩ := hs.names q
    refine ⟨new ++ last, by rw [hlast, hnew, List.append_assoc], fun n hm => ?_⟩
    rcases List.mem_append.mp hm with hm | hm
    · obtain ⟨hpart, hold, hk⟩ := hn n hm
      exact ⟨hpart, hold, hk.imp_left (And.imp_left hs.isDirectory)⟩
    · obtain ⟨hpart, hold, hk⟩ := hl n hm
      refine ⟨hpart, Bool.eq_false_iff.mpr fun hd => ?_, hk⟩
      rw [Grows.isDirectory hg hd] at hold
      cases hold

end Grows

end FileTree

end EntityGen
