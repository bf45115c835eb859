import EntityGen.Proofs.Command.Walk
import EntityGen.Proofs.Files.Detours

/-! # What discovery finds

Discovery finds each schema below its directory once, ordered by the parts of the paths, exactly
where everything that is named like a schema has a path that is short enough to be followed.
-/

namespace EntityGen.Command

/-! ## Files in reach -/

section Reach

variable {t : FileTree} {root : String} {place parts above : List String} {name text : String}
  {content : Content} {f : Found}

/-- The path of what has these parts below a directory is short enough to be followed. -/
def InReach (root : String) (parts : List String) : Prop :=
  (spelled root parts).utf8ByteSize ≤ FileTree.longestPath

structure SchemasInReach (t : FileTree) (root : String) (place : List String) : Prop where
  files : ∀ below content, t.IsSchemaFile place below content → InReach root below
  /-- A directory that cannot be reached from the one above it counts as a file. -/
  directories : ∀ above name, (∀ part ∈ above ++ [name], Path.isHidden part = false) →
    Path.ending? name = some schemaEnding → t.isDirectory (place ++ (above ++ [name])) = true →
    InReach root above → InReach root (above ++ [name])

/-- Discovery takes a name of a directory for the name of a schema. -/
structure IsTaken (t : FileTree) (root : String) (place above : List String) (name : String) :
    Prop where
  reaches : Reaches t root place above
  listed : name ∈ t.names (place ++ above)
  shown : Path.isHidden name = false
  no_directory : leadsToDirectory t (spelled root (above ++ [name])) = false
  ending : Path.ending? name = some schemaEnding

theorem FindsBelow.isTaken (h : FindsBelow t root place parts f)
    (hr : Reaches t root place parts) : ∃ above name, IsTaken t root place above name ∧
      f = ⟨above ++ [name], spelled root (above ++ [name])⟩ := by
  obtain ⟨name, hm, hf⟩ := h
  induction hf with
  | file hh hd he => exact ⟨_, _, ⟨hr, hm, hh, hd, he⟩, rfl⟩
  | deeper hb hother _ ih => exact ih hb hother

variable (hnamed : t.HasFileNames) (hroot : Reaches t root place [])

include hnamed in
theorem Reaches.leadsToDirectory_iff_inReach (h : Reaches t root place parts)
    (hm : name ∈ t.names (place ++ parts)) :
    leadsToDirectory t (spelled root (parts ++ [name])) = true ↔
      InReach root (parts ++ [name]) ∧ t.isDirectory (place ++ (parts ++ [name])) = true := by
  obtain ⟨hn, hs⟩ := hnamed.of_mem_names hm
  rw [InReach, spelled_concat, h.leadsToDirectory_iff hn, ← List.append_assoc]
  simp [hs]

include hnamed in
/-- What lies above a reached directory is reached as well. -/
theorem InReach.of_concat (hm : name ∈ t.names (place ++ parts))
    (h : InReach root (parts ++ [name])) : InReach root parts := by
  have hlt := Path.utf8ByteSize_lt_join (spelled root parts) (hnamed.of_mem_names hm).1
  rw [← spelled_concat] at hlt
  exact hlt.le.trans h

include hnamed hroot in
theorem reaches_iff : Reaches t root place parts ↔ (∀ part ∈ parts, Path.isHidden part = false) ∧
    t.isDirectory (place ++ parts) = true ∧ InReach root parts := by
  refine ⟨fun h => ⟨h.shown, h.isDirectory, h.size_le⟩, ?_⟩
  induction parts using List.reverseRecOn with
  | nil => exact fun _ => hroot
  | append_singleton parts name ih =>
    rintro ⟨hshown, hd, hr⟩
    obtain ⟨habove, hname⟩ := List.forall_mem_append.mp hshown
    have hm : name ∈ t.names (place ++ parts) := by
      rw [← List.append_assoc] at hd
      exact FileTree.mem_names_of_isDirectory hd
    have hup := ih ⟨habove, FileTree.isDirectory_of_mem_names hm, .of_concat hnamed hm hr⟩
    have hleads := (hup.leadsToDirectory_iff_inReach hnamed hm).mpr ⟨hr, hd⟩
    exact hup.below (hnamed.of_mem_names hm).1 (hname name (List.mem_singleton_self name))
      (by rwa [← spelled_concat])

include hnamed hroot in
/-- A directory that lists something is reached when it is in reach. -/
theorem reaches_of_mem_names (hshown : ∀ part ∈ parts, Path.isHidden part = false)
    (hm : name ∈ t.names (place ++ parts)) (hr : InReach root parts) :
    Reaches t root place parts :=
  (reaches_iff hnamed hroot).mpr ⟨hshown, FileTree.isDirectory_of_mem_names hm, hr⟩

include hnamed hroot in
theorem Reaches.of_concat (h : Reaches t root place (parts ++ [name])) :
    Reaches t root place parts ∧ name ∈ t.names (place ++ parts) := by
  obtain ⟨hshown, hd, hr⟩ := (reaches_iff hnamed hroot).mp h
  rw [← List.append_assoc] at hd
  have hm := FileTree.mem_names_of_isDirectory hd
  exact ⟨reaches_of_mem_names hnamed hroot (List.forall_mem_append.mp hshown).1 hm
    (.of_concat hnamed hm hr), hm⟩

include hnamed hroot in
theorem FindsBelow.of_reaches (hr : Reaches t root place parts)
    (h : FindsBelow t root place parts f) : FindsBelow t root place [] f := by
  induction parts using List.reverseRecOn with
  | nil => exact h
  | append_singleton parts name ih =>
    obtain ⟨hup, hm⟩ := Reaches.of_concat hnamed hroot hr
    exact ih hup ⟨name, hm, (Finds.iff_of_reaches hr).mpr h⟩

include hnamed hroot in
theorem findsBelow_iff : FindsBelow t root place [] f ↔ ∃ above name,
    IsTaken t root place above name ∧ f = ⟨above ++ [name], spelled root (above ++ [name])⟩ := by
  constructor
  · exact fun h => h.isTaken hroot
  · rintro ⟨above, name, h, rfl⟩
    exact FindsBelow.of_reaches hnamed hroot h.reaches
      ⟨name, h.listed, .file h.shown h.no_directory h.ending⟩

/-! ## Found files and schemas -/

theorem IsTaken.isSchemaFile (h : IsTaken t root place above name)
    (hf : t.file? (place ++ (above ++ [name])) = some content) :
    t.IsSchemaFile place (above ++ [name]) content := by
  obtain ⟨stem, hne, he⟩ := FileTree.ending?_eq_schemaEnding_iff.mp h.ending
  exact ⟨List.forall_mem_append.mpr ⟨h.reaches.shown, List.forall_mem_singleton.mpr h.shown⟩,
    ⟨above, stem, hne, he ▸ rfl⟩, hf⟩

include hnamed in
theorem IsTaken.of_isSchemaFile (hfile : t.IsSchemaFile place (above ++ [name]) content)
    (hr : Reaches t root place above) : IsTaken t root place above name := by
  have hf := hfile.file
  rw [← List.append_assoc] at hf
  have hm := FileTree.mem_names_of_file? hf
  refine ⟨hr, hm, hfile.shown name (List.mem_append_right _ (List.mem_singleton_self name)), ?_, ?_⟩
  · have hd := FileTree.isDirectory_eq_false_of_file? (Option.isSome_of_eq_some hfile.file)
    rw [Bool.eq_false_iff, Ne, hr.leadsToDirectory_iff_inReach hnamed hm, hd]
    exact fun h => Bool.false_ne_true h.2
  · obtain ⟨other, stem, hne, he⟩ := hfile.ending
    obtain ⟨-, he⟩ := List.append_inj' he rfl
    exact FileTree.ending?_eq_schemaEnding_iff.mpr ⟨stem, hne, List.singleton_inj.mp he⟩

def foundSchema (root : String) (schema : List String × String) : Found :=
  ⟨schema.1, spelled root schema.1⟩

def resourceOf (root : String) (schema : List String × String) : Resource :=
  ⟨withSlashes (spelled root schema.1), schema.2⟩

include hnamed hroot in
/-- A schema in reach is found. -/
theorem findsBelow_of_isSchemaFile {below : List String}
    (hfile : t.IsSchemaFile place below content) (hr : InReach root below) :
    FindsBelow t root place [] ⟨below, spelled root below⟩ := by
  obtain ⟨above, stem, -, rfl⟩ := hfile.ending
  have hf := hfile.file
  rw [← List.append_assoc] at hf
  have hm := FileTree.mem_names_of_file? hf
  have habove : Reaches t root place above := reaches_of_mem_names hnamed hroot
    (List.forall_mem_append.mp hfile.shown).1 hm (.of_concat hnamed hm hr)
  exact (findsBelow_iff hnamed hroot).mpr
    ⟨above, _, .of_isSchemaFile hnamed hfile habove, rfl⟩

variable {found : List Found} {schemas : List (List String × String)}

include hnamed hroot in
/-- Where everything is in reach, the schemas are found and nothing else. -/
theorem SchemasInReach.findsBelow_iff (h : SchemasInReach t root place)
    (htext : t.HasTextSchemas place) (hl : t.ListsSchemas place schemas) :
    FindsBelow t root place [] f ↔ f ∈ schemas.map (foundSchema root) := by
  rw [List.mem_map]
  constructor
  · intro hf
    obtain ⟨above, name, ht, rfl⟩ := (Command.findsBelow_iff hnamed hroot).mp hf
    have hshown := List.forall_mem_append.mpr
      ⟨ht.reaches.shown, List.forall_mem_singleton.mpr ht.shown⟩
    rcases FileTree.isDirectory_or_isSome_file? ht.listed with hd | hfile
    · rw [List.append_assoc] at hd
      have hr := h.directories above name hshown ht.ending hd ht.reaches.size_le
      have hleads := (ht.reaches.leadsToDirectory_iff_inReach hnamed ht.listed).mpr ⟨hr, hd⟩
      rw [ht.no_directory] at hleads
      cases hleads
    · obtain ⟨content, hc⟩ := Option.isSome_iff_exists.mp hfile
      rw [List.append_assoc] at hc
      have hschema := ht.isSchemaFile hc
      obtain ⟨text, rfl⟩ := htext _ _ hschema
      exact ⟨(above ++ [name], text), (hl.mem_iff _ _).mpr hschema, rfl⟩
  · rintro ⟨s, hs, rfl⟩
    have hschema := (hl.mem_iff _ _).mp hs
    exact findsBelow_of_isSchemaFile hnamed hroot hschema (h.files _ _ hschema)

end Reach

end EntityGen.Command
