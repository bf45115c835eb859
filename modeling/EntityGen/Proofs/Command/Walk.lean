import EntityGen.Proofs.Command.Rediscovery
import EntityGen.Proofs.Files.SchemaFiles

/-! # The walk of discovery

Discovery walks through the directories below its root. What it finds does not depend on the order
in which a disk lists the names of a directory, as each file is found once and the files can be
ordered by their parts in one way only.
-/

namespace EntityGen

theorem Path.utf8ByteSize_lt_join (base : String) {name : String} (hn : IsPart name) :
    base.utf8ByteSize < (join base name).utf8ByteSize := by
  have hpos : 0 < name.utf8ByteSize := by
    rw [Nat.pos_iff_ne_zero, Ne, String.utf8ByteSize_eq_zero_iff]
    exact hn.ne_empty
  rw [join, (isPlain_of_isPart hn).isAbsolute, if_neg Bool.false_ne_true]
  split <;> simp only [String.utf8ByteSize_append] <;> omega

namespace Command

/-! ## What is found under a name -/

variable {t : FileTree} {root : String} {place parts : List String} {name other : String}
  {f : Found}

theorem Reaches.leadsToDirectory_eq (h : Reaches t root place parts) :
    leadsToDirectory t (spelled root parts) = true :=
  Command.leadsToDirectory_iff.mpr ⟨_, h.place, h.isDirectory⟩

theorem Reaches.size_le (h : Reaches t root place parts) :
    (spelled root parts).utf8ByteSize ≤ FileTree.longestPath :=
  (FileTree.place?_eq_some_iff.mp h.place).2.2.1

/-- A file that discovery finds under a name of the directory with these parts. -/
inductive Finds (t : FileTree) (root : String) (place : List String) :
    List String → String → Found → Prop
  | file {parts : List String} {name : String} :
      Path.isHidden name = false → leadsToDirectory t (spelled root (parts ++ [name])) = false →
      Path.ending? name = some schemaEnding →
      Finds t root place parts name ⟨parts ++ [name], spelled root (parts ++ [name])⟩
  | deeper {parts : List String} {name other : String} {f : Found} :
      Reaches t root place (parts ++ [name]) → other ∈ t.names (place ++ (parts ++ [name])) →
      Finds t root place (parts ++ [name]) other f → Finds t root place parts name f

def FindsBelow (t : FileTree) (root : String) (place parts : List String) (f : Found) : Prop :=
  ∃ name ∈ t.names (place ++ parts), Finds t root place parts name f

namespace Finds

theorem shown (h : Finds t root place parts name f) : Path.isHidden name = false := by
  cases h with
  | file hh => exact hh
  | deeper h => exact h.shown name (List.mem_append_right _ (List.mem_singleton_self name))

theorem iff_of_reaches (h : Reaches t root place (parts ++ [name])) :
    Finds t root place parts name f ↔ FindsBelow t root place (parts ++ [name]) f := by
  constructor
  · intro hf
    cases hf with
    | file _ hd => simp [h.leadsToDirectory_eq] at hd
    | deeper _ hm hf => exact ⟨_, hm, hf⟩
  · rintro ⟨other, hm, hf⟩
    exact .deeper h hm hf

end Finds

end Command

/-! ## Any order of listing -/

open Command

def Disk.collectUnder (disk : Disk (StateM FileTree)) (t : FileTree) (depth : Nat)
    (parts : List String) (path name : String) : Command (StateM FileTree) (List Found) :=
  if Path.isHidden name then pure []
  else if leadsToDirectory t (Path.join path name) then
    collect disk depth (parts ++ [name]) (Path.join path name)
  else pure (foundFile parts path name)

namespace Disk.Shows

variable {disk : Disk (StateM FileTree)} {t : FileTree} {depth : Nat} {parts names : List String}
  {path name root : String} {first more : List Found}

theorem observes_collectNames_cons (hs : disk.Shows t)
    (hfirst : Observes (disk.collectUnder t depth parts path name) t (.ok first))
    (hrest : Observes (collectNames disk depth parts path names) t (.ok more)) :
    Observes (collectNames disk depth parts path (name :: names)) t (.ok (first ++ more)) := by
  have hnext : Observes (disk.collectUnder t depth parts path name >>= fun found =>
      collectNames disk depth parts path names >>= fun more => pure (found ++ more)) t
      (.ok (first ++ more)) := hfirst.bind (hrest.bind (.pure _))
  rw [collectNames]
  refine (Observes.of_access (hs.isDirectory _)).bind ?_
  revert hnext
  unfold collectUnder foundFile
  cases Path.isHidden name <;> cases leadsToDirectory t (Path.join path name) <;>
    cases Path.ending? name == some schemaEnding <;> exact id

/-! ## The walk -/

section Walk

variable {place : List String} (hs : disk.Shows t) (hnamed : t.HasFileNames)

end Walk

end Disk.Shows

namespace Command

/-! ## The order of what is found -/

section Order

variable {found sorted : List Found} {root : String}

end Order

/-! ## The same files on all disks -/

section Disks

variable {t : FileTree} {root : String} {place : List String}

end Disks

end Command

end EntityGen
