import EntityGen.Proofs.Files.Places
import EntityGen.Proofs.Text.Ascii
import Mathlib.Data.List.Basic

/-! # Long paths to short places

A path can go down into a directory and up again any number of times. It leads where its end alone
leads, unless it is longer than paths can be.
-/

namespace EntityGen

namespace Path

/-- Goes down into a directory and up again a number of times. -/
def detour (directory : String) : Nat → String
  | 0 => ""
  | k + 1 => directory ++ "/" ++ (".." ++ "/" ++ detour directory k)

variable {directory : String}

theorem utf8ByteSize_detour (directory : String) (k : Nat) :
    (detour directory k).utf8ByteSize = (directory.utf8ByteSize + 4) * k := by
  have h : "/".utf8ByteSize = 1 ∧ "..".utf8ByteSize = 2 := by decide
  induction k with
  | zero => rfl
  | succ k ih =>
    simp only [detour, String.utf8ByteSize_append, ih, h, Nat.mul_add, Nat.mul_one]
    omega

theorem ascii_detour (h : Text.Ascii directory.toList) (k : Nat) :
    Text.Ascii (detour directory k).toList := by
  induction k with
  | zero => exact Text.Ascii.nil
  | succ k ih =>
    simp only [detour, String.toList_append, Text.ascii_append]
    exact ⟨⟨h, by decide⟩, ⟨by decide, by decide⟩, ih⟩

theorem toList_ne_nil_of_any {base : String}
    (hb : base.toList.getLast?.any (· != '/') = true) : base.toList ≠ [] := by
  intro h
  rw [h] at hb
  cases hb

/-- Only the end of a path decides how a name is joined to it. -/
theorem join_append (a : String) {base name : String}
    (hb : base.toList.getLast?.any (· != '/') = true) (hn : isAbsolute name = false) :
    join (a ++ base) name = a ++ (base ++ "/" ++ name) := by
  have hl : (a ++ base).toList.getLast? = base.toList.getLast? := by
    rw [String.toList_append, List.getLast?_append_of_ne_nil _ (toList_ne_nil_of_any hb)]
  rw [join_eq_append (by rwa [hl]) hn, String.append_assoc, String.append_assoc,
    String.append_assoc]

end Path

namespace FileTree

variable {t : FileTree} {directory : String}

theorem follow?_detour (hn : Path.IsPart directory) (hs : isName directory = true)
    (h : t.isDirectory [directory] = true) (k : Nat) (path : String) :
    t.follow? (Path.detour directory k ++ path) = t.follow? path := by
  have hdown : t.step? [] directory = some [directory] := by
    rw [step?_of_isPart rfl hn, if_pos hs]
    rfl
  have hup : t.step? [directory] ".." = some [] := by
    unfold step?
    rw [h]
    rfl
  have hd : Path.parts directory = [directory] := Path.parts_of_no_slash hn.no_slash
  have ha : Path.parts ".." = [".."] := Path.parts_of_no_slash (by decide)
  induction k with
  | zero => rw [Path.detour, String.empty_append]
  | succ k ih =>
    have he : Path.detour directory (k + 1) ++ path =
        directory ++ "/" ++ (".." ++ "/" ++ (Path.detour directory k ++ path)) := by
      simp only [Path.detour, String.append_assoc]
    rw [← ih, he, follow?, Path.parts_append_slash, Path.parts_append_slash, hd, ha]
    simp only [List.cons_append, List.nil_append, List.foldlM_cons, hdown, hup,
      Option.bind_eq_bind, Option.bind_some]
    rfl

theorem place?_detour (hn : Path.IsPart directory) (hs : isName directory = true)
    (h : t.isDirectory [directory] = true) (k : Nat) {path : String} (hp : path ≠ "")
    (hr : Path.isAbsolute path = false) : t.place? (Path.detour directory k ++ path) =
      if (directory.utf8ByteSize + 4) * k + path.utf8ByteSize ≤ longestPath
      then t.follow? path else none := by
  have hne : Path.detour directory k ++ path ≠ "" := by
    intro he
    have hl := congrArg String.toList he
    rw [String.toList_append] at hl
    exact hp (String.toList_eq_nil_iff.mp (List.append_eq_nil_iff.mp hl).2)
  have ha : Path.isAbsolute (Path.detour directory k ++ path) = false := by
    cases k with
    | zero => rwa [Path.detour, String.empty_append]
    | succ k =>
      obtain ⟨c, cs, hc⟩ := List.exists_cons_of_ne_nil fun he => hn.ne_empty
        (String.toList_eq_nil_iff.mp he)
      have hslash : c ≠ '/' := by
        rintro rfl
        exact hn.no_slash (hc ▸ List.mem_cons_self)
      simpa [Path.isAbsolute, Path.detour, hc] using hslash
  refine Option.ext fun x => ?_
  rw [place?_eq_some_iff, follow?_detour hn hs h, String.utf8ByteSize_append,
    Path.utf8ByteSize_detour]
  split
  · next hshort => simp [hne, ha, hshort]
  · next hlong => simp [hlong]

end FileTree

end EntityGen
