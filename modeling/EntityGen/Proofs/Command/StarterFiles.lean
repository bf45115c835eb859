import EntityGen.Proofs.Command.Rediscovery
import EntityGen.Proofs.Command.Starting

/-! # Starting a project in an empty directory

Where nothing is in the way, a project is started exactly when its log can be set up, its name is
accepted and the file of its schema can be named. All files that it gets are known then.
-/

namespace EntityGen

namespace Starter

def schemasTree : FileTree := ⟨[(["schemas"], .directory)]⟩

/-- What is there before the manifest is written. -/
def schemaTree (name : String) : FileTree := ⟨[
  (["schemas"], .directory),
  (["schemas", name ++ ".json"], .file (.text schemaText))]⟩

def tree (name : String) : FileTree := ⟨[
  (["schemas"], .directory),
  (["schemas", name ++ ".json"], .file (.text schemaText)),
  (["schemagen.toml"], .file (.text (manifestText name (className name))))]⟩

end Starter

namespace FileTree

variable {t : FileTree} {path name : String} {q : List String}

theorem utf8ByteSize_le_of_isName (h : isName name = true) : name.utf8ByteSize ≤ longestName := by
  rw [isName, Bool.and_eq_true, decide_eq_true_eq] at h
  exact h.1

/-- Paths that are not too long lead to all names in a directory. -/
theorem place?_join_of_size (hd : t.isDirectory q = true) (hp : t.place? path = some q)
    (hn : Path.IsPart name) (hs : path.utf8ByteSize + (longestName + 1) ≤ longestPath) :
    t.place? (Path.join path name) = if isName name then some (q ++ [name]) else none := by
  rw [place?_join_of_isPart hd hp hn]
  cases h : isName name with
  | false => simp
  | true =>
    have hname := utf8ByteSize_le_of_isName h
    have hjoin := Path.utf8ByteSize_join_le path name
    rw [if_pos ⟨rfl, by omega⟩, if_pos rfl]

/-- A path leads on only through names that are not too long. -/
theorem isName_of_place?_join (hn : Path.IsPart name)
    (h : t.place? (Path.join path name) = some q) : isName name = true := by
  have hf := (place?_eq_some_iff.mp h).2.2.2
  rw [follow?_join (Path.isPlain_of_isPart hn).isAbsolute, Path.parts_of_no_slash hn.no_slash] at hf
  obtain ⟨p, -, hp⟩ := Option.bind_eq_some_iff.mp hf
  rw [List.foldlM_cons] at hp
  obtain ⟨r, hr, -⟩ := Option.bind_eq_some_iff.mp hp
  rw [step?_of_isPart (step?_cases hr).1 hn] at hr
  split at hr
  · next hname => exact hname
  · cases hr

end FileTree

namespace Command

open Starter

variable {environment level : Option String} {name : String}

/-- The schema file can be made in the directory of the schemas, if its name is not too long. -/
theorem place?_schemaPath (hn : nameError? name = none) :
    schemasTree.place? (schemaPath name ".") =
      if FileTree.isName (name ++ ".json") then some ["schemas", name ++ ".json"] else none :=
  FileTree.place?_join_of_size (q := ["schemas"]) (by decide) (by decide)
    (isPart_schemaFile hn) (by decide)

theorem pathExists_schemaPath (hn : nameError? name = none) :
    schemasTree.pathExists (schemaPath name ".") = false := by
  rw [FileTree.pathExists, place?_schemaPath hn]
  split <;> rfl

theorem writeText_schemaPath (hn : nameError? name = none)
    (hs : FileTree.isName (name ++ ".json") = true) :
    schemasTree.writeText (schemaPath name ".") schemaText = (true, schemaTree name) := by
  rw [FileTree.writeText, place?_schemaPath hn, if_pos hs]
  rfl

theorem writeText_schemaPath_of_long (hn : nameError? name = none)
    (hs : FileTree.isName (name ++ ".json") = false) :
    schemasTree.writeText (schemaPath name ".") schemaText = (false, schemasTree) := by
  rw [FileTree.writeText, place?_schemaPath hn, hs]
  rfl

theorem writeText_manifestPath (name text : String) :
    (schemaTree name).writeText (manifestPath ".") text =
      (true, (schemaTree name).setNode ["schemagen.toml"] (.file (.text text))) := by
  have hplace : (schemaTree name).place? (manifestPath ".") = some ["schemagen.toml"] := by
    rfl
  rw [FileTree.writeText, hplace]
  rfl

section CreateFile

variable {t t' : FileTree} {path text : String}

theorem gives_createFile (h : t.writeText path text = (true, t')) :
    Gives (createFile FileTree.disk path text) t (.ok ()) [s!"  Created {path}" ++ "\n"] t' := by
  rw [createFile_eq]
  exact (gives_writeText h).bind (Gives.printLine _ t')

theorem gives_createFile_of_not_written (h : t.writeText path text = (false, t')) :
    Gives (createFile FileTree.disk path text) t (.error (.fileNotWritten path)) [] t' := by
  rw [createFile_eq]
  exact (gives_insist_false h _).bind_error

theorem gives_createMissing {r : Except Failure Unit} {texts : List String}
    (hp : t.pathExists path = false) (h : Gives (createFile FileTree.disk path text) t r texts t') :
    Gives (createMissing path text) t r texts t' := by
  have hexists := observes_pathExists t path
  rw [hp] at hexists
  exact hexists.then_gives h

end CreateFile

theorem createDirectories_schemas :
    FileTree.createDirectories {} (Path.join "." "schemas") = (true, schemasTree) := by
  decide +kernel

theorem observes_start {r : Except Failure Unit} {texts : List String} {t' : FileTree}
    {filter : LogFilter} (hl : logFilter environment level = .ok filter)
    (hn : nameError? name = none) (h : Gives (fill name ".") {} r texts t') :
    Gives (start FileTree.disk environment level name none) {} r texts t' := by
  have hlog := Observes.setUpLog (t := {}) environment level
  rw [hl] at hlog
  have hexists := observes_pathExists {} (manifestPath ".")
  rw [show FileTree.pathExists {} (manifestPath ".") = false by decide +kernel] at hexists
  rw [start_eq, hn]
  exact hlog.then_gives (hexists.then_gives h)

theorem gives_start {filter : LogFilter} (hl : logFilter environment level = .ok filter)
    (hn : nameError? name = none) (hs : FileTree.isName (name ++ ".json") = true) :
    ∃ texts, Gives (start FileTree.disk environment level name none) {} (.ok ()) texts
      (tree name) := by
  have hschema := gives_createMissing (pathExists_schemaPath hn)
    (gives_createFile (writeText_schemaPath hn hs))
  have hmanifest := gives_createFile (writeText_manifestPath name
    (manifestText name (className name)))
  exact ⟨_, observes_start hl hn ((gives_createDirectories createDirectories_schemas).bind
    (hschema.bind (hmanifest.bind ((Observes.noteAll _).then_gives (Gives.print _ _)))))⟩

theorem gives_start_of_long {filter : LogFilter} (hl : logFilter environment level = .ok filter)
    (hn : nameError? name = none) (hs : FileTree.isName (name ++ ".json") = false) :
    Gives (start FileTree.disk environment level name none) {}
      (.error (.fileNotWritten (schemaPath name "."))) [] schemasTree := by
  have hschema := gives_createMissing (pathExists_schemaPath hn)
    (gives_createFile_of_not_written (writeText_schemaPath_of_long hn hs))
  exact observes_start hl hn
    ((gives_createDirectories createDirectories_schemas).bind hschema.bind_error)

theorem request_start_of_error {t t' : FileTree} {directory : Option String} {e : Failure}
    {texts : List String}
    (h : Gives (start FileTree.disk environment level name directory) t (.error e) texts t') :
    (t.request environment (.start level name directory)).1.exitCode ≠ 0 := by
  obtain ⟨_, hr⟩ := h.request_start
  rw [hr]
  exact Nat.one_ne_zero

theorem request_start_iff :
    (FileTree.request {} environment (.start level name none)).1.exitCode = 0 ↔
      (∃ filter, logFilter environment level = .ok filter) ∧ nameError? name = none ∧
        FileTree.isName (name ++ ".json") = true := by
  constructor
  · intro h
    have hlog := Observes.setUpLog (t := {}) environment level
    cases hl : logFilter environment level with
    | error e =>
      rw [hl] at hlog
      exact absurd h (request_start_of_error hlog.bind_error)
    | ok filter =>
    rw [hl] at hlog
    cases hn : nameError? name with
    | some e =>
      have hthrow :
          Gives (start FileTree.disk environment level name none) {} (.error e) [] {} := by
        rw [start_eq, hn]
        exact hlog.bind (.throw e)
      exact absurd h (request_start_of_error hthrow)
    | none =>
      refine ⟨⟨filter, rfl⟩, rfl, ?_⟩
      rw [← Bool.not_eq_false]
      intro hs
      exact absurd h (request_start_of_error (gives_start_of_long hl hn hs))
  · rintro ⟨⟨filter, hl⟩, hn, hs⟩
    obtain ⟨_, hg⟩ := gives_start hl hn hs
    obtain ⟨_, hr⟩ := hg.request_start
    rw [hr]
    rfl

/-- The tree after a project was started in an empty directory. -/
theorem tree_start (h : (FileTree.request {} environment (.start level name none)).1.exitCode = 0) :
    (FileTree.request {} environment (.start level name none)).2 = tree name := by
  obtain ⟨⟨filter, hl⟩, hn, hs⟩ := request_start_iff.mp h
  obtain ⟨_, hg⟩ := gives_start hl hn hs
  obtain ⟨_, hr⟩ := hg.request_start
  rw [hr]

end Command

end EntityGen
