import EntityGen.Proofs.Command.Prediction
import EntityGen.Proofs.Command.StarterFiles
import EntityGen.Proofs.Command.StarterSchema

/-! # A new project

The manifest of a new project is valid and its schema can be planned, so the project works if its
schema is found and the file of its class can be named. A schema whose name starts with a point is
hidden and not found.
-/

namespace EntityGen

namespace Text

/-- Without a capital sigma, what stands around a character does not matter. -/
theorem lowercaseAfter_of_no_sigma {cs : List Char} (h : 'Σ' ∉ cs) (before : List Char) :
    lowercaseAfter before cs = cs.flatMap lower := by
  induction cs generalizing before with
  | nil => rfl
  | cons c cs ih =>
    rw [List.mem_cons, not_or] at h
    rw [lowercaseAfter, if_neg (Ne.symm h.1), ih h.2, List.flatMap_cons]

end Text

theorem map_slash_of_no_backslash {cs : List Char} (h : '\\' ∉ cs) :
    cs.map (fun c => if c = '\\' then '/' else c) = cs := by
  refine (List.map_congr_left fun c hc => if_neg ?_).trans (List.map_id' cs)
  rintro rfl
  exact h hc

theorem Command.withSlashes_eq {path : String} (h : '\\' ∉ path.toList) :
    withSlashes path = path := by
  rw [withSlashes, map_slash_of_no_backslash h, String.ofList_toList]

/-- A path without backslashes and capital sigmas is lowered character by character. -/
theorem Resource.normalize_eq {path : String} (hb : '\\' ∉ path.toList) (hs : 'Σ' ∉ path.toList) :
    normalize path = path.toList.flatMap Text.lower := by
  rw [normalize, map_slash_of_no_backslash hb]
  exact Text.lowercaseAfter_of_no_sigma hs []

namespace Starter

variable {name : String}

def resource (name : String) : Resource :=
  ⟨Command.withSlashes (Path.join "schemas" (name ++ ".json")), schemaText⟩

def project (name : String) : Command.LoadedProject :=
  ⟨manifest name, ""⟩

def unit (name : String) : GeneratedUnit where
  target := target name
  fileName := (target name).fileName
  sourcePath := (resource name).path
  code := Code.unit {} (target name) plan

theorem fileName_unit (name : String) : (unit name).fileName = (target name).fileName := by
  rw [unit]

theorem ne_empty_of_nameError? (h : nameError? name = none) : name ≠ "" := by
  rintro rfl
  exact absurd h (by decide)

theorem isHidden_schemaFile (h : nameError? name = none) :
    Path.isHidden (name ++ ".json") = Path.isHidden name := by
  have hne : name.toList ≠ [] := String.toList_eq_nil_iff.not.mpr (ne_empty_of_nameError? h)
  rw [Path.isHidden, String.toList_append, List.head?_append_of_ne_nil _ hne, Path.isHidden]

theorem ending?_schemaFile (h : nameError? name = none) :
    Path.ending? (name ++ ".json") = some Command.schemaEnding := by
  obtain ⟨c, cs, hcs⟩ := List.exists_cons_of_ne_nil
    (List.reverse_eq_nil_iff.not.mpr (String.toList_eq_nil_iff.not.mpr (ne_empty_of_nameError? h)))
  have hr : (name ++ ".json").toList.reverse = "nosj".toList ++ '.' :: c :: cs := by
    rw [String.toList_append, List.reverse_append, hcs]
    rfl
  rw [Path.ending?, hr]
  rfl

/-- The names of a schema have neither a backslash nor a capital sigma. -/
theorem not_mem_schemaFile (h : nameError? name = none) {c : Char} (hc : c = '\\' ∨ c = 'Σ') :
    c ∉ (name ++ ".json").toList := by
  rw [String.toList_append, List.mem_append, not_or]
  rcases hc with rfl | rfl
  · refine ⟨fun hm => ?_, by decide⟩
    exact absurd (isPlainChar_of_nameError? h hm) (by decide)
  · exact ⟨fun hm => absurd rfl (ne_sigma_of_nameError? h hm), by decide⟩

theorem join_schemas (h : nameError? name = none) :
    Path.join "schemas" (name ++ ".json") = "schemas" ++ "/" ++ (name ++ ".json") :=
  Path.join_eq_append (by decide) (Path.isPlain_of_isPart (isPart_schemaFile h)).isAbsolute

theorem endsWith_resource (h : nameError? name = none) :
    (resource name).endsWith (name ++ ".json") = true := by
  have hfile : ∀ {c : Char}, c = '\\' ∨ c = 'Σ' → c ∉ (name ++ ".json").toList :=
    not_mem_schemaFile h
  have hjoin : (Path.join "schemas" (name ++ ".json")).toList =
      "schemas/".toList ++ (name ++ ".json").toList := by
    rw [join_schemas h, String.toList_append]
    rfl
  have hpath : ∀ {c : Char}, c = '\\' ∨ c = 'Σ' →
      c ∉ (Path.join "schemas" (name ++ ".json")).toList := by
    intro c hc
    rw [hjoin, List.mem_append, not_or]
    refine ⟨?_, hfile hc⟩
    rcases hc with rfl | rfl <;> decide
  have hresource : (resource name).path = Path.join "schemas" (name ++ ".json") :=
    Command.withSlashes_eq (hpath (.inl rfl))
  have hne : (name ++ ".json").toList.flatMap Text.lower ≠ [] := by
    rw [String.toList_append, List.flatMap_append]
    exact List.append_ne_nil_of_right_ne_nil _ (by decide)
  rw [Resource.endsWith, hresource, Resource.normalize_eq (hfile (.inl rfl)) (hfile (.inr rfl)),
    Resource.normalize_eq (hpath (.inl rfl)) (hpath (.inr rfl)), Bool.and_eq_true,
    List.isSuffixOf_iff_suffix, hjoin, List.flatMap_append]
  exact ⟨by simpa using hne, List.suffix_append _ _⟩

end Starter

namespace Command

open Starter

variable {environment level : Option String} {name : String}

section Tree

variable (hn : nameError? name = none) (hs : FileTree.isName (name ++ ".json") = true)
include hn hs

theorem place?_schema : (tree name).place? (Path.join "schemas" (name ++ ".json")) =
    some ["schemas", name ++ ".json"] := by
  rw [FileTree.place?_join_of_size (q := ["schemas"]) rfl rfl (isPart_schemaFile hn) (by decide),
    if_pos hs]
  rfl

theorem discover_tree : (tree name).discover "schemas" =
    .ok (if Path.isHidden name then [] else [resource name]) := by
  have hdir : leadsToDirectory (tree name) "schemas" = true :=
    leadsToDirectory_iff.mpr ⟨["schemas"], rfl, rfl⟩
  have hnames : listed (tree name) "schemas" = some [name ++ ".json"] := by
    rfl
  have hfile : leadsToDirectory (tree name) (Path.join "schemas" (name ++ ".json")) = false := by
    rw [leadsToDirectory, place?_schema hn hs]
    simp [FileTree.isDirectory, tree]
  have hread : (tree name).readText (Path.join "schemas" (name ++ ".json")) = some schemaText := by
    rw [FileTree.readText, place?_schema hn hs]
    simp [FileTree.file?, FileTree.isDirectory, tree, List.lookup_cons, Content.text?]
  have hhidden := isHidden_schemaFile hn
  cases hh : Path.isHidden name with
  | true => exact discover_of_listed_hidden hnames hdir (hhidden.trans hh)
  | false =>
    exact discover_of_listed_file hnames hdir (hhidden.trans hh) (ending?_schemaFile hn) hfile hread

end Tree

/-! ## What is prepared -/

theorem readText_manifest (name : String) : (tree name).readText Manifest.fileName =
    some (manifestText name (className name)) := by
  rfl

theorem loaded_tree (hn : nameError? name = none) (environment : Option String) :
    loaded environment none Manifest.fileName ((tree name).readText Manifest.fileName) =
      .ok (project name) := by
  have hlog : ∃ filter, logFilter environment (some "info") = .ok filter := by
    unfold logFilter
    cases environment.bind LogFilter.ofText? with
    | some filter => exact ⟨filter, rfl⟩
    | none => exact ⟨_, rfl⟩
  obtain ⟨filter, hfilter⟩ := hlog
  have hvalid : validated Manifest.fileName (manifest name) = .ok (project name) := by
    rw [validated, error?_manifest hn]
    rfl
  rw [readText_manifest, loaded, manifestOf, ofToml?_manifestText hn]
  show ((logFilter environment (some "info")).map fun _ => ()) >>= (fun _ =>
    validated Manifest.fileName (manifest name)) = _
  rw [hfilter]
  exact hvalid

def preparedStarter (name : String) : Prepared :=
  (project name).prepared (if Path.isHidden name then [] else [resource name])

theorem prepared_tree (hn : nameError? name = none)
    (hs : FileTree.isName (name ++ ".json") = true) (environment : Option String) :
    prepared (tree name) environment none Manifest.fileName = .ok (preparedStarter name) := by
  have hjoin : Path.join "" "schemas" = "schemas" := by decide
  have hdir : (project name).schemaDir = "schemas" := hjoin
  have hdiscovered := discover_tree hn hs
  rw [← hdir] at hdiscovered
  exact prepared_of_discover (loaded_tree hn environment) hdiscovered

theorem units_preparedStarter (hn : nameError? name = none) :
    (preparedStarter name).units = if Path.isHidden name then [] else [unit name] := by
  have hparse : jsonParser (resource name) = .ok database := by
    rw [jsonParser, resource, ofJson_schemaText]
    rfl
  unfold preparedStarter
  cases Path.isHidden name with
  | true => rfl
  | false =>
    exact Generator.run_singleton_of_plan _ _ _
      (Target.resolve_singleton (endsWith_resource hn)) hparse (plan_database name)

/-! ## Checking -/

theorem run_check (t : FileTree) (environment : Option String) :
    t.run environment ["check"] = t.request environment (.check none none) := by
  rw [FileTree.run_eq]
  rfl

theorem run_generate (t : FileTree) (environment : Option String) :
    t.run environment ["generate"] = t.request environment (.generate none {}) := by
  rw [FileTree.run_eq]
  rfl

theorem exists_result_of_run_generate {t : FileTree} {environment : Option String}
    (h : (t.run environment ["generate"]).1.exitCode = 0) :
    ∃ tidings, result (generate FileTree.disk environment none {}) t = .ok tidings := by
  rw [run_generate, exitCode_generate] at h
  cases hr : result (generate FileTree.disk environment none {}) t with
  | error e =>
    rw [hr] at h
    cases h
  | ok tidings => exact ⟨tidings, rfl⟩

section Working

variable (hn : nameError? name = none) (hs : FileTree.isName (name ++ ".json") = true)
  (environment : Option String)
include hn

theorem every_target_iff : (∀ target ∈ (preparedStarter name).project.manifest.targets,
    ∃ unit ∈ (preparedStarter name).units, unit.target = target) ↔ Path.isHidden name = false := by
  have htargets : (preparedStarter name).project.manifest.targets = [target name] := rfl
  rw [htargets, units_preparedStarter hn, List.forall_mem_singleton]
  cases Path.isHidden name with
  | true => simp
  | false => simp [unit]

include hs

theorem prediction_tree :
    Prediction (tree name) environment none none none (preparedStarter name) :=
  prediction_of_prepared none (prepared_tree hn hs environment)

theorem exitCode_check_tree : ((tree name).run environment ["check"]).1.exitCode = 0 ↔
    Path.isHidden name = false := by
  rw [run_check, (prediction_tree hn hs environment).check_exit, every_target_iff hn]

end Working

/-! ## Writing the class -/

section Written

def classDirectory (name : String) : String :=
  Path.join "Generated" (className name ++ ".Data")

theorem isPart_classDirectory (hn : nameError? name = none) :
    Path.IsPart (className name ++ ".Data") :=
  Path.isPart_append (Target.no_slash_of_isIdentifier (isIdentifier_className hn)) (by decide)
    (by decide)

theorem isPart_classFile (hn : nameError? name = none) :
    Path.IsPart (className name ++ "Context.g.cs") :=
  Path.isPart_append (Target.no_slash_of_isIdentifier (isIdentifier_className hn)) (by decide)
    (by decide)

theorem classDirectory_eq (hn : nameError? name = none) :
    classDirectory name = "Generated" ++ "/" ++ (className name ++ ".Data") :=
  Path.join_eq_append (by decide) (Path.isPlain_of_isPart (isPart_classDirectory hn)).isAbsolute

theorem join_unit (hn : nameError? name = none) :
    Path.join "Generated" (target name).fileName =
      classDirectory name ++ "/" ++ (className name ++ "Context.g.cs") := by
  have ha := (Target.isPlain_fileName (error?_target hn)).isAbsolute
  have hspace : (target name).nameSpace.isEmpty = false := by simp [target]
  rw [Path.join_eq_append (by decide) ha, Target.fileName, hspace, if_neg Bool.false_ne_true,
    classDirectory_eq hn, ← String.toList_inj]
  simp [target]

theorem reverse_classDirectory (hn : nameError? name = none) :
    (classDirectory name).toList.reverse =
      'a' :: ("taD.".toList ++ ("Generated/" ++ className name).toList.reverse) := by
  rw [classDirectory_eq hn]
  simp

theorem join_classDirectory (hn : nameError? name = none) :
    Path.join (classDirectory name) (className name ++ "Context.g.cs") =
      classDirectory name ++ "/" ++ (className name ++ "Context.g.cs") := by
  have hlast : (classDirectory name).toList.getLast? = some 'a' := by
    rw [List.getLast?_eq_head?_reverse, reverse_classDirectory hn]
    rfl
  exact Path.join_eq_append (by rw [hlast]; decide)
    (Path.isPlain_of_isPart (isPart_classFile hn)).isAbsolute

theorem parent_join_unit (hn : nameError? name = none) :
    Path.parent (Path.join "Generated" (target name).fileName) = classDirectory name := by
  have hfile : (className name ++ "Context.g.cs").toList.reverse =
      's' :: ("c.g.txetnoC".toList ++ (className name).toList.reverse) := by
    simp
  rw [join_unit hn]
  exact Path.parent_append_slash (reverse_classDirectory hn) (by decide) rfl hfile (by decide)
    (isPart_classFile hn).no_slash

/-- The tree when the class is about to be written. -/
def classTree (name : String) : FileTree :=
  ⟨(tree name).entries ++ [
    (["Generated"], Node.directory),
    (["Generated", className name ++ ".Data"], Node.directory)]⟩

theorem place?_classDirectory (hn : nameError? name = none)
    (hc : FileTree.isName (className name ++ ".Data") = true) :
    (classTree name).place? (classDirectory name) =
      some ["Generated", className name ++ ".Data"] := by
  rw [classDirectory, FileTree.place?_join_of_size (q := ["Generated"]) rfl rfl
    (isPart_classDirectory hn) (by decide), if_pos hc]
  rfl

theorem createDirectories_tree (hn : nameError? name = none)
    (hc : FileTree.isName (className name ++ ".Data") = true) :
    (tree name).createDirectories (classDirectory name) = (true, classTree name) := by
  have hgenerated : Path.parts "Generated" = ["Generated"] := by decide
  have hparts : Path.parts (classDirectory name) = ["Generated", className name ++ ".Data"] := by
    rw [classDirectory_eq hn, Path.parts_append_slash, hgenerated,
      Path.parts_of_no_slash (isPart_classDirectory hn).no_slash]
    rfl
  have hcreated : (tree name).createParts [] ["Generated", className name ++ ".Data"] =
      (true, classTree name) := by
    rw [FileTree.createParts_new rfl (by decide) (by decide) rfl rfl,
      FileTree.createParts_new rfl (isPart_classDirectory hn) hc rfl rfl]
    rfl
  obtain ⟨hne, ha, hl, -⟩ := FileTree.place?_eq_some_iff.mp (place?_classDirectory hn hc)
  rw [FileTree.createDirectories, hparts, hcreated, if_neg (by simpa using hne), if_neg ?_]
  simpa [ha] using hl

/-- The name of the directory is shorter than that of the file. -/
theorem isName_classDirectory (hf : FileTree.isName (className name ++ "Context.g.cs") = true) :
    FileTree.isName (className name ++ ".Data") = true := by
  simp only [FileTree.isName, Bool.and_eq_true, decide_eq_true_eq, String.utf8ByteSize_append,
    String.toList_append, Bool.not_eq_true', List.contains_eq_mem, decide_eq_false_iff_not,
    List.mem_append, not_or] at hf ⊢
  obtain ⟨hsize, hzero, -⟩ := hf
  have hfile : "Context.g.cs".utf8ByteSize = 12 := by decide
  have hdir : ".Data".utf8ByteSize = 5 := by decide
  exact ⟨by omega, hzero, by decide⟩

theorem exists_writeText_classTree (hn : nameError? name = none)
    (hf : FileTree.isName (className name ++ "Context.g.cs") = true) (code : String) :
    ∃ t', (classTree name).writeText (Path.join "Generated" (target name).fileName) code =
      (true, t') := by
  have hc := isName_classDirectory hf
  have hdir : (classTree name).isDirectory ["Generated", className name ++ ".Data"] = true := by
    simp [FileTree.isDirectory, classTree]
  have hfile : (classTree name).isDirectory
      ["Generated", className name ++ ".Data", className name ++ "Context.g.cs"] = false := by
    simp [FileTree.isDirectory, classTree, tree, List.isPrefixOf]
  have hsize : (classDirectory name).utf8ByteSize + (FileTree.longestName + 1) ≤
      FileTree.longestPath := by
    have hjoin := Path.utf8ByteSize_join_le "Generated" (className name ++ ".Data")
    have hname := FileTree.utf8ByteSize_le_of_isName hc
    have hroom : "Generated".utf8ByteSize + 2 * (FileTree.longestName + 1) ≤
        FileTree.longestPath := by decide
    rw [← classDirectory] at hjoin
    omega
  have hplace := FileTree.place?_join_of_size hdir (place?_classDirectory hn hc)
    (isPart_classFile hn) hsize
  rw [if_pos hf, join_classDirectory hn, ← join_unit hn] at hplace
  rw [FileTree.writeText, hplace]
  exact ⟨_, if_neg (Bool.eq_false_iff.mp hfile)⟩

end Written

/-! ## Generating -/

theorem outputDir_preparedStarter (name : String) :
    (preparedStarter name).project.manifest.outputDir (preparedStarter name).project.base =
      "Generated" := by
  have hjoin : Path.join "" "Generated" = "Generated" := by decide
  rw [preparedStarter, LoadedProject.prepared, Manifest.outputDir]
  exact hjoin

theorem units_of_found (hn : nameError? name = none) (hh : Path.isHidden name = false) :
    (preparedStarter name).units = [unit name] := by
  rw [units_preparedStarter hn, hh, if_neg Bool.false_ne_true]

section Generating

variable (hn : nameError? name = none) (hs : FileTree.isName (name ++ ".json") = true)
  (environment : Option String)
include hn hs

/-- What is found is written, if the file can be named. -/
theorem exists_gives_generate (hh : Path.isHidden name = false)
    (hf : FileTree.isName (className name ++ "Context.g.cs") = true) :
    ∃ written texts t', Gives (generate FileTree.disk environment none {}) (tree name)
      (.ok { (preparedStarter name).tidings with written }) texts t' := by
  have hunits := units_of_found hn hh
  have hdir : GenerateOptions.directory {} (preparedStarter name).project = "Generated" :=
    outputDir_preparedStarter name
  obtain ⟨t', hw⟩ := exists_writeText_classTree hn hf (unit name).code
  have hcreated := createDirectories_tree hn (isName_classDirectory hf)
  rw [← parent_join_unit hn, ← fileName_unit] at hcreated
  rw [← fileName_unit] at hw
  obtain ⟨written, after, hg⟩ := exists_writeUnits_singleton hcreated hw
  rw [← hunits, ← hdir] at hg
  exact ⟨written, _, after,
    gives_generate_of_written {} rfl (prepared_tree hn hs environment) hg⟩

/-- The file of the class, where generating has succeeded. -/
theorem readText_generate_tree (h : ((tree name).run environment ["generate"]).1.exitCode = 0) :
    Path.isHidden name = false ∧
      ((tree name).run environment ["generate"]).2.readText
        (Path.join "Generated" (target name).fileName) = some (unit name).code := by
  have hp := prediction_tree hn hs environment
  obtain ⟨tidings, ht⟩ := exists_result_of_run_generate h
  rw [run_generate, hp.write_exit tidings ht, ← run_check,
    exitCode_check_tree hn hs environment] at h
  have hfile := hp.files tidings ht (unit name) (by simp [units_of_found hn h])
  rw [Option.getD_none, outputDir_preparedStarter, fileName_unit, ← run_generate] at hfile
  exact ⟨h, hfile⟩

theorem exitCode_generate_tree : ((tree name).run environment ["generate"]).1.exitCode = 0 ↔
    Path.isHidden name = false ∧
      FileTree.isName (className name ++ "Context.g.cs") = true := by
  have hp := prediction_tree hn hs environment
  constructor
  · intro h
    obtain ⟨hh, hread⟩ := readText_generate_tree hn hs environment h
    rw [join_unit hn, ← join_classDirectory hn, FileTree.readText] at hread
    obtain ⟨place, hplace, -⟩ := Option.bind_eq_some_iff.mp hread
    exact ⟨hh, FileTree.isName_of_place?_join (isPart_classFile hn) hplace⟩
  · rintro ⟨hh, hf⟩
    obtain ⟨_, _, _, hg⟩ := exists_gives_generate hn hs environment hh hf
    rw [run_generate, hp.write_exit _ hg.result_eq, ← run_check,
      exitCode_check_tree hn hs environment]
    exact hh

end Generating

/-! ## All that a new project does -/

structure Checks (t : FileTree) (environment : Option String) : Prop where
  exit : (t.run environment ["check"]).1.exitCode = 0
  no_error : ∃ tidings, result (check FileTree.disk environment none none) t = .ok tidings ∧
    tidings.tally.errors = 0

/-- Generating succeeds for one target and leaves the code of its plan in its file. -/
structure Generates (t : FileTree) (environment : Option String) (target : Target)
    (plan : SchemaPlan) : Prop where
  exit : (t.run environment ["generate"]).1.exitCode = 0
  one : ∃ tidings, result (generate FileTree.disk environment none {}) t = .ok tidings ∧
    tidings.generated = 1
  code : (t.run environment ["generate"]).2.readText (Path.join "Generated" target.fileName) =
    some (Code.unit {} target plan)

theorem checks_tree_iff (hn : nameError? name = none)
    (hs : FileTree.isName (name ++ ".json") = true) (environment : Option String) :
    Checks (tree name) environment ↔ Path.isHidden name = false := by
  have hp := prediction_tree hn hs environment
  refine ⟨fun h => (exitCode_check_tree hn hs environment).mp h.exit, fun hh => ?_⟩
  have hexit := (exitCode_check_tree hn hs environment).mpr hh
  refine ⟨hexit, _, hp.checked, ?_⟩
  rw [← Tidings.exitCode_eq_zero_iff, exitCode_of_prepared (prepared_tree hn hs environment)]
  exact (every_target_iff hn).mpr hh

theorem generates_tree_iff (hn : nameError? name = none)
    (hs : FileTree.isName (name ++ ".json") = true) (environment : Option String) :
    Generates (tree name) environment (target name) plan ↔ Path.isHidden name = false ∧
      FileTree.isName (className name ++ "Context.g.cs") = true := by
  refine ⟨fun h => (exitCode_generate_tree hn hs environment).mp h.exit, fun ⟨hh, hf⟩ => ?_⟩
  have hexit := (exitCode_generate_tree hn hs environment).mpr ⟨hh, hf⟩
  obtain ⟨written, _, _, hg⟩ := exists_gives_generate hn hs environment hh hf
  refine ⟨hexit, ⟨_, hg.result_eq, ?_⟩, (readText_generate_tree hn hs environment hexit).2⟩
  show (preparedStarter name).units.length = 1
  rw [units_of_found hn hh]
  rfl

/-- A project that is started in an empty directory works right away if its schema is not hidden
and the file of its class can be named. -/
theorem new_project_works_iff {environment level : Option String} {args : List String}
    (later : Option String) (hargs : Arguments.request? none args = some (.start level name none))
    (hstart : (FileTree.run {} environment args).1.exitCode = 0) :
    let t := (FileTree.run {} environment args).2
    (t.readText Manifest.fileName).bind Manifest.ofToml? = some (manifest name) ∧
      (Checks t later ↔ Path.isHidden name = false) ∧
      (Generates t later (target name) plan ↔ Path.isHidden name = false ∧
        FileTree.isName (className name ++ "Context.g.cs") = true) := by
  intro t
  have hrun : FileTree.run {} environment args =
      FileTree.request {} environment (.start level name none) := by
    rw [FileTree.run_eq, hargs]
  rw [hrun] at hstart
  obtain ⟨-, hn, hs⟩ := request_start_iff.mp hstart
  have ht : t = tree name := (congrArg Prod.snd hrun).trans (tree_start hstart)
  rw [ht, readText_manifest, Option.bind_some, ofToml?_manifestText hn]
  exact ⟨rfl, checks_tree_iff hn hs later, generates_tree_iff hn hs later⟩

theorem blog_works :
    let args := ["init"]
    (FileTree.run {} none args).1.exitCode = 0 ∧
      Checks (FileTree.run {} none args).2 none ∧
      Generates (FileTree.run {} none args).2 none (target "blog") plan := by
  intro args
  have hargs : Arguments.request? none args = some (.start none "blog" none) := by decide
  have hstart : (FileTree.run {} none args).1.exitCode = 0 := by
    rw [FileTree.run_eq, hargs]
    exact request_start_iff.mpr ⟨⟨_, rfl⟩, by decide, by decide⟩
  obtain ⟨-, hchecks, hgenerates⟩ := new_project_works_iff none hargs hstart
  exact ⟨hstart, hchecks.mpr (by decide), hgenerates.mpr (by decide)⟩

/-- A name that starts with a point is accepted, and the schema is hidden then. -/
theorem hidden_blog_fails :
    let args := ["init", "-n", ".blog"]
    (FileTree.run {} none args).1.exitCode = 0 ∧
      ((FileTree.run {} none args).2.run none ["check"]).1.exitCode ≠ 0 := by
  intro args
  have hargs : Arguments.request? none args = some (.start none ".blog" none) := by decide
  have hn : nameError? ".blog" = none := by decide
  have hs : FileTree.isName (".blog" ++ ".json") = true := by decide
  have hstart : (FileTree.request {} none (.start none ".blog" none)).1.exitCode = 0 :=
    request_start_iff.mpr ⟨⟨_, rfl⟩, hn, hs⟩
  rw [FileTree.run_eq, hargs]
  refine ⟨hstart, ?_⟩
  dsimp only
  rw [tree_start hstart, ne_eq, exitCode_check_tree hn hs]
  decide

end Command

end EntityGen
