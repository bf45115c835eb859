import EntityGen.Proofs.Command.Prediction
import EntityGen.Proofs.Command.Rediscovery
import EntityGen.Proofs.Files.Detours

/-! # Generating twice

The files of units are no schemas and no manifest, so a second run prepares what the first one has
prepared, finds every file as it should be and writes nothing.
-/

namespace EntityGen.Command

variable {t t' : FileTree} {environment level : Option String} {path : String}
  {options : GenerateOptions} {p : Prepared}

/-- The files of units have names of files of code. -/
theorem isCodePlace_of_isFilePlace {directory : String} {place : List String}
    (hp : prepared t environment level path = .ok p)
    (h : IsFilePlace t' (p.units.map (unitFile directory)) place) :
    FileTree.IsCodePlace place := by
  obtain ⟨file, hm, hplace⟩ := h
  obtain ⟨unit, hu, rfl⟩ := List.mem_map.mp hm
  obtain ⟨he, hf⟩ := (fileNames_of_prepared hp).1 unit hu
  obtain ⟨d, -, rfl⟩ := FileTree.place?_join (isPlain_of_prepared hp unit hu) hplace
  rw [hf, Target.parts_fileName he, ← List.append_assoc]
  refine ⟨_, _, rfl, ?_⟩
  rw [String.toList_append]
  exact List.suffix_append _ _

/-- The tree after units were written, and what writing them has told. -/
theorem saves_of_generate {tidings : Tidings} (hs : options.stdout = false)
    (hp : prepared t environment level (options.manifest.getD Manifest.fileName) = .ok p)
    (h : result (generate FileTree.disk environment level options) t = .ok tidings) :
    tidings = { p.tidings with written := tidings.written } ∧
      Saves (p.units.map (unitFile (options.directory p.project))) t (.ok ())
        (t.request environment (.generate level options)).2 := by
  obtain ⟨r, texts, t', hg, hsaves⟩ := exists_generate options hs hp
  rw [hg.result_eq] at h
  rw [hg.tree_generate]
  cases r with
  | error e => cases h
  | ok written =>
    obtain rfl := Except.ok.inj h
    exact ⟨rfl, hsaves.grows, nofun, fun _ _ => hsaves.saved written rfl⟩

theorem generate_again {tidings : Tidings} (hnamed : t.IsNamed) (hs : options.stdout = false)
    (hpath : ¬ ".g.cs".toList <:+ (options.manifest.getD Manifest.fileName).toList)
    (hp : prepared t environment level (options.manifest.getD Manifest.fileName) = .ok p)
    (h : result (generate FileTree.disk environment level options) t = .ok tidings)
    (hreach : KeepsInReach t (t.request environment (.generate level options)).2
      p.project.schemaDir) :
    let t' := (t.request environment (.generate level options)).2
    result (generate FileTree.disk environment level options) t' =
        .ok { tidings with written := 0 } ∧
      (t'.request environment (.generate level options)).1.exitCode =
        (t.request environment (.generate level options)).1.exitCode ∧
      (t'.request environment (.generate level options)).2 = t' := by
  intro t'
  obtain ⟨htidings, hsaves⟩ := saves_of_generate hs hp h
  have hgrows : FileTree.Grows FileTree.IsCodePlace t t' :=
    hsaves.grows.mono fun _ => isCodePlace_of_isFilePlace hp
  have hp' := prepared_grows hgrows hnamed hpath hp hreach
  have hread : ∀ unit ∈ p.units,
      t'.readText (Path.join (options.directory p.project) unit.fileName) = some unit.code :=
    fun unit hm => hsaves.readText_unit hm
  have hg := gives_generate_of_written options hs hp' (observes_writeUnits hread)
  refine ⟨?_, ?_, hg.tree_generate⟩
  · rw [hg.result_eq, htidings]
  · rw [exitCode_generate, exitCode_generate, hg.result_eq, h, htidings]
    rfl

/-! ## A project that is reached by detours -/

/-- A path through the schema directory and out again, of the given size. -/
structure IsDetour (size : Nat) (a : String) : Prop where
  ascii : Text.Ascii a.toList
  place? : ∀ t path, FileTree.isDirectory t ["schemas"] = true → path ≠ "" →
    Path.isAbsolute path = false → t.place? (a ++ path) =
      if size + path.utf8ByteSize ≤ FileTree.longestPath then t.follow? path else none

theorem isDetour_detour (k : Nat) : IsDetour (11 * k) (Path.detour "schemas" k) := by
  refine ⟨Path.ascii_detour (by decide) k, fun t path h hp hr => ?_⟩
  have hsize : "schemas".utf8ByteSize + 4 = 11 := by decide
  have hplace := FileTree.place?_detour (by decide) (by decide) h k hp hr
  rwa [hsize] at hplace

def jsonManifestText : String :=
  "[[target]]\nclass_name = \"A\"\nnamespace = \"App.json\"\nsource = \"a.json\"\n"

def jsonTarget : Target := ⟨"A", "App.json", "a.json"⟩

def jsonTree : FileTree := ⟨[
  (["schemagen.toml"], .file (.text jsonManifestText)),
  (["schemas", "a.json"], .file (.text "\x7b\x7d"))]⟩

def jsonTreeWith (code : String) : FileTree := ⟨[
  (["schemagen.toml"], .file (.text jsonManifestText)),
  (["schemas", "a.json"], .file (.text "\x7b\x7d")),
  (["schemas", "App.json"], .directory),
  (["schemas", "App.json", "A.g.cs"], .file (.text code))]⟩

/-- Reaches the manifest by a detour and writes next to the schema. -/
def jsonOptions (a : String) : GenerateOptions :=
  { manifest := some (a ++ "schemas/../schemagen.toml"), output := some "schemas" }

def jsonProject (a : String) : LoadedProject :=
  ⟨{ targets := [jsonTarget] }, a ++ "schemas/.."⟩

def jsonResource (a : String) : Resource :=
  ⟨withSlashes (a ++ ("schemas/../schemas" ++ "/" ++ "a.json")), "\x7b\x7d"⟩

section Detour

variable {a : String} {size : Nat}

theorem IsDetour.place?_eq (ha : IsDetour size a) (hsize : size ≤ 4070) {t : FileTree}
    {path : String} {place : List String} (h : t.isDirectory ["schemas"] = true)
    (hp : path ≠ "" ∧ Path.isAbsolute path = false ∧ path.utf8ByteSize ≤ 25)
    (hf : t.follow? path = some place) : t.place? (a ++ path) = some place := by
  have hlong : FileTree.longestPath = 4095 := rfl
  rw [ha.place? t path h hp.1 hp.2.1, if_pos (by omega), hf]

theorem isDirectory_jsonTree : jsonTree.isDirectory ["schemas"] = true := by
  decide

theorem parent_append (a : String) :
    Path.parent (a ++ "schemas/../schemagen.toml") = a ++ "schemas/.." := by
  have hpath : a ++ "schemas/../schemagen.toml" = a ++ "schemas/.." ++ "/" ++ "schemagen.toml" := by
    rw [String.append_assoc, String.append_assoc]
    rfl
  have hbase : (a ++ "schemas/..").toList.reverse =
      '.' :: ("./samehcs".toList ++ a.toList.reverse) := by
    rw [String.toList_append, List.reverse_append]
    rfl
  rw [hpath]
  exact Path.parent_append_slash hbase (by decide) rfl rfl (by decide) (by decide)

theorem schemaDir_jsonProject (a : String) :
    (jsonProject a).schemaDir = a ++ "schemas/../schemas" := by
  have hj : Path.join (a ++ "schemas/..") "schemas" = a ++ ("schemas/.." ++ "/" ++ "schemas") :=
    Path.join_append a (by decide) (by decide)
  exact hj

theorem loaded_jsonProject (ha : IsDetour size a) (hsize : size ≤ 4070) :
    loaded none none (a ++ "schemas/../schemagen.toml")
      (jsonTree.readText (a ++ "schemas/../schemagen.toml")) = .ok (jsonProject a) := by
  have hp : jsonTree.place? (a ++ "schemas/../schemagen.toml") = some ["schemagen.toml"] :=
    ha.place?_eq hsize isDirectory_jsonTree (by decide) (by decide +kernel)
  have hr : jsonTree.readText (a ++ "schemas/../schemagen.toml") = some jsonManifestText := by
    rw [FileTree.readText, hp]
    decide +kernel
  have hm : Manifest.ofToml? jsonManifestText = some { targets := [jsonTarget] } := by
    decide +kernel
  have hv : Manifest.error? { targets := [jsonTarget] } = none := by
    decide +kernel
  have hvalid : validated (a ++ "schemas/../schemagen.toml") { targets := [jsonTarget] } =
      .ok (jsonProject a) := by
    rw [validated, hv, parent_append]
    rfl
  rw [hr, loaded, manifestOf, hm]
  exact hvalid

theorem discover_jsonProject (ha : IsDetour size a) (hsize : size ≤ 4070) :
    jsonTree.discover (jsonProject a).schemaDir = .ok [jsonResource a] := by
  have hroot : jsonTree.place? (a ++ "schemas/../schemas") = some ["schemas"] :=
    ha.place?_eq hsize isDirectory_jsonTree (by decide) (by decide +kernel)
  have hplace : jsonTree.place? (a ++ ("schemas/../schemas" ++ "/" ++ "a.json")) =
      some ["schemas", "a.json"] :=
    ha.place?_eq hsize isDirectory_jsonTree (by decide) (by decide +kernel)
  have hjoin : Path.join (a ++ "schemas/../schemas") "a.json" =
      a ++ ("schemas/../schemas" ++ "/" ++ "a.json") :=
    Path.join_append a (by decide) (by decide)
  have hd : leadsToDirectory jsonTree (a ++ "schemas/../schemas") = true :=
    leadsToDirectory_iff.mpr ⟨_, hroot, isDirectory_jsonTree⟩
  have hfile : leadsToDirectory jsonTree (Path.join (a ++ "schemas/../schemas") "a.json") =
      false := by
    rw [hjoin, leadsToDirectory, hplace]
    decide
  have hnames : listed jsonTree (a ++ "schemas/../schemas") = some ["a.json"] := by
    rw [listed, hroot]
    decide
  have hread : jsonTree.readText (Path.join (a ++ "schemas/../schemas") "a.json") =
      some "\x7b\x7d" := by
    rw [hjoin, FileTree.readText, hplace]
    decide +kernel
  rw [schemaDir_jsonProject, discover_of_listed_file hnames hd (by decide) (by decide) hfile hread,
    hjoin]
  rfl

theorem endsWith_jsonResource (ha : IsDetour size a) :
    (jsonResource a).endsWith "a.json" = true := by
  have hslash : ∀ cs : List Char, Text.Ascii cs →
      Text.Ascii (cs.map fun c => if c = '\\' then '/' else c) := by
    intro cs h c hc
    obtain ⟨d, hd, rfl⟩ := List.mem_map.mp hc
    split
    · decide
    · exact h d hd
  have hall : Text.Ascii (a ++ ("schemas/../schemas" ++ "/" ++ "a.json")).toList := by
    rw [String.toList_append]
    exact Text.ascii_append.mpr ⟨ha.ascii, by decide⟩
  have hpath : (jsonResource a).path.toList =
      (a ++ ("schemas/../schemas" ++ "/" ++ "a.json")).toList.map
        fun c => if c = '\\' then '/' else c :=
    String.toList_ofList
  rw [Resource.endsWith, Resource.normalize, Resource.normalize, hpath,
    Text.lowercase_ascii (hslash _ (hslash _ hall)), String.toList_append, List.map_append,
    List.map_append, List.map_append, Bool.and_eq_true, List.isSuffixOf_iff_suffix]
  exact ⟨by decide, List.IsSuffix.trans (by decide) (List.suffix_append _ _)⟩

theorem exists_jsonUnit (ha : IsDetour size a) :
    ∃ unit, ((jsonProject a).pass [jsonResource a]).units = [unit] ∧
      unit.fileName = "App.json/A.g.cs" := by
  have hparse : jsonParser (jsonResource a) = .ok {} := by
    have hj : Database.ofJson "\x7b\x7d" = .ok {} := by decide +kernel
    rw [jsonParser, jsonResource, hj]
    rfl
  exact ⟨_, Generator.run_singleton_of_plan _ _ _
    (Target.resolve_singleton (endsWith_jsonResource ha)) hparse rfl, rfl⟩

theorem gives_write_json {unit : GeneratedUnit} (hf : unit.fileName = "App.json/A.g.cs") :
    Gives (writeUnits FileTree.disk "schemas" [unit]) jsonTree (.ok 1) []
      (jsonTreeWith unit.code) := by
  have hpath : Path.join "schemas" unit.fileName = "schemas/App.json/A.g.cs" := by
    rw [hf]
    decide +kernel
  have hnone : jsonTree.readText "schemas/App.json/A.g.cs" = none := by decide +kernel
  have hparent : Path.parent "schemas/App.json/A.g.cs" = "schemas/App.json" := by decide +kernel
  have hcreated : jsonTree.createDirectories "schemas/App.json" =
      (true, jsonTree.setNode ["schemas", "App.json"] .directory) := by decide +kernel
  have hplace : (jsonTree.setNode ["schemas", "App.json"] .directory).place?
      "schemas/App.json/A.g.cs" = some ["schemas", "App.json", "A.g.cs"] := by decide +kernel
  have hwrite : (jsonTree.setNode ["schemas", "App.json"] .directory).writeText
      "schemas/App.json/A.g.cs" unit.code = (true, jsonTreeWith unit.code) := by
    rw [FileTree.writeText, hplace]
    rfl
  have hunit : Gives (writeUnit FileTree.disk "schemas" unit) jsonTree (.ok true) []
      (jsonTreeWith unit.code) := by
    rw [writeUnit_eq]
    dsimp only
    rw [hpath]
    refine (observes_readText _ _).then_gives ?_
    rw [hnone, if_neg (by simp)]
    exact gives_saveUnit (by rw [hpath, hparent]; exact hcreated) (by rw [hpath]; exact hwrite)
  have hrest : Observes (writeUnits FileTree.disk "schemas" []) (jsonTreeWith unit.code) (.ok 0) :=
    observes_writeUnits (List.forall_mem_nil _)
  rw [writeUnits]
  exact hunit.bind (hrest.bind (.pure _))

theorem prepared_json (ha : IsDetour size a) (hsize : size ≤ 4070) :
    prepared jsonTree none none ((jsonOptions a).manifest.getD Manifest.fileName) =
      .ok ((jsonProject a).prepared [jsonResource a]) :=
  prepared_of_discover (loaded_jsonProject ha hsize) (discover_jsonProject ha hsize)

/-- The first run writes the code of the target. -/
theorem exists_json_generate (ha : IsDetour size a) (hsize : size ≤ 4070) :
    ∃ tidings code, tidings.written = 1 ∧
      result (generate FileTree.disk none none (jsonOptions a)) jsonTree = .ok tidings ∧
      (jsonTree.request none (.generate none (jsonOptions a))).2 = jsonTreeWith code := by
  obtain ⟨unit, hunits, hf⟩ := exists_jsonUnit ha
  have hprep : ((jsonProject a).prepared [jsonResource a]).units = [unit] := hunits
  have hg := gives_generate_of_written (jsonOptions a) rfl (prepared_json ha hsize)
    (hprep ▸ gives_write_json hf)
  exact ⟨_, unit.code, rfl, hg.result_eq, hg.tree_generate⟩

/-- Once the directory named like a schema is there and out of reach, it stops discovery. -/
theorem discover_json_ne_ok {t' : FileTree} (ha : IsDetour size a) (hsize : size ≤ 4070)
    (hfar : FileTree.longestPath < size + 27)
    (hg : FileTree.Grows FileTree.IsCodePlace jsonTree t')
    (hm : "App.json" ∈ t'.names ["schemas"]) (resources : List Resource) :
    t'.discover (jsonProject a).schemaDir ≠ .ok resources := by
  have hdir := hg.isDirectory isDirectory_jsonTree
  have happ : ("schemas/../schemas" ++ "/" ++ "App.json").utf8ByteSize = 27 := by decide
  rw [schemaDir_jsonProject]
  refine discover_ne_ok ?_ hm (by decide) (by decide) ?_
  · exact ha.place?_eq hsize hdir (by decide) (hg.follow? (by decide +kernel))
  · rw [Path.join_append a (by decide) (by decide), ha.place? _ _ hdir (by decide) (by decide),
      if_neg (by omega)]

/-- The second run fails when the new directory is out of reach. -/
theorem exists_json_generate_again (ha : IsDetour size a) (hsize : size ≤ 4070)
    (hfar : FileTree.longestPath < size + 27) :
    ∃ e, result (generate FileTree.disk none none (jsonOptions a))
      (jsonTree.request none (.generate none (jsonOptions a))).2 = .error e := by
  obtain ⟨tidings, code, -, hresult, htree⟩ := exists_json_generate ha hsize
  have hp := prepared_json ha hsize
  obtain ⟨-, hs⟩ := saves_of_generate rfl hp hresult
  have hgrows := hs.grows.mono fun _ => isCodePlace_of_isFilePlace hp
  cases hp' : prepared (jsonTree.request none (.generate none (jsonOptions a))).2 none none
      ((jsonOptions a).manifest.getD Manifest.fileName) with
  | error e => exact ⟨e, (observes_generate_of_error (jsonOptions a) hp').result_eq⟩
  | ok p =>
    obtain ⟨project, resources, hl, hd, -⟩ := prepared_eq_ok hp'
    have hmanifest : ¬ ".g.cs".toList <:+ (a ++ "schemas/../schemagen.toml").toList := by
      refine Path.not_suffix_of_getLast? (c := 'l') ?_ (by decide)
      rw [String.toList_append, List.getLast?_append_of_ne_nil _ (by decide)]
      rfl
    obtain rfl := Except.ok.inj
      ((loaded_grows hgrows hmanifest (loaded_jsonProject ha hsize)).symm.trans hl)
    refine absurd hd (discover_json_ne_ok ha hsize hfar hgrows ?_ resources)
    rw [htree]
    refine FileTree.mem_names_iff.mpr ⟨(["schemas", "App.json"], .directory), ?_, List.prefix_rfl⟩
    simp [jsonTreeWith]

end Detour

theorem json_generate_again : ∃ tidings,
    result (generate FileTree.disk none none (jsonOptions "")) jsonTree = .ok tidings ∧
      tidings.written = 1 ∧
      let t' := (jsonTree.request none (.generate none (jsonOptions ""))).2
      result (generate FileTree.disk none none (jsonOptions "")) t' =
          .ok { tidings with written := 0 } ∧
        (t'.request none (.generate none (jsonOptions ""))).1.exitCode =
          (jsonTree.request none (.generate none (jsonOptions ""))).1.exitCode ∧
        (t'.request none (.generate none (jsonOptions ""))).2 = t' := by
  have ha : IsDetour 0 "" := isDetour_detour 0
  obtain ⟨tidings, code, hwritten, hresult, htree⟩ := exists_json_generate ha (by decide)
  refine ⟨tidings, hresult, hwritten, generate_again (by decide) rfl (by decide)
    (prepared_json ha (by decide)) hresult ?_⟩
  have hroot : ((jsonProject "").prepared [jsonResource ""]).project.schemaDir =
      "" ++ "schemas/../schemas" := schemaDir_jsonProject ""
  have hshort : ∀ place ∈ (jsonTreeWith code).entries.map (·.1),
      ("" ++ "schemas/../schemas").utf8ByteSize + sizeOfParts place ≤ FileTree.longestPath := by
    rw [show (jsonTreeWith code).entries.map (·.1) = [["schemagen.toml"], ["schemas", "a.json"],
      ["schemas", "App.json"], ["schemas", "App.json", "A.g.cs"]] from rfl]
    decide
  rw [htree, hroot]
  exact keepsInReach_of_size fun e he => hshort e.1 (List.mem_map_of_mem he)

/-- A directory named like a schema that is out of reach is taken for a schema. -/
theorem json_generate_fails_again :
    let options := jsonOptions (Path.detour "schemas" 370)
    (∃ tidings, result (generate FileTree.disk none none options) jsonTree = .ok tidings) ∧
      ∃ e, result (generate FileTree.disk none none options)
        (jsonTree.request none (.generate none options)).2 = .error e := by
  have ha : IsDetour (11 * 370) (Path.detour "schemas" 370) := isDetour_detour 370
  obtain ⟨tidings, _, -, hresult, -⟩ := exists_json_generate ha (by decide)
  exact ⟨⟨tidings, hresult⟩, exists_json_generate_again ha (by decide) (by decide)⟩

end EntityGen.Command
